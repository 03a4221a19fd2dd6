import PwdNow.Kit.Js

/-!
# Kit — a text for every value

`Js.spell` writes a value so that the text shows where the value ends (`spell_append_inj`). It
stands in for `JSON.stringify` where a text has to be computed and its format does not matter:
`Js.spellJson` is the text of what JSON makes of an object. Values are compared by their texts.
-/

namespace Kit

open List

namespace Js

def spellNat (n : ℕ) : List Char := replicate n '1' ++ ['0']

def spellChars : List Char → List Char
  | [] => ['0']
  | c :: rest => '1' :: c :: spellChars rest

def spellBytes : Bytes → List Char
  | [] => ['0']
  | b :: rest => '1' :: (spellNat b.toNat ++ spellBytes rest)

mutual

def spell : Js → List Char
  | null => ['n']
  | bool false => ['f']
  | bool true => ['t']
  | number n => 'd' :: spellNat n
  | string s => 's' :: spellChars s.toList
  | array elements => 'a' :: spellElements elements
  | object fields => 'o' :: spellFields fields
  | uint8Array bytes => 'u' :: spellBytes bytes
  | buffer bytes => 'b' :: spellBytes bytes

def spellElements : List Js → List Char
  | [] => ['0']
  | v :: rest => '1' :: (spell v ++ spellElements rest)

def spellFields : List (String × Js) → List Char
  | [] => ['0']
  | (key, v) :: rest => '1' :: (spellChars key.toList ++ (spell v ++ spellFields rest))

end

variable {p q : List Char}

theorem spellNat_append_inj {n m : ℕ} (h : spellNat n ++ p = spellNat m ++ q) : n = m ∧ p = q := by
  induction n generalizing m with
  | zero =>
    cases m with
    | zero => simpa [spellNat] using h
    | succ m => simp [spellNat, replicate_succ] at h
  | succ n ih =>
    cases m with
    | zero => simp [spellNat, replicate_succ] at h
    | succ m =>
      simp only [spellNat, replicate_succ, cons_append, cons.injEq, true_and] at h
      obtain ⟨rfl, hpq⟩ := ih h
      exact ⟨rfl, hpq⟩

theorem spellChars_append_inj {s t : List Char} (h : spellChars s ++ p = spellChars t ++ q) :
    s = t ∧ p = q := by
  induction s generalizing t with
  | nil =>
    cases t with
    | nil => simpa [spellChars] using h
    | cons d t => simp [spellChars] at h
  | cons c s ih =>
    cases t with
    | nil => simp [spellChars] at h
    | cons d t =>
      simp only [spellChars, cons_append, cons.injEq, true_and] at h
      obtain ⟨rfl, h⟩ := h
      obtain ⟨rfl, hpq⟩ := ih h
      exact ⟨rfl, hpq⟩

theorem spellBytes_append_inj {s t : Bytes} (h : spellBytes s ++ p = spellBytes t ++ q) :
    s = t ∧ p = q := by
  induction s generalizing t with
  | nil =>
    cases t with
    | nil => simpa [spellBytes] using h
    | cons d t => simp [spellBytes] at h
  | cons c s ih =>
    cases t with
    | nil => simp [spellBytes] at h
    | cons d t =>
      simp only [spellBytes, cons_append, append_assoc, cons.injEq, true_and] at h
      obtain ⟨hc, hrest⟩ := spellNat_append_inj h
      obtain ⟨rfl, hpq⟩ := ih hrest
      exact ⟨by rw [UInt8.toNat_inj.mp hc], hpq⟩

mutual

/-- The text shows where the value ends. One case per constructor of the first value; the first
character excludes the others for the second. -/
theorem spell_append_inj : (v w : Js) → (p q : List Char) → spell v ++ p = spell w ++ q →
    v = w ∧ p = q
  | null, w, p, q, h => by
    cases w with
    | null => simpa [spell] using h
    | bool b => cases b <;> simp [spell] at h
    | _ => simp [spell] at h
  | bool b, w, p, q, h => by
    cases w with
    | bool b' => cases b <;> cases b' <;> simp_all [spell]
    | _ => cases b <;> simp [spell] at h
  | number n, w, p, q, h => by
    cases w with
    | bool b => cases b <;> simp [spell] at h
    | number m =>
      obtain ⟨rfl, hpq⟩ := spellNat_append_inj (by simpa [spell] using h)
      exact ⟨rfl, hpq⟩
    | _ => simp [spell] at h
  | string s, w, p, q, h => by
    cases w with
    | bool b => cases b <;> simp [spell] at h
    | string t =>
      obtain ⟨hst, hpq⟩ := spellChars_append_inj (by simpa [spell] using h)
      exact ⟨congrArg string (String.toList_inj.mp hst), hpq⟩
    | _ => simp [spell] at h
  | array elements, w, p, q, h => by
    cases w with
    | bool b => cases b <;> simp [spell] at h
    | array elements' =>
      obtain ⟨rfl, hpq⟩ := spellElements_append_inj elements elements' p q (by simpa [spell] using h)
      exact ⟨rfl, hpq⟩
    | _ => simp [spell] at h
  | object fields, w, p, q, h => by
    cases w with
    | bool b => cases b <;> simp [spell] at h
    | object fields' =>
      obtain ⟨rfl, hpq⟩ := spellFields_append_inj fields fields' p q (by simpa [spell] using h)
      exact ⟨rfl, hpq⟩
    | _ => simp [spell] at h
  | uint8Array bytes, w, p, q, h => by
    cases w with
    | bool b => cases b <;> simp [spell] at h
    | uint8Array bytes' =>
      obtain ⟨rfl, hpq⟩ := spellBytes_append_inj (by simpa [spell] using h)
      exact ⟨rfl, hpq⟩
    | _ => simp [spell] at h
  | buffer bytes, w, p, q, h => by
    cases w with
    | bool b => cases b <;> simp [spell] at h
    | buffer bytes' =>
      obtain ⟨rfl, hpq⟩ := spellBytes_append_inj (by simpa [spell] using h)
      exact ⟨rfl, hpq⟩
    | _ => simp [spell] at h

theorem spellElements_append_inj : (vs ws : List Js) → (p q : List Char) →
    spellElements vs ++ p = spellElements ws ++ q → vs = ws ∧ p = q
  | [], [], p, q, h => by simpa [spellElements] using h
  | [], w :: ws, p, q, h => by simp [spellElements] at h
  | v :: vs, [], p, q, h => by simp [spellElements] at h
  | v :: vs, w :: ws, p, q, h => by
    simp only [spellElements, cons_append, append_assoc, cons.injEq, true_and] at h
    obtain ⟨rfl, hrest⟩ := spell_append_inj v w _ _ h
    obtain ⟨rfl, hpq⟩ := spellElements_append_inj vs ws p q hrest
    exact ⟨rfl, hpq⟩

theorem spellFields_append_inj : (vs ws : List (String × Js)) → (p q : List Char) →
    spellFields vs ++ p = spellFields ws ++ q → vs = ws ∧ p = q
  | [], [], p, q, h => by simpa [spellFields] using h
  | [], (_, _) :: ws, p, q, h => by simp [spellFields] at h
  | (_, _) :: vs, [], p, q, h => by simp [spellFields] at h
  | (key, v) :: vs, (key', w) :: ws, p, q, h => by
    simp only [spellFields, cons_append, append_assoc, cons.injEq, true_and] at h
    obtain ⟨hkey, hfield⟩ := spellChars_append_inj h
    obtain ⟨rfl, hrest⟩ := spell_append_inj v w _ _ hfield
    obtain ⟨rfl, hpq⟩ := spellFields_append_inj vs ws p q hrest
    exact ⟨by rw [String.toList_inj.mp hkey], hpq⟩

end

instance : DecidableEq Js := fun v w =>
  decidable_of_iff (spell v = spell w)
    ⟨fun h => (spell_append_inj v w [] [] (by rw [h])).1, congrArg spell⟩

def spellJson (fields : Fields) : String := String.ofList (spellFields (jsonFields fields))

theorem spellJson_jsonFields (fields : Fields) :
    spellJson (jsonFields fields) = spellJson fields := by
  rw [spellJson, spellJson, jsonFields_jsonFields]

theorem spellJson_append_inj {fields fields' : Fields} {p q : String}
    (h : spellJson fields ++ p = spellJson fields' ++ q) :
    jsonFields fields = jsonFields fields' ∧ p = q := by
  have hlist := congrArg String.toList h
  rw [String.toList_append, String.toList_append, spellJson, spellJson, String.toList_ofList,
    String.toList_ofList] at hlist
  obtain ⟨hfields, hpq⟩ := spellFields_append_inj _ _ _ _ hlist
  exact ⟨hfields, String.toList_inj.mp hpq⟩

end Js

end Kit
