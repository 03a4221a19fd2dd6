import PwdNow.Kit.Bytes

/-!
# Kit — values of a JavaScript program

The values that cross between a browser and a server, typed arrays and `Buffer`s included, and what
the language does to them: `JSON.stringify` followed by `JSON.parse` (`Js.json`), `String(v)`
(`Js.text`), `new Uint8Array(v)` (`Js.octets`), `Object.values(v)` (`Js.values`). Numbers are
natural numbers. A property that is absent, or `undefined`, is `none`.
-/

namespace Kit

open List

inductive Js where
  | null
  | bool (b : Bool)
  | number (n : ℕ)
  | string (s : String)
  | array (elements : List Js)
  | object (fields : List (String × Js))
  | uint8Array (bytes : Bytes)
  | buffer (bytes : Bytes)

namespace Js

/-- `v[key]`, for a property of its own. -/
def get (key : String) : Js → Option Js
  | object fields => (fields.find? (·.1 = key)).map (·.2)
  | _ => none

/-- `Array.from(bytes)`. -/
def ofBytes (bytes : Bytes) : Js := array (bytes.map fun b => number b.toNat)

/-- The properties of a typed array: its elements, under their indices. -/
def indexed (bytes : Bytes) : List (String × Js) :=
  bytes.zipIdx.map fun p => (toString p.2, number p.1.toNat)

mutual

/-- `JSON.parse(JSON.stringify(v))`. -/
def json : Js → Js
  | null => null
  | bool b => bool b
  | number n => number n
  | string s => string s
  | array elements => array (jsonElements elements)
  | object fields => object (jsonFields fields)
  | uint8Array bytes => object (indexed bytes)
  | buffer bytes => object [("type", string "Buffer"), ("data", ofBytes bytes)]

def jsonElements : List Js → List Js
  | [] => []
  | v :: rest => json v :: jsonElements rest

def jsonFields : List (String × Js) → List (String × Js)
  | [] => []
  | (key, v) :: rest => (key, json v) :: jsonFields rest

end

mutual

/-- `String(v)`; `decode` is how a `Buffer` reads as text. -/
def text (decode : Bytes → String) : Js → String
  | null => "null"
  | bool b => toString b
  | number n => toString n
  | string s => s
  | array elements => ",".intercalate (texts decode elements)
  | object _ => "[object Object]"
  | uint8Array bytes => ",".intercalate (bytes.map fun b => toString b.toNat)
  | buffer bytes => decode bytes

def texts (decode : Bytes → String) : List Js → List String
  | [] => []
  -- `null` has no text as an element
  | null :: rest => "" :: texts decode rest
  | v :: rest => text decode v :: texts decode rest

end

/-- An element of a typed array: `Number(v)`, modulo 256. -/
def octet : Js → UInt8
  | number n => UInt8.ofNat n
  | bool b => UInt8.ofNat b.toNat
  | string s => UInt8.ofNat (s.toNat?.getD 0)
  | _ => 0

/-- `new Uint8Array(v)`: a copy, that many zeros, or what is under the indices. -/
def octets : Js → Bytes
  | array elements => elements.map octet
  | uint8Array bytes => bytes
  | buffer bytes => bytes
  | number n => replicate n 0
  | object fields =>
    match (object fields).get "length" with
    | some (number n) =>
      (range n).map fun i => ((object fields).get (toString i)).elim 0 octet
    | _ => []
  | _ => []

/-- `Object.values(v)`; `none` where it throws. -/
def values : Js → Option (List Js)
  | null => none
  | string s => some (s.toList.map fun c => string c.toString)
  | array elements => some elements
  | object fields => some (fields.map (·.2))
  | uint8Array bytes => some (bytes.map fun b => number b.toNat)
  | buffer bytes => some (bytes.map fun b => number b.toNat)
  | _ => some []

/-! ## Properties -/

variable {key : String} {keys : List String}

/-- The own properties of an object, in their order. -/
abbrev Fields := List (String × Js)

/-- `!!v`, for a value or `undefined`. -/
def truthy : Option Js → Bool
  | none => false
  | some null => false
  | some (bool b) => b
  | some (number n) => n != 0
  | some (string s) => s != ""
  | some _ => true

/-- `fields[key] = v`: in its place, or behind the others. -/
def setField (key : String) (v : Js) : Fields → Fields
  | [] => [(key, v)]
  | (k, w) :: rest => if k = key then (k, v) :: rest else (k, w) :: setField key v rest

/-- `{ ...fields, ...extra }`. -/
def spread (fields extra : Fields) : Fields :=
  extra.foldl (fun acc p => setField p.1 p.2 acc) fields

/-- What a pattern that takes out `keys` leaves: `const { …keys, ...rest } = fields`. -/
def without (keys : List String) (fields : Fields) : Fields :=
  fields.filter fun p => decide (p.1 ∉ keys)

/-- The properties named in `keys`. -/
def only (keys : List String) (fields : Fields) : Fields :=
  fields.filter fun p => decide (p.1 ∈ keys)

theorem get_append (fields extra : Fields) :
    (object (fields ++ extra)).get key = ((object fields).get key).or ((object extra).get key) := by
  rw [get, get, get, find?_append, Option.map_or]

theorem get_filter (p : String → Bool) (fields : Fields) :
    (object (fields.filter fun q => p q.1)).get key =
      if p key then (object fields).get key else none := by
  rw [get, get, find?_filter]
  by_cases hp : p key
  · have hpred : (fun q : String × Js => decide (p q.1 ∧ decide (q.1 = key) = true)) =
        fun q => decide (q.1 = key) := by
      funext q
      by_cases hq : q.1 = key <;> simp [hq, hp]
    rw [hpred, if_pos hp]
  · have hnone : fields.find? (fun q => decide (p q.1 ∧ decide (q.1 = key) = true)) = none := by
      rw [find?_eq_none]
      intro q _ hq
      simp only [decide_eq_true_eq] at hq
      exact hp (hq.2 ▸ hq.1)
    rw [hnone, if_neg hp]
    rfl

theorem get_without (fields : Fields) :
    (object (without keys fields)).get key =
      if key ∈ keys then none else (object fields).get key := by
  rw [without, get_filter fun k => decide (k ∉ keys)]
  simp

theorem get_only (fields : Fields) :
    (object (only keys fields)).get key = if key ∈ keys then (object fields).get key else none := by
  rw [only, get_filter fun k => decide (k ∈ keys)]
  simp

theorem get_setField (v : Js) (fields : Fields) (key' : String) :
    (object (setField key v fields)).get key' =
      if key' = key then some v else (object fields).get key' := by
  induction fields with
  | nil =>
    by_cases h : key' = key
    · simp [setField, get, h]
    · simp [setField, get, h, Ne.symm h]
  | cons p rest ih =>
    obtain ⟨k, w⟩ := p
    simp only [get] at ih ⊢
    unfold setField
    by_cases hk : k = key
    · subst hk
      by_cases h : key' = k
      · simp [h]
      · simp [h, Ne.symm h]
    · rw [if_neg hk, find?_cons, find?_cons]
      by_cases h : k = key'
      · have hne : ¬ key' = key := fun h' => hk (h.trans h')
        simp [h, hne]
      · simpa [h] using ih

variable {fields : Fields}

theorem mem_keys_setField {v : Js} {key' : String} (h : key' ∈ (setField key v fields).map (·.1)) :
    key' = key ∨ key' ∈ fields.map (·.1) := by
  induction fields with
  | nil => simpa [setField] using h
  | cons p rest ih =>
    obtain ⟨k, w⟩ := p
    unfold setField at h
    by_cases hk : k = key
    · rw [if_pos hk] at h
      exact Or.inr (by simpa using h)
    · rw [if_neg hk, map_cons, mem_cons] at h
      rcases h with rfl | h
      · exact Or.inr (by simp)
      · rcases ih h with h | h
        · exact Or.inl h
        · exact Or.inr (mem_cons_of_mem _ h)

theorem mem_keys_spread {extra : Fields} (h : key ∈ (spread fields extra).map (·.1)) :
    key ∈ fields.map (·.1) ∨ key ∈ extra.map (·.1) := by
  induction extra generalizing fields with
  | nil => exact Or.inl h
  | cons p extra ih =>
    rcases ih h with h | h
    · rcases mem_keys_setField h with rfl | h
      · exact Or.inr (by simp)
      · exact Or.inl h
    · exact Or.inr (mem_cons_of_mem _ h)

theorem get_eq_none (h : key ∉ fields.map (·.1)) : (object fields).get key = none := by
  have hfind : fields.find? (·.1 = key) = none := by
    rw [find?_eq_none]
    intro p hp hkey
    exact h (mem_map.mpr ⟨p, hp, of_decide_eq_true hkey⟩)
  rw [get, hfind]
  rfl

theorem without_setField (hkey : key ∈ keys) (v : Js) :
    without keys (setField key v fields) = without keys fields := by
  induction fields with
  | nil => simp [setField, without, hkey]
  | cons p rest ih =>
    obtain ⟨k, w⟩ := p
    simp only [without] at ih ⊢
    unfold setField
    by_cases hk : k = key
    · rw [if_pos hk, filter_cons, filter_cons]
      simp [hk, hkey]
    · rw [if_neg hk, filter_cons, filter_cons, ih]

theorem without_eq_self (h : ∀ key ∈ fields.map (·.1), key ∉ keys) :
    without keys fields = fields := by
  rw [without, filter_eq_self]
  intro p hp
  exact decide_eq_true (h p.1 (mem_map.mpr ⟨p, hp, rfl⟩))

theorem jsonFields_eq_map : jsonFields fields = fields.map fun p => (p.1, p.2.json) := by
  induction fields with
  | nil => rfl
  | cons p rest ih =>
    obtain ⟨k, v⟩ := p
    rw [jsonFields, ih]
    rfl

theorem without_jsonFields :
    without keys (jsonFields fields) = jsonFields (without keys fields) := by
  rw [jsonFields_eq_map, jsonFields_eq_map, without, without, filter_map]
  rfl

theorem get_jsonFields :
    (object (jsonFields fields)).get key = ((object fields).get key).map json := by
  rw [jsonFields_eq_map, get, get, find?_map]
  simp only [Option.map_map]
  rfl

theorem jsonElements_numbers (bytes : Bytes) :
    jsonElements (bytes.map fun b => number b.toNat) = bytes.map fun b => number b.toNat := by
  induction bytes with
  | nil => rfl
  | cons b rest ih =>
    rw [map_cons, jsonElements, ih]
    rfl

@[simp] theorem json_ofBytes (bytes : Bytes) : (ofBytes bytes).json = ofBytes bytes := by
  rw [ofBytes, json, jsonElements_numbers]

theorem jsonFields_indexed (bytes : Bytes) : jsonFields (indexed bytes) = indexed bytes := by
  rw [jsonFields_eq_map, indexed, map_map]
  rfl

mutual

theorem json_json : (v : Js) → v.json.json = v.json
  | null => rfl
  | bool _ => rfl
  | number _ => rfl
  | string _ => rfl
  | array elements => congrArg array (jsonElements_jsonElements elements)
  | object fields => congrArg object (jsonFields_jsonFields fields)
  | uint8Array bytes => congrArg object (jsonFields_indexed bytes)
  | buffer bytes => by simp [json, jsonFields]

theorem jsonElements_jsonElements :
    (elements : List Js) → jsonElements (jsonElements elements) = jsonElements elements
  | [] => rfl
  | v :: rest => congrArg₂ cons (json_json v) (jsonElements_jsonElements rest)

theorem jsonFields_jsonFields :
    (fields : List (String × Js)) → jsonFields (jsonFields fields) = jsonFields fields
  | [] => rfl
  | (key, v) :: rest =>
    congrArg₂ cons (congrArg (Prod.mk key) (json_json v)) (jsonFields_jsonFields rest)

end

theorem map_octet_numbers (bytes : Bytes) :
    (bytes.map fun b => number b.toNat).map octet = bytes := by
  rw [map_map]
  conv_rhs => rw [← map_id bytes]
  exact map_congr_left fun b _ => UInt8.ofNat_toNat

end Js

end Kit
