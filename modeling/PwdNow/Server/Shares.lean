import PwdNow.Server.Wipe

/-!
# Server — the lifetime of a share

`GET /api/share/:shareId` of `web/routes/vaultRoutes.js`, on the record that `POST /api/vault/shares`
has written. It compares the clock with `expiresAt`; a text that is no numeral compares as `NaN`,
which is never exceeded.
-/

namespace PwdNow.Server

open Kit

namespace Vaults

/-- `now > expiresAt`. -/
def pastExpiry (now : Nat) : Option Js → Bool
  | some (.number n) => now > n
  | some (.string s) => s.toList.all Char.isDigit && now > s.toNat?.getD 0
  | _ => false

/-- `record.viewed = true`. -/
def viewed : Js → Js
  | .object fields => .object (Js.setField "viewed" (.bool true) fields)
  | v => v

/-- The blob that is answered, if it is, and the record that is left. -/
def getShare (now : Nat) : Option Js → Option Js × Option Js
  | none => (none, none)
  | some record =>
    if pastExpiry now (record.get "expiresAt") then (none, none)
    else if Js.truthy (record.get "singleView") then
      if Js.truthy (record.get "viewed") then (none, some record)
      else (record.get "encryptedBlob", some (viewed record))
    else (record.get "encryptedBlob", some record)

/-- The record after the share was asked for at these times. -/
def afterViews : Option Js → List Nat → Option Js := run fun record now => (getShare now record).2

/-- From some instant on, at most seven days after `created`, nobody gets the blob, whoever asked
for it before. -/
def Expires (created : Nat) (record : Js) : Prop :=
  ∃ last ≤ created + 7 * 24 * 3600000, ∀ times now, last < now →
    (getShare now (afterViews (some record) times)).1 = none

/-- There is a record at most, and it has this expiry. -/
def ExpiresAt (v : Js) (record : Option Js) : Prop := ∀ r ∈ record, r.get "expiresAt" = some v

variable {record : Option Js} {v : Js}

/-- **A request** takes the record away, or leaves its expiry alone. -/
theorem ExpiresAt.getShare (h : ExpiresAt v record) (now : Nat) :
    ExpiresAt v (getShare now record).2 := by
  cases record with
  | none => exact h
  | some r =>
    have hr : r.get "expiresAt" = some v := h r rfl
    have hviewed : (viewed r).get "expiresAt" = some v := by
      cases r with
      | object fields => rw [viewed, Js.get_setField, if_neg (by decide), hr]
      | _ => exact hr
    rw [Vaults.getShare, ExpiresAt]
    split_ifs <;> simp [hr, hviewed]

theorem ExpiresAt.afterViews (h : ExpiresAt v record) (times : List Nat) :
    ExpiresAt v (afterViews record times) := by
  induction times generalizing record with
  | nil => exact h
  | cons now times ih => exact ih (h.getShare now)

theorem ExpiresAt.getShare_none {n now : Nat} (h : ExpiresAt (.number n) record) (hn : n < now) :
    (Vaults.getShare now record).1 = none := by
  cases record with
  | none => rfl
  | some r =>
    have hpast : pastExpiry now (r.get "expiresAt") = true := by
      rw [h r rfl]
      exact decide_eq_true hn
    rw [Vaults.getShare, if_pos hpast]

variable {body : Js} {encryptedBlob iv : String} {i : VaultsInput}

theorem shareExpiry_number (now : Nat) {ttl : Option Js} (h : inheritedText (ttlName ttl) = none) :
    ∃ n ≤ now + 7 * 24 * 3600000, shareExpiry now ttl = .number n := by
  unfold shareExpiry
  rw [h]
  split_ifs
  · exact ⟨_, by omega, rfl⟩
  · exact ⟨_, le_rfl, rfl⟩
  · exact ⟨_, by omega, rfl⟩

theorem pastExpiry_inherited (now created : Nat) {ttl : Option Js} {text : String}
    (h : inheritedText (ttlName ttl) = some text) :
    pastExpiry now (some (shareExpiry created ttl)) = false := by
  have hexpiry : shareExpiry created ttl = .string (toString created ++ text) := by
    unfold shareExpiry
    split_ifs with h₁ h₂
    · rw [h₁] at h
      cases h
    · rw [h₂] at h
      cases h
    · rw [h]
  -- the text begins with a letter or a bracket
  have hletter : text.toList.all Char.isDigit = false := by
    unfold inheritedText at h
    split_ifs at h <;> cases h
    · decide
    · decide
    · simp
  rw [hexpiry, pastExpiry, String.toList_append, List.all_append, hletter]
  simp

theorem shareRecord_expiresAt : (shareRecord body encryptedBlob iv i).get "expiresAt" =
    some (shareExpiry i.now (body.get "ttl")) := by
  simp [shareRecord, Js.get]

theorem getShare_fresh {now : Nat} (h : pastExpiry now (some (shareExpiry i.now (body.get "ttl"))) =
    false) : (getShare now (some (shareRecord body encryptedBlob iv i))).1 =
      some (.string encryptedBlob) := by
  have hviewed : Js.truthy ((shareRecord body encryptedBlob iv i).get "viewed") = false := by
    simp [shareRecord, Js.get, Js.truthy]
  have hblob : (shareRecord body encryptedBlob iv i).get "encryptedBlob" =
      some (.string encryptedBlob) := by
    simp [shareRecord, Js.get]
  simp only [getShare, shareRecord_expiresAt, h, hviewed, hblob, Bool.false_eq_true, if_false]
  split_ifs <;> rfl

/-- **A share expires within seven days exactly if its lifetime is not inherited.** -/
theorem share_expires_iff (body : Js) (encryptedBlob iv : String) (i : VaultsInput) :
    Expires i.now (shareRecord body encryptedBlob iv i) ↔
      inheritedText (ttlName (body.get "ttl")) = none := by
  constructor
  · rintro ⟨last, -, hnever⟩
    by_contra hinherited
    obtain ⟨text, htext⟩ := Option.ne_none_iff_exists'.mp hinherited
    have hfresh := hnever [] (last + 1) (Nat.lt_succ_self last)
    rw [afterViews, run_nil, getShare_fresh (pastExpiry_inherited _ _ htext)] at hfresh
    cases hfresh
  · intro h
    obtain ⟨n, hn, hexpiry⟩ := shareExpiry_number i.now h
    have hrecord : ExpiresAt (.number n) (some (shareRecord body encryptedBlob iv i)) := by
      rintro _ ⟨⟩
      rw [shareRecord_expiresAt, hexpiry]
    exact ⟨n, hn, fun times now => (hrecord.afterViews times).getShare_none⟩

/-- A body with the lifetime `"constructor"`. -/
def inheritedBody : Js :=
  .object [("encryptedBlob", .string "c2VjcmV0"), ("iv", .string "aXY="),
    ("ttl", .string "constructor")]

def shareInput : VaultsInput := ⟨1700000000000, "00", false, none, none, true⟩

/-- **A share that never expires.** -/
theorem share_never_expires :
    ¬ Expires shareInput.now (shareRecord inheritedBody "c2VjcmV0" "aXY=" shareInput) := by
  rintro ⟨last, -, hnever⟩
  have hfresh := hnever [] (last + 1) (Nat.lt_succ_self last)
  rw [afterViews, run_nil, getShare_fresh (pastExpiry_inherited _ _ rfl)] at hfresh
  cases hfresh

end Vaults

end PwdNow.Server
