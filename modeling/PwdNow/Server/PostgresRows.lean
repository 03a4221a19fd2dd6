import PwdNow.Kit.Keyed
import PwdNow.Server.Repository

/-!
# Server — reading and writing rows

The operations of `PostgresVaultRepository` on tables whose ciphertexts are all under the key of
their user, with no other key in the cache (`PgRepo.Sound`). Reading then only warms the cache
(`Reads`), and a row shows the user that it was written for (`Stores.same`), up to the properties
that belong to Postgres.
-/

namespace PwdNow.Server

open Kit Fallible List Function

/-- The properties of a user that belong to Postgres. -/
def pgFields : List String :=
  ["wrappedDek", "kmsKeyId", "wrapMode", "pwWrapSalt", "status", "createdAt"]

/-- The same user, up to the properties that belong to Postgres. -/
structure RepoUser.Same (u v : RepoUser) : Prop where
  id : u.id = v.id
  emailHash : u.emailHash = v.emailHash
  field : ∀ key ∉ pgFields, u.field key = v.field key

/-- A user that the columns can hold: a `passwordHash`, a `cryptoSalt` that may be `null`, and no
property under the name of the sealed ones. -/
structure RepoUser.Storable (u : RepoUser) : Prop where
  passwordHash : ∃ hash, u.field "passwordHash" = some (.string hash)
  cryptoSalt : u.field "cryptoSalt" = some .null ∨ ∃ salt, u.field "cryptoSalt" = some (.string salt)
  sealed_ : u.field "_sealed" = none

/-- What decrypting gives, under the right key. -/
def SealedMeta.fields : SealedMeta → Js.Fields
  | .blob _ fields => fields
  | _ => []

def SealedMeta.Under (d : Dek) : SealedMeta → Prop
  | .absent => True
  | .blob key _ => key = d
  | .foreign => False

namespace PgRow

/-- The user of the row. -/
def user (r : PgRow) : RepoUser := r.toUser r.sealed_.fields

variable {r : PgRow} {key : String} {sealed_ : Js.Fields}

theorem field_toUser_of_base {v : Js} (hkey : key ∉ ["id", "emailHash"])
    (hv : (Js.object r.base).get key = some v) : (r.toUser sealed_).field key = some v := by
  rw [toUser, RepoUser.field_of, if_neg hkey, Js.get_append, hv, Option.some_or]

section

variable (r : PgRow) (sealed_ : Js.Fields)

theorem field_wrappedDek : (r.toUser sealed_).field "wrappedDek" = some (.buffer r.wrappedDek) :=
  field_toUser_of_base (by decide) (by simp [base, Js.get])

theorem field_kmsKeyId : (r.toUser sealed_).field "kmsKeyId" = some (.string r.kmsKeyId) :=
  field_toUser_of_base (by decide) (by simp [base, Js.get])

theorem field_wrapMode : (r.toUser sealed_).field "wrapMode" = some (.string r.wrapMode) :=
  field_toUser_of_base (by decide) (by simp [base, Js.get])

theorem field_pwWrapSalt :
    (r.toUser sealed_).field "pwWrapSalt" = some (r.pwWrapSalt.elim .null .buffer) :=
  field_toUser_of_base (by decide) (by simp [base, Js.get])

theorem field_passwordHash :
    (r.toUser sealed_).field "passwordHash" = some (.string r.passwordHash) :=
  field_toUser_of_base (by decide) (by simp [base, Js.get])

theorem field_cryptoSalt :
    (r.toUser sealed_).field "cryptoSalt" = some (r.cryptoSalt.elim .null .string) :=
  field_toUser_of_base (by decide) (by simp [base, Js.get])

end

theorem field_toUser_of_promoted (hkey : key ∉ promoted) :
    (r.toUser sealed_).field key =
      ((Js.object sealed_).get key).or ((Js.object r.restMeta).get key) := by
  have hnamed : key ∉ ["id", "emailHash"] := by
    intro h
    exact hkey (by simp only [promoted]; simp at h ⊢; tauto)
  have hbase : (Js.object r.base).get key = none := by
    refine Js.get_eq_none fun h => hkey ?_
    simp only [base, map_cons, map_nil, mem_cons, not_mem_nil, or_false] at h
    simp only [promoted, mem_cons]
    tauto
  rw [toUser, RepoUser.field_of, if_neg hnamed, Js.get_append, hbase, Option.none_or, Js.get_append]

end PgRow

@[simp] theorem PgRepo.textColumn_string (P : PgNode) (text : String) :
    textColumn P (some (.string text)) = some text := by
  simp [textColumn, P.text_string]

/-- The row holds what the user's properties become. -/
structure Stores (P : PgNode) (user : RepoUser) (r : PgRow) : Prop where
  id : r.id = user.id
  emailHash : r.emailHmac = user.emailHash
  passwordHash : PgRepo.textColumn P (user.field "passwordHash") = some r.passwordHash
  cryptoSalt : r.cryptoSalt = PgRepo.textColumn P (user.field "cryptoSalt")
  restMeta : r.restMeta = Js.without (promoted ++ sensitiveMetaKeys ++ ["_sealed"]) user.rest
  sealed_ : r.sealed_.fields = Js.only sensitiveMetaKeys user.rest

/-- **A round trip.** The row shows the user it was written for. -/
theorem Stores.same {P : PgNode} {user : RepoUser} {r : PgRow} (h : Stores P user r)
    (hs : user.Storable) : user.Same r.user := by
  refine ⟨h.id.symm, h.emailHash.symm, fun key hkey => ?_⟩
  by_cases hnamed : key ∈ ["id", "emailHash"]
  · rw [RepoUser.field_named hnamed, RepoUser.field_named hnamed]
  by_cases hhash : key = "passwordHash"
  · obtain ⟨hash, huser⟩ := hs.passwordHash
    have hcolumn := h.passwordHash
    rw [huser, PgRepo.textColumn_string] at hcolumn
    rw [hhash, PgRow.user, PgRow.field_passwordHash, huser, Option.some.inj hcolumn]
  by_cases hsalt : key = "cryptoSalt"
  · rw [hsalt, PgRow.user, PgRow.field_cryptoSalt, h.cryptoSalt]
    rcases hs.cryptoSalt with hnull | ⟨salt, huser⟩
    · rw [hnull]
      rfl
    · rw [huser, PgRepo.textColumn_string]
      rfl
  have hpromoted : key ∉ promoted := by
    simp only [promoted, pgFields, mem_cons, not_mem_nil, or_false] at hkey hnamed ⊢
    tauto
  rw [PgRow.user, PgRow.field_toUser_of_promoted hpromoted, h.sealed_, h.restMeta, Js.get_only,
    Js.get_without]
  by_cases hsensitive : key ∈ sensitiveMetaKeys
  · simp [hsensitive, RepoUser.field]
  by_cases hown : key = "_sealed"
  · subst hown
    simp [hsensitive, hs.sealed_]
  · simp [hsensitive, hpromoted, hown, RepoUser.field]

/-! ## Keys -/

namespace PgRepo

variable {P : PgNode} {g g' g'' : PgRepo} {r : PgRow} {d : Dek} {user : RepoUser}

/-- The key of a row, unwrapped. -/
def rowKey (P : PgNode) (r : PgRow) : Option Dek :=
  P.unwrapDek (some (.buffer r.wrappedDek)) (some (.string r.kmsKeyId))

/-- The ciphertexts of a user are under `d`, and so is what the cache has for the id. -/
structure Keyed (P : PgNode) (g : PgRepo) (r : PgRow) (d : Dek) : Prop where
  key : rowKey P r = some d
  cache : ∀ d', g.cache r.id = some d' → d' = d
  sealed_ : r.sealed_.Under d
  items : ∀ name blob, g.items r.id name = some blob → blob.1 = d

structure Sound (P : PgNode) (g : PgRepo) : Prop where
  keyed : ∀ r ∈ g.rows, ∃ d, Keyed P g r d
  ids : (g.rows.map (·.id)).Nodup
  items : ∀ uid, (∀ r ∈ g.rows, r.id ≠ uid) → ∀ name, g.items uid name = none

theorem sound_empty : Sound P empty :=
  ⟨fun _ h => absurd h not_mem_nil, nodup_nil, fun _ _ _ => rfl⟩

/-- The tables are the same, and what has come into the cache are keys of rows. -/
structure Warmed (P : PgNode) (g g' : PgRepo) : Prop where
  rows : g'.rows = g.rows
  items : g'.items = g.items
  cache : ∀ uid d, g'.cache uid = some d →
    g.cache uid = some d ∨ ∃ r ∈ g.rows, r.id = uid ∧ rowKey P r = some d

theorem Warmed.refl (P : PgNode) (g : PgRepo) : Warmed P g g := ⟨rfl, rfl, fun _ _ => Or.inl⟩

theorem Warmed.trans (h : Warmed P g g') (h' : Warmed P g' g'') : Warmed P g g'' := by
  refine ⟨h'.rows.trans h.rows, h'.items.trans h.items, fun uid d hd => ?_⟩
  rcases h'.cache uid d hd with hd | ⟨r, hr, hid, hkey⟩
  · exact h.cache uid d hd
  · exact Or.inr ⟨r, h.rows ▸ hr, hid, hkey⟩

theorem warmed_evict (evicted : Uid → Bool) (g : PgRepo) : Warmed P g (g.evict evicted) := by
  refine ⟨rfl, rfl, fun uid d hd => Or.inl ?_⟩
  simp only [evict] at hd
  split at hd
  · cases hd
  · exact hd

variable {r' : PgRow} {α : Type} {uid : Uid}

theorem row_inj (hg : Sound P g) (hr : r ∈ g.rows) (hr' : r' ∈ g.rows) (hid : r.id = r'.id) :
    r = r' :=
  inj_on_of_nodup_map hg.ids hr hr' hid

theorem Sound.warmed (hg : Sound P g) (h : Warmed P g g') : Sound P g' := by
  refine ⟨fun r hr => ?_, by rw [h.rows]; exact hg.ids, ?_⟩
  · rw [h.rows] at hr
    obtain ⟨d, hd⟩ := hg.keyed r hr
    refine ⟨d, hd.key, fun d' hd' => ?_, hd.sealed_, by rw [h.items]; exact hd.items⟩
    rcases h.cache r.id d' hd' with hold | ⟨r', hr', hid, hkey⟩
    · exact hd.cache d' hold
    · rw [row_inj hg hr' hr hid, hd.key] at hkey
      exact (Option.some.inj hkey).symm
  · rw [h.rows, h.items]
    exact hg.items

/-- `x` returns `a`, and only warms the cache. -/
def Reads {α : Type} (P : PgNode) (x : PgTask α) (g : PgRepo) (a : α) : Prop :=
  ∃ g', x g = (.ok a, g') ∧ Warmed P g g'

theorem reads_pure (a : α) : Reads P (pure a) g a := ⟨g, rfl, .refl P g⟩

theorem Reads.bind {β : Type} {x : PgTask α} {f : α → PgTask β} {a : α} {b : β} (h : Reads P x g a)
    (hf : ∀ g', Warmed P g g' → Reads P (f a) g' b) : Reads P (x >>= f) g b := by
  obtain ⟨g', hx, hw⟩ := h
  obtain ⟨g'', hfa, hw'⟩ := hf g' hw
  exact ⟨g'', by rw [bind_run_ok hx, hfa], hw.trans hw'⟩

/-- `user` has the wrapped key of the row `r`. -/
structure Carries (user : RepoUser) (r : PgRow) : Prop where
  id : user.id = r.id
  wrappedDek : user.field "wrappedDek" = some (.buffer r.wrappedDek)
  kmsKeyId : user.field "kmsKeyId" = some (.string r.kmsKeyId)

theorem carries_toUser (sealed_ : Js.Fields) : Carries (r.toUser sealed_) r :=
  ⟨rfl, r.field_wrappedDek sealed_, r.field_kmsKeyId sealed_⟩

theorem dek_reads (hr : r ∈ g.rows) (hd : Keyed P g r d) (hu : Carries user r) :
    Reads P (dek P user) g d := by
  unfold Reads dek
  cases hcache : g.cache user.id with
  | some d' =>
    have hd' : d' = d := hd.cache d' (hu.id ▸ hcache)
    exact ⟨g, by rw [hd'], .refl P g⟩
  | none =>
    have hkey : P.unwrapDek (user.field "wrappedDek") (user.field "kmsKeyId") = some d := by
      rw [hu.wrappedDek, hu.kmsKeyId]
      exact hd.key
    refine ⟨{ g with cache := update g.cache user.id (some d) }, by rw [hkey], rfl, rfl,
      fun uid d' hd' => ?_⟩
    by_cases huid : uid = user.id
    · subst huid
      simp only [update_self, Option.some.injEq] at hd'
      exact Or.inr ⟨r, hr, hu.id.symm, hd' ▸ hd.key⟩
    · simp only [update_of_ne huid] at hd'
      exact Or.inl hd'

theorem decryptResource_reads (hr : r ∈ g.rows) (hd : Keyed P g r d) (hu : Carries user r) (a : α) :
    Reads P (decryptResource P user (d, a)) g a := by
  refine (dek_reads hr hd hu).bind fun g' _ => ?_
  rw [if_pos rfl]
  exact reads_pure a

/-! ## Reading -/

theorem rowToUser_reads (hg : Sound P g) (hr : r ∈ g.rows) : Reads P (rowToUser P r) g r.user := by
  obtain ⟨d, hd⟩ := hg.keyed r hr
  have hsealed := hd.sealed_
  unfold rowToUser PgRow.user
  cases hcase : r.sealed_ with
  | absent => exact reads_pure _
  | blob key fields =>
    rw [hcase] at hsealed
    obtain rfl : key = d := hsealed
    exact (decryptResource_reads hr hd (carries_toUser []) fields).bind fun _ _ => reads_pure _
  | foreign =>
    rw [hcase] at hsealed
    exact hsealed.elim

theorem findUser_reads (hg : Sound P g) (p : PgRow → Bool) :
    Reads P (findUser P p) g ((g.rows.find? p).map PgRow.user) := by
  unfold findUser
  refine Reads.bind (a := g.rows.find? p) ⟨g, rfl, .refl P g⟩ fun g' hw => ?_
  cases hfind : g.rows.find? p with
  | none => exact reads_pure none
  | some r =>
    have hr : r ∈ g'.rows := hw.rows ▸ mem_of_find?_eq_some hfind
    exact (rowToUser_reads (hg.warmed hw) hr).bind fun _ _ => reads_pure _

theorem rowsToUsers_reads (hg : Sound P g) (rows : List PgRow) (hrows : ∀ r ∈ rows, r ∈ g.rows) :
    Reads P (rowsToUsers P rows) g (rows.map PgRow.user) := by
  induction rows generalizing g with
  | nil => exact reads_pure []
  | cons r rows ih =>
    refine (rowToUser_reads hg (hrows r mem_cons_self)).bind fun g' hw => ?_
    refine (ih (hg.warmed hw) fun q hq => ?_).bind fun _ _ => reads_pure _
    exact hw.rows ▸ hrows q (mem_cons_of_mem _ hq)

/-- What is stored under the name. -/
def item (g : PgRepo) (uid : Uid) (name : String) : Option Js := (g.items uid name).map (·.2)

theorem item_setItem (name : String) (blob : Option (Dek × Js)) (uid' : Uid) (key : String) :
    (g.setItem uid name blob).item uid' key =
      if uid' = uid ∧ key = name then blob.map (·.2) else g.item uid' key := by
  simp only [item, setItem]
  by_cases huid : uid' = uid
  · subst huid
    by_cases hkey : key = name <;> simp [hkey]
  · simp [huid]

theorem find?_id_eq_some (h : g.rows.find? (·.id = uid) = some r) : r ∈ g.rows ∧ r.id = uid :=
  ⟨mem_of_find?_eq_some h, by simpa using find?_some h⟩

theorem find?_id_eq_none (h : g.rows.find? (·.id = uid) = none) : ∀ r ∈ g.rows, r.id ≠ uid := by
  intro r hr hid
  exact find?_eq_none.mp h r hr (decide_eq_true hid)

theorem getResource_reads (hg : Sound P g) (name : String) :
    Reads P (getResource P uid name) g ((g.item uid name).getD .null) := by
  unfold getResource
  refine (findUser_reads hg _).bind fun g' hw => ?_
  cases hfind : g.rows.find? (·.id = uid) with
  | none =>
    rw [item, hg.items uid (find?_id_eq_none hfind) name]
    exact reads_pure _
  | some r =>
    obtain ⟨hr, hid⟩ := find?_id_eq_some hfind
    obtain ⟨d, hd⟩ := (hg.warmed hw).keyed r (hw.rows ▸ hr)
    refine Reads.bind (a := g.items uid name) ⟨g', by rw [← hw.items]; rfl, .refl P g'⟩
      fun g'' hw' => ?_
    rw [item]
    cases hitem : g.items uid name with
    | none => exact reads_pure _
    | some blob =>
      have hblob : blob = (d, blob.2) :=
        Prod.ext (hd.items name blob (by rw [hw.items, hid, hitem])) rfl
      obtain ⟨d', hd'⟩ := ((hg.warmed hw).warmed hw').keyed r (by rw [hw'.rows, hw.rows]; exact hr)
      have hdd' : d' = d := Option.some.inj (hd'.key.symm.trans hd.key)
      rw [hblob]
      exact decryptResource_reads (by rw [hw'.rows, hw.rows]; exact hr) (hdd' ▸ hd')
        (carries_toUser _) blob.2

/-! ## Writing -/

variable {m : Js.Fields × SealedMeta}

/-- `meta` for `user`, with what is sealed under `d`. -/
structure MetaOf (user : RepoUser) (d : Dek) (m : Js.Fields × SealedMeta) : Prop where
  rest : m.1 = Js.without (promoted ++ sensitiveMetaKeys ++ ["_sealed"]) user.rest
  fields : m.2.fields = Js.only sensitiveMetaKeys user.rest
  under : user.field "_sealed" = none → m.2.Under d

theorem userToMeta_cases (hd : dek P user g = (.ok d, g')) :
    ∃ m, MetaOf user d m ∧
      (userToMeta P user g = (.ok m, g) ∨ userToMeta P user g = (.ok m, g')) := by
  unfold userToMeta
  by_cases hempty : (Js.only sensitiveMetaKeys user.rest).isEmpty
  · refine ⟨_, ⟨rfl, ?_, fun hown => ?_⟩, Or.inl (by rw [if_pos hempty]; rfl)⟩
    · rw [isEmpty_iff.mp hempty]
      dsimp only
      split <;> rfl
    · rw [hown]
      trivial
  · refine ⟨_, ⟨rfl, ?_, fun _ => ?_⟩, Or.inr (by
      rw [if_neg hempty, bind_run_ok hd]; rfl)⟩
    · rfl
    · rfl

theorem updatedRow_eq_some (h : updatedRow P user m r = some r') :
    r'.id = r.id ∧ r'.emailHmac = r.emailHmac ∧ rowKey P r' = rowKey P r ∧
      textColumn P (user.field "passwordHash") = some r'.passwordHash ∧
      r'.cryptoSalt = textColumn P (user.field "cryptoSalt") ∧
      r'.restMeta = m.1 ∧ r'.sealed_ = m.2 := by
  simp only [updatedRow, Option.bind_eq_bind, Option.bind_eq_some_iff] at h
  obtain ⟨hash, hhash, mode, -, salt, -, h⟩ := h
  obtain rfl := Option.some.inj h
  exact ⟨rfl, rfl, rfl, hhash, rfl, rfl, rfl⟩

/-- The columns take what is passed for the user. -/
structure Accepts (P : PgNode) (user : RepoUser) : Prop where
  passwordHash : (textColumn P (user.field "passwordHash")).isSome
  wrapMode : (textColumn P (user.field "wrapMode")).isSome
  pwWrapSalt : (byteaColumn P (user.field "pwWrapSalt")).isSome

theorem accepts_of_updatedRow (h : updatedRow P user m r = none) (ha : Accepts P user) : False := by
  obtain ⟨hash, hhash⟩ := Option.isSome_iff_exists.mp ha.passwordHash
  obtain ⟨mode, hmode⟩ := Option.isSome_iff_exists.mp ha.wrapMode
  obtain ⟨salt, hsalt⟩ := Option.isSome_iff_exists.mp ha.pwWrapSalt
  simp [updatedRow, hhash, hmode, hsalt] at h

theorem accepts_of_kept (hhash : ∃ hash, user.field "passwordHash" = some (.string hash))
    (hmode : user.field "wrapMode" = r.user.field "wrapMode")
    (hsalt : user.field "pwWrapSalt" = r.user.field "pwWrapSalt") : Accepts P user := by
  obtain ⟨hash, hhash⟩ := hhash
  refine ⟨by rw [hhash, textColumn_string]; rfl, ?_, ?_⟩
  · rw [hmode, PgRow.user, PgRow.field_wrapMode, textColumn_string]
    rfl
  · rw [hsalt, PgRow.user, PgRow.field_pwWrapSalt]
    cases r.pwWrapSalt <;> simp [byteaColumn, P.bytea_buffer]

/-- The tables after the row `r` has become `r'`. -/
def replace (g : PgRepo) (r r' : PgRow) : PgRepo :=
  { g with rows := g.rows.map fun q => if q.id = r.id then r' else q }

theorem map_id_replace (hid : r'.id = r.id) :
    (g.replace r r').rows.map (·.id) = g.rows.map (·.id) := by
  rw [PgRepo.replace, map_map]
  refine map_congr_left fun q _ => ?_
  by_cases hq : q.id = r.id <;> simp [hq, hid]

theorem Sound.replace (hg : Sound P g) (hr : r ∈ g.rows) (hid : r'.id = r.id)
    (hkey : rowKey P r' = rowKey P r) (hsealed : ∀ d, Keyed P g r d → r'.sealed_.Under d) :
    Sound P (g.replace r r') := by
  have hids := map_id_replace (g := g) hid
  refine ⟨fun q hq => ?_, by rw [hids]; exact hg.ids, fun uid huid => ?_⟩
  · obtain ⟨p, hp, rfl⟩ := mem_map.mp hq
    obtain ⟨d, hd⟩ := hg.keyed p hp
    by_cases hpr : p.id = r.id
    · obtain rfl := row_inj hg hp hr hpr
      refine ⟨d, ?_⟩
      rw [if_pos rfl]
      exact ⟨hkey.trans hd.key, hid ▸ hd.cache, hsealed d hd, hid ▸ hd.items⟩
    · rw [if_neg hpr]
      exact ⟨d, hd.key, hd.cache, hd.sealed_, hd.items⟩
  · refine hg.items uid fun p hp hpid => ?_
    have hmem : uid ∈ (g.replace r r').rows.map (·.id) := by
      rw [hids]
      exact mem_map.mpr ⟨p, hp, hpid⟩
    obtain ⟨q, hq, hquid⟩ := mem_map.mp hmem
    exact huid q hq hquid

/-- **An update.** A column refuses its value, or the row stores the user. -/
theorem writeUser_cases (hg : Sound P g) (hr : r ∈ g.rows) (hu : Carries user r)
    (hemail : user.emailHash = r.emailHmac) (hown : user.field "_sealed" = none) :
    (¬ Accepts P user ∧ ∃ e g', writeUser P r.id user g = (.error e, g') ∧ Warmed P g g') ∨
      ∃ g' r', writeUser P r.id user g = (.ok (), g'.replace r r') ∧ Warmed P g g' ∧
        Stores P user r' ∧ Sound P (g'.replace r r') := by
  obtain ⟨d, hd⟩ := hg.keyed r hr
  obtain ⟨g₁, hdek, hw₁⟩ := dek_reads hr hd hu
  obtain ⟨m, hm, hmeta⟩ := userToMeta_cases hdek
  obtain ⟨g', hmeta, hw⟩ : ∃ g', userToMeta P user g = (.ok m, g') ∧ Warmed P g g' := by
    rcases hmeta with hmeta | hmeta
    · exact ⟨g, hmeta, .refl P g⟩
    · exact ⟨g₁, hmeta, hw₁⟩
  have hg' := hg.warmed hw
  have hr' : r ∈ g'.rows := hw.rows ▸ hr
  unfold writeUser
  rw [bind_run_ok hmeta]
  unfold updateRow
  by_cases hrefused : g'.rows.any fun q => q.id = r.id && (updatedRow P user m q).isNone
  · rw [if_pos hrefused]
    obtain ⟨q, -, hq⟩ := any_eq_true.mp hrefused
    refine Or.inl ⟨fun ha => ?_, _, _, rfl, hw⟩
    simp only [Bool.and_eq_true, Option.isNone_iff_eq_none] at hq
    exact accepts_of_updatedRow hq.2 ha
  · rw [if_neg hrefused]
    obtain ⟨r', hr''⟩ : ∃ r', updatedRow P user m r = some r' := by
      rw [← Option.ne_none_iff_exists']
      intro hnone
      refine hrefused (any_eq_true.mpr ⟨r, hr', ?_⟩)
      simp [hnone]
    obtain ⟨hid, hmail, hkey, hhash, hsalt, hrest, hseal⟩ := updatedRow_eq_some hr''
    have hreplace : ({ g' with rows := g'.rows.map fun q =>
        if q.id = r.id then (updatedRow P user m q).getD q else q } : PgRepo) =
          g'.replace r r' := by
      refine congrArg (fun rows => ({ g' with rows } : PgRepo)) (map_congr_left fun q hq => ?_)
      by_cases hqr : q.id = r.id
      · obtain rfl := row_inj hg' hq hr' hqr
        rw [if_pos rfl, if_pos rfl, hr'']
        rfl
      · rw [if_neg hqr, if_neg hqr]
    refine Or.inr ⟨g', r', by rw [hreplace], hw, ⟨hid.trans hu.id.symm,
      hmail.trans hemail.symm, hhash, hsalt, hrest.trans hm.rest, by rw [hseal, hm.fields]⟩, ?_⟩
    refine hg'.replace hr' hid hkey fun d' hd' => ?_
    obtain rfl : d' = d := Option.some.inj (hd'.key.symm.trans hd.key)
    exact hseal ▸ hm.under hown

section

variable {fn : RepoUser → Except RepoError (Option Js × RepoUser)}

variable {α : Type} {x : PgTask α} {e : RepoError}

theorem withTx_error (h : x g = (.error e, g')) :
    withTx x g = (.error e, { g' with rows := g.rows, items := g.items }) := by
  rw [withTx, h]

theorem withTx_ok {a : α} (h : x g = (.ok a, g')) : withTx x g = (.ok a, g') := by
  rw [withTx, h]

theorem updateUserById_none (hg : Sound P g) {id : Uid} (h : g.rows.find? (·.id = id) = none) :
    Reads P (updateUserById P id fn) g (some .null) := by
  obtain ⟨g', hfound, hw⟩ := findUser_reads hg (·.id = id)
  rw [h] at hfound
  exact ⟨g', withTx_ok (bind_run_ok hfound), hw⟩

variable (fn) in
theorem updateUserById_found (hg : Sound P g) (hr : r ∈ g.rows) :
    ∃ g', Warmed P g g' ∧ updateUserById P r.id fn g = withTx (fun _ =>
      (lift (fn r.user) >>= fun p =>
        if isFalse p.1 then pure p.1
        else do
          writeUser P r.id p.2
          pure (retOr r.id p.1) : PgTask (Option Js)) g') g := by
  obtain ⟨g', hfound, hw⟩ := findUser_reads hg (·.id = r.id)
  have hfind : g.rows.find? (·.id = r.id) = some r := find?_key hg.ids hr
  rw [hfind] at hfound
  refine ⟨g', hw, ?_⟩
  unfold updateUserById withTx
  rw [bind_run_ok hfound]
  rfl

theorem updateUserById_throws (hg : Sound P g) (hr : r ∈ g.rows) (hfn : fn r.user = .error e) :
    ∃ g', updateUserById P r.id fn g = (.error e, g') ∧ Warmed P g g' := by
  obtain ⟨g', hw, hrun⟩ := updateUserById_found fn hg hr
  refine ⟨{ g' with rows := g.rows, items := g.items }, ?_, rfl, rfl, hw.cache⟩
  rw [hrun, hfn]
  exact withTx_error rfl

variable {ret : Option Js}

theorem updateUserById_declined (hg : Sound P g) (hr : r ∈ g.rows)
    (hfn : fn r.user = .ok (ret, user)) (hret : isFalse ret = true) :
    Reads P (updateUserById P r.id fn) g ret := by
  obtain ⟨g', hw, hrun⟩ := updateUserById_found fn hg hr
  refine ⟨g', ?_, hw⟩
  rw [hrun, hfn, lift_ok_bind, if_pos hret]
  rfl

/-- **An update by a callback.** A column refuses its value, or the row stores what the callback has
made of the user. -/
theorem updateUserById_writes (hg : Sound P g) (hr : r ∈ g.rows) (hfn : fn r.user = .ok (ret, user))
    (hret : isFalse ret = false) (hu : Carries user r) (hemail : user.emailHash = r.emailHmac)
    (hown : user.field "_sealed" = none) :
    (¬ Accepts P user ∧ ∃ e g', updateUserById P r.id fn g = (.error e, g')) ∨
      ∃ g' r', updateUserById P r.id fn g = (.ok (retOr r.id ret), g'.replace r r') ∧
        Warmed P g g' ∧ Stores P user r' ∧ Sound P (g'.replace r r') := by
  obtain ⟨g₁, hw₁, hrun⟩ := updateUserById_found fn hg hr
  rw [hrun, hfn, lift_ok_bind, hret]
  rcases writeUser_cases (hg.warmed hw₁) (hw₁.rows ▸ hr) hu hemail hown with
    ⟨hrefused, e, g', hwrite, -⟩ | ⟨g', r', hwrite, hw, hstores, hsound⟩
  · exact Or.inl ⟨hrefused, e, _, withTx_error (bind_run_error hwrite)⟩
  · exact Or.inr ⟨g', r', withTx_ok (bind_run_ok hwrite), hw₁.trans hw, hstores, hsound⟩

end

/-! ## Rewriting several rows -/

/-- Rows were rewritten: the same ids, the same items, and keys of rows in the cache. -/
structure Rewritten (g g' : PgRepo) : Prop where
  ids : g'.rows.map (·.id) = g.rows.map (·.id)
  items : g'.items = g.items
  cache : ∀ uid, g'.cache uid ≠ none → g.cache uid ≠ none ∨ uid ∈ g.rows.map (·.id)

theorem Warmed.rewritten (h : Warmed P g g') : Rewritten g g' := by
  refine ⟨by rw [h.rows], h.items, fun uid huid => ?_⟩
  obtain ⟨d, hd⟩ := Option.ne_none_iff_exists'.mp huid
  rcases h.cache uid d hd with hd | ⟨r, hr, rfl, -⟩
  · exact Or.inl (by rw [hd]; simp)
  · exact Or.inr (mem_map_of_mem hr)

theorem Rewritten.trans (h : Rewritten g g') (h' : Rewritten g' g'') : Rewritten g g'' := by
  refine ⟨h'.ids.trans h.ids, h'.items.trans h.items, fun uid huid => ?_⟩
  rcases h'.cache uid huid with huid | huid
  · exact h.cache uid huid
  · exact Or.inr (h.ids ▸ huid)

theorem rewritten_replace (hid : r'.id = r.id) : Rewritten g (g.replace r r') :=
  ⟨map_id_replace hid, rfl, fun _ => Or.inl⟩

/-- What the callback of a transaction has made of the user of `r`. -/
structure Rewrites (user : RepoUser) (r : PgRow) : Prop where
  id : user.id = r.id
  emailHash : user.emailHash = r.emailHmac
  storable : user.Storable
  kept : ∀ key ∈ pgFields, user.field key = r.user.field key

theorem Rewrites.carries (h : Rewrites user r) : Carries user r :=
  ⟨h.id, (h.kept "wrappedDek" (by decide)).trans (r.field_wrappedDek _),
    (h.kept "kmsKeyId" (by decide)).trans (r.field_kmsKeyId _)⟩

theorem Rewrites.accepts (h : Rewrites user r) : Accepts P user :=
  accepts_of_kept h.storable.passwordHash (h.kept "wrapMode" (by decide))
    (h.kept "pwWrapSalt" (by decide))

theorem writeUser_rewrites (hg : Sound P g) (hr : r ∈ g.rows) (h : Rewrites user r) :
    ∃ g' r', writeUser P r.id user g = (.ok (), g'.replace r r') ∧ Warmed P g g' ∧
      Stores P user r' ∧ Sound P (g'.replace r r') := by
  rcases writeUser_cases hg hr h.carries h.emailHash h.storable.sealed_ with ⟨hrefused, -⟩ | h'
  · exact absurd h.accepts hrefused
  · exact h'

/-- **The loop of a transaction.** Induction on the users still to be written; a row whose user is
not among them is as it was. -/
theorem writeChanged_writes {before users : List RepoUser} (hg : Sound P g)
    (hids : (users.map (·.id)).Nodup) (hrows : ∀ user ∈ users, ∃ r ∈ g.rows, Rewrites user r ∧
      before.find? (·.id = user.id) = some r.user) :
    ∃ g', writeChanged P before users g = (.ok (), g') ∧ Sound P g' ∧ Rewritten g g' ∧
      ∀ r' ∈ g'.rows, (∃ user ∈ users, user.Same r'.user) ∨
        (r' ∈ g.rows ∧ ∀ user ∈ users, user.id ≠ r'.id) := by
  induction users generalizing g with
  | nil => exact ⟨g, rfl, hg, (Warmed.refl P g).rewritten, fun r' hr' => Or.inr ⟨hr', by simp⟩⟩
  | cons user users ih =>
    rw [map_cons, nodup_cons] at hids
    obtain ⟨r, hr, hrewrites, hbefore⟩ := hrows user mem_cons_self
    have hothers : ∀ user' ∈ users, user'.id ≠ r.id := fun user' hu' h =>
      hids.1 (mem_map.mpr ⟨user', hu', h.trans hrewrites.id.symm⟩)
    unfold writeChanged
    rw [hbefore]
    by_cases hsame : some r.user = some user
    · -- nothing to write
      rw [if_pos hsame]
      obtain ⟨g', hrun, hsound, hrewritten, hrest⟩ := ih hg hids.2 fun user' hu' =>
        hrows user' (mem_cons_of_mem _ hu')
      refine ⟨g', hrun, hsound, hrewritten, fun r' hr' => ?_⟩
      rcases hrest r' hr' with ⟨user', hu', hsame'⟩ | ⟨hold, hnone⟩
      · exact Or.inl ⟨user', mem_cons_of_mem _ hu', hsame'⟩
      · by_cases hid : r'.id = r.id
        · rw [row_inj hg hold hr hid]
          exact Or.inl ⟨user, mem_cons_self, Option.some.inj hsame ▸ ⟨rfl, rfl, fun _ _ => rfl⟩⟩
        · refine Or.inr ⟨hold, forall_mem_cons.mpr ⟨?_, hnone⟩⟩
          exact fun h => hid (h.symm.trans hrewrites.id)
    · rw [if_neg hsame, hrewrites.id]
      obtain ⟨g₁, r₁, hwrite, hw, hstores, hsound₁⟩ := writeUser_rewrites hg hr hrewrites
      have hid₁ : r₁.id = r.id := hstores.id.trans hrewrites.id
      have hrewritten₁ : Rewritten g (g₁.replace r r₁) :=
        hw.rewritten.trans (rewritten_replace hid₁)
      obtain ⟨g', hrun, hsound, hrewritten, hrest⟩ := ih hsound₁ hids.2 fun user' hu' => by
        obtain ⟨q, hq, hrewrites', hbefore'⟩ := hrows user' (mem_cons_of_mem _ hu')
        refine ⟨q, mem_map.mpr ⟨q, hw.rows ▸ hq, if_neg ?_⟩, hrewrites', hbefore'⟩
        exact fun h => hothers user' hu' (hrewrites'.id.trans h)
      refine ⟨g', by rw [bind_run_ok hwrite, hrun], hsound, hrewritten₁.trans hrewritten,
        fun r' hr' => ?_⟩
      rcases hrest r' hr' with ⟨user', hu', hsame'⟩ | ⟨hold, hnone⟩
      · exact Or.inl ⟨user', mem_cons_of_mem _ hu', hsame'⟩
      · obtain ⟨q, hq, rfl⟩ := mem_map.mp hold
        by_cases hid : q.id = r.id
        · rw [if_pos hid]
          exact Or.inl ⟨user, mem_cons_self, hstores.same hrewrites.storable⟩
        · rw [if_neg hid] at hnone ⊢
          refine Or.inr ⟨hw.rows ▸ hq, forall_mem_cons.mpr ⟨?_, hnone⟩⟩
          exact fun h => hid (h.symm.trans hrewrites.id)

theorem withUserTransaction_run (hg : Sound P g) (i : PgInput P)
    (fn : List RepoUser → Except RepoError (Option Js × List RepoUser)) :
    ∃ g', Warmed P g g' ∧ withUserTransaction P i fn g = withTx (fun _ =>
      (lift (fn ((i.order g.rows).map PgRow.user)) >>= fun p =>
        if isFalse p.1 then pure p.1
        else do
          writeChanged P ((i.order g.rows).map PgRow.user) p.2
          pure p.1 : PgTask (Option Js)) g') g := by
  obtain ⟨g', hread, hw⟩ := rowsToUsers_reads hg (i.order g.rows) fun r hr =>
    (i.order_perm g.rows).mem_iff.mp hr
  refine ⟨g', hw, ?_⟩
  unfold withUserTransaction withTx
  rw [bind_run_ok (gets_run _ g), bind_run_ok hread]

/-! ## Inserting -/

theorem assign_rest {u : RepoUser} {fields : Js.Fields}
    (h : ∀ p ∈ fields, p.1 ∉ ["id", "emailHash"]) : (u.assign fields).rest = fields ++ u.rest := by
  refine Js.without_eq_self fun key hkey => ?_
  obtain ⟨p, hp, rfl⟩ := mem_map.mp hkey
  rcases mem_append.mp hp with hp | hp
  · exact h p hp
  · exact u.named p hp

theorem MetaOf.of_assign {wrapped id : Js}
    (h : MetaOf (user.assign [("wrappedDek", wrapped), ("kmsKeyId", id)]) d m) :
    MetaOf user d m := by
  have hrest := h.rest
  have hfields := h.fields
  have hunder := h.under
  rw [assign_rest (by simp)] at hrest hfields
  refine ⟨hrest.trans ?_, hfields.trans ?_, fun hown => hunder ?_⟩
  · simp [Js.without, promoted]
  · simp [Js.only, sensitiveMetaKeys]
  · rw [RepoUser.field_assign, hown]
    simp [Js.get]

/-- The cache has changed for `id` alone. -/
def CachedFor (id : Uid) (g g' : PgRepo) : Prop := ∀ uid, uid ≠ id → g'.cache uid = g.cache uid

variable {i : PgInput P}

theorem userToMeta_new (hfresh : g.cache user.id = none) :
    ∃ m g', userToMeta P (user.assign [("wrappedDek", .buffer i.wrappedDek),
        ("kmsKeyId", .string i.kmsKeyId)]) g = (.ok m, g') ∧ MetaOf user i.dek m ∧
      g'.rows = g.rows ∧ g'.items = g.items ∧ CachedFor user.id g g' ∧
      ∀ d, g'.cache user.id = some d → d = i.dek := by
  have hdek : dek P (user.assign [("wrappedDek", .buffer i.wrappedDek),
      ("kmsKeyId", .string i.kmsKeyId)]) g =
        (.ok i.dek, { g with cache := update g.cache user.id (some i.dek) }) := by
    have hwrapped : (user.assign [("wrappedDek", .buffer i.wrappedDek),
        ("kmsKeyId", .string i.kmsKeyId)]).field "wrappedDek" = some (.buffer i.wrappedDek) := by
      rw [RepoUser.field_assign]
      simp [Js.get]
    have hid : (user.assign [("wrappedDek", .buffer i.wrappedDek),
        ("kmsKeyId", .string i.kmsKeyId)]).field "kmsKeyId" = some (.string i.kmsKeyId) := by
      rw [RepoUser.field_assign]
      simp [Js.get]
    have hcache : g.cache (user.assign [("wrappedDek", .buffer i.wrappedDek),
        ("kmsKeyId", .string i.kmsKeyId)]).id = none := hfresh
    rw [dek, hcache, hwrapped, hid, i.opens]
    rfl
  obtain ⟨m, hm, hrun | hrun⟩ := userToMeta_cases hdek
  · refine ⟨m, _, hrun, hm.of_assign, rfl, rfl, fun _ _ => rfl, fun d hd => ?_⟩
    rw [hfresh] at hd
    cases hd
  · refine ⟨m, _, hrun, hm.of_assign, rfl, rfl, fun uid huid => ?_, fun d hd => ?_⟩
    · exact update_of_ne huid _ _
    · simpa using hd.symm

theorem Sound.cachedFor (hg : Sound P g) (hrows : g'.rows = g.rows) (hitems : g'.items = g.items)
    {id : Uid} (hcache : CachedFor id g g') (hid : ∀ r ∈ g.rows, r.id ≠ id) : Sound P g' := by
  refine ⟨fun r hr => ?_, hrows ▸ hg.ids, fun uid huid name => ?_⟩
  · rw [hrows] at hr
    obtain ⟨d, hd⟩ := hg.keyed r hr
    exact ⟨d, hd.key, fun d' hd' => hd.cache d' (hcache r.id (hid r hr) ▸ hd'), hd.sealed_,
      fun name blob hblob => hd.items name blob (hitems ▸ hblob)⟩
  · rw [hitems]
    exact hg.items uid (hrows ▸ huid) name

theorem insertUser_taken (hfresh : g.cache user.id = none)
    (hhash : ∃ hash, user.field "passwordHash" = some (.string hash))
    (htaken : ∃ r ∈ g.rows, r.emailHmac = user.emailHash) :
    ∃ g', insertUser P i user g = (.error .userExists, g') ∧ g'.rows = g.rows ∧
      g'.items = g.items ∧ CachedFor user.id g g' := by
  obtain ⟨hash, hhash⟩ := hhash
  obtain ⟨r, hr, hemail⟩ := htaken
  obtain ⟨m, g', hrun, -, hrows, hitems, hcache, -⟩ := userToMeta_new (i := i) hfresh
  refine ⟨g', ?_, hrows, hitems, hcache⟩
  have htaken : (g'.rows.any fun r => r.id = user.id || r.emailHmac = user.emailHash) = true :=
    any_eq_true.mpr ⟨r, hrows ▸ hr, by simp [hemail]⟩
  have hinsert : insertRow P i user m g' = (.error .userExists, g') := by
    rw [insertRow, hhash, textColumn_string]
    dsimp only
    rw [if_pos htaken]
  rw [insertUser, bind_run_ok hrun, bind_run_error hinsert]

/-- **An insertion.** The new row stores the user, under a key of its own. -/
theorem insertUser_stores (hg : Sound P g) (hfresh : g.cache user.id = none)
    (hs : user.Storable) (hid : ∀ r ∈ g.rows, r.id ≠ user.id)
    (hemail : ∀ r ∈ g.rows, r.emailHmac ≠ user.emailHash) :
    ∃ g' r, insertUser P i user g = (.ok user.id, g') ∧ g'.rows = g.rows ++ [r] ∧
      g'.items = g.items ∧ CachedFor user.id g g' ∧ Stores P user r ∧ Sound P g' := by
  obtain ⟨hash, hhash⟩ := hs.passwordHash
  obtain ⟨m, g₁, hrun, hm, hrows, hitems, hcache, hkey⟩ := userToMeta_new (i := i) hfresh
  have hfree : ¬ (g₁.rows.any fun r => r.id = user.id || r.emailHmac = user.emailHash) = true := by
    intro htaken
    obtain ⟨r, hr, hr'⟩ := any_eq_true.mp htaken
    rw [hrows] at hr
    simp only [Bool.or_eq_true, decide_eq_true_eq] at hr'
    rcases hr' with h | h
    · exact hid r hr h
    · exact hemail r hr h
  let r : PgRow := {
    id := user.id, emailHmac := user.emailHash, passwordHash := hash,
    wrappedDek := i.wrappedDek, kmsKeyId := i.kmsKeyId, wrapMode := "kms", pwWrapSalt := none,
    cryptoSalt := textColumn P (user.field "cryptoSalt"), status := "active", createdAt := i.now,
    restMeta := m.1, sealed_ := m.2 }
  have hinsert : insertRow P i user m g₁ = (.ok (), { g₁ with rows := g₁.rows ++ [r] }) := by
    rw [insertRow, hhash, textColumn_string]
    dsimp only
    rw [if_neg hfree]
  refine ⟨{ g₁ with rows := g₁.rows ++ [r] }, r, ?_, by rw [hrows], hitems, hcache,
    ⟨rfl, rfl, ?_, rfl, hm.rest, hm.fields⟩, ?_, ?_, ?_⟩
  · rw [insertUser, bind_run_ok hrun, bind_run_ok hinsert]
    rfl
  · rw [hhash, textColumn_string]
  · intro q hq
    rcases mem_append.mp hq with hq | hq
    · obtain ⟨d, hd⟩ := (hg.cachedFor hrows hitems hcache hid).keyed q hq
      exact ⟨d, hd.key, hd.cache, hd.sealed_, hd.items⟩
    · obtain rfl := mem_singleton.mp hq
      refine ⟨i.dek, i.opens, hkey, hm.under hs.sealed_, fun name blob hblob => ?_⟩
      have hnone : g₁.items user.id name = none := by rw [hitems]; exact hg.items user.id hid name
      exact absurd (hnone.symm.trans hblob) (by simp)
  · simp only [hrows, map_append, map_cons, map_nil]
    refine nodup_append.mpr ⟨hg.ids, nodup_singleton _, fun a ha b hb => ?_⟩
    obtain ⟨q, hq, rfl⟩ := mem_map.mp ha
    obtain rfl := mem_singleton.mp hb
    exact hid q hq
  · intro uid huid name
    rw [hitems]
    exact hg.items uid (fun q hq => huid q (mem_append_left _ (hrows ▸ hq))) name

/-- **A deletion** takes the items with it. -/
theorem Sound.deleteRow (hg : Sound P g) (id : Uid) : Sound P (PgRepo.deleteRow id g).2 := by
  refine ⟨fun r hr => ?_, hg.ids.sublist (filter_sublist.map _), fun uid huid name => ?_⟩
  · obtain ⟨hr, hne⟩ := mem_filter.mp hr
    obtain ⟨d, hd⟩ := hg.keyed r hr
    have hitems : (PgRepo.deleteRow id g).2.items r.id = g.items r.id :=
      update_of_ne (of_decide_eq_true hne) _ _
    exact ⟨d, hd.key, hd.cache, hd.sealed_, fun name blob hblob =>
      hd.items name blob (by rw [← hitems]; exact hblob)⟩
  · by_cases hid : uid = id
    · rw [hid]
      exact congrFun (update_self id _ g.items) name
    · refine (congrFun (update_of_ne hid _ g.items) name).trans ?_
      refine hg.items uid (fun r hr hrid => ?_) name
      exact huid r (mem_filter.mpr ⟨hr, decide_eq_true (hrid ▸ hid)⟩) hrid

theorem setResource_stores (hg : Sound P g) (hr : r ∈ g.rows) (name : String) (value : Js) :
    ∃ g' d, setResource P r.id name value g = (.ok (), g'.setItem r.id name (some (d, value))) ∧
      Warmed P g g' ∧ Keyed P g' r d := by
  have hfind : g.rows.find? (·.id = r.id) = some r := find?_key hg.ids hr
  obtain ⟨g₁, hfound, hw⟩ := findUser_reads hg (·.id = r.id)
  rw [hfind] at hfound
  obtain ⟨d, hd⟩ := (hg.warmed hw).keyed r (hw.rows ▸ hr)
  obtain ⟨g₂, hdek, hw'⟩ := dek_reads (hw.rows ▸ hr) hd (carries_toUser r.sealed_.fields)
  have hww := hw.trans hw'
  obtain ⟨d', hd'⟩ := (hg.warmed hww).keyed r (hww.rows ▸ hr)
  obtain rfl : d' = d := Option.some.inj (hd'.key.symm.trans hd.key)
  refine ⟨g₂, d', ?_, hww, hd'⟩
  rw [setResource, bind_run_ok hfound]
  exact bind_run_ok hdek

theorem Sound.setItem (hg : Sound P g) (hr : r ∈ g.rows) (hd : Keyed P g r d) (name : String)
    (blob : Option (Dek × Js)) (hblob : ∀ b, blob = some b → b.1 = d) :
    Sound P (g.setItem r.id name blob) := by
  refine ⟨fun q hq => ?_, hg.ids, fun uid huid name' => ?_⟩
  · by_cases hid : q.id = r.id
    · obtain rfl := row_inj hg hq hr hid
      refine ⟨d, hd.key, hd.cache, hd.sealed_, fun name' b hb => ?_⟩
      simp only [PgRepo.setItem, update_self] at hb
      by_cases hname : name' = name
      · rw [hname, update_self] at hb
        exact hblob b hb
      · rw [update_of_ne hname] at hb
        exact hd.items name' b hb
    · obtain ⟨d', hd'⟩ := hg.keyed q hq
      refine ⟨d', hd'.key, hd'.cache, hd'.sealed_, fun name' b hb => hd'.items name' b ?_⟩
      simpa only [PgRepo.setItem, update_of_ne hid] using hb
  · have hne : uid ≠ r.id := fun h => huid r hr h.symm
    simp only [PgRepo.setItem, update_of_ne hne]
    exact hg.items uid huid name'

end PgRepo

end PwdNow.Server
