import PwdNow.Client.Symbolic

/-!
# Client — loads that fail, and the writes after them

A load and a write are not atomic: the reads of `performLoad` settle at one time and set the state
at another, and a mutator sets the state at once while its write waits for those before it. A `Tab`
keeps what is in flight; a run feeds it events in any order. A `GET` that fails reads as an empty
vault, and the next mutator writes that, with its own edit, over the stored one.
-/

namespace PwdNow.Client

open Kit List

variable {Rest : Type} (P : Platform Rest)

/-! ## Runs of a tab -/

/-- A write that waits in the chain of `serializedWrite`. -/
structure PendingWrite (Rest : Type) where
  updated : List (Credential Rest)
  prev : List (Credential Rest)

/-- A load whose reads have settled. `sound` is history: the list was read from the server, and
travel mode was off. -/
structure PendingLoad (Rest : Type) where
  loaded : Loaded Rest
  sound : Bool

structure Tab (Rest : Type) where
  app : App Rest
  loads : List (PendingLoad Rest)
  writes : List (PendingWrite Rest)
  /-- history: the last load that set the list was sound -/
  fresh : Bool

inductive Event (Rest : Type) where
  /-- a load starts and its reads settle -/
  | read (net : LoadNet)
  /-- the `k`-th load in flight sets the state -/
  | finish (k : Nat)
  | add (c : Credential Rest)
  | update (c : Credential Rest)
  /-- the oldest write of the chain settles -/
  | settle (net : Net)
  /-- the outbox is flushed -/
  | flush (put : PutAnswer)
  /-- cookies and keys come and go -/
  | login (session : Bool) (keys : KeyStore)

def GetAnswer.isStored : GetAnswer → Bool
  | .stored => true
  | _ => false

/-- The load sets the list of credentials. -/
def setsCredentials (loaded : Loaded Rest) (s : App Rest) : Bool :=
  !(s.device.session && s.device.keys.token.isNone) && loaded.credentials.toOption.isSome

/-- The part of `flushOutbox` that is about the credentials. -/
def flushCredentials (put : PutAnswer) (dev : Device) : Device :=
  match dev.outbox .credentials, put with
  | some token, .ok =>
    { dev.setServer .credentials (.data token) with
      outbox := Function.update dev.outbox .credentials none }
  | some token, .network true => dev.setServer .credentials (.data token)
  | _, _ => dev

namespace Tab

/-- The first part of a mutator: the new list is set, and its write queued. -/
def issue (t : Tab Rest) (updated : List (Credential Rest)) : Tab Rest :=
  if t.app.daemonConnected then t
  else
    { t with
      app := { t.app with credentials := updated }
      writes := t.writes ++ [⟨updated, t.app.credentials⟩] }

def step (t : Tab Rest) : Event Rest → Tab Rest
  | .read net =>
    if t.app.device.keys.hasDaemonToken then t
    else
      let read := readAll P net t.app.device
      { t with
        app := { t.app with isLoading := true, device := read.2 }
        loads := t.loads ++ [⟨read.1,
          t.app.device.session && net.credentials.isStored && !read.1.travel.active⟩] }
  | .finish k =>
    match t.loads[k]? with
    | none => t
    | some load =>
      { t with
        app := applyLoad load.loaded t.app
        loads := t.loads.eraseIdx k
        fresh := if setsCredentials load.loaded t.app then load.sound else t.fresh }
  | .add c => t.issue (t.app.credentials ++ [c])
  | .update c => t.issue (t.app.credentials.map fun a => if a.id = c.id then c else a)
  | .settle net =>
    match t.writes with
    | [] => t
    | w :: rest =>
      { t with
        app := (settle (fun s => { s with credentials := w.prev })
          (persistCredentials P t.app.daemonConnected net w.updated t.app.device) t.app).2
        writes := rest }
  | .flush put => { t with app := { t.app with device := flushCredentials put t.app.device } }
  | .login session keys =>
    { t with app := { t.app with device := { t.app.device with session, keys } } }

variable {P} {t : Tab Rest}

end Tab

/-! ## Credentials that are still there -/

variable {updates before : List (Credential Rest)}

/-- `c'` stands for `c`: it has the contents of `c` or of one of the updates. -/
def Stands (updates : List (Credential Rest)) (c c' : Credential Rest) : Prop :=
  ∃ a ∈ c :: updates, ∃ id, c' = { a with id := id }

/-- **Nothing is lost.** The list starts with an entry for each of the credentials of `before`,
in their order, under their own ids if those were distinct. -/
def Kept (updates before after : List (Credential Rest)) : Prop :=
  ∃ kept added, after = kept ++ added ∧ Forall₂ (Stands updates) before kept ∧
    ((before.map Credential.id).Nodup → kept.map Credential.id = before.map Credential.id)

theorem forall₂_stands_trans {kept kept' : List (Credential Rest)}
    (h : Forall₂ (Stands updates) before kept)
    (h' : Forall₂ (fun a b => ∃ id, b = { a with id := id }) kept kept') :
    Forall₂ (Stands updates) before kept' := by
  induction h generalizing kept' with
  | nil =>
    cases h'
    exact .nil
  | cons hab _ ih =>
    cases h' with
    | cons hbc hrest =>
      obtain ⟨a, ha, id, rfl⟩ := hab
      obtain ⟨id', rfl⟩ := hbc
      exact .cons ⟨a, ha, id', rfl⟩ (ih hrest)

namespace Kept

variable {updates before l : List (Credential Rest)}

theorem refl (updates before : List (Credential Rest)) : Kept updates before before :=
  ⟨before, [], by simp, forall₂_same.mpr fun c _ => ⟨c, by simp, c.id, rfl⟩, fun _ => rfl⟩

theorem add (h : Kept updates before l) (c : Credential Rest) : Kept updates before (l ++ [c]) := by
  obtain ⟨kept, added, rfl, hstands, hids⟩ := h
  exact ⟨kept, added ++ [c], by simp, hstands, hids⟩

theorem update (h : Kept updates before l) {c : Credential Rest} (hc : c ∈ updates) :
    Kept updates before (l.map fun a => if a.id = c.id then c else a) := by
  obtain ⟨kept, added, rfl, hstands, hids⟩ := h
  refine ⟨_, _, map_append, ?_, fun hnodup => ?_⟩
  · rw [forall₂_map_right_iff]
    refine hstands.imp fun a b hab => ?_
    split
    · exact ⟨c, mem_cons_of_mem _ hc, c.id, rfl⟩
    · exact hab
  · rw [← hids hnodup, map_map]
    refine map_congr_left fun a _ => ?_
    simp only [Function.comp_apply]
    split
    · next heq => exact heq.symm
    · rfl

theorem distinct (h : Kept updates before l) (uuid : Nat → String) :
    Kept updates before (distinctCredentials uuid l) := by
  obtain ⟨kept, added, rfl, hstands, hids⟩ := h
  by_cases hnodup : (before.map Credential.id).Nodup
  · obtain ⟨added', heq⟩ := distinctCredentials_append uuid (l := kept)
      (by rw [hids hnodup]; exact hnodup) added
    exact ⟨kept, added', heq, hstands, hids⟩
  · have hsame := forall₂_take kept.length (forall₂_distinctCredentials uuid (kept ++ added))
    rw [take_left] at hsame
    exact ⟨_, _, (take_append_drop kept.length _).symm, forall₂_stands_trans hstands hsame,
      fun h => absurd h hnodup⟩

end Kept

/-! ## What a body holds -/

/-- The body is the text, sealed under some key or not at all. -/
def Body.Holds (body : Body) (text : Bytes) : Prop :=
  body = .legacy text ∨ body = .data (.json text) ∨
    ∃ key iv, body = .data (.base64url (sealPayload P key iv [] text))

variable {P} {body : Body} {text : Bytes}

theorem Body.Holds.unique (hP : P.aesGcm.Ideal) {text' : Bytes} (h : body.Holds P text)
    (h' : body.Holds P text') : text = text' := by
  rcases h with rfl | rfl | ⟨key, iv, rfl⟩
  · rcases h' with h' | h' | ⟨key', iv', h'⟩
    · exact Body.legacy.inj h'
    · cases h'
    · cases h'
  · rcases h' with h' | h' | ⟨key', iv', h'⟩
    · cases h'
    · exact Token.json.inj (Body.data.inj h')
    · cases h'
  · rcases h' with h' | h' | ⟨key', iv', h'⟩
    · cases h'
    · cases h'
    · exact sealPayload_inj hP (Token.base64url.inj (Body.data.inj h'))

theorem Body.Holds.readBody_eq (hP : P.aesGcm.Ideal) (h : body.Holds P text) (keys : KeyStore)
    (r : Resource) :
    readBody P keys r body = .ok (some text) ∨
      readBody P keys r body = .error (.decryptionPending r) := by
  rcases h with rfl | rfl | ⟨key, iv, rfl⟩
  · exact .inl rfl
  · exact .inl rfl
  · simp only [readBody]
    cases hdec : decryptFromServer P keys (.base64url (sealPayload P key iv [] text)) with
    | none => exact .inr rfl
    | some text' =>
      obtain ⟨candidate, -, hopen⟩ := exists_of_findSome?_eq_some hdec
      obtain ⟨key', -, hopen⟩ := Option.bind_eq_some_iff.mp hopen
      obtain ⟨iv', heq⟩ := openPayload_eq_some hP hopen
      rw [sealPayload_inj hP heq]
      exact .inl rfl

theorem localWrite_holds (net : Net) (r : Resource) (dev : Device) :
    ((localWrite P net r text dev).2.server r = dev.server r ∨
        ((localWrite P net r text dev).2.server r).Holds P text) ∧
      ((localWrite P net r text dev).2.outbox r = dev.outbox r ∨
        ∃ token, (localWrite P net r text dev).2.outbox r = some token ∧
          (Body.data token).Holds P text) := by
  unfold localWrite encryptForServer
  split
  · cases hkey : dev.keys.localKeyV1 with
    | none => exact ⟨.inl rfl, .inl rfl⟩
    | some key =>
      have hholds : (Body.data (.base64url (sealPayload P key net.iv [] text))).Holds P text :=
        .inr (.inr ⟨key, net.iv, rfl⟩)
      simp only [Option.map_some, putResource]
      cases net.put with
      | ok =>
        refine ⟨.inr ?_, .inl rfl⟩
        simpa [Device.setLocal, Device.setServer] using hholds
      | status code =>
        dsimp only
        split
        · exact ⟨.inl rfl, .inl rfl⟩
        · exact ⟨.inl rfl, .inl rfl⟩
      | network delivered =>
        cases delivered with
        | true =>
          refine ⟨.inr ?_, .inr ⟨_, by simp [Device.queueWrite], hholds⟩⟩
          simpa [Device.queueWrite, Device.setServer] using hholds
        | false => exact ⟨.inl rfl, .inr ⟨_, by simp [Device.queueWrite], hholds⟩⟩
  · split
    · exact ⟨.inl rfl, .inl rfl⟩
    · exact ⟨.inl rfl, .inl rfl⟩

/-! ## One event -/

/-- The credentials of `before` are in everything that is stored, queued, in flight, or shown
after a sound load. -/
structure Tab.Keeps (P : Platform Rest) (updates before : List (Credential Rest)) (t : Tab Rest) :
    Prop where
  server : ∃ l, (t.app.device.server .credentials).Holds P (P.credentials.stringify l) ∧
    Kept updates before l
  outbox : ∀ token, t.app.device.outbox .credentials = some token →
    ∃ l, (Body.data token).Holds P (P.credentials.stringify l) ∧ Kept updates before l
  shown : t.fresh = true → Kept updates before t.app.credentials
  loads : ∀ load ∈ t.loads, load.sound = true → load.loaded.travel.active = false ∧
    ∀ l, load.loaded.credentials = .ok l → Kept updates before l
  writes : ∀ w ∈ t.writes, Kept updates before w.updated ∧ Kept updates before w.prev

theorem applyLoad_credentials (loaded : Loaded Rest) (s : App Rest) :
    (setsCredentials loaded s = false ∧ (applyLoad loaded s).credentials = s.credentials) ∨
      ∃ l, setsCredentials loaded s = true ∧ loaded.credentials = .ok l ∧
        (applyLoad loaded s).credentials = travelFilter loaded.travel Credential.folderId l := by
  unfold setsCredentials applyLoad
  cases hlogin : s.device.session && s.device.keys.token.isNone with
  | true => simp
  | false =>
    cases hc : loaded.credentials with
    | error e =>
      refine .inl ⟨rfl, ?_⟩
      dsimp only
      rw [if_neg Bool.false_ne_true]
      split <;> rfl
    | ok l => exact .inr ⟨l, rfl, rfl, by simp [Except.toOption]⟩

namespace Tab.Keeps

variable {t : Tab Rest} {updates before : List (Credential Rest)}

theorem congr (h : t.Keeps P updates before) {t' : Tab Rest}
    (hserver : t'.app.device.server = t.app.device.server)
    (houtbox : t'.app.device.outbox = t.app.device.outbox)
    (hshown : t'.fresh = true → Kept updates before t'.app.credentials)
    (hloads : ∀ load ∈ t'.loads, load ∈ t.loads) (hwrites : ∀ w ∈ t'.writes, w ∈ t.writes) :
    t'.Keeps P updates before where
  server := by rw [hserver]; exact h.server
  outbox := by rw [houtbox]; exact h.outbox
  shown := hshown
  loads load hl := h.loads load (hloads load hl)
  writes w hw := h.writes w (hwrites w hw)

variable {l : List (Credential Rest)}

theorem issue (h : t.Keeps P updates before) (hl : Kept updates before l) (hfresh : t.fresh = true) :
    (t.issue l).Keeps P updates before := by
  unfold Tab.issue
  split
  · exact h
  · refine ⟨h.server, h.outbox, fun _ => hl, h.loads, fun w hw => ?_⟩
    rcases mem_append.mp hw with hw | hw
    · exact h.writes w hw
    · obtain rfl := mem_singleton.mp hw
      exact ⟨hl, h.shown hfresh⟩

theorem loaded (hP : P.Ideal) (h : t.Keeps P updates before) {net : LoadNet}
    (hsession : t.app.device.session = true) (hstored : net.credentials.isStored = true)
    (hl : loadLocalCredentials P net t.app.device = .ok l) : Kept updates before l := by
  obtain ⟨stored, hholds, hkept⟩ := h.server
  have hanswer : net.credentials = .stored := by
    cases hn : net.credentials <;> simp_all [GetAnswer.isStored]
  unfold loadLocalCredentials localRead at hl
  rw [hanswer, if_pos hsession] at hl
  rcases hholds.readBody_eq hP.aesGcm t.app.device.keys .credentials with hread | hread
  · rw [hread] at hl
    simp only [Except.map, parseSaved, hP.credentials.stringify_ne_nil, if_false,
      hP.credentials.parse_stringify, Option.map_some, Option.getD_some, Except.ok.injEq] at hl
    rw [← hl]
    exact hkept.distinct net.uuid
  · rw [hread] at hl
    cases hl

theorem persisted (h : t.Keeps P updates before) (hl : Kept updates before l) (net : Net) :
    let dev := (persistCredentials P t.app.daemonConnected net l t.app.device).2
    (∃ l, (dev.server .credentials).Holds P (P.credentials.stringify l) ∧ Kept updates before l) ∧
      ∀ token, dev.outbox .credentials = some token →
        ∃ l, (Body.data token).Holds P (P.credentials.stringify l) ∧ Kept updates before l := by
  unfold persistCredentials
  split
  · exact ⟨h.server, h.outbox⟩
  · obtain ⟨hserver, houtbox⟩ :=
      localWrite_holds (P := P) net .credentials t.app.device
    refine ⟨?_, fun token htoken => ?_⟩
    · rcases hserver with heq | hholds
      · rw [heq]
        exact h.server
      · exact ⟨l, hholds, hl⟩
    · rcases houtbox with heq | ⟨token', heq, hholds⟩
      · exact h.outbox token (heq ▸ htoken)
      · rw [heq] at htoken
        obtain rfl := Option.some.inj htoken
        exact ⟨l, hholds, hl⟩

end Tab.Keeps

/-- An edit is made on a list that a sound load has set. -/
def Tab.Careful (t : Tab Rest) : Event Rest → Prop
  | .add _ => t.fresh = true
  | .update _ => t.fresh = true
  | _ => True

/-- The credentials passed to `updateCredential` in a run. -/
def updatesOf (es : List (Event Rest)) : List (Credential Rest) :=
  es.filterMap fun
    | .update c => some c
    | _ => none

theorem readAll_device (net : LoadNet) (dev : Device) :
    (readAll P net dev).2.server = dev.server ∧ (readAll P net dev).2.outbox = dev.outbox := by
  have hvault := getTravelModeConfigAsync_vault (P := P) net.travel dev
  unfold readAll Device.afterReads
  dsimp only
  split
  · exact ⟨hvault.server, hvault.outbox⟩
  · exact ⟨hvault.server, hvault.outbox⟩

theorem settle_credentials (prev : List (Credential Rest))
    (outcome : Except ClientError Unit × Device) (s : App Rest) :
    (settle (fun s => { s with credentials := prev }) outcome s).2.device = outcome.2 ∧
      ((settle (fun s => { s with credentials := prev }) outcome s).2.credentials = s.credentials ∨
        (settle (fun s => { s with credentials := prev }) outcome s).2.credentials = prev) := by
  obtain ⟨result, dev⟩ := outcome
  cases result with
  | ok u => exact ⟨rfl, .inl rfl⟩
  | error e =>
    cases e with
    | queuedOffline r => exact ⟨rfl, .inl rfl⟩
    | error message => exact ⟨rfl, .inr rfl⟩
    | decryptionPending r => exact ⟨rfl, .inr rfl⟩

/-- **One event.** Nothing is lost by it, if an edit is made on a list that a sound load has
set. -/
theorem Tab.step_keeps (hP : P.Ideal) {t : Tab Rest} (h : t.Keeps P updates before) {e : Event Rest}
    (hupdate : ∀ c, e = .update c → c ∈ updates) (hcareful : t.Careful e) :
    (t.step P e).Keeps P updates before := by
  cases e with
  | read net =>
    unfold step
    dsimp only
    split
    · exact h
    · obtain ⟨hserver, houtbox⟩ := readAll_device (P := P) net t.app.device
      refine ⟨by rw [hserver]; exact h.server, by rw [houtbox]; exact h.outbox, h.shown, ?_,
        h.writes⟩
      intro load hload hsound
      rcases mem_append.mp hload with hload | hload
      · exact h.loads load hload hsound
      · obtain rfl := mem_singleton.mp hload
        simp only [Bool.and_eq_true, Bool.not_eq_true'] at hsound
        exact ⟨hsound.2, fun l hl => h.loaded hP hsound.1.1 hsound.1.2 hl⟩
  | finish k =>
    unfold step
    dsimp only
    cases hk : t.loads[k]? with
    | none => exact h
    | some load =>
      dsimp only
      have hmem := mem_of_getElem? hk
      refine h.congr (by rw [applyLoad_device]) (by rw [applyLoad_device]) ?_
        (fun load' hl => mem_of_mem_eraseIdx hl) fun w hw => hw
      rcases applyLoad_credentials load.loaded t.app with ⟨hsets, heq⟩ | ⟨l, hsets, hl, heq⟩
      · rw [hsets, heq]
        exact h.shown
      · rw [hsets, heq]
        intro hsound
        obtain ⟨hactive, hkept⟩ := h.loads load hmem hsound
        rw [travelFilter, if_neg (by simp [hactive])]
        exact hkept l hl
  | add c => exact h.issue ((h.shown hcareful).add c) hcareful
  | update c => exact h.issue ((h.shown hcareful).update (hupdate c rfl)) hcareful
  | settle net =>
    unfold step
    dsimp only
    cases hw : t.writes with
    | nil => exact h
    | cons w rest =>
      dsimp only
      obtain ⟨hupdated, hprev⟩ := h.writes w (by simp [hw])
      obtain ⟨hdevice, hshown⟩ := settle_credentials w.prev
        (persistCredentials P t.app.daemonConnected net w.updated t.app.device) t.app
      obtain ⟨hserver, houtbox⟩ := h.persisted hupdated net
      refine ⟨by rw [hdevice]; exact hserver, by rw [hdevice]; exact houtbox, fun hfresh => ?_,
        h.loads, fun w' hw' => h.writes w' (by simp [hw, hw'])⟩
      rcases hshown with heq | heq
      · rw [heq]
        exact h.shown hfresh
      · rw [heq]
        exact hprev
  | flush put =>
    unfold step flushCredentials
    cases htoken : t.app.device.outbox .credentials with
    | none => exact h
    | some token =>
      have hstored := h.outbox token htoken
      cases put with
      | ok =>
        refine ⟨?_, by simp, h.shown, h.loads, h.writes⟩
        simpa [Device.setServer] using hstored
      | status code => exact h
      | network delivered =>
        cases delivered with
        | true =>
          refine ⟨?_, h.outbox, h.shown, h.loads, h.writes⟩
          simpa [Device.setServer] using hstored
        | false => exact h
  | login session keys => exact h.congr rfl rfl h.shown (fun _ hl => hl) fun _ hw => hw

/-! ## Whole runs -/

/-- Nothing is in flight, nothing queued, and nothing has been loaded. -/
structure Tab.Idle (t : Tab Rest) : Prop where
  loads : t.loads = []
  writes : t.writes = []
  outbox : t.app.device.outbox .credentials = none
  fresh : t.fresh = false

/-- **The stored vault survives** a run in which every edit is made on a list that a sound load has
set: every state reached stores all the credentials that were stored at the start. -/
theorem stored_kept (hP : P.Ideal) {t : Tab Rest} {before : List (Credential Rest)}
    (hstored : (t.app.device.server .credentials).Holds P (P.credentials.stringify before))
    (hidle : t.Idle) {es : List (Event Rest)} (hcareful : Along (Tab.step P) t es Tab.Careful)
    {t' : Tab Rest} (hvisit : Visits (Tab.step P) t es t') :
    ∃ after, (t'.app.device.server .credentials).Holds P (P.credentials.stringify after) ∧
      Kept (updatesOf es) before after := by
  have hstart : t.Keeps P (updatesOf es) before := {
    server := ⟨before, hstored, .refl _ _⟩
    outbox := by simp [hidle.outbox]
    shown := by simp [hidle.fresh]
    loads := by simp [hidle.loads]
    writes := by simp [hidle.writes] }
  have hkeeps : t'.Keeps P (updatesOf es) before := hvisit.invariant hstart hcareful
    fun t e he hok h => t.step_keeps hP h (fun c hc => by
      subst hc
      exact mem_filterMap.mpr ⟨_, he, rfl⟩) hok
  exact hkeeps.server

/-! ### On the symbolic platform -/

def oldLogin : Credential Unit := ⟨.string "old", "personal", ()⟩

def newLogin : Credential Unit := ⟨.string "new", "personal", ()⟩

/-- A tab just opened on a server that stores one credential. -/
def freshTab : Tab Unit where
  app := { symbolicApp [] [oldLogin] with credentials := [], vaultReady := false }
  loads := []
  writes := []
  fresh := false

def travelOff : TravelNet :=
  ⟨true, true, true, true, true, true, "67e55044-10b1-426f-9247-bb680e5fe0c8", .replicate 12 0⟩

/-- A load all of whose requests meet the same fate. -/
def loadWith (answer : GetAnswer) : LoadNet :=
  ⟨answer, answer, answer, travelOff, fun _ => "67e55044-10b1-426f-9247-bb680e5fe0c8"⟩

/-- A load, and then an addition. -/
def loadThenAdd (answer : GetAnswer) : List (Event Unit) :=
  [.read (loadWith answer), .finish 0, .add newLogin, .settle symbolicNet]

theorem freshTab_holds : (freshTab.app.device.server .credentials).Holds symbolicPlatform
    (symbolicPlatform.credentials.stringify [oldLogin]) :=
  .inr (.inr ⟨_, _, rfl⟩)

theorem freshTab_idle : freshTab.Idle := ⟨rfl, rfl, rfl, rfl⟩

theorem loadThenAdd_careful :
    Along (Tab.step symbolicPlatform) freshTab (loadThenAdd .stored) Tab.Careful := by
  -- the load has answered, so the tab is fresh when the write begins
  refine along_cons trivial (along_cons trivial (along_cons ?_ (along_cons trivial ?_)))
  · rfl
  · exact along_nil _

theorem stored_kept_loadThenAdd :
    ∃ after, ((run (Tab.step symbolicPlatform) freshTab (loadThenAdd .stored)).app.device.server
        .credentials).Holds symbolicPlatform (symbolicPlatform.credentials.stringify after) ∧
      Kept [] [oldLogin] after :=
  stored_kept symbolicPlatform_ideal freshTab_holds freshTab_idle loadThenAdd_careful (.last _ _ _)

/-- **A failed load loses the vault**: the server is back when the next credential is added. -/
theorem failed_load_loses_vault :
    (freshTab.app.device.server .credentials).Holds symbolicPlatform
        (symbolicPlatform.credentials.stringify [oldLogin]) ∧
      ¬ ∃ after, ((run (Tab.step symbolicPlatform) freshTab (loadThenAdd .network)).app.device.server
          .credentials).Holds symbolicPlatform (symbolicPlatform.credentials.stringify after) ∧
        Kept (updatesOf (loadThenAdd .network)) [oldLogin] after := by
  refine ⟨freshTab_holds, ?_⟩
  rintro ⟨after, hholds, kept, added, rfl, hstands, hids⟩
  have hstored : ((run (Tab.step symbolicPlatform) freshTab (loadThenAdd .network)).app.device.server
      .credentials).Holds symbolicPlatform (symbolicPlatform.credentials.stringify [newLogin]) :=
    .inr (.inr ⟨_, _, rfl⟩)
  have heq := symbolicPlatform_ideal.credentials.stringify_inj
    (hholds.unique symbolicPlatform_ideal.aesGcm hstored)
  have hid := hids (by simp)
  cases kept with
  | nil => cases hstands
  | cons c rest =>
    obtain ⟨rfl, -⟩ := cons.inj heq
    revert hid
    simp [newLogin, oldLogin]

end PwdNow.Client
