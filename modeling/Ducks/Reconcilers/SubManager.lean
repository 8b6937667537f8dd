import Mathlib.Logic.Function.Basic
import Ducks.Api.Types
import Ducks.Errors

namespace Ducks.Reconcilers

open Ducks.Schema Ducks.Api Ducks.Errors

-- SubManagerReconciler of reconcilers/submanager.go. For each resource it builds a
-- sub-manager, runs its Start in a goroutine, and keeps the goroutine's done
-- channel and the cancel function of its context by the resource's UID.
-- Reconcile calls run one at a time; between them any sub-manager's Start may
-- return on its own.

-- client.Object: what the reconciler reads of a resource
class ClientObject (R : Type) where
  objectMeta : R → ObjectMeta

instance : ClientObject DuckType := ⟨DuckType.toObjectMeta⟩

structure SubManagerReconciler where
  name : String
  assertFinalizer : String

-- subManagerEntry. A done channel and a cancel function are named by the
-- sub-manager they were made for.
structure SubManagerEntry where
  done : Nat
  cancel : Nat
deriving DecidableEq, Repr

inductive SubManagerStatus
  -- made by submanager.New, never started
  | built
  -- mgr.Start is running
  | running
  -- Start returned and the goroutine waits to send on done
  | exited
  -- done was received from
  | joined
deriving DecidableEq, Repr

-- A sub-manager whose goroutine has not been joined
def SubManagerStatus.live : SubManagerStatus → Bool
  | .running | .exited => true
  | .built | .joined => false

-- What the code does not record of a sub-manager: the resource and local types
-- it was built from, where its goroutine is, and how often its cancel function
-- was called.
structure SubManager (R : Type) where
  uid : String
  resource : R
  localTypes : List GroupKind
  status : SubManagerStatus
  cancelCalls : Nat

-- The managers map, and beside it the sub-managers by the number they were made at
structure World (R : Type) where
  managers : String → Option SubManagerEntry
  subManagers : Nat → Option (SubManager R)
  nextId : Nat

-- The environment's answers to the three calls start makes
structure StartAnswers where
  localTypes : Except Error (List GroupKind)
  newManager : Except Error Unit
  setupWithSubManager : Except Error Unit

inductive Label (R : Type)
  | reconcile (resource : R) (answers : StartAnswers)
  -- the Start of a sub-manager returns on its own
  | exit (id : Nat)

variable {R : Type}

def World.init : World R :=
  { managers := fun _ => none, subManagers := fun _ => none, nextId := 0 }

def World.modifySubManager (w : World R) (id : Nat) (f : SubManager R → SubManager R) : World R :=
  { w with subManagers := Function.update w.subManagers id ((w.subManagers id).map f) }

-- submanager.New and context.WithCancel: a sub-manager and its cancel function
def World.newSubManager (w : World R) (uid : String) (resource : R) (localTypes : List GroupKind) :
    World R × Nat :=
  let made : SubManager R :=
    { uid := uid, resource := resource, localTypes := localTypes, status := .built, cancelCalls := 0 }
  ({ w with subManagers := Function.update w.subManagers w.nextId (some made), nextId := w.nextId + 1 },
    w.nextId)

-- cancel()
def World.cancel (w : World R) (id : Nat) : World R :=
  w.modifySubManager id fun m => { m with cancelCalls := m.cancelCalls + 1 }

-- go func() { done <- mgr.Start(ctx) }()
def World.goStart (w : World R) (id : Nat) : World R :=
  w.modifySubManager id fun m => { m with status := .running }

-- Start returns on its own; the goroutine then blocks on its send
def World.exit (w : World R) (id : Nat) : World R :=
  w.modifySubManager id fun m => if m.status = .running then { m with status := .exited } else m

-- <-manager.done: the cancelled context makes Start return, and its result is received
def World.receiveDone (w : World R) (id : Nat) : World R :=
  w.modifySubManager id fun m => { m with status := .joined }

def World.storeEntry (w : World R) (uid : String) (entry : SubManagerEntry) : World R :=
  { w with managers := Function.update w.managers uid (some entry) }

def World.deleteEntry (w : World R) (uid : String) : World R :=
  { w with managers := Function.update w.managers uid none }

def errMissingFinalizer (finalizer : String) : Error :=
  .new ("resource must contain finalizer \"" ++ finalizer ++ "\"")

-- SubManagerReconciler.start. A failure of LocalTypes is dropped: start returns no error.
def start [ClientObject R] (w : World R) (resource : R) (answers : StartAnswers) : World R × Option Error :=
  match answers.localTypes with
  | .error _ => (w, none)
  | .ok localTypes =>
    match answers.newManager with
    | .error err => (w, some err)
    | .ok () =>
      let uid := (ClientObject.objectMeta resource).uid
      let (w, id) := w.newSubManager uid resource localTypes
      match answers.setupWithSubManager with
      | .error err => (w.cancel id, some err)
      | .ok () => (((w.storeEntry uid { done := id, cancel := id })).goStart id, none)

-- SubManagerReconciler.shutdown; the error received from done is only logged
def shutdown [ClientObject R] (w : World R) (resource : R) : World R × Option Error :=
  let uid := (ClientObject.objectMeta resource).uid
  match w.managers uid with
  | some manager => (((w.cancel manager.cancel).receiveDone manager.done).deleteEntry uid, none)
  | none => (w, none)

def SubManagerReconciler.reconcile [ClientObject R] (r : SubManagerReconciler) (w : World R) (resource : R)
    (answers : StartAnswers) : World R × Option Error :=
  let objMeta := ClientObject.objectMeta resource
  if objMeta.deletionTimestamp.isSome then shutdown w resource
  else if !objMeta.finalizers.contains r.assertFinalizer then
    (w, some (errMissingFinalizer r.assertFinalizer))
  else if (w.managers objMeta.uid).isSome then (w, none)
  else start w resource answers

def SubManagerReconciler.step [ClientObject R] (r : SubManagerReconciler) (w : World R) : Label R → World R × Option Error
  | .reconcile resource answers => r.reconcile w resource answers
  | .exit id => (w.exit id, none)

inductive Reachable [ClientObject R] (r : SubManagerReconciler) : World R → Prop
  | init : Reachable r .init
  | step {w : World R} (l : Label R) : Reachable r w → Reachable r (r.step w l).1

-- DuckSubReconciler of the DuckType controller, whose LocalTypes never fails
def duckSubReconciler : SubManagerReconciler :=
  { name := "SubManagerReconciler", assertFinalizer := "duck.reconciler.io" ++ "/reconciler" }

def duckLocalTypes (t : DuckType) : List GroupKind :=
  [{ group := t.spec.group, kind := t.spec.kind }, { group := t.spec.group, kind := t.spec.listKind }]

-- A DuckType with the reconciler's finalizer, and the answers of a start of the
-- DuckSubReconciler in which New and SetupWithSubManager succeed
def finalizedDuckType : DuckType :=
  { name := "ducks.example.com", uid := "ducks", deletionTimestamp := none,
    finalizers := ["duck.reconciler.io/reconciler"],
    spec :=
      { group := "example.com", plural := "ducks", singular := "duck", kind := "Duck",
        listKind := "DuckList" },
    conditions := [] }

def duckStartAnswers (t : DuckType) : StartAnswers :=
  { localTypes := .ok (duckLocalTypes t), newManager := .ok (), setupWithSubManager := .ok () }

section Primitives

variable (w : World R)

@[simp] theorem modifySubManager_managers (id : Nat) (f : SubManager R → SubManager R) :
    (w.modifySubManager id f).managers = w.managers := rfl

@[simp] theorem modifySubManager_nextId (id : Nat) (f : SubManager R → SubManager R) :
    (w.modifySubManager id f).nextId = w.nextId := rfl

theorem modifySubManager_subManagers (id j : Nat) (f : SubManager R → SubManager R) :
    (w.modifySubManager id f).subManagers j =
      if j = id then (w.subManagers id).map f else w.subManagers j := by
  simp [World.modifySubManager, Function.update_apply]

@[simp] theorem storeEntry_subManagers (uid : String) (e : SubManagerEntry) :
    (w.storeEntry uid e).subManagers = w.subManagers := rfl

@[simp] theorem storeEntry_nextId (uid : String) (e : SubManagerEntry) :
    (w.storeEntry uid e).nextId = w.nextId := rfl

@[simp] theorem deleteEntry_subManagers (uid : String) :
    (w.deleteEntry uid).subManagers = w.subManagers := rfl

@[simp] theorem deleteEntry_nextId (uid : String) : (w.deleteEntry uid).nextId = w.nextId := rfl

@[simp] theorem storeEntry_managers (uid u : String) (e : SubManagerEntry) :
    (w.storeEntry uid e).managers u = if u = uid then some e else w.managers u := by
  simp [World.storeEntry, Function.update_apply]

@[simp] theorem deleteEntry_managers (uid u : String) :
    (w.deleteEntry uid).managers u = if u = uid then none else w.managers u := by
  simp [World.deleteEntry, Function.update_apply]

@[simp] theorem newSubManager_id (uid : String) (resource : R) (localTypes : List GroupKind) :
    (w.newSubManager uid resource localTypes).2 = w.nextId := rfl

@[simp] theorem newSubManager_managers (uid : String) (resource : R) (localTypes : List GroupKind) :
    (w.newSubManager uid resource localTypes).1.managers = w.managers := rfl

@[simp] theorem newSubManager_nextId (uid : String) (resource : R) (localTypes : List GroupKind) :
    (w.newSubManager uid resource localTypes).1.nextId = w.nextId + 1 := rfl

theorem newSubManager_subManagers (uid : String) (resource : R) (localTypes : List GroupKind) (j : Nat) :
    (w.newSubManager uid resource localTypes).1.subManagers j =
      if j = w.nextId then
        some { uid := uid, resource := resource, localTypes := localTypes, status := .built, cancelCalls := 0 }
      else w.subManagers j := by
  simp [World.newSubManager, Function.update_apply]

-- What shutdown of an entry, and the two ends of a start, make of the sub-managers
theorem stopEntry_subManagers {u : String} {e : SubManagerEntry} {m : SubManager R}
    (hdone : e.done = e.cancel) (hm : w.subManagers e.cancel = some m) (j : Nat) :
    (((w.cancel e.cancel).receiveDone e.done).deleteEntry u).subManagers j =
      if j = e.cancel then some { m with cancelCalls := m.cancelCalls + 1, status := .joined }
      else w.subManagers j := by
  simp only [deleteEntry_subManagers, World.receiveDone, World.cancel, hdone,
    modifySubManager_subManagers]
  split_ifs <;> simp [hm]

theorem buildCancel_subManagers (uid : String) (resource : R) (localTypes : List GroupKind) (j : Nat) :
    ((w.newSubManager uid resource localTypes).1.cancel w.nextId).subManagers j =
      if j = w.nextId then
        some { uid := uid, resource := resource, localTypes := localTypes, status := .built, cancelCalls := 1 }
      else w.subManagers j := by
  simp only [World.cancel, modifySubManager_subManagers, newSubManager_subManagers]
  split_ifs <;> simp

theorem buildStart_subManagers (uid : String) (resource : R) (localTypes : List GroupKind) (j : Nat) :
    (((w.newSubManager uid resource localTypes).1.storeEntry uid
      { done := w.nextId, cancel := w.nextId }).goStart w.nextId).subManagers j =
      if j = w.nextId then
        some { uid := uid, resource := resource, localTypes := localTypes, status := .running, cancelCalls := 0 }
      else w.subManagers j := by
  simp only [World.goStart, modifySubManager_subManagers, storeEntry_subManagers,
    newSubManager_subManagers]
  split_ifs <;> simp

end Primitives

section Invariant

-- The managers map and the goroutines agree: an entry names a live sub-manager
-- of its UID whose cancel function was never called; a live sub-manager is the
-- entry of its UID; a sub-manager that is not live had its cancel function
-- called exactly once.
structure Inv (w : World R) : Prop where
  fresh : ∀ i, w.nextId ≤ i → w.subManagers i = none
  entry : ∀ u e, w.managers u = some e → e.done = e.cancel ∧
    ∃ m, w.subManagers e.cancel = some m ∧ m.uid = u ∧ m.status.live ∧ m.cancelCalls = 0
  live : ∀ i m, w.subManagers i = some m → m.status.live → w.managers m.uid = some ⟨i, i⟩
  stopped : ∀ i m, w.subManagers i = some m → m.status.live = false → m.cancelCalls = 1

theorem inv_init : Inv (World.init : World R) where
  fresh := by simp [World.init]
  entry := by simp [World.init]
  live := by simp [World.init]
  stopped := by simp [World.init]

variable {w : World R}

theorem Inv.lt_nextId (hw : Inv w) {i : Nat} {m : SubManager R} (h : w.subManagers i = some m) :
    i < w.nextId := by
  by_contra hle
  rw [hw.fresh i (Nat.le_of_not_lt hle)] at h
  cases h

-- Changing a sub-manager in a way that keeps its UID, its liveness and its
-- cancel calls keeps the invariant.
theorem Inv.modifySubManager (hw : Inv w) {id : Nat} {f : SubManager R → SubManager R}
    (huid : ∀ m, (f m).uid = m.uid) (hlive : ∀ m, (f m).status.live = m.status.live)
    (hcalls : ∀ m, (f m).cancelCalls = m.cancelCalls) : Inv (w.modifySubManager id f) where
  fresh i hi := by
    rw [modifySubManager_subManagers]
    split_ifs with h
    · subst h; simp [hw.fresh _ hi]
    · exact hw.fresh i hi
  entry u e he := by
    obtain ⟨hdone, m, hm, hu, hl, hc⟩ := hw.entry u e he
    refine ⟨hdone, ?_⟩
    rw [modifySubManager_subManagers]
    split_ifs with h
    · subst h
      exact ⟨f m, by simp [hm], by rw [huid, hu], by rw [hlive]; exact hl, by rw [hcalls, hc]⟩
    · exact ⟨m, hm, hu, hl, hc⟩
  live i m' hm' hl := by
    rw [modifySubManager_subManagers] at hm'
    split_ifs at hm' with h
    · subst h
      obtain ⟨m, hm, rfl⟩ := Option.map_eq_some_iff.mp hm'
      rw [huid]
      exact hw.live _ m hm (by rw [← hlive]; exact hl)
    · exact hw.live i m' hm' hl
  stopped i m' hm' hl := by
    rw [modifySubManager_subManagers] at hm'
    split_ifs at hm' with h
    · subst h
      obtain ⟨m, hm, rfl⟩ := Option.map_eq_some_iff.mp hm'
      rw [hcalls]
      exact hw.stopped _ m hm (by rw [← hlive]; exact hl)
    · exact hw.stopped i m' hm' hl

theorem Inv.exit (hw : Inv w) (id : Nat) : Inv (w.exit id) := by
  refine hw.modifySubManager (fun m => ?_) (fun m => ?_) (fun m => ?_)
  all_goals split_ifs with h <;> simp_all [SubManagerStatus.live]

-- The entry of a UID is the one live sub-manager of that UID
theorem Inv.entry_eq (hw : Inv w) {u : String} {e : SubManagerEntry} (he : w.managers u = some e)
    {i : Nat} {m : SubManager R} (hm : w.subManagers i = some m) (hu : m.uid = u)
    (hl : m.status.live) : i = e.cancel := by
  have h := hw.live i m hm hl
  rw [hu, he] at h
  cases h
  rfl

-- Two live sub-managers of one UID are both its entry, so they are one.
theorem Inv.live_unique (hw : Inv w) {i j : Nat} {mi mj : SubManager R}
    (hi : w.subManagers i = some mi) (hj : w.subManagers j = some mj) (hu : mi.uid = mj.uid)
    (hli : mi.status.live) (hlj : mj.status.live) : i = j := by
  have h₁ := hw.live i mi hi hli
  have h₂ := hw.live j mj hj hlj
  rw [hu, h₂] at h₁
  cases h₁
  rfl

theorem Inv.cancel_cases (hw : Inv w) {i : Nat} {m : SubManager R} (hm : w.subManagers i = some m) :
    (m.cancelCalls = 0 ∧ w.managers m.uid = some ⟨i, i⟩) ∨
    (m.cancelCalls = 1 ∧ (m.status = .built ∨ m.status = .joined)) := by
  cases hl : m.status.live with
  | false =>
    refine .inr ⟨hw.stopped i m hm hl, ?_⟩
    cases hs : m.status <;> simp_all [SubManagerStatus.live]
  | true =>
    have he := hw.live i m hm hl
    obtain ⟨-, m', hm', -, -, hc⟩ := hw.entry _ _ he
    rw [hm] at hm'
    cases hm'
    exact .inl ⟨hc, he⟩

-- shutdown of an entry: its cancel function is called, its goroutine joined and
-- the entry deleted
theorem Inv.stopEntry (hw : Inv w) {u : String} {e : SubManagerEntry} (he : w.managers u = some e) :
    Inv (((w.cancel e.cancel).receiveDone e.done).deleteEntry u) := by
  obtain ⟨hdone, m, hm, hu, hl, hc⟩ := hw.entry u e he
  have hsub := stopEntry_subManagers w (u := u) hdone hm
  constructor
  · intro j hj
    have hj' : w.nextId ≤ j := by simpa [World.receiveDone, World.cancel] using hj
    rw [hsub, if_neg (by have := hw.lt_nextId hm; omega)]
    exact hw.fresh j hj'
  · intro u' e' he'
    simp only [deleteEntry_managers, World.receiveDone, World.cancel, modifySubManager_managers] at he'
    split_ifs at he' with hu'
    obtain ⟨hdone', m', hm', hu'', hl', hc'⟩ := hw.entry u' e' he'
    -- another entry names another sub-manager, since m is the entry of u
    have hne : e'.cancel ≠ e.cancel := by
      intro heq
      rw [heq, hm] at hm'
      cases hm'
      exact hu' (hu''.symm.trans hu)
    exact ⟨hdone', m', by rw [hsub, if_neg hne, hm'], hu'', hl', hc'⟩
  · intro j m' hm' hl'
    rw [hsub] at hm'
    split_ifs at hm' with hj
    · cases hm'
      simp [SubManagerStatus.live] at hl'
    · have hold := hw.live j m' hm' hl'
      have hne : m'.uid ≠ u := by
        intro heq
        exact hj (hw.entry_eq he hm' heq hl')
      simp [World.receiveDone, World.cancel, hne, hold]
  · intro j m' hm' hl'
    rw [hsub] at hm'
    split_ifs at hm' with hj
    · cases hm'
      simp [hc]
    · exact hw.stopped j m' hm' hl'

theorem shutdown_of_entry [ClientObject R] {resource : R} {e : SubManagerEntry}
    (he : w.managers (ClientObject.objectMeta resource).uid = some e) :
    shutdown w resource =
      (((w.cancel e.cancel).receiveDone e.done).deleteEntry (ClientObject.objectMeta resource).uid, none) := by
  simp [shutdown, he]

theorem shutdown_of_none [ClientObject R] {resource : R}
    (he : w.managers (ClientObject.objectMeta resource).uid = none) : shutdown w resource = (w, none) := by
  simp [shutdown, he]

theorem Inv.afterShutdown [ClientObject R] (hw : Inv w) (resource : R) : Inv (shutdown w resource).1 := by
  cases he : w.managers (ClientObject.objectMeta resource).uid with
  | some e => rw [shutdown_of_entry he]; exact hw.stopEntry he
  | none => rw [shutdown_of_none he]; exact hw

-- A start whose SetupWithSubManager fails: the sub-manager is built and its
-- cancel function called
theorem Inv.buildCancel (hw : Inv w) (uid : String) (resource : R) (localTypes : List GroupKind) :
    Inv ((w.newSubManager uid resource localTypes).1.cancel w.nextId) := by
  have hsub := buildCancel_subManagers w uid resource localTypes
  constructor
  · intro j hj
    simp [World.cancel] at hj
    rw [hsub, if_neg (by omega)]
    exact hw.fresh j (by omega)
  · intro u' e' he'
    simp only [World.cancel, modifySubManager_managers, newSubManager_managers] at he'
    obtain ⟨hdone', m', hm', rest⟩ := hw.entry u' e' he'
    exact ⟨hdone', m', by rw [hsub, if_neg (Nat.ne_of_lt (hw.lt_nextId hm')), hm'], rest⟩
  · intro j m' hm' hl'
    rw [hsub] at hm'
    split_ifs at hm' with hj
    · cases hm'
      simp [SubManagerStatus.live] at hl'
    · simpa [World.cancel] using hw.live j m' hm' hl'
  · intro j m' hm' hl'
    rw [hsub] at hm'
    split_ifs at hm' with hj
    · cases hm'
      rfl
    · exact hw.stopped j m' hm' hl'

-- A start that succeeds: the sub-manager is built, stored as the entry of its
-- UID, which had none, and its goroutine started
theorem Inv.buildStart (hw : Inv w) {uid : String} (hnone : w.managers uid = none) (resource : R)
    (localTypes : List GroupKind) :
    Inv (((w.newSubManager uid resource localTypes).1.storeEntry uid
      { done := w.nextId, cancel := w.nextId }).goStart w.nextId) := by
  have hsub := buildStart_subManagers w uid resource localTypes
  constructor
  · intro j hj
    simp [World.goStart] at hj
    rw [hsub, if_neg (by omega)]
    exact hw.fresh j (by omega)
  · intro u' e' he'
    simp only [World.goStart, modifySubManager_managers, storeEntry_managers, newSubManager_managers] at he'
    split_ifs at he' with hu'
    · cases he'
      exact ⟨rfl, _, by rw [hsub, if_pos rfl], hu'.symm, rfl, rfl⟩
    · obtain ⟨hdone', m', hm', rest⟩ := hw.entry u' e' he'
      exact ⟨hdone', m', by rw [hsub, if_neg (Nat.ne_of_lt (hw.lt_nextId hm')), hm'], rest⟩
  · intro j m' hm' hl'
    rw [hsub] at hm'
    split_ifs at hm' with hj
    · cases hm'
      simp [World.goStart, hj]
    · have hold := hw.live j m' hm' hl'
      -- the UID had no entry, so no live sub-manager of it
      have hne : m'.uid ≠ uid := by
        intro heq
        rw [heq, hnone] at hold
        cases hold
      simp [World.goStart, hne, hold]
  · intro j m' hm' hl'
    rw [hsub] at hm'
    split_ifs at hm' with hj
    · cases hm'
      simp [SubManagerStatus.live] at hl'
    · exact hw.stopped j m' hm' hl'

section Calls

variable [ClientObject R] {w : World R} {resource : R} {answers : StartAnswers}

theorem start_of_localTypes_error {err : Error} (h : answers.localTypes = .error err) :
    start w resource answers = (w, none) := by
  simp [start, h]

theorem start_of_new_error {localTypes : List GroupKind} {err : Error}
    (hl : answers.localTypes = .ok localTypes) (hn : answers.newManager = .error err) :
    start w resource answers = (w, some err) := by
  simp [start, hl, hn]

theorem start_of_setup_error {localTypes : List GroupKind} {err : Error}
    (hl : answers.localTypes = .ok localTypes) (hn : answers.newManager = .ok ())
    (hs : answers.setupWithSubManager = .error err) :
    start w resource answers =
      ((w.newSubManager (ClientObject.objectMeta resource).uid resource localTypes).1.cancel w.nextId,
        some err) := by
  simp [start, hl, hn, hs]

theorem start_of_ok {localTypes : List GroupKind} (hl : answers.localTypes = .ok localTypes)
    (hn : answers.newManager = .ok ()) (hs : answers.setupWithSubManager = .ok ()) :
    start w resource answers =
      (((w.newSubManager (ClientObject.objectMeta resource).uid resource localTypes).1.storeEntry
        (ClientObject.objectMeta resource).uid { done := w.nextId, cancel := w.nextId }).goStart w.nextId,
        none) := by
  simp [start, hl, hn, hs]

variable (r : SubManagerReconciler)

theorem reconcile_of_deleted {t : Nat} (hd : (ClientObject.objectMeta resource).deletionTimestamp = some t) :
    r.reconcile w resource answers = shutdown w resource := by
  simp [SubManagerReconciler.reconcile, hd]

theorem reconcile_of_missing_finalizer (hd : (ClientObject.objectMeta resource).deletionTimestamp = none)
    (hf : r.assertFinalizer ∉ (ClientObject.objectMeta resource).finalizers) :
    r.reconcile w resource answers = (w, some (errMissingFinalizer r.assertFinalizer)) := by
  simp [SubManagerReconciler.reconcile, hd, hf]

theorem reconcile_of_entry {e : SubManagerEntry} (hd : (ClientObject.objectMeta resource).deletionTimestamp = none)
    (hf : r.assertFinalizer ∈ (ClientObject.objectMeta resource).finalizers)
    (he : w.managers (ClientObject.objectMeta resource).uid = some e) :
    r.reconcile w resource answers = (w, none) := by
  simp [SubManagerReconciler.reconcile, hd, hf, he]

theorem reconcile_of_no_entry (hd : (ClientObject.objectMeta resource).deletionTimestamp = none)
    (hf : r.assertFinalizer ∈ (ClientObject.objectMeta resource).finalizers)
    (he : w.managers (ClientObject.objectMeta resource).uid = none) :
    r.reconcile w resource answers = start w resource answers := by
  simp [SubManagerReconciler.reconcile, hd, hf, he]

-- Everything one Reconcile can do: shut down, change nothing, build a
-- sub-manager and cancel it, or build one and start it under a UID without entry.
theorem reconcile_cases (w : World R) (resource : R) (answers : StartAnswers) :
    let uid := (ClientObject.objectMeta resource).uid
    let out := r.reconcile w resource answers
    ((ClientObject.objectMeta resource).deletionTimestamp.isSome ∧ out = shutdown w resource) ∨
    out.1 = w ∨
    (w.managers uid = none ∧ ∃ localTypes err,
      out = ((w.newSubManager uid resource localTypes).1.cancel w.nextId, some err)) ∨
    (w.managers uid = none ∧ ∃ localTypes,
      out = (((w.newSubManager uid resource localTypes).1.storeEntry uid
        { done := w.nextId, cancel := w.nextId }).goStart w.nextId, none)) := by
  dsimp only
  cases hd : (ClientObject.objectMeta resource).deletionTimestamp with
  | some t => exact .inl ⟨by simp, reconcile_of_deleted r hd⟩
  | none =>
    by_cases hf : r.assertFinalizer ∈ (ClientObject.objectMeta resource).finalizers
    case neg => exact .inr (.inl (by simp [reconcile_of_missing_finalizer r hd hf]))
    cases he : w.managers (ClientObject.objectMeta resource).uid with
    | some e => exact .inr (.inl (by simp [reconcile_of_entry r hd hf he]))
    | none =>
        have hstart : r.reconcile w resource answers = start w resource answers :=
          reconcile_of_no_entry r hd hf he
        -- start decides by the three answers in turn
        cases hl : answers.localTypes with
        | error err => exact .inr (.inl (by simp [hstart, start_of_localTypes_error hl]))
        | ok localTypes =>
          cases hn : answers.newManager with
          | error err => exact .inr (.inl (by simp [hstart, start_of_new_error hl hn]))
          | ok _ =>
            cases hs : answers.setupWithSubManager with
            | error err => exact .inr (.inr (.inl ⟨rfl, localTypes, err, hstart.trans (start_of_setup_error hl hn hs)⟩))
            | ok _ => exact .inr (.inr (.inr ⟨rfl, localTypes, hstart.trans (start_of_ok hl hn hs)⟩))

end Calls

section Reachable

variable [ClientObject R] {r : SubManagerReconciler} {w : World R}

theorem Inv.afterReconcile (hw : Inv w) (resource : R) (answers : StartAnswers) :
    Inv (r.reconcile w resource answers).1 := by
  rcases reconcile_cases r w resource answers with
    ⟨_, h⟩ | h | ⟨hn, localTypes, err, h⟩ | ⟨hn, localTypes, h⟩
  · rw [h]; exact hw.afterShutdown resource
  · rw [h]; exact hw
  · rw [h]; exact hw.buildCancel _ resource localTypes
  · rw [h]; exact hw.buildStart hn resource localTypes

theorem Inv.afterStep (hw : Inv w) (l : Label R) : Inv (r.step w l).1 := by
  cases l with
  | reconcile resource answers => exact hw.afterReconcile resource answers
  | exit id => exact hw.exit id

theorem Reachable.inv (h : Reachable r w) : Inv w := by
  induction h with
  | init => exact inv_init
  | step l _ ih => exact ih.afterStep l

end Reachable

end Invariant

section Safety

variable [ClientObject R] {r : SubManagerReconciler} {w : World R}

theorem shutdown_snd (resource : R) : (shutdown w resource).2 = none := by
  cases he : w.managers (ClientObject.objectMeta resource).uid with
  | some e => rw [shutdown_of_entry he]
  | none => rw [shutdown_of_none he]

-- A step that fails has left the managers map alone, and any sub-manager it
-- made is built and cancelled.
theorem step_error (l : Label R) (herr : (r.step w l).2 ≠ none) :
    (r.step w l).1.managers = w.managers ∧
    ∀ i m, w.subManagers i = none → (r.step w l).1.subManagers i = some m →
      m.status = .built ∧ m.cancelCalls = 1 := by
  cases l with
  | exit id => exact absurd rfl herr
  | reconcile resource answers =>
    simp only [SubManagerReconciler.step] at herr ⊢
    rcases reconcile_cases r w resource answers with
      ⟨_, h⟩ | h | ⟨_, localTypes, err, h⟩ | ⟨_, localTypes, h⟩
    · exact absurd (by rw [h, shutdown_snd]) herr
    · rw [h]
      refine ⟨rfl, fun i m hi hi' => ?_⟩
      rw [hi] at hi'
      cases hi'
    · rw [h]
      refine ⟨rfl, fun i m hi hi' => ?_⟩
      rw [buildCancel_subManagers] at hi'
      split_ifs at hi'
      · cases hi'
        exact ⟨rfl, rfl⟩
      · rw [hi] at hi'
        cases hi'
    · exact absurd (by rw [h]) herr

-- Reconcile of a deleted resource leaves its UID without entry
theorem reconcile_deleted_managers {resource : R} {answers : StartAnswers} {t : Nat}
    (hd : (ClientObject.objectMeta resource).deletionTimestamp = some t) :
    (r.reconcile w resource answers).1.managers (ClientObject.objectMeta resource).uid = none := by
  rw [reconcile_of_deleted r hd]
  cases he : w.managers (ClientObject.objectMeta resource).uid with
  | some e => simp [shutdown_of_entry he]
  | none => rw [shutdown_of_none he]; exact he

-- An entry leaves the map only through shutdown of its UID, and that shutdown has
-- called the entry's cancel function once and received from its done channel.
theorem Inv.entry_removed (hw : Inv w) (l : Label R) {u : String} {e : SubManagerEntry}
    (he : w.managers u = some e) (hne : (r.step w l).1.managers u ≠ some e) :
    (∃ resource answers, l = .reconcile resource answers ∧ (ClientObject.objectMeta resource).uid = u ∧
      (ClientObject.objectMeta resource).deletionTimestamp.isSome) ∧
    (r.step w l).1.managers u = none ∧
    ∃ m, (r.step w l).1.subManagers e.cancel = some m ∧ m.cancelCalls = 1 ∧ m.status = .joined := by
  cases l with
  | exit id => exact absurd he hne
  | reconcile resource answers =>
    simp only [SubManagerReconciler.step] at hne ⊢
    rcases reconcile_cases r w resource answers with
      ⟨hd, h⟩ | h | ⟨_, localTypes, err, h⟩ | ⟨hn, localTypes, h⟩
    · cases he' : w.managers (ClientObject.objectMeta resource).uid with
      | none => rw [h, shutdown_of_none he'] at hne; exact absurd he hne
      | some e' =>
        rw [h, shutdown_of_entry he'] at hne ⊢
        -- the map changed at u, so u is the UID shut down and e its entry
        have hu : u = (ClientObject.objectMeta resource).uid := by
          by_contra hu
          simp [hu, he, World.receiveDone, World.cancel] at hne
        subst hu
        rw [he] at he'
        cases he'
        obtain ⟨hdone, m, hm, -, -, hc⟩ := hw.entry _ e he
        refine ⟨⟨resource, answers, rfl, rfl, hd⟩, by simp,
          { m with cancelCalls := m.cancelCalls + 1, status := .joined }, ?_, by simp [hc], rfl⟩
        rw [stopEntry_subManagers w hdone hm, if_pos rfl]
    · rw [h] at hne; exact absurd he hne
    · rw [h] at hne; exact absurd he hne
    · rw [h] at hne
      have hu : u ≠ (ClientObject.objectMeta resource).uid := by
        rintro rfl
        rw [hn] at he
        cases he
      simp [World.goStart, hu, he] at hne

-- Over every run, whatever the environment answers: no two live sub-managers share
-- a UID; every cancel function made is either its UID's entry and uncalled, or
-- was called exactly once, by the start that failed or by the shutdown that
-- joined its sub-manager and deleted its entry; a failing Reconcile leaves the
-- managers map alone; and Reconcile of a deleted resource leaves no entry.
theorem subManager_entries_safe (hw : Reachable r w) (l : Label R) :
    (∀ i j mi mj, w.subManagers i = some mi → w.subManagers j = some mj → mi.uid = mj.uid →
      mi.status.live → mj.status.live → i = j) ∧
    (∀ i m, w.subManagers i = some m →
      (m.cancelCalls = 0 ∧ w.managers m.uid = some ⟨i, i⟩) ∨
      (m.cancelCalls = 1 ∧ (m.status = .built ∨ m.status = .joined))) ∧
    ((r.step w l).2 ≠ none → ∀ i m, w.subManagers i = none → (r.step w l).1.subManagers i = some m →
      m.status = .built ∧ m.cancelCalls = 1) ∧
    (∀ u e, w.managers u = some e → (r.step w l).1.managers u ≠ some e →
      (∃ resource answers, l = .reconcile resource answers ∧ (ClientObject.objectMeta resource).uid = u ∧
        (ClientObject.objectMeta resource).deletionTimestamp.isSome) ∧
      (r.step w l).1.managers u = none ∧
      ∃ m, (r.step w l).1.subManagers e.cancel = some m ∧ m.cancelCalls = 1 ∧ m.status = .joined) ∧
    ((r.step w l).2 ≠ none → (r.step w l).1.managers = w.managers) ∧
    (∀ resource answers t, l = .reconcile resource answers →
      (ClientObject.objectMeta resource).deletionTimestamp = some t →
      (r.step w l).1.managers (ClientObject.objectMeta resource).uid = none) := by
  have hinv := hw.inv
  refine ⟨fun i j mi mj hi hj hu hli hlj => hinv.live_unique hi hj hu hli hlj,
    fun i m hm => hinv.cancel_cases hm, fun herr => (step_error l herr).2,
    fun u e he hne => hinv.entry_removed l he hne, fun herr => (step_error l herr).1, ?_⟩
  rintro resource answers t rfl hd
  exact reconcile_deleted_managers hd

-- The DuckType's sub-manager started, and the DuckType deleted
def deletedDuckType : DuckType := { finalizedDuckType with deletionTimestamp := some 1 }

def startedWorld : World DuckType :=
  (duckSubReconciler.step World.init (.reconcile finalizedDuckType (duckStartAnswers finalizedDuckType))).1

theorem deleted_duckType_entry_removed :
    (duckSubReconciler.step startedWorld (.reconcile deletedDuckType (duckStartAnswers deletedDuckType))).1.managers
      "ducks" = none :=
  (subManager_entries_safe (Reachable.step _ Reachable.init)
    (.reconcile deletedDuckType (duckStartAnswers deletedDuckType))).2.2.2.2.2
    deletedDuckType (duckStartAnswers deletedDuckType) 1 rfl rfl

end Safety

section Running

variable [ClientObject R]

-- What a successful Reconcile is meant to leave: a sub-manager of the resource's
-- UID running, built from the resource as it is now
def SubManagerRunning (w : World R) (resource : R) : Prop :=
  ∃ i m, w.subManagers i = some m ∧ m.uid = (ClientObject.objectMeta resource).uid ∧
    m.status = .running ∧ m.resource = resource

variable {r : SubManagerReconciler} {w : World R} {resource : R}

theorem Inv.not_running_of_none (hw : Inv w)
    (he : w.managers (ClientObject.objectMeta resource).uid = none) : ¬ SubManagerRunning w resource := by
  rintro ⟨i, m, hm, hu, hs, -⟩
  have h := hw.live i m hm (by simp [hs, SubManagerStatus.live])
  rw [hu, he] at h
  cases h

-- A running sub-manager of a UID with an entry is the entry's
theorem Inv.running_is_entry (hw : Inv w) {e : SubManagerEntry}
    (he : w.managers (ClientObject.objectMeta resource).uid = some e) (hrun : SubManagerRunning w resource) :
    ∃ m, w.subManagers e.cancel = some m ∧ m.status = .running ∧ m.resource = resource := by
  obtain ⟨i, m, hm, hu, hs, hr⟩ := hrun
  have hi := hw.entry_eq he hm hu (by simp [hs, SubManagerStatus.live])
  subst hi
  exact ⟨m, hm, hs, hr⟩

-- Reconcile reports success for a resource that is neither deleted nor missing its
-- finalizer, yet no sub-manager built from it runs, when LocalTypes failed, when
-- the entry's sub-manager has exited, or when the entry's sub-manager was built
-- from an earlier state of the resource.
theorem reconcile_success_without_running_subManager (hw : Reachable r w) (resource : R)
    (answers : StartAnswers) (hd : (ClientObject.objectMeta resource).deletionTimestamp = none)
    (hf : r.assertFinalizer ∈ (ClientObject.objectMeta resource).finalizers) :
    (w.managers (ClientObject.objectMeta resource).uid = none → (∃ err, answers.localTypes = .error err) →
      (r.reconcile w resource answers).2 = none ∧
      ¬ SubManagerRunning (r.reconcile w resource answers).1 resource) ∧
    (∀ e m, w.managers (ClientObject.objectMeta resource).uid = some e → w.subManagers e.cancel = some m →
      m.status = .exited →
      (r.reconcile w resource answers).2 = none ∧
      ¬ SubManagerRunning (r.reconcile w resource answers).1 resource) ∧
    (∀ e m, w.managers (ClientObject.objectMeta resource).uid = some e → w.subManagers e.cancel = some m →
      m.resource ≠ resource →
      (r.reconcile w resource answers).2 = none ∧
      ¬ SubManagerRunning (r.reconcile w resource answers).1 resource) := by
  have hinv := hw.inv
  refine ⟨?_, ?_, ?_⟩
  · rintro he ⟨err, hl⟩
    rw [reconcile_of_no_entry r hd hf he, start_of_localTypes_error hl]
    exact ⟨rfl, hinv.not_running_of_none he⟩
  · intro e m he hm hs
    rw [reconcile_of_entry r hd hf he]
    refine ⟨rfl, fun hrun => ?_⟩
    obtain ⟨m', hm', hs', -⟩ := hinv.running_is_entry he hrun
    rw [hm] at hm'
    cases hm'
    rw [hs] at hs'
    cases hs'
  · intro e m he hm hr
    rw [reconcile_of_entry r hd hf he]
    refine ⟨rfl, fun hrun => ?_⟩
    obtain ⟨m', hm', -, hr'⟩ := hinv.running_is_entry he hrun
    rw [hm] at hm'
    cases hm'
    exact hr hr'

-- The DuckType's sub-manager started, then its Start returned on its own
def exitedWorld : World DuckType :=
  (duckSubReconciler.step (duckSubReconciler.step World.init
    (.reconcile finalizedDuckType (duckStartAnswers finalizedDuckType))).1 (.exit 0)).1

theorem exited_duck_subManager_not_restarted :
    (duckSubReconciler.reconcile exitedWorld finalizedDuckType (duckStartAnswers finalizedDuckType)).2 = none ∧
    ¬ SubManagerRunning
      (duckSubReconciler.reconcile exitedWorld finalizedDuckType (duckStartAnswers finalizedDuckType)).1
      finalizedDuckType :=
  (reconcile_success_without_running_subManager (Reachable.step _ (Reachable.step _ Reachable.init))
    finalizedDuckType (duckStartAnswers finalizedDuckType) rfl (by decide)).2.1 ⟨0, 0⟩ _ rfl rfl rfl

end Running


end Ducks.Reconcilers
