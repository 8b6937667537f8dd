import Ducks.Client.Broker
import Ducks.Client.Informers

namespace Ducks.Client

open Ducks.Schema Ducks.Api Ducks.Errors Ducks.Lib

-- The runnable NewBroker adds to the manager, run beside the broker it feeds.
-- Once the manager's context is done it takes the mutex m, cancels the broker's
-- context and removes the duck-type handler and then each duck handler, returning
-- at the first removal that fails. The duck-type handler takes m too; the duck
-- handlers do not, and each calls the blocking broker.Publish. An informer runs
-- one registration's handler on one notification at a time, and a removed
-- handler that is already running runs to its end.

inductive Phase
  | running
  -- holds m and has called cancel()
  | cancelled
  -- in the range over duckRegistrations; remaining are the registrations not yet removed
  | removing (remaining : List Registration)
  | returned (err : Option Error)
deriving DecidableEq, Repr

def Phase.holdsLock : Phase → Bool
  | .cancelled | .removing _ => true
  | .running | .returned _ => false

structure Runnable where
  broker : Broker Object
  registry : Registry
  duckTypeRegistered : Bool
  -- the duck-type handler's call in progress: the informer has made it, its object
  -- is converted, and it waits for m
  duckTypeCall : Option DuckNotification
  phase : Phase
  -- the duck handlers inside broker.Publish, with the object each publishes
  publishing : List (Registration × Object)

inductive RunnableLabel
  -- the broker's loop, Subscribe and the subscribers
  | broker (l : Label Object)
  -- <-ctx.Done(), m.Lock(), cancel()
  | stop
  | removeDuckTypeHandler (answer : Except Error Unit)
  | removeDuckHandler (registration : Registration) (answer : Except Error Unit)
  | finish
  -- the duck-type informer calls the duck-type handler on a notification
  | duckTypeEvent (n : DuckNotification)
  -- that call takes m and runs informOn or the removal of DeleteFunc
  | duckTypeLocked (answers : InformAnswers)
  | duckEvent (registration : Registration) (e : DuckEvent)
  -- a duck handler's send on publishCh completes
  | publish (registration : Registration)

-- The runnable after Started, with the broker's goroutine running
def Runnable.init : Runnable :=
  { broker := .init, registry := .init, duckTypeRegistered := true, duckTypeCall := none, phase := .running,
    publishing := [] }

-- One step, or none when it cannot be taken. A handler that panics ends the
-- process, so the model has no step for it.
def Runnable.step (s : Runnable) : RunnableLabel → Option Runnable
  | .broker l =>
    match l with
    -- Publish is called by the duck handlers, and the broker's context is cancelled by stop
    | .publish _ | .cancelBroker => none
    | l => (s.broker.step l).map fun b => { s with broker := b }
  | .stop =>
    match s.phase with
    | .running => (s.broker.step .cancelBroker).map fun b => { s with broker := b, phase := .cancelled }
    | _ => none
  | .removeDuckTypeHandler answer =>
    match s.phase, answer with
    | .cancelled, .error err => some { s with phase := .returned (some err) }
    | .cancelled, .ok () =>
      some { s with duckTypeRegistered := false, phase := .removing s.registry.handlers }
    | _, _ => none
  | .removeDuckHandler registration answer =>
    match s.phase with
    | .removing remaining =>
      if registration ∈ remaining then
        match answer with
        | .error err => some { s with phase := .returned (some err) }
        | .ok () =>
          some { s with registry := { s.registry with handlers := s.registry.handlers.erase registration },
                        phase := .removing (remaining.erase registration) }
      else none
    | _ => none
  | .finish =>
    match s.phase with
    | .removing [] => some { s with phase := .returned none }
    | _ => none
  | .duckTypeEvent n =>
    if s.duckTypeRegistered = true ∧ s.duckTypeCall = none then
      match n.toUnstructured with
      | .ok () => some { s with duckTypeCall := some n }
      | .error _ => none
    else none
  | .duckTypeLocked answers =>
    match s.duckTypeCall with
    | some n =>
      if s.phase.holdsLock = false then
        match s.registry.onDuckType n answers with
        | .ok registry => some { s with registry := registry, duckTypeCall := none }
        | .error _ => none
      else none
    | none => none
  | .duckEvent registration e =>
    if registration ∈ s.registry.handlers ∧ registration ∉ s.publishing.map (·.1) then
      match duckHandler e with
      | .ok obj => some { s with publishing := s.publishing ++ [(registration, obj)] }
      | .error _ => none
    else none
  | .publish registration =>
    match s.publishing.find? (·.1 = registration) with
    | some p => (s.broker.step (.publish p.2)).map fun b =>
      { s with broker := b, publishing := s.publishing.erase p }
    | none => none

def Runnable.run (s : Runnable) (labels : List RunnableLabel) : Option Runnable :=
  labels.foldlM Runnable.step s

inductive Runnable.Reachable : Runnable → Prop
  | init : Runnable.Reachable .init
  | step {s s' : Runnable} (l : RunnableLabel) : Runnable.Reachable s → s.step l = some s' →
      Runnable.Reachable s'

theorem Runnable.run_cons (s : Runnable) (l : RunnableLabel) (ls : List RunnableLabel) :
    s.run (l :: ls) = (s.step l).bind fun s' => s'.run ls := by
  simp only [Runnable.run, List.foldlM_cons]
  rfl

theorem Runnable.run_append (s : Runnable) (ls₁ ls₂ : List RunnableLabel) :
    s.run (ls₁ ++ ls₂) = (s.run ls₁).bind fun s' => s'.run ls₂ := by
  simp only [Runnable.run, List.foldlM_append]
  rfl

theorem Runnable.Reachable.run {s s' : Runnable} (h : s.Reachable) (ls : List RunnableLabel)
    (hr : s.run ls = some s') : s'.Reachable :=
  foldlM_preserves Runnable.Reachable (fun l hs hl => hs.step l hl) ls h hr

section Steps

-- What each step does, read off the step function once. The lemmas unfold step
-- through its definition rather than simp with its equation lemmas, which each of
-- them would otherwise wait for another to generate.
variable {s s' : Runnable}

theorem Runnable.step_broker {l : Label Object} (h : s.step (.broker l) = some s') :
    (∀ msg, l ≠ .publish msg) ∧ l ≠ .cancelBroker ∧
      ∃ b, s.broker.step l = some b ∧ s' = { s with broker := b } := by
  cases l <;> simp only [Runnable.step, reduceCtorEq, Option.map_eq_some_iff] at h
  all_goals
    obtain ⟨b, hb, rfl⟩ := h
    exact ⟨fun _ => nofun, nofun, b, hb, rfl⟩

theorem Runnable.step_stop (h : s.step .stop = some s') :
    s.phase = .running ∧ ∃ b, s.broker.step .cancelBroker = some b ∧
      s' = { s with broker := b, phase := .cancelled } := by
  unfold Runnable.step at h
  dsimp only at h
  split at h
  · obtain ⟨b, hb, rfl⟩ := Option.map_eq_some_iff.mp h
    exact ⟨‹_›, b, hb, rfl⟩
  · cases h

theorem Runnable.step_removeDuckTypeHandler {answer : Except Error Unit}
    (h : s.step (.removeDuckTypeHandler answer) = some s') :
    s.phase = .cancelled ∧
      ((∃ err, answer = .error err ∧ s' = { s with phase := .returned (some err) }) ∨
        (answer = .ok () ∧
          s' = { s with duckTypeRegistered := false, phase := .removing s.registry.handlers })) := by
  unfold Runnable.step at h
  dsimp only at h
  split at h
  · cases h
    exact ⟨‹_›, .inl ⟨_, rfl, rfl⟩⟩
  · cases h
    exact ⟨‹_›, .inr ⟨rfl, rfl⟩⟩
  · cases h

theorem Runnable.step_removeDuckHandler {registration : Registration} {answer : Except Error Unit}
    (h : s.step (.removeDuckHandler registration answer) = some s') :
    ∃ remaining, s.phase = .removing remaining ∧ registration ∈ remaining ∧
      ((∃ err, answer = .error err ∧ s' = { s with phase := .returned (some err) }) ∨
        (answer = .ok () ∧
          s' = { s with registry := { s.registry with handlers := s.registry.handlers.erase registration },
                        phase := .removing (remaining.erase registration) })) := by
  unfold Runnable.step at h
  dsimp only at h
  split at h
  · split_ifs at h with hmem
    split at h
    · cases h
      exact ⟨_, ‹_›, hmem, .inl ⟨_, rfl, rfl⟩⟩
    · cases h
      exact ⟨_, ‹_›, hmem, .inr ⟨rfl, rfl⟩⟩
  · cases h

theorem Runnable.step_finish (h : s.step .finish = some s') :
    s.phase = .removing [] ∧ s' = { s with phase := .returned none } := by
  unfold Runnable.step at h
  dsimp only at h
  split at h
  · cases h
    exact ⟨‹_›, rfl⟩
  · cases h

theorem Runnable.step_duckTypeEvent {n : DuckNotification} (h : s.step (.duckTypeEvent n) = some s') :
    s.duckTypeRegistered = true ∧ s.duckTypeCall = none ∧ n.toUnstructured = .ok () ∧
      s' = { s with duckTypeCall := some n } := by
  unfold Runnable.step at h
  dsimp only at h
  split_ifs at h with hfree
  split at h
  · cases h
    exact ⟨hfree.1, hfree.2, ‹_›, rfl⟩
  · cases h

theorem Runnable.step_duckTypeLocked {answers : InformAnswers} (h : s.step (.duckTypeLocked answers) = some s') :
    ∃ n, s.duckTypeCall = some n ∧ s.phase.holdsLock = false ∧
      ∃ registry, s.registry.onDuckType n answers = .ok registry ∧
        s' = { s with registry := registry, duckTypeCall := none } := by
  unfold Runnable.step at h
  dsimp only at h
  split at h
  · split_ifs at h with hlock
    split at h
    · cases h
      exact ⟨_, ‹_›, hlock, _, ‹_›, rfl⟩
    · cases h
  · cases h

theorem Runnable.step_duckEvent {registration : Registration} {e : DuckEvent}
    (h : s.step (.duckEvent registration e) = some s') :
    registration ∈ s.registry.handlers ∧ registration ∉ s.publishing.map (·.1) ∧
      ∃ obj, duckHandler e = .ok obj ∧ s' = { s with publishing := s.publishing ++ [(registration, obj)] } := by
  unfold Runnable.step at h
  dsimp only at h
  split_ifs at h with hfree
  split at h
  · cases h
    exact ⟨hfree.1, hfree.2, _, ‹_›, rfl⟩
  · cases h

theorem Runnable.step_publish {registration : Registration}
    (h : s.step (.publish registration) = some s') :
    ∃ p, s.publishing.find? (·.1 = registration) = some p ∧ ∃ b, s.broker.step (.publish p.2) = some b ∧
      s' = { s with broker := b, publishing := s.publishing.erase p } := by
  unfold Runnable.step at h
  dsimp only at h
  split at h
  · obtain ⟨b, hb, rfl⟩ := Option.map_eq_some_iff.mp h
    exact ⟨_, ‹_›, b, hb, rfl⟩
  · cases h

end Steps

section Simulation

variable {s s' : Runnable}

-- The broker inside the runnable takes broker steps and no others
theorem Runnable.step_broker_cases {l : RunnableLabel} (h : s.step l = some s') :
    s'.broker = s.broker ∨ ∃ bl, s.broker.step bl = some s'.broker := by
  cases l with
  | broker l =>
    obtain ⟨-, -, b, hb, rfl⟩ := Runnable.step_broker h
    exact .inr ⟨l, hb⟩
  | stop =>
    obtain ⟨-, b, hb, rfl⟩ := Runnable.step_stop h
    exact .inr ⟨.cancelBroker, hb⟩
  | removeDuckTypeHandler answer =>
    obtain ⟨-, ⟨err, -, rfl⟩ | ⟨-, rfl⟩⟩ := Runnable.step_removeDuckTypeHandler h <;> exact .inl rfl
  | removeDuckHandler registration answer =>
    obtain ⟨remaining, -, -, ⟨err, -, rfl⟩ | ⟨-, rfl⟩⟩ := Runnable.step_removeDuckHandler h <;>
      exact .inl rfl
  | finish =>
    obtain ⟨-, rfl⟩ := Runnable.step_finish h
    exact .inl rfl
  | duckTypeEvent n =>
    obtain ⟨-, -, -, rfl⟩ := Runnable.step_duckTypeEvent h
    exact .inl rfl
  | duckTypeLocked answers =>
    obtain ⟨n, -, -, registry, -, rfl⟩ := Runnable.step_duckTypeLocked h
    exact .inl rfl
  | duckEvent registration e =>
    obtain ⟨-, -, obj, -, rfl⟩ := Runnable.step_duckEvent h
    exact .inl rfl
  | publish registration =>
    obtain ⟨p, -, b, hb, rfl⟩ := Runnable.step_publish h
    exact .inr ⟨.publish p.2, hb⟩

-- So every broker the runnable reaches is one the broker alone reaches, and what
-- the broker keeps over its runs it keeps inside the runnable
theorem Runnable.Reachable.broker (h : s.Reachable) : s.broker.Reachable := by
  induction h with
  | init => exact .init
  | step l _ hs ih =>
    rcases Runnable.step_broker_cases hs with heq | ⟨bl, hb⟩
    · rw [heq]
      exact ih
    · exact .step bl ih hb

end Simulation

section Invariant

-- Until the manager stops, the broker's context is live and its loop runs; during
-- the removals the remaining registrations are the ones the informers hold and the
-- duck-type handler is gone; and duckInformers and duckRegistrations agree.
structure Runnable.Inv (s : Runnable) : Prop where
  live : s.phase = .running → s.broker.ctxDone = false ∧ s.broker.loop ≠ .stopped
  removing : ∀ remaining, s.phase = .removing remaining →
    remaining = s.registry.handlers ∧ s.duckTypeRegistered = false
  registry : s.registry.Inv

theorem Runnable.inv_init : Runnable.init.Inv where
  live _ := ⟨rfl, nofun⟩
  removing _ h := by cases h
  registry := Registry.inv_init

variable {s s' : Runnable}

-- A step that leaves the broker, the phase and the handlers alone keeps the invariant
theorem Runnable.Inv.congr (hinv : s.Inv) (hbroker : s'.broker = s.broker) (hphase : s'.phase = s.phase)
    (hreg : s'.registry = s.registry) (hdt : s'.duckTypeRegistered = s.duckTypeRegistered) : s'.Inv where
  live h := by rw [hbroker]; exact hinv.live (hphase ▸ h)
  removing remaining h := by rw [hreg, hdt]; exact hinv.removing remaining (hphase ▸ h)
  registry := hreg ▸ hinv.registry

-- A broker step other than the cancel keeps the loop running while the runnable runs
theorem Runnable.Inv.of_broker (hinv : s.Inv) {l : Label Object} (hl : l ≠ .cancelBroker)
    (hb : s.broker.step l = some s'.broker) (hphase : s'.phase = s.phase)
    (hreg : s'.registry = s.registry) (hdt : s'.duckTypeRegistered = s.duckTypeRegistered) : s'.Inv where
  live h := by
    obtain ⟨hdone, hloop⟩ := hinv.live (hphase ▸ h)
    refine ⟨(step_ctxDone hl hb).trans hdone, fun hstop => ?_⟩
    rcases step_stopped hb hstop with hstop | hdone'
    · exact hloop hstop
    · rw [hdone] at hdone'
      cases hdone'
  removing remaining h := by rw [hreg, hdt]; exact hinv.removing remaining (hphase ▸ h)
  registry := hreg ▸ hinv.registry

theorem Runnable.Inv.step (hinv : s.Inv) {l : RunnableLabel} (h : s.step l = some s') : s'.Inv := by
  cases l with
  | broker l =>
    obtain ⟨-, hl, b, hb, rfl⟩ := Runnable.step_broker h
    exact hinv.of_broker hl hb rfl rfl rfl
  | stop =>
    obtain ⟨-, b, -, rfl⟩ := Runnable.step_stop h
    exact { live := nofun, removing := fun _ => nofun, registry := hinv.registry }
  | removeDuckTypeHandler answer =>
    obtain ⟨-, ⟨err, -, rfl⟩ | ⟨-, rfl⟩⟩ := Runnable.step_removeDuckTypeHandler h
    · exact { live := nofun, removing := fun _ => nofun, registry := hinv.registry }
    · refine { live := nofun, removing := ?_, registry := hinv.registry }
      rintro remaining ⟨⟩
      exact ⟨rfl, rfl⟩
  | removeDuckHandler registration answer =>
    obtain ⟨remaining, hphase, -, ⟨err, -, rfl⟩ | ⟨-, rfl⟩⟩ := Runnable.step_removeDuckHandler h
    · exact { live := nofun, removing := fun _ => nofun, registry := hinv.registry }
    · -- the range erases from remaining what the informers erase from their handlers
      obtain ⟨hrem, hdt⟩ := hinv.removing remaining hphase
      refine { live := nofun, removing := ?_, registry := ⟨hinv.registry.keys, hinv.registry.informer⟩ }
      rintro r ⟨⟩
      exact ⟨by rw [hrem], hdt⟩
  | finish =>
    obtain ⟨-, rfl⟩ := Runnable.step_finish h
    exact { live := nofun, removing := fun _ => nofun, registry := hinv.registry }
  | duckTypeEvent n =>
    obtain ⟨-, -, -, rfl⟩ := Runnable.step_duckTypeEvent h
    exact hinv.congr rfl rfl rfl rfl
  | duckTypeLocked answers =>
    obtain ⟨n, -, hlock, registry, hreg, rfl⟩ := Runnable.step_duckTypeLocked h
    refine { live := hinv.live, removing := ?_, registry := hinv.registry.onDuckType hreg }
    -- the call waits for m while the removals hold it
    intro remaining hphase
    rw [hphase] at hlock
    cases hlock
  | duckEvent registration e =>
    obtain ⟨-, -, obj, -, rfl⟩ := Runnable.step_duckEvent h
    exact hinv.congr rfl rfl rfl rfl
  | publish registration =>
    obtain ⟨p, -, b, hb, rfl⟩ := Runnable.step_publish h
    exact hinv.of_broker (l := .publish p.2) nofun hb rfl rfl rfl

theorem Runnable.Reachable.inv (h : s.Reachable) : s.Inv := by
  induction h with
  | init => exact Runnable.inv_init
  | step l _ hs ih => exact ih.step hs

end Invariant

section Stranded

variable {s s' : Runnable}

-- A run past the broker's loop: it has returned, publishCh holds the message m that
-- nothing will receive, and the handler x is inside its Publish.
structure Stranded (s : Runnable) (m : Object) (x : Registration × Object) : Prop where
  stopped : s.broker.loop = .stopped
  buffered : s.broker.publishCh.buf = [m]
  publishing : x ∈ s.publishing

theorem Stranded.step {m : Object} {x : Registration × Object} (hs : Stranded s m x)
    {l : RunnableLabel} (h : s.step l = some s') : Stranded s' m x := by
  have hfull : s.broker.publishCh.buf.length = 1 := by rw [hs.buffered]; rfl
  have hbroker : s'.broker.loop = .stopped ∧ s'.broker.publishCh = s.broker.publishCh := by
    rcases Runnable.step_broker_cases h with heq | ⟨bl, hb⟩
    · rw [heq]
      exact ⟨hs.stopped, rfl⟩
    · exact step_of_stopped_full hs.stopped hfull hb
  refine ⟨hbroker.1, by rw [hbroker.2]; exact hs.buffered, ?_⟩
  -- only a completed Publish takes a handler out, and none can complete
  cases l with
  | publish r =>
    obtain ⟨p, -, b, hb, -⟩ := Runnable.step_publish h
    rw [step_publish_of_full hfull] at hb
    cases hb
  | duckEvent r e =>
    obtain ⟨-, -, obj, -, rfl⟩ := Runnable.step_duckEvent h
    exact List.mem_append_left _ hs.publishing
  | broker l =>
    obtain ⟨-, -, b, -, rfl⟩ := Runnable.step_broker h
    exact hs.publishing
  | stop =>
    obtain ⟨-, b, -, rfl⟩ := Runnable.step_stop h
    exact hs.publishing
  | removeDuckTypeHandler answer =>
    obtain ⟨-, ⟨err, -, rfl⟩ | ⟨-, rfl⟩⟩ := Runnable.step_removeDuckTypeHandler h <;> exact hs.publishing
  | removeDuckHandler r answer =>
    obtain ⟨remaining, -, -, ⟨err, -, rfl⟩ | ⟨-, rfl⟩⟩ := Runnable.step_removeDuckHandler h <;>
      exact hs.publishing
  | finish =>
    obtain ⟨-, rfl⟩ := Runnable.step_finish h
    exact hs.publishing
  | duckTypeEvent n =>
    obtain ⟨-, -, -, rfl⟩ := Runnable.step_duckTypeEvent h
    exact hs.publishing
  | duckTypeLocked answers =>
    obtain ⟨n, -, -, registry, -, rfl⟩ := Runnable.step_duckTypeLocked h
    exact hs.publishing

theorem Stranded.run {m : Object} {x : Registration × Object} (hs : Stranded s m x)
    (ls : List RunnableLabel) (hr : s.run ls = some s') : Stranded s' m x :=
  foldlM_preserves (Stranded · m x) (fun _ hs hl => hs.step hl) ls hs hr

-- From any reachable running state whose broker waits in its select with
-- publishCh empty, and any registered duck handler: the manager stops, the loop
-- returns on ctx.Done() while the handler is still registered, and two events
-- reach it before its removal. The first Publish fills publishCh, the second
-- never completes, whatever happens next.
theorem shutdown_strands_duck_publish (s : Runnable) (hs : s.Reachable) (hrun : s.phase = .running)
    (hidle : s.broker.loop = .idle) (hempty : s.broker.publishCh.buf = [])
    {r : Registration} (hreg : r ∈ s.registry.handlers) (hfree : r ∉ s.publishing.map (·.1))
    {e₁ e₂ : DuckEvent} {o₁ o₂ : Object} (he₁ : duckHandler e₁ = .ok o₁) (he₂ : duckHandler e₂ = .ok o₂) :
    (∃ s₁, s.run [.stop, .broker .recvDone] = some s₁ ∧ s₁.Reachable ∧
      s₁.broker.loop = .stopped ∧ r ∈ s₁.registry.handlers) ∧
    ∃ s', s.run [.stop, .broker .recvDone, .duckEvent r e₁, .publish r, .duckEvent r e₂] = some s' ∧
      s'.Reachable ∧
      ∀ ls s'', s'.run ls = some s'' →
        (r, o₂) ∈ s''.publishing ∧ s''.broker.publishCh.buf = [o₁] ∧ s''.broker.loop = .stopped := by
  have hnot : (r, o₁) ∉ s.publishing := fun hm => hfree (List.mem_map.mpr ⟨_, hm, rfl⟩)
  -- stop, then the loop's select takes ctx.Done()
  let s₂ : Runnable :=
    { s with broker := { s.broker with ctxDone := true, loop := .stopped }, phase := .cancelled }
  have h₁₂ : s.run [.stop, .broker .recvDone] = some s₂ := by
    simp [Runnable.run_cons, Runnable.step, Broker.step, hrun, hidle, s₂]
    rfl
  -- the first event: its Publish goes into publishCh
  obtain ⟨c, hc, hcbuf⟩ := s.broker.publishCh.send?_of_lt o₁ (by simp [hempty])
  let s₄ : Runnable :=
    { s₂ with broker := { s₂.broker with publishCh := c, published := s.broker.published ++ [o₁] } }
  have hfind : (s.publishing ++ [(r, o₁)]).find? (·.1 = r) = some (r, o₁) := by
    rw [List.find?_append, List.find?_eq_none.mpr (fun p hp heq => hfree (List.mem_map.mpr
      ⟨p, hp, of_decide_eq_true heq⟩))]
    simp
  have h₂₄ : s₂.run [.duckEvent r e₁, .publish r] = some s₄ := by
    simp [Runnable.run_cons, Runnable.step, hreg, hfree, he₁, s₂, hfind, Broker.step, hc,
      List.erase_append_right _ hnot]
    rfl
  -- the second event: its handler stays in Publish
  let s₅ : Runnable := { s₄ with publishing := s.publishing ++ [(r, o₂)] }
  have h₄₅ : s₄.run [.duckEvent r e₂] = some s₅ := by
    simp [Runnable.run_cons, Runnable.step, hreg, hfree, he₂, s₄, s₂]
    rfl
  have hrun₅ : s.run [.stop, .broker .recvDone, .duckEvent r e₁, .publish r, .duckEvent r e₂] = some s₅ := by
    rw [show ([.stop, .broker .recvDone, .duckEvent r e₁, .publish r, .duckEvent r e₂] : List RunnableLabel) =
        [.stop, .broker .recvDone] ++ ([.duckEvent r e₁, .publish r] ++ [.duckEvent r e₂]) from rfl,
      Runnable.run_append, h₁₂, Option.bind_some, Runnable.run_append, h₂₄, Option.bind_some, h₄₅]
  refine ⟨⟨s₂, h₁₂, hs.run _ h₁₂, rfl, hreg⟩, s₅, hrun₅, hs.run _ hrun₅, fun ls s'' hr => ?_⟩
  have hstranded : Stranded s₅ o₁ (r, o₂) :=
    ⟨rfl, by simp [s₅, s₄, hcbuf, hempty], List.mem_append_right _ (List.mem_singleton_self _)⟩
  have := hstranded.run ls hr
  exact ⟨this.publishing, this.buffered, this.stopped⟩

-- The runnable once the duck-type handler informed on the Ready Duck of batch/v1 Job
def informedRunnable : Runnable :=
  { Runnable.init with registry := Registry.init.informOn jobDuck .ok }

theorem informedRunnable_reachable : informedRunnable.Reachable :=
  .step (.duckTypeLocked .ok) (.step (.duckTypeEvent (.add jobDuck)) .init rfl) rfl

def jobRegistration : Registration := { informer := jobDuck.spec.groupVersionKind, id := 0 }

theorem informedRunnable_strands_job_publish :
    (∃ s₁, informedRunnable.run [.stop, .broker .recvDone] = some s₁ ∧ s₁.Reachable ∧
      s₁.broker.loop = .stopped ∧ jobRegistration ∈ s₁.registry.handlers) ∧
    ∃ s', informedRunnable.run [.stop, .broker .recvDone,
        .duckEvent jobRegistration (.add { gvk := jobDuck.spec.groupVersionKind, name := "blue" }),
        .publish jobRegistration,
        .duckEvent jobRegistration (.add { gvk := jobDuck.spec.groupVersionKind, name := "green" })] = some s' ∧
      s'.Reachable ∧
      ∀ ls s'', s'.run ls = some s'' →
        (jobRegistration, { gvk := jobDuck.spec.groupVersionKind, name := "green" }) ∈ s''.publishing ∧
        s''.broker.publishCh.buf = [{ gvk := jobDuck.spec.groupVersionKind, name := "blue" }] ∧
        s''.broker.loop = .stopped :=
  shutdown_strands_duck_publish informedRunnable informedRunnable_reachable rfl rfl
    rfl (by decide) (by decide) rfl rfl

end Stranded

section Progress

variable {s s' : Runnable}

-- Among entries with distinct registrations, a registration finds its own entry
theorem find?_registration {ps : List (Registration × Object)} (hnd : (ps.map (·.1)).Nodup)
    {p : Registration × Object} (hp : p ∈ ps) : ps.find? (·.1 = p.1) = some p := by
  induction ps with
  | nil => cases hp
  | cons q ps ih =>
    rw [List.map_cons, List.nodup_cons] at hnd
    rcases List.mem_cons.mp hp with rfl | hp
    · simp
    · have hne : q.1 ≠ p.1 := fun h => hnd.1 (h ▸ List.mem_map.mpr ⟨p, hp, rfl⟩)
      simp [hne, ih hnd.2 hp]

-- An informer calls a registration's handler again only once its Publish is done,
-- so at most one handler of each registration is inside Publish
theorem Runnable.step_publishing_nodup (hnd : (s.publishing.map (·.1)).Nodup) {l : RunnableLabel}
    (h : s.step l = some s') : (s'.publishing.map (·.1)).Nodup := by
  cases l with
  | duckEvent r e =>
    obtain ⟨-, hfree, obj, -, rfl⟩ := Runnable.step_duckEvent h
    rw [List.map_append, List.nodup_append]
    refine ⟨hnd, List.nodup_singleton _, fun a ha b hb => ?_⟩
    rw [List.map_singleton, List.mem_singleton] at hb
    rintro rfl
    rw [hb] at ha
    exact hfree ha
  | publish r =>
    obtain ⟨p, -, b, -, rfl⟩ := Runnable.step_publish h
    exact ((List.erase_sublist).map _).nodup hnd
  | broker l =>
    obtain ⟨-, -, b, -, rfl⟩ := Runnable.step_broker h
    exact hnd
  | stop =>
    obtain ⟨-, b, -, rfl⟩ := Runnable.step_stop h
    exact hnd
  | removeDuckTypeHandler answer =>
    obtain ⟨-, ⟨err, -, rfl⟩ | ⟨-, rfl⟩⟩ := Runnable.step_removeDuckTypeHandler h <;> exact hnd
  | removeDuckHandler r answer =>
    obtain ⟨remaining, -, -, ⟨err, -, rfl⟩ | ⟨-, rfl⟩⟩ := Runnable.step_removeDuckHandler h <;> exact hnd
  | finish =>
    obtain ⟨-, rfl⟩ := Runnable.step_finish h
    exact hnd
  | duckTypeEvent n =>
    obtain ⟨-, -, -, rfl⟩ := Runnable.step_duckTypeEvent h
    exact hnd
  | duckTypeLocked answers =>
    obtain ⟨n, -, -, registry, -, rfl⟩ := Runnable.step_duckTypeLocked h
    exact hnd

theorem Runnable.Reachable.publishing_nodup (h : s.Reachable) : (s.publishing.map (·.1)).Nodup := by
  induction h with
  | init => exact List.nodup_nil
  | step l _ hs ih => exact Runnable.step_publishing_nodup ih hs

-- The broker loop's own steps run inside the runnable and change its broker only
theorem Runnable.run_loop {ls : List (Label Object)} (hls : ∀ l ∈ ls, l = .recvPublish ∨ ∃ ch, l = .attempt ch)
    {b : Broker Object} (hb : s.broker.run ls = some b) : s.run (ls.map .broker) = some { s with broker := b } := by
  induction ls generalizing s with
  | nil =>
    cases hb
    rfl
  | cons l ls ih =>
    rw [Broker.run_cons, Option.bind_eq_some_iff] at hb
    obtain ⟨b₁, h₁, hb⟩ := hb
    have hstep : s.step (.broker l) = some { s with broker := b₁ } := by
      rcases hls l List.mem_cons_self with rfl | ⟨ch, rfl⟩ <;>
        · unfold Runnable.step
          dsimp only
          rw [h₁]
          rfl
    rw [List.map_cons, Runnable.run_cons, hstep, Option.bind_some]
    exact ih (fun l hl => hls l (List.mem_cons_of_mem _ hl)) hb

-- While the manager runs no duck handler stays blocked in broker.Publish: the
-- broker's loop, by its own steps alone, gets back to its select with publishCh
-- empty, and the handler's send then completes and publishes its object next.
theorem running_publish_completes (hs : s.Reachable) (hrun : s.phase = .running)
    {p : Registration × Object} (hp : p ∈ s.publishing) :
    ∃ ls : List (Label Object), (∀ l ∈ ls, l = .recvPublish ∨ ∃ ch, l = .attempt ch) ∧
      ∃ s', s.run (ls.map .broker ++ [.publish p.1]) = some s' ∧ s'.phase = .running ∧
        s'.registry = s.registry ∧ s'.publishing = s.publishing.erase p ∧
        s'.broker.published = s.broker.published ++ [p.2] := by
  obtain ⟨ls, hls, b, hb, -, hbuf, hpubd, -⟩ := drain hs.broker (hs.inv.live hrun).2
  have hfind := find?_registration hs.publishing_nodup hp
  obtain ⟨c, hc, -⟩ := b.publishCh.send?_of_lt p.2 (by simp [hbuf])
  -- the handler's send finds its own entry and completes on the empty publishCh
  have hstep : ({ s with broker := b } : Runnable).step (.publish p.1) =
      some { s with broker := { b with publishCh := c, published := b.published ++ [p.2] },
                    publishing := s.publishing.erase p } := by
    unfold Runnable.step
    dsimp only
    rw [hfind]
    unfold Broker.step
    simp only [hc, Option.map_some]
  have hrun' : s.run (ls.map .broker ++ [.publish p.1]) =
      some { s with broker := { b with publishCh := c, published := b.published ++ [p.2] },
                    publishing := s.publishing.erase p } := by
    rw [Runnable.run_append, Runnable.run_loop hls hb, Option.bind_some, Runnable.run_cons, hstep,
      Option.bind_some]
    rfl
  exact ⟨ls, hls, _, hrun', hrun, rfl, rfl, by simp [hpubd]⟩

-- The informed runnable with one subscriber: a first event of the Job Duck's
-- informer is in publishCh and the handler is in Publish with a second
def jobObject (name : String) : Object := { gvk := jobDuck.spec.groupVersionKind, name := name }

def busyTrace : List RunnableLabel :=
  [.broker .subscribe, .broker .recvSub, .duckEvent jobRegistration (.add (jobObject "blue")),
    .publish jobRegistration, .duckEvent jobRegistration (.add (jobObject "green"))]

def busyRunnable : Runnable := (informedRunnable.run busyTrace).getD informedRunnable

theorem busyRunnable_publish_completes :
    ∃ ls : List (Label Object), (∀ l ∈ ls, l = .recvPublish ∨ ∃ ch, l = .attempt ch) ∧
      ∃ s', busyRunnable.run (ls.map .broker ++ [.publish jobRegistration]) = some s' ∧
        s'.phase = .running ∧ s'.registry = busyRunnable.registry ∧
        s'.publishing = busyRunnable.publishing.erase (jobRegistration, jobObject "green") ∧
        s'.broker.published = busyRunnable.broker.published ++ [jobObject "green"] :=
  running_publish_completes (p := (jobRegistration, jobObject "green"))
    (informedRunnable_reachable.run busyTrace rfl) rfl (by decide)

end Progress

section Handlers

variable {s s' : Runnable}

-- Until the removals start the handlers on the duck informers are exactly the
-- registrations of duckRegistrations, so the range over duckRegistrations and the
-- range over the handlers are one
theorem Runnable.step_exact (hinv : s.Inv)
    (hex : s.phase = .running ∨ s.phase = .cancelled → s.registry.Exact) {l : RunnableLabel}
    (h : s.step l = some s') : s'.phase = .running ∨ s'.phase = .cancelled → s'.registry.Exact := by
  intro hphase
  cases l with
  | duckTypeEvent n =>
    obtain ⟨-, -, -, rfl⟩ := Runnable.step_duckTypeEvent h
    exact hex hphase
  | duckTypeLocked answers =>
    obtain ⟨n, -, -, registry, hreg, rfl⟩ := Runnable.step_duckTypeLocked h
    exact (hex hphase).onDuckType hinv.registry hreg
  | broker l =>
    obtain ⟨-, -, b, -, rfl⟩ := Runnable.step_broker h
    exact hex hphase
  | stop =>
    obtain ⟨hrun, b, -, rfl⟩ := Runnable.step_stop h
    exact hex (.inl hrun)
  | duckEvent r e =>
    obtain ⟨-, -, obj, -, rfl⟩ := Runnable.step_duckEvent h
    exact hex hphase
  | publish r =>
    obtain ⟨p, -, b, -, rfl⟩ := Runnable.step_publish h
    exact hex hphase
  -- the removals and the return leave both phases for good
  | removeDuckTypeHandler answer =>
    obtain ⟨-, ⟨err, -, rfl⟩ | ⟨-, rfl⟩⟩ := Runnable.step_removeDuckTypeHandler h <;>
      rcases hphase with hphase | hphase <;> cases hphase
  | removeDuckHandler r answer =>
    obtain ⟨remaining, -, -, ⟨err, -, rfl⟩ | ⟨-, rfl⟩⟩ := Runnable.step_removeDuckHandler h <;>
      rcases hphase with hphase | hphase <;> cases hphase
  | finish =>
    obtain ⟨-, rfl⟩ := Runnable.step_finish h
    rcases hphase with hphase | hphase <;> cases hphase

-- While the manager runs, and once it holds m until the removals start, every
-- registration of duckRegistrations has its one handler on the duck informers and
-- no other handler is there: the removals take off every handler.
theorem Runnable.Reachable.handlers_exact (h : s.Reachable) (hphase : s.phase = .running ∨ s.phase = .cancelled) :
    s.registry.handlers.Nodup ∧
    (∀ r, r ∈ s.registry.handlers ↔ ∃ n, s.registry.duckRegistrations n = some r) ∧
    (∀ n m r, s.registry.duckRegistrations n = some r → s.registry.duckRegistrations m = some r → n = m) := by
  have hex : ∀ {s : Runnable}, s.Reachable → s.phase = .running ∨ s.phase = .cancelled → s.registry.Exact := by
    intro s h
    induction h with
    | init => exact fun _ => Registry.exact_init
    | step l hs hstep ih => exact Runnable.step_exact hs.inv ih hstep
  obtain ⟨hnodup, hmem, hinj, -⟩ := hex h hphase
  exact ⟨hnodup, hmem, hinj⟩

theorem busyRunnable_handlers_exact :
    busyRunnable.registry.handlers.Nodup ∧
    (∀ r, r ∈ busyRunnable.registry.handlers ↔ ∃ n, busyRunnable.registry.duckRegistrations n = some r) ∧
    (∀ n m r, busyRunnable.registry.duckRegistrations n = some r →
      busyRunnable.registry.duckRegistrations m = some r → n = m) :=
  Runnable.Reachable.handlers_exact
    (informedRunnable_reachable.run busyTrace rfl) (.inl rfl)

end Handlers

section Late

variable {s s' : Runnable} {r : Registration}

-- The range over duckRegistrations with every removal answered: it takes every
-- handler off the informers and ends with no registration remaining
theorem Runnable.run_removeDuckHandlers {rs : List Registration} (hphase : s.phase = .removing rs)
    (hh : s.registry.handlers = rs) :
    s.run (rs.map fun r => .removeDuckHandler r (.ok ())) =
      some { s with registry := { s.registry with handlers := [] }, phase := .removing [] } := by
  induction rs generalizing s with
  | nil =>
    obtain ⟨broker, ⟨informers, registrations, handlers, next⟩, dt, call, phase, publishing⟩ := s
    simp only at hphase hh
    subst hphase hh
    rfl
  | cons r rs ih =>
    have hstep : s.step (.removeDuckHandler r (.ok ())) =
        some { s with registry := { s.registry with handlers := rs }, phase := .removing rs } := by
      unfold Runnable.step
      simp [hphase, hh]
    rw [List.map_cons, Runnable.run_cons, hstep, Option.bind_some, ih rfl rfl]

-- A state past a return of nil with no duck-type call left: only the duck-type
-- handler adds or removes a duck handler, so the handler r stays on its informer.
structure LateHandler (s : Runnable) (r : Registration) : Prop where
  returned : s.phase = .returned none
  unregistered : s.duckTypeRegistered = false
  idle : s.duckTypeCall = none
  registered : r ∈ s.registry.handlers

theorem LateHandler.step (hs : LateHandler s r) {l : RunnableLabel} (h : s.step l = some s') :
    LateHandler s' r := by
  cases l with
  | broker l =>
    obtain ⟨-, -, b, -, rfl⟩ := Runnable.step_broker h
    exact ⟨hs.returned, hs.unregistered, hs.idle, hs.registered⟩
  | duckEvent r' e =>
    obtain ⟨-, -, obj, -, rfl⟩ := Runnable.step_duckEvent h
    exact ⟨hs.returned, hs.unregistered, hs.idle, hs.registered⟩
  | publish r' =>
    obtain ⟨p, -, b, -, rfl⟩ := Runnable.step_publish h
    exact ⟨hs.returned, hs.unregistered, hs.idle, hs.registered⟩
  -- the runnable's own steps need a phase it has left
  | stop =>
    obtain ⟨hrun, -⟩ := Runnable.step_stop h
    rw [hs.returned] at hrun
    cases hrun
  | removeDuckTypeHandler answer =>
    obtain ⟨hcancel, -⟩ := Runnable.step_removeDuckTypeHandler h
    rw [hs.returned] at hcancel
    cases hcancel
  | removeDuckHandler r' answer =>
    obtain ⟨remaining, hrem, -⟩ := Runnable.step_removeDuckHandler h
    rw [hs.returned] at hrem
    cases hrem
  | finish =>
    obtain ⟨hrem, -⟩ := Runnable.step_finish h
    rw [hs.returned] at hrem
    cases hrem
  -- the informer no longer calls the duck-type handler, and no call is left
  | duckTypeEvent n =>
    obtain ⟨hdt, -⟩ := Runnable.step_duckTypeEvent h
    rw [hs.unregistered] at hdt
    cases hdt
  | duckTypeLocked answers =>
    obtain ⟨n, hn, -⟩ := Runnable.step_duckTypeLocked h
    rw [hs.idle] at hn
    cases hn

theorem LateHandler.run (hs : LateHandler s r) (ls : List RunnableLabel) (hr : s.run ls = some s') :
    LateHandler s' r :=
  foldlM_preserves (LateHandler · r) (fun _ hs hl => hs.step hl) ls hs hr

-- A shutdown that returns nil can leave a duck handler behind. Take a state where the
-- runnable holds m after cancel() while the duck-type handler is still on its
-- informer. The informer calls the handler with the Add of a Ready Duck that is not
-- informed on, and the call waits for m. The removals go through and the runnable
-- returns nil with no handler left. The call then takes m and registers a handler on
-- the Duck's informer, which stays there in every later state.
theorem shutdown_returns_before_late_duck_handler (hphase : s.phase = .cancelled)
    (hreg : s.duckTypeRegistered = true) (hidle : s.duckTypeCall = none) {d : Duck}
    (hready : isReady d.conditions = true) (hnew : s.registry.duckInformers d.name = none) :
    ∃ s₁, s.run ([.duckTypeEvent (.add d), .removeDuckTypeHandler (.ok ())] ++
        s.registry.handlers.map (fun r => .removeDuckHandler r (.ok ())) ++ [.finish]) = some s₁ ∧
      s₁.phase = .returned none ∧ s₁.registry.handlers = [] ∧ s₁.duckTypeRegistered = false ∧
      ∃ s₂, s₁.step (.duckTypeLocked .ok) = some s₂ ∧
        ∃ r, r.informer = d.spec.groupVersionKind ∧
          ∀ ls s', s₂.run ls = some s' → s'.phase = .returned none ∧ r ∈ s'.registry.handlers := by
  -- the call converts the Add and waits, then the shutdown removes the duck-type handler
  let sr : Runnable := { s with duckTypeCall := some (.add d), duckTypeRegistered := false,
                                phase := .removing s.registry.handlers }
  have h₀ : s.run [.duckTypeEvent (.add d), .removeDuckTypeHandler (.ok ())] = some sr := by
    simp only [Runnable.run]
    unfold Runnable.step
    simp [hreg, hidle, hphase, DuckNotification.toUnstructured, sr]
  -- the range empties the handlers and the runnable returns nil
  let s₁ : Runnable := { sr with registry := { sr.registry with handlers := [] }, phase := .returned none }
  have hrun₁ : s.run ([.duckTypeEvent (.add d), .removeDuckTypeHandler (.ok ())] ++
      s.registry.handlers.map (fun r => .removeDuckHandler r (.ok ())) ++ [.finish]) = some s₁ := by
    rw [Runnable.run_append, Runnable.run_append, h₀, Option.bind_some,
      Runnable.run_removeDuckHandlers (s := sr) rfl rfl, Option.bind_some]
    rfl
  -- the waiting call informs on the Duck, which the removals left uninformed
  let reg₁ : Registry := { s.registry with handlers := [] }
  have hnew₁ : reg₁.duckInformers d.name = none := hnew
  let r : Registration := { informer := d.spec.groupVersionKind, id := s.registry.nextHandler }
  have h₂ : s₁.step (.duckTypeLocked .ok) = some { s₁ with registry := reg₁.informOn d .ok, duckTypeCall := none } := by
    unfold Runnable.step
    rfl
  have hlate : LateHandler { s₁ with registry := reg₁.informOn d .ok, duckTypeCall := none } r := by
    refine ⟨rfl, rfl, rfl, ?_⟩
    show r ∈ (reg₁.informOn d .ok).handlers
    rw [informOn_of_new reg₁ hnew₁ hready]
    exact List.mem_append_right _ (List.mem_singleton_self r)
  refine ⟨s₁, hrun₁, rfl, rfl, rfl, _, h₂, r, rfl, fun ls s' hr => ?_⟩
  have hs' := hlate.run ls hr
  exact ⟨hs'.returned, hs'.registered⟩

def deploymentDuck : Duck :=
  { name := "deployments.apps", uid := "uid-3", deletionTimestamp := none, finalizers := [],
    spec := { group := "apps", version := "v1", kind := "Deployment" },
    conditions := [{ type := conditionReady, status := .conditionTrue, reason := "", message := "" }] }

-- The informed runnable once the manager stopped: it holds m and has called cancel()
def stoppedRunnable : Runnable := (informedRunnable.run [.stop]).getD informedRunnable

theorem stoppedRunnable_leaves_deployment_handler :
    stoppedRunnable.Reachable ∧
    ∃ s₁, stoppedRunnable.run ([.duckTypeEvent (.add deploymentDuck), .removeDuckTypeHandler (.ok ())] ++
        stoppedRunnable.registry.handlers.map (fun r => .removeDuckHandler r (.ok ())) ++ [.finish]) =
          some s₁ ∧
      s₁.phase = .returned none ∧ s₁.registry.handlers = [] ∧ s₁.duckTypeRegistered = false ∧
      ∃ s₂, s₁.step (.duckTypeLocked .ok) = some s₂ ∧
        ∃ r, r.informer = deploymentDuck.spec.groupVersionKind ∧
          ∀ ls s', s₂.run ls = some s' → s'.phase = .returned none ∧ r ∈ s'.registry.handlers :=
  ⟨informedRunnable_reachable.run [.stop] rfl,
    shutdown_returns_before_late_duck_handler rfl rfl rfl rfl (by decide)⟩

end Late

end Ducks.Client
