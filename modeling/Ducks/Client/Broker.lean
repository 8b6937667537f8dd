import Mathlib.Data.List.Nodup
import Mathlib.Logic.Function.Basic
import Ducks.Lib.Chan
import Ducks.Lib.Loop

namespace Ducks.Client

open Ducks.Lib

-- The broker of client/broker.go. Subscriber channels are named by the order
-- Subscribe made them in; each goroutine's blocking operation is a step that can
-- only be taken when it can complete.

-- What the loop did with one message it received from publishCh
structure Receipt (E : Type) where
  msg : E
  subs : List Nat
  sent : List Nat
  dropped : List Nat
deriving DecidableEq, Repr

inductive Loop (E : Type)
  | idle
  -- in the range over subs; pending are the channels not yet tried
  | fanout (receipt : Receipt E) (pending : List Nat)
  | stopped
deriving DecidableEq, Repr

-- The goroutine Subscribe starts: it waits on ctx.Done(), then sends msgCh on unsubCh
inductive UnsubGoroutine
  | waiting
  | sent
deriving DecidableEq, Repr

structure Subscriber (E : Type) where
  msgCh : Chan E 5
  ctxDone : Bool
  unsub : UnsubGoroutine
  reads : List E

structure Broker (E : Type) where
  loop : Loop E
  subs : List Nat
  publishCh : Chan E 1
  subCh : Chan Nat 1
  unsubCh : Chan Nat 1
  subscribers : Nat → Subscriber E
  nextChan : Nat
  ctxDone : Bool
  -- ghost logs, in order
  published : List E
  receipts : List (Receipt E)
  unsubReceived : List Nat

inductive Label (E : Type)
  | publish (msg : E)
  | subscribe
  | cancel (ch : Nat)
  | unsubscribe (ch : Nat)
  | read (ch : Nat)
  -- the cases of the loop's select
  | recvDone
  | recvSub
  | recvUnsub
  | recvPublish
  -- the loop's non-blocking send to one subscriber
  | attempt (ch : Nat)
  | cancelBroker

variable {E : Type}

def Subscriber.fresh : Subscriber E :=
  { msgCh := .empty, ctxDone := false, unsub := .waiting, reads := [] }

def Broker.init : Broker E :=
  { loop := .idle, subs := [], publishCh := .empty, subCh := .empty, unsubCh := .empty,
    subscribers := fun _ => .fresh, nextChan := 0, ctxDone := false,
    published := [], receipts := [], unsubReceived := [] }

def Broker.modifySubscriber (b : Broker E) (ch : Nat) (f : Subscriber E → Subscriber E) : Broker E :=
  { b with subscribers := Function.update b.subscribers ch (f (b.subscribers ch)) }

-- The range over subs goes on while channels are left
def Broker.continueFanout (b : Broker E) (r : Receipt E) (pending : List Nat) : Broker E :=
  match pending with
  | [] => { b with loop := .idle, receipts := b.receipts ++ [r] }
  | _ :: _ => { b with loop := .fanout r pending }

def Broker.step (b : Broker E) : Label E → Option (Broker E)
  | .publish msg =>
    match b.publishCh.send? msg with
    | some publishCh => some { b with publishCh := publishCh, published := b.published ++ [msg] }
    | none => none
  | .subscribe =>
    match b.subCh.send? b.nextChan with
    | some subCh =>
      some { b with subCh := subCh, nextChan := b.nextChan + 1,
                    subscribers := Function.update b.subscribers b.nextChan .fresh }
    | none => none
  | .cancel ch =>
    if ch < b.nextChan then some (b.modifySubscriber ch fun s => { s with ctxDone := true }) else none
  | .unsubscribe ch =>
    if ch < b.nextChan ∧ (b.subscribers ch).ctxDone ∧ (b.subscribers ch).unsub = .waiting then
      match b.unsubCh.send? ch with
      | some unsubCh => some { b.modifySubscriber ch (fun s => { s with unsub := .sent }) with unsubCh := unsubCh }
      | none => none
    else none
  | .read ch =>
    match (b.subscribers ch).msgCh.recv? with
    | some (msg, msgCh) => some (b.modifySubscriber ch fun s => { s with msgCh := msgCh, reads := s.reads ++ [msg] })
    | none => none
  | .recvDone =>
    match b.loop with
    | .idle => if b.ctxDone then some { b with loop := .stopped } else none
    | _ => none
  | .recvSub =>
    match b.loop, b.subCh.recv? with
    | .idle, some (ch, subCh) => some { b with subCh := subCh, subs := b.subs.insert ch }
    | _, _ => none
  | .recvUnsub =>
    match b.loop, b.unsubCh.recv? with
    | .idle, some (ch, unsubCh) =>
      some { b with unsubCh := unsubCh, subs := b.subs.erase ch, unsubReceived := b.unsubReceived ++ [ch] }
    | _, _ => none
  | .recvPublish =>
    match b.loop, b.publishCh.recv? with
    | .idle, some (msg, publishCh) =>
      some (({ b with publishCh := publishCh } : Broker E).continueFanout
        { msg := msg, subs := b.subs, sent := [], dropped := [] } b.subs)
    | _, _ => none
  | .attempt ch =>
    match b.loop with
    | .fanout r pending =>
      if ch ∈ pending then
        match (b.subscribers ch).msgCh.send? r.msg with
        | some msgCh =>
          some ((b.modifySubscriber ch fun s => { s with msgCh := msgCh }).continueFanout
            { r with sent := r.sent ++ [ch] } (pending.erase ch))
        | none => some (b.continueFanout { r with dropped := r.dropped ++ [ch] } (pending.erase ch))
      else none
    | _ => none
  | .cancelBroker => some { b with ctxDone := true }

def Broker.run (b : Broker E) (labels : List (Label E)) : Option (Broker E) :=
  labels.foldlM Broker.step b

inductive Broker.Reachable : Broker E → Prop
  | init : Broker.Reachable .init
  | step {b b' : Broker E} (l : Label E) : Broker.Reachable b → b.step l = some b' → Broker.Reachable b'

section Frame

variable (b : Broker E)

-- The receipts of the messages received so far, the one being sent last
def Loop.current : Loop E → List (Receipt E)
  | .fanout r _ => [r]
  | .idle | .stopped => []

def Broker.history : List (Receipt E) := b.receipts ++ b.loop.current

@[simp] theorem continueFanout_history (r : Receipt E) (pending : List Nat) :
    (b.continueFanout r pending).history = b.receipts ++ [r] := by
  cases pending <;> simp [Broker.continueFanout, Broker.history, Loop.current]

@[simp] theorem continueFanout_subs (r : Receipt E) (pending : List Nat) :
    (b.continueFanout r pending).subs = b.subs := by
  cases pending <;> rfl

@[simp] theorem continueFanout_subscribers (r : Receipt E) (pending : List Nat) :
    (b.continueFanout r pending).subscribers = b.subscribers := by
  cases pending <;> rfl

@[simp] theorem continueFanout_nextChan (r : Receipt E) (pending : List Nat) :
    (b.continueFanout r pending).nextChan = b.nextChan := by
  cases pending <;> rfl

@[simp] theorem continueFanout_unsubCh (r : Receipt E) (pending : List Nat) :
    (b.continueFanout r pending).unsubCh = b.unsubCh := by
  cases pending <;> rfl

@[simp] theorem continueFanout_subCh (r : Receipt E) (pending : List Nat) :
    (b.continueFanout r pending).subCh = b.subCh := by
  cases pending <;> rfl

@[simp] theorem continueFanout_publishCh (r : Receipt E) (pending : List Nat) :
    (b.continueFanout r pending).publishCh = b.publishCh := by
  cases pending <;> rfl

@[simp] theorem continueFanout_published (r : Receipt E) (pending : List Nat) :
    (b.continueFanout r pending).published = b.published := by
  cases pending <;> rfl

@[simp] theorem modifySubscriber_subs (ch : Nat) (f : Subscriber E → Subscriber E) :
    (b.modifySubscriber ch f).subs = b.subs := rfl

@[simp] theorem modifySubscriber_nextChan (ch : Nat) (f : Subscriber E → Subscriber E) :
    (b.modifySubscriber ch f).nextChan = b.nextChan := rfl

@[simp] theorem modifySubscriber_unsubCh (ch : Nat) (f : Subscriber E → Subscriber E) :
    (b.modifySubscriber ch f).unsubCh = b.unsubCh := rfl

@[simp] theorem modifySubscriber_loop (ch : Nat) (f : Subscriber E → Subscriber E) :
    (b.modifySubscriber ch f).loop = b.loop := rfl

@[simp] theorem modifySubscriber_receipts (ch : Nat) (f : Subscriber E → Subscriber E) :
    (b.modifySubscriber ch f).receipts = b.receipts := rfl

@[simp] theorem modifySubscriber_subCh (ch : Nat) (f : Subscriber E → Subscriber E) :
    (b.modifySubscriber ch f).subCh = b.subCh := rfl

@[simp] theorem modifySubscriber_publishCh (ch : Nat) (f : Subscriber E → Subscriber E) :
    (b.modifySubscriber ch f).publishCh = b.publishCh := rfl

@[simp] theorem modifySubscriber_published (ch : Nat) (f : Subscriber E → Subscriber E) :
    (b.modifySubscriber ch f).published = b.published := rfl

@[simp] theorem modifySubscriber_history (ch : Nat) (f : Subscriber E → Subscriber E) :
    (b.modifySubscriber ch f).history = b.history := rfl

theorem modifySubscriber_subscribers (ch c : Nat) (f : Subscriber E → Subscriber E) :
    (b.modifySubscriber ch f).subscribers c = if c = ch then f (b.subscribers ch) else b.subscribers c := by
  simp [Broker.modifySubscriber, Function.update_apply]

-- An update of one subscriber that keeps its goroutine keeps every goroutine
theorem modifySubscriber_unsub (ch c : Nat) {f : Subscriber E → Subscriber E}
    (hf : ∀ s, (f s).unsub = s.unsub) :
    ((b.modifySubscriber ch f).subscribers c).unsub = (b.subscribers c).unsub := by
  rw [modifySubscriber_subscribers]
  split_ifs with hc
  · rw [hf, hc]
  · rfl

theorem Broker.run_cons (l : Label E) (ls : List (Label E)) :
    b.run (l :: ls) = (b.step l).bind fun b' => b'.run ls := by
  simp only [Broker.run, List.foldlM_cons]
  rfl

@[simp] theorem Broker.run_nil : b.run [] = some b := rfl

theorem Broker.run_append (ls₁ ls₂ : List (Label E)) :
    b.run (ls₁ ++ ls₂) = (b.run ls₁).bind fun b' => b'.run ls₂ := by
  simp only [Broker.run, List.foldlM_append]
  rfl

end Frame

section Steps

-- What each step does, read off the step function once; the lemmas below
-- reason from these and never unfold step again. Each unfolds step through its
-- definition: simp with step's equation lemmas would have them all wait for one
-- of them to generate those.
variable {b b' : Broker E}

theorem step_publish {msg : E} (h : b.step (.publish msg) = some b') :
    ∃ c, b.publishCh.send? msg = some c ∧ b' = { b with publishCh := c, published := b.published ++ [msg] } := by
  unfold Broker.step at h
  dsimp only at h
  split at h
  · cases h
    exact ⟨_, ‹_›, rfl⟩
  · cases h

theorem step_subscribe (h : b.step .subscribe = some b') :
    ∃ c, b.subCh.send? b.nextChan = some c ∧
      b' = { b with subCh := c, nextChan := b.nextChan + 1,
                    subscribers := Function.update b.subscribers b.nextChan .fresh } := by
  unfold Broker.step at h
  dsimp only at h
  split at h
  · cases h
    exact ⟨_, ‹_›, rfl⟩
  · cases h

theorem step_cancel {ch : Nat} (h : b.step (.cancel ch) = some b') :
    ch < b.nextChan ∧ b' = b.modifySubscriber ch fun s => { s with ctxDone := true } := by
  unfold Broker.step at h
  dsimp only at h
  split_ifs at h with hch
  cases h
  exact ⟨hch, rfl⟩

theorem step_unsubscribe {ch : Nat} (h : b.step (.unsubscribe ch) = some b') :
    ch < b.nextChan ∧ (b.subscribers ch).unsub = .waiting ∧ ∃ c, b.unsubCh.send? ch = some c ∧
      b' = { b.modifySubscriber ch (fun s => { s with unsub := .sent }) with unsubCh := c } := by
  unfold Broker.step at h
  dsimp only at h
  split_ifs at h with hcond
  split at h
  · cases h
    exact ⟨hcond.1, hcond.2.2, _, ‹_›, rfl⟩
  · cases h

theorem step_read {ch : Nat} (h : b.step (.read ch) = some b') :
    ∃ msg c, (b.subscribers ch).msgCh.recv? = some (msg, c) ∧
      b' = b.modifySubscriber ch fun s => { s with msgCh := c, reads := s.reads ++ [msg] } := by
  unfold Broker.step at h
  dsimp only at h
  split at h
  · cases h
    exact ⟨_, _, ‹_›, rfl⟩
  · cases h

theorem step_recvDone (h : b.step .recvDone = some b') :
    b.loop = .idle ∧ b.ctxDone = true ∧ b' = { b with loop := .stopped } := by
  unfold Broker.step at h
  dsimp only at h
  split at h
  · split_ifs at h with hdone
    cases h
    exact ⟨‹_›, hdone, rfl⟩
  · cases h

theorem step_recvSub (h : b.step .recvSub = some b') :
    b.loop = .idle ∧ ∃ ch c, b.subCh.recv? = some (ch, c) ∧
      b' = { b with subCh := c, subs := b.subs.insert ch } := by
  unfold Broker.step at h
  dsimp only at h
  split at h
  · cases h
    exact ⟨‹_›, _, _, ‹_›, rfl⟩
  · cases h

theorem step_recvUnsub (h : b.step .recvUnsub = some b') :
    b.loop = .idle ∧ ∃ ch c, b.unsubCh.recv? = some (ch, c) ∧
      b' = { b with unsubCh := c, subs := b.subs.erase ch, unsubReceived := b.unsubReceived ++ [ch] } := by
  unfold Broker.step at h
  dsimp only at h
  split at h
  · cases h
    exact ⟨‹_›, _, _, ‹_›, rfl⟩
  · cases h

theorem step_recvPublish (h : b.step .recvPublish = some b') :
    b.loop = .idle ∧ ∃ msg c, b.publishCh.recv? = some (msg, c) ∧
      b' = ({ b with publishCh := c } : Broker E).continueFanout
        { msg := msg, subs := b.subs, sent := [], dropped := [] } b.subs := by
  unfold Broker.step at h
  dsimp only at h
  split at h
  · cases h
    exact ⟨‹_›, _, _, ‹_›, rfl⟩
  · cases h

theorem step_attempt {ch : Nat} (h : b.step (.attempt ch) = some b') :
    ∃ r pending, b.loop = .fanout r pending ∧ ch ∈ pending ∧
      ((∃ c, (b.subscribers ch).msgCh.send? r.msg = some c ∧
        b' = (b.modifySubscriber ch fun s => { s with msgCh := c }).continueFanout
          { r with sent := r.sent ++ [ch] } (pending.erase ch)) ∨
      ((b.subscribers ch).msgCh.send? r.msg = none ∧
        b' = b.continueFanout { r with dropped := r.dropped ++ [ch] } (pending.erase ch))) := by
  unfold Broker.step at h
  dsimp only at h
  split at h
  · split_ifs at h with hch
    split at h
    · cases h
      exact ⟨_, _, ‹_›, hch, .inl ⟨_, ‹_›, rfl⟩⟩
    · cases h
      exact ⟨_, _, ‹_›, hch, .inr ⟨‹_›, rfl⟩⟩
  · cases h

theorem step_cancelBroker (h : b.step .cancelBroker = some b') : b' = { b with ctxDone := true } := by
  unfold Broker.step at h
  dsimp only at h
  cases h
  rfl

-- Publish blocks while publishCh holds its one message
theorem step_publish_of_full {msg : E} (hfull : b.publishCh.buf.length = 1) :
    b.step (.publish msg) = none := by
  cases h : b.step (.publish msg) with
  | none => rfl
  | some b' =>
    obtain ⟨c, hc, -⟩ := step_publish h
    have hlt := (Chan.send?_eq_some_iff.mp hc).1
    omega

-- Once the loop has returned nothing receives from publishCh again, so a full
-- publishCh stays as it is whatever the other goroutines do
theorem step_of_stopped_full (hstop : b.loop = .stopped) (hfull : b.publishCh.buf.length = 1)
    {l : Label E} (h : b.step l = some b') : b'.loop = .stopped ∧ b'.publishCh = b.publishCh := by
  cases l with
  | publish msg => rw [step_publish_of_full hfull] at h; cases h
  | subscribe =>
    obtain ⟨c, -, rfl⟩ := step_subscribe h
    exact ⟨hstop, rfl⟩
  | cancel ch =>
    obtain ⟨-, rfl⟩ := step_cancel h
    exact ⟨hstop, rfl⟩
  | unsubscribe ch =>
    obtain ⟨-, -, c, -, rfl⟩ := step_unsubscribe h
    exact ⟨hstop, rfl⟩
  | read ch =>
    obtain ⟨msg, c, -, rfl⟩ := step_read h
    exact ⟨hstop, rfl⟩
  | recvDone =>
    obtain ⟨hidle, -, -⟩ := step_recvDone h
    rw [hstop] at hidle
    cases hidle
  | recvSub =>
    obtain ⟨hidle, -⟩ := step_recvSub h
    rw [hstop] at hidle
    cases hidle
  | recvUnsub =>
    obtain ⟨hidle, -⟩ := step_recvUnsub h
    rw [hstop] at hidle
    cases hidle
  | recvPublish =>
    obtain ⟨hidle, -⟩ := step_recvPublish h
    rw [hstop] at hidle
    cases hidle
  | attempt ch =>
    obtain ⟨r, pending, hl, -⟩ := step_attempt h
    rw [hstop] at hl
    cases hl
  | cancelBroker =>
    rw [step_cancelBroker h]
    exact ⟨hstop, rfl⟩

-- Only the cancel of its context sets ctxDone, and the loop returns only once it is set
theorem step_ctxDone {l : Label E} (hl : l ≠ .cancelBroker) (h : b.step l = some b') :
    b'.ctxDone = b.ctxDone := by
  cases l with
  | publish msg =>
    obtain ⟨c, -, rfl⟩ := step_publish h
    rfl
  | subscribe =>
    obtain ⟨c, -, rfl⟩ := step_subscribe h
    rfl
  | cancel ch =>
    obtain ⟨-, rfl⟩ := step_cancel h
    rfl
  | unsubscribe ch =>
    obtain ⟨-, -, c, -, rfl⟩ := step_unsubscribe h
    rfl
  | read ch =>
    obtain ⟨msg, c, -, rfl⟩ := step_read h
    rfl
  | recvDone =>
    obtain ⟨-, -, rfl⟩ := step_recvDone h
    rfl
  | recvSub =>
    obtain ⟨-, ch, c, -, rfl⟩ := step_recvSub h
    rfl
  | recvUnsub =>
    obtain ⟨-, ch, c, -, rfl⟩ := step_recvUnsub h
    rfl
  | recvPublish =>
    obtain ⟨-, msg, c, -, rfl⟩ := step_recvPublish h
    cases b.subs <;> rfl
  | attempt ch =>
    obtain ⟨r, pending, -, -, ⟨c, -, rfl⟩ | ⟨-, rfl⟩⟩ := step_attempt h
    · cases pending.erase ch <;> rfl
    · cases pending.erase ch <;> rfl
  | cancelBroker => exact absurd rfl hl

theorem step_stopped {l : Label E} (h : b.step l = some b') (hstop : b'.loop = .stopped) :
    b.loop = .stopped ∨ b.ctxDone = true := by
  cases l with
  | recvDone =>
    obtain ⟨-, hdone, -⟩ := step_recvDone h
    exact .inr hdone
  | recvPublish =>
    obtain ⟨-, msg, c, -, rfl⟩ := step_recvPublish h
    cases hs : b.subs <;> simp [Broker.continueFanout, hs] at hstop
  | attempt ch =>
    obtain ⟨r, pending, -, -, ⟨c, -, rfl⟩ | ⟨-, rfl⟩⟩ := step_attempt h
    · cases hp : pending.erase ch <;> simp [Broker.continueFanout, hp] at hstop
    · cases hp : pending.erase ch <;> simp [Broker.continueFanout, hp] at hstop
  | publish msg =>
    obtain ⟨c, -, rfl⟩ := step_publish h
    exact .inl hstop
  | subscribe =>
    obtain ⟨c, -, rfl⟩ := step_subscribe h
    exact .inl hstop
  | cancel ch =>
    obtain ⟨-, rfl⟩ := step_cancel h
    exact .inl hstop
  | unsubscribe ch =>
    obtain ⟨-, -, c, -, rfl⟩ := step_unsubscribe h
    exact .inl hstop
  | read ch =>
    obtain ⟨msg, c, -, rfl⟩ := step_read h
    exact .inl hstop
  | recvSub =>
    obtain ⟨-, ch, c, -, rfl⟩ := step_recvSub h
    exact .inl hstop
  | recvUnsub =>
    obtain ⟨-, ch, c, -, rfl⟩ := step_recvUnsub h
    exact .inl hstop
  | cancelBroker =>
    rw [step_cancelBroker h] at hstop
    exact .inl hstop

end Steps

section Resubscribe

-- A channel that the loop holds in subs, whose goroutine has sent its unsubscribe
-- and which no unsubscribe in unsubCh names: nothing can take it out of subs.
structure StaysSubscribed (b : Broker E) (ch : Nat) : Prop where
  made : ch < b.nextChan
  mem : ch ∈ b.subs
  sent : (b.subscribers ch).unsub = .sent
  notPending : ch ∉ b.unsubCh.buf

theorem StaysSubscribed.step {b b' : Broker E} {ch : Nat} (h : StaysSubscribed b ch) (l : Label E)
    (hs : b.step l = some b') : StaysSubscribed b' ch := by
  cases l with
  | publish msg =>
    obtain ⟨c, -, rfl⟩ := step_publish hs
    exact ⟨h.made, h.mem, h.sent, h.notPending⟩
  | subscribe =>
    obtain ⟨c, -, rfl⟩ := step_subscribe hs
    have hne : ch ≠ b.nextChan := Nat.ne_of_lt h.made
    exact ⟨Nat.lt_succ_of_lt h.made, h.mem, by simp [hne, h.sent], h.notPending⟩
  | cancel c =>
    obtain ⟨-, rfl⟩ := step_cancel hs
    exact ⟨h.made, h.mem, by rw [modifySubscriber_unsub _ c ch, h.sent]; exact fun _ => rfl, h.notPending⟩
  | unsubscribe c =>
    obtain ⟨-, hwait, u, hu, rfl⟩ := step_unsubscribe hs
    -- the goroutine that sends is still waiting, so it is another subscriber's
    have hne : ch ≠ c := by
      rintro rfl
      rw [h.sent] at hwait
      cases hwait
    refine ⟨h.made, h.mem, by simp [modifySubscriber_subscribers, hne, h.sent], ?_⟩
    rw [(Chan.send?_eq_some_iff.mp hu).2]
    simp [h.notPending, hne]
  | read c =>
    obtain ⟨msg, c', -, rfl⟩ := step_read hs
    exact ⟨h.made, h.mem, by rw [modifySubscriber_unsub _ c ch, h.sent]; exact fun _ => rfl, h.notPending⟩
  | recvDone =>
    obtain ⟨-, -, rfl⟩ := step_recvDone hs
    exact ⟨h.made, h.mem, h.sent, h.notPending⟩
  | recvSub =>
    obtain ⟨-, c, s, -, rfl⟩ := step_recvSub hs
    exact ⟨h.made, List.mem_insert_of_mem h.mem, h.sent, h.notPending⟩
  | recvUnsub =>
    obtain ⟨-, c, u, hu, rfl⟩ := step_recvUnsub hs
    have hbuf := Chan.recv?_eq_some_iff.mp hu
    have hne : ch ≠ c := fun heq => h.notPending (by rw [hbuf, heq]; exact List.mem_cons_self)
    exact ⟨h.made, (List.mem_erase_of_ne hne).mpr h.mem, h.sent,
      fun hmem => h.notPending (by rw [hbuf]; exact List.mem_cons_of_mem c hmem)⟩
  | recvPublish =>
    obtain ⟨-, msg, c, -, rfl⟩ := step_recvPublish hs
    exact ⟨by simpa using h.made, by simpa using h.mem, by simpa using h.sent, by simpa using h.notPending⟩
  | attempt c =>
    obtain ⟨r, pending, -, -, ⟨c', -, rfl⟩ | ⟨-, rfl⟩⟩ := step_attempt hs
    · refine ⟨by simpa using h.made, by simpa using h.mem, ?_, by simpa using h.notPending⟩
      rw [continueFanout_subscribers, modifySubscriber_unsub _ c ch, h.sent]
      exact fun _ => rfl
    · exact ⟨by simpa using h.made, by simpa using h.mem, by simpa using h.sent, by simpa using h.notPending⟩
  | cancelBroker =>
    rw [step_cancelBroker hs]
    exact ⟨h.made, h.mem, h.sent, h.notPending⟩

theorem StaysSubscribed.run {b b' : Broker E} {ch : Nat} (h : StaysSubscribed b ch) (ls : List (Label E))
    (hr : b.run ls = some b') : StaysSubscribed b' ch :=
  foldlM_preserves (StaysSubscribed · ch) (fun l hs hl => hs.step l hl) ls h hr

-- Subscribe under a context that is already done: its goroutine sends the
-- unsubscribe while the subscribe is still buffered, and the select takes the
-- unsubscribe first.
def cancelledSubscribe (ch : Nat) : List (Label E) :=
  [.subscribe, .cancel ch, .unsubscribe ch, .recvUnsub, .recvSub]

-- From any broker whose loop waits in its select with subCh and unsubCh empty,
-- a subscription made under a done context can be added after its unsubscribe
-- was received.
theorem unsubscribed_channel_stays_subscribed (b : Broker E) (hidle : b.loop = .idle)
    (hsub : b.subCh.buf = []) (hunsub : b.unsubCh.buf = []) :
    ∃ b', b.run (cancelledSubscribe b.nextChan) = some b' ∧ b.nextChan ∈ b'.unsubReceived ∧
      ∀ ls b'', b'.run ls = some b'' → b.nextChan ∈ b''.subs := by
  obtain ⟨subCh, hs, hsbuf⟩ := b.subCh.send?_of_lt b.nextChan (by simp [hsub])
  obtain ⟨unsubCh, hu, hubuf⟩ := b.unsubCh.send?_of_lt b.nextChan (by simp [hunsub])
  have hubuf' : unsubCh.buf = [b.nextChan] := by simp [hubuf, hunsub]
  have hsbuf' : subCh.buf = [b.nextChan] := by simp [hsbuf, hsub]
  obtain ⟨unsubCh', hu', hempty⟩ := Chan.recv?_of_cons hubuf'
  obtain ⟨subCh', hs', -⟩ := Chan.recv?_of_cons hsbuf'
  simp [cancelledSubscribe, Broker.run_cons, Broker.step, Broker.modifySubscriber, Subscriber.fresh,
    hs, hu, hu', hs', hidle]
  -- the run ends with the channel in subs and nothing left to take it out
  intro ls b'' hr
  refine (StaysSubscribed.run ?_ ls hr).mem
  exact ⟨by simp, by simp, by simp, by simp [hempty]⟩

theorem init_unsubscribed_channel_stays_subscribed :
    ∃ b', (Broker.init : Broker Nat).run (cancelledSubscribe 0) = some b' ∧ 0 ∈ b'.unsubReceived ∧
      ∀ ls b'', b'.run ls = some b'' → 0 ∈ b''.subs :=
  unsubscribed_channel_stays_subscribed Broker.init rfl rfl rfl

end Resubscribe

section Delivery

-- What the loop keeps over every run: subs has no duplicates; every channel it
-- names was made; a receipt whose range is done tried each subscriber once, and
-- the one in progress tried each at most once; each subscriber's reads and buffer
-- are the messages of the receipts that reached it; and the messages received
-- from publishCh, then those still buffered there, are what was published.
structure Broker.Inv (b : Broker E) : Prop where
  subs_nodup : b.subs.Nodup
  subs_made : ∀ c ∈ b.subs, c < b.nextChan
  subCh_made : ∀ c ∈ b.subCh.buf, c < b.nextChan
  history_made : ∀ r ∈ b.history, ∀ c ∈ r.subs, c < b.nextChan
  tried : ∀ r ∈ b.receipts, (r.sent ++ r.dropped).Perm r.subs ∧ r.subs.Nodup
  trying : ∀ r pending, b.loop = .fanout r pending →
    (r.sent ++ r.dropped ++ pending).Perm r.subs ∧ r.subs.Nodup
  delivered : ∀ ch, (b.subscribers ch).reads ++ (b.subscribers ch).msgCh.buf =
    ((b.history.filter fun r => ch ∈ r.sent).map (·.msg))
  received : b.history.map (·.msg) ++ b.publishCh.buf = b.published

variable {b b' : Broker E}

theorem history_of_idle (h : b.loop = .idle) : b.history = b.receipts := by
  simp [Broker.history, h, Loop.current]

theorem history_of_fanout {r : Receipt E} {pending : List Nat} (h : b.loop = .fanout r pending) :
    b.history = b.receipts ++ [r] := by
  simp [Broker.history, h, Loop.current]

theorem inv_init : (Broker.init : Broker E).Inv where
  subs_nodup := List.nodup_nil
  subs_made := by simp [Broker.init]
  subCh_made := by simp [Broker.init]
  history_made := by simp [Broker.init, Broker.history, Loop.current]
  tried := by simp [Broker.init]
  trying := by simp [Broker.init]
  delivered := by simp [Broker.init, Broker.history, Loop.current, Subscriber.fresh]
  received := by simp [Broker.init, Broker.history, Loop.current]

-- Every channel a receipt reached or dropped was a subscriber when it was received
theorem Broker.Inv.sent_subs (hb : b.Inv) {r : Receipt E} (hr : r ∈ b.history) {c : Nat}
    (hc : c ∈ r.sent) : c ∈ r.subs := by
  rcases List.mem_append.mp hr with hr | hr
  · exact (hb.tried r hr).1.subset (List.mem_append_left _ hc)
  · cases hl : b.loop with
    | fanout r' pending =>
      simp only [hl, Loop.current, List.mem_singleton] at hr
      subst hr
      exact (hb.trying _ pending hl).1.subset (List.mem_append_left _ (List.mem_append_left _ hc))
    | idle => simp [hl, Loop.current] at hr
    | stopped => simp [hl, Loop.current] at hr

-- The range over subs after one more try: the receipts are complete once no
-- channel is left, and still in progress otherwise.
theorem tried_continueFanout (htried : ∀ r ∈ b.receipts, (r.sent ++ r.dropped).Perm r.subs ∧ r.subs.Nodup)
    (r : Receipt E) (pending : List Nat) (hr : (r.sent ++ r.dropped ++ pending).Perm r.subs ∧ r.subs.Nodup) :
    (∀ r' ∈ (b.continueFanout r pending).receipts, (r'.sent ++ r'.dropped).Perm r'.subs ∧ r'.subs.Nodup) ∧
    (∀ r' pending', (b.continueFanout r pending).loop = .fanout r' pending' →
      (r'.sent ++ r'.dropped ++ pending').Perm r'.subs ∧ r'.subs.Nodup) := by
  cases pending with
  | nil =>
    refine ⟨fun r' hr' => ?_, fun r' pending' hl => by simp [Broker.continueFanout] at hl⟩
    simp only [Broker.continueFanout, List.mem_append, List.mem_singleton] at hr'
    rcases hr' with hr' | rfl
    · exact htried r' hr'
    · simpa using hr
  | cons c pending =>
    refine ⟨htried, fun r' pending' hl => ?_⟩
    simp only [Broker.continueFanout, Loop.fanout.injEq] at hl
    obtain ⟨rfl, rfl⟩ := hl
    exact hr

-- A step that changes none of what the invariant reads keeps it
theorem Broker.Inv.congr (hb : b.Inv) (hsubs : b'.subs = b.subs) (hnext : b'.nextChan = b.nextChan)
    (hsubCh : b'.subCh.buf = b.subCh.buf) (hhist : b'.history = b.history)
    (hrec : b'.receipts = b.receipts)
    (hloop : ∀ r pending, b'.loop = .fanout r pending → b.loop = .fanout r pending)
    (hsubscribers : ∀ ch, (b'.subscribers ch).reads = (b.subscribers ch).reads ∧
      (b'.subscribers ch).msgCh.buf = (b.subscribers ch).msgCh.buf)
    (hpub : b'.publishCh.buf = b.publishCh.buf) (hpublished : b'.published = b.published) : b'.Inv where
  subs_nodup := hsubs ▸ hb.subs_nodup
  subs_made := by rw [hsubs, hnext]; exact hb.subs_made
  subCh_made := by rw [hsubCh, hnext]; exact hb.subCh_made
  history_made := by rw [hhist, hnext]; exact hb.history_made
  tried := by rw [hrec]; exact hb.tried
  trying r pending hl := hb.trying r pending (hloop r pending hl)
  delivered ch := by rw [(hsubscribers ch).1, (hsubscribers ch).2, hhist]; exact hb.delivered ch
  received := by rw [hhist, hpub, hpublished]; exact hb.received

-- Changing a subscriber's context or goroutine keeps the invariant
theorem Broker.Inv.modifySubscriber (hb : b.Inv) (ch : Nat) {f : Subscriber E → Subscriber E}
    (hf : ∀ s, (f s).reads = s.reads ∧ (f s).msgCh = s.msgCh) : (b.modifySubscriber ch f).Inv := by
  refine hb.congr rfl rfl rfl rfl rfl (fun _ _ h => h) (fun c => ?_) rfl rfl
  rw [modifySubscriber_subscribers]
  split_ifs with hc
  · subst hc
    simp [hf]
  · exact ⟨rfl, rfl⟩

theorem Broker.Inv.publish (hb : b.Inv) {msg : E} (h : b.step (.publish msg) = some b') : b'.Inv := by
  obtain ⟨c, hc, rfl⟩ := step_publish h
  exact { hb with received := Chan.log_send hb.received hc }

theorem Broker.Inv.subscribe (hb : b.Inv) (h : b.step .subscribe = some b') : b'.Inv := by
  obtain ⟨c, hc, rfl⟩ := step_subscribe h
  have hbuf := (Chan.send?_eq_some_iff.mp hc).2
  refine { hb with subs_made := ?_, subCh_made := ?_, history_made := ?_, delivered := ?_ }
  · intro x hx
    exact Nat.lt_succ_of_lt (hb.subs_made x hx)
  · intro x hx
    show x < b.nextChan + 1
    rw [hbuf] at hx
    rcases List.mem_append.mp hx with hx | hx
    · exact Nat.lt_succ_of_lt (hb.subCh_made x hx)
    · simp at hx
      omega
  · intro r hr x hx
    exact Nat.lt_succ_of_lt (hb.history_made r hr x hx)
  · intro ch
    show (Function.update b.subscribers b.nextChan .fresh ch).reads ++
      (Function.update b.subscribers b.nextChan .fresh ch).msgCh.buf =
      (b.history.filter fun r => ch ∈ r.sent).map (·.msg)
    by_cases hch : ch = b.nextChan
    · subst hch
      -- no receipt reached the new channel: every one names older channels only
      have hnone : (b.history.filter fun r => b.nextChan ∈ r.sent) = [] := by
        rw [List.filter_eq_nil_iff]
        intro r hr hsent
        have := hb.history_made r hr _ (hb.sent_subs hr (by simpa using hsent))
        omega
      simp [Subscriber.fresh, hnone]
    · simpa [Function.update_apply, hch] using hb.delivered ch

theorem Broker.Inv.cancel (hb : b.Inv) {ch : Nat} (h : b.step (.cancel ch) = some b') : b'.Inv := by
  obtain ⟨-, rfl⟩ := step_cancel h
  exact hb.modifySubscriber ch fun _ => ⟨rfl, rfl⟩

theorem Broker.Inv.unsubscribe (hb : b.Inv) {ch : Nat} (h : b.step (.unsubscribe ch) = some b') : b'.Inv := by
  obtain ⟨-, -, c, -, rfl⟩ := step_unsubscribe h
  have hmod := hb.modifySubscriber ch (f := fun s => { s with unsub := .sent }) fun _ => ⟨rfl, rfl⟩
  exact hmod.congr rfl rfl rfl rfl rfl (fun _ _ h => h) (fun _ => ⟨rfl, rfl⟩) rfl rfl

theorem Broker.Inv.read (hb : b.Inv) {ch : Nat} (h : b.step (.read ch) = some b') : b'.Inv := by
  obtain ⟨msg, c, hc, rfl⟩ := step_read h
  refine { hb with delivered := fun ch' => ?_ }
  rw [modifySubscriber_subscribers]
  split_ifs with hch
  · subst hch
    have := Chan.log_recv (hb.delivered ch') hc
    simpa using this
  · exact hb.delivered ch'

theorem Broker.Inv.recvDone (hb : b.Inv) (h : b.step .recvDone = some b') : b'.Inv := by
  obtain ⟨hidle, -, rfl⟩ := step_recvDone h
  refine hb.congr rfl rfl rfl ?_ rfl (fun _ _ h => by cases h) (fun _ => ⟨rfl, rfl⟩) rfl rfl
  simp [Broker.history, hidle, Loop.current]

theorem Broker.Inv.cancelBroker (hb : b.Inv) (h : b.step .cancelBroker = some b') : b'.Inv := by
  rw [step_cancelBroker h]
  exact hb.congr rfl rfl rfl rfl rfl (fun _ _ h => h) (fun _ => ⟨rfl, rfl⟩) rfl rfl

theorem Broker.Inv.recvSub (hb : b.Inv) (h : b.step .recvSub = some b') : b'.Inv := by
  obtain ⟨-, ch, c, hc, rfl⟩ := step_recvSub h
  have hbuf := Chan.recv?_eq_some_iff.mp hc
  refine { hb with subs_nodup := List.Nodup.insert hb.subs_nodup, subs_made := ?_, subCh_made := ?_ }
  · intro x hx
    rcases List.mem_insert_iff.mp hx with rfl | hx
    · exact hb.subCh_made x (by rw [hbuf]; exact List.mem_cons_self)
    · exact hb.subs_made x hx
  · intro x hx
    exact hb.subCh_made x (by rw [hbuf]; exact List.mem_cons_of_mem ch hx)

theorem Broker.Inv.recvUnsub (hb : b.Inv) (h : b.step .recvUnsub = some b') : b'.Inv := by
  obtain ⟨-, ch, c, -, rfl⟩ := step_recvUnsub h
  exact { hb with
    subs_nodup := List.Nodup.erase ch hb.subs_nodup
    subs_made := fun x hx => hb.subs_made x (List.mem_of_mem_erase hx) }

theorem Broker.Inv.recvPublish (hb : b.Inv) (h : b.step .recvPublish = some b') : b'.Inv := by
  obtain ⟨hidle, msg, c, hc, rfl⟩ := step_recvPublish h
  have hbuf := Chan.recv?_eq_some_iff.mp hc
  have hhist := history_of_idle hidle
  obtain ⟨htried, htrying⟩ := tried_continueFanout (b := ({ b with publishCh := c } : Broker E))
    hb.tried { msg := msg, subs := b.subs, sent := [], dropped := [] } b.subs ⟨by simp, hb.subs_nodup⟩
  refine ⟨by simpa using hb.subs_nodup, by simpa using hb.subs_made, by simpa using hb.subCh_made,
    ?_, htried, htrying, ?_, ?_⟩
  · intro r hr x hx
    simp only [continueFanout_history, List.mem_append, List.mem_singleton] at hr
    rcases hr with hr | rfl
    · simpa using hb.history_made r (hhist ▸ hr) x hx
    · simpa using hb.subs_made x hx
  · intro ch
    simpa [List.filter_append, hhist] using hb.delivered ch
  · have := hb.received
    rw [hbuf, hhist] at this
    simpa using this

-- Trying one more channel of a range: the pending channel moves to the sent or
-- the dropped ones, and the receipt still lists every subscriber once.
theorem perm_try {r : Receipt E} {pending : List Nat} {ch : Nat} (hch : ch ∈ pending)
    (hperm : (r.sent ++ r.dropped ++ pending).Perm r.subs) :
    (r.sent ++ [ch] ++ r.dropped ++ pending.erase ch).Perm r.subs ∧
    (r.sent ++ (r.dropped ++ [ch]) ++ pending.erase ch).Perm r.subs := by
  have hp : (r.sent ++ r.dropped ++ pending).Perm (ch :: (r.sent ++ r.dropped ++ pending.erase ch)) :=
    ((List.perm_cons_erase hch).append_left _).trans List.perm_middle
  have hsent : (r.sent ++ [ch] ++ r.dropped ++ pending.erase ch).Perm
      (ch :: (r.sent ++ r.dropped ++ pending.erase ch)) := by
    simp only [List.append_assoc, List.singleton_append]
    exact List.perm_middle
  have hdropped : (r.sent ++ (r.dropped ++ [ch]) ++ pending.erase ch).Perm
      (ch :: (r.sent ++ r.dropped ++ pending.erase ch)) := by
    have h : (r.sent ++ r.dropped ++ ch :: pending.erase ch).Perm
        (ch :: (r.sent ++ r.dropped ++ pending.erase ch)) := List.perm_middle
    simpa [List.append_assoc] using h
  exact ⟨(hsent.trans hp.symm).trans hperm, (hdropped.trans hp.symm).trans hperm⟩

theorem filter_sent_last (l : List (Receipt E)) (r r' : Receipt E) (x : Nat)
    (hiff : x ∈ r'.sent ↔ x ∈ r.sent) (hmsg : r'.msg = r.msg) :
    ((l ++ [r']).filter fun q => x ∈ q.sent).map (·.msg) =
      ((l ++ [r]).filter fun q => x ∈ q.sent).map (·.msg) := by
  by_cases hx : x ∈ r.sent <;> simp [List.filter_append, hiff, hx, hmsg]

-- The receipt in progress, once one more channel is tried, still names made
-- channels and records the message received
theorem Broker.Inv.history_of_try (hb : b.Inv) {r : Receipt E} {pending : List Nat}
    (hl : b.loop = .fanout r pending) (r' : Receipt E) (hsubs : r'.subs = r.subs)
    (hmsg : r'.msg = r.msg) :
    (∀ q ∈ b.receipts ++ [r'], ∀ x ∈ q.subs, x < b.nextChan) ∧
      (b.receipts ++ [r']).map (·.msg) ++ b.publishCh.buf = b.published := by
  have hhist := history_of_fanout hl
  constructor
  · intro q hq x hx
    rcases List.mem_append.mp hq with hq | hq
    · exact hb.history_made q (by simp [hhist, hq]) x hx
    · rw [List.mem_singleton.mp hq, hsubs] at hx
      exact hb.history_made r (by simp [hhist]) x hx
  · have hrec := hb.received
    rw [hhist] at hrec
    simpa [hmsg] using hrec

theorem Broker.Inv.attempt (hb : b.Inv) {ch : Nat} (h : b.step (.attempt ch) = some b') : b'.Inv := by
  obtain ⟨r, pending, hl, hch, hsend⟩ := step_attempt h
  obtain ⟨hperm, hnodup⟩ := hb.trying r pending hl
  have hhist := history_of_fanout hl
  -- the channel tried now was not reached before in this range
  have hnotsent : ch ∉ r.sent := by
    have hnd : (r.sent ++ r.dropped ++ pending).Nodup := hperm.nodup_iff.mpr hnodup
    rw [List.append_assoc, List.nodup_append] at hnd
    exact fun hs => hnd.2.2 ch hs ch (List.mem_append_right _ hch) rfl
  obtain ⟨hpermSent, hpermDropped⟩ := perm_try hch hperm
  rcases hsend with ⟨c, hc, rfl⟩ | ⟨-, rfl⟩
  · have hbuf := (Chan.send?_eq_some_iff.mp hc).2
    obtain ⟨htried, htrying⟩ := tried_continueFanout (b := b.modifySubscriber ch fun s => { s with msgCh := c })
      hb.tried { r with sent := r.sent ++ [ch] } (pending.erase ch) ⟨hpermSent, hnodup⟩
    obtain ⟨hmade, hrec⟩ := hb.history_of_try hl { r with sent := r.sent ++ [ch] } rfl rfl
    refine ⟨by simpa using hb.subs_nodup, by simpa using hb.subs_made, by simpa using hb.subCh_made,
      by simpa using hmade, htried, htrying, fun x => ?_, by simpa using hrec⟩
    simp only [continueFanout_history, continueFanout_subscribers, modifySubscriber_receipts,
      modifySubscriber_subscribers]
    split_ifs with hx
    · subst hx
      have hold := hb.delivered x
      rw [hhist] at hold
      simp [List.filter_append, hnotsent] at hold
      simp [List.filter_append, hbuf, ← hold]
    · rw [filter_sent_last b.receipts r { r with sent := r.sent ++ [ch] } x (by simp [hx]) rfl, ← hhist]
      exact hb.delivered x
  · obtain ⟨htried, htrying⟩ := tried_continueFanout (b := b) hb.tried
      { r with dropped := r.dropped ++ [ch] } (pending.erase ch) ⟨hpermDropped, hnodup⟩
    obtain ⟨hmade, hrec⟩ := hb.history_of_try hl { r with dropped := r.dropped ++ [ch] } rfl rfl
    refine ⟨by simpa using hb.subs_nodup, by simpa using hb.subs_made, by simpa using hb.subCh_made,
      by simpa using hmade, htried, htrying, fun x => ?_, by simpa using hrec⟩
    simp only [continueFanout_history, continueFanout_subscribers]
    rw [filter_sent_last b.receipts r { r with dropped := r.dropped ++ [ch] } x Iff.rfl rfl, ← hhist]
    exact hb.delivered x

theorem Broker.Inv.step (hb : b.Inv) (l : Label E) (h : b.step l = some b') : b'.Inv := by
  cases l with
  | publish msg => exact hb.publish h
  | subscribe => exact hb.subscribe h
  | cancel ch => exact hb.cancel h
  | unsubscribe ch => exact hb.unsubscribe h
  | read ch => exact hb.read h
  | recvDone => exact hb.recvDone h
  | recvSub => exact hb.recvSub h
  | recvUnsub => exact hb.recvUnsub h
  | recvPublish => exact hb.recvPublish h
  | attempt ch => exact hb.attempt h
  | cancelBroker => exact hb.cancelBroker h

theorem Broker.Reachable.inv (h : b.Reachable) : b.Inv := by
  induction h with
  | init => exact inv_init
  | step l _ hs ih => exact ih.step l hs

theorem Broker.Reachable.run (h : b.Reachable) (ls : List (Label E)) (hr : b.run ls = some b') :
    b'.Reachable :=
  foldlM_preserves Broker.Reachable (fun l hs hl => hs.step l hl) ls h hr

-- The loop's send to a pending channel can always be taken; it reaches the
-- channel when the buffer holds fewer than 5 and drops the message otherwise.
theorem attempt_of_pending {r : Receipt E} {pending : List Nat} {ch : Nat}
    (hl : b.loop = .fanout r pending) (hch : ch ∈ pending) :
    ∃ b', b.step (.attempt ch) = some b' ∧
      ((b.subscribers ch).msgCh.buf.length < 5 →
        b'.history = b.receipts ++ [{ r with sent := r.sent ++ [ch] }] ∧
        (b'.subscribers ch).msgCh.buf = (b.subscribers ch).msgCh.buf ++ [r.msg]) ∧
      (5 ≤ (b.subscribers ch).msgCh.buf.length →
        b'.history = b.receipts ++ [{ r with dropped := r.dropped ++ [ch] }] ∧
        b'.subscribers = b.subscribers) := by
  cases hsend : (b.subscribers ch).msgCh.send? r.msg with
  | some c =>
    have hc := Chan.send?_eq_some_iff.mp hsend
    refine ⟨(b.modifySubscriber ch fun s => { s with msgCh := c }).continueFanout
      { r with sent := r.sent ++ [ch] } (pending.erase ch), by simp [Broker.step, hl, hch, hsend],
      fun _ => ⟨by simp, ?_⟩, fun h5 => by omega⟩
    simp [modifySubscriber_subscribers, hc.2]
  | none =>
    have hc := Chan.send?_eq_none_iff.mp hsend
    exact ⟨b.continueFanout { r with dropped := r.dropped ++ [ch] } (pending.erase ch),
      by simp [Broker.step, hl, hch, hsend], fun h5 => by omega, fun _ => ⟨by simp, by simp⟩⟩

-- Over every interleaving: what a subscriber's reader received, then what its
-- channel still buffers, is the messages of the receipts that reached it, in the
-- order the loop received them from publishCh; receiving a message records the
-- subscribers of that moment; each finished range tried each of them exactly once
-- and no other channel; and each try of the range never blocks and reaches the
-- channel exactly when it then holds fewer than 5 unread events.
theorem subscriber_yields_received_messages (hb : b.Reachable) :
    (∀ ch, (b.subscribers ch).reads ++ (b.subscribers ch).msgCh.buf =
      (b.history.filter fun r => ch ∈ r.sent).map (·.msg)) ∧
    b.history.map (·.msg) ++ b.publishCh.buf = b.published ∧
    (∀ b', b.step .recvPublish = some b' →
      ∃ msg, b'.history = b.history ++ [{ msg := msg, subs := b.subs, sent := [], dropped := [] }]) ∧
    (∀ r ∈ b.receipts, ∀ ch, (ch ∈ r.sent ∨ ch ∈ r.dropped ↔ ch ∈ r.subs) ∧
      ¬ (ch ∈ r.sent ∧ ch ∈ r.dropped)) ∧
    (∀ r pending ch, b.loop = .fanout r pending → ch ∈ pending →
      ∃ b', b.step (.attempt ch) = some b' ∧
        ((b.subscribers ch).msgCh.buf.length < 5 →
          b'.history = b.receipts ++ [{ r with sent := r.sent ++ [ch] }] ∧
          (b'.subscribers ch).msgCh.buf = (b.subscribers ch).msgCh.buf ++ [r.msg]) ∧
        (5 ≤ (b.subscribers ch).msgCh.buf.length →
          b'.history = b.receipts ++ [{ r with dropped := r.dropped ++ [ch] }] ∧
          b'.subscribers = b.subscribers)) := by
  have hinv := hb.inv
  refine ⟨hinv.delivered, hinv.received, fun b' h => ?_, fun r hr ch => ?_,
    fun r pending ch hl hch => attempt_of_pending hl hch⟩
  · obtain ⟨hidle, msg, c, -, rfl⟩ := step_recvPublish h
    exact ⟨msg, by simp [history_of_idle hidle]⟩
  · obtain ⟨hperm, hnodup⟩ := hinv.tried r hr
    have hnd : (r.sent ++ r.dropped).Nodup := hperm.nodup_iff.mpr hnodup
    refine ⟨by rw [← List.mem_append, hperm.mem_iff], fun ⟨hs, hd⟩ => ?_⟩
    exact (List.nodup_append.mp hnd).2.2 ch hs ch hd rfl

-- Each send attempt of the range in progress goes to a channel that was in subs
-- when the loop received the message, and that the range has not tried yet.
theorem Broker.Reachable.attempt_mem_subs (hb : b.Reachable) {ch : Nat} (h : b.step (.attempt ch) = some b') :
    ∃ r pending, b.loop = .fanout r pending ∧ ch ∈ r.subs ∧ ch ∉ r.sent ∧ ch ∉ r.dropped := by
  obtain ⟨r, pending, hl, hch, -⟩ := step_attempt h
  obtain ⟨hperm, hnodup⟩ := hb.inv.trying r pending hl
  have hnd : (r.sent ++ r.dropped ++ pending).Nodup := hperm.nodup_iff.mpr hnodup
  refine ⟨r, pending, hl, hperm.subset (List.mem_append_right _ hch), fun hs => ?_, fun hd => ?_⟩
  · exact (List.nodup_append.mp hnd).2.2 ch (List.mem_append_left _ hs) ch hch rfl
  · exact (List.nodup_append.mp hnd).2.2 ch (List.mem_append_right _ hd) ch hch rfl

-- One subscriber, filled with five messages; a sixth is received while the
-- channel holds five unread events.
def fullChannelTrace : List (Label Nat) :=
  [.subscribe, .recvSub] ++
  ([0, 1, 2, 3, 4].flatMap fun m => [.publish m, .recvPublish, .attempt 0]) ++
  [.publish 5, .recvPublish]

def fullChannelState : Broker Nat := ((Broker.init : Broker Nat).run fullChannelTrace).getD .init

-- The reader takes one event before the loop tries the send, and the sixth message
-- reaches the channel although it was full when the loop received it.
theorem full_channel_at_receipt_still_reached :
    (Broker.init : Broker Nat).run fullChannelTrace = some fullChannelState ∧
    fullChannelState.loop = .fanout { msg := 5, subs := [0], sent := [], dropped := [] } [0] ∧
    (fullChannelState.subscribers 0).msgCh.buf.length = 5 ∧
    ((fullChannelState.run [.read 0, .attempt 0]).map fun b => (b.subscribers 0).msgCh.buf) =
      some [1, 2, 3, 4, 5] :=
  ⟨rfl, by decide, by decide, by decide⟩

theorem fullChannelState_yields_its_receipts :
    (fullChannelState.subscribers 0).reads ++ (fullChannelState.subscribers 0).msgCh.buf =
      (fullChannelState.history.filter fun r => 0 ∈ r.sent).map (·.msg) :=
  (subscriber_yields_received_messages (Broker.Reachable.init.run fullChannelTrace rfl)).1 0

end Delivery

section Progress

-- While the loop runs it needs nothing of the other goroutines to get back to its
-- select and empty publishCh: a range never blocks, and one receive takes what
-- publishCh holds.
variable {b b' : Broker E}

theorem continueFanout_pending_ne_nil {r r' : Receipt E} {pending pending' : List Nat}
    (h : (b.continueFanout r pending).loop = .fanout r' pending') : pending' ≠ [] := by
  cases pending with
  | nil => simp [Broker.continueFanout] at h
  | cons c rest =>
    simp only [Broker.continueFanout, Loop.fanout.injEq] at h
    rw [← h.2]
    exact List.cons_ne_nil c rest

-- A range in progress has a channel left to try: the range ends when its last one is tried
theorem step_pending_ne_nil (hne : ∀ r pending, b.loop = .fanout r pending → pending ≠ [])
    {l : Label E} (h : b.step l = some b') : ∀ r pending, b'.loop = .fanout r pending → pending ≠ [] := by
  intro r pending hl
  cases l with
  | recvPublish =>
    obtain ⟨-, msg, c, -, rfl⟩ := step_recvPublish h
    exact continueFanout_pending_ne_nil hl
  | attempt ch =>
    obtain ⟨r₀, pending₀, -, -, ⟨c, -, rfl⟩ | ⟨-, rfl⟩⟩ := step_attempt h <;>
      exact continueFanout_pending_ne_nil hl
  | recvDone =>
    obtain ⟨-, -, rfl⟩ := step_recvDone h
    cases hl
  | cancelBroker =>
    rw [step_cancelBroker h] at hl
    exact hne r pending hl
  | publish msg =>
    obtain ⟨c, -, rfl⟩ := step_publish h
    exact hne r pending hl
  | subscribe =>
    obtain ⟨c, -, rfl⟩ := step_subscribe h
    exact hne r pending hl
  | cancel ch =>
    obtain ⟨-, rfl⟩ := step_cancel h
    exact hne r pending hl
  | unsubscribe ch =>
    obtain ⟨-, -, c, -, rfl⟩ := step_unsubscribe h
    exact hne r pending hl
  | read ch =>
    obtain ⟨msg, c, -, rfl⟩ := step_read h
    exact hne r pending hl
  | recvSub =>
    obtain ⟨-, ch, c, -, rfl⟩ := step_recvSub h
    exact hne r pending hl
  | recvUnsub =>
    obtain ⟨-, ch, c, -, rfl⟩ := step_recvUnsub h
    exact hne r pending hl

theorem Broker.Reachable.pending_ne_nil (hb : b.Reachable) :
    ∀ r pending, b.loop = .fanout r pending → pending ≠ [] := by
  induction hb with
  | init => intro r pending h; cases h
  | step l _ hs ih => exact step_pending_ne_nil ih hs

-- The loop tries the pending channels of its range in turn and is back in its select
theorem run_attempts {r : Receipt E} {pending : List Nat} (hl : b.loop = .fanout r pending)
    (hne : pending ≠ []) :
    ∃ b', b.run (pending.map .attempt) = some b' ∧ b'.loop = .idle ∧ b'.publishCh = b.publishCh ∧
      b'.published = b.published := by
  induction pending generalizing b r with
  | nil => exact absurd rfl hne
  | cons c rest ih =>
    -- the first channel is tried, and the range goes on with the rest
    obtain ⟨b₁, h₁, -⟩ := attempt_of_pending hl List.mem_cons_self
    obtain ⟨r₀, pending₀, hl₀, -, hsend⟩ := step_attempt h₁
    rw [hl, Loop.fanout.injEq] at hl₀
    obtain ⟨rfl, rfl⟩ := hl₀
    rw [List.erase_cons_head] at hsend
    obtain ⟨B, r₁, rfl, hB, hB'⟩ : ∃ (B : Broker E) (r₁ : Receipt E), b₁ = B.continueFanout r₁ rest ∧ B.publishCh = b.publishCh ∧
        B.published = b.published := by
      rcases hsend with ⟨c', -, rfl⟩ | ⟨-, rfl⟩ <;> exact ⟨_, _, rfl, rfl, rfl⟩
    cases rest with
    | nil =>
      refine ⟨B.continueFanout r₁ [], ?_, rfl, by simp [hB], by simp [hB']⟩
      rw [List.map_singleton, Broker.run_cons, h₁]
      rfl
    | cons c' rest' =>
      obtain ⟨b', hrun, hidle, hpub, hpubd⟩ := ih (b := B.continueFanout r₁ (c' :: rest')) rfl
        (List.cons_ne_nil c' rest')
      refine ⟨b', ?_, hidle, by simp [hpub, hB], by simp [hpubd, hB']⟩
      rw [List.map_cons, Broker.run_cons, h₁]
      exact hrun

-- From a reachable state whose loop has not returned, the loop's tries end its range
theorem run_to_idle (hb : b.Reachable) (hstop : b.loop ≠ .stopped) :
    ∃ ls, (∀ l ∈ ls, ∃ ch, l = .attempt ch) ∧ ∃ b', b.run ls = some b' ∧ b'.loop = .idle ∧
      b'.publishCh = b.publishCh ∧ b'.published = b.published := by
  cases hl : b.loop with
  | idle => exact ⟨[], by simp, b, rfl, hl, rfl, rfl⟩
  | fanout r pending =>
    obtain ⟨b', hrun, hidle, hpub, hpubd⟩ := run_attempts hl (hb.pending_ne_nil r pending hl)
    exact ⟨pending.map .attempt, by simp, b', hrun, hidle, hpub, hpubd⟩
  | stopped => exact absurd hl hstop

-- The loop in its select receives the message publishCh holds and starts its range
theorem step_recvPublish_of_idle (hidle : b.loop = .idle) {x : E} (hbuf : b.publishCh.buf = [x]) :
    ∃ b', b.step .recvPublish = some b' ∧ b'.loop ≠ .stopped ∧ b'.publishCh.buf = [] ∧
      b'.published = b.published := by
  obtain ⟨c, hc, hcbuf⟩ := Chan.recv?_of_cons hbuf
  refine ⟨({ b with publishCh := c } : Broker E).continueFanout
    { msg := x, subs := b.subs, sent := [], dropped := [] } b.subs, ?_, ?_, by simpa using hcbuf, by simp⟩
  · unfold Broker.step
    simp only [hidle, hc]
  · cases b.subs <;> simp [Broker.continueFanout]

-- While the loop runs, its own steps alone bring it back to its select with
-- publishCh empty, so the next Publish completes; every message published so far
-- has then been received, in the order it was published.
theorem drain (hb : b.Reachable) (hstop : b.loop ≠ .stopped) :
    ∃ ls, (∀ l ∈ ls, l = .recvPublish ∨ ∃ ch, l = .attempt ch) ∧ ∃ b', b.run ls = some b' ∧
      b'.loop = .idle ∧ b'.publishCh.buf = [] ∧ b'.published = b.published ∧
      b'.receipts.map (·.msg) = b.published := by
  -- once idle, the receipts are the history, and with publishCh empty they are all published
  have hreceipts : ∀ {b' : Broker E}, b'.Reachable → b'.loop = .idle → b'.publishCh.buf = [] →
      b'.receipts.map (·.msg) = b'.published := fun hb' hidle hbuf => by
    have hrec := hb'.inv.received
    rwa [history_of_idle hidle, hbuf, List.append_nil] at hrec
  obtain ⟨ls₁, hls₁, b₁, hrun₁, hidle₁, hpub₁, hpubd₁⟩ := run_to_idle hb hstop
  have hb₁ := hb.run ls₁ hrun₁
  have hbound := b₁.publishCh.bound
  match hbuf : b₁.publishCh.buf with
  | [] =>
    refine ⟨ls₁, fun l hl => .inr (hls₁ l hl), b₁, hrun₁, hidle₁, hbuf, hpubd₁, ?_⟩
    rw [← hpubd₁]
    exact hreceipts hb₁ hidle₁ hbuf
  | [x] =>
    -- publishCh holds one message: receive it and finish its range
    obtain ⟨b₂, h₂, hstop₂, hbuf₂, hpubd₂⟩ := step_recvPublish_of_idle hidle₁ hbuf
    have hb₂ := hb₁.step .recvPublish h₂
    obtain ⟨ls₃, hls₃, b₃, hrun₃, hidle₃, hpub₃, hpubd₃⟩ := run_to_idle hb₂ hstop₂
    have hbuf₃ : b₃.publishCh.buf = [] := by rw [hpub₃, hbuf₂]
    refine ⟨ls₁ ++ .recvPublish :: ls₃, ?_, b₃, ?_, hidle₃, hbuf₃, by rw [hpubd₃, hpubd₂, hpubd₁], ?_⟩
    · intro l hl
      rcases List.mem_append.mp hl with hl | hl
      · exact .inr (hls₁ l hl)
      · rcases List.mem_cons.mp hl with rfl | hl
        · exact .inl rfl
        · exact .inr (hls₃ l hl)
    · rw [Broker.run_append, hrun₁, Option.bind_some, Broker.run_cons, h₂, Option.bind_some]
      exact hrun₃
    · rw [← hpubd₁, ← hpubd₂, ← hpubd₃]
      exact hreceipts (hb₂.run ls₃ hrun₃) hidle₃ hbuf₃
  | _ :: _ :: _ =>
    rw [hbuf] at hbound
    simp at hbound

-- Five messages are buffered for the reader and the loop tries the sixth: it
-- drops it, and the loop is back in its select with every message received.
theorem fullChannelState_drains :
    fullChannelState.loop ≠ .stopped ∧
    ∃ ls, (∀ l ∈ ls, l = .recvPublish ∨ ∃ ch, l = .attempt ch) ∧ ∃ b', fullChannelState.run ls = some b' ∧
      b'.loop = .idle ∧ b'.publishCh.buf = [] ∧ b'.published = fullChannelState.published ∧
      b'.receipts.map (·.msg) = fullChannelState.published :=
  ⟨by decide, drain (Broker.Reachable.init.run fullChannelTrace rfl) (by decide)⟩

end Progress

end Ducks.Client
