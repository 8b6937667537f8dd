import Ducks.Client.DuckClient

namespace Ducks.Client

open Ducks.Schema Ducks.Api Ducks.Errors Ducks.Lib

-- The handlers NewBroker puts on the cache: one on the informer of the duck type,
-- which keeps a handler on the informer of every Ready Duck's kind in
-- duckInformers and duckRegistrations, and those per-duck handlers, which publish
-- every event of their informer to the broker. The handlers run under the mutex m,
-- one notification at a time.

-- A handler registration: the informer it is on, named by the kind GetInformer was
-- asked for (the cache keeps one informer per kind), and the handler's number
structure Registration where
  informer : GroupVersionKind
  id : Nat
deriving DecidableEq, Repr

-- What a delete notification carries: the object's last state, or the
-- cache.DeletedFinalStateUnknown tombstone an informer sends when it missed the delete
inductive DeletedObject (α : Type)
  | object (obj : α)
  | tombstone (key : String) (obj : α)
deriving DecidableEq, Repr

inductive DuckNotification
  | add (duck : Duck)
  | update (old new : Duck)
  | delete (obj : DeletedObject Duck)

inductive DuckEvent
  | add (obj : Object)
  | update (old new : Object)
  | delete (obj : DeletedObject Object)

-- The cache's answers to the calls one notification makes
structure InformAnswers where
  getInformer : Except Error Unit
  addEventHandler : Except Error Unit
  removeEventHandler : Except Error Unit

def InformAnswers.ok : InformAnswers :=
  { getInformer := .ok (), addEventHandler := .ok (), removeEventHandler := .ok () }

-- A runtime panic, by its message
structure Panic where
  message : String
deriving DecidableEq, Repr

-- obj.(*unstructured.Unstructured) and obj.(client.Object) on a tombstone
def unstructuredConversionPanic : Panic :=
  ⟨"interface conversion: interface \x7b\x7d is cache.DeletedFinalStateUnknown, not *unstructured.Unstructured"⟩

def objectConversionPanic : Panic :=
  ⟨"interface conversion: cache.DeletedFinalStateUnknown is not client.Object: missing method DeepCopyObject"⟩

-- duckInformers and duckRegistrations, and the handlers the cache holds
structure Registry where
  duckInformers : String → Option GroupVersionKind
  duckRegistrations : String → Option Registration
  handlers : List Registration
  nextHandler : Nat

def Registry.init : Registry :=
  { duckInformers := fun _ => none, duckRegistrations := fun _ => none, handlers := [], nextHandler := 0 }

def Registry.informOn (reg : Registry) (r : Duck) (answers : InformAnswers) : Registry :=
  if (reg.duckInformers r.name).isSome then reg
  else if !isReady r.conditions then reg
  else
    match answers.getInformer with
    | .error _ => reg
    | .ok () =>
      let duckInformer := r.spec.groupVersionKind
      match answers.addEventHandler with
      | .error _ => reg
      | .ok () =>
        let duckRegistration : Registration := { informer := duckInformer, id := reg.nextHandler }
        { duckInformers := Function.update reg.duckInformers r.name (some duckInformer),
          duckRegistrations := Function.update reg.duckRegistrations r.name (some duckRegistration),
          handlers := reg.handlers ++ [duckRegistration],
          nextHandler := reg.nextHandler + 1 }

-- The DeleteFunc of the duck-type handler for a Duck that was not a tombstone
def Registry.stopInforming (reg : Registry) (name : String) (answers : InformAnswers) : Registry :=
  match reg.duckRegistrations name with
  | some registration =>
    match answers.removeEventHandler with
    | .error _ => reg
    | .ok () =>
      { reg with
        handlers := reg.handlers.erase registration,
        duckInformers := Function.update reg.duckInformers name none,
        duckRegistrations := Function.update reg.duckRegistrations name none }
  | none => reg

-- The duck-type handler. A tombstone fails the type assertion of DeleteFunc.
def Registry.onDuckType (reg : Registry) (n : DuckNotification) (answers : InformAnswers) :
    Except Panic Registry :=
  match n with
  | .add duck => .ok (reg.informOn duck answers)
  | .update _ duck => .ok (reg.informOn duck answers)
  | .delete (.object duck) => .ok (reg.stopInforming duck.name answers)
  | .delete (.tombstone _ _) => .error unstructuredConversionPanic

-- The duck-type handler's work before informOn or m.Lock(): the conversion of the
-- notified object, whose type assertion in DeleteFunc panics on a tombstone
def DuckNotification.toUnstructured : DuckNotification → Except Panic Unit
  | .delete (.tombstone _ _) => .error unstructuredConversionPanic
  | _ => .ok ()

-- A per-duck handler: the object it publishes for an event
def duckHandler : DuckEvent → Except Panic Object
  | .add obj => .ok obj
  | .update _ obj => .ok obj
  | .delete (.object obj) => .ok obj
  | .delete (.tombstone _ _) => .error objectConversionPanic

-- An event of an informer runs each handler registered on it, in order: the
-- objects they publish, or the first panic
def Registry.deliver (reg : Registry) (informer : GroupVersionKind) (e : DuckEvent) :
    Except Panic (List Object) :=
  (reg.handlers.filter fun h => h.informer = informer).mapM fun _ => duckHandler e

def Registry.run (reg : Registry) (ns : List (DuckNotification × InformAnswers)) : Except Panic Registry :=
  ns.foldlM (fun reg n => reg.onDuckType n.1 n.2) reg

section Registrations

variable (reg : Registry)

-- What informOn does to a Ready Duck of a name not informed on yet, when the cache answers
theorem informOn_of_new {r : Duck} (hnew : reg.duckInformers r.name = none)
    (hready : isReady r.conditions = true) :
    reg.informOn r .ok =
      { duckInformers := Function.update reg.duckInformers r.name (some r.spec.groupVersionKind),
        duckRegistrations := Function.update reg.duckRegistrations r.name
          (some { informer := r.spec.groupVersionKind, id := reg.nextHandler }),
        handlers := reg.handlers ++ [{ informer := r.spec.groupVersionKind, id := reg.nextHandler }],
        nextHandler := reg.nextHandler + 1 } := by
  simp [Registry.informOn, hnew, hready, InformAnswers.ok]

theorem informOn_of_informed {r : Duck} (answers : InformAnswers) (h : (reg.duckInformers r.name).isSome) :
    reg.informOn r answers = reg := by
  simp [Registry.informOn, h]

-- An event on an informer publishes its object once per handler registered there
theorem deliver_of_ok {e : DuckEvent} {obj : Object} (h : duckHandler e = .ok obj) (g : GroupVersionKind) :
    reg.deliver g e = .ok ((reg.handlers.filter fun r => r.informer = g).map fun _ => obj) := by
  simp only [Registry.deliver, h]
  exact mapM_const_ok obj _

-- and a handler that panics panics the delivery once one handler is registered there
theorem deliver_of_panic {e : DuckEvent} {p : Panic} (h : duckHandler e = .error p) {g : GroupVersionKind}
    (hg : ∃ r ∈ reg.handlers, r.informer = g) : reg.deliver g e = .error p := by
  obtain ⟨r, hr, hrg⟩ := hg
  have hne : (reg.handlers.filter fun r => r.informer = g) ≠ [] :=
    List.ne_nil_of_mem (List.mem_filter.mpr ⟨hr, by simp [hrg]⟩)
  simp only [Registry.deliver, h]
  exact mapM_const_error p hne

-- duckInformers and duckRegistrations name the same Ducks, and a registration is
-- on the informer duckInformers holds for its Duck
structure Registry.Inv (reg : Registry) : Prop where
  keys : ∀ n, (reg.duckInformers n).isSome = (reg.duckRegistrations n).isSome
  informer : ∀ n r, reg.duckRegistrations n = some r → reg.duckInformers n = some r.informer

theorem Registry.inv_init : Registry.init.Inv :=
  ⟨fun _ => rfl, fun _ _ h => by cases h⟩

theorem Registry.Inv.informOn {reg : Registry} (hinv : reg.Inv) (r : Duck) (answers : InformAnswers) :
    (reg.informOn r answers).Inv := by
  unfold Registry.informOn
  split_ifs with hinf hready
  · exact hinv
  · exact hinv
  · split
    · exact hinv
    · split
      · exact hinv
      · constructor
        · intro n
          by_cases hn : n = r.name <;> simp [hn, hinv.keys n]
        · intro n reg' hr
          by_cases hn : n = r.name
          · subst hn
            simp only [Function.update_self, Option.some.injEq] at hr
            subst hr
            simp
          · simp only [Function.update_apply, hn, if_false] at hr ⊢
            exact hinv.informer n reg' hr

theorem Registry.Inv.stopInforming {reg : Registry} (hinv : reg.Inv) (name : String)
    (answers : InformAnswers) : (reg.stopInforming name answers).Inv := by
  unfold Registry.stopInforming
  split
  · split
    · exact hinv
    · constructor
      · intro n
        by_cases hn : n = name <;> simp [hn, hinv.keys n]
      · intro n reg' hr
        by_cases hn : n = name
        · subst hn
          simp at hr
        · simp only [Function.update_apply, hn, if_false] at hr ⊢
          exact hinv.informer n reg' hr
  · exact hinv

-- A notification the handler completes keeps the two maps in step
theorem Registry.Inv.onDuckType {reg reg' : Registry} (hinv : reg.Inv) {n : DuckNotification}
    {answers : InformAnswers} (h : reg.onDuckType n answers = .ok reg') : reg'.Inv := by
  cases n with
  | add duck => cases h; exact hinv.informOn duck answers
  | update old duck => cases h; exact hinv.informOn duck answers
  | delete obj =>
    cases obj with
    | object duck => cases h; exact hinv.stopInforming duck.name answers
    | tombstone key duck => cases h

theorem Registry.Inv.run {reg reg' : Registry} (hinv : reg.Inv) (ns : List (DuckNotification × InformAnswers))
    (h : reg.run ns = .ok reg') : reg'.Inv := by
  induction ns generalizing reg with
  | nil =>
    cases h
    exact hinv
  | cons n ns ih =>
    simp only [Registry.run, List.foldlM_cons] at h
    cases hn : reg.onDuckType n.1 n.2 with
    | error p => simp [hn, bind, Except.bind] at h
    | ok reg₁ =>
      simp only [hn, bind, Except.bind] at h
      exact ih (hinv.onDuckType hn) h

-- The handlers on the duck informers are the registrations of duckRegistrations,
-- each once: none is lost or left over, none is there twice, and a registration
-- belongs to one Duck name
structure Registry.Exact (reg : Registry) : Prop where
  nodup : reg.handlers.Nodup
  mem_handlers : ∀ h, h ∈ reg.handlers ↔ ∃ n, reg.duckRegistrations n = some h
  injective : ∀ n m h, reg.duckRegistrations n = some h → reg.duckRegistrations m = some h → n = m
  fresh : ∀ h ∈ reg.handlers, h.id < reg.nextHandler

theorem Registry.exact_init : Registry.init.Exact :=
  ⟨List.nodup_nil, fun _ => by simp [Registry.init], fun _ _ _ h _ => (by cases h), fun _ h => by cases h⟩

-- A registration made for a name without one is one no handler has
theorem Registry.Exact.add {reg : Registry} (hex : reg.Exact) {name : String}
    (hnone : reg.duckRegistrations name = none) (g : GroupVersionKind) :
    ({ duckInformers := Function.update reg.duckInformers name (some g),
       duckRegistrations := Function.update reg.duckRegistrations name (some { informer := g, id := reg.nextHandler }),
       handlers := reg.handlers ++ [{ informer := g, id := reg.nextHandler }],
       nextHandler := reg.nextHandler + 1 } : Registry).Exact := by
  set new : Registration := { informer := g, id := reg.nextHandler }
  have hnew : new ∉ reg.handlers := fun hm => by
    have := hex.fresh new hm
    simp [new] at this
  refine ⟨hex.nodup.append (List.nodup_singleton new) (by simpa using hnew), fun h => ?_, ?_, ?_⟩
  · simp only [List.mem_append, List.mem_singleton, hex.mem_handlers]
    constructor
    · rintro (⟨n, hn⟩ | rfl)
      · have hne : n ≠ name := by rintro rfl; rw [hnone] at hn; cases hn
        exact ⟨n, by simp [hne, hn]⟩
      · exact ⟨name, by simp⟩
    · rintro ⟨n, hn⟩
      by_cases hne : n = name
      · subst hne
        simp at hn
        exact .inr hn.symm
      · exact .inl ⟨n, by simpa [Function.update_apply, hne] using hn⟩
  · -- the new registration is the name's alone, as no other name held it
    intro n m h hn hm
    by_cases hn' : n = name <;> by_cases hm' : m = name
    · rw [hn', hm']
    · simp [hn'] at hn
      simp [hm'] at hm
      exact absurd ((hex.mem_handlers h).mpr ⟨m, hm⟩) (hn ▸ hnew)
    · simp [hm'] at hm
      simp [hn'] at hn
      exact absurd ((hex.mem_handlers h).mpr ⟨n, hn⟩) (hm ▸ hnew)
    · simp [hn'] at hn
      simp [hm'] at hm
      exact hex.injective n m h hn hm
  · intro h hh
    rcases List.mem_append.mp hh with hh | hh
    · exact Nat.lt_succ_of_lt (hex.fresh h hh)
    · simp [List.mem_singleton.mp hh, new]

-- Removing the registration of a name takes its one handler off the informers
theorem Registry.Exact.remove {reg : Registry} (hex : reg.Exact) {name : String} {registration : Registration}
    (hreg : reg.duckRegistrations name = some registration) :
    ({ reg with handlers := reg.handlers.erase registration,
                duckInformers := Function.update reg.duckInformers name none,
                duckRegistrations := Function.update reg.duckRegistrations name none } : Registry).Exact := by
  refine ⟨hex.nodup.erase registration, fun h => ?_, ?_, fun h hh => hex.fresh h (List.mem_of_mem_erase hh)⟩
  · rw [hex.nodup.mem_erase_iff, hex.mem_handlers]
    constructor
    · rintro ⟨hne, n, hn⟩
      have hn' : n ≠ name := by
        rintro rfl
        rw [hreg] at hn
        exact hne (Option.some.inj hn).symm
      exact ⟨n, by simpa [hn'] using hn⟩
    · rintro ⟨n, hn⟩
      by_cases hn' : n = name
      · subst hn'
        simp at hn
      · simp [hn'] at hn
        exact ⟨fun heq => hn' (hex.injective n name h hn (heq ▸ hreg)), n, hn⟩
  · intro n m h hn hm
    by_cases hn' : n = name
    · subst hn'
      simp at hn
    · by_cases hm' : m = name
      · subst hm'
        simp at hm
      · simp [hn'] at hn
        simp [hm'] at hm
        exact hex.injective n m h hn hm

theorem Registry.Exact.informOn {reg : Registry} (hex : reg.Exact) (hinv : reg.Inv) (r : Duck)
    (answers : InformAnswers) : (reg.informOn r answers).Exact := by
  unfold Registry.informOn
  split_ifs with hinf hready
  · exact hex
  · exact hex
  · split
    · exact hex
    · split
      · exact hex
      · -- duckInformers has no entry for the name, so duckRegistrations has none
        have hnone : reg.duckRegistrations r.name = none := by
          have hkeys := hinv.keys r.name
          simp only [hinf, Bool.false_eq, Option.isSome_eq_false_iff, Option.isNone_iff_eq_none] at hkeys
          exact hkeys
        exact hex.add hnone _

theorem Registry.Exact.stopInforming {reg : Registry} (hex : reg.Exact) (name : String)
    (answers : InformAnswers) : (reg.stopInforming name answers).Exact := by
  unfold Registry.stopInforming
  split
  · split
    · exact hex
    · exact hex.remove ‹_›
  · exact hex

theorem Registry.Exact.onDuckType {reg reg' : Registry} (hex : reg.Exact) (hinv : reg.Inv)
    {n : DuckNotification} {answers : InformAnswers} (h : reg.onDuckType n answers = .ok reg') : reg'.Exact := by
  cases n with
  | add duck => cases h; exact hex.informOn hinv duck answers
  | update old duck => cases h; exact hex.informOn hinv duck answers
  | delete obj =>
    cases obj with
    | object duck => cases h; exact hex.stopInforming duck.name answers
    | tombstone key duck => cases h

end Registrations

section Contract

-- The handlers break their contract for every registry: a tombstone panics the
-- duck-type handler and every per-duck handler of the informer it reaches; an
-- update of an informed Duck leaves its handler on the informer of its first
-- Ready spec; and two Ready Ducks of one kind under two names put two handlers on
-- one informer, so that each event there is published twice more.
theorem duck_handlers_break_contract (reg : Registry) :
    (∀ key duck answers,
      reg.onDuckType (.delete (.tombstone key duck)) answers = .error unstructuredConversionPanic) ∧
    (∀ g key obj, (∃ h ∈ reg.handlers, h.informer = g) →
      reg.deliver g (.delete (.tombstone key obj)) = .error objectConversionPanic) ∧
    (∀ old duck, (reg.duckInformers duck.name).isSome → reg.onDuckType (.update old duck) .ok = .ok reg) ∧
    (∀ d₁ d₂ : Duck, d₁.name ≠ d₂.name → d₁.spec = d₂.spec →
      isReady d₁.conditions = true → isReady d₂.conditions = true →
      reg.duckInformers d₁.name = none → reg.duckInformers d₂.name = none →
      ∀ e obj, duckHandler e = .ok obj →
        ((reg.informOn d₁ .ok).informOn d₂ .ok).deliver d₁.spec.groupVersionKind e =
          .ok ((reg.handlers.filter fun r => r.informer = d₁.spec.groupVersionKind).map (fun _ => obj) ++
            [obj, obj])) := by
  refine ⟨fun key duck answers => rfl, ?_, fun old duck h => ?_, ?_⟩
  · intro g key obj hg
    exact deliver_of_panic reg rfl hg
  · simp [Registry.onDuckType, informOn_of_informed reg _ h]
  · intro d₁ d₂ hne hspec h₁ h₂ hn₁ hn₂ e obj he
    have hn₂' : (reg.informOn d₁ .ok).duckInformers d₂.name = none := by
      simp [informOn_of_new reg hn₁ h₁, Ne.symm hne, hn₂]
    rw [informOn_of_new _ hn₂' h₂, deliver_of_ok _ he]
    simp [informOn_of_new reg hn₁ h₁, hspec, List.filter_append]

end Contract

end Ducks.Client
