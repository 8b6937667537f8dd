import Ducks.Reconcilers.SubManager

namespace Ducks.Internal

open Ducks.Schema Ducks.Errors Ducks.Api

-- The cache of a sub-manager (internal/submanager): reads, informers and indexes of
-- the local types go to a cache of its own, started and stopped with the
-- sub-manager; everything else goes to the cache of the manager it was made from.
-- The backing caches are any machines: a state, and a call taking a request to the
-- next state and an answer.

-- The calls of cache.Cache that are routed by kind, with what the sub-manager's
-- cache reads of them or hands on; O is runtime.Object, for objects and lists alike,
-- and the variadic options go to the backing cache unchanged
inductive Request (O : Type)
  | get (key : String) (obj : O)
  | list (list : O)
  | getInformer (obj : O)
  | getInformerForKind (gvk : GroupVersionKind)
  | removeInformer (obj : O)
  | indexField (obj : O) (field : String) (extractValue : O → List String)

-- Cache: the client's GroupVersionKindFor, the set of local types, and the two
-- backing caches
structure Cache (O σ τ : Type) where
  groupVersionKindFor : O → Except Error GroupVersionKind
  localTypes : List GroupKind
  «local» : σ
  upstream : τ

variable {O σ τ ρ : Type}

def Cache.isLocalKind (c : Cache O σ τ) (gvk : GroupVersionKind) : Bool :=
  decide (gvk.groupKind ∈ c.localTypes)

-- isLocal panics when the kind cannot be resolved: the error is the panic's value
def Cache.isLocal (c : Cache O σ τ) (obj : O) : Except Error Bool := do
  let gvk ← c.groupVersionKindFor obj
  pure (c.isLocalKind gvk)

section Calls

variable (c : Cache O σ τ) (ml : σ → Request O → σ × ρ) (mu : τ → Request O → τ × ρ)

def Cache.callLocal (q : Request O) : Cache O σ τ × ρ :=
  ({ c with «local» := (ml c.local q).1 }, (ml c.local q).2)

def Cache.callUpstream (q : Request O) : Cache O σ τ × ρ :=
  ({ c with upstream := (mu c.upstream q).1 }, (mu c.upstream q).2)

-- The body Get, List, GetInformer, RemoveInformer and IndexField share: isLocal of
-- the object they are given, then the same call on the cache it names
def Cache.dispatch (obj : O) (q : Request O) : Except Error (Cache O σ τ × ρ) := do
  if ← c.isLocal obj then pure (c.callLocal ml q) else pure (c.callUpstream mu q)

def Cache.get (key : String) (obj : O) : Except Error (Cache O σ τ × ρ) :=
  c.dispatch ml mu obj (.get key obj)

def Cache.list (list : O) : Except Error (Cache O σ τ × ρ) :=
  c.dispatch ml mu list (.list list)

def Cache.getInformer (obj : O) : Except Error (Cache O σ τ × ρ) :=
  c.dispatch ml mu obj (.getInformer obj)

-- GetInformerForKind is given the kind itself: it looks nothing up and cannot panic
def Cache.getInformerForKind (gvk : GroupVersionKind) : Cache O σ τ × ρ :=
  if c.isLocalKind gvk then c.callLocal ml (.getInformerForKind gvk)
  else c.callUpstream mu (.getInformerForKind gvk)

def Cache.removeInformer (obj : O) : Except Error (Cache O σ τ × ρ) :=
  c.dispatch ml mu obj (.removeInformer obj)

def Cache.indexField (obj : O) (field : String) (extractValue : O → List String) :
    Except Error (Cache O σ τ × ρ) :=
  c.dispatch ml mu obj (.indexField obj field extractValue)

-- One call of the cache by a reconciler of the sub-manager
def Cache.call : Request O → Except Error (Cache O σ τ × ρ)
  | .get key obj => c.get ml mu key obj
  | .list list => c.list ml mu list
  | .getInformer obj => c.getInformer ml mu obj
  | .getInformerForKind gvk => pure (c.getInformerForKind ml mu gvk)
  | .removeInformer obj => c.removeInformer ml mu obj
  | .indexField obj field extractValue => c.indexField ml mu obj field extractValue

end Calls

-- Start runs the local cache only: the upstream cache is the parent manager's, and
-- the parent starts it
def Cache.start (c : Cache O σ τ) (localStart : σ → Option Error) : Option Error :=
  localStart c.local

def Cache.waitForCacheSync (c : Cache O σ τ) (localSync : σ → Bool) (upstreamSync : τ → Bool) :
    Bool :=
  upstreamSync c.upstream && localSync c.local

-- The manager.Options New reads and sets
structure ManagerOptions (Scheme : Type) where
  scheme : Option Scheme
  skipNameValidation : Option Bool
  metricsBindAddress : String
  leaderElection : Bool
deriving DecidableEq, Repr

-- The options New hands to ctrl.NewManager, beside the NewCache below
def new {Scheme : Type} (mgrScheme : Scheme) (opts : ManagerOptions Scheme) : ManagerOptions Scheme :=
  { scheme := some (opts.scheme.getD mgrScheme),
    skipNameValidation := some (opts.skipNameValidation.getD true),
    metricsBindAddress := if opts.metricsBindAddress = "" then "0" else opts.metricsBindAddress,
    leaderElection := false }

-- The NewCache New installs, from the parent's client and cache and the local cache
-- cache.New builds
def newCache (client : O → Except Error GroupVersionKind) (localTypes : List GroupKind)
    (upstream : τ) (localCache : Except Error σ) : Except Error (Cache O σ τ) := do
  let «local» ← localCache
  pure { groupVersionKindFor := client, localTypes := localTypes, «local» := «local», upstream := upstream }

-- The kind a call is routed by: the object's, looked up, or the one it is given
def Cache.requestKind (c : Cache O σ τ) : Request O → Except Error GroupVersionKind
  | .get _ obj => c.groupVersionKindFor obj
  | .list list => c.groupVersionKindFor list
  | .getInformer obj => c.groupVersionKindFor obj
  | .getInformerForKind gvk => pure gvk
  | .removeInformer obj => c.groupVersionKindFor obj
  | .indexField obj _ _ => c.groupVersionKindFor obj

section Routing

variable {c : Cache O σ τ} {ml : σ → Request O → σ × ρ} {mu : τ → Request O → τ × ρ}

theorem Cache.dispatch_eq (obj : O) (q : Request O) :
    c.dispatch ml mu obj q = (c.groupVersionKindFor obj).map fun gvk =>
      if c.isLocalKind gvk then c.callLocal ml q else c.callUpstream mu q := by
  unfold Cache.dispatch Cache.isLocal
  cases c.groupVersionKindFor obj with
  | error err => rfl
  | ok gvk =>
    show (if c.isLocalKind gvk = true then pure (c.callLocal ml q) else pure (c.callUpstream mu q)) =
      Except.ok (if c.isLocalKind gvk = true then c.callLocal ml q else c.callUpstream mu q)
    cases c.isLocalKind gvk <;> rfl

-- Every call is the dispatch on its own kind: GetInformerForKind, which looks
-- nothing up, is served as the others are once their lookup succeeds.
theorem Cache.call_eq (q : Request O) :
    c.call ml mu q = (c.requestKind q).map fun gvk =>
      if c.isLocalKind gvk then c.callLocal ml q else c.callUpstream mu q := by
  cases q with
  | getInformerForKind gvk => rfl
  | get key obj => exact Cache.dispatch_eq obj _
  | list list => exact Cache.dispatch_eq list _
  | getInformer obj => exact Cache.dispatch_eq obj _
  | removeInformer obj => exact Cache.dispatch_eq obj _
  | indexField obj field extractValue => exact Cache.dispatch_eq obj _

theorem Cache.call_of_ok {q : Request O} {gvk : GroupVersionKind} (h : c.requestKind q = .ok gvk) :
    c.call ml mu q = pure (if c.isLocalKind gvk then c.callLocal ml q else c.callUpstream mu q) := by
  rw [Cache.call_eq, h]
  rfl

theorem Cache.call_of_error {q : Request O} {err : Error} (h : c.requestKind q = .error err) :
    c.call ml mu q = .error err := by
  rw [Cache.call_eq, h]
  rfl

end Routing

section New

variable {Scheme : Type}

theorem newCache_eq_ok {client : O → Except Error GroupVersionKind} {localTypes : List GroupKind}
    {upstream : τ} {localCache : Except Error σ} {c : Cache O σ τ}
    (h : newCache client localTypes upstream localCache = .ok c) :
    c.groupVersionKindFor = client ∧ c.localTypes = localTypes ∧ localCache = .ok c.local ∧
      c.upstream = upstream := by
  cases localCache with
  | error err => cases h
  | ok l =>
    cases h
    exact ⟨rfl, rfl, rfl, rfl⟩

-- What the caller set New keeps, and a second New changes nothing.
theorem new_keeps (mgrScheme : Scheme) (opts : ManagerOptions Scheme) :
    (∀ sch, opts.scheme = some sch → (new mgrScheme opts).scheme = some sch) ∧
    (∀ b, opts.skipNameValidation = some b → (new mgrScheme opts).skipNameValidation = some b) ∧
    (opts.metricsBindAddress ≠ "" → (new mgrScheme opts).metricsBindAddress = opts.metricsBindAddress) ∧
    new mgrScheme (new mgrScheme opts) = new mgrScheme opts := by
  refine ⟨fun sch h => by simp [new, h], fun b h => by simp [new, h], fun h => by simp [new, h], ?_⟩
  by_cases hm : opts.metricsBindAddress = "" <;> simp [new, hm]

-- A sub-manager never runs leader election, and always names a scheme, a
-- name-validation setting and a metrics address.
theorem new_defaults (mgrScheme : Scheme) (opts : ManagerOptions Scheme) :
    (new mgrScheme opts).leaderElection = false ∧ (new mgrScheme opts).scheme.isSome ∧
    (new mgrScheme opts).skipNameValidation.isSome ∧ (new mgrScheme opts).metricsBindAddress ≠ "" := by
  refine ⟨rfl, rfl, rfl, ?_⟩
  by_cases hm : opts.metricsBindAddress = "" <;> simp [new, hm]

-- The cache of a DuckType's sub-manager: DuckSubReconciler's LocalTypes are the duck
-- kind and its list kind in the DuckType's group, so every version of both is
-- served locally and nothing else is.
theorem newCache_duckLocalTypes_isLocalKind {t : DuckType} {client : O → Except Error GroupVersionKind}
    {upstream : τ} {localCache : Except Error σ} {c : Cache O σ τ}
    (hc : newCache client (Ducks.Reconcilers.duckLocalTypes t) upstream localCache = .ok c)
    (gvk : GroupVersionKind) :
    c.isLocalKind gvk = true ↔
      gvk.group = t.spec.group ∧ (gvk.kind = t.spec.kind ∨ gvk.kind = t.spec.listKind) := by
  obtain ⟨-, hl, -, -⟩ := newCache_eq_ok hc
  simp only [Cache.isLocalKind, hl, Ducks.Reconcilers.duckLocalTypes, GroupVersionKind.groupKind,
    decide_eq_true_eq, List.mem_cons, GroupKind.mk.injEq, List.not_mem_nil, or_false]
  tauto

end New

end Ducks.Internal
