import Ducks.Reconcilers.SubManager
import Ducks.Controller.ReadyCheck
import Ducks.Client.Informers

namespace Ducks.Reconcilers

open Ducks.Errors
open Ducks.Client (Panic)
open Ducks.Controller (quote)

-- SetupWithManager, init and Validate of SubManagerReconciler: the defaults init
-- fills in once, and the fields Validate requires. A function field is kept as
-- whether it is set, and mgr as whether SetupWithManager has stored a manager.

structure SubManagerReconcilerFields where
  name : String
  -- a time.Duration, in nanoseconds
  syncPeriod : Option Nat
  assertFinalizer : String
  localTypes : Bool
  setupWithSubManager : Bool
  setup : Bool
  mgr : Bool
  -- initOnce has run
  initDone : Bool
deriving DecidableEq, Repr

def tenHours : Nat := 10 * 3600 * 1000000000

def initPanic : Panic := ⟨"SubManagerReconciler: SetupWithManager must be called before Reconcile"⟩

-- init, under initOnce
def SubManagerReconcilerFields.init (r : SubManagerReconcilerFields) : Except Panic SubManagerReconcilerFields :=
  if r.initDone then .ok r
  else
    let r := { r with name := if r.name = "" then "SubManagerReconciler" else r.name,
                      syncPeriod := some (r.syncPeriod.getD tenHours) }
    if r.mgr then .ok { r with initDone := true } else .error initPanic

def mustProvide (name what : String) : Error :=
  .new ("SubManagerReconciler " ++ quote name ++ " must " ++ what)

def SubManagerReconcilerFields.validate (r : SubManagerReconcilerFields) :
    Except Panic (SubManagerReconcilerFields × Option Error) := do
  let r ← r.init
  if r.assertFinalizer = "" then pure (r, some (mustProvide r.name "provide AssertFinalizer"))
  else if !r.localTypes then pure (r, some (mustProvide r.name "implement LocalTypes"))
  else if !r.setupWithSubManager then pure (r, some (mustProvide r.name "implement SetupWithSubManager"))
  else pure (r, none)

-- SetupWithManager, with the answer of the Setup function when there is one
def SubManagerReconcilerFields.setupWithManager (r : SubManagerReconcilerFields) (setupAnswer : Option Error) :
    Except Panic (SubManagerReconcilerFields × Option Error) := do
  let r ← ({ r with mgr := true } : SubManagerReconcilerFields).init
  let (r, err) ← r.validate
  match err with
  | some err => pure (r, some err)
  | none => pure (r, if r.setup then setupAnswer else none)

section Setup

variable {r : SubManagerReconcilerFields}

-- init is idempotent: after it ran, a later call changes nothing.
theorem init_of_initDone (h : r.initDone = true) : r.init = .ok r := by
  simp [SubManagerReconcilerFields.init, h]

-- Validate called before SetupWithManager stored a manager panics in init.
theorem validate_of_no_mgr (hfresh : r.initDone = false) (hmgr : r.mgr = false) :
    r.validate = .error initPanic := by
  simp [SubManagerReconcilerFields.validate, SubManagerReconcilerFields.init, hfresh, hmgr, bind,
    Except.bind]

-- The fields init fills in, for a reconciler SetupWithManager has stored a manager in
def SubManagerReconcilerFields.defaulted (r : SubManagerReconcilerFields) : SubManagerReconcilerFields :=
  { r with name := if r.name = "" then "SubManagerReconciler" else r.name,
           syncPeriod := some (r.syncPeriod.getD tenHours), mgr := true, initDone := true }

-- The error Validate returns once init has run: the first required field missing
def SubManagerReconcilerFields.missingField (r : SubManagerReconcilerFields) : Option Error :=
  if r.assertFinalizer = "" then some (mustProvide r.name "provide AssertFinalizer")
  else if !r.localTypes then some (mustProvide r.name "implement LocalTypes")
  else if !r.setupWithSubManager then some (mustProvide r.name "implement SetupWithSubManager")
  else none

theorem validate_of_initDone (h : r.initDone = true) : r.validate = pure (r, r.missingField) := by
  unfold SubManagerReconcilerFields.validate SubManagerReconcilerFields.missingField
  rw [init_of_initDone h, show (Except.ok r : Except Panic _) = pure r from rfl, pure_bind]
  split_ifs <;> rfl

theorem init_of_fresh (hfresh : r.initDone = false) :
    ({ r with mgr := true } : SubManagerReconcilerFields).init = pure r.defaulted := by
  simp [SubManagerReconcilerFields.init, SubManagerReconcilerFields.defaulted, hfresh, pure, Except.pure]

-- SetupWithManager of a reconciler built as a struct literal never panics: it fills
-- in the name and the sync period, and returns the error of the first required
-- field that is missing, or else the answer of Setup.
theorem setupWithManager_spec (hfresh : r.initDone = false) (setupAnswer : Option Error) :
    r.setupWithManager setupAnswer =
      pure (r.defaulted, r.defaulted.missingField.or (if r.setup then setupAnswer else none)) := by
  unfold SubManagerReconcilerFields.setupWithManager
  rw [init_of_fresh hfresh, pure_bind, validate_of_initDone rfl, pure_bind]
  cases r.defaulted.missingField <;> rfl

-- Each error of Validate names the field it requires and the reconciler's name.
theorem missingField_names_field {err : Error} (h : r.missingField = some err) :
    ∃ what ∈ ["provide AssertFinalizer", "implement LocalTypes", "implement SetupWithSubManager"],
      err = mustProvide r.name what := by
  unfold SubManagerReconcilerFields.missingField at h
  split_ifs at h <;> cases h <;> simp

end Setup

-- DuckSubReconciler's literal: no name, a sync period of ten hours, and the three
-- required fields; its defaulted name is the one duckSubReconciler carries
def duckSubReconcilerFields : SubManagerReconcilerFields :=
  { name := "", syncPeriod := some tenHours, assertFinalizer := duckSubReconciler.assertFinalizer,
    localTypes := true, setupWithSubManager := true, setup := false, mgr := false, initDone := false }

example : duckSubReconcilerFields.defaulted.name = duckSubReconciler.name ∧
    duckSubReconcilerFields.defaulted.missingField = none := by
  decide

end Ducks.Reconcilers
