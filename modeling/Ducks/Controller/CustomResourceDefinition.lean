import Ducks.Api.Types
import Ducks.Errors
import Ducks.Client.Informers

namespace Ducks.Controller

open Ducks.Api Ducks.Errors
open Ducks.Client (Panic)

-- ReflectChildStatusOnParentWithError of DuckCustomResourceDefinitionChildReconciler:
-- what the DuckType's CustomResourceDefinitionEstablished condition says after the
-- child reconciler created, updated or failed to write the DuckType's CRD.

-- apiextensionsv1.CustomResourceDefinitionCondition, for the fields the reflector reads
structure CustomResourceDefinitionCondition where
  type : String
  status : ConditionStatus
deriving DecidableEq, Repr

structure CustomResourceDefinition where
  name : String
  conditions : List CustomResourceDefinitionCondition
deriving DecidableEq, Repr

-- apiextensionsv1.Established
def crdEstablished : String := "Established"

-- MarkTrue, MarkFalse and MarkUnknown of the condition, message formatted
def markEstablished (status : ConditionStatus) (reason message : String) : Condition :=
  { type := duckTypeConditionCustomResourceDefinitionEstablished, status := status, reason := reason,
    message := message }

-- The condition the reflector marks, and whether it returns reconcilers.ErrQuiet,
-- the only error it returns
structure ReflectResult where
  established : Condition
  quiet : Bool
deriving DecidableEq, Repr

-- err.(apierrs.APIStatus) on an error of another dynamic type
def apiStatusAssertionPanic (dynamicType : String) : Panic :=
  ⟨"interface conversion: " ++ dynamicType ++ " is not errors.APIStatus: missing method Status"⟩

-- details.Kind on a nil Details
def nilDereferencePanic : Panic :=
  ⟨"runtime error: invalid memory address or nil pointer dereference"⟩

-- The status of the CRD's Established condition, if it has one
def CustomResourceDefinition.establishedStatus (child : CustomResourceDefinition) : Option ConditionStatus :=
  (child.conditions.find? (·.type == crdEstablished)).map CustomResourceDefinitionCondition.status

def notEstablishedMessage (child : CustomResourceDefinition) : String :=
  "child CustomResourceDefinition " ++ child.name ++ " is not established"

def DuckCustomResourceDefinitionChildReconciler.reflectChildStatusOnParentWithError
    (child : Option CustomResourceDefinition) (err : Option Error) : Except Panic ReflectResult :=
  match err with
  | some err =>
    if isInvalid err then
      .ok { established := markEstablished .conditionFalse "Invalid" (reasonForError err).string,
            quiet := false }
    else if isAlreadyExists err then
      -- the assertion is on the error itself, not on the chain IsAlreadyExists walked
      match err with
      | .status s =>
        match s.details with
        | some details =>
          .ok { established := markEstablished .conditionFalse "AlreadyExists"
                  ("another " ++ details.kind ++ " already exists with name " ++ details.name),
                quiet := false }
        | none => .error nilDereferencePanic
      | .wrap _ _ => .error (apiStatusAssertionPanic "*fmt.wrapError")
      | .new _ => .error (apiStatusAssertionPanic "*errors.errorString")
    else .ok { established := markEstablished .conditionUnknown "Unknown" "", quiet := true }
  | none =>
    match child with
    | none => .ok { established := markEstablished .conditionFalse "Missing" "", quiet := false }
    | some child =>
      -- a CRD without an Established condition reads as one of status "", neither True nor False
      match child.establishedStatus with
      | some .conditionTrue =>
        .ok { established := markEstablished .conditionTrue "Established" "", quiet := false }
      | some .conditionFalse =>
        .ok { established := markEstablished .conditionFalse "NotEstablished" (notEstablishedMessage child),
              quiet := false }
      | _ =>
        .ok { established := markEstablished .conditionUnknown "NotEstablished" (notEstablishedMessage child),
              quiet := false }

section Errors

variable {err : Error}

-- An error IsAlreadyExists accepts is an AlreadyExists StatusError, or wraps one
theorem isAlreadyExists_cases (h : isAlreadyExists err = true) :
    (∃ s, err = .status s ∧ s.reason = .alreadyExists) ∨
      ∃ message cause, err = .wrap message cause ∧ isAlreadyExists cause = true := by
  cases err with
  | status s => exact .inl ⟨s, rfl, by simpa [isAlreadyExists, reasonForError] using h⟩
  | wrap message cause => exact .inr ⟨message, cause, rfl, h⟩
  | new message => simp [isAlreadyExists, reasonForError] at h

theorem isInvalid_of_isAlreadyExists (h : isAlreadyExists err = true) : isInvalid err = false := by
  simp only [isAlreadyExists, beq_iff_eq] at h
  simp [isInvalid, h, StatusReason.known]

end Errors

section Reflect

variable (child : Option CustomResourceDefinition)

-- An AlreadyExists StatusError passes the assertion, and its Details are read
theorem reflect_of_alreadyExists_status {s : Status} (hr : s.reason = .alreadyExists) :
    DuckCustomResourceDefinitionChildReconciler.reflectChildStatusOnParentWithError child (some (.status s)) =
      match s.details with
      | some details =>
        .ok { established := markEstablished .conditionFalse "AlreadyExists"
                ("another " ++ details.kind ++ " already exists with name " ++ details.name),
              quiet := false }
      | none => .error nilDereferencePanic := by
  simp [DuckCustomResourceDefinitionChildReconciler.reflectChildStatusOnParentWithError, isInvalid,
    isAlreadyExists, reasonForError, hr, StatusReason.known]

-- A wrapped AlreadyExists error is not an APIStatus, and the assertion panics
theorem reflect_of_alreadyExists_wrap {message : String} {cause : Error} (h : isAlreadyExists cause = true) :
    DuckCustomResourceDefinitionChildReconciler.reflectChildStatusOnParentWithError child
      (some (.wrap message cause)) = .error (apiStatusAssertionPanic "*fmt.wrapError") := by
  have hinv := @isInvalid_of_isAlreadyExists (.wrap message cause) h
  simp [DuckCustomResourceDefinitionChildReconciler.reflectChildStatusOnParentWithError, hinv,
    show isAlreadyExists (.wrap message cause) = true from h]

-- ReflectChildStatusOnParentWithError handles an AlreadyExists error without a
-- panic exactly when the error is itself a StatusError that carries Details: a
-- wrapped StatusError fails the type assertion, and nil Details is dereferenced.
theorem alreadyExists_reflect_completes_iff :
    (∀ err, isAlreadyExists err = true →
      ((∃ r, DuckCustomResourceDefinitionChildReconciler.reflectChildStatusOnParentWithError child (some err) =
          .ok r) ↔
        ∃ s details, err = .status s ∧ s.details = some details)) ∧
    (∀ s details, s.reason = .alreadyExists → s.details = some details →
      DuckCustomResourceDefinitionChildReconciler.reflectChildStatusOnParentWithError child (some (.status s)) =
        .ok { established := markEstablished .conditionFalse "AlreadyExists"
                ("another " ++ details.kind ++ " already exists with name " ++ details.name),
              quiet := false }) ∧
    (∀ s, s.reason = .alreadyExists → s.details = none →
      DuckCustomResourceDefinitionChildReconciler.reflectChildStatusOnParentWithError child (some (.status s)) =
        .error nilDereferencePanic) ∧
    (∀ message cause, isAlreadyExists cause = true →
      DuckCustomResourceDefinitionChildReconciler.reflectChildStatusOnParentWithError child
          (some (.wrap message cause)) = .error (apiStatusAssertionPanic "*fmt.wrapError")) := by
  refine ⟨fun err h => ?_, fun s details hr hd => by rw [reflect_of_alreadyExists_status child hr, hd],
    fun s hr hd => by rw [reflect_of_alreadyExists_status child hr, hd],
    fun message cause h => reflect_of_alreadyExists_wrap child h⟩
  -- IsAlreadyExists accepts the error bare or wrapped; only the bare one can get through
  rcases isAlreadyExists_cases h with ⟨s, rfl, hr⟩ | ⟨message, cause, rfl, hcause⟩
  · rw [reflect_of_alreadyExists_status child hr]
    cases hd : s.details with
    | some details => exact ⟨fun _ => ⟨s, details, rfl, hd⟩, fun _ => ⟨_, rfl⟩⟩
    | none =>
      constructor
      · rintro ⟨r, ⟨⟩⟩
      · rintro ⟨s', details, ⟨⟩, hd'⟩
        rw [hd] at hd'
        cases hd'
  · rw [reflect_of_alreadyExists_wrap child hcause]
    constructor
    · rintro ⟨r, ⟨⟩⟩
    · rintro ⟨s, details, ⟨⟩, -⟩

-- Every outcome marks CustomResourceDefinitionEstablished; it is True only for a
-- written CRD whose own Established condition is True, and ErrQuiet is returned
-- exactly for the errors that are neither Invalid nor AlreadyExists.
theorem reflect_marks_established {err : Option Error} {r : ReflectResult}
    (h : DuckCustomResourceDefinitionChildReconciler.reflectChildStatusOnParentWithError child err = .ok r) :
    r.established.type = duckTypeConditionCustomResourceDefinitionEstablished ∧
    (r.established.status = .conditionTrue ↔
      err = none ∧ ∃ c, child = some c ∧ c.establishedStatus = some .conditionTrue) ∧
    (r.quiet = true ↔ ∃ e, err = some e ∧ isInvalid e = false ∧ isAlreadyExists e = false) := by
  unfold DuckCustomResourceDefinitionChildReconciler.reflectChildStatusOnParentWithError at h
  cases err with
  | none =>
    -- no error: the CRD, if any, decides
    cases child with
    | none =>
      cases h
      simp [markEstablished]
    | some c =>
      dsimp only at h
      split at h <;> cases h <;> simp_all [markEstablished]
  | some e =>
    dsimp only at h
    split_ifs at h with hinv hexists
    · cases h
      simp [markEstablished, hinv]
    · -- only a StatusError with Details gets past the assertion
      split at h
      · split at h
        · cases h
          simp [markEstablished, hexists]
        · cases h
      · cases h
      · cases h
    · cases h
      simp [markEstablished, hinv, hexists]

end Reflect

/-! ## The desired CRD

DesiredChild of DuckCustomResourceDefinitionChildReconciler: the CRD that defines the
Duck resources of a DuckType, and the merge the UpdatingObjectManager applies before
an update. The OpenAPI schema of the version is constant data that nothing here
reads, and is not modelled. -/

section Desired

-- apiextensionsv1.CustomResourceDefinitionNames
structure CustomResourceDefinitionNames where
  plural : String
  singular : String
  kind : String
  listKind : String
  categories : List String
deriving DecidableEq, Repr

-- apiextensionsv1.CustomResourceColumnDefinition
structure CustomResourceColumnDefinition where
  jsonPath : String
  name : String
  type : String
deriving DecidableEq, Repr

-- apiextensionsv1.CustomResourceDefinitionVersion, its schema left out; a
-- SelectableField is kept as its JSONPath
structure CustomResourceDefinitionVersion where
  name : String
  served : Bool
  storage : Bool
  selectableFields : List String
  statusSubresource : Bool
  additionalPrinterColumns : List CustomResourceColumnDefinition
deriving DecidableEq, Repr

inductive ResourceScope
  | clusterScoped
  | namespaceScoped
deriving DecidableEq, Repr

inductive ConversionStrategy
  | noneConverter
  | webhookConverter
deriving DecidableEq, Repr

structure CustomResourceDefinitionSpec where
  group : String
  scope : ResourceScope
  names : CustomResourceDefinitionNames
  versions : List CustomResourceDefinitionVersion
  conversion : ConversionStrategy
deriving DecidableEq, Repr

-- The CRD object DesiredChild returns: its name, its labels (it sets none) and its spec
structure CustomResourceDefinitionChild where
  name : String
  labels : List (String × String)
  spec : CustomResourceDefinitionSpec
deriving DecidableEq, Repr

-- The one version of every Duck resource
def duckResourceVersion : CustomResourceDefinitionVersion :=
  { name := "v1", served := true, storage := true,
    selectableFields := [".spec.group", ".spec.kind"],
    statusSubresource := true,
    additionalPrinterColumns :=
      [{ jsonPath := ".status.conditions[?(@.type==\"Ready\")].status", name := "Ready", type := "string" },
       { jsonPath := ".status.conditions[?(@.type==\"Ready\")].reason", name := "Reason", type := "string" },
       { jsonPath := ".metadata.creationTimestamp", name := "Age", type := "date" }] }

def DuckCustomResourceDefinitionChildReconciler.desiredChild (resource : DuckType) :
    CustomResourceDefinitionChild :=
  { name := resource.name, labels := [],
    spec :=
      { group := resource.spec.group, scope := .clusterScoped,
        names :=
          { plural := resource.spec.plural, singular := resource.spec.singular, kind := resource.spec.kind,
            listKind := resource.spec.listKind, categories := ["duck"] },
        versions := [duckResourceVersion],
        conversion := .noneConverter } }

def DuckCustomResourceDefinitionChildReconciler.mergeBeforeUpdate
    (current desired : CustomResourceDefinitionChild) : CustomResourceDefinitionChild :=
  { current with labels := desired.labels, spec := desired.spec }

end Desired

end Ducks.Controller
