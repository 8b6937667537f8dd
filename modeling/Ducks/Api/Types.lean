import Ducks.Schema

namespace Ducks.Api

open Ducks.Schema

-- The duck.reconciler.io/v1 API: DuckType, which declares a duck type and gets a
-- CRD of its own, and Duck, an instance of such a CRD marking one API as a
-- member of the type.

-- metav1.ConditionStatus
inductive ConditionStatus
  | conditionTrue
  | conditionFalse
  | conditionUnknown
deriving DecidableEq, Repr

-- metav1.Condition, less the timestamps and generation
structure Condition where
  type : String
  status : ConditionStatus
  reason : String
  message : String
deriving DecidableEq, Repr

-- ConditionManager.GetCondition returns the first condition of the type
def getCondition (conditions : List Condition) (t : String) : Option Condition :=
  conditions.find? (·.type == t)

-- apis.ConditionIsTrue
def conditionIsTrue : Option Condition → Bool
  | some c => c.status == .conditionTrue
  | none => false

-- metav1.ObjectMeta, for the fields the reconcilers read. A deletion timestamp is
-- kept as the instant it was set.
structure ObjectMeta where
  name : String
  uid : String
  deletionTimestamp : Option Nat
  finalizers : List String
deriving DecidableEq, Repr

-- metav1.TypeMeta
structure TypeMeta where
  apiVersion : String
  kind : String
deriving DecidableEq, Repr

def conditionReady : String := "Ready"

def duckConditionRBAC : String := "RBAC"

def duckConditionAvailable : String := "Available"

def duckTypeConditionRBAC : String := "RBAC"

def duckTypeConditionCustomResourceDefinitionEstablished : String :=
  "CustomResourceDefinitionEstablished"

structure DuckSpec where
  group : String
  version : String
  kind : String
deriving DecidableEq, Repr

structure Duck extends ObjectMeta where
  spec : DuckSpec
  conditions : List Condition
deriving DecidableEq, Repr

-- Duck.GroupVersionResource: the resource is named by the Duck's own name
def Duck.groupVersionResource (d : Duck) : GroupVersionResource :=
  (parseGroupResource d.name).withVersion d.spec.version

def DuckSpec.groupVersionKind (s : DuckSpec) : GroupVersionKind :=
  { group := s.group, version := s.version, kind := s.kind }

def DuckSpec.typeMeta (s : DuckSpec) : TypeMeta :=
  { apiVersion := ({ group := s.group, version := s.version } : GroupVersion).string, kind := s.kind }

structure DuckTypeSpec where
  group : String
  plural : String
  singular : String
  kind : String
  listKind : String
deriving DecidableEq, Repr

structure DuckType extends ObjectMeta where
  spec : DuckTypeSpec
  conditions : List Condition
deriving DecidableEq, Repr

end Ducks.Api
