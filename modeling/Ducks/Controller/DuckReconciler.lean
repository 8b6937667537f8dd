import Ducks.Controller.CustomResourceDefinition
import Ducks.Internal.SubManager

namespace Ducks.Controller

open Ducks.Schema Ducks.Api Ducks.Errors Ducks.Validation Ducks.Internal
open Ducks.Client (duckTypeListGVK)
open Ducks.Reconcilers (duckLocalTypes)

-- How the pieces the DuckType controller starts for one DuckType fit together: the
-- CRD it writes, the Duck reconciler DuckSubReconciler sets up in the DuckType's
-- sub-manager, the list the duck client reads, and the sub-manager's cache.

-- The TypeMeta SetupWithSubManager gives DuckReconciler: the Ducks of the DuckType's
-- group at version v1
def DuckSubReconciler.typeMeta (resource : DuckType) : TypeMeta :=
  { apiVersion := ({ group := resource.spec.group, version := "v1" } : GroupVersion).string,
    kind := resource.spec.kind }

-- The controller name DuckReconciler's Setup gives the builder
def DuckReconciler.name (typeMeta : TypeMeta) : String :=
  toLower (fromAPIVersionAndKind typeMeta.apiVersion typeMeta.kind).groupKind.string

section Wiring

variable {t : DuckType}

-- The group of a DuckType with a DNS subdomain name of the form <plural>.<group>
-- holds no '/', so a GroupVersion of it parses back.
theorem slash_not_mem_group (hname : isDNS1123Subdomain t.name)
    (heq : t.name = t.spec.plural ++ "." ++ t.spec.group) : '/' ∉ t.spec.group.toList := by
  intro hs
  apply slash_not_mem_of_isDNS1123Subdomain hname
  rw [heq]
  simp [hs]

theorem typeMeta_groupVersionKind (hg : '/' ∉ t.spec.group.toList) :
    fromAPIVersionAndKind (DuckSubReconciler.typeMeta t).apiVersion (DuckSubReconciler.typeMeta t).kind =
      { group := t.spec.group, version := "v1", kind := t.spec.kind } :=
  fromAPIVersionAndKind_string hg (show '/' ∉ "v1".toList by decide) t.spec.kind

-- For every DuckType the webhook admits under a name the API server accepts, and so
-- for the defaulted object the API server stores: the CRD it gets is named as the
-- API server requires of a CRD; the Duck reconciler of its sub-manager reconciles the
-- kind that CRD serves at its served storage version, and the duck client lists that
-- version's list kind, which is never empty; the reconciler is named after the kind
-- and group; and the sub-manager's cache serves both kinds from its own cache.
theorem duckSubReconciler_reconciles_crd_kind (ht : t.validateCreate = [])
    (hname : isDNS1123Subdomain t.name) :
    let stored := t.default
    let crd := DuckCustomResourceDefinitionChildReconciler.desiredChild stored
    let typeMeta := DuckSubReconciler.typeMeta stored
    let gvk := fromAPIVersionAndKind typeMeta.apiVersion typeMeta.kind
    crd.name = crd.spec.names.plural ++ "." ++ crd.spec.group ∧
    (∃ v ∈ crd.spec.versions, v.served = true ∧ v.storage = true ∧
      gvk = { group := crd.spec.group, version := v.name, kind := crd.spec.names.kind } ∧
      duckTypeListGVK stored.default =
        { group := crd.spec.group, version := v.name, kind := crd.spec.names.listKind }) ∧
    crd.spec.names.listKind ≠ "" ∧
    DuckReconciler.name typeMeta = toLower (t.spec.kind ++ "." ++ t.spec.group) ∧
    ∀ {O σ τ : Type} (client : O → Except Error GroupVersionKind) (upstream : τ)
      (localCache : Except Error σ) (c : Cache O σ τ),
      newCache client (duckLocalTypes stored) upstream localCache = .ok c →
      c.isLocalKind gvk = true ∧ c.isLocalKind (duckTypeListGVK stored.default) = true := by
  intro stored crd typeMeta gvk
  have hadm := admitted_of_validateCreate ht
  have hg := slash_not_mem_group hname hadm.name_eq
  -- the stored object keeps the group, which holds no '/', and is its own default
  have hgvk : gvk = { group := stored.spec.group, version := "v1", kind := stored.spec.kind } :=
    typeMeta_groupVersionKind (by rw [default_group]; exact hg)
  have hlist : duckTypeListGVK stored.default = duckTypeListGVK stored := by
    rw [DuckType.default_default]
  refine ⟨?_, ⟨duckResourceVersion, List.mem_singleton_self _, rfl, rfl, hgvk, hlist⟩,
    default_listKind_ne, ?_, ?_⟩
  · show t.default.name = t.default.spec.plural ++ "." ++ t.default.spec.group
    rw [default_name, default_plural, default_group]
    exact hadm.name_eq
  · -- the group is not the core group, so GroupKind.String joins kind and group
    show toLower gvk.groupKind.string = _
    rw [hgvk]
    simp [GroupKind.string, GroupVersionKind.groupKind, stored, hadm.group_ne]
  · intro O σ τ client upstream localCache c hc
    rw [hlist, hgvk, newCache_duckLocalTypes_isLocalKind hc, newCache_duckLocalTypes_isLocalKind hc]
    exact ⟨⟨rfl, .inl rfl⟩, ⟨rfl, .inr rfl⟩⟩

end Wiring

theorem finalizedDuckType_reconciles_crd_kind :
    (Ducks.Reconcilers.finalizedDuckType.validateCreate = [] ∧
      isDNS1123Subdomain Ducks.Reconcilers.finalizedDuckType.name) ∧
    let stored := Ducks.Reconcilers.finalizedDuckType.default
    let crd := DuckCustomResourceDefinitionChildReconciler.desiredChild stored
    let typeMeta := DuckSubReconciler.typeMeta stored
    let gvk := fromAPIVersionAndKind typeMeta.apiVersion typeMeta.kind
    crd.name = crd.spec.names.plural ++ "." ++ crd.spec.group ∧
    (∃ v ∈ crd.spec.versions, v.served = true ∧ v.storage = true ∧
      gvk = { group := crd.spec.group, version := v.name, kind := crd.spec.names.kind } ∧
      duckTypeListGVK stored.default =
        { group := crd.spec.group, version := v.name, kind := crd.spec.names.listKind }) ∧
    crd.spec.names.listKind ≠ "" ∧
    DuckReconciler.name typeMeta =
      toLower (Ducks.Reconcilers.finalizedDuckType.spec.kind ++ "." ++ Ducks.Reconcilers.finalizedDuckType.spec.group) ∧
    ∀ {O σ τ : Type} (client : O → Except Error GroupVersionKind) (upstream : τ)
      (localCache : Except Error σ) (c : Cache O σ τ),
      newCache client (duckLocalTypes stored) upstream localCache = .ok c →
      c.isLocalKind gvk = true ∧ c.isLocalKind (duckTypeListGVK stored.default) = true :=
  ⟨⟨by decide, by decide⟩, duckSubReconciler_reconciles_crd_kind (by decide) (by decide)⟩

end Ducks.Controller
