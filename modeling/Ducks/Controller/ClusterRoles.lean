import Mathlib.Data.Set.Basic
import Mathlib.Data.List.Nodup
import Ducks.Api.Webhooks
import Ducks.Errors

namespace Ducks.Controller

open Ducks.Schema Ducks.Api Ducks.Errors

-- The ClusterRoles of ducktype_controller.go. Each DuckType gets an aggregate
-- view and edit role that carries no rules of its own and selects, by label,
-- the view and edit roles the Duck reconciler creates for each Duck of the type.

-- rbacv1.PolicyRule
structure PolicyRule where
  apiGroups : List String
  resources : List String
  verbs : List String
deriving DecidableEq, Repr

-- metav1.LabelSelector; the reconcilers only set MatchLabels
structure LabelSelector where
  matchLabels : List (String × String)
deriving DecidableEq, Repr

-- rbacv1.AggregationRule
structure AggregationRule where
  clusterRoleSelectors : List LabelSelector
deriving DecidableEq, Repr

-- metav1.OwnerReference, with the two *bool fields as plain flags
structure OwnerReference where
  apiVersion : String
  kind : String
  name : String
  uid : String
  controller : Bool
  blockOwnerDeletion : Bool
deriving DecidableEq, Repr

-- rbacv1.ClusterRole; a Go map of labels is a list of distinct keys
structure ClusterRole where
  name : String
  labels : List (String × String)
  ownerReferences : List OwnerReference
  rules : List PolicyRule
  aggregationRule : Option AggregationRule
deriving DecidableEq, Repr

def typeLabel : String := "ducks.reconciler.io/type"

def roleLabel : String := "ducks.reconciler.io/role"

-- A MatchLabels selector matches when every pair is among the labels.
def LabelSelector.matches (sel : LabelSelector) (labels : List (String × String)) : Bool :=
  sel.matchLabels.all fun (key, value) => labels.lookup key == some value

-- The roles an aggregate role draws its rules from.
def ClusterRole.selects (target role : ClusterRole) : Prop :=
  ∃ rule, target.aggregationRule = some rule ∧
    ∃ sel ∈ rule.clusterRoleSelectors, sel.matches role.labels = true

/-! ## DuckClusterRoleChildSetReconciler -/

-- One of the two children of DesiredChildren; they differ only in the role.
def aggregateClusterRole (typeName role : String) : ClusterRole :=
  { name := "reconcilerio-ducks-" ++ typeName ++ "-" ++ role
    labels := [(typeLabel, typeName)]
    ownerReferences := []
    rules := []
    aggregationRule := some
      { clusterRoleSelectors := [{ matchLabels := [(typeLabel, typeName), (roleLabel, role)] }] } }

def DuckClusterRoleChildSetReconciler.desiredChildren (t : DuckType) : List ClusterRole :=
  [aggregateClusterRole t.name "view", aggregateClusterRole t.name "edit"]

/-! ## DuckReconcilerClusterRoleChildSetReconciler -/

-- meta.RESTMapping, for the resource it maps to
structure RESTMapping where
  resource : GroupVersionResource
deriving DecidableEq, Repr

-- The two lookups DesiredChildren makes through reconcilers.Config. They belong to
-- controller-runtime and the API server, so they are parameters of the model.
structure Config where
  groupVersionKindFor : Duck → Except Error GroupVersionKind
  restMapping : GroupKind → String → Except Error RESTMapping

-- metav1.NewControllerRef
def newControllerRef (d : Duck) (gvk : GroupVersionKind) : OwnerReference :=
  { apiVersion := gvk.groupVersion.string, kind := gvk.kind, name := d.name, uid := d.uid,
    controller := true, blockOwnerDeletion := true }

-- One of the two children of DesiredChildren; they differ in the role and verbs.
def duckClusterRole (typeName : String) (d : Duck) (gvk : GroupVersionKind) (gr : GroupResource)
    (role : String) (verbs : List String) : ClusterRole :=
  { name := "reconcilerio-ducks-" ++ typeName ++ "-" ++ d.name ++ "-" ++ role
    labels := [(typeLabel, typeName), (roleLabel, role)]
    ownerReferences := [newControllerRef d gvk]
    rules := [{ apiGroups := [gr.group], resources := [gr.resource], verbs := verbs }]
    aggregationRule := none }

def viewVerbs : List String := ["get", "list", "watch"]

def editVerbs : List String := ["get", "list", "watch", "patch"]

-- DuckReconcilerClusterRoleChildSetReconciler.DesiredChildren: the rules name the
-- resource the Duck's own name parses to, the type label the resource the
-- RESTMapper gives for the Duck's kind.
def DuckReconcilerClusterRoleChildSetReconciler.desiredChildren (c : Config) (d : Duck) :
    Except Error (List ClusterRole) := do
  let gvk ← c.groupVersionKindFor d
  let mapping ← c.restMapping gvk.groupKind gvk.version
  let gr := parseGroupResource d.name
  let typeName := mapping.resource.groupResource.string
  pure [duckClusterRole typeName d gvk gr "view" viewVerbs,
    duckClusterRole typeName d gvk gr "edit" editVerbs]

section Fields

variable {typeName role : String} {d : Duck} {gvk : GroupVersionKind} {gr : GroupResource}
  {verbs : List String}

@[simp] theorem aggregateClusterRole_labels :
    (aggregateClusterRole typeName role).labels = [(typeLabel, typeName)] := rfl

theorem aggregateClusterRole_name :
    (aggregateClusterRole typeName role).name =
      "reconcilerio-ducks-" ++ typeName ++ "-" ++ role := rfl

@[simp] theorem aggregateClusterRole_rules : (aggregateClusterRole typeName role).rules = [] := rfl

@[simp] theorem aggregateClusterRole_aggregationRule :
    (aggregateClusterRole typeName role).aggregationRule =
      some { clusterRoleSelectors :=
        [{ matchLabels := [(typeLabel, typeName), (roleLabel, role)] }] } := rfl

@[simp] theorem duckClusterRole_labels :
    (duckClusterRole typeName d gvk gr role verbs).labels =
      [(typeLabel, typeName), (roleLabel, role)] := rfl

@[simp] theorem duckClusterRole_aggregationRule :
    (duckClusterRole typeName d gvk gr role verbs).aggregationRule = none := rfl

@[simp] theorem duckClusterRole_rules :
    (duckClusterRole typeName d gvk gr role verbs).rules =
      [{ apiGroups := [gr.group], resources := [gr.resource], verbs := verbs }] := rfl

end Fields

theorem roleLabel_beq_typeLabel : (roleLabel == typeLabel) = false := by decide

theorem duckReconcilerClusterRoles_of_ok {c : Config} {d : Duck} {gvk : GroupVersionKind}
    {mapping : RESTMapping} (hg : c.groupVersionKindFor d = .ok gvk)
    (hm : c.restMapping gvk.groupKind gvk.version = .ok mapping) :
    DuckReconcilerClusterRoleChildSetReconciler.desiredChildren c d = .ok
      [duckClusterRole mapping.resource.groupResource.string d gvk (parseGroupResource d.name)
          "view" viewVerbs,
        duckClusterRole mapping.resource.groupResource.string d gvk (parseGroupResource d.name)
          "edit" editVerbs] := by
  simp only [DuckReconcilerClusterRoleChildSetReconciler.desiredChildren, hg, hm, bind, Except.bind,
    pure, Except.pure]

-- DesiredChildren succeeds only through both lookups, with the two roles of the Duck
theorem duckReconcilerClusterRoles_eq_ok {c : Config} {d : Duck} {roles : List ClusterRole}
    (h : DuckReconcilerClusterRoleChildSetReconciler.desiredChildren c d = .ok roles) :
    ∃ gvk mapping, c.groupVersionKindFor d = .ok gvk ∧ c.restMapping gvk.groupKind gvk.version = .ok mapping ∧
      roles = [duckClusterRole mapping.resource.groupResource.string d gvk (parseGroupResource d.name)
          "view" viewVerbs,
        duckClusterRole mapping.resource.groupResource.string d gvk (parseGroupResource d.name)
          "edit" editVerbs] := by
  cases hg : c.groupVersionKindFor d with
  | error e => simp [DuckReconcilerClusterRoleChildSetReconciler.desiredChildren, hg, bind, Except.bind] at h
  | ok gvk =>
    cases hm : c.restMapping gvk.groupKind gvk.version with
    | error e =>
      simp [DuckReconcilerClusterRoleChildSetReconciler.desiredChildren, hg, hm, bind, Except.bind] at h
    | ok mapping =>
      rw [duckReconcilerClusterRoles_of_ok hg hm] at h
      exact ⟨gvk, mapping, rfl, hm, (Except.ok.inj h).symm⟩

/-! ## Role names

Every name is reconcilerio-ducks-<key>-<role>, where the key is the DuckType's
name for an aggregate role and <type>-<duck> for a Duck's role. -/

section Names

private theorem roleName_inj {k₁ k₂ r₁ r₂ : String} (hlen : r₁.length = r₂.length)
    (h : "reconcilerio-ducks-" ++ k₁ ++ "-" ++ r₁ =
      "reconcilerio-ducks-" ++ k₂ ++ "-" ++ r₂) :
    k₁ = k₂ ∧ r₁ = r₂ := by
  have hl := congrArg String.toList h
  simp only [String.toList_append, List.append_assoc, List.append_cancel_left_eq] at hl
  have hl' : k₁.toList ++ ('-' :: r₁.toList) = k₂.toList ++ ('-' :: r₂.toList) := by
    simpa using hl
  -- the roles have one length, so the keys split the two names at the same place
  have hk : k₁.toList.length = k₂.toList.length := by
    have := congrArg List.length hl'
    simp only [List.length_append, List.length_cons, String.length_toList] at this
    simp only [String.length_toList]
    omega
  obtain ⟨h₁, h₂⟩ := List.append_inj hl' hk
  exact ⟨String.toList_inj.mp h₁, String.toList_inj.mp (List.cons_injective h₂)⟩

theorem roleName_eq_iff {k₁ k₂ r₁ r₂ : String} (hlen : r₁.length = r₂.length) :
    "reconcilerio-ducks-" ++ k₁ ++ "-" ++ r₁ = "reconcilerio-ducks-" ++ k₂ ++ "-" ++ r₂ ↔
      k₁ = k₂ ∧ r₁ = r₂ := by
  constructor
  · exact roleName_inj hlen
  · rintro ⟨rfl, rfl⟩
    rfl

theorem duckClusterRole_name {typeName role : String} {d : Duck} {gvk : GroupVersionKind}
    {gr : GroupResource} {verbs : List String} :
    (duckClusterRole typeName d gvk gr role verbs).name =
      "reconcilerio-ducks-" ++ (typeName ++ "-" ++ d.name) ++ "-" ++ role := by
  show "reconcilerio-ducks-" ++ typeName ++ "-" ++ d.name ++ "-" ++ role = _
  simp only [String.append_assoc]

theorem mem_duckClusterRoles {t : DuckType} {x : ClusterRole} :
    x ∈ DuckClusterRoleChildSetReconciler.desiredChildren t ↔
      x = aggregateClusterRole t.name "view" ∨ x = aggregateClusterRole t.name "edit" := by
  simp [DuckClusterRoleChildSetReconciler.desiredChildren]

end Names

/-! ## Names across owners -/

section Collision

-- The DuckType whose aggregate roles collide below: admitted, as its name is
-- <plural>.<group> for the group example.com-bars.other.io.
def collidingDuckType : DuckType :=
  { name := "foos.example.com-bars.other.io", uid := "uid-1", deletionTimestamp := none,
    finalizers := ["duck.reconciler.io/reconciler"],
    spec :=
      { group := "example.com-bars.other.io", plural := "foos", singular := "foo", kind := "Foo",
        listKind := "FooList" },
    conditions := [] }

-- The DuckType foos.example.com, and a Duck of it that marks bars.other.io.
def collidedDuckType : DuckType :=
  { name := "foos.example.com", uid := "uid-2", deletionTimestamp := none,
    finalizers := ["duck.reconciler.io/reconciler"],
    spec :=
      { group := "example.com", plural := "foos", singular := "foo", kind := "Foo",
        listKind := "FooList" },
    conditions := [] }

def collidedDuck : Duck :=
  { name := "bars.other.io", uid := "uid-3", deletionTimestamp := none, finalizers := [],
    spec := { group := "other.io", version := "v1", kind := "Bar" }, conditions := [] }

end Collision

section Injective

variable {r₁ r₂ : String}

private theorem role_length (h : r₁ = "view" ∨ r₁ = "edit") (h' : r₂ = "view" ∨ r₂ = "edit") :
    r₁.length = r₂.length := by
  rcases h with rfl | rfl <;> rcases h' with rfl | rfl <;> decide

end Injective

/-! ## Aggregation

The API server keeps one ClusterRole per name, and a Create of a name that is taken
fails with AlreadyExists, so the first creator of a name keeps it. The ClusterRole
aggregation controller of kube-controller-manager fills an aggregate role with the
rules of every other stored role one of its selectors matches. When the names the
two reconcilers desire are distinct, a DuckType's aggregate view (edit) role draws
exactly on the view (edit) roles of its own Ducks. -/

section Aggregation

-- The API server's ClusterRoles once every desired role has been created: each held
-- role was desired and is held under its own name, and every desired name is taken.
structure Holds (store : String → Option ClusterRole) (roles : List ClusterRole) : Prop where
  named : ∀ n x, store n = some x → x.name = n
  desired : ∀ n x, store n = some x → x ∈ roles
  taken : ∀ x ∈ roles, ∃ y, store x.name = some y

-- The store the roles leave when they are created in the order of the list
def storeOf (roles : List ClusterRole) (n : String) : Option ClusterRole :=
  roles.find? (·.name == n)

-- The rules aggregation gives target from the stored roles
def aggregatedRules (store : String → Option ClusterRole) (target : ClusterRole) : Set PolicyRule :=
  {rule | ∃ n role, store n = some role ∧ n ≠ target.name ∧ target.selects role ∧ rule ∈ role.rules}

-- The children a Duck's reconcile desires; none when a lookup fails.
def desiredDuckClusterRoles (c : Config) (d : Duck) : List ClusterRole :=
  match DuckReconcilerClusterRoleChildSetReconciler.desiredChildren c d with
  | .ok roles => roles
  | .error _ => []

-- The roles desired for a DuckType and the Ducks its sub-manager reconciles.
def entryClusterRoles (c : Config) (entry : DuckType × List Duck) : List ClusterRole :=
  DuckClusterRoleChildSetReconciler.desiredChildren entry.1 ++
    entry.2.flatMap (desiredDuckClusterRoles c)

def desiredClusterRoles (c : Config) (cluster : List (DuckType × List Duck)) : List ClusterRole :=
  cluster.flatMap (entryClusterRoles c)

-- What the aggregation relies on: each DuckType was admitted by the webhook and
-- names its own CRD, the Ducks of a type have the kind DuckSubReconciler gives
-- their reconciler (<group>/v1, the type's kind), and the RESTMapper maps that
-- kind to the CRD's resource (group, plural).
structure WellMapped (c : Config) (cluster : List (DuckType × List Duck)) : Prop where
  admitted : ∀ e ∈ cluster, e.1.validateCreate = []
  names : (cluster.map (·.1.name)).Nodup
  gvk : ∀ e ∈ cluster, ∀ d ∈ e.2,
    c.groupVersionKindFor d = .ok { group := e.1.spec.group, version := "v1", kind := e.1.spec.kind }
  mapping : ∀ e ∈ cluster, ∃ m,
    c.restMapping { group := e.1.spec.group, kind := e.1.spec.kind } "v1" = .ok m ∧
    m.resource.groupResource = { group := e.1.spec.group, resource := e.1.spec.plural }

section Store

variable {store : String → Option ClusterRole} {roles : List ClusterRole}

theorem holds_storeOf (roles : List ClusterRole) : Holds (storeOf roles) roles where
  named n x h := by simpa using List.find?_some h
  desired n x h := List.mem_of_find?_eq_some h
  taken x hx := by
    cases h : storeOf roles x.name with
    | some y => exact ⟨y, rfl⟩
    | none =>
      unfold storeOf at h
      have := List.find?_eq_none.mp h x hx
      simp at this

-- Under distinct names every desired role is the one held under its name
theorem Holds.store_eq (hs : Holds store roles) (hn : (roles.map (·.name)).Nodup) {x : ClusterRole}
    (hx : x ∈ roles) : store x.name = some x := by
  obtain ⟨y, hy⟩ := hs.taken x hx
  have hyx : y = x := List.inj_on_of_nodup_map hn (hs.desired _ _ hy) hx (hs.named _ _ hy)
  rw [hy, hyx]

-- and aggregation draws on the desired roles themselves
theorem Holds.aggregatedRules_eq (hs : Holds store roles) (hn : (roles.map (·.name)).Nodup)
    (target : ClusterRole) :
    aggregatedRules store target =
      {rule | ∃ x ∈ roles, x.name ≠ target.name ∧ target.selects x ∧ rule ∈ x.rules} := by
  ext rule
  constructor
  · rintro ⟨n, x, hx, hne, hsel, hrule⟩
    have hname := hs.named n x hx
    refine ⟨x, hs.desired n x hx, ?_, hsel, hrule⟩
    rw [hname]
    exact hne
  · rintro ⟨x, hx, hne, hsel, hrule⟩
    exact ⟨x.name, x, hs.store_eq hn hx, hne, hsel, hrule⟩

end Store

variable {c : Config} {cluster : List (DuckType × List Duck)}

theorem aggregateClusterRole_selects_iff {typeName role : String} {x : ClusterRole} :
    (aggregateClusterRole typeName role).selects x ↔
      x.labels.lookup typeLabel = some typeName ∧ x.labels.lookup roleLabel = some role := by
  simp only [ClusterRole.selects, aggregateClusterRole_aggregationRule, Option.some.injEq,
    exists_eq_left',
    List.mem_singleton, exists_eq_left, LabelSelector.matches, List.all_cons, List.all_nil,
    Bool.and_true, Bool.and_eq_true, beq_iff_eq]

theorem not_selects_aggregateClusterRole {typeName role typeName' role' : String} :
    ¬ (aggregateClusterRole typeName role).selects (aggregateClusterRole typeName' role') := by
  rw [aggregateClusterRole_selects_iff]
  simp [List.lookup_cons, roleLabel_beq_typeLabel]

theorem selects_duckClusterRole_iff {typeName role m r : String} {d : Duck} {gvk : GroupVersionKind}
    {gr : GroupResource} {verbs : List String} :
    (aggregateClusterRole typeName role).selects (duckClusterRole m d gvk gr r verbs) ↔
      m = typeName ∧ r = role := by
  rw [aggregateClusterRole_selects_iff]
  simp [List.lookup_cons, roleLabel_beq_typeLabel]

theorem desiredDuckClusterRoles_of_wellMapped (hc : WellMapped c cluster)
    {e : DuckType × List Duck} (he : e ∈ cluster) {d : Duck} (hd : d ∈ e.2) :
    desiredDuckClusterRoles c d =
      [duckClusterRole e.1.name d ⟨e.1.spec.group, "v1", e.1.spec.kind⟩ (parseGroupResource d.name)
          "view" viewVerbs,
        duckClusterRole e.1.name d ⟨e.1.spec.group, "v1", e.1.spec.kind⟩ (parseGroupResource d.name)
          "edit" editVerbs] := by
  obtain ⟨m, hm, hres⟩ := hc.mapping e he
  have hadm := admitted_of_validateCreate (hc.admitted e he)
  -- the mapped resource prints as <plural>.<group>, the name the webhook demands
  have htype : m.resource.groupResource.string = e.1.name := by
    rw [hres, hadm.name_eq]
    simp [GroupResource.string, hadm.group_ne]
  rw [desiredDuckClusterRoles, duckReconcilerClusterRoles_of_ok (hc.gvk e he d hd) hm, htype]

theorem mem_desiredClusterRoles {x : ClusterRole} :
    x ∈ desiredClusterRoles c cluster ↔
      ∃ e ∈ cluster, x ∈ DuckClusterRoleChildSetReconciler.desiredChildren e.1 ∨
        ∃ d ∈ e.2, x ∈ desiredDuckClusterRoles c d := by
  simp [desiredClusterRoles, entryClusterRoles, List.mem_flatMap]

-- Each desired role of a Duck of a well-mapped type is its view or its edit role.
theorem mem_desiredDuckClusterRoles (hc : WellMapped c cluster) {e : DuckType × List Duck}
    (he : e ∈ cluster) {d : Duck} (hd : d ∈ e.2) {x : ClusterRole}
    (hx : x ∈ desiredDuckClusterRoles c d) :
    ∃ gvk gr r verbs, (r = "view" ∨ r = "edit") ∧
      x = duckClusterRole e.1.name d gvk gr r verbs := by
  rw [desiredDuckClusterRoles_of_wellMapped hc he hd] at hx
  simp only [List.mem_cons, List.not_mem_nil, or_false] at hx
  rcases hx with rfl | rfl
  · exact ⟨_, _, _, _, .inl rfl, rfl⟩
  · exact ⟨_, _, _, _, .inr rfl, rfl⟩

private theorem duckClusterRole_name_ne {t r role : String} {d : Duck} {gvk : GroupVersionKind}
    {gr : GroupResource} {verbs : List String} (hr : r = "view" ∨ r = "edit")
    (hrole : role = "view" ∨ role = "edit") :
    (duckClusterRole t d gvk gr r verbs).name ≠ (aggregateClusterRole t role).name := by
  intro h
  have hlen := role_length hr hrole
  rw [duckClusterRole_name, aggregateClusterRole_name, roleName_eq_iff hlen] at h
  -- <type>-<duck> is longer than <type>
  have hl := congrArg String.length h.1
  simp only [String.length_append] at hl
  have : ("-" : String).length = 1 := by decide
  omega

-- What the selector of t's aggregate role matches among the desired roles, and the
-- rules those matches carry
theorem aggregateClusterRole_selects_own_ducks (hc : WellMapped c cluster)
    {t : DuckType} {ducks : List Duck} (ht : (t, ducks) ∈ cluster) {role : String}
    (hrole : role = "view" ∨ role = "edit") :
    (∀ d ∈ ducks, (∃ x ∈ desiredDuckClusterRoles c d, x.labels.lookup roleLabel = some role) ∧
      ∀ x ∈ desiredDuckClusterRoles c d,
        ((aggregateClusterRole t.name role).selects x ↔ x.labels.lookup roleLabel = some role)) ∧
    (∀ x ∈ DuckClusterRoleChildSetReconciler.desiredChildren t,
        ¬ (aggregateClusterRole t.name role).selects x) ∧
    (∀ e ∈ cluster, e ≠ (t, ducks) → ∀ x ∈ entryClusterRoles c e,
        ¬ (aggregateClusterRole t.name role).selects x) ∧
    {rule | ∃ x ∈ desiredClusterRoles c cluster, x.name ≠ (aggregateClusterRole t.name role).name ∧
        (aggregateClusterRole t.name role).selects x ∧ rule ∈ x.rules} =
      {rule | ∃ d ∈ ducks, ∃ x ∈ desiredDuckClusterRoles c d,
        x.labels.lookup roleLabel = some role ∧ rule ∈ x.rules} := by
  -- the roles of t's Ducks are selected by their role label alone
  have hown : ∀ d ∈ ducks, ∀ x ∈ desiredDuckClusterRoles c d,
      ((aggregateClusterRole t.name role).selects x ↔ x.labels.lookup roleLabel = some role) := by
    intro d hd x hx
    obtain ⟨gvk, gr, r, verbs, -, rfl⟩ := mem_desiredDuckClusterRoles hc ht hd hx
    simp [selects_duckClusterRole_iff, List.lookup_cons, roleLabel_beq_typeLabel]
  -- the roles generated for another DuckType carry another type label
  have hother : ∀ e ∈ cluster, e ≠ (t, ducks) → ∀ x ∈ entryClusterRoles c e,
        ¬ (aggregateClusterRole t.name role).selects x := by
    intro e he hne x hx
    have hname : e.1.name ≠ t.name := fun h => hne (List.inj_on_of_nodup_map hc.names he ht h)
    rcases List.mem_append.mp hx with hx | hx
    · rcases mem_duckClusterRoles.mp hx with rfl | rfl <;> exact not_selects_aggregateClusterRole
    · obtain ⟨d, hd, hx⟩ := List.mem_flatMap.mp hx
      obtain ⟨gvk, gr, r, verbs, -, rfl⟩ := mem_desiredDuckClusterRoles hc he hd hx
      rw [selects_duckClusterRole_iff]
      exact fun h => hname h.1
  refine ⟨fun d hd => ⟨?_, hown d hd⟩, ?_, hother, ?_⟩
  · rw [desiredDuckClusterRoles_of_wellMapped hc ht hd]
    rcases hrole with rfl | rfl
    · exact ⟨_, List.mem_cons_self, by simp [List.lookup_cons, roleLabel_beq_typeLabel]⟩
    · exact ⟨_, List.mem_cons_of_mem _ List.mem_cons_self,
        by simp [List.lookup_cons, roleLabel_beq_typeLabel]⟩
  · intro x hx
    rcases mem_duckClusterRoles.mp hx with rfl | rfl <;> exact not_selects_aggregateClusterRole
  · ext rule
    constructor
    · rintro ⟨x, hx, -, hsel, hrule⟩
      obtain ⟨e, he, hx⟩ := mem_desiredClusterRoles.mp hx
      -- only the Ducks of t itself can be selected
      by_cases hne : e = (t, ducks)
      · subst hne
        rcases hx with hx | ⟨d, hd, hx⟩
        · rcases mem_duckClusterRoles.mp hx with rfl | rfl <;>
            exact absurd hsel not_selects_aggregateClusterRole
        · exact ⟨d, hd, x, hx, (hown d hd x hx).mp hsel, hrule⟩
      · exact absurd hsel (hother e he hne x (by
          rcases hx with hx | ⟨d, hd, hx⟩
          · exact List.mem_append_left _ hx
          · exact List.mem_append_right _ (List.mem_flatMap.mpr ⟨d, hd, hx⟩)))
    · rintro ⟨d, hd, x, hx, hlabel, hrule⟩
      refine ⟨x, mem_desiredClusterRoles.mpr ⟨_, ht, .inr ⟨d, hd, hx⟩⟩, ?_,
        (hown d hd x hx).mpr hlabel, hrule⟩
      obtain ⟨gvk, gr, r, verbs, hr, rfl⟩ := mem_desiredDuckClusterRoles hc ht hd hx
      exact duckClusterRole_name_ne hr hrole

-- For each role, the children DuckClusterRoleChildSetReconciler desires for t hold
-- t's aggregate role of that name, which the API server keeps when the desired names
-- are distinct. Its selector matches each Duck's role of that role alone, neither
-- aggregate role of t, and no role desired for another DuckType or its Ducks, and
-- the rules aggregated into it are exactly those of the Ducks' roles of that role.
theorem duckType_roles_aggregate_exactly_own_ducks (hc : WellMapped c cluster)
    (hnames : ((desiredClusterRoles c cluster).map (·.name)).Nodup)
    {store : String → Option ClusterRole} (hs : Holds store (desiredClusterRoles c cluster))
    {t : DuckType} {ducks : List Duck} (ht : (t, ducks) ∈ cluster)
    {role : String} (hrole : role ∈ ["view", "edit"]) :
    ∃ target ∈ DuckClusterRoleChildSetReconciler.desiredChildren t,
      target.name = "reconcilerio-ducks-" ++ t.name ++ "-" ++ role ∧ store target.name = some target ∧
      (∀ d ∈ ducks, (∃ x ∈ desiredDuckClusterRoles c d, x.labels.lookup roleLabel = some role) ∧
        ∀ x ∈ desiredDuckClusterRoles c d, (target.selects x ↔ x.labels.lookup roleLabel = some role)) ∧
      (∀ x ∈ DuckClusterRoleChildSetReconciler.desiredChildren t, ¬ target.selects x) ∧
      (∀ e ∈ cluster, e ≠ (t, ducks) → ∀ x ∈ entryClusterRoles c e, ¬ target.selects x) ∧
      aggregatedRules store target =
        {rule | ∃ d ∈ ducks, ∃ x ∈ desiredDuckClusterRoles c d,
          x.labels.lookup roleLabel = some role ∧ rule ∈ x.rules} := by
  have hrole' : role = "view" ∨ role = "edit" := by simpa using hrole
  have hmem : aggregateClusterRole t.name role ∈ DuckClusterRoleChildSetReconciler.desiredChildren t := by
    rcases hrole' with rfl | rfl
    · exact mem_duckClusterRoles.mpr (.inl rfl)
    · exact mem_duckClusterRoles.mpr (.inr rfl)
  have hdesired : aggregateClusterRole t.name role ∈ desiredClusterRoles c cluster :=
    mem_desiredClusterRoles.mpr ⟨_, ht, .inl hmem⟩
  obtain ⟨hown, hself, hother, hrules⟩ := aggregateClusterRole_selects_own_ducks hc ht hrole'
  refine ⟨_, hmem, rfl, hs.store_eq hnames hdesired, hown, hself, hother, ?_⟩
  rw [hs.aggregatedRules_eq hnames]
  exact hrules

-- The DuckType and Duck of the controller's tests: ducks.example.com, and its Duck
-- marking duckinstances.example.com.
def testDuckType : DuckType :=
  { name := "ducks.example.com", uid := "uid-1", deletionTimestamp := none,
    finalizers := ["duck.reconciler.io/reconciler"],
    spec :=
      { group := "example.com", plural := "ducks", singular := "duck", kind := "Duck",
        listKind := "DuckList" },
    conditions := [] }

def testDuck : Duck :=
  { name := "duckinstances.example.com", uid := "uid-2", deletionTimestamp := none,
    finalizers := ["duck.reconciler.io/reconciler"],
    spec := { group := "example.com", version := "v1", kind := "DuckInstance" }, conditions := [] }

def testConfig : Config :=
  { groupVersionKindFor := fun _ => .ok { group := "example.com", version := "v1", kind := "Duck" }
    restMapping := fun gk version =>
      if gk = { group := "example.com", kind := "Duck" } then
        .ok { resource := { group := "example.com", version := version, resource := "ducks" } }
      else .error (.status { reason := .notFound, code := 404, message := "no matches for kind", details := none })
  }

theorem testDuckType_roles_aggregate_testDuck :
    ∃ target ∈ DuckClusterRoleChildSetReconciler.desiredChildren testDuckType,
      target.name = "reconcilerio-ducks-" ++ testDuckType.name ++ "-" ++ "view" ∧
      storeOf (desiredClusterRoles testConfig [(testDuckType, [testDuck])]) target.name = some target ∧
      (∀ d ∈ [testDuck], (∃ x ∈ desiredDuckClusterRoles testConfig d, x.labels.lookup roleLabel = some "view") ∧
        ∀ x ∈ desiredDuckClusterRoles testConfig d, (target.selects x ↔ x.labels.lookup roleLabel = some "view")) ∧
      (∀ x ∈ DuckClusterRoleChildSetReconciler.desiredChildren testDuckType, ¬ target.selects x) ∧
      (∀ e ∈ [(testDuckType, [testDuck])], e ≠ (testDuckType, [testDuck]) →
        ∀ x ∈ entryClusterRoles testConfig e, ¬ target.selects x) ∧
      aggregatedRules (storeOf (desiredClusterRoles testConfig [(testDuckType, [testDuck])])) target =
        {rule | ∃ d ∈ [testDuck], ∃ x ∈ desiredDuckClusterRoles testConfig d,
          x.labels.lookup roleLabel = some "view" ∧ rule ∈ x.rules} := by
  have hc : WellMapped testConfig [(testDuckType, [testDuck])] :=
    { admitted := by
        intro e he
        rw [List.mem_singleton.mp he]
        decide
      names := by decide
      gvk := by
        intro e he d _
        rw [List.mem_singleton.mp he]
        rfl
      mapping := by
        intro e he
        rw [List.mem_singleton.mp he]
        exact ⟨_, rfl, rfl⟩ }
  exact duckType_roles_aggregate_exactly_own_ducks hc (by decide) (holds_storeOf _) List.mem_cons_self
    List.mem_cons_self

-- The cluster of the collision above: foos.example.com-bars.other.io, whose roles are
-- created first, and foos.example.com with its Duck bars.other.io. The RESTMapper
-- maps each kind Foo to the CRD foos of its group.
def collisionCluster : List (DuckType × List Duck) :=
  [(collidingDuckType, []), (collidedDuckType, [collidedDuck])]

def collisionConfig : Config :=
  { groupVersionKindFor := fun _ => .ok { group := "example.com", version := "v1", kind := "Foo" }
    restMapping := fun gk version =>
      if gk.kind = "Foo" then .ok { resource := { group := gk.group, version := version, resource := "foos" } }
      else .error (.status { reason := .notFound, code := 404, message := "no matches for kind", details := none })
  }

theorem mem_collisionCluster {e : DuckType × List Duck} :
    e ∈ collisionCluster ↔ e = (collidingDuckType, []) ∨ e = (collidedDuckType, [collidedDuck]) := by
  simp only [collisionCluster, List.mem_cons, List.not_mem_nil, or_false]

theorem collisionCluster_wellMapped : WellMapped collisionConfig collisionCluster where
  admitted := by
    intro e he
    rcases mem_collisionCluster.mp he with rfl | rfl <;> decide
  names := by decide
  gvk := by
    intro e he d hd
    rcases mem_collisionCluster.mp he with rfl | rfl
    · cases hd
    · rw [List.mem_singleton.mp hd]
      rfl
  mapping := by
    intro e he
    rcases mem_collisionCluster.mp he with rfl | rfl <;> exact ⟨_, rfl, rfl⟩

-- foos.example.com's aggregate view role is held under its own name, but the view
-- role of its Duck was never created: the aggregate view role of
-- foos.example.com-bars.other.io took that name first. So the role aggregates no
-- rule, while the view role desired for its Duck has one.
theorem collided_view_role_aggregates_nothing :
    WellMapped collisionConfig collisionCluster ∧
    Holds (storeOf (desiredClusterRoles collisionConfig collisionCluster))
      (desiredClusterRoles collisionConfig collisionCluster) ∧
    ∃ target ∈ DuckClusterRoleChildSetReconciler.desiredChildren collidedDuckType,
      target.name = "reconcilerio-ducks-" ++ collidedDuckType.name ++ "-" ++ "view" ∧
      storeOf (desiredClusterRoles collisionConfig collisionCluster) target.name = some target ∧
      aggregatedRules (storeOf (desiredClusterRoles collisionConfig collisionCluster)) target = ∅ ∧
      ∃ rule, ∃ d ∈ [collidedDuck], ∃ x ∈ desiredDuckClusterRoles collisionConfig d,
        x.labels.lookup roleLabel = some "view" ∧ rule ∈ x.rules := by
  have hs := holds_storeOf (desiredClusterRoles collisionConfig collisionCluster)
  have hcollided : (collidedDuckType, [collidedDuck]) ∈ collisionCluster :=
    List.mem_cons_of_mem _ List.mem_cons_self
  refine ⟨collisionCluster_wellMapped, hs, _, mem_duckClusterRoles.mpr (.inl rfl), rfl, by decide, ?_, ?_⟩
  · ext rule
    simp only [Set.mem_empty_iff_false, iff_false]
    rintro ⟨n, role, hstore, -, hsel, -⟩
    have hname := hs.named n role hstore
    obtain ⟨e, he, hx⟩ := mem_desiredClusterRoles.mp (hs.desired n role hstore)
    rcases hx with hx | ⟨d, hd, hx⟩
    · rcases mem_duckClusterRoles.mp hx with rfl | rfl <;> exact not_selects_aggregateClusterRole hsel
    · obtain ⟨gvk, gr, r, verbs, -, rfl⟩ := mem_desiredDuckClusterRoles collisionCluster_wellMapped he hd hx
      obtain ⟨-, rfl⟩ := selects_duckClusterRole_iff.mp hsel
      rcases mem_collisionCluster.mp he with rfl | rfl
      · cases hd
      · -- the name of the Duck's view role holds the other DuckType's aggregate role
        rw [List.mem_singleton.mp hd] at hname hstore
        rw [← hname, duckClusterRole_name] at hstore
        have htaken : storeOf (desiredClusterRoles collisionConfig collisionCluster)
            ("reconcilerio-ducks-" ++ (collidedDuckType.name ++ "-" ++ collidedDuck.name) ++ "-" ++ "view") =
            some (aggregateClusterRole collidingDuckType.name "view") := by
          decide
        rw [htaken] at hstore
        have := congrArg ClusterRole.aggregationRule (Option.some.inj hstore)
        simp at this
  · refine ⟨{ apiGroups := ["other.io"], resources := ["bars"], verbs := viewVerbs }, collidedDuck,
      List.mem_singleton_self _, ?_⟩
    rw [desiredDuckClusterRoles_of_wellMapped collisionCluster_wellMapped hcollided (List.mem_singleton_self _)]
    refine ⟨_, List.mem_cons_self, by simp [List.lookup_cons, roleLabel_beq_typeLabel], ?_⟩
    rw [duckClusterRole_rules, List.mem_singleton]
    decide

end Aggregation

/-! ## Updates and the RBAC condition

The two ClusterRole child sets share their ChildObjectManager and their status
reflector; only the condition they mark differs. The UpdatingObjectManager of
reconciler.io/runtime harmonizes the desired role against the current one and then
merges it into a copy of the current role, updating when the copy differs. -/

section Manage

-- HarmonizeImmutableFields: an aggregate role's rules are the API server's
def harmonizeImmutableFields (current desired : ClusterRole) : ClusterRole :=
  if desired.aggregationRule.isSome then { desired with rules := current.rules } else desired

-- MergeBeforeUpdate
def mergeBeforeUpdate (current desired : ClusterRole) : ClusterRole :=
  { current with labels := desired.labels, rules := desired.rules, aggregationRule := desired.aggregationRule }

def DuckClusterRoleChildSetReconciler.harmonizeImmutableFields : ClusterRole → ClusterRole → ClusterRole :=
  Ducks.Controller.harmonizeImmutableFields

def DuckClusterRoleChildSetReconciler.mergeBeforeUpdate : ClusterRole → ClusterRole → ClusterRole :=
  Ducks.Controller.mergeBeforeUpdate

def DuckReconcilerClusterRoleChildSetReconciler.harmonizeImmutableFields : ClusterRole → ClusterRole → ClusterRole :=
  Ducks.Controller.harmonizeImmutableFields

def DuckReconcilerClusterRoleChildSetReconciler.mergeBeforeUpdate : ClusterRole → ClusterRole → ClusterRole :=
  Ducks.Controller.mergeBeforeUpdate

-- The role the manager writes for a desired one
def updatedClusterRole (current desired : ClusterRole) : ClusterRole :=
  mergeBeforeUpdate current (harmonizeImmutableFields current desired)

-- The update keeps the role's name and owners and takes the desired labels and
-- selectors; it keeps the aggregated rules of an aggregate role and takes the
-- desired rules otherwise, and a second update with the same desired role is none.
theorem updatedClusterRole_spec (current desired : ClusterRole) :
    let updated := updatedClusterRole current desired
    updated.name = current.name ∧ updated.ownerReferences = current.ownerReferences ∧
    updated.labels = desired.labels ∧ updated.aggregationRule = desired.aggregationRule ∧
    updated.rules = (if desired.aggregationRule.isSome then current.rules else desired.rules) ∧
    updatedClusterRole updated desired = updated := by
  intro updated
  unfold updated updatedClusterRole mergeBeforeUpdate harmonizeImmutableFields
  split_ifs <;> simp_all

end Manage

section ReflectRBAC

open Ducks.Errors

-- What ReflectChildrenStatusOnParentWithError leaves: the mark of the RBAC
-- condition, and the error it returns
structure ReflectRBACResult where
  rbac : Condition
  err : Option Error
deriving DecidableEq, Repr

-- The reflector of both child sets, from the aggregate error of the children's
-- writes; Invalid and AlreadyExists are marked with the %s of ReasonForError
def reflectClusterRoles (conditionType : String) (aggregateError : Option Error) : ReflectRBACResult :=
  match aggregateError with
  | some err =>
    if isInvalid err then
      { rbac := ⟨conditionType, .conditionFalse, "Invalid", (reasonForError err).string⟩, err := none }
    else if isAlreadyExists err then
      { rbac := ⟨conditionType, .conditionFalse, "AlreadyExists", (reasonForError err).string⟩, err := none }
    else { rbac := ⟨conditionType, .conditionUnknown, "Unknown", ""⟩, err := some err }
  | none => { rbac := ⟨conditionType, .conditionTrue, "Defined", ""⟩, err := none }

def DuckClusterRoleChildSetReconciler.reflectChildrenStatusOnParentWithError (aggregateError : Option Error) :
    ReflectRBACResult :=
  reflectClusterRoles duckTypeConditionRBAC aggregateError

def DuckReconcilerClusterRoleChildSetReconciler.reflectChildrenStatusOnParentWithError
    (aggregateError : Option Error) : ReflectRBACResult :=
  reflectClusterRoles duckConditionRBAC aggregateError

-- RBAC is True exactly when every role was written; an Invalid or AlreadyExists
-- failure is marked False and not returned, so it is not retried; any other
-- failure is marked Unknown and returned.
theorem reflectClusterRoles_spec (conditionType : String) (aggregateError : Option Error) :
    let res := reflectClusterRoles conditionType aggregateError
    res.rbac.type = conditionType ∧
    (res.rbac.status = .conditionTrue ↔ aggregateError = none) ∧
    (res.rbac.status = .conditionFalse ↔
      ∃ e, aggregateError = some e ∧ (isInvalid e = true ∨ isAlreadyExists e = true)) ∧
    (res.err = none ∨ res.err = aggregateError) ∧
    (res.err ≠ none ↔ res.rbac.status = .conditionUnknown) := by
  intro res
  cases aggregateError with
  | none => simp [res, reflectClusterRoles]
  | some e =>
    cases hinv : isInvalid e <;> cases hexists : isAlreadyExists e <;>
      simp [res, reflectClusterRoles, hinv, hexists]

end ReflectRBAC

end Ducks.Controller
