import Ducks.Controller.ClusterRoles
import Ducks.Validation

namespace Ducks.Controller

open Ducks.Schema Ducks.Api Ducks.Errors Ducks.Validation

-- DuckReconcilerReadyCheck: a Duck is Available when discovery serves the
-- resource its name denotes, in its group, with the kind its spec claims.

-- metav1.APIResource, for the fields the check reads
structure APIResource where
  name : String
  kind : String
deriving DecidableEq, Repr

-- The objects Sync asks the tracker to watch for the Duck
inductive TrackedObject
  | customResourceDefinition (name : String)
  | apiService (name : String)
deriving DecidableEq, Repr

-- strconv.Quote, behind %q. Kinds are printable, so only the quote and the
-- backslash need escaping.
def quote (s : String) : String :=
  "\"" ++ String.join (s.toList.map fun c =>
    if c = '"' then "\\\"" else if c = '\\' then "\\\\" else c.toString) ++ "\""

-- The mark Sync sets on the Available condition
def markAvailable (status : ConditionStatus) (reason message : String) : Condition :=
  { type := duckConditionAvailable, status := status, reason := reason, message := message }

-- The loop of Sync over the served resources: the first resource whose
-- group-resource string is the Duck's name decides.
def readyCheckResources (d : Duck) (group : String) : List APIResource → Condition
  | [] => markAvailable .conditionFalse "NotFound" ""
  | r :: rs =>
    if d.name = ({ group := group, resource := r.name } : GroupResource).string then
      if r.name ++ "." ++ d.spec.group ≠ d.name then
        markAvailable .conditionFalse "Invalid" ".spec.group does not match resolved resource"
      else if r.kind ≠ d.spec.kind then
        markAvailable .conditionFalse "Invalid" (".spec.kind does not match resolved kind " ++ quote r.kind)
      else markAvailable .conditionTrue "Available" ""
    else readyCheckResources d group rs

-- What one Sync does: the objects it tracks, the mark it sets on Available
-- (none leaves the condition as it was) and the error it returns.
structure SyncResult where
  tracked : List TrackedObject
  available : Option Condition
  err : Option Error
deriving DecidableEq, Repr

-- DuckReconcilerReadyCheck's Sync. ServerResourcesForGroupVersion belongs to the
-- discovery client, so it is a parameter.
def DuckReconcilerReadyCheck.sync (discovery : String → Except Error (List APIResource))
    (d : Duck) : SyncResult :=
  let gvr := d.groupVersionResource
  let tracked := [.customResourceDefinition gvr.groupResource.string,
    .apiService (gvr.version ++ "." ++ gvr.group)]
  match discovery gvr.groupVersion.string with
  | .error err =>
    if isNotFound err then
      { tracked := tracked, available := some (markAvailable .conditionFalse "NotFound" ""), err := none }
    else { tracked := tracked, available := none, err := some err }
  | .ok resources =>
    { tracked := tracked, available := some (readyCheckResources d gvr.group resources), err := none }

/-! ## What Available means -/

section Available

-- The guarantee of discovery the check relies on: the resources of one
-- group-version have distinct names, none with a dot.
structure ServedResources (rs : List APIResource) : Prop where
  nodup : (rs.map (·.name)).Nodup
  no_dot : ∀ r ∈ rs, '.' ∉ r.name.toList

-- The served resource a Duck is meant to resolve to: its name is <resource>.<group>
-- of the Duck's spec, and it has the Duck's kind.
def Resolves (d : Duck) (r : APIResource) : Prop :=
  r.name ++ "." ++ d.spec.group = d.name ∧ r.kind = d.spec.kind

variable {d : Duck} {r r' : APIResource}

theorem parseGroupResource_of_resolves (h : r.name ++ "." ++ d.spec.group = d.name)
    (hr : '.' ∉ r.name.toList) :
    parseGroupResource d.name = { group := d.spec.group, resource := r.name } := by
  rw [← h, parseGroupResource_append hr]

-- The test of the loop against a served resource.
def MatchesName (d : Duck) (r : APIResource) : Prop :=
  d.name = ({ group := (parseGroupResource d.name).group, resource := r.name } : GroupResource).string

-- Only the resource the Duck's name parses to passes the test, so a resolving
-- resource and a passing one share their name.
theorem name_eq_of_matchesName (hm : MatchesName d r) (hr : '.' ∉ r.name.toList)
    (hres : r'.name ++ "." ++ d.spec.group = d.name) (hr' : '.' ∉ r'.name.toList) :
    r'.name = r.name := by
  have h := congrArg parseGroupResource hm
  rw [@parseGroupResource_string ⟨_, r.name⟩ hr, parseGroupResource_of_resolves hres hr'] at h
  exact congrArg GroupResource.resource h

-- A resolving resource passes the test: a DNS name cannot end in the dot that
-- GroupResource.String drops for the core group.
theorem matchesName_of_resolves (hname : isDNS1123Subdomain d.name)
    (h : r.name ++ "." ++ d.spec.group = d.name) (hr : '.' ∉ r.name.toList) : MatchesName d r := by
  rw [MatchesName, parseGroupResource_of_resolves h hr, GroupResource.string]
  dsimp only
  split
  · rename_i hg
    rw [hg, String.append_empty] at h
    exact absurd h.symm (isDNS1123Subdomain_ne_append_dot hname r.name)
  · exact h.symm

theorem readyCheckResources_status (group : String) (rs : List APIResource) :
    (readyCheckResources d group rs).status = .conditionTrue ∨
      (readyCheckResources d group rs).status = .conditionFalse := by
  induction rs with
  | nil => exact .inr rfl
  | cons r rs ih =>
    simp only [readyCheckResources]
    split_ifs
    · exact .inr rfl
    · exact .inr rfl
    · exact .inl rfl
    · exact ih

-- A resource that passes the test but does not resolve the Duck leaves no resource
-- of the list that does: another one would pass the test under the same name.
theorem not_resolves_of_matchesName {rs : List APIResource} (hs : ServedResources (r :: rs))
    (hm : MatchesName d r) (hnot : ¬ Resolves d r) : ¬ ∃ r' ∈ r :: rs, Resolves d r' := by
  rintro ⟨r', hr', hres⟩
  rcases List.mem_cons.mp hr' with rfl | hr'
  · exact hnot hres
  · have hfresh : r.name ∉ rs.map (·.name) := (List.nodup_cons.mp hs.nodup).1
    exact hfresh (List.mem_map.mpr ⟨r', hr', name_eq_of_matchesName hm
      (hs.no_dot r List.mem_cons_self) hres.1 (hs.no_dot r' (List.mem_cons_of_mem r hr'))⟩)

-- The loop marks the Duck Available exactly when a served resource resolves it:
-- the first resource passing its test is the only one that can.
theorem readyCheckResources_true_iff (hname : isDNS1123Subdomain d.name)
    {rs : List APIResource} (hs : ServedResources rs) :
    (readyCheckResources d (parseGroupResource d.name).group rs).status = .conditionTrue ↔
      ∃ r ∈ rs, Resolves d r := by
  induction rs with
  | nil => simp [readyCheckResources, markAvailable]
  | cons r rs ih =>
    have hr : '.' ∉ r.name.toList := hs.no_dot r List.mem_cons_self
    have hrest : ServedResources rs :=
      ⟨(List.nodup_cons.mp hs.nodup).2, fun r' hr' => hs.no_dot r' (List.mem_cons_of_mem r hr')⟩
    simp only [readyCheckResources]
    split_ifs with hm hgroup hkind
    · simp only [markAvailable, reduceCtorEq, false_iff]
      exact not_resolves_of_matchesName hs hm fun hres => hgroup hres.1
    · simp only [markAvailable, reduceCtorEq, false_iff]
      exact not_resolves_of_matchesName hs hm fun hres => hkind hres.2
    · simp only [markAvailable, true_iff]
      exact ⟨r, List.mem_cons_self, not_not.mp hgroup, not_not.mp hkind⟩
    · -- a resource failing the test does not resolve the Duck
      rw [ih hrest]
      constructor
      · rintro ⟨r', hr', hres⟩
        exact ⟨r', List.mem_cons_of_mem r hr', hres⟩
      · rintro ⟨r', hr', hres⟩
        rcases List.mem_cons.mp hr' with rfl | hr'
        · exact absurd (matchesName_of_resolves hname hres.1 hr) hm
        · exact ⟨r', hr', hres⟩

-- Sync marks a Duck with a valid name Available exactly when the resource list of
-- its group-version holds a resource resolving it, False on NotFound or when none
-- does, and returns any other discovery error without a mark; when Available, the
-- Duck's name parses to the spec's group and the resolved resource.
theorem readyCheck_available_iff (discovery : String → Except Error (List APIResource))
    (hserved : ∀ gv rs, discovery gv = .ok rs → ServedResources rs)
    (d : Duck) (hname : isDNS1123Subdomain d.name) :
    let gv := ({ group := (parseGroupResource d.name).group, version := d.spec.version } : GroupVersion)
    let res := DuckReconcilerReadyCheck.sync discovery d
    (res.available.map (·.status) = some .conditionTrue ↔
      ∃ rs, discovery gv.string = .ok rs ∧ ∃ r ∈ rs, Resolves d r) ∧
    ((∃ e, discovery gv.string = .error e ∧ isNotFound e) ∨
        (∃ rs, discovery gv.string = .ok rs ∧ ¬ ∃ r ∈ rs, Resolves d r) →
      res.available.map (·.status) = some .conditionFalse ∧ res.err = none) ∧
    (∀ e, discovery gv.string = .error e → isNotFound e = false →
      res.available = none ∧ res.err = some e) ∧
    (res.available.map (·.status) = some .conditionTrue →
      ∃ rs, discovery gv.string = .ok rs ∧ ∃ r ∈ rs, Resolves d r ∧
        parseGroupResource d.name = { group := d.spec.group, resource := r.name }) := by
  intro gv res
  have hgv : d.groupVersionResource.groupVersion = gv := rfl
  -- the three outcomes of discovery, each with what Sync records
  have hsync : ∀ rs, discovery gv.string = .ok rs →
      res.available = some (readyCheckResources d (parseGroupResource d.name).group rs) ∧
        res.err = none := by
    intro rs hrs
    simp [res, DuckReconcilerReadyCheck.sync, hgv, hrs]
    rfl
  have hnot : ∀ e, discovery gv.string = .error e → isNotFound e = true →
      res.available = some (markAvailable .conditionFalse "NotFound" "") ∧ res.err = none := by
    intro e he hnf
    simp [res, DuckReconcilerReadyCheck.sync, hgv, he, hnf]
  have hother : ∀ e, discovery gv.string = .error e → isNotFound e = false →
      res.available = none ∧ res.err = some e := by
    intro e he hnf
    simp [res, DuckReconcilerReadyCheck.sync, hgv, he, hnf]
  have htrue : res.available.map (·.status) = some .conditionTrue ↔
      ∃ rs, discovery gv.string = .ok rs ∧ ∃ r ∈ rs, Resolves d r := by
    cases hd : discovery gv.string with
    | error e =>
      cases hnf : isNotFound e
      · simp [(hother e hd hnf).1]
      · simp [(hnot e hd hnf).1, markAvailable]
    | ok rs =>
      rw [(hsync rs hd).1, Option.map_some, Option.some.injEq,
        readyCheckResources_true_iff hname (hserved _ rs hd)]
      simp
  refine ⟨htrue, ?_, hother, ?_⟩
  · rintro (⟨e, he, hnf⟩ | ⟨rs, hrs, hnone⟩)
    · rw [(hnot e he hnf).1, (hnot e he hnf).2]
      exact ⟨rfl, rfl⟩
    · obtain ⟨havail, herr⟩ := hsync rs hrs
      refine ⟨?_, herr⟩
      rw [havail, Option.map_some]
      rcases readyCheckResources_status (d := d) (parseGroupResource d.name).group rs with h | h
      · exact absurd ((readyCheckResources_true_iff hname (hserved _ rs hrs)).mp h) hnone
      · rw [h]
  · intro h
    obtain ⟨rs, hrs, r, hr, hres⟩ := htrue.mp h
    exact ⟨rs, hrs, r, hr, hres,
      parseGroupResource_of_resolves hres.1 ((hserved _ rs hrs).no_dot r hr)⟩

-- Discovery as in the controller's tests: example.com/v1 serves ducks and
-- duckinstances, the core group v1 serves secrets.
def testDiscovery (gv : String) : Except Error (List APIResource) :=
  if gv = "example.com/v1" then .ok [⟨"ducks", "Duck"⟩, ⟨"duckinstances", "DuckInstance"⟩]
  else if gv = "v1" then .ok [⟨"secrets", "Secret"⟩, ⟨"configmaps", "ConfigMap"⟩]
  else .error (.status
    { reason := .notFound, code := 404, message := "the server could not find the requested resource",
      details := none })

theorem testDiscovery_served : ∀ gv rs, testDiscovery gv = .ok rs → ServedResources rs := by
  intro gv rs h
  unfold testDiscovery at h
  split_ifs at h
  · cases h
    exact ⟨by decide, by decide⟩
  · cases h
    exact ⟨by decide, by decide⟩

theorem testDuck_available :
    (DuckReconcilerReadyCheck.sync testDiscovery testDuck).available.map (·.status) =
      some .conditionTrue :=
  (readyCheck_available_iff testDiscovery testDiscovery_served testDuck (by decide)).1.mpr
    ⟨_, rfl, ⟨"duckinstances", "DuckInstance"⟩, List.mem_cons_of_mem _ List.mem_cons_self,
      by decide, rfl⟩

end Available

/-! ## Roles before availability

The Duck's Sequence creates its roles before the ready check runs, and the
roles take their resource from the Duck's name alone. -/

-- A Duck of the ducks.example.com type named after the core secrets resource.
def secretsDuck : Duck :=
  { name := "secrets", uid := "uid-4", deletionTimestamp := none, finalizers := [],
    spec := { group := "example.com", version := "v1", kind := "Secret" }, conditions := [] }

theorem secretsDuck_roles_grant_secrets :
    isDNS1123Subdomain secretsDuck.name = true ∧
    (∃ roles,
      DuckReconcilerClusterRoleChildSetReconciler.desiredChildren testConfig secretsDuck = .ok roles ∧
      roles.length = 2 ∧
      ∀ x ∈ roles, ∃ rule ∈ x.rules, rule.apiGroups = [""] ∧ rule.resources = ["secrets"] ∧
        "get" ∈ rule.verbs) ∧
    (DuckReconcilerReadyCheck.sync testDiscovery secretsDuck).available =
      some (markAvailable .conditionFalse "Invalid" ".spec.group does not match resolved resource") := by
  refine ⟨by decide, ⟨_, rfl, rfl, ?_⟩, by decide⟩
  intro x hx
  simp only [List.mem_cons, List.not_mem_nil, or_false] at hx
  rcases hx with rfl | rfl <;> exact ⟨_, List.mem_cons_self, by decide, by decide, by decide⟩

/-! ## Roles of an available Duck

Once the check marks a Duck Available, the resource its name parses to is the
served one, so the roles made before the check grant that resource and no other. -/

section AvailableRoles

variable {discovery : String → Except Error (List APIResource)} {d : Duck}

-- A discovery error leaves Available unset or False
theorem sync_status_of_error {e : Error} (h : discovery d.groupVersionResource.groupVersion.string = .error e) :
    (DuckReconcilerReadyCheck.sync discovery d).available.map (·.status) ≠ some .conditionTrue := by
  unfold DuckReconcilerReadyCheck.sync
  simp only [h]
  split_ifs <;> simp [markAvailable]

theorem sync_available_of_ok {rs : List APIResource}
    (h : discovery d.groupVersionResource.groupVersion.string = .ok rs) :
    (DuckReconcilerReadyCheck.sync discovery d).available =
      some (readyCheckResources d (parseGroupResource d.name).group rs) := by
  unfold DuckReconcilerReadyCheck.sync
  simp only [h]
  rfl

-- Once the ready check marks a Duck with a valid name Available, the roles its
-- reconciler desires grant, in the Duck's group, exactly the served resource that
-- resolved it: the view verbs in one and the edit verbs in the other.
theorem available_duck_roles_grant_served_resource
    (hserved : ∀ gv rs, discovery gv = .ok rs → ServedResources rs) (c : Config)
    (hname : isDNS1123Subdomain d.name)
    (havail : (DuckReconcilerReadyCheck.sync discovery d).available.map (·.status) = some .conditionTrue)
    {roles : List ClusterRole} (hroles : DuckReconcilerClusterRoleChildSetReconciler.desiredChildren c d = .ok roles) :
    ∃ rs r, discovery ({ group := d.spec.group, version := d.spec.version } : GroupVersion).string = .ok rs ∧
      r ∈ rs ∧ r.kind = d.spec.kind ∧
      roles.map (·.rules) =
        [[{ apiGroups := [d.spec.group], resources := [r.name], verbs := viewVerbs }],
          [{ apiGroups := [d.spec.group], resources := [r.name], verbs := editVerbs }]] := by
  cases hd : discovery d.groupVersionResource.groupVersion.string with
  | error e => exact absurd havail (sync_status_of_error hd)
  | ok rs =>
    -- the loop found the served resource that resolves the Duck
    rw [sync_available_of_ok hd, Option.map_some, Option.some.injEq,
      readyCheckResources_true_iff hname (hserved _ rs hd)] at havail
    obtain ⟨r, hr, hres⟩ := havail
    have hparse := parseGroupResource_of_resolves hres.1 ((hserved _ rs hd).no_dot r hr)
    have hgv : d.groupVersionResource.groupVersion = { group := d.spec.group, version := d.spec.version } := by
      simp [Duck.groupVersionResource, GroupVersionResource.groupVersion, GroupResource.withVersion, hparse]
    -- and the roles take their resource from the same parse of the Duck's name
    obtain ⟨gvk, mapping, -, -, rfl⟩ := duckReconcilerClusterRoles_eq_ok hroles
    refine ⟨rs, r, hgv ▸ hd, hr, hres.2, ?_⟩
    simp [hparse]

theorem testDuck_roles_grant_served_resource :
    ∃ rs r, testDiscovery ({ group := testDuck.spec.group, version := testDuck.spec.version } : GroupVersion).string =
        .ok rs ∧ r ∈ rs ∧ r.kind = testDuck.spec.kind ∧
      ((DuckReconcilerClusterRoleChildSetReconciler.desiredChildren testConfig testDuck).toOption.getD []).map
          (·.rules) =
        [[{ apiGroups := [testDuck.spec.group], resources := [r.name], verbs := viewVerbs }],
          [{ apiGroups := [testDuck.spec.group], resources := [r.name], verbs := editVerbs }]] :=
  available_duck_roles_grant_served_resource testDiscovery_served testConfig (by decide) (by decide) rfl

end AvailableRoles

end Ducks.Controller
