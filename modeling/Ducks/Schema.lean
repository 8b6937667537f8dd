import Mathlib.Data.List.TakeDrop
import Ducks.Errors

namespace Ducks.Schema

-- The group/version/kind/resource coordinates of k8s.io/apimachinery's
-- runtime/schema package, with the string forms the controller builds names from.

structure GroupKind where
  group : String
  kind : String
deriving DecidableEq, Repr

def GroupKind.empty (gk : GroupKind) : Bool :=
  gk.group == "" && gk.kind == ""

structure GroupVersion where
  group : String
  version : String
deriving DecidableEq, Repr

-- GroupVersion.String writes the core group as the bare version
def GroupVersion.string (gv : GroupVersion) : String :=
  if gv.group = "" then gv.version else gv.group ++ "/" ++ gv.version

structure GroupVersionKind where
  group : String
  version : String
  kind : String
deriving DecidableEq, Repr

def GroupVersionKind.groupKind (gvk : GroupVersionKind) : GroupKind :=
  { group := gvk.group, kind := gvk.kind }

def GroupVersionKind.groupVersion (gvk : GroupVersionKind) : GroupVersion :=
  { group := gvk.group, version := gvk.version }

def GroupKind.withVersion (gk : GroupKind) (version : String) : GroupVersionKind :=
  { group := gk.group, version := version, kind := gk.kind }

structure GroupVersionResource where
  group : String
  version : String
  resource : String
deriving DecidableEq, Repr

structure GroupResource where
  group : String
  resource : String
deriving DecidableEq, Repr

def GroupVersionResource.groupResource (gvr : GroupVersionResource) : GroupResource :=
  { group := gvr.group, resource := gvr.resource }

def GroupVersionResource.groupVersion (gvr : GroupVersionResource) : GroupVersion :=
  { group := gvr.group, version := gvr.version }

def GroupResource.withVersion (gr : GroupResource) (version : String) : GroupVersionResource :=
  { group := gr.group, version := version, resource := gr.resource }

-- GroupResource.String drops the separator for the core group
def GroupResource.string (gr : GroupResource) : String :=
  if gr.group = "" then gr.resource else gr.resource ++ "." ++ gr.group

-- ParseGroupResource splits at the first '.' (strings.Index); without one the
-- whole string is the resource of the core group
def parseGroupResource (gr : String) : GroupResource :=
  match gr.toList.span (· != '.') with
  | (resource, []) => { group := "", resource := String.ofList resource }
  | (resource, _ :: group) => { group := String.ofList group, resource := String.ofList resource }

section Parse

variable {r g : String}

private theorem span_not_dot (l rest : List Char) (h : '.' ∉ l) :
    (l ++ rest).span (· != '.') =
      (l ++ rest.takeWhile (· != '.'), rest.dropWhile (· != '.')) := by
  have hl : ∀ c ∈ l, (c != '.') = true := by
    intro c hc
    have : c ≠ '.' := fun hd => h (hd ▸ hc)
    simpa using this
  rw [List.span_eq_takeWhile_dropWhile, List.takeWhile_append_of_pos hl,
    List.dropWhile_append_of_pos hl]

theorem parseGroupResource_of_not_mem (h : '.' ∉ r.toList) :
    parseGroupResource r = { group := "", resource := r } := by
  have hspan := span_not_dot r.toList [] h
  simp only [List.append_nil, List.takeWhile_nil, List.dropWhile_nil] at hspan
  rw [parseGroupResource, hspan]
  simp

-- A resource without a dot followed by ".group" parses back into its parts.
theorem parseGroupResource_append (h : '.' ∉ r.toList) :
    parseGroupResource (r ++ "." ++ g) = { group := g, resource := r } := by
  have hspan := span_not_dot r.toList ('.' :: g.toList) h
  simp only [List.takeWhile_cons, List.dropWhile_cons, bne_self_eq_false, Bool.false_eq_true,
    ↓reduceIte, List.append_nil] at hspan
  have hlist : (r ++ "." ++ g).toList = r.toList ++ '.' :: g.toList := by simp
  rw [parseGroupResource, hlist, hspan]
  simp

-- Round trip: the string form of a group-resource whose resource has no dot
-- parses back to it.
theorem parseGroupResource_string {gr : GroupResource} (h : '.' ∉ gr.resource.toList) :
    parseGroupResource gr.string = gr := by
  unfold GroupResource.string
  split
  · rename_i hg
    rw [parseGroupResource_of_not_mem h, ← hg]
  · exact parseGroupResource_append h

theorem string_injective {gr gr' : GroupResource} (h : '.' ∉ gr.resource.toList)
    (h' : '.' ∉ gr'.resource.toList) (heq : gr.string = gr'.string) : gr = gr' := by
  rw [← parseGroupResource_string h, ← parseGroupResource_string h', heq]

end Parse

open Ducks.Errors in
-- ParseGroupVersion: the empty string and "/" are the empty GroupVersion, a string
-- without '/' is a version of the core group, and one '/' separates the group from
-- the version (strings.Count, strings.Index)
def parseGroupVersion (gv : String) : Except Error GroupVersion :=
  if gv = "" ∨ gv = "/" then .ok { group := "", version := "" }
  else
    match gv.toList.count '/' with
    | 0 => .ok { group := "", version := gv }
    | 1 =>
      let i := (gv.toList.takeWhile (· != '/')).length
      .ok { group := String.ofList (gv.toList.take i), version := String.ofList (gv.toList.drop (i + 1)) }
    | _ => .error (.new ("unexpected GroupVersion string: " ++ gv))

-- FromAPIVersionAndKind keeps only the kind when the apiVersion does not parse
def fromAPIVersionAndKind (apiVersion kind : String) : GroupVersionKind :=
  match parseGroupVersion apiVersion with
  | .ok gv => { group := gv.group, version := gv.version, kind := kind }
  | .error _ => { group := "", version := "", kind := kind }

-- GroupKind.String drops the separator for the core group
def GroupKind.string (gk : GroupKind) : String :=
  if gk.group = "" then gk.kind else gk.kind ++ "." ++ gk.group

section ParseGroupVersion

variable {gv : GroupVersion}

private theorem takeWhile_not_slash (l rest : List Char) (h : '/' ∉ l) :
    (l ++ '/' :: rest).takeWhile (· != '/') = l := by
  have hl : ∀ c ∈ l, (c != '/') = true := by
    intro c hc
    have : c ≠ '/' := fun hd => h (hd ▸ hc)
    simpa using this
  rw [List.takeWhile_append_of_pos hl]
  simp

theorem parseGroupVersion_of_core (hv : '/' ∉ gv.version.toList) (hg : gv.group = "") :
    parseGroupVersion gv.version = .ok gv := by
  by_cases he : gv.version = ""
  · -- the empty GroupVersion
    rw [parseGroupVersion, if_pos (.inl he)]
    cases gv
    simp_all
  · have hslash : gv.version ≠ "/" := by
      intro h
      rw [h] at hv
      simp at hv
    rw [parseGroupVersion, if_neg (by simp [he, hslash]), List.count_eq_zero_of_not_mem hv]
    cases gv
    simp_all

theorem parseGroupVersion_of_group (hg : '/' ∉ gv.group.toList) (hv : '/' ∉ gv.version.toList)
    (hne : gv.group ≠ "") :
    parseGroupVersion (gv.group ++ "/" ++ gv.version) = .ok gv := by
  have hlist : (gv.group ++ "/" ++ gv.version).toList = gv.group.toList ++ '/' :: gv.version.toList := by
    simp
  have hcount : (gv.group ++ "/" ++ gv.version).toList.count '/' = 1 := by
    rw [hlist, List.count_append, List.count_cons_self, List.count_eq_zero_of_not_mem hg,
      List.count_eq_zero_of_not_mem hv]
  -- the string holds a group before its '/', so it is neither "" nor "/"
  have hne' : ¬((gv.group ++ "/" ++ gv.version) = "" ∨ (gv.group ++ "/" ++ gv.version) = "/") := by
    have hg' : gv.group.toList ≠ [] := by simpa using hne
    rintro (h | h) <;> have h' := congrArg String.toList h <;> rw [hlist] at h'
    · simp at h'
    · cases hc : gv.group.toList with
      | nil => exact hg' hc
      | cons c g => simp [hc] at h'
  rw [parseGroupVersion, if_neg hne', hcount]
  simp only [hlist, takeWhile_not_slash _ _ hg]
  have htake : (gv.group.toList ++ '/' :: gv.version.toList).take gv.group.toList.length = gv.group.toList :=
    List.take_left' rfl
  have hdrop : (gv.group.toList ++ '/' :: gv.version.toList).drop (gv.group.toList.length + 1) =
      gv.version.toList := by
    rw [← List.drop_drop, List.drop_left' rfl]
    rfl
  rw [htake, hdrop]
  cases gv
  simp

-- Round trip: the string form of a GroupVersion whose parts hold no '/' parses back to it.
theorem parseGroupVersion_string (hg : '/' ∉ gv.group.toList) (hv : '/' ∉ gv.version.toList) :
    parseGroupVersion gv.string = .ok gv := by
  unfold GroupVersion.string
  split
  · rename_i he
    exact parseGroupVersion_of_core hv he
  · rename_i hne
    exact parseGroupVersion_of_group hg hv hne

theorem fromAPIVersionAndKind_string (hg : '/' ∉ gv.group.toList) (hv : '/' ∉ gv.version.toList)
    (kind : String) :
    fromAPIVersionAndKind gv.string kind = { group := gv.group, version := gv.version, kind := kind } := by
  rw [fromAPIVersionAndKind, parseGroupVersion_string hg hv]

end ParseGroupVersion

end Ducks.Schema
