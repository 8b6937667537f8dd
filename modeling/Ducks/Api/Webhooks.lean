import Ducks.Api.Types
import Ducks.Validation

namespace Ducks.Api

open Ducks.Validation

-- The admission webhooks of duck_webhook.go and ducktype_webhook.go. Only the
-- DuckType webhook is installed by the manager; the Duck one is defined but
-- never registered.

-- DuckTypeSpec.Default fills in the singular name and the list kind
def DuckTypeSpec.default (s : DuckTypeSpec) : DuckTypeSpec :=
  let s := if s.singular = "" then { s with singular := toLower s.kind } else s
  if s.listKind = "" then { s with listKind := s.kind ++ "List" } else s

def DuckType.default (t : DuckType) : DuckType :=
  { t with spec := t.spec.default }

def DuckTypeSpec.validate (s : DuckTypeSpec) (fldPath : List String) : List FieldError :=
  let group :=
    if s.group = "" then [required (fldPath ++ ["group"]) ""]
    else if toLower s.group ≠ s.group then
      [invalid (fldPath ++ ["group"]) s.group "must be all lowercase"]
    else []
  let plural :=
    if s.plural = "" then [required (fldPath ++ ["plural"]) ""]
    else if toLower s.plural ≠ s.plural then
      [invalid (fldPath ++ ["plural"]) s.plural "must be all lowercase"]
    else []
  let singular :=
    if s.singular = "" then [required (fldPath ++ ["singular"]) ""]
    else if toLower s.singular ≠ s.singular then
      [invalid (fldPath ++ ["singular"]) s.singular "must be all lowercase"]
    else []
  let kind := if s.kind = "" then [required (fldPath ++ ["kind"]) ""] else []
  let listKind := if s.listKind = "" then [required (fldPath ++ ["listKind"]) ""] else []
  group ++ plural ++ singular ++ kind ++ listKind

-- DuckType.Validate: the name must be <plural>.<group>
def DuckType.validate (t : DuckType) (fldPath : List String) : List FieldError :=
  let name :=
    if t.name ≠ t.spec.plural ++ "." ++ t.spec.group then
      [invalid (fldPath ++ ["metadata", "name"]) t.name "name must take the form `<plural>.<group>`"]
    else []
  name ++ t.spec.validate (fldPath ++ ["spec"])

-- DuckType.ValidateCreate defaults the object, then validates it from the root
-- path field.NewPath(""); ToAggregate is nil exactly when the list is empty
def DuckType.validateCreate (t : DuckType) : List FieldError :=
  t.default.validate [""]

-- DuckType.ValidateUpdate ignores the old object
def DuckType.validateUpdate (_old t : DuckType) : List FieldError :=
  t.default.validate [""]

def DuckSpec.validate (s : DuckSpec) (fldPath : List String) : List FieldError :=
  (if s.group = "" then [required (fldPath ++ ["group"]) ""] else []) ++
  (if s.version = "" then [required (fldPath ++ ["version"]) ""] else []) ++
  (if s.kind = "" then [required (fldPath ++ ["kind"]) ""] else [])

-- Duck.Validate: the resource name must end with ".<group>"
def Duck.validate (d : Duck) (fldPath : List String) : List FieldError :=
  d.spec.validate (fldPath ++ ["spec"]) ++
  (if !hasSuffix d.name ("." ++ d.spec.group) then
    [invalid (fldPath ++ ["spec", "group"]) d.spec.group "resource name must end with group"]
  else [])

section Accepted

variable {t : DuckType}

@[simp] theorem default_name : t.default.name = t.name := rfl

@[simp] theorem default_group : t.default.spec.group = t.spec.group := by
  simp only [DuckType.default, DuckTypeSpec.default]
  split_ifs <;> rfl

@[simp] theorem default_plural : t.default.spec.plural = t.spec.plural := by
  simp only [DuckType.default, DuckTypeSpec.default]
  split_ifs <;> rfl

@[simp] theorem default_kind : t.default.spec.kind = t.spec.kind := by
  simp only [DuckType.default, DuckTypeSpec.default]
  split_ifs <;> rfl

-- What the DuckType webhook guarantees of every DuckType it admits.
structure Admitted (t : DuckType) : Prop where
  name_eq : t.name = t.spec.plural ++ "." ++ t.spec.group
  group_ne : t.spec.group ≠ ""
  plural_ne : t.spec.plural ≠ ""
  kind_ne : t.spec.kind ≠ ""

theorem admitted_of_validateCreate (h : t.validateCreate = []) : Admitted t := by
  simp only [DuckType.validateCreate, DuckType.validate, DuckTypeSpec.validate, List.append_eq_nil_iff,
    default_name, default_group, default_plural, default_kind] at h
  obtain ⟨hname, ⟨⟨⟨hgroup, hplural⟩, _⟩, hkind⟩, _⟩ := h
  refine ⟨?_, ?_, ?_, ?_⟩
  · by_contra hne
    simp [hne] at hname
  · intro he
    simp [he] at hgroup
  · intro he
    simp [he] at hplural
  · intro he
    simp [he] at hkind

theorem admitted_of_validateUpdate {old : DuckType} (h : DuckType.validateUpdate old t = []) :
    Admitted t :=
  admitted_of_validateCreate h

-- The defaulting keeps a given singular and otherwise lowercases the kind; the list
-- kind it leaves is never empty
theorem default_singular :
    t.default.spec.singular = if t.spec.singular = "" then toLower t.spec.kind else t.spec.singular := by
  simp only [DuckType.default, DuckTypeSpec.default]
  split_ifs <;> rfl

theorem default_listKind_ne : t.default.spec.listKind ≠ "" := by
  simp only [DuckType.default, DuckTypeSpec.default]
  split_ifs <;> simp_all

-- Defaulting an object the webhook has defaulted changes nothing, so the stored
-- DuckType is its own default
theorem DuckType.default_default : t.default.default = t.default := by
  simp only [DuckType.default, DuckTypeSpec.default]
  split_ifs <;> simp_all [toLower_eq_empty_iff]

-- The check Validate makes of group, plural and singular
theorem lowercase_check_eq_nil {s : String} {e₁ e₂ : FieldError} :
    (if s = "" then [e₁] else if toLower s ≠ s then [e₂] else []) = [] ↔ s ≠ "" ∧ toLower s = s := by
  by_cases h : s = "" <;> by_cases h' : toLower s = s <;> simp [h, h']

-- A singular left empty is defaulted to the lowercased kind, which passes its check
-- exactly when the kind is given
theorem default_singular_check :
    (t.default.spec.singular ≠ "" ∧ toLower t.default.spec.singular = t.default.spec.singular) ↔
      (t.spec.singular = "" ∨ toLower t.spec.singular = t.spec.singular) ∧
        (t.spec.singular = "" → t.spec.kind ≠ "") := by
  rw [default_singular]
  by_cases hs : t.spec.singular = ""
  · simp [hs, toLower_eq_empty_iff, toLower_toLower]
  · simp [hs]

-- What the DuckType webhook admits, on create and on update alike: a name of the
-- form <plural>.<group>, a non-empty lowercase group and plural, a kind, and a
-- lowercase singular unless it is left to the defaulting
theorem validateCreate_eq_nil_iff :
    (t.validateCreate = [] ↔
      t.name = t.spec.plural ++ "." ++ t.spec.group ∧
      (t.spec.group ≠ "" ∧ toLower t.spec.group = t.spec.group) ∧
      (t.spec.plural ≠ "" ∧ toLower t.spec.plural = t.spec.plural) ∧
      (t.spec.singular = "" ∨ toLower t.spec.singular = t.spec.singular) ∧
      t.spec.kind ≠ "") ∧
    ∀ old, DuckType.validateUpdate old t = t.validateCreate := by
  refine ⟨?_, fun _ => rfl⟩
  simp only [DuckType.validateCreate, DuckType.validate, DuckTypeSpec.validate, List.append_eq_nil_iff,
    lowercase_check_eq_nil, default_singular_check, default_name, default_group, default_plural, default_kind,
    default_listKind_ne, if_false, and_true]
  -- only the kind's check is left to pair with the defaulted singular's
  by_cases hk : t.spec.kind = ""
  · simp [hk]
  · simp [hk, and_assoc]

end Accepted

end Ducks.Api
