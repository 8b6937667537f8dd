import Mathlib
import Ducks.Lib.Unicode

namespace Ducks.Validation

-- The pieces of k8s.io/apimachinery's util/validation the webhooks and the API
-- server's object-name checks are built from, and the two strings helpers the
-- webhooks call.

-- field.ErrorType, for the two kinds the webhooks report
inductive ErrorType
  | required
  | invalid
deriving DecidableEq, Repr

-- field.Error. A field.Path is kept as the list of its element names, the root
-- name included.
structure FieldError where
  type : ErrorType
  field : List String
  badValue : String
  detail : String
deriving DecidableEq, Repr

-- field.Required
def required (path : List String) (detail : String) : FieldError :=
  { type := .required, field := path, badValue := "", detail := detail }

-- field.Invalid
def invalid (path : List String) (value detail : String) : FieldError :=
  { type := .invalid, field := path, badValue := value, detail := detail }

-- strings.ToLower: unicode.ToLower on every rune. Its fast path for ASCII strings
-- lowers them the same way, and a Lean string holds no invalid UTF-8 for Map to replace.
def toLower (s : String) : String :=
  String.ofList (s.toList.map Lib.Unicode.toLower)

theorem toLower_toLower (s : String) : toLower (toLower s) = toLower s := by
  simp [toLower, Function.comp_def, Lib.Unicode.toLower_toLower]

theorem toLower_eq_empty_iff {s : String} : toLower s = "" ↔ s = "" := by
  simp [toLower, String.ofList_eq_empty_iff]

-- strings.HasSuffix
def hasSuffix (s suffix : String) : Bool :=
  suffix.toList.isSuffixOf s.toList

-- The automaton of IsDNS1123Subdomain's expression
--   [a-z0-9]([-a-z0-9]*[a-z0-9])?(\.[a-z0-9]([-a-z0-9]*[a-z0-9])?)*
-- : a label starts and ends with a lowercase letter or a digit, with dashes
-- allowed inside, and labels are separated by single dots.
inductive DNSState
  | labelStart
  | inLabel (lastAlnum : Bool)
deriving DecidableEq, Repr

def isAlnum (c : Char) : Bool :=
  ('a' ≤ c && c ≤ 'z') || ('0' ≤ c && c ≤ '9')

def dnsStep : DNSState → Char → Option DNSState
  | .labelStart, c => if isAlnum c then some (.inLabel true) else none
  | .inLabel lastAlnum, c =>
    if isAlnum c then some (.inLabel true)
    else if c = '-' then some (.inLabel false)
    else if c = '.' ∧ lastAlnum then some .labelStart
    else none

-- IsDNS1123Subdomain: the API server accepts an object name only when this holds
def isDNS1123Subdomain (value : String) : Bool :=
  value.length ≤ 253 && value.toList.foldlM dnsStep .labelStart == some (.inLabel true)

theorem dnsStep_eq_inLabel_true {q : DNSState} {c : Char} (h : dnsStep q c = some (.inLabel true)) :
    isAlnum c := by
  cases q with
  | labelStart =>
    simp only [dnsStep] at h
    split at h <;> simp_all
  | inLabel lastAlnum =>
    simp only [dnsStep] at h
    split at h
    · assumption
    · split at h
      · simp at h
      · split at h <;> simp at h

-- A DNS subdomain ends with a letter or a digit.
theorem isDNS1123Subdomain_last {value : String} (h : isDNS1123Subdomain value) :
    ∃ l c, value.toList = l ++ [c] ∧ isAlnum c := by
  simp only [isDNS1123Subdomain, Bool.and_eq_true, beq_iff_eq] at h
  obtain ⟨-, hrun⟩ := h
  rcases List.eq_nil_or_concat value.toList with hnil | ⟨l, c, hlc⟩
  · simp [hnil] at hrun
  · rw [List.concat_eq_append] at hlc
    refine ⟨l, c, hlc, ?_⟩
    rw [hlc, List.foldlM_append] at hrun
    cases hl : l.foldlM dnsStep .labelStart with
    | none => simp [hl] at hrun
    | some q =>
      simp only [hl, Option.bind_eq_bind, Option.bind_some, List.foldlM_cons, List.foldlM_nil] at hrun
      cases hq : dnsStep q c with
      | none => simp [hq] at hrun
      | some q' =>
        simp only [hq, Option.bind_some, Option.pure_def] at hrun
        exact dnsStep_eq_inLabel_true (hrun ▸ hq)

theorem isDNS1123Subdomain_ne_append_dot {value : String} (h : isDNS1123Subdomain value)
    (front : String) : value ≠ front ++ "." := by
  obtain ⟨l, c, hlc, hc⟩ := isDNS1123Subdomain_last h
  intro heq
  have hlist : l ++ [c] = front.toList ++ ['.'] := by
    rw [← hlc, heq]
    simp
  have hdot : c = '.' := (List.append_inj' hlist rfl).2 |> List.singleton_inj.mp
  subst hdot
  simp [isAlnum] at hc

-- Every character the automaton reads is a letter or digit, a dash or a dot.
theorem dnsStep_char {q q' : DNSState} {c : Char} (h : dnsStep q c = some q') :
    isAlnum c ∨ c = '-' ∨ c = '.' := by
  cases q with
  | labelStart =>
    simp only [dnsStep] at h
    split at h <;> simp_all
  | inLabel lastAlnum =>
    simp only [dnsStep] at h
    split at h
    · exact .inl ‹_›
    · split at h
      · exact .inr (.inl ‹_›)
      · split at h
        · exact .inr (.inr ‹c = '.' ∧ lastAlnum = true›.1)
        · cases h

theorem foldlM_dnsStep_char {l : List Char} {q q' : DNSState} (h : l.foldlM dnsStep q = some q') :
    ∀ c ∈ l, isAlnum c ∨ c = '-' ∨ c = '.' := by
  induction l generalizing q with
  | nil => simp
  | cons c l ih =>
    cases hq : dnsStep q c with
    | none => simp [hq] at h
    | some q₁ =>
      simp only [List.foldlM_cons, hq, Option.bind_eq_bind, Option.bind_some] at h
      intro x hx
      rcases List.mem_cons.mp hx with rfl | hx
      · exact dnsStep_char hq
      · exact ih h x hx

theorem isDNS1123Subdomain_char {value : String} (h : isDNS1123Subdomain value) :
    ∀ c ∈ value.toList, isAlnum c ∨ c = '-' ∨ c = '.' := by
  simp only [isDNS1123Subdomain, Bool.and_eq_true, beq_iff_eq] at h
  exact foldlM_dnsStep_char h.2

theorem slash_not_mem_of_isDNS1123Subdomain {value : String} (h : isDNS1123Subdomain value) :
    '/' ∉ value.toList := by
  intro hs
  have := isDNS1123Subdomain_char h '/' hs
  simp [isAlnum] at this

end Ducks.Validation
