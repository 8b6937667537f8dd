import Mathlib

namespace Ducks.Lib.Unicode

-- Go maps a rune to lower case through unicode.CaseRanges, a sorted table of ranges
-- of runes that share one mapping (unicode/letter.go). The model keeps the
-- table's lowercase column. Nothing here names the program.

inductive Delta
  -- every rune of the range moves by d
  | offset (d : Int)
  -- UpperLower: upper- and lowercase letters alternate, the uppercase ones at even offsets
  | upperLower
deriving DecidableEq, Repr

-- unicode.CaseRange, for the lowercase mapping
structure CaseRange where
  lo : Nat
  hi : Nat
  delta : Delta
deriving DecidableEq, Repr

def CaseRange.contains (cr : CaseRange) (r : Nat) : Bool :=
  cr.lo ≤ r && r ≤ cr.hi

-- The lowercase of a rune of the range. In an UpperLower range Go keeps the offset
-- with its low bit set, (r-lo)&^1 | 1.
def CaseRange.lower (cr : CaseRange) (r : Nat) : Nat :=
  match cr.delta with
  | .offset d => (r + d).toNat
  | .upperLower => cr.lo + (2 * ((r - cr.lo) / 2) + 1)

-- unicode.to(LowerCase, r, caseRange). Go finds the range by binary search; on a
-- sorted table of disjoint ranges that is the one range a search in order finds.
def toCase (ranges : List CaseRange) (r : Nat) : Nat :=
  match ranges.find? (·.contains r) with
  | some cr => cr.lower r
  | none => r

-- The runes a..b are valid runes: none of them is a surrogate or above the last rune
def isRuneRange (a b : Nat) : Bool :=
  b < 0xD800 || (0xDFFF < a && b < 0x110000)

-- Each range that holds one of the runes a..b leaves it as it is: it is an
-- UpperLower range that holds it alone, at an odd offset.
def fixesAll (ranges : List CaseRange) (a b : Nat) : Bool :=
  ranges.all fun cr => b < cr.lo || cr.hi < a ||
    (cr.delta == .upperLower && a == b && (a - cr.lo) % 2 == 1)

-- The lowercase runes of a range are runes, no ASCII capital, and the table leaves
-- each of them as it is. An UpperLower range ends on its last lowercase letter.
def CaseRange.lowerFixed (ranges : List CaseRange) (cr : CaseRange) : Bool :=
  match cr.delta with
  | .offset d =>
    0 ≤ cr.lo + d && isRuneRange (cr.lo + d).toNat (cr.hi + d).toNat &&
      ((cr.hi + d).toNat < 0x41 || 0x5A < (cr.lo + d).toNat) &&
      fixesAll ranges (cr.lo + d).toNat (cr.hi + d).toNat
  | .upperLower => (cr.hi - cr.lo) % 2 == 1 && isRuneRange cr.lo cr.hi

-- A table toCase can use: sorted, above ASCII, with its lowercase runes fixed
structure CaseTable where
  ranges : List CaseRange
  above_ascii : ranges.all (fun cr => 0x80 ≤ cr.lo && cr.lo ≤ cr.hi) = true
  sorted : ranges.IsChain fun a b => a.hi < b.lo
  lower_fixed : ranges.all (CaseRange.lowerFixed ranges) = true

-- unicode.ToLower: an ASCII letter directly, any other rune through the table
def toLowerWith (t : CaseTable) (c : Char) : Char :=
  if c.toNat ≤ 0x7F then c.toLower else Char.ofNat (toCase t.ranges c.toNat)

section Lookup

variable {ranges : List CaseRange} {cr : CaseRange} {r : Nat}

theorem toCase_of_find?_none (h : ranges.find? (·.contains r) = none) : toCase ranges r = r := by
  simp [toCase, h]

theorem toCase_of_find?_some (h : ranges.find? (·.contains r) = some cr) :
    toCase ranges r = cr.lower r := by
  simp [toCase, h]

theorem contains_iff : cr.contains r = true ↔ cr.lo ≤ r ∧ r ≤ cr.hi := by
  simp [CaseRange.contains]

-- In a sorted table every range lies above the ones before it
private theorem hi_lt_lo_of_isChain {x : CaseRange} (hs : (x :: ranges).IsChain fun a b => a.hi < b.lo)
    (hv : ∀ y ∈ ranges, y.lo ≤ y.hi) : ∀ y ∈ ranges, x.hi < y.lo := by
  induction ranges generalizing x with
  | nil => exact fun y hy => absurd hy List.not_mem_nil
  | cons z rest ih =>
    rw [List.isChain_cons_cons] at hs
    intro y hy
    rcases List.mem_cons.mp hy with rfl | hy
    · exact hs.1
    · have hz := hv z List.mem_cons_self
      have hrest := ih hs.2 (fun w hw => hv w (List.mem_cons_of_mem _ hw)) y hy
      omega

-- So the search in order finds the one range that holds a rune, as Go's binary search does
theorem find?_of_contains (hs : ranges.IsChain fun a b => a.hi < b.lo) (hv : ∀ y ∈ ranges, y.lo ≤ y.hi)
    (hmem : cr ∈ ranges) (hc : cr.contains r = true) : ranges.find? (·.contains r) = some cr := by
  induction ranges with
  | nil => exact absurd hmem List.not_mem_nil
  | cons x rest ih =>
    rcases List.mem_cons.mp hmem with rfl | hmem
    · exact List.find?_cons_of_pos hc
    · have hlt := hi_lt_lo_of_isChain hs (fun y hy => hv y (List.mem_cons_of_mem _ hy)) cr hmem
      have hx : ¬ x.contains r = true := by
        rw [contains_iff] at hc ⊢
        omega
      rw [List.find?_cons_of_neg (p := fun y : CaseRange => y.contains r) hx]
      exact ih hs.tail (fun y hy => hv y (List.mem_cons_of_mem _ hy)) hmem

end Lookup

-- What lowering twice needs of the lowercase m of a rune of the table: m is a rune,
-- no ASCII capital, and the table maps it to itself
structure LowerFixed (t : CaseTable) (m : Nat) : Prop where
  valid : m.isValidChar
  not_upper : m < 0x41 ∨ 0x5A < m
  fixed : 0x80 ≤ m → toCase t.ranges m = m

section Table

variable (t : CaseTable) {cr : CaseRange} {r : Nat}

theorem CaseTable.bounds (hmem : cr ∈ t.ranges) : 0x80 ≤ cr.lo ∧ cr.lo ≤ cr.hi := by
  simpa using List.all_eq_true.mp t.above_ascii cr hmem

theorem CaseTable.lowerFixed (hmem : cr ∈ t.ranges) : cr.lowerFixed t.ranges = true :=
  List.all_eq_true.mp t.lower_fixed cr hmem

private theorem CaseTable.lowerFixed_offset {d : Int} (hmem : cr ∈ t.ranges) (hd : cr.delta = .offset d)
    (hc : cr.contains r = true) : LowerFixed t (cr.lower r) := by
  have hcheck := t.lowerFixed hmem
  simp only [CaseRange.lowerFixed, hd, isRuneRange, fixesAll, Bool.and_eq_true, Bool.or_eq_true,
    decide_eq_true_eq, List.all_eq_true, beq_iff_eq] at hcheck
  obtain ⟨⟨⟨hpos, hrune⟩, hupper⟩, hfix⟩ := hcheck
  rw [contains_iff] at hc
  have hlower : cr.lower r = (r + d).toNat := by simp [CaseRange.lower, hd]
  rw [hlower]
  refine ⟨by unfold Nat.isValidChar; omega, by omega, fun _ => ?_⟩
  -- a range holding the lowercase rune holds it alone, at an odd offset of an UpperLower range
  cases hfind : t.ranges.find? (·.contains (r + d).toNat) with
  | none => exact toCase_of_find?_none hfind
  | some cr' =>
    rw [toCase_of_find?_some hfind]
    have hc' := List.find?_some hfind
    simp only [contains_iff] at hc'
    rcases hfix cr' (List.mem_of_find?_eq_some hfind) with (hlt | hlt) | ⟨⟨hul, heq⟩, hodd⟩
    · omega
    · omega
    · have hm : (r + d).toNat = (cr.lo + d).toNat := by omega
      simp only [CaseRange.lower, hul]
      omega

private theorem CaseTable.lowerFixed_upperLower (hmem : cr ∈ t.ranges) (hd : cr.delta = .upperLower)
    (hc : cr.contains r = true) : LowerFixed t (cr.lower r) := by
  have hcheck := t.lowerFixed hmem
  simp only [CaseRange.lowerFixed, hd, isRuneRange, Bool.and_eq_true, Bool.or_eq_true,
    decide_eq_true_eq, beq_iff_eq] at hcheck
  obtain ⟨hodd, hrune⟩ := hcheck
  have hb := t.bounds hmem
  rw [contains_iff] at hc
  have hlower : cr.lower r = cr.lo + (2 * ((r - cr.lo) / 2) + 1) := by simp [CaseRange.lower, hd]
  -- the range ends on a lowercase letter, so the lowercase of r is in the range too
  have hin : cr.contains (cr.lower r) = true := by
    rw [contains_iff, hlower]
    omega
  rw [contains_iff, hlower] at hin
  rw [hlower]
  refine ⟨by unfold Nat.isValidChar; omega, by omega, fun _ => ?_⟩
  have hfind := find?_of_contains t.sorted (fun y hy => (t.bounds hy).2) hmem
    (contains_iff.mpr hin)
  rw [toCase_of_find?_some hfind]
  simp only [CaseRange.lower, hd]
  omega

-- Every rune the table lowers goes to a rune that it leaves as it is
theorem CaseTable.lowerFixed_lower (hmem : cr ∈ t.ranges) (hc : cr.contains r = true) :
    LowerFixed t (cr.lower r) := by
  cases hd : cr.delta with
  | offset d => exact t.lowerFixed_offset hmem hd hc
  | upperLower => exact t.lowerFixed_upperLower hmem hd hc

theorem isUpper_iff (c : Char) : c.isUpper = true ↔ 0x41 ≤ c.toNat ∧ c.toNat ≤ 0x5A := by
  unfold Char.isUpper
  simp only [decide_eq_true_eq]
  exact Iff.rfl

theorem toNat_toLower_le {c : Char} (hc : c.toNat ≤ 0x7F) : c.toLower.toNat ≤ 0x7F := by
  by_cases hu : c.isUpper = true
  · have hlt : c.toNat + 32 < 0xD800 := by omega
    rw [Char.toLower_eq_of_isUpper hu, Char.toNat_ofNat, if_pos (Or.inl hlt)]
    have := (isUpper_iff c).mp hu
    omega
  · rw [Char.toLower_eq_of_not_isUpper hu]
    exact hc

-- A rune that the table leaves as it is and that is no ASCII capital is its own lowercase
theorem LowerFixed.toLowerWith_ofNat {m : Nat} (hf : LowerFixed t m) :
    toLowerWith t (Char.ofNat m) = Char.ofNat m := by
  have hm : (Char.ofNat m).toNat = m := by rw [Char.toNat_ofNat, if_pos hf.valid]
  by_cases hascii : m ≤ 0x7F
  · have hu : ¬ (Char.ofNat m).isUpper = true := by
      rw [isUpper_iff, hm]
      have hnu := hf.not_upper
      omega
    simp only [toLowerWith, hm, hascii, if_true]
    exact Char.toLower_eq_of_not_isUpper hu
  · simp only [toLowerWith, hm, hascii, if_false]
    rw [hf.fixed (by omega)]

-- unicode.ToLower leaves the lowercase of every rune as it is
theorem toLowerWith_toLowerWith (c : Char) : toLowerWith t (toLowerWith t c) = toLowerWith t c := by
  by_cases hc : c.toNat ≤ 0x7F
  · have hl : toLowerWith t c = c.toLower := by simp [toLowerWith, hc]
    rw [hl]
    simp [toLowerWith, toNat_toLower_le hc]
  · have hl : toLowerWith t c = Char.ofNat (toCase t.ranges c.toNat) := by simp [toLowerWith, hc]
    cases hfind : t.ranges.find? (·.contains c.toNat) with
    | none =>
      -- a rune outside every range is its own lowercase
      have hself : toLowerWith t c = c := by rw [hl, toCase_of_find?_none hfind, Char.ofNat_toNat]
      rw [hself, hself]
    | some cr =>
      -- find?_some is taken apart from its use: at cr.contains it unifies the wrong way
      have hcr := List.find?_some hfind
      have hf := t.lowerFixed_lower (List.mem_of_find?_eq_some hfind) hcr
      rw [hl, toCase_of_find?_some hfind, hf.toLowerWith_ofNat]

end Table

-- The lowercase column of unicode.CaseRanges: the simple lowercase mappings of the
-- Unicode Character Database (UnicodeData.txt) above ASCII, as Go's maketables
-- groups them. Generated from Unicode 14.0.0, whose lowercase mappings 15.0.0 keeps.
def caseRanges : CaseTable where
  ranges :=
    [⟨0x00C0, 0x00D6, .offset 32⟩, ⟨0x00D8, 0x00DE, .offset 32⟩, ⟨0x0100, 0x012F, .upperLower⟩,
     ⟨0x0130, 0x0130, .offset (-199)⟩, ⟨0x0132, 0x0137, .upperLower⟩, ⟨0x0139, 0x0148, .upperLower⟩,
     ⟨0x014A, 0x0177, .upperLower⟩, ⟨0x0178, 0x0178, .offset (-121)⟩, ⟨0x0179, 0x017E, .upperLower⟩,
     ⟨0x0181, 0x0181, .offset 210⟩, ⟨0x0182, 0x0185, .upperLower⟩, ⟨0x0186, 0x0186, .offset 206⟩,
     ⟨0x0187, 0x0187, .offset 1⟩, ⟨0x0189, 0x018A, .offset 205⟩, ⟨0x018B, 0x018B, .offset 1⟩,
     ⟨0x018E, 0x018E, .offset 79⟩, ⟨0x018F, 0x018F, .offset 202⟩, ⟨0x0190, 0x0190, .offset 203⟩,
     ⟨0x0191, 0x0191, .offset 1⟩, ⟨0x0193, 0x0193, .offset 205⟩, ⟨0x0194, 0x0194, .offset 207⟩,
     ⟨0x0196, 0x0196, .offset 211⟩, ⟨0x0197, 0x0197, .offset 209⟩, ⟨0x0198, 0x0198, .offset 1⟩,
     ⟨0x019C, 0x019C, .offset 211⟩, ⟨0x019D, 0x019D, .offset 213⟩, ⟨0x019F, 0x019F, .offset 214⟩,
     ⟨0x01A0, 0x01A5, .upperLower⟩, ⟨0x01A6, 0x01A6, .offset 218⟩, ⟨0x01A7, 0x01A7, .offset 1⟩,
     ⟨0x01A9, 0x01A9, .offset 218⟩, ⟨0x01AC, 0x01AC, .offset 1⟩, ⟨0x01AE, 0x01AE, .offset 218⟩,
     ⟨0x01AF, 0x01AF, .offset 1⟩, ⟨0x01B1, 0x01B2, .offset 217⟩, ⟨0x01B3, 0x01B6, .upperLower⟩,
     ⟨0x01B7, 0x01B7, .offset 219⟩, ⟨0x01B8, 0x01B8, .offset 1⟩, ⟨0x01BC, 0x01BC, .offset 1⟩,
     ⟨0x01C4, 0x01C4, .offset 2⟩, ⟨0x01C5, 0x01C5, .offset 1⟩, ⟨0x01C7, 0x01C7, .offset 2⟩,
     ⟨0x01C8, 0x01C8, .offset 1⟩, ⟨0x01CA, 0x01CA, .offset 2⟩, ⟨0x01CB, 0x01DC, .upperLower⟩,
     ⟨0x01DE, 0x01EF, .upperLower⟩, ⟨0x01F1, 0x01F1, .offset 2⟩, ⟨0x01F2, 0x01F5, .upperLower⟩,
     ⟨0x01F6, 0x01F6, .offset (-97)⟩, ⟨0x01F7, 0x01F7, .offset (-56)⟩, ⟨0x01F8, 0x021F, .upperLower⟩,
     ⟨0x0220, 0x0220, .offset (-130)⟩, ⟨0x0222, 0x0233, .upperLower⟩, ⟨0x023A, 0x023A, .offset 10795⟩,
     ⟨0x023B, 0x023B, .offset 1⟩, ⟨0x023D, 0x023D, .offset (-163)⟩, ⟨0x023E, 0x023E, .offset 10792⟩,
     ⟨0x0241, 0x0241, .offset 1⟩, ⟨0x0243, 0x0243, .offset (-195)⟩, ⟨0x0244, 0x0244, .offset 69⟩,
     ⟨0x0245, 0x0245, .offset 71⟩, ⟨0x0246, 0x024F, .upperLower⟩, ⟨0x0370, 0x0373, .upperLower⟩,
     ⟨0x0376, 0x0376, .offset 1⟩, ⟨0x037F, 0x037F, .offset 116⟩, ⟨0x0386, 0x0386, .offset 38⟩,
     ⟨0x0388, 0x038A, .offset 37⟩, ⟨0x038C, 0x038C, .offset 64⟩, ⟨0x038E, 0x038F, .offset 63⟩,
     ⟨0x0391, 0x03A1, .offset 32⟩, ⟨0x03A3, 0x03AB, .offset 32⟩, ⟨0x03CF, 0x03CF, .offset 8⟩,
     ⟨0x03D8, 0x03EF, .upperLower⟩, ⟨0x03F4, 0x03F4, .offset (-60)⟩, ⟨0x03F7, 0x03F7, .offset 1⟩,
     ⟨0x03F9, 0x03F9, .offset (-7)⟩, ⟨0x03FA, 0x03FA, .offset 1⟩, ⟨0x03FD, 0x03FF, .offset (-130)⟩,
     ⟨0x0400, 0x040F, .offset 80⟩, ⟨0x0410, 0x042F, .offset 32⟩, ⟨0x0460, 0x0481, .upperLower⟩,
     ⟨0x048A, 0x04BF, .upperLower⟩, ⟨0x04C0, 0x04C0, .offset 15⟩, ⟨0x04C1, 0x04CE, .upperLower⟩,
     ⟨0x04D0, 0x052F, .upperLower⟩, ⟨0x0531, 0x0556, .offset 48⟩, ⟨0x10A0, 0x10C5, .offset 7264⟩,
     ⟨0x10C7, 0x10C7, .offset 7264⟩, ⟨0x10CD, 0x10CD, .offset 7264⟩, ⟨0x13A0, 0x13EF, .offset 38864⟩,
     ⟨0x13F0, 0x13F5, .offset 8⟩, ⟨0x1C90, 0x1CBA, .offset (-3008)⟩, ⟨0x1CBD, 0x1CBF, .offset (-3008)⟩,
     ⟨0x1E00, 0x1E95, .upperLower⟩, ⟨0x1E9E, 0x1E9E, .offset (-7615)⟩, ⟨0x1EA0, 0x1EFF, .upperLower⟩,
     ⟨0x1F08, 0x1F0F, .offset (-8)⟩, ⟨0x1F18, 0x1F1D, .offset (-8)⟩, ⟨0x1F28, 0x1F2F, .offset (-8)⟩,
     ⟨0x1F38, 0x1F3F, .offset (-8)⟩, ⟨0x1F48, 0x1F4D, .offset (-8)⟩, ⟨0x1F59, 0x1F59, .offset (-8)⟩,
     ⟨0x1F5B, 0x1F5B, .offset (-8)⟩, ⟨0x1F5D, 0x1F5D, .offset (-8)⟩, ⟨0x1F5F, 0x1F5F, .offset (-8)⟩,
     ⟨0x1F68, 0x1F6F, .offset (-8)⟩, ⟨0x1F88, 0x1F8F, .offset (-8)⟩, ⟨0x1F98, 0x1F9F, .offset (-8)⟩,
     ⟨0x1FA8, 0x1FAF, .offset (-8)⟩, ⟨0x1FB8, 0x1FB9, .offset (-8)⟩, ⟨0x1FBA, 0x1FBB, .offset (-74)⟩,
     ⟨0x1FBC, 0x1FBC, .offset (-9)⟩, ⟨0x1FC8, 0x1FCB, .offset (-86)⟩, ⟨0x1FCC, 0x1FCC, .offset (-9)⟩,
     ⟨0x1FD8, 0x1FD9, .offset (-8)⟩, ⟨0x1FDA, 0x1FDB, .offset (-100)⟩, ⟨0x1FE8, 0x1FE9, .offset (-8)⟩,
     ⟨0x1FEA, 0x1FEB, .offset (-112)⟩, ⟨0x1FEC, 0x1FEC, .offset (-7)⟩, ⟨0x1FF8, 0x1FF9, .offset (-128)⟩,
     ⟨0x1FFA, 0x1FFB, .offset (-126)⟩, ⟨0x1FFC, 0x1FFC, .offset (-9)⟩, ⟨0x2126, 0x2126, .offset (-7517)⟩,
     ⟨0x212A, 0x212A, .offset (-8383)⟩, ⟨0x212B, 0x212B, .offset (-8262)⟩, ⟨0x2132, 0x2132, .offset 28⟩,
     ⟨0x2160, 0x216F, .offset 16⟩, ⟨0x2183, 0x2183, .offset 1⟩, ⟨0x24B6, 0x24CF, .offset 26⟩,
     ⟨0x2C00, 0x2C2F, .offset 48⟩, ⟨0x2C60, 0x2C60, .offset 1⟩, ⟨0x2C62, 0x2C62, .offset (-10743)⟩,
     ⟨0x2C63, 0x2C63, .offset (-3814)⟩, ⟨0x2C64, 0x2C64, .offset (-10727)⟩, ⟨0x2C67, 0x2C6C, .upperLower⟩,
     ⟨0x2C6D, 0x2C6D, .offset (-10780)⟩, ⟨0x2C6E, 0x2C6E, .offset (-10749)⟩, ⟨0x2C6F, 0x2C6F, .offset (-10783)⟩,
     ⟨0x2C70, 0x2C70, .offset (-10782)⟩, ⟨0x2C72, 0x2C72, .offset 1⟩, ⟨0x2C75, 0x2C75, .offset 1⟩,
     ⟨0x2C7E, 0x2C7F, .offset (-10815)⟩, ⟨0x2C80, 0x2CE3, .upperLower⟩, ⟨0x2CEB, 0x2CEE, .upperLower⟩,
     ⟨0x2CF2, 0x2CF2, .offset 1⟩, ⟨0xA640, 0xA66D, .upperLower⟩, ⟨0xA680, 0xA69B, .upperLower⟩,
     ⟨0xA722, 0xA72F, .upperLower⟩, ⟨0xA732, 0xA76F, .upperLower⟩, ⟨0xA779, 0xA77C, .upperLower⟩,
     ⟨0xA77D, 0xA77D, .offset (-35332)⟩, ⟨0xA77E, 0xA787, .upperLower⟩, ⟨0xA78B, 0xA78B, .offset 1⟩,
     ⟨0xA78D, 0xA78D, .offset (-42280)⟩, ⟨0xA790, 0xA793, .upperLower⟩, ⟨0xA796, 0xA7A9, .upperLower⟩,
     ⟨0xA7AA, 0xA7AA, .offset (-42308)⟩, ⟨0xA7AB, 0xA7AB, .offset (-42319)⟩, ⟨0xA7AC, 0xA7AC, .offset (-42315)⟩,
     ⟨0xA7AD, 0xA7AD, .offset (-42305)⟩, ⟨0xA7AE, 0xA7AE, .offset (-42308)⟩, ⟨0xA7B0, 0xA7B0, .offset (-42258)⟩,
     ⟨0xA7B1, 0xA7B1, .offset (-42282)⟩, ⟨0xA7B2, 0xA7B2, .offset (-42261)⟩, ⟨0xA7B3, 0xA7B3, .offset 928⟩,
     ⟨0xA7B4, 0xA7C3, .upperLower⟩, ⟨0xA7C4, 0xA7C4, .offset (-48)⟩, ⟨0xA7C5, 0xA7C5, .offset (-42307)⟩,
     ⟨0xA7C6, 0xA7C6, .offset (-35384)⟩, ⟨0xA7C7, 0xA7CA, .upperLower⟩, ⟨0xA7D0, 0xA7D0, .offset 1⟩,
     ⟨0xA7D6, 0xA7D9, .upperLower⟩, ⟨0xA7F5, 0xA7F5, .offset 1⟩, ⟨0xFF21, 0xFF3A, .offset 32⟩,
     ⟨0x10400, 0x10427, .offset 40⟩, ⟨0x104B0, 0x104D3, .offset 40⟩, ⟨0x10570, 0x1057A, .offset 39⟩,
     ⟨0x1057C, 0x1058A, .offset 39⟩, ⟨0x1058C, 0x10592, .offset 39⟩, ⟨0x10594, 0x10595, .offset 39⟩,
     ⟨0x10C80, 0x10CB2, .offset 64⟩, ⟨0x118A0, 0x118BF, .offset 32⟩, ⟨0x16E40, 0x16E5F, .offset 32⟩,
     ⟨0x1E900, 0x1E921, .offset 34⟩]
  above_ascii := by decide +kernel
  sorted := by decide +kernel
  lower_fixed := by decide +kernel

def toLower (c : Char) : Char := toLowerWith caseRanges c

theorem toLower_toLower (c : Char) : toLower (toLower c) = toLower c :=
  toLowerWith_toLowerWith caseRanges c

example : toLower 'Ñ' = 'ñ' ∧ toLower 'İ' = 'i' ∧ toLower 'Σ' = 'σ' ∧ toLower 'ǅ' = 'ǆ' := by decide

end Ducks.Lib.Unicode
