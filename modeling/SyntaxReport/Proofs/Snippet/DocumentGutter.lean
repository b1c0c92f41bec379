import Mathlib.Algebra.Order.Ring.Int
import Mathlib.Order.Bounds.Basic
import SyntaxReport.Proofs.Snippet.Gutter

/-! The gutter of a document is readable. Counting up to the first power of ten beyond the highest
number ends at the number of its digits, so every number up to it fits; padded with zeros it still
reads as the same number, and no two numbers have the same label. -/
namespace SyntaxReport

namespace Text

/-- Counting up from a width to the first whose numerals reach beyond `highest`. -/
def widthFrom (highest : Int) (d : Nat) : Nat :=
  if (10 : Int) ^ d ≤ highest then widthFrom highest (d + 1) else d
termination_by (highest - d).toNat
decreasing_by
  have hlt : (d : Int) < 10 ^ d := by exact_mod_cast Nat.lt_pow_self (by decide)
  omega

theorem lt_pow_digitWidth (highest : Int) : highest < 10 ^ digitWidth highest := by
  have hlt := lt_pow_digitCount highest.toNat
  calc
    highest ≤ (highest.toNat : Int) := Int.self_le_toNat highest
    _ < ((Nat.pow 10 (digitWidth highest) : Nat) : Int) := Int.ofNat_lt.mpr hlt
    _ = 10 ^ digitWidth highest := Nat.cast_pow 10 _

theorem digitWidth_le_of_lt_pow {highest : Int} {d : Nat} (hd : 1 ≤ d) (h : highest < 10 ^ d) :
    digitWidth highest ≤ d := by
  apply digitCount_le_of_lt_pow hd
  have hpow : highest < ((10 ^ d : Nat) : Int) := by exact_mod_cast h
  have hpos : 0 < 10 ^ d := Nat.pow_pos (by decide)
  change highest.toNat < 10 ^ d
  omega

theorem isLeast_digitWidth (highest : Int) :
    IsLeast {d : Nat | 1 ≤ d ∧ highest < 10 ^ d} (digitWidth highest) :=
  ⟨⟨digitCount_pos highest.toNat, lt_pow_digitWidth highest⟩,
    fun _ hd => digitWidth_le_of_lt_pow hd.1 hd.2⟩

/-- Counting up ends at the width, wherever below it starts. -/
theorem widthFrom_eq_digitWidth {highest : Int} {d : Nat} (hd : 1 ≤ d)
    (h : d ≤ digitWidth highest) : widthFrom highest d = digitWidth highest := by
  induction hk : digitWidth highest - d generalizing d with
  | zero =>
    obtain rfl : d = digitWidth highest := by omega
    rw [widthFrom, if_neg (Int.not_le.mpr (lt_pow_digitWidth highest))]
  | succ k ih =>
    have hgoes : (10 : Int) ^ d ≤ highest := by
      by_contra hends
      have hle := digitWidth_le_of_lt_pow hd (Int.not_le.mp hends)
      omega
    rw [widthFrom, if_pos hgoes]
    exact ih (by omega) (by omega) (by omega)

/-- The characters are decimal digits, and read as a numeral they give the number. -/
def Denotes (t : Text) (n : Int) : Prop :=
  (∀ c ∈ t, c.isDigit = true) ∧ (Nat.ofDigitChars 10 t 0 : Int) = n

/-- Zeros in front do not change the number. -/
theorem denotes_padded (k n : Nat) : Denotes (List.replicate k '0' ++ ofNat n) n := by
  constructor
  · intro c hc
    rcases List.mem_append.mp hc with hzero | hdigit
    · rw [List.eq_of_mem_replicate hzero]
      rfl
    · exact Nat.isDigit_of_mem_toDigits (by decide) (by decide) hdigit
  · rw [Nat.ofDigitChars_append, Nat.ofDigitChars_replicate_zero, Nat.mul_zero, ofNat,
      Nat.ofDigitChars_ten_toDigits]

end Text

namespace Gutter

theorem width_forDocument {total : Int} (ht : 1 < total) (highest : Int) :
    (forDocument total highest).width = Text.digitWidth highest := by
  rw [forDocument, if_neg (by omega)]

theorem width_forDocument_pos {total : Int} (ht : 1 < total) (highest : Int) :
    0 < (forDocument total highest).width := by
  have hcount : 0 < Text.digitWidth highest := Text.digitCount_pos highest.toNat
  rw [width_forDocument ht]
  omega

theorem pad_forDocument {total : Int} (ht : 1 < total) (highest : Int) :
    (forDocument total highest).pad = ['0'] := by
  rw [forDocument, if_neg (by omega)]

theorem suffix_forDocument {total : Int} (ht : 1 < total) (highest : Int) :
    (forDocument total highest).suffix = ": ".toList := by
  rw [forDocument, if_neg (by omega)]

section

variable [Memory]

/-- A number stands readable in a gutter: its label is as long as the gutter and the blank below it,
and begins with digits for the number over the whole width. -/
structure Shows (g : Gutter) (number : Int) (label : Text) : Prop where
  labelled : g.labelOf (.int number) = .ok label
  length_eq : g.length = .ok label.length
  blank_eq : ∃ blank, g.blank = .ok blank ∧ blank.length = label.length
  denotes : Text.Denotes (label.take g.width.toNat) number

/-- What becomes of the numbers up to the highest one. Each integer stands readable in the gutter if
it is short enough to be written and there is room for the label. Where there is none, the padding
or the blank fails instead; and labels are told apart even then. A truth value is never labelled by
digits. -/
structure LabelsUpTo (g : Gutter) (highest : Int) : Prop where
  shows : g.width + g.suffix.length ≤ Memory.maxRun → ∀ n, 0 ≤ n → n ≤ highest →
    Text.isWritable n = true → ∃ label, g.Shows n label
  unwritable : ∀ n, Text.isWritable n = false → g.labelOf (.int n) = .error .tooManyDigits
  unpadded : Memory.maxRun < g.width → ∀ n, 0 ≤ n → n ≤ highest → Text.isWritable n = true →
    g.labelOf (.int n) = .error (if Text.isWord g.width then .length .tooMany else .widthNotAWord)
  unspaced : Memory.maxRun < g.width + g.suffix.length → ∃ cause, g.blank = .error (.length cause)
  distinct : ∀ n m label label', 0 ≤ n → n ≤ highest → 0 ≤ m → m ≤ highest → n ≠ m →
    g.labelOf (.int n) = .ok label → g.labelOf (.int m) = .ok label' →
    label ≠ label' ∧ label.length = label'.length
  misfit : ∀ b, g.width < (Value.bool b).describe.length →
    g.labelOf (.truth b) = .error (.wordTooWide (Value.bool b).describe g.width)
  word : ∀ b label, g.labelOf (.truth b) = .ok label →
    ∃ c ∈ label.take g.width.toNat, c.isDigit = false

theorem labelOf_of_isWritable {g : Gutter} {n : Int} (h : Text.isWritable n = true) :
    g.labelOf (.int n) = g.label n := by
  rw [labelOf, if_neg]
  rintro ⟨-, hlong⟩
  rw [h] at hlong
  cases hlong

theorem labelOf_of_not_isWritable {g : Gutter} (hg : g.width ≠ 0) {n : Int}
    (h : Text.isWritable n = false) : g.labelOf (.int n) = .error .tooManyDigits := by
  rw [labelOf, if_pos ⟨hg, by rw [h]; rfl⟩]

theorem label_of_labelOf {g : Gutter} {n : Int} {label : Text}
    (h : g.labelOf (.int n) = .ok label) : g.label n = .ok label := by
  simp only [labelOf] at h
  split_ifs at h
  exact h

theorem labelOf_truth_of_lt {g : Gutter} (hg : g.width ≠ 0) {b : Bool}
    (h : g.width < (Value.bool b).describe.length) :
    g.labelOf (.truth b) = .error (.wordTooWide (Value.bool b).describe g.width) := by
  simp only [labelOf, padded]
  rw [if_neg hg, if_pos h]

/-- The padding fills a label up to the width. -/
theorem take_of_padded {g : Gutter} (hg : g.width ≠ 0) {written label : Text} {misfit : GutterError}
    (h : g.padded written misfit = .ok label) :
    ∃ k c, g.pad = [c] ∧ label.take g.width.toNat = List.replicate k c ++ written := by
  obtain ⟨hzero, -⟩ | ⟨hfit, c, hc, rfl⟩ := eq_of_padded h
  · exact absurd hzero hg
  · refine ⟨_, c, hc, List.take_left' ?_⟩
    rw [List.length_append, List.length_replicate]
    omega

/-- The word for a truth value has letters. -/
theorem exists_letter_of_labelOf_truth {g : Gutter} (hg : g.width ≠ 0) {b : Bool} {label : Text}
    (h : g.labelOf (.truth b) = .ok label) :
    ∃ c ∈ label.take g.width.toNat, c.isDigit = false := by
  have hletter : 'e' ∈ (Value.bool b).describe := by cases b <;> decide
  obtain ⟨k, c, -, htake⟩ := take_of_padded hg h
  rw [htake]
  exact ⟨'e', List.mem_append_right _ hletter, by decide⟩

/-- Digits are all that stands in the width of a document gutter. -/
theorem denotes_of_label {total highest : Int} {n : Nat} {label : Text} (ht : 1 < total)
    (h : (forDocument total highest).label n = .ok label) :
    Text.Denotes (label.take (forDocument total highest).width.toNat) n := by
  obtain ⟨k, c, hc, htake⟩ := take_of_padded (width_forDocument_pos ht highest).ne' h
  rw [pad_forDocument ht] at hc
  obtain rfl := List.singleton_inj.mp hc
  rw [htake]
  exact Text.denotes_padded k n

theorem exists_shows {total highest : Int} {n : Nat} (ht : 1 < total) (hn : (n : Int) ≤ highest)
    (hw : (Text.digitWidth highest : Int) + 2 ≤ Memory.maxRun)
    (h : Text.isWritable n = true) : ∃ label, (forDocument total highest).Shows n label := by
  obtain ⟨label, hlabel, hlength, -⟩ := exists_label_forDocument total hn hw
  refine ⟨label, ?_, ?_, ⟨_, blank_forDocument total hw, ?_⟩, denotes_of_label ht hlabel⟩
  · rw [labelOf_of_isWritable h, hlabel]
  · rw [length_forDocument total hw, hlength]
  · rw [hlength, Text.length_spaces]
    omega

theorem labelsUpTo_forDocument {total : Int} (ht : 1 < total) (highest : Int) :
    (forDocument total highest).LabelsUpTo highest := by
  have hwidth := width_forDocument ht highest
  have hpos := width_forDocument_pos ht highest
  constructor
  case shows =>
    intro hroom n h0 hn hwritable
    obtain ⟨k, rfl⟩ := Int.eq_ofNat_of_zero_le h0
    rw [hwidth, suffix_forDocument ht] at hroom
    exact exists_shows ht hn hroom hwritable
  case unwritable =>
    intro n hlong
    exact labelOf_of_not_isWritable hpos.ne' hlong
  case unpadded =>
    intro hwide n h0 hn hwritable
    obtain ⟨k, rfl⟩ := Int.eq_ofNat_of_zero_le h0
    rw [hwidth] at hwide
    rw [labelOf_of_isWritable hwritable, label_forDocument ht hn, hwidth, if_pos hwide]
    cases Text.isWord (Text.digitWidth highest) <;> rfl
  case unspaced => exact blank_of_lt
  case distinct =>
    intro n m label label' hn0 hn hm0 hm hne hlabel hlabel'
    obtain ⟨k, rfl⟩ := Int.eq_ofNat_of_zero_le hn0
    obtain ⟨l, rfl⟩ := Int.eq_ofNat_of_zero_le hm0
    have hk := label_of_labelOf hlabel
    have hl := label_of_labelOf hlabel'
    constructor
    · -- the label gives the number back
      rintro rfl
      apply hne
      calc
        (k : Int) = Nat.ofDigitChars 10 (label.take _) 0 := (denotes_of_label ht hk).2.symm
        _ = l := (denotes_of_label ht hl).2
    · have hlength := length_of_label hk
      rw [← length_of_label hl] at hlength
      exact Int.ofNat_inj.mp hlength
  case misfit =>
    intro b hlong
    exact labelOf_truth_of_lt hpos.ne' hlong
  case word =>
    intro b label hlabel
    exact exists_letter_of_labelOf_truth hpos.ne' hlabel

/-- The width of a document gutter is the number of digits of the highest number, where counting up
ends. Every integer up to it is labelled readably, as long as it can be written and there is room
for the label. -/
theorem forDocument_labels_readably (highest : Int) :
    IsLeast {d : Nat | 1 ≤ d ∧ highest < 10 ^ d} (Text.digitWidth highest) ∧
    Text.widthFrom highest 1 = Text.digitWidth highest ∧
    (1 ≤ highest → Text.digitWidth highest = (Text.ofInt highest).length) ∧
    ∀ total, 1 < total → (forDocument total highest).width = Text.digitWidth highest ∧
      (forDocument total highest).LabelsUpTo highest := by
  have hleast := Text.isLeast_digitWidth highest
  refine ⟨hleast, Text.widthFrom_eq_digitWidth le_rfl hleast.1.1, ?_, ?_⟩
  · intro hpos
    exact Text.digitWidth_eq_length (by omega)
  · intro total ht
    exact ⟨width_forDocument ht highest, labelsUpTo_forDocument ht highest⟩

end

/-- At the highest numbers of one and of two digits. -/
theorem forDocument_labels_readably_nine_and_ten :
    (1 : Int) < 12 ∧ Text.isWritable 10 = true ∧ (forDocument 12 9).Shows 9 "9: ".toList ∧
    (forDocument 12 10).Shows 9 "09: ".toList ∧ (forDocument 12 10).Shows 10 "10: ".toList := by
  have hshown {highest n : Int} {label : Text}
      (hroom : (forDocument 12 highest).width + (forDocument 12 highest).suffix.length ≤
        Memory.maxRun)
      (hn : 0 ≤ n ∧ n ≤ highest ∧ Text.isWritable n = true)
      (hlabel : (forDocument 12 highest).labelOf (.int n) = .ok label) :
      (forDocument 12 highest).Shows n label := by
    obtain ⟨-, hlabels⟩ := (forDocument_labels_readably highest).2.2.2 12 (by decide)
    obtain ⟨label', h⟩ := hlabels.shows hroom n hn.1 hn.2.1 hn.2.2
    have heq := h.labelled
    rw [hlabel] at heq
    obtain rfl := Except.ok.inj heq
    exact h
  refine ⟨by decide, ?_, hshown ?_ ?_ ?_, hshown ?_ ?_ ?_, hshown ?_ ?_ ?_⟩
  all_goals decide +kernel

/-- The least number that is too long to be written has a gutter of its width and no label, and
there is none for the truth value that passes for one. -/
theorem forDocument_refuses_long_number :
    ((1 : Int) ≤ (Nat.pow 10 Text.maxDigits : Nat) ∧
      (forDocument 2 (Nat.pow 10 Text.maxDigits : Nat)).labelOf
        (.int (Nat.pow 10 Text.maxDigits : Nat)) = .error .tooManyDigits) ∧
    (forDocument 2 1).labelOf (.truth true) = .error (.wordTooWide "True".toList 1) := by
  -- the number must not be evaluated here
  have hpos (k : Nat) : 1 ≤ Nat.pow 10 k := Nat.pow_pos (by decide)
  have hlong : Text.isWritable (Nat.pow 10 Text.maxDigits : Nat) = false := by
    rw [Text.isWritable, Int.natAbs_natCast]
    exact decide_eq_false (Nat.lt_irrefl _)
  refine ⟨⟨Int.ofNat_le.mpr (hpos _), ?_⟩, ?_⟩
  · exact (labelsUpTo_forDocument (by decide) _).unwritable _ hlong
  · decide +kernel

end Gutter

end SyntaxReport
