import Mathlib.Data.Nat.Basic
import SyntaxReport.Proofs.Outcome
import SyntaxReport.Snippet.Gutter

/-! Gutters of documents. The width is chosen for the highest number that is shown, so the label of
every shown line fits; labels and the blank below them have one length. -/
namespace SyntaxReport

namespace Text

theorem digitCount_le_of_lt_pow {n k : Nat} (hk : 0 < k) (h : n < Nat.pow 10 k) :
    digitCount n ≤ k := by
  induction k generalizing n with
  | zero => omega
  | succ k ih =>
    rw [digitCount]
    split
    · omega
    · cases k with
      | zero =>
        change n < 10 at h
        omega
      | succ k =>
        change n < Nat.pow 10 (k + 1) * 10 at h
        have hle := ih (by omega) (show n / 10 < Nat.pow 10 (k + 1) by omega)
        omega

theorem isWord_of_le [Memory] {n : Int} (h0 : 0 ≤ n) (h : n ≤ Memory.maxRun) : isWord n = true := by
  have hlt := Memory.maxRun_lt
  unfold isWord
  exact decide_eq_true (by omega)

theorem length_ofNat_le {n m : Nat} (h : n ≤ m) : (ofNat n).length ≤ digitCount m :=
  (Nat.length_toDigits_le_iff (by decide) (digitCount_pos m)).mpr
    (Nat.lt_of_le_of_lt h (lt_pow_digitCount m))

/-- The digits that are counted are those of the numeral. -/
theorem digitCount_eq_length (n : Nat) : digitCount n = (ofNat n).length := by
  apply Nat.le_antisymm
  · have hpos : 0 < (ofNat n).length := Nat.length_toDigits_pos
    exact digitCount_le_of_lt_pow hpos ((Nat.length_toDigits_le_iff (by decide) hpos).mp le_rfl)
  · exact length_ofNat_le le_rfl

theorem digitWidth_eq_length {n : Int} (h : 0 ≤ n) : digitWidth n = (ofInt n).length := by
  obtain ⟨k, rfl⟩ := Int.eq_ofNat_of_zero_le h
  exact digitCount_eq_length k

theorem not_mem_ofNat {c : Char} (hc : c.isDigit = false) (n : Nat) : c ∉ ofNat n := by
  intro hm
  have hd := Nat.isDigit_of_mem_toDigits (by decide) (by decide) hm
  rw [hc] at hd
  cases hd

end Text

namespace Gutter

/-- How many characters a label takes. -/
def extent (g : Gutter) : Nat :=
  (g.width + g.suffix.length).toNat

theorem extent_forDocument {total : Int} (h : 1 < total) (highest : Int) :
    (forDocument total highest).extent = Text.digitWidth highest + 2 := by
  rw [forDocument, if_neg (by omega)]
  rfl

variable [Memory]

/-- The number fits the width that is chosen for the highest one, so what is left to fail is the
padding. -/
theorem label_forDocument {total highest : Int} {n : Nat} (ht : 1 < total)
    (hn : (n : Int) ≤ highest) :
    (forDocument total highest).label n =
      if !Text.isWord (Text.digitWidth highest) then .error .widthNotAWord
      else if Memory.maxRun < Text.digitWidth highest then .error (.length .tooMany)
      else .ok (List.replicate (Text.digitWidth highest - (Text.ofNat n).length : Int).toNat '0' ++
        Text.ofNat n ++ ": ".toList) := by
  have hfit : (Text.ofNat n).length ≤ Text.digitWidth highest :=
    Text.length_ofNat_le (show n ≤ highest.toNat by omega)
  have hzero : ¬ ((Text.digitWidth highest : Nat) : Int) = 0 := by
    have hpos := Text.digitCount_pos highest.toNat
    unfold Text.digitWidth
    omega
  have hdigits : Text.ofInt n = Text.ofNat n := rfl
  rw [forDocument, if_neg (by omega)]
  simp only [label, padded, hdigits]
  rw [if_neg hzero, if_neg (by omega)]

/-- A document gutter has a label of its full length for every number up to the highest. -/
theorem exists_label_forDocument (total : Int) {highest : Int} {n : Nat} (hn : (n : Int) ≤ highest)
    (hw : (Text.digitWidth highest : Int) + 2 ≤ Memory.maxRun) :
    ∃ label, (forDocument total highest).label n = .ok label ∧
      label.length = (forDocument total highest).extent ∧ '\n' ∉ label := by
  by_cases ht : total ≤ 1
  · rw [forDocument, if_pos ht]
    -- a document of one line has no numbers
    exact ⟨[], rfl, rfl, List.not_mem_nil⟩
  · have hfit : (Text.ofNat n).length ≤ Text.digitWidth highest :=
      Text.length_ofNat_le (show n ≤ highest.toNat by omega)
    have hword : Text.isWord (Text.digitWidth highest) = true :=
      Text.isWord_of_le (by omega) (by omega)
    rw [extent_forDocument (by omega), label_forDocument (by omega) hn, hword,
      if_neg (by decide), if_neg (by omega)]
    refine ⟨_, rfl, ?_, ?_⟩
    · simp only [List.length_append, List.length_replicate]
      have h2 : ": ".toList.length = 2 := rfl
      omega
    · simp only [List.mem_append, not_or]
      refine ⟨⟨fun hm => ?_, Text.not_mem_ofNat (by decide) n⟩, by decide⟩
      exact absurd (List.eq_of_mem_replicate hm) (by decide)

section

variable {g : Gutter} (h0 : 0 ≤ g.width) (h : g.width + g.suffix.length ≤ Memory.maxRun)

include h0 h

theorem length_of_le : g.length = .ok g.extent := by
  have hword : Text.isWord (g.width + g.suffix.length) = true := Text.isWord_of_le (by omega) h
  unfold length
  dsimp only
  rw [if_neg (by omega), hword, if_neg (by decide), extent]

theorem blank_of_le : g.blank = .ok (Text.spaces g.extent) := by
  have hextent : (g.extent : Int) ≤ Memory.maxRun := by
    unfold extent
    omega
  rw [blank, length_of_le h0 h, Outcome.ok_bind,
    Text.spaces?_of_le (Int.natCast_nonneg _) hextent, Outcome.mapError_ok]

end

/-- What is written stands in a label as it is, behind the padding that fills the width. -/
theorem eq_of_padded {g : Gutter} {written label : Text} {misfit : GutterError}
    (h : g.padded written misfit = .ok label) :
    g.width = 0 ∧ label = g.suffix ∨ written.length ≤ g.width ∧ ∃ c, g.pad = [c] ∧ label =
      List.replicate (g.width - written.length).toNat c ++ written ++ g.suffix := by
  unfold padded at h
  split_ifs at h with hzero hfit hword hmax
  · exact .inl ⟨hzero, (Except.ok.inj h).symm⟩
  · split at h
    · cases h
    · cases h
  · split at h
    · exact .inr ⟨Int.not_lt.mp hfit, _, ‹_›, (Except.ok.inj h).symm⟩
    · cases h

/-- Labels have one length, whatever the number. -/
theorem length_of_label {g : Gutter} {number : Int} {label : Text}
    (h : g.label number = .ok label) : (label.length : Int) = g.width + g.suffix.length := by
  obtain ⟨hzero, rfl⟩ | ⟨hfit, c, -, rfl⟩ := eq_of_padded h
  · omega
  · simp only [List.length_append, List.length_replicate]
    omega

theorem blank_of_lt {g : Gutter} (h : Memory.maxRun < g.width + g.suffix.length) :
    ∃ cause, g.blank = .error (.length cause) := by
  have hpos := Memory.roomy
  unfold blank length
  dsimp only
  rw [if_neg (by omega)]
  cases Text.isWord (g.width + g.suffix.length) with
  | false => exact ⟨.notAWord, rfl⟩
  | true =>
    obtain ⟨cause, hcause⟩ := Text.exists_countError?_of_lt
      (show Memory.maxRun < ((g.width + g.suffix.length).toNat : Int) by omega)
    refine ⟨cause, ?_⟩
    rw [if_neg (by decide), Outcome.ok_bind, Text.spaces?, hcause, Outcome.mapError_error]

theorem forDocument_le (total : Int) {highest : Int}
    (hw : (Text.digitWidth highest : Int) + 2 ≤ Memory.maxRun) :
    0 ≤ (forDocument total highest).width ∧
      (forDocument total highest).width + (forDocument total highest).suffix.length ≤
        Memory.maxRun := by
  have hroomy := Memory.roomy
  by_cases ht : total ≤ 1
  · have h0 : empty.width + empty.suffix.length = 0 := rfl
    rw [forDocument, if_pos ht]
    exact ⟨by decide, by omega⟩
  · have h2 : ": ".toList.length = 2 := rfl
    rw [forDocument, if_neg ht]
    dsimp only
    omega

theorem length_forDocument (total : Int) {highest : Int}
    (hw : (Text.digitWidth highest : Int) + 2 ≤ Memory.maxRun) :
    (forDocument total highest).length = .ok (forDocument total highest).extent :=
  length_of_le (forDocument_le total hw).1 (forDocument_le total hw).2

theorem blank_forDocument (total : Int) {highest : Int}
    (hw : (Text.digitWidth highest : Int) + 2 ≤ Memory.maxRun) :
    (forDocument total highest).blank = .ok (Text.spaces (forDocument total highest).extent) :=
  blank_of_le (forDocument_le total hw).1 (forDocument_le total hw).2

end Gutter

end SyntaxReport
