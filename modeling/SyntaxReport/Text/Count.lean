import SyntaxReport.Text.Basic

/-! How often a character may be repeated. A count is a machine word, and there has to be room for
the run; counts below zero are allowed and repeat nothing. -/
namespace SyntaxReport

inductive CountError where
  | notAWord
  | tooMany
  deriving DecidableEq, Repr

namespace Text

/-- A signed machine word is below this number, and not below its negative. -/
def wordBound : Int := 0x8000000000000000

/-- Whether an integer fits a signed machine word. -/
def isWord (n : Int) : Bool :=
  decide (-wordBound ≤ n ∧ n < wordBound)

end Text

/-- The memory in which texts are written. How much of it there is depends on the machine; it has
room for short runs, and words can count what it holds. -/
class Memory where
  /-- The longest run of one character that there is room for. -/
  maxRun : Int
  roomy : 64 ≤ maxRun
  maxRun_lt : maxRun < Text.wordBound

/-- Where no memory is given, it is the largest that words can count. -/
instance Memory.largest : Memory where
  maxRun := Text.wordBound - 1
  roomy := by decide
  maxRun_lt := by decide

theorem Memory.maxRun_nonneg [Memory] : 0 ≤ Memory.maxRun :=
  Int.le_trans (by decide) Memory.roomy

namespace Text

variable [Memory]

/-- What is wrong with a count. -/
def countError? (n : Int) : Option CountError :=
  if !isWord n then some .notAWord
  else if Memory.maxRun < n then some .tooMany
  else none

/-- A run of spaces, unless the count is wrong. -/
def spaces? (count : Int) : Except CountError Text :=
  match countError? count with
  | some e => .error e
  | none => .ok (spaces count)

theorem countError?_eq_none_iff (n : Int) :
    countError? n = none ↔ -wordBound ≤ n ∧ n ≤ Memory.maxRun := by
  have hlt := Memory.maxRun_lt
  unfold countError? isWord
  by_cases hw : -wordBound ≤ n ∧ n < wordBound
  · by_cases hm : Memory.maxRun < n
    · simp only [hw, hm]
      simp
      omega
    · simp only [hw, hm]
      simp
      omega
  · simp only [hw]
    simp
    omega

theorem countError?_of_le {n : Int} (h0 : 0 ≤ n) (h : n ≤ Memory.maxRun) :
    countError? n = none := by
  have hb : 0 < wordBound := by decide
  exact (countError?_eq_none_iff n).mpr ⟨by omega, h⟩

theorem exists_countError?_of_lt {n : Int} (h : Memory.maxRun < n) :
    ∃ e, countError? n = some e := by
  cases he : countError? n with
  | some e => exact ⟨e, rfl⟩
  | none =>
    have hle := ((countError?_eq_none_iff n).mp he).2
    omega

theorem spaces?_of_le {count : Int} (h0 : 0 ≤ count) (h : count ≤ Memory.maxRun) :
    spaces? count = .ok (spaces count) := by
  rw [spaces?, countError?_of_le h0 h]

end Text

end SyntaxReport
