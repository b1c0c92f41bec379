import SyntaxReport.Text.Literal

/-! How snippets are laid out, and the rules that a layout has to satisfy. -/
namespace SyntaxReport

structure Settings where
  /-- The distance between tab stops. -/
  tabSize : Int := 8
  /-- How many lines are shown above the first marked line. -/
  linesBefore : Int := 0
  /-- How many lines are shown below the last marked line. -/
  linesAfter : Int := 0
  /-- The text in front of every line of a snippet. -/
  margin : Text := [' ']
  /-- The character drawn under the offending columns. -/
  marker : Text := ['^']
  deriving DecidableEq, Repr

/-- A rule that settings break. -/
inductive SettingsFault where
  | tabSizeTooSmall
  | negativeLinesBefore
  | negativeLinesAfter
  | markerNotSingle (marker : Text)
  | breakInMargin
  deriving DecidableEq, Repr

namespace SettingsFault

def message : SettingsFault → Text
  | tabSizeTooSmall => "tab_size must be at least 1".toList
  | negativeLinesBefore => "lines_before must not be negative".toList
  | negativeLinesAfter => "lines_after must not be negative".toList
  | markerNotSingle marker => "marker must be a single character, got ".toList ++ marker.literal
  | breakInMargin => "prefix must not contain line breaks".toList

end SettingsFault

namespace Settings

structure Valid (s : Settings) : Prop where
  tabSize_pos : 1 ≤ s.tabSize
  linesBefore_nonneg : 0 ≤ s.linesBefore
  linesAfter_nonneg : 0 ≤ s.linesAfter
  marker_single : s.marker.length = 1
  margin_unbroken : '\n' ∉ s.margin ∧ '\r' ∉ s.margin

/-- The first rule that settings break, if any. -/
def fault? (s : Settings) : Option SettingsFault :=
  if s.tabSize < 1 then some .tabSizeTooSmall
  else if s.linesBefore < 0 then some .negativeLinesBefore
  else if s.linesAfter < 0 then some .negativeLinesAfter
  else if s.marker.length ≠ 1 then some (.markerNotSingle s.marker)
  else if '\n' ∈ s.margin ∨ '\r' ∈ s.margin then some .breakInMargin
  else none

/-- The settings themselves, if they break no rule. -/
def check (s : Settings) : Except SettingsFault Settings :=
  match s.fault? with
  | some f => .error f
  | none => .ok s

theorem fault?_eq_none_iff (s : Settings) : s.fault? = none ↔ s.Valid := by
  unfold fault?
  constructor
  · intro h
    split at h
    · cases h
    split at h
    · cases h
    split at h
    · cases h
    split at h
    · cases h
    split at h
    · cases h
    next h1 h2 h3 h4 h5 =>
    exact ⟨by omega, by omega, by omega, Decidable.not_not.mp h4, not_or.mp h5⟩
  · intro v
    have h1 := v.tabSize_pos
    have h2 := v.linesBefore_nonneg
    have h3 := v.linesAfter_nonneg
    rw [if_neg (by omega), if_neg (by omega), if_neg (by omega), if_neg (by simp [v.marker_single]),
      if_neg (not_or.mpr v.margin_unbroken)]

theorem check_eq_ok_iff (s r : Settings) : s.check = .ok r ↔ r = s ∧ s.Valid := by
  unfold check
  rw [← fault?_eq_none_iff]
  cases s.fault? with
  | none => simp [eq_comm]
  | some f => simp

theorem valid_default : Valid {} := by
  refine ⟨?_, ?_, ?_, ?_, ?_⟩ <;> decide

end Settings

end SyntaxReport
