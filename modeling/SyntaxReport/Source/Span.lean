import SyntaxReport.Source.Position

/-! Spans: the inclusive range of offending positions. -/
namespace SyntaxReport

structure Span where
  start : Position
  stop : Position
  deriving DecidableEq, Repr

namespace Span

def ofTokens (start stop : Token) (source : Text) : Span :=
  ⟨.ofStart start, .ofStop stop source⟩

/-- The span with both ends valid and in order. One valid end stands for both, a start behind its
stop collapses onto the stop, and without a valid end there is no span. -/
def normalized (s : Span) : Option Span :=
  if s.start.IsValid then
    if s.stop.IsValid then
      if s.stop < s.start then some ⟨s.stop, s.stop⟩ else some s
    else some ⟨s.start, s.start⟩
  else if s.stop.IsValid then some ⟨s.stop, s.stop⟩
  else none

def describe (s : Span) : Text :=
  "SourceSpan(start=".toList ++ s.start.describe ++ ", stop=".toList ++ s.stop.describe ++ [')']

theorem normalized_eq_none_iff (s : Span) :
    s.normalized = none ↔ ¬ s.start.IsValid ∧ ¬ s.stop.IsValid := by
  unfold normalized
  split
  · next h => split <;> (try split) <;> simp [h]
  · split <;> simp [*]

theorem normalized_of_le {s : Span} (hstart : s.start.IsValid) (hstop : s.stop.IsValid)
    (hle : s.start ≤ s.stop) : s.normalized = some s := by
  rw [normalized, if_pos hstart, if_pos hstop, if_neg ((Position.not_lt _ _).mpr hle)]

theorem normalized_of_not_isValid {s : Span} (hstart : ¬ s.start.IsValid)
    (hstop : s.stop.IsValid) : s.normalized = some ⟨s.stop, s.stop⟩ := by
  rw [normalized, if_neg hstart, if_pos hstop]

/-- A normalised span is usable: both of its ends are valid and in order. -/
theorem isValid_of_normalized {s r : Span} (h : s.normalized = some r) :
    r.start.IsValid ∧ r.stop.IsValid ∧ r.start ≤ r.stop := by
  unfold normalized at h
  split at h
  · next hs =>
    split at h
    · next ht =>
      split at h
      · cases h; exact ⟨ht, ht, Position.le_refl _⟩
      · next hlt => cases h; exact ⟨hs, ht, (Position.not_lt _ _).mp hlt⟩
    · cases h; exact ⟨hs, hs, Position.le_refl _⟩
  · next hs =>
    split at h
    · next ht => cases h; exact ⟨ht, ht, Position.le_refl _⟩
    · cases h

end Span

end SyntaxReport
