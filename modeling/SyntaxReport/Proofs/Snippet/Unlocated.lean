import Mathlib.Data.List.Induction
import Mathlib.Tactic.SplitIfs
import SyntaxReport.Snippet.Formatter

/-! Tokens without a usable location. Where a token stops is found by a scan over its characters,
and the scan starts at the token's own position even if that is not valid. Its lines and columns may
then lead to a valid position, which stands for the whole token; only if they do not, the text for a
missing location is given. -/
namespace SyntaxReport

namespace Position

/-- How many columns a text takes behind its last line feed; carriage returns take none. -/
def tailColumns (t : Text) : Nat :=
  (t.reverse.takeWhile (· != '\n')).countP (· != '\r')

theorem tailColumns_concat (t : Text) (c : Char) :
    tailColumns (t ++ [c]) =
      if c = '\n' then 0 else if c = '\r' then tailColumns t else tailColumns t + 1 := by
  unfold tailColumns
  rw [List.reverse_append, List.reverse_singleton, List.singleton_append, List.takeWhile_cons]
  by_cases hn : c = '\n'
  · simp [hn]
  · by_cases hr : c = '\r'
    · simp [hr]
    · simp [hn, hr]

/-- A scan counts the line feeds, and its column starts anew behind each of them. -/
theorem foldl_step_eq (p : Position) (t : Text) :
    t.foldl step p =
      ⟨p.line + t.count '\n', (if '\n' ∈ t then 0 else p.column) + tailColumns t⟩ := by
  induction t using List.reverseRecOn with
  | nil => simp [tailColumns]
  | append_singleton t c ih =>
    rw [List.foldl_append, List.foldl_cons, List.foldl_nil, ih, tailColumns_concat, step,
      List.count_append, List.count_singleton]
    -- the last character decides: a return changes nothing, a feed starts a line
    by_cases hr : c = '\r'
    · simp [hr]
    · by_cases hn : c = '\n'
      · simp [hn, Int.add_assoc]
      · simp [hr, hn, Ne.symm hn, Int.add_assoc]

end Position

open Position (ofStart ofStop tailColumns)

/-- The scan over all but the last character of the token ends at a valid position, although the
token's own position is not valid. -/
structure Token.LeadsIntoSource (t : Token) (source : Text) : Prop where
  not_eof : t.isEof = false
  line : 1 ≤ t.line + ((t.textIn source).dropLast.count '\n' : Nat)
  column : '\n' ∉ (t.textIn source).dropLast →
    0 ≤ t.column + (tailColumns (t.textIn source).dropLast : Nat)

theorem Position.isValid_ofStop_iff {t : Token} (h : ¬ (ofStart t).IsValid) (source : Text) :
    (ofStop t source).IsValid ↔ t.LeadsIntoSource source := by
  cases heof : t.isEof with
  | true =>
    -- the end of input is not scanned, so its position stays what it is
    have hstop : ofStop t source = ofStart t := by rw [ofStop, heof, if_pos rfl]
    rw [hstop]
    constructor
    · intro hv
      exact absurd hv h
    · intro hl
      have hf := hl.not_eof
      rw [heof] at hf
      cases hf
  | false =>
    have hstop : ofStop t source = (t.textIn source).dropLast.foldl step (ofStart t) := by
      rw [ofStop, heof, if_neg Bool.false_ne_true]
    rw [hstop, foldl_step_eq]
    unfold IsValid ofStart
    dsimp only
    constructor
    · rintro ⟨hline, hcolumn⟩
      refine ⟨heof, hline, fun hn => ?_⟩
      rwa [if_neg hn] at hcolumn
    · rintro ⟨-, hline, hcolumn⟩
      refine ⟨hline, ?_⟩
      split_ifs with hn
      · omega
      · exact hcolumn hn

namespace Formatter

variable {settings : Settings} {source : Text} {token : Token}

section

variable [Memory]

/-- Between positions that are not valid the text for a missing location stands. -/
theorem format_of_not_isValid {start stop : Token} (hstart : ¬ (ofStart start).IsValid)
    (hstop : ¬ (ofStop stop source).IsValid) (cause : Option Failure) :
    (standard settings).format start stop source cause = .ok (cause.elim [] Failure.text) := by
  have hnone : (Span.ofTokens start stop source).normalized = none :=
    (Span.normalized_eq_none_iff _).mpr ⟨hstart, hstop⟩
  rw [format, render, hnone]
  rfl

theorem format_of_not_leadsIntoSource (h : ¬ (ofStart token).IsValid)
    (hl : ¬ token.LeadsIntoSource source) (cause : Option Failure) :
    (standard settings).format token token source cause =
      .ok (cause.elim [] Failure.text) := by
  apply format_of_not_isValid h
  intro hv
  exact hl ((Position.isValid_ofStop_iff h source).mp hv)

/-- A token that leads into the source is shown as the single position where it stops. -/
theorem format_of_leadsIntoSource (h : ¬ (ofStart token).IsValid)
    (hl : token.LeadsIntoSource source) (cause : Option Failure) :
    (standard settings).format token token source cause =
      (standard settings).render ⟨ofStop token source, ofStop token source⟩ source none := by
  have hstop : (ofStop token source).IsValid := (Position.isValid_ofStop_iff h source).mpr hl
  have hspan : (Span.ofTokens token token source).normalized =
      some ⟨ofStop token source, ofStop token source⟩ :=
    Span.normalized_of_not_isValid h hstop
  have hpoint : (⟨ofStop token source, ofStop token source⟩ : Span).normalized =
      some ⟨ofStop token source, ofStop token source⟩ :=
    Span.normalized_of_le hstop hstop (Position.le_refl _)
  rw [format, render, hspan, render, hpoint]

/-- A token whose own position is not valid falls back to the text for a missing location exactly if
the scan over its characters does not lead into the source. -/
theorem format_unlocated (h : ¬ (ofStart token).IsValid) :
    ((∀ cause, (standard settings).format token token source cause =
        .ok (cause.elim [] Failure.text)) ↔ ¬ token.LeadsIntoSource source) ∧
      (token.LeadsIntoSource source → ∀ cause,
        (standard settings).format token token source cause =
          (standard settings).render ⟨ofStop token source, ofStop token source⟩ source none) := by
  refine ⟨⟨fun hfall hl => ?_, format_of_not_leadsIntoSource h⟩, format_of_leadsIntoSource h⟩
  -- what is shown does not depend on the cause, while the text for a missing location does
  have hnone := hfall none
  have hsome := hfall (some (.plain ['?']))
  rw [format_of_leadsIntoSource h hl] at hnone hsome
  rw [hnone] at hsome
  cases hsome

end

/-- Characters that only move the column on an invalid line lead nowhere. -/
theorem format_unlocated_on_no_line :
    ¬ (ofStart { line := 0, column := -1, lexeme := some { text := some "ab".toList } }).IsValid ∧
      ∀ cause, (standard {}).format
          { line := 0, column := -1, lexeme := some { text := some "ab".toList } }
          { line := 0, column := -1, lexeme := some { text := some "ab".toList } }
          "xy".toList cause =
        .ok (cause.elim [] Failure.text) := by
  refine ⟨by decide, (format_unlocated (by decide)).1.mpr fun hl => ?_⟩
  have hline := hl.line
  revert hline
  decide

/-- A line feed leads from the invalid line zero to the first line of the source. -/
theorem format_unlocated_shows_line :
    ¬ (ofStart { line := 0, column := -1, lexeme := some { text := some "a\nb".toList } }).IsValid ∧
      (standard {}).format
          { line := 0, column := -1, lexeme := some { text := some "a\nb".toList } }
          { line := 0, column := -1, lexeme := some { text := some "a\nb".toList } }
          "xy".toList none =
        .ok " xy\n ^\n".toList ∧
      " xy\n ^\n".toList ≠ (none : Option Failure).elim [] Failure.text :=
  ⟨by decide, by decide +kernel, by decide⟩

end Formatter

end SyntaxReport
