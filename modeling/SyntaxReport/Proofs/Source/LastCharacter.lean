import SyntaxReport.Proofs.Snippet.Unlocated
import SyntaxReport.Proofs.Source.Offsets

/-! The last character of a token. The scan over a token ends in the row of its last character, and
its column there is the true one, less the carriage returns that it passed in that row. Where it
passed none, the character stands at the column that it reports, in the piece with that number. -/
namespace SyntaxReport

open Line (rowOf columnOf)

namespace Line

/-- The carriage returns among the characters from `b` on that stand before `e` in its row. -/
def returnsBefore (t : Text) (b e : Nat) : Nat :=
  (((t.drop b).take (e - b)).reverse.takeWhile (· != '\n')).count '\r'

theorem take_eq_append {b e : Nat} (t : Text) (hbe : b ≤ e) :
    t.take e = t.take b ++ (t.drop b).take (e - b) := by
  have hadd := List.take_add (l := t) (i := b) (j := e - b)
  rwa [Nat.add_sub_cancel' hbe] at hadd

theorem rowOf_eq_add {b e : Nat} (t : Text) (hbe : b ≤ e) :
    rowOf t e = rowOf t b + ((t.drop b).take (e - b)).count '\n' := by
  unfold rowOf
  rw [take_eq_append t hbe, List.count_append]

theorem columnOf_eq_add {b e : Nat} (t : Text) (hbe : b ≤ e) :
    columnOf t e =
      (if '\n' ∈ (t.drop b).take (e - b) then 0 else columnOf t b) +
        (((t.drop b).take (e - b)).reverse.takeWhile (· != '\n')).length := by
  unfold columnOf
  rw [take_eq_append t hbe, length_takeWhile_reverse_append, Nat.add_comm]

end Line

namespace Position

/-- Behind the last line feed of a text every character takes a column, except for the returns. -/
theorem tailColumns_add_count (t : Text) :
    tailColumns t + (t.reverse.takeWhile (· != '\n')).count '\r' =
      (t.reverse.takeWhile (· != '\n')).length := by
  have hsplit := List.length_eq_countP_add_countP (· != '\r')
    (l := t.reverse.takeWhile (· != '\n'))
  rw [hsplit, tailColumns, List.count]
  congr 1
  apply List.countP_congr
  intro c _
  simp

variable {source : Text} {t : Token} {b e : Nat}

theorem line_ofStop (h : t.StandsAt source b) (heof : t.isEof = false) (htext : t.text? = none)
    (hlast : t.last = e) (hbe : b ≤ e) (he : e < source.length) :
    (ofStop t source).line = 1 + (rowOf source e : Int) := by
  have hrow := Line.rowOf_eq_add source hbe
  rw [ofStop_eq_foldl h heof htext hlast hbe he, foldl_step_eq, hrow]
  unfold ofOffset
  dsimp only
  omega

theorem column_ofStop (h : t.StandsAt source b) (heof : t.isEof = false) (htext : t.text? = none)
    (hlast : t.last = e) (hbe : b ≤ e) (he : e < source.length) :
    (ofStop t source).column = (columnOf source e : Int) - Line.returnsBefore source b e := by
  have hcolumn := Line.columnOf_eq_add source hbe
  have htail := tailColumns_add_count ((source.drop b).take (e - b))
  rw [ofStop_eq_foldl h heof htext hlast hbe he, foldl_step_eq, hcolumn]
  unfold ofOffset Line.returnsBefore
  dsimp only
  -- the column starts anew behind a line feed, in the scan as in the source
  split_ifs
  · omega
  · omega

/-- The scan finds the last character of a token: its row, and its column but for carriage returns
of the token before it in that row. -/
theorem ofStop_finds_last (h : t.StandsAt source b) (heof : t.isEof = false)
    (htext : t.text? = none) (hlast : t.last = e) (hbe : b ≤ e) (he : e < source.length) :
    (ofStop t source).line = 1 + ((source.take e).count '\n' : Nat) ∧
    (ofStop t source).column = (columnOf source e : Int) - Line.returnsBefore source b e ∧
    (Line.returnsBefore source b e = 0 → ¬ Line.InBreak source e →
      ∃ piece, (Line.pieces source)[(ofStop t source).line0.toNat]? = some piece ∧
        piece[(ofStop t source).column.toNat]? = some source[e]) := by
  have hline := line_ofStop h heof htext hlast hbe he
  have hcolumn := column_ofStop h heof htext hlast hbe he
  refine ⟨hline, hcolumn, ?_⟩
  intro hreturns hbreak
  have hrow0 : (ofStop t source).line0.toNat = rowOf source e := by
    unfold line0
    omega
  have hcolumn0 : (ofStop t source).column.toNat = columnOf source e := by omega
  -- every row has its piece
  have hlt : rowOf source e < (Line.pieces source).length := by
    rw [Line.length_pieces]
    exact Nat.lt_succ_of_le (Line.rowOf_le_countBreaks source e)
  have hpiece := List.getElem?_eq_getElem hlt
  have hinside := Line.columnOf_lt_length he hbreak hpiece
  rw [hrow0, hcolumn0]
  exact ⟨_, hpiece, Line.getElem?_piece (List.getElem?_eq_getElem he) hpiece hinside⟩

/-- A return in the row of the last character takes no column. The one of a break in front of that
row does not matter, and the character is found in its piece. -/
theorem ofStop_finds_last_behind_return :
    (({ line := 2, first := 3, last := 7 } : Token).StandsAt "x\r\nab\rcd\r\ny".toList 3 ∧
      Line.returnsBefore "x\r\nab\rcd\r\ny".toList 3 7 = 1 ∧
      (ofStop { line := 2, first := 3, last := 7 } "x\r\nab\rcd\r\ny".toList).line = 2 ∧
      (ofStop { line := 2, first := 3, last := 7 } "x\r\nab\rcd\r\ny".toList).column = 4 - 1) ∧
    ({ first := 0, last := 4 } : Token).StandsAt "x\r\nab\rcd\r\ny".toList 0 ∧
      ¬ Line.InBreak "x\r\nab\rcd\r\ny".toList 4 ∧
      ∃ piece, (Line.pieces "x\r\nab\rcd\r\ny".toList)[(ofStop { first := 0, last := 4 }
          "x\r\nab\rcd\r\ny".toList).line0.toNat]? = some piece ∧
        piece[(ofStop { first := 0, last := 4 } "x\r\nab\rcd\r\ny".toList).column.toNat]? =
          some 'b' := by
  have hfirst : ({ line := 2, first := 3, last := 7 } : Token).StandsAt
      "x\r\nab\rcd\r\ny".toList 3 := ⟨rfl, rfl, rfl⟩
  have hsecond : ({ first := 0, last := 4 } : Token).StandsAt "x\r\nab\rcd\r\ny".toList 0 :=
    ⟨rfl, rfl, rfl⟩
  have hbreak : ¬ Line.InBreak "x\r\nab\rcd\r\ny".toList 4 := by
    unfold Line.InBreak
    decide
  obtain ⟨hline, hcolumn, -⟩ :=
    ofStop_finds_last (e := 7) hfirst rfl rfl rfl (by decide) (by decide)
  obtain ⟨-, -, hpiece⟩ := ofStop_finds_last (e := 4) hsecond rfl rfl rfl (by decide) (by decide)
  exact ⟨⟨hfirst, by decide, hline, hcolumn⟩, hsecond, hbreak, hpiece (by decide) hbreak⟩

end Position

end SyntaxReport
