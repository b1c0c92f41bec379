import SyntaxReport.Proofs.Line.Pieces

/-! Positions of offsets. The position of an offset counts the line feeds before it and the
characters since the last of them, so positions are ordered as the offsets are. The scan over a
token follows the offsets one by one, except that it waits in front of a carriage return. -/
namespace SyntaxReport

open Line (rowOf columnOf PairedReturns)

namespace Position

/-- The position of an offset of the source. -/
def ofOffset (source : Text) (i : Nat) : Position :=
  ⟨(rowOf source i : Int) + 1, columnOf source i⟩

theorem isValid_ofOffset (source : Text) (i : Nat) : (ofOffset source i).IsValid := by
  unfold ofOffset IsValid
  dsimp only
  omega

theorem line0_ofOffset (source : Text) (i : Nat) : (ofOffset source i).line0 = rowOf source i := by
  unfold ofOffset line0
  dsimp only
  omega

theorem lt_trans {p q r : Position} (hpq : p < q) (hqr : q < r) : p < r := by
  rw [lt_iff] at *
  omega

theorem line0_mono {p q : Position} (h : p ≤ q) : p.line0 ≤ q.line0 := by
  rw [le_iff] at h
  unfold line0
  omega

variable {source : Text} {i j : Nat} {c : Char}

theorem ofOffset_succ (h : source[i]? = some c) :
    ofOffset source (i + 1) =
      if c = '\n' then ⟨(ofOffset source i).line + 1, 0⟩
      else ⟨(ofOffset source i).line, (ofOffset source i).column + 1⟩ := by
  unfold ofOffset
  rw [Line.rowOf_succ h, Line.columnOf_succ h]
  split_ifs <;> simp

theorem ofOffset_lt_succ (hi : i < source.length) :
    ofOffset source i < ofOffset source (i + 1) := by
  rw [ofOffset_succ (List.getElem?_eq_getElem hi), lt_iff]
  split_ifs
  · left
    dsimp only
    omega
  · right
    dsimp only
    omega

theorem ofOffset_lt (hij : i < j) (hj : j ≤ source.length) :
    ofOffset source i < ofOffset source j := by
  induction j with
  | zero => omega
  | succ j ih =>
    have hstep := ofOffset_lt_succ (show j < source.length by omega)
    rcases Nat.lt_or_ge i j with hlt | hge
    · exact lt_trans (ih hlt (by omega)) hstep
    · have he : i = j := by omega
      rw [he]
      exact hstep

/-- Positions are ordered as the offsets are. -/
theorem ofOffset_le_iff (hi : i ≤ source.length) (hj : j ≤ source.length) :
    ofOffset source i ≤ ofOffset source j ↔ i ≤ j := by
  rw [← not_lt]
  constructor
  · intro h
    by_contra hlt
    exact h (ofOffset_lt (by omega) hi)
  · intro hij hlt
    rcases Nat.lt_or_eq_of_le hij with h | h
    · have hcycle := lt_trans hlt (ofOffset_lt h hj)
      rw [lt_iff] at hcycle
      omega
    · rw [h, lt_iff] at hlt
      omega

/-- The offset that a scan from `b` reports when it has come to `e`: behind a carriage return it
still reports the return. -/
def scanned (source : Text) (b e : Nat) : Nat :=
  if b < e ∧ source[e - 1]? = some '\r' then e - 1 else e

theorem scanned_of_return {b : Nat} (hb : b ≤ i) (h : source[i]? = some '\r') :
    scanned source b (i + 1) = i :=
  if_pos ⟨Nat.lt_succ_of_le hb, h⟩

theorem scanned_of_not_return {b : Nat} (h : source[i]? ≠ some '\r') :
    scanned source b (i + 1) = i + 1 :=
  if_neg fun he => h he.2

theorem step_scanned (hr : PairedReturns source) {b : Nat} (hb : b ≤ i) (h : source[i]? = some c) :
    step (ofOffset source (scanned source b i)) c =
      ofOffset source (scanned source b (i + 1)) := by
  by_cases hwait : b < i ∧ source[i - 1]? = some '\r'
  · -- the scan waits at a carriage return, so this is the line feed behind it
    obtain ⟨k, rfl⟩ := Nat.exists_eq_succ_of_ne_zero (show i ≠ 0 by omega)
    have hk : source[k]? = some '\r' := hwait.2
    have hc : c = '\n' := by
      have hn := hr k hk
      rw [Nat.succ_eq_add_one, hn] at h
      exact (Option.some.inj h).symm
    have hnext : source[k + 1]? ≠ some '\r' := by
      rw [hr k hk]
      decide
    rw [Nat.succ_eq_add_one, scanned_of_return (by omega) hk, scanned_of_not_return hnext,
      ofOffset_succ (hr k hk), ofOffset_succ hk, hc]
    rfl
  · have hi : scanned source b i = i := if_neg hwait
    rw [hi]
    by_cases hc : c = '\r'
    · -- from here on the scan waits
      rw [hc] at h ⊢
      rw [scanned_of_return hb h]
      rfl
    · have hne : source[i]? ≠ some '\r' := by
        rw [h]
        exact fun he => hc (Option.some.inj he)
      rw [scanned_of_not_return hne, ofOffset_succ h, step, if_neg hc]

/-- The scan over the characters from `b` on. -/
theorem foldl_step_take (hr : PairedReturns source) {b n : Nat} (hn : b + n ≤ source.length) :
    ((source.drop b).take n).foldl step (ofOffset source b) =
      ofOffset source (scanned source b (b + n)) := by
  -- one character after the other; what is reported so far is the position of `scanned`
  induction n with
  | zero =>
    have hb : scanned source b b = b := if_neg fun h => absurd h.1 (by omega)
    rw [List.take_zero, List.foldl_nil, Nat.add_zero, hb]
  | succ n ih =>
    have hi : b + n < source.length := by omega
    have hc : (source.drop b)[n]? = some source[b + n] := by
      rw [List.getElem?_drop, List.getElem?_eq_getElem hi]
    rw [List.take_add_one, hc, Option.toList_some, List.foldl_append, ih (by omega),
      List.foldl_cons, List.foldl_nil]
    exact step_scanned hr (by omega) (List.getElem?_eq_getElem hi)

end Position

/-- The token has the true location of the offset it starts at. -/
structure Token.StandsAt (t : Token) (source : Text) (i : Nat) : Prop where
  first_eq : t.first = i
  line_eq : t.line = (rowOf source i : Int) + 1
  column_eq : t.column = columnOf source i

namespace Position

variable {source : Text} {t : Token} {b e : Nat}

theorem ofStart_of_standsAt (h : t.StandsAt source b) : ofStart t = ofOffset source b := by
  unfold ofStart ofOffset
  rw [h.line_eq, h.column_eq]

/-- The scan looks at all characters of the token but the last one. -/
theorem dropLast_textIn (h : t.StandsAt source b) (htext : t.text? = none) (hlast : t.last = e)
    (hbe : b ≤ e) (he : e < source.length) :
    (t.textIn source).dropLast = (source.drop b).take (e - b) := by
  have hs : ¬ ((b : Int) < 0 ∨ (e : Int) < b) := by omega
  have hn : ((e : Int) + 1 - b).toNat = e - b + 1 := by omega
  rw [Token.textIn, htext, h.first_eq, hlast]
  dsimp only
  rw [if_neg hs, Token.slice, hn, Int.toNat_natCast, List.dropLast_eq_take, List.take_take,
    List.length_take, List.length_drop]
  congr 1
  omega

theorem ofStop_eq_foldl (h : t.StandsAt source b) (heof : t.isEof = false) (htext : t.text? = none)
    (hlast : t.last = e) (hbe : b ≤ e) (he : e < source.length) :
    ofStop t source = ((source.drop b).take (e - b)).foldl step (ofOffset source b) := by
  rw [ofStop, heof, if_neg Bool.false_ne_true, dropLast_textIn h htext hlast hbe he,
    ofStart_of_standsAt h]

theorem ofStop_of_standsAt (hr : PairedReturns source) (h : t.StandsAt source b)
    (heof : t.isEof = false) (htext : t.text? = none) (hlast : t.last = e) (hbe : b ≤ e)
    (he : e < source.length) : ofStop t source = ofOffset source (scanned source b e) := by
  have hfold := foldl_step_take hr (show b + (e - b) ≤ source.length by omega)
  rw [Nat.add_sub_cancel' hbe] at hfold
  rw [ofStop_eq_foldl h heof htext hlast hbe he, hfold]

theorem scanned_le (source : Text) (b e : Nat) : scanned source b e ≤ e := by
  unfold scanned
  split_ifs <;> omega

theorem rowOf_scanned (source : Text) (b e : Nat) :
    rowOf source (scanned source b e) = rowOf source e := by
  unfold scanned
  split_ifs with h
  · -- a carriage return does not end a row
    obtain ⟨k, rfl⟩ := Nat.exists_eq_succ_of_ne_zero (show e ≠ 0 by omega)
    have hk : source[k]? = some '\r' := h.2
    rw [Nat.succ_eq_add_one, Nat.add_sub_cancel, Line.rowOf_succ hk]
    rfl
  · rfl

/-- What the scan leaves out is a line feed, so between the same offsets stand the same characters
outside of breaks. -/
theorem between_scanned_iff (hr : PairedReturns source) {a i : Nat} {c : Char} (hae : a ≤ e)
    (hi : source[i]? = some c) (hfeed : c ≠ '\n') (hreturn : c ≠ '\r') :
    min a (scanned source b e) ≤ i ∧ i ≤ scanned source b e ↔ a ≤ i ∧ i ≤ e := by
  unfold scanned
  split_ifs with h
  · -- the return at `k` is reported, the line feed behind it is left out, and `i` is neither
    obtain ⟨k, rfl⟩ := Nat.exists_eq_succ_of_ne_zero (show e ≠ 0 by omega)
    have hk : source[k]? = some '\r' := h.2
    have hik : i ≠ k := by
      rintro rfl
      rw [hi] at hk
      exact hreturn (Option.some.inj hk)
    have hie : i ≠ k + 1 := by
      rintro rfl
      rw [hr k hk] at hi
      exact hfeed (Option.some.inj hi).symm
    omega
  · omega

end Position

namespace Span

/-- The span between two offsets of the source. -/
def ofOffsets (source : Text) (i j : Nat) : Span :=
  ⟨.ofOffset source i, .ofOffset source j⟩

/-- The span of two tokens is one between offsets. A start on the line feed that the scan leaves out
collapses onto the carriage return. -/
theorem normalized_ofTokens {source : Text} {start stop : Token} {a b e : Nat}
    (hr : PairedReturns source) (hstart : start.StandsAt source a) (hstop : stop.StandsAt source b)
    (heof : stop.isEof = false) (htext : stop.text? = none) (hlast : stop.last = e) (hae : a ≤ e)
    (hbe : b ≤ e) (he : e < source.length) :
    (ofTokens start stop source).normalized =
      some (ofOffsets source (min a (Position.scanned source b e))
        (Position.scanned source b e)) := by
  have hle := Position.scanned_le source b e
  have hlt : Position.ofOffset source (Position.scanned source b e) < Position.ofOffset source a ↔
      ¬ a ≤ Position.scanned source b e := by
    have hiff := Position.ofOffset_le_iff (show a ≤ source.length by omega)
      (show Position.scanned source b e ≤ source.length by omega)
    rw [← hiff, ← Position.not_lt, Decidable.not_not]
  rw [ofTokens, Position.ofStart_of_standsAt hstart,
    Position.ofStop_of_standsAt hr hstop heof htext hlast hbe he, normalized]
  dsimp only
  rw [if_pos (Position.isValid_ofOffset source a), if_pos (Position.isValid_ofOffset source _)]
  by_cases h : a ≤ Position.scanned source b e
  · rw [if_neg (fun hn => hlt.mp hn h), Nat.min_eq_left h, ofOffsets]
  · rw [if_pos (hlt.mpr h), Nat.min_eq_right (by omega), ofOffsets]

end Span

end SyntaxReport
