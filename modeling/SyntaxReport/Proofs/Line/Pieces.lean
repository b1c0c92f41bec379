import Mathlib.Data.List.TakeWhile
import SyntaxReport.Snippet.Formatter

/-! The lines of a source as parts of its text. Splitting at every break gives one piece more than
there are line feeds; the lines of a document are the first of these pieces, so that a line's number
is the number of line feeds before it. A character has a row, the number of line feeds before it,
and a column, the number of characters since the last of them; where its column lies inside the
piece of its row, it is the character of the piece there. Lines without breaks that are joined by
line feeds are the pieces of the joined text. -/
namespace SyntaxReport

theorem Sequence.length_takeWhile_eq_iff {α : Type} {p : α → Bool} {xs : List α} :
    (xs.takeWhile p).length = xs.length ↔ ∀ x ∈ xs, p x = true := by
  constructor
  · intro h
    have he := ( List.takeWhile_prefix p (l := xs)).eq_of_length h
    exact List.takeWhile_eq_self_iff.mp he
  · intro h
    rw [List.takeWhile_eq_self_iff.mpr h]

namespace Line

theorem length_pieces (t : Text) : (pieces t).length = countBreaks t + 1 := by
  unfold countBreaks
  fun_induction pieces t with
  | case1 => rfl
  | case2 rest ih => simp [ih]
  | case3 rest _ ih => simp [ih]
  | case4 c rest _ hc ih =>
    rw [length_consFirst c (pieces_ne_nil rest), ih, List.count_cons_of_ne hc]

theorem not_mem_consFirst {c d : Char} {ls : List Text} (h : ∀ l ∈ ls, d ∉ l) (hc : d ≠ c) :
    ∀ l ∈ consFirst c ls, d ∉ l := by
  intro l hl
  cases ls with
  | nil =>
    rw [consFirst, List.mem_singleton] at hl
    rw [hl, List.mem_singleton]
    exact hc
  | cons m rest =>
    rcases List.mem_cons.mp hl with rfl | hr
    · rw [List.mem_cons, not_or]
      exact ⟨hc, h m List.mem_cons_self⟩
    · exact h l (List.mem_cons_of_mem m hr)

theorem newline_not_mem_pieces (t : Text) : ∀ l ∈ pieces t, '\n' ∉ l := by
  fun_induction pieces t with
  | case1 => simp
  | case2 rest ih => simpa using ih
  | case3 rest _ ih => simpa using ih
  | case4 c rest _ hc ih => exact not_mem_consFirst ih (Ne.symm hc)

theorem pieces_cons {c : Char} {rest : Text} (hc : c ≠ '\n')
    (h : c = '\r' → rest.head? ≠ some '\n') : pieces (c :: rest) = consFirst c (pieces rest) := by
  rw [pieces]
  · rw [if_neg hc]
  · rintro rest' rfl rfl
    exact h rfl rfl

/-- The text holds no break, and at its end no first half of one. -/
def Unbroken (t : Text) : Prop :=
  '\n' ∉ t ∧ t.getLast? ≠ some '\r'

theorem pieces_of_not_mem {t : Text} (h : '\n' ∉ t) : pieces t = [t] := by
  induction t with
  | nil => rfl
  | cons c rest ih =>
    rw [List.mem_cons, not_or] at h
    have hhead : rest.head? ≠ some '\n' := fun hr => h.2 (List.mem_of_head? hr)
    rw [pieces_cons (Ne.symm h.1) fun _ => hhead, ih h.2, consFirst]

theorem pieces_append_feed {l : Text} (h : Unbroken l) (t : Text) :
    pieces (l ++ '\n' :: t) = l :: pieces t := by
  obtain ⟨hfeed, hreturn⟩ := h
  induction l with
  | nil =>
    rw [List.nil_append, pieces]
    · rfl
    · intro _ hc
      cases hc
  | cons c rest ih =>
    rw [List.mem_cons, not_or] at hfeed
    -- a return is followed by a character of the line, which is no line feed
    have hhead : c = '\r' → (rest ++ '\n' :: t).head? ≠ some '\n' := by
      rintro rfl
      cases rest with
      | nil => exact absurd rfl hreturn
      | cons d rest =>
        intro hd
        exact hfeed.2 (by rw [← Option.some.inj hd]; exact List.mem_cons_self)
    have hrest : rest.getLast? ≠ some '\r' := by
      intro hr
      apply hreturn
      rw [List.getLast?_cons, hr]
      rfl
    rw [List.cons_append, pieces_cons (Ne.symm hfeed.1) hhead, ih hfeed.2 hrest, consFirst]

/-- Lines that are joined by line feeds are read back. -/
theorem pieces_joined {lines : List Text} (hne : lines ≠ []) (h : ∀ l ∈ lines, Unbroken l) :
    pieces (Text.joined ['\n'] lines) = lines := by
  induction lines with
  | nil => exact absurd rfl hne
  | cons l rest ih =>
    have hl := h l List.mem_cons_self
    cases rest with
    | nil => exact pieces_of_not_mem hl.1
    | cons m rest =>
      have hr := ih (List.cons_ne_nil m rest) fun l' hl' => h l' (List.mem_cons_of_mem l hl')
      rw [Text.joined, List.append_assoc, List.singleton_append, pieces_append_feed hl, hr]
      exact List.cons_ne_nil m rest

/-- Every carriage return of the text belongs to a break. -/
def PairedReturns (t : Text) : Prop :=
  ∀ i, t[i]? = some '\r' → t[i + 1]? = some '\n'

theorem PairedReturns.tail {c : Char} {t : Text} (h : PairedReturns (c :: t)) :
    PairedReturns t := by
  intro i hi
  have hn := h (i + 1)
  rw [List.getElem?_cons_succ, List.getElem?_cons_succ] at hn
  exact hn hi

theorem PairedReturns.not_mem_pieces {t : Text} (h : PairedReturns t) :
    ∀ l ∈ pieces t, '\r' ∉ l := by
  fun_induction pieces t with
  | case1 => simp
  | case2 rest ih => simpa using ih h.tail.tail
  | case3 rest _ ih => simpa using ih h.tail
  | case4 c rest hp hc ih =>
    -- a carriage return here is followed by a line feed, which is the case of a break
    refine not_mem_consFirst (ih h.tail) ?_
    rintro rfl
    have hn := h 0 rfl
    rw [List.getElem?_cons_succ] at hn
    obtain ⟨rest', rfl⟩ : ∃ rest', rest = '\n' :: rest' := by
      cases rest with
      | nil => cases hn
      | cons d rest' =>
        rw [List.getElem?_cons_zero] at hn
        exact ⟨rest', by rw [Option.some.inj hn]⟩
    exact hp rest' rfl rfl

theorem exists_split_append (t : Text) : ∃ m, split t ++ List.replicate m [] = pieces t := by
  unfold split
  cases hp : pieces t with
  | nil => exact absurd hp (pieces_ne_nil t)
  | cons l rest =>
    -- only empty pieces at the end are missing from the lines
    obtain ⟨tail, htail, hempty⟩ := Sequence.dropTrailing_append_tail List.isEmpty rest
    have hr : tail = List.replicate tail.length [] := by
      rw [List.eq_replicate_iff]
      exact ⟨rfl, fun x hx => List.isEmpty_iff.mp (hempty x hx)⟩
    refine ⟨tail.length, ?_⟩
    rw [← hr, List.cons_append, htail]

/-- The row of an offset: how many line feeds stand before it. -/
def rowOf (t : Text) (i : Nat) : Nat :=
  (t.take i).count '\n'

/-- The column of an offset: how many characters stand between the last line feed before it and
the offset. -/
def columnOf (t : Text) (i : Nat) : Nat :=
  ((t.take i).reverse.takeWhile (· != '\n')).length

theorem rowOf_zero (t : Text) : rowOf t 0 = 0 := rfl

theorem columnOf_zero (t : Text) : columnOf t 0 = 0 := rfl

theorem rowOf_cons_succ (c : Char) (t : Text) (i : Nat) :
    rowOf (c :: t) (i + 1) = rowOf t i + if c = '\n' then 1 else 0 := by
  simp [rowOf, List.count_cons]

/-- Behind the last line feed of a text stand the characters of its second part, and those of the
first part too if the second has no line feed. -/
theorem length_takeWhile_reverse_append (u v : Text) :
    ((u ++ v).reverse.takeWhile (· != '\n')).length = (v.reverse.takeWhile (· != '\n')).length +
      if '\n' ∈ v then 0 else (u.reverse.takeWhile (· != '\n')).length := by
  have hback : (v.reverse.takeWhile (· != '\n')).length = v.reverse.length ↔ '\n' ∉ v := by
    rw [Sequence.length_takeWhile_eq_iff]
    constructor
    · intro hall hm
      have hne := hall '\n' (List.mem_reverse.mpr hm)
      exact absurd rfl (bne_iff_ne.mp hne)
    · intro hn x hx
      rw [bne_iff_ne]
      rintro rfl
      exact hn (List.mem_reverse.mp hx)
  rw [List.reverse_append, List.takeWhile_append]
  by_cases hv : '\n' ∈ v
  · rw [if_neg fun he => hback.mp he hv, if_pos hv, Nat.add_zero]
  · rw [if_pos (hback.mpr hv), if_neg hv, List.length_append, hback.mpr hv]

theorem columnOf_cons_succ (c : Char) (t : Text) (i : Nat) :
    columnOf (c :: t) (i + 1) =
      columnOf t i + if c ≠ '\n' ∧ rowOf t i = 0 then 1 else 0 := by
  have happend := length_takeWhile_reverse_append [c] (t.take i)
  unfold columnOf rowOf
  rw [List.take_succ_cons, ← List.singleton_append, happend]
  -- the column reaches back to `c` exactly if there is no line feed in between
  by_cases hm : '\n' ∈ t.take i
  · rw [if_pos hm, if_neg fun h => List.count_eq_zero.mp h.2 hm]
  · have hz := List.count_eq_zero.mpr hm
    by_cases hc : c = '\n' <;> simp [hm, hz, hc]

theorem rowOf_succ {t : Text} {i : Nat} {c : Char} (h : t[i]? = some c) :
    rowOf t (i + 1) = rowOf t i + if c = '\n' then 1 else 0 := by
  simp [rowOf, List.take_add_one, h, List.count_append, List.count_singleton]

theorem columnOf_succ {t : Text} {i : Nat} {c : Char} (h : t[i]? = some c) :
    columnOf t (i + 1) = if c = '\n' then 0 else columnOf t i + 1 := by
  unfold columnOf
  rw [List.take_add_one, h, Option.toList_some, List.reverse_append, List.reverse_singleton,
    List.singleton_append, List.takeWhile_cons]
  by_cases hc : c = '\n' <;> simp [hc]

theorem rowOf_mono (t : Text) {i j : Nat} (hij : i ≤ j) : rowOf t i ≤ rowOf t j :=
  (List.take_prefix_take_left hij).sublist.count_le '\n'

theorem rowOf_le_countBreaks (t : Text) (i : Nat) : rowOf t i ≤ countBreaks t :=
  (List.take_sublist i t).count_le '\n'

/-- A character whose column lies inside the piece of its row is the character of the piece there.
Only the characters of breaks lie outside. -/
theorem getElem?_piece {t : Text} {i : Nat} {c : Char} (hc : t[i]? = some c) {l : Text}
    (hl : (pieces t)[rowOf t i]? = some l) (hcol : columnOf t i < l.length) :
    l[columnOf t i]? = some c := by
  fun_induction pieces t generalizing i l with
  | case1 => cases hc
  | case2 rest ih =>
    -- the first two characters are the break, so their row is the empty piece in front
    rcases i with _ | _ | i
    · rw [rowOf_zero, List.getElem?_cons_zero] at hl
      cases hl
      cases hcol
    · rw [rowOf_cons_succ, rowOf_zero, if_neg (by decide), List.getElem?_cons_zero] at hl
      cases hl
      cases hcol
    · rw [rowOf_cons_succ, rowOf_cons_succ, if_pos rfl, if_neg (by decide), Nat.add_zero,
        List.getElem?_cons_succ] at hl
      have he : columnOf ('\r' :: '\n' :: rest) (i + 1 + 1) = columnOf rest i := by
        rw [columnOf_cons_succ, columnOf_cons_succ, rowOf_cons_succ]
        simp
      rw [he] at hcol ⊢
      exact ih (by simpa using hc) hl hcol
  | case3 rest _ ih =>
    rcases i with _ | i
    · rw [rowOf_zero, List.getElem?_cons_zero] at hl
      cases hl
      cases hcol
    · rw [rowOf_cons_succ, if_pos rfl, List.getElem?_cons_succ] at hl
      rw [columnOf_cons_succ, if_neg (by simp), Nat.add_zero] at hcol ⊢
      exact ih (by simpa using hc) hl hcol
  | case4 d rest _ hd ih =>
    -- `d` is put in front of the first piece, which moves the columns of row zero only
    obtain ⟨m, ms, hm⟩ := List.exists_cons_of_ne_nil (pieces_ne_nil rest)
    rw [hm, consFirst] at hl
    rcases i with _ | i
    · rw [rowOf_zero, List.getElem?_cons_zero, Option.some.injEq] at hl
      rw [List.getElem?_cons_zero] at hc
      rw [← hl, columnOf_zero, List.getElem?_cons_zero, hc]
    · rw [rowOf_cons_succ, if_neg hd, Nat.add_zero] at hl
      rw [List.getElem?_cons_succ] at hc
      rw [columnOf_cons_succ] at hcol ⊢
      cases hrow : rowOf rest i with
      | zero =>
        rw [hrow, List.getElem?_cons_zero, Option.some.injEq] at hl
        rw [hrow] at hcol
        rw [if_pos ⟨hd, rfl⟩] at hcol ⊢
        rw [← hl, List.length_cons] at hcol
        rw [← hl, List.getElem?_cons_succ]
        exact ih hc (by rw [hrow, hm, List.getElem?_cons_zero]) (by omega)
      | succ r =>
        rw [hrow, List.getElem?_cons_succ] at hl
        rw [hrow] at hcol
        rw [if_neg (by omega), Nat.add_zero] at hcol ⊢
        exact ih hc (by rw [hrow, hm, List.getElem?_cons_succ, hl]) hcol

/-- The offset lies in a break: on a line feed, or on a carriage return directly before one. -/
def InBreak (t : Text) (i : Nat) : Prop :=
  t[i]? = some '\n' ∨ t[i]? = some '\r' ∧ t[i + 1]? = some '\n'

theorem not_inBreak_of_cons {c : Char} {t : Text} {i : Nat} (h : ¬ InBreak (c :: t) (i + 1)) :
    ¬ InBreak t i := by
  unfold InBreak at *
  simpa only [List.getElem?_cons_succ] using h

/-- Outside of breaks every column lies inside the piece of its row. -/
theorem columnOf_lt_length {t : Text} {i : Nat} (hi : i < t.length) (hb : ¬ InBreak t i) {l : Text}
    (hl : (pieces t)[rowOf t i]? = some l) : columnOf t i < l.length := by
  fun_induction pieces t generalizing i l with
  | case1 => exact absurd hi (Nat.not_lt_zero i)
  | case2 rest ih =>
    -- the first two offsets are the break itself
    rcases i with _ | _ | i
    · exact absurd (.inr ⟨rfl, rfl⟩) hb
    · exact absurd (.inl rfl) hb
    · rw [rowOf_cons_succ, rowOf_cons_succ, if_pos rfl, if_neg (by decide), Nat.add_zero,
        List.getElem?_cons_succ] at hl
      have hlt := ih (by simpa using hi) (not_inBreak_of_cons (not_inBreak_of_cons hb)) hl
      rw [columnOf_cons_succ, columnOf_cons_succ, rowOf_cons_succ]
      simpa using hlt
  | case3 rest _ ih =>
    rcases i with _ | i
    · exact absurd (.inl rfl) hb
    · rw [rowOf_cons_succ, if_pos rfl, List.getElem?_cons_succ] at hl
      rw [columnOf_cons_succ, if_neg (by simp), Nat.add_zero]
      exact ih (by simpa using hi) (not_inBreak_of_cons hb) hl
  | case4 c rest _ hc ih =>
    -- `c` makes the first piece longer, and the columns of row zero with it
    obtain ⟨m, ms, hm⟩ := List.exists_cons_of_ne_nil (pieces_ne_nil rest)
    rw [hm, consFirst] at hl
    rcases i with _ | i
    · rw [rowOf_zero, List.getElem?_cons_zero] at hl
      rw [columnOf_zero, ← Option.some.inj hl, List.length_cons]
      exact Nat.succ_pos _
    · have hlt := @ih i
      rw [hm] at hlt
      rw [rowOf_cons_succ, if_neg hc, Nat.add_zero] at hl
      rw [columnOf_cons_succ]
      cases hrow : rowOf rest i with
      | zero =>
        rw [hrow, List.getElem?_cons_zero] at hl
        have hfirst := hlt (l := m) (by simpa using hi) (not_inBreak_of_cons hb) (by rw [hrow]; rfl)
        rw [if_pos ⟨hc, rfl⟩, ← Option.some.inj hl, List.length_cons]
        omega
      | succ r =>
        rw [hrow, List.getElem?_cons_succ] at hl
        rw [if_neg (by omega), Nat.add_zero]
        exact hlt (by simpa using hi) (not_inBreak_of_cons hb) (by rw [hrow]; exact hl)

end Line

namespace Formatter

open Line (pieces split countBreaks)

/-- The lines of a document are its first pieces. -/
theorem documentLines_prefix_pieces (source : Text) (stop0 : Int) :
    documentLines source stop0 <+: pieces source := by
  obtain ⟨m, hm⟩ := Line.exists_split_append source
  unfold documentLines
  dsimp only
  split
  · next h =>
    -- a stop on one of the missing empty lines brings back no more of them than there are
    have hl := congrArg List.length hm
    rw [List.length_append, List.length_replicate, Line.length_pieces] at hl
    obtain ⟨d, rfl⟩ := Nat.exists_eq_add_of_le
      (show (stop0 + 1 - (split source).length).toNat ≤ m by omega)
    rw [← hm, ← List.replicate_append_replicate, ← List.append_assoc]
    exact List.prefix_append _ _
  · rw [← hm]
    exact List.prefix_append _ _

theorem getElem?_documentLines {source : Text} {stop0 : Int} {n : Nat} {line : Text}
    (h : (documentLines source stop0)[n]? = some line) : (pieces source)[n]? = some line := by
  obtain ⟨rest, hrest⟩ := documentLines_prefix_pieces source stop0
  obtain ⟨hn, -⟩ := List.getElem?_eq_some_iff.mp h
  rw [← hrest, List.getElem?_append_left hn, h]

theorem length_documentLines_le (source : Text) (stop0 : Int) :
    (documentLines source stop0).length ≤ countBreaks source + 1 := by
  have h := (documentLines_prefix_pieces source stop0).length_le
  rwa [Line.length_pieces] at h

theorem lt_length_documentLines {source : Text} {stop0 : Int} (h : stop0 ≤ countBreaks source) :
    stop0 < (documentLines source stop0).length := by
  unfold documentLines
  dsimp only
  split
  · rw [List.length_append, List.length_replicate]
    omega
  · omega

end Formatter

end SyntaxReport
