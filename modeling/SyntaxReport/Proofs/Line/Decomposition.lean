import SyntaxReport.Proofs.Snippet.FinalBreaks

/-! The lines of a text are its only decomposition. A text consists of lines if they give the text
when breaks are put between them and perhaps more breaks behind the last one. Two ambiguities have
to be excluded: a carriage return before a line feed belongs to the break, and an empty line at the
end is no line. With them excluded the pieces of the text are the lines and as many empty pieces as
there are breaks behind the last line, so that no other lines are possible. -/
namespace SyntaxReport

theorem Sequence.not_of_getLast?_dropTrailing {α : Type} {p : α → Bool} {xs : List α} {x : α}
    (h : (dropTrailing p xs).getLast? = some x) : p x = false := by
  rw [dropTrailing, List.getLast?_reverse] at h
  have hhead := List.head?_dropWhile_not p xs.reverse
  rw [h] at hhead
  exact hhead

namespace Line

/-- The lines in order, each with its break behind it; breaks that are left over follow the last
line. -/
def interleaved : List Text → List Text → Text
  | [], breaks => breaks.flatten
  | l :: lines, [] => l ++ interleaved lines []
  | l :: lines, b :: breaks => l ++ b ++ interleaved lines breaks

/-- The text is the lines with a break between neighbours and any further breaks at the end. -/
structure Interleaves (lines breaks : List Text) (t : Text) : Prop where
  isBreak : ∀ b ∈ breaks, IsBreak b
  length_le : lines.length ≤ breaks.length + 1
  -- a return before a line feed is part of the break, so the line feed is not alone there
  last_ne_return : ∀ (i : Nat) (l : Text),
    lines[i]? = some l → breaks[i]? = some ['\n'] → l.getLast? ≠ some '\r'
  text : t = interleaved lines breaks

/-- The text consists of the lines: a break stands between neighbours, and behind the last line
stand breaks only. -/
structure ConsistsOf (t : Text) (lines : List Text) : Prop where
  ne_nil : lines ≠ []
  feed_not_mem : ∀ l ∈ lines, '\n' ∉ l
  last_ne_nil : lines.length ≠ 1 → lines.getLast? ≠ some []
  interleaves : ∃ breaks, Interleaves lines breaks t

theorem pieces_append_return_feed {l : Text} (h : '\n' ∉ l) (t : Text) :
    pieces (l ++ '\r' :: '\n' :: t) = l :: pieces t := by
  induction l with
  | nil => exact pieces_return_feed t
  | cons c rest ih =>
    obtain ⟨hc, hrest⟩ := not_or.mp (mt List.mem_cons.mpr h)
    -- what follows `c` is a character of the line or the return of the break
    have hhead : (rest ++ '\r' :: '\n' :: t).head? ≠ some '\n' := by
      cases rest with
      | nil => simp
      | cons d rest =>
        intro hd
        apply hrest
        rw [← Option.some.inj hd]
        exact List.mem_cons_self
    rw [List.cons_append, pieces_cons (Ne.symm hc) fun _ => hhead, ih hrest, consFirst]

theorem IsBreak.pieces_append_line {b l : Text} (hb : IsBreak b) (hl : '\n' ∉ l)
    (hr : b = ['\n'] → l.getLast? ≠ some '\r') (t : Text) :
    pieces (l ++ b ++ t) = l :: pieces t := by
  rw [List.append_assoc]
  rcases hb with hfeed | hreturn
  · rw [hfeed]
    exact pieces_append_feed ⟨hl, hr hfeed⟩ t
  · rw [hreturn]
    exact pieces_append_return_feed hl t

theorem pieces_breaks {breaks : List Text} (hb : ∀ b ∈ breaks, IsBreak b) :
    pieces breaks.flatten = List.replicate (breaks.length + 1) [] :=
  pieces_append_breaks hb (t := []) (by simp)

section Interleaves

variable {lines breaks : List Text} {t : Text}

theorem Interleaves.tail {l b : Text} (h : Interleaves (l :: lines) (b :: breaks) t) :
    Interleaves lines breaks (interleaved lines breaks) where
  isBreak b' hb' := h.isBreak b' (List.mem_cons_of_mem b hb')
  length_le := by simpa only [List.length_cons, Nat.add_le_add_iff_right] using h.length_le
  last_ne_return i := h.last_ne_return (i + 1)
  text := rfl

/-- The pieces of the text are the lines and an empty piece for each break that is left over. -/
theorem Interleaves.pieces_eq (h : Interleaves lines breaks t) (hl : ∀ l ∈ lines, '\n' ∉ l) :
    pieces t = lines ++ List.replicate (breaks.length + 1 - lines.length) [] := by
  rw [h.text]
  -- each line takes the break behind it, and what is left in the end is breaks only
  induction lines generalizing breaks t with
  | nil => exact pieces_breaks h.isBreak
  | cons l lines ih =>
    have hfirst := hl l List.mem_cons_self
    cases breaks with
    | nil =>
      have hnil : lines = [] := by
        apply List.length_eq_zero_iff.mp
        have hlen := h.length_le
        simp only [List.length_cons, List.length_nil] at hlen
        omega
      rw [hnil, interleaved, interleaved, List.flatten_nil, List.append_nil,
        pieces_of_not_mem hfirst]
      rfl
    | cons b breaks =>
      have hend : b = ['\n'] → l.getLast? ≠ some '\r' := by
        intro hfeed
        apply h.last_ne_return 0 l rfl
        rw [hfeed]
        rfl
      have hbreak := h.isBreak b List.mem_cons_self
      have hrest := ih h.tail fun l' hl' => hl l' (List.mem_cons_of_mem l hl')
      rw [interleaved, hbreak.pieces_append_line hfirst hend, hrest, List.cons_append,
        List.length_cons, List.length_cons, Nat.add_sub_add_right]

theorem Interleaves.cons_nil (h : Interleaves lines breaks t) {b : Text} (hb : IsBreak b) :
    Interleaves ([] :: lines) (b :: breaks) (b ++ t) where
  isBreak := List.forall_mem_cons.mpr ⟨hb, h.isBreak⟩
  length_le := Nat.succ_le_succ h.length_le
  last_ne_return i l hl hfeed := by
    cases i with
    | zero =>
      rw [← Option.some.inj hl]
      simp
    | succ i => exact h.last_ne_return i l hl hfeed
  text := by
    rw [h.text]
    rfl

/-- A character in front of the text is the first of its first line, unless it makes a break of a
line feed. -/
theorem Interleaves.consFirst (h : Interleaves lines breaks t) (hne : lines ≠ []) {c : Char}
    (hc : c = '\r' → t.head? ≠ some '\n') : Interleaves (consFirst c lines) breaks (c :: t) := by
  obtain ⟨l, lines, rfl⟩ := List.exists_cons_of_ne_nil hne
  refine ⟨h.isBreak, h.length_le, ?_, ?_⟩
  · intro i l' hl' hfeed
    cases i with
    | succ i => exact h.last_ne_return (i + 1) l' hl' hfeed
    | zero =>
      have hlast := h.last_ne_return 0 l rfl hfeed
      obtain rfl : c :: l = l' := Option.some.inj hl'
      rw [List.getLast?_cons]
      cases hend : l.getLast? with
      | some d =>
        rw [hend] at hlast
        exact hlast
      | none =>
        -- the line is `c` alone, and the text behind it begins with the line feed
        intro hreturn
        apply hc (Option.some.inj hreturn)
        obtain ⟨b, breaks, rfl⟩ := List.exists_cons_of_ne_nil (List.ne_nil_of_mem
          (List.mem_of_getElem? hfeed))
        rw [h.text, List.getLast?_eq_none_iff.mp hend, Option.some.inj hfeed]
        rfl
  · rw [h.text]
    cases breaks <;> rfl

end Interleaves

/-- Every text is its pieces with a break between neighbours. -/
theorem exists_interleaves (t : Text) : ∃ breaks, Interleaves (pieces t) breaks t := by
  fun_induction pieces t with
  | case1 =>
    refine ⟨[], by simp, le_rfl, ?_, rfl⟩
    intro i l _ hfeed
    cases hfeed
  | case2 rest ih =>
    obtain ⟨breaks, h⟩ := ih
    exact ⟨['\r', '\n'] :: breaks, h.cons_nil (.inr rfl)⟩
  | case3 rest _ ih =>
    obtain ⟨breaks, h⟩ := ih
    exact ⟨['\n'] :: breaks, h.cons_nil (.inl rfl)⟩
  | case4 c rest hp hc ih =>
    obtain ⟨breaks, h⟩ := ih
    refine ⟨breaks, h.consFirst (pieces_ne_nil rest) ?_⟩
    intro hreturn hfeed
    obtain ⟨rest', hrest'⟩ := List.head?_eq_some_iff.mp hfeed
    exact hp rest' hreturn hrest'

/-- Empty lines at the end leave no trace in the text: their breaks are among those left over. -/
theorem interleaved_append_replicate (lines breaks : List Text) (m : Nat) :
    interleaved (lines ++ List.replicate m []) breaks = interleaved lines breaks := by
  induction lines generalizing breaks with
  | nil =>
    rw [List.nil_append]
    change _ = breaks.flatten
    induction m generalizing breaks with
    | zero => rfl
    | succ m ih =>
      rw [List.replicate_succ]
      cases breaks with
      | nil => exact ih []
      | cons b breaks =>
        rw [interleaved, ih, List.flatten_cons]
        rfl
  | cons l lines ih =>
    cases breaks with
    | nil => rw [List.cons_append, interleaved, interleaved, ih]
    | cons b breaks => rw [List.cons_append, interleaved, interleaved, ih]

theorem getLast?_split {t : Text} (h : (split t).length ≠ 1) : (split t).getLast? ≠ some [] := by
  unfold split at h ⊢
  obtain ⟨l, rest, hp⟩ := List.exists_cons_of_ne_nil (pieces_ne_nil t)
  rw [hp] at h ⊢
  dsimp only at h ⊢
  rw [List.getLast?_cons]
  cases hlast : (Sequence.dropTrailing List.isEmpty rest).getLast? with
  | none =>
    rw [List.getLast?_eq_none_iff.mp hlast] at h
    exact absurd rfl h
  | some m =>
    intro hempty
    have hm := Sequence.not_of_getLast?_dropTrailing hlast
    rw [show m = [] from Option.some.inj hempty] at hm
    exact absurd hm (by decide)

theorem split_of_pieces {t : Text} {lines : List Text} {m : Nat} (hne : lines ≠ [])
    (hlast : lines.length ≠ 1 → lines.getLast? ≠ some [])
    (h : pieces t = lines ++ List.replicate m []) : split t = lines := by
  obtain ⟨l, rest, rfl⟩ := List.exists_cons_of_ne_nil hne
  unfold split
  rw [h, List.cons_append]
  dsimp only
  rw [dropTrailing_append_replicate]
  congr 1
  rcases List.eq_nil_or_concat rest with rfl | ⟨init, x, rfl⟩
  · rfl
  · -- there is a second line, so the last one is not empty and nothing is dropped
    rw [List.concat_eq_append] at hlast ⊢
    apply Sequence.dropTrailing_concat_of_not
    rw [List.isEmpty_eq_false_iff]
    intro hx
    apply hlast
    · simp
    · rw [← List.cons_append, List.getLast?_concat, hx]

theorem consistsOf_split (t : Text) : ConsistsOf t (split t) := by
  obtain ⟨m, hm⟩ := exists_split_append t
  obtain ⟨breaks, h⟩ := exists_interleaves t
  refine ⟨split_ne_nil t, ?_, getLast?_split, breaks, h.isBreak, ?_, ?_, ?_⟩
  · intro l hl
    apply newline_not_mem_pieces t
    rw [← hm]
    exact List.mem_append_left _ hl
  · have hlen := h.length_le
    rw [← hm, List.length_append] at hlen
    omega
  · intro i l hl
    apply h.last_ne_return
    obtain ⟨hi, -⟩ := List.getElem?_eq_some_iff.mp hl
    rw [← hm, List.getElem?_append_left hi, hl]
  · calc
      t = interleaved (pieces t) breaks := h.text
      _ = interleaved (split t ++ List.replicate m []) breaks := by rw [hm]
      _ = interleaved (split t) breaks := interleaved_append_replicate _ _ _

/-- A text consists of the lines into which it is split, and of no others. -/
theorem consistsOf_iff_eq_split (t : Text) (lines : List Text) :
    ConsistsOf t lines ↔ lines = split t := by
  constructor
  · intro h
    obtain ⟨breaks, hbreaks⟩ := h.interleaves
    have hpieces := hbreaks.pieces_eq h.feed_not_mem
    exact (split_of_pieces h.ne_nil h.last_ne_nil hpieces).symm
  · intro h
    rw [h]
    exact consistsOf_split t

-- The first of two returns belongs to the line, a last return too, and final breaks to no line.
example : split "a\r\r\n\n\r\n".toList = ["a\r".toList] ∧
    split "a\n\n\r".toList = ["a".toList, [], ['\r']] := by decide

end Line

end SyntaxReport
