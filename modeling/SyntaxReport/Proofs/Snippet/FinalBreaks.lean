import SyntaxReport.Proofs.Snippet.BreakStyle

/-! Line breaks at the end of a source. They add empty pieces and nothing else, and the lines of a
document leave empty pieces at the end out; a stop on one of them brings back only what it reaches.
So breaks that are added behind a source stay unseen until a span stops behind the source itself. -/
namespace SyntaxReport

namespace Line

/-- A line break in one of its two styles. -/
def IsBreak (b : Text) : Prop :=
  b = ['\n'] ∨ b = ['\r', '\n']

theorem IsBreak.pieces_append {b : Text} (hb : IsBreak b) (t : Text) :
    pieces (b ++ t) = [] :: pieces t := by
  rcases hb with rfl | rfl
  · exact pieces_feed t
  · exact pieces_return_feed t

theorem IsBreak.getLast?_append {b : Text} (hb : IsBreak b) (t : Text) :
    (t ++ b).getLast? = some '\n' := by
  rcases hb with rfl | rfl <;> simp [List.getLast?_append]

theorem consFirst_append (c : Char) {ls : List Text} (h : ls ≠ []) (ms : List Text) :
    consFirst c (ls ++ ms) = consFirst c ls ++ ms := by
  cases ls with
  | nil => exact absurd rfl h
  | cons l rest => rfl

theorem getLast?_ne_of_cons {c d : Char} {t : Text} (h : (c :: t).getLast? ≠ some d) :
    t.getLast? ≠ some d := by
  intro ht
  apply h
  rw [List.getLast?_cons, ht]
  rfl

/-- A break behind a text adds an empty piece, unless the text ends in a carriage return that the
break takes as its own. -/
theorem pieces_append_break {b : Text} (hb : IsBreak b) {t : Text}
    (ht : t.getLast? ≠ some '\r') : pieces (t ++ b) = pieces t ++ [[]] := by
  have hend : pieces b = [[], []] := by
    have h := hb.pieces_append []
    rwa [List.append_nil] at h
  fun_induction pieces t with
  | case1 => exact hend
  | case2 rest ih =>
    have hrest := ih (getLast?_ne_of_cons (getLast?_ne_of_cons ht))
    rw [List.cons_append, List.cons_append, pieces_return_feed, hrest, List.cons_append]
  | case3 rest _ ih =>
    rw [List.cons_append, pieces_feed, ih (getLast?_ne_of_cons ht), List.cons_append]
  | case4 c rest hp hc ih =>
    -- a return is not the last character, so what follows it is the same with the break behind
    have hhead : c = '\r' → (rest ++ b).head? ≠ some '\n' := by
      rintro rfl hd
      cases rest with
      | nil => exact ht rfl
      | cons d rest => exact hp rest rfl (by rw [Option.some.inj hd])
    rw [List.cons_append, pieces_cons hc hhead, ih (getLast?_ne_of_cons ht),
      consFirst_append c (pieces_ne_nil rest)]

theorem pieces_append_breaks {breaks : List Text} (hb : ∀ b ∈ breaks, IsBreak b) {t : Text}
    (ht : t.getLast? ≠ some '\r') :
    pieces (t ++ breaks.flatten) = pieces t ++ List.replicate breaks.length [] := by
  induction breaks generalizing t with
  | nil => simp
  | cons b rest ih =>
    have hbreak := hb b List.mem_cons_self
    have hrest := ih (fun b' hb' => hb b' (List.mem_cons_of_mem b hb')) (t := t ++ b)
    -- a text that ends in a break does not end in a return
    have hlast : (t ++ b).getLast? ≠ some '\r' := by
      rw [hbreak.getLast?_append]
      decide
    rw [List.flatten_cons, ← List.append_assoc, hrest hlast, pieces_append_break hbreak ht,
      List.append_assoc, List.length_cons, List.replicate_succ, List.singleton_append]

theorem dropTrailing_append_replicate (lines : List Text) (m : Nat) :
    Sequence.dropTrailing List.isEmpty (lines ++ List.replicate m []) =
      Sequence.dropTrailing List.isEmpty lines := by
  apply Sequence.dropTrailing_append_of_forall
  intro l hl
  rw [List.eq_of_mem_replicate hl]
  rfl

theorem split_append_breaks {breaks : List Text} (hb : ∀ b ∈ breaks, IsBreak b) {t : Text}
    (ht : t.getLast? ≠ some '\r') : split (t ++ breaks.flatten) = split t := by
  obtain ⟨l, rest, hp⟩ := List.exists_cons_of_ne_nil (pieces_ne_nil t)
  unfold split
  rw [pieces_append_breaks hb ht, hp, List.cons_append]
  dsimp only
  rw [dropTrailing_append_replicate]

end Line

namespace Formatter

variable {source : Text} {breaks : List Text}

theorem documentLines_append_breaks (hb : ∀ b ∈ breaks, Line.IsBreak b)
    (hr : source.getLast? ≠ some '\r') {stop0 : Int} (h : stop0 ≤ Line.countBreaks source) :
    documentLines (source ++ breaks.flatten) stop0 = documentLines source stop0 := by
  -- the stop lies in front of the added breaks, so both bounds for the empty lines allow it
  have hmore : Line.countBreaks source ≤ Line.countBreaks (source ++ breaks.flatten) := by
    unfold Line.countBreaks
    rw [List.count_append]
    omega
  unfold documentLines
  dsimp only
  rw [Line.split_append_breaks hb hr]
  congr 1
  exact propext (by omega)

/-- Line breaks that are added at the end of a source do not change a snippet that stops in front of
them: it is the same text, or the same error. -/
theorem render_append_breaks [Memory] (hr : source.getLast? ≠ some '\r')
    (hb : ∀ b ∈ breaks, Line.IsBreak b) {span : Span}
    (hspan : ∀ resolved, span.normalized = some resolved →
      resolved.stop.line ≤ 1 + Line.countBreaks source)
    (f : Formatter) (cause : Option Failure) :
    f.render span source cause = f.render span (source ++ breaks.flatten) cause := by
  unfold render
  cases hn : span.normalized with
  | none => rfl
  | some resolved =>
    have hstop : resolved.stop.line0 ≤ Line.countBreaks source := by
      have hline := hspan resolved hn
      unfold Position.line0
      omega
    dsimp only
    unfold rows shownGutter shownLines lastShown
    rw [documentLines_append_breaks hb hr hstop]

/-- The span stops on the last line, which is empty and lies behind two breaks; two more are added,
one of each style. -/
theorem render_append_breaks_empty_line :
    "a\n\r\n".toList.getLast? ≠ some '\r' ∧
    (∀ b ∈ ["\n".toList, "\r\n".toList], Line.IsBreak b) ∧
    (⟨⟨1, 0⟩, ⟨3, 0⟩⟩ : Span).normalized = some ⟨⟨1, 0⟩, ⟨3, 0⟩⟩ ∧
    ∀ cause, (standard { linesAfter := 1 }).render ⟨⟨1, 0⟩, ⟨3, 0⟩⟩ "a\n\r\n".toList cause =
      (standard { linesAfter := 1 }).render ⟨⟨1, 0⟩, ⟨3, 0⟩⟩
        ("a\n\r\n".toList ++ ["\n".toList, "\r\n".toList].flatten) cause := by
  have hr : "a\n\r\n".toList.getLast? ≠ some '\r' := by decide
  have hb : ∀ b ∈ ["\n".toList, "\r\n".toList], Line.IsBreak b := by
    intro b hb
    rcases List.mem_cons.mp hb with rfl | hb
    · exact Or.inl rfl
    · rw [List.mem_singleton.mp hb]
      exact Or.inr rfl
  have hn : (⟨⟨1, 0⟩, ⟨3, 0⟩⟩ : Span).normalized = some ⟨⟨1, 0⟩, ⟨3, 0⟩⟩ := by decide
  refine ⟨hr, hb, hn, render_append_breaks hr hb ?_ _⟩
  intro resolved hres
  rw [hn] at hres
  rw [← Option.some.inj hres]
  decide

end Formatter

end SyntaxReport
