import SyntaxReport.Proofs.Snippet.Congruence

/-! Both styles of line breaks give the same snippet. Writing some of the line feeds of a text as a
carriage return and a line feed changes neither its lines nor, for the text of a token, the position
at which the token stops. -/
namespace SyntaxReport

/-- The second text is the first with any of its line feeds written as a carriage return and a line
feed. -/
inductive Text.Restyled : Text → Text → Prop
  | nil : Restyled [] []
  | keep (c : Char) {t t' : Text} (h : Restyled t t') : Restyled (c :: t) (c :: t')
  | feed {t t' : Text} (h : Restyled t t') : Restyled ('\n' :: t) ('\r' :: '\n' :: t')

theorem Text.Restyled.eq_nil_iff {t t' : Text} (h : t.Restyled t') : t = [] ↔ t' = [] := by
  cases h <;> simp

namespace Line

theorem pieces_feed (t : Text) : pieces ('\n' :: t) = [] :: pieces t :=
  pieces_append_feed (l := []) ⟨List.not_mem_nil, by simp⟩ t

theorem pieces_return_feed (t : Text) : pieces ('\r' :: '\n' :: t) = [] :: pieces t := by
  rw [pieces]

theorem pieces_restyled {t t' : Text} (h : t.Restyled t') (hr : '\r' ∉ t) :
    pieces t = pieces t' := by
  induction h with
  | nil => rfl
  | keep c _ ih =>
    rw [List.mem_cons, not_or] at hr
    have hrest := ih hr.2
    by_cases hc : c = '\n'
    · rw [hc, pieces_feed, pieces_feed, hrest]
    · -- `c` is no carriage return, so on neither side a break begins with it
      have hreturn : c ≠ '\r' := fun hcr => hr.1 hcr.symm
      rw [pieces_cons hc fun hcr => absurd hcr hreturn,
        pieces_cons hc fun hcr => absurd hcr hreturn, hrest]
  | feed _ ih =>
    rw [List.mem_cons, not_or] at hr
    rw [pieces_feed, pieces_return_feed, ih hr.2]

end Line

namespace Position

theorem foldl_step_dropLast_cons {x x' : Text} (h : x.Restyled x')
    (hscan : ∀ p : Position, x.dropLast.foldl step p = x'.dropLast.foldl step p) (c : Char)
    (p : Position) : (c :: x).dropLast.foldl step p = (c :: x').dropLast.foldl step p := by
  -- `c` is the last character on both sides, or on neither
  by_cases hx : x = []
  · rw [hx, h.eq_nil_iff.mp hx]
  · have hx' : x' ≠ [] := fun he => hx (h.eq_nil_iff.mpr he)
    rw [List.dropLast_cons_of_ne_nil hx, List.dropLast_cons_of_ne_nil hx', List.foldl_cons,
      List.foldl_cons, hscan]

theorem foldl_step_dropLast_restyled {x x' : Text} (h : x.Restyled x') (p : Position) :
    x.dropLast.foldl step p = x'.dropLast.foldl step p := by
  induction h generalizing p with
  | nil => rfl
  | keep c h ih => exact foldl_step_dropLast_cons h ih c p
  | feed h ih =>
    -- a return leaves the position where it is, also if the line feed behind it is dropped
    have hreturn : step p '\r' = p := by rw [step, if_pos rfl]
    rw [foldl_step_dropLast_cons h ih, List.dropLast_cons_of_ne_nil (List.cons_ne_nil _ _),
      List.foldl_cons, hreturn]

theorem ofStop_restyled {x x' : Text} (h : x.Restyled x') (token : Token) (kind : Option Int)
    (source source' : Text) :
    ofStop { token with lexeme := some ⟨some x, kind⟩ } source =
      ofStop { token with lexeme := some ⟨some x', kind⟩ } source' := by
  have hscan := foldl_step_dropLast_restyled h (ofStart token)
  change (if token.isEof then ofStart token else x.dropLast.foldl step (ofStart token)) =
    if token.isEof then ofStart token else x'.dropLast.foldl step (ofStart token)
  rw [hscan]

end Position

namespace Formatter

variable {source source' : Text}

theorem documentLines_of_pieces (h : Line.pieces source' = Line.pieces source) (stop0 : Int) :
    documentLines source' stop0 = documentLines source stop0 := by
  -- the case of a change of lines that changes nothing
  have hmap : Line.pieces source' = (Line.pieces source).map id := by rw [h, List.map_id]
  have hdoc := documentLines_map (e := id) rfl (fun _ => rfl) hmap stop0
  rwa [List.map_id] at hdoc

/-- Of the text of a document nothing matters but its pieces. -/
theorem render_of_pieces [Memory] (h : Line.pieces source' = Line.pieces source) (f : Formatter)
    (span : Span) (cause : Option Failure) :
    f.render span source' cause = f.render span source cause := by
  have hrows (resolved : Span) : f.rows resolved source' = f.rows resolved source := by
    unfold rows shownGutter shownLines lastShown
    rw [documentLines_of_pieces h]
  unfold render
  simp only [hrows]

/-- The style of the line breaks does not matter: neither that of the breaks in the source, nor that
of the breaks in the text of the token at which a snippet stops. -/
theorem render_restyled [Memory] {t t' : Text} (hr : '\r' ∉ t) (ht : t.Restyled t') :
    Line.split t = Line.split t' ∧
    (∀ (f : Formatter) (span : Span) (cause : Option Failure),
      f.render span t cause = f.render span t' cause) ∧
    ∀ (token : Token) (kind : Option Int) (x x' : Text), x.Restyled x' →
      (∀ s s' : Text, Position.ofStop { token with lexeme := some ⟨some x, kind⟩ } s =
        Position.ofStop { token with lexeme := some ⟨some x', kind⟩ } s') ∧
      ∀ (f : Formatter) (start start' : Token) (cause : Option Failure),
        Position.ofStart start = Position.ofStart start' →
        f.format start { token with lexeme := some ⟨some x, kind⟩ } t cause =
          f.format start' { token with lexeme := some ⟨some x', kind⟩ } t' cause := by
  have hpieces := Line.pieces_restyled ht hr
  refine ⟨?_, fun f span cause => render_of_pieces hpieces f span cause, ?_⟩
  · unfold Line.split
    rw [hpieces]
  · intro token kind x x' hx
    have hstop := Position.ofStop_restyled hx token kind
    refine ⟨hstop, fun f start start' cause hstart => ?_⟩
    unfold format Span.ofTokens
    rw [render_of_pieces hpieces, hstart, hstop t t']

/-- Mixed styles: the first and the last break of the source and the break at the end of the token
are written anew, an empty line and the break inside the token stay. -/
theorem render_restyled_mixed :
    '\r' ∉ ['a', '\n', '\n', 'b', '\n'] ∧
    Text.Restyled ['a', '\n', '\n', 'b', '\n'] ['a', '\r', '\n', '\n', 'b', '\r', '\n'] ∧
    Text.Restyled ['a', '\n', '\n'] ['a', '\n', '\r', '\n'] ∧
    ∀ cause, (standard {}).format {} { lexeme := some { text := some ['a', '\n', '\n'] } }
        ['a', '\n', '\n', 'b', '\n'] cause =
      (standard {}).format {} { lexeme := some { text := some ['a', '\n', '\r', '\n'] } }
        ['a', '\r', '\n', '\n', 'b', '\r', '\n'] cause := by
  have hr : '\r' ∉ ['a', '\n', '\n', 'b', '\n'] := by decide
  have ht : Text.Restyled ['a', '\n', '\n', 'b', '\n']
      ['a', '\r', '\n', '\n', 'b', '\r', '\n'] :=
    .keep 'a' (.feed (.keep '\n' (.keep 'b' (.feed .nil))))
  have hx : Text.Restyled ['a', '\n', '\n'] ['a', '\n', '\r', '\n'] :=
    .keep 'a' (.keep '\n' (.feed .nil))
  have hformat := ((render_restyled hr ht).2.2 {} (some 0) _ _ hx).2
  exact ⟨hr, ht, hx, fun cause => hformat (standard {}) {} {} cause rfl⟩

end Formatter

end SyntaxReport
