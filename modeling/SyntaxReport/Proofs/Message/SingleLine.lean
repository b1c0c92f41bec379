import Mathlib.Tactic.SplitIfs
import SyntaxReport.Message.Wording
import SyntaxReport.Proofs.Source.Description

/-! Parser messages stand on a single line. Whatever text a token has, it is shown with its breaks
and tabs spelled out, and numerals have none; what a message shows otherwise are names of the
vocabulary and texts that were rendered before. So a message is a single line as soon as these are,
and the names have to be, since each of them is shown by some message. -/
namespace SyntaxReport

namespace Text

/-- The text holds neither a line feed nor a carriage return nor a tab. -/
def IsSingleLine (t : Text) : Prop :=
  ∀ c ∈ t, c ≠ '\n' ∧ c ≠ '\r' ∧ c ≠ '\t'

instance (t : Text) : Decidable t.IsSingleLine :=
  List.decidableBAll (fun c => c ≠ '\n' ∧ c ≠ '\r' ∧ c ≠ '\t') t

@[simp]
theorem isSingleLine_append {t u : Text} :
    IsSingleLine (t ++ u) ↔ t.IsSingleLine ∧ u.IsSingleLine :=
  List.forall_mem_append

theorem isSingleLine_phrase {lead middle : Text} (hl : lead.IsSingleLine)
    (hm : middle.IsSingleLine) {x y : Text} :
    IsSingleLine (lead ++ x ++ middle ++ y) ↔ x.IsSingleLine ∧ y.IsSingleLine := by
  simp only [isSingleLine_append, hl, hm, true_and, and_true]

theorem isSingleLine_escapeChar (c : Char) : (escapeChar c).IsSingleLine := by
  unfold escapeChar
  split_ifs with hn hr ht
  · decide
  · decide
  · decide
  · intro d hd
    rw [List.mem_singleton.mp hd]
    exact ⟨hn, hr, ht⟩

theorem isSingleLine_displayed (t : Text) : t.displayed.IsSingleLine := by
  rw [displayed_eq, isSingleLine_append, isSingleLine_append]
  refine ⟨⟨by decide, ?_⟩, by decide⟩
  intro c hc
  obtain ⟨d, -, hd⟩ := List.mem_flatMap.mp hc
  exact isSingleLine_escapeChar d c hd

theorem isSingleLine_ofInt (n : Int) : (ofInt n).IsSingleLine := by
  intro c hc
  have hne {d : Char} (hsign : d ≠ '-') (hdigit : d.isDigit = false) : c ≠ d := by
    intro hcd
    apply not_mem_ofInt hsign hdigit n
    rwa [← hcd]
  exact ⟨hne (by decide) (by decide), hne (by decide) (by decide), hne (by decide) (by decide)⟩

theorem isSingleLine_joined {separator : Text} (hs : separator.IsSingleLine) {items : List Text}
    (h : ∀ t ∈ items, t.IsSingleLine) : (joined separator items).IsSingleLine := by
  induction items with
  | nil => exact List.forall_mem_nil _
  | cons t rest ih =>
    obtain ⟨ht, hrest⟩ := List.forall_mem_cons.mp h
    cases rest with
    | nil => exact ht
    | cons u rest =>
      rw [joined, isSingleLine_append, isSingleLine_append]
      · exact ⟨⟨ht, hs⟩, ih hrest⟩
      · exact List.cons_ne_nil u rest

end Text

/-- Every name that messages may use for a token kind is a single line. -/
def Vocabulary.HasSingleLineNames (v : Vocabulary) : Prop :=
  ∀ kind name, v.literal? kind = some name → name.IsSingleLine

theorem Vocabulary.hasSingleLineNames_of_entries {v : Vocabulary}
    (h : ∀ e ∈ v.entries, e.2.literal.IsSingleLine) : v.HasSingleLineNames := by
  intro kind name hname
  obtain ⟨n, hn, rfl⟩ := Option.map_eq_some_iff.mp hname
  obtain ⟨before, behind, hentries, -⟩ := List.lookup_eq_some_iff.mp hn
  apply h (kind, n)
  rw [hentries]
  exact List.mem_append_right _ List.mem_cons_self

namespace Message

/-- A text that is already rendered is shown as it is; tokens are not in question. -/
def Found.IsSingleLine : Found → Prop
  | .rendered t => t.IsSingleLine
  | _ => True

def Expected.IsSingleLine : Expected → Prop
  | .rendered t => t.IsSingleLine
  | .kind _ => True

theorem isSingleLine_eofText : Token.eofText.IsSingleLine := by decide

section Names

variable {vocabulary : Option Vocabulary} (h : ∀ v ∈ vocabulary, v.HasSingleLineNames)
include h

theorem isSingleLine_kindText (kind : Int) : (kindText vocabulary kind).IsSingleLine := by
  unfold kindText
  split
  · next name hname =>
    obtain ⟨v, hv, hname⟩ := Option.bind_eq_some_iff.mp hname
    exact h v hv kind name hname
  · split_ifs
    · exact isSingleLine_eofText
    · exact Text.isSingleLine_ofInt kind

/-- The name, the end of input, the text of the token and its kind are tried in this order. -/
theorem isSingleLine_tokenText (t : Token) : (tokenText vocabulary t).IsSingleLine := by
  unfold tokenText
  split
  · next name hname =>
    obtain ⟨v, hv, hname⟩ := Option.bind_eq_some_iff.mp hname
    obtain ⟨kind, -, hname⟩ := Option.bind_eq_some_iff.mp hname
    exact h v hv kind name hname
  split_ifs
  · exact isSingleLine_eofText
  split
  · next own _ => exact Text.isSingleLine_displayed own
  · rw [Text.isSingleLine_append, Text.isSingleLine_append]
    refine ⟨⟨by decide, ?_⟩, by decide⟩
    cases t.kind? with
    | none => exact (by decide : Text.IsSingleLine "None".toList)
    | some kind => exact Text.isSingleLine_ofInt kind

theorem isSingleLine_foundText {found : Found} (hf : found.IsSingleLine) :
    (foundText vocabulary found).IsSingleLine := by
  cases found with
  | nothing => exact (by decide : Text.IsSingleLine "<no token>".toList)
  | token t => exact isSingleLine_tokenText h t
  | rendered t => exact hf

theorem isSingleLine_expectedItem {e : Expected} (he : e.IsSingleLine) :
    (expectedItem vocabulary e).IsSingleLine := by
  cases e with
  | kind k => exact isSingleLine_kindText h k
  | rendered t => exact he

theorem isSingleLine_expectedText {expected : List Expected}
    (he : ∀ e ∈ expected, e.IsSingleLine) : (expectedText vocabulary expected).IsSingleLine := by
  have hitems : ∀ t ∈ expected.map (expectedItem vocabulary), t.IsSingleLine := by
    intro t ht
    obtain ⟨e, hmem, rfl⟩ := List.mem_map.mp ht
    exact isSingleLine_expectedItem h (he e hmem)
  unfold expectedText
  split
  · next item hitem =>
    apply hitems
    rw [hitem]
    exact List.mem_singleton_self item
  · rw [Text.isSingleLine_append, Text.isSingleLine_append]
    exact ⟨⟨by decide, Text.isSingleLine_joined (by decide) hitems⟩, by decide⟩

end Names

/-- The wording around what is found and expected has no breaks of its own. -/
theorem isSingleLine_mismatchedInput {vocabulary : Option Vocabulary} {found : Found}
    {expected : List Expected} : (mismatchedInput found expected vocabulary).IsSingleLine ↔
      (foundText vocabulary found).IsSingleLine ∧ (expectedText vocabulary expected).IsSingleLine :=
  Text.isSingleLine_phrase (by decide +kernel) (by decide +kernel)

theorem isSingleLine_missingToken {vocabulary : Option Vocabulary} {near : Found}
    {expected : List Expected} : (missingToken expected near vocabulary).IsSingleLine ↔
      (expectedText vocabulary expected).IsSingleLine ∧ (foundText vocabulary near).IsSingleLine :=
  Text.isSingleLine_phrase (by decide +kernel) (by decide +kernel)

theorem isSingleLine_extraneousInput {vocabulary : Option Vocabulary} {found : Found}
    {expected : List Expected} : (extraneousInput found expected vocabulary).IsSingleLine ↔
      (foundText vocabulary found).IsSingleLine ∧ (expectedText vocabulary expected).IsSingleLine :=
  Text.isSingleLine_phrase (by decide +kernel) (by decide +kernel)

/-- A name is shown alone where its kind is the only one expected. -/
theorem expectedText_of_literal? {v : Vocabulary} {kind : Int} {name : Text}
    (h : v.literal? kind = some name) : expectedText (some v) [.kind kind] = name := by
  change kindText (some v) kind = name
  unfold kindText
  rw [Option.bind_some, Vocabulary.display?, h]

/-- A message about a text alone is always a single line. One about tokens is for all tokens and
kinds exactly if the names of the vocabulary are; rendered texts have to be single lines
themselves. -/
theorem messages_are_single_lines :
    (∀ (text : Text) (hasEof : Bool), (tokenRecognition text hasEof).IsSingleLine) ∧
    (∀ text : Option Text, (noViableAlternative text).IsSingleLine) ∧
    ∀ vocabulary : Option Vocabulary, (∀ v ∈ vocabulary, v.HasSingleLineNames) ↔
      ∀ (found : Found) (expected : List Expected),
        found.IsSingleLine → (∀ e ∈ expected, e.IsSingleLine) →
        (mismatchedInput found expected vocabulary).IsSingleLine ∧
        (missingToken expected found vocabulary).IsSingleLine ∧
        (extraneousInput found expected vocabulary).IsSingleLine := by
  refine ⟨?_, ?_, ?_⟩
  · intro text hasEof
    apply Text.isSingleLine_append.mpr
    refine ⟨by decide +kernel, ?_⟩
    cases hasEof with
    | true => exact isSingleLine_eofText
    | false => exact Text.isSingleLine_displayed text
  · intro text
    apply Text.isSingleLine_append.mpr
    refine ⟨by decide +kernel, ?_⟩
    cases text with
    | none => exact isSingleLine_eofText
    | some own => exact Text.isSingleLine_displayed own
  intro vocabulary
  constructor
  · intro h found expected hf he
    have hfound := isSingleLine_foundText h hf
    have hexpected := isSingleLine_expectedText h he
    exact ⟨isSingleLine_mismatchedInput.mpr ⟨hfound, hexpected⟩,
      isSingleLine_missingToken.mpr ⟨hexpected, hfound⟩,
      isSingleLine_extraneousInput.mpr ⟨hfound, hexpected⟩⟩
  · intro h v hv kind name hname
    -- a message that expects the kind alone shows the name
    obtain ⟨hmessage, -⟩ := h .nothing [.kind kind] trivial
      (List.forall_mem_singleton.mpr trivial)
    obtain ⟨-, hexpected⟩ := isSingleLine_mismatchedInput.mp hmessage
    rwa [Option.mem_def.mp hv, expectedText_of_literal? hname] at hexpected

/-- A token over two lines and a vocabulary that has no name for it. -/
theorem messages_are_single_lines_broken_token :
    (∀ v ∈ some (Vocabulary.ofNames [(1, ⟨"';'".toList, "SEMI".toList⟩)]),
      v.HasSingleLineNames) ∧
    (mismatchedInput (.token { lexeme := some { text := some "a\r\n\tb".toList, kind := some 2 } })
      [.kind 1, .kind 7] (some (.ofNames [(1, ⟨"';'".toList, "SEMI".toList⟩)]))).IsSingleLine := by
  have hnames : ∀ v ∈ some (Vocabulary.ofNames [(1, ⟨"';'".toList, "SEMI".toList⟩)]),
      v.HasSingleLineNames := by
    intro v hv
    rw [← Option.some.inj hv]
    apply Vocabulary.hasSingleLineNames_of_entries
    decide
  obtain ⟨-, -, h⟩ := messages_are_single_lines
  refine ⟨hnames, ((h _).mp hnames (.token _) [.kind 1, .kind 7] trivial ?_).1⟩
  intro e he
  rcases List.mem_pair.mp he with rfl | rfl <;> trivial

end Message

end SyntaxReport
