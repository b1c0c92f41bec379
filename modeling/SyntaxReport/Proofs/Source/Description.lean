import Mathlib.Data.List.Basic
import SyntaxReport.Proofs.Snippet.Gutter
import SyntaxReport.Source.Token

/-! Descriptions of tokens are unambiguous. A text is shown by spelling out three characters, each
by itself, and as long as it has no backslash of its own the spelling can be undone. A description
is then cut at its colons, its equals sign and its last comma: numerals hold none of these, so the
cuts are found from both ends, whatever the text between them holds. -/
namespace SyntaxReport

namespace Text

/-- How one character is shown between the quotes. -/
def escapeChar (c : Char) : Text :=
  if c = '\n' then ['\\', 'n']
  else if c = '\r' then ['\\', 'r']
  else if c = '\t' then ['\\', 't']
  else [c]

/-- The replacements do not touch what an earlier one wrote. -/
theorem escapeControls_eq_flatMap (t : Text) : escapeControls t = t.flatMap escapeChar := by
  unfold escapeControls replaceChar
  rw [List.flatMap_assoc, List.flatMap_assoc]
  apply List.flatMap_congr
  intro c _
  by_cases hn : c = '\n'
  · subst hn
    rfl
  by_cases hr : c = '\r'
  · subst hr
    rfl
  by_cases ht : c = '\t'
  · subst ht
    rfl
  simp [escapeChar, hn, hr, ht]

theorem escapeControls_cons (c : Char) (t : Text) :
    escapeControls (c :: t) = escapeChar c ++ escapeControls t := by
  simp only [escapeControls_eq_flatMap, List.flatMap_cons]

theorem displayed_eq (t : Text) : displayed t = ['\''] ++ t.flatMap escapeChar ++ ['\''] := by
  rw [displayed, escapeControls_eq_flatMap]

/-- Reads the two-character escapes back. -/
def unescape : Text → Text
  | '\\' :: 'n' :: rest => '\n' :: unescape rest
  | '\\' :: 'r' :: rest => '\r' :: unescape rest
  | '\\' :: 't' :: rest => '\t' :: unescape rest
  | c :: rest => c :: unescape rest
  | [] => []

theorem unescape_cons {c : Char} (h : c ≠ '\\') (t : Text) :
    unescape (c :: t) = c :: unescape t := by
  rw [unescape]
  · intro rest hc
    exact absurd hc h
  · intro rest hc
    exact absurd hc h
  · intro rest hc
    exact absurd hc h

theorem unescape_escapeControls {t : Text} (h : '\\' ∉ t) : unescape (escapeControls t) = t := by
  induction t with
  | nil => rfl
  | cons c rest ih =>
    obtain ⟨hc, hrest⟩ := not_or.mp (mt List.mem_cons.mpr h)
    rw [escapeControls_cons]
    by_cases hn : c = '\n'
    · subst hn
      exact congrArg _ (ih hrest)
    by_cases hr : c = '\r'
    · subst hr
      exact congrArg _ (ih hrest)
    by_cases ht : c = '\t'
    · subst ht
      exact congrArg _ (ih hrest)
    -- any other character stands for itself, and it is not the backslash of an escape
    have hchar : escapeChar c = [c] := by simp [escapeChar, hn, hr, ht]
    rw [hchar, List.singleton_append, unescape_cons (Ne.symm hc), ih hrest]

theorem escapeControls_injective {t u : Text} (ht : '\\' ∉ t) (hu : '\\' ∉ u)
    (h : escapeControls t = escapeControls u) : t = u := by
  calc
    t = unescape (escapeControls t) := (unescape_escapeControls ht).symm
    _ = unescape (escapeControls u) := by rw [h]
    _ = u := unescape_escapeControls hu

theorem displayed_injective {t u : Text} (ht : '\\' ∉ t) (hu : '\\' ∉ u)
    (h : displayed t = displayed u) : t = u := by
  apply escapeControls_injective ht hu
  exact List.append_cancel_left (List.append_cancel_right h)

theorem ofNat_injective {m n : Nat} (h : ofNat m = ofNat n) : m = n := by
  have hread := congrArg (fun digits => Nat.ofDigitChars 10 digits 0) h
  simpa [ofNat] using hread

theorem not_mem_ofInt {c : Char} (hsign : c ≠ '-') (hdigit : c.isDigit = false) (n : Int) :
    c ∉ ofInt n := by
  cases n with
  | ofNat n => exact not_mem_ofNat hdigit n
  | negSucc n => exact mt List.mem_cons.mp (not_or.mpr ⟨hsign, not_mem_ofNat hdigit (n + 1)⟩)

theorem ofInt_injective {m n : Int} (h : ofInt m = ofInt n) : m = n := by
  -- the sign is no digit, so numerals of different signs differ in it
  have hsign (k : Nat) : '-' ∉ ofNat k := not_mem_ofNat (by decide) k
  cases m with
  | ofNat m =>
    cases n with
    | ofNat n => exact congrArg Int.ofNat (ofNat_injective h)
    | negSucc n =>
      have hm : '-' ∈ ofNat m := by
        rw [show ofNat m = '-' :: ofNat (n + 1) from h]
        exact List.mem_cons_self
      exact absurd hm (hsign m)
  | negSucc m =>
    cases n with
    | ofNat n =>
      have hn : '-' ∈ ofNat n := by
        rw [← show '-' :: ofNat (m + 1) = ofNat n from h]
        exact List.mem_cons_self
      exact absurd hn (hsign n)
    | negSucc n =>
      have htail : ofNat (m + 1) = ofNat (n + 1) := List.tail_eq_of_cons_eq h
      have hmn := ofNat_injective htail
      congr 1
      omega

end Text

namespace Sequence

variable {α : Type} {c : α} {a b u v : List α}

/-- Two lists that are cut at the same item agree in front of the cut and behind it, if the item
does not stand in front. -/
theorem eq_of_append_cons (ha : c ∉ a) (hb : c ∉ b) (h : a ++ c :: u = b ++ c :: v) :
    a = b ∧ u = v := by
  induction a generalizing b with
  | nil =>
    cases b with
    | nil => exact ⟨rfl, List.tail_eq_of_cons_eq h⟩
    | cons d b => exact absurd (List.mem_cons.mpr (.inl (List.head_eq_of_cons_eq h))) hb
  | cons d a ih =>
    -- the item may stand behind the cut as well, so only the parts in front are compared
    cases b with
    | nil => exact absurd (List.mem_cons.mpr (.inl (List.head_eq_of_cons_eq h).symm)) ha
    | cons d' b =>
      obtain ⟨hd, htail⟩ := List.cons.inj h
      have ha' : c ∉ a := fun hc => ha (List.mem_cons_of_mem d hc)
      have hb' : c ∉ b := fun hc => hb (List.mem_cons_of_mem d' hc)
      obtain ⟨hab, huv⟩ := ih ha' hb' htail
      exact ⟨by rw [hd, hab], huv⟩

/-- The same for a cut that is found from the end. -/
theorem eq_of_append_cons_of_last (ha : c ∉ a) (hb : c ∉ b) (h : u ++ c :: a = v ++ c :: b) :
    u = v ∧ a = b := by
  have hreverse : a.reverse ++ c :: u.reverse = b.reverse ++ c :: v.reverse := by
    simpa using congrArg List.reverse h
  have hcut := eq_of_append_cons (mt List.mem_reverse.mp ha) (mt List.mem_reverse.mp hb) hreverse
  exact ⟨List.reverse_injective hcut.2, List.reverse_injective hcut.1⟩

end Sequence

namespace Token

open Text (ofInt)

/-- The text of a token as its description shows it. -/
def shownText : Option Text → Text
  | none => "<no text>".toList
  | some own => own.displayed

theorem describe_eq (t : Token) :
    t.describe = "[@-1,".toList ++ (ofInt t.first ++ ':' :: (ofInt t.last ++ '=' ::
      (shownText t.text? ++ ',' :: (ofInt t.line ++ ':' :: (ofInt t.column ++ [']']))))) := by
  unfold describe shownText
  cases t.text? <;> simp only [List.append_assoc, List.cons_append, List.nil_append]

/-- The text of a token, if it has one, holds no backslash. -/
def HasPlainText (t : Token) : Prop :=
  ∀ own, t.text? = some own → '\\' ∉ own

theorem shownText_injective {x y : Option Text} (hx : ∀ own, x = some own → '\\' ∉ own)
    (hy : ∀ own, y = some own → '\\' ∉ own) (h : shownText x = shownText y) : x = y := by
  cases x with
  | none =>
    cases y with
    | none => rfl
    | some own' => exact absurd (List.head_eq_of_cons_eq h) (by decide)
  | some own =>
    cases y with
    | none => exact absurd (List.head_eq_of_cons_eq h) (by decide)
    | some own' => rw [Text.displayed_injective (hx own rfl) (hy own' rfl) h]

theorem eq_of_describe_eq {t u : Token} (ht : t.HasPlainText) (hu : u.HasPlainText)
    (h : t.describe = u.describe) :
    t.line = u.line ∧ t.column = u.column ∧ t.first = u.first ∧ t.last = u.last ∧
      t.text? = u.text? := by
  have hcolon (n : Int) : ':' ∉ ofInt n := Text.not_mem_ofInt (by decide) (by decide) n
  have hequals (n : Int) : '=' ∉ ofInt n := Text.not_mem_ofInt (by decide) (by decide) n
  have hcomma (n : Int) : ',' ∉ ofInt n := Text.not_mem_ofInt (by decide) (by decide) n
  have htail (line column : Int) : ',' ∉ ofInt line ++ ':' :: (ofInt column ++ [']']) := by
    simp [hcomma]
  rw [describe_eq, describe_eq] at h
  -- from the front up to the text, from the end back to it
  obtain ⟨hfirst, h⟩ := Sequence.eq_of_append_cons (hcolon _) (hcolon _) (List.append_cancel_left h)
  obtain ⟨hlast, h⟩ := Sequence.eq_of_append_cons (hequals _) (hequals _) h
  obtain ⟨htext, h⟩ := Sequence.eq_of_append_cons_of_last (htail _ _) (htail _ _) h
  obtain ⟨hline, h⟩ := Sequence.eq_of_append_cons (hcolon _) (hcolon _) h
  have hcolumn := List.append_cancel_right h
  exact ⟨Text.ofInt_injective hline, Text.ofInt_injective hcolumn, Text.ofInt_injective hfirst,
    Text.ofInt_injective hlast, shownText_injective ht hu htext⟩

/-- Tokens with the same description have the same place, indexes and text, as long as their texts
hold no backslash. Texts are shown character by character, and those without a backslash can be told
apart as they are shown. -/
theorem describe_unambiguous :
    (∀ t u : Token, t.HasPlainText → u.HasPlainText →
      (t.describe = u.describe ↔ t.line = u.line ∧ t.column = u.column ∧ t.first = u.first ∧
        t.last = u.last ∧ t.text? = u.text?)) ∧
    (∀ text : Text, text.displayed = ['\''] ++ text.flatMap Text.escapeChar ++ ['\'']) ∧
    ∀ a b : Text, '\\' ∉ a → '\\' ∉ b → a.displayed = b.displayed → a = b := by
  refine ⟨?_, Text.displayed_eq, fun a b => Text.displayed_injective⟩
  intro t u ht hu
  constructor
  · exact eq_of_describe_eq ht hu
  · rintro ⟨hline, hcolumn, hfirst, hlast, htext⟩
    rw [describe_eq, describe_eq, hline, hcolumn, hfirst, hlast, htext]

-- A backslash in a text can be taken for an escape.
example : Text.displayed ['\n'] = Text.displayed ['\\', 'n'] := rfl

/-- A token whose text looks like the end of a description. -/
def deceptive : Token where
  lexeme := some { text := some "',1:0],0:0=<no text>".toList }

/-- A token whose text looks like a missing one. -/
def unnamed : Token where
  lexeme := some { text := some "<no text>".toList }

theorem describe_unambiguous_deceptive :
    deceptive.HasPlainText ∧ unnamed.HasPlainText ∧ ({} : Token).HasPlainText ∧
      deceptive.describe ≠ unnamed.describe ∧ unnamed.describe ≠ ({} : Token).describe := by
  have hdeceptive : deceptive.HasPlainText := by
    intro own hown
    obtain rfl := Option.some.inj hown
    decide
  have hunnamed : unnamed.HasPlainText := by
    intro own hown
    obtain rfl := Option.some.inj hown
    decide
  have hempty : ({} : Token).HasPlainText := nofun
  refine ⟨hdeceptive, hunnamed, hempty, ?_, ?_⟩
  · intro h
    obtain ⟨-, -, -, -, htext⟩ := (describe_unambiguous.1 _ _ hdeceptive hunnamed).mp h
    exact absurd htext (by decide)
  · intro h
    obtain ⟨-, -, -, -, htext⟩ := (describe_unambiguous.1 _ _ hunnamed hempty).mp h
    exact absurd htext (by decide)

end Token

end SyntaxReport
