import SyntaxReport.Settings.Change
import SyntaxReport.Text.Count
import SyntaxReport.Value.Rule

/-! Settings whose fields hold values of any kind. They obey the rules of settings, as far as a rule
makes sense for a value: truth values and floating-point numbers are sizes, and a list may stand for
a text. A rule that makes no sense for a value cannot be kept. On fields of the proper kind nothing
changes. -/
namespace SyntaxReport.Settings

inductive Field where
  | tabSize
  | linesBefore
  | linesAfter
  | margin
  | marker
  deriving DecidableEq, Repr

structure Loose where
  tabSize : Value := .int 8
  linesBefore : Value := .int 0
  linesAfter : Value := .int 0
  margin : Value := .text [' ']
  marker : Value := .text ['^']

inductive LooseFault where
  /-- No field has this name. -/
  | unknown (name : Text)
  /-- The rule for a field makes no sense for its value. -/
  | wrongKind (field : Field)
  | markerNotSingle (marker : Value)
  | negativeIndent
  | marginGiven
  | indentTooWide (cause : CountError)
  /-- Another rule is broken. -/
  | broken (fault : SettingsFault)

namespace LooseFault

def ofFault : SettingsFault → LooseFault
  | .markerNotSingle marker => .markerNotSingle (.text marker)
  | fault => .broken fault

def ofIndentFault : IndentFault → LooseFault
  | .negativeIndent => .negativeIndent
  | .marginGiven => .marginGiven
  | .rejected fault => ofFault fault

/-- The message for a broken rule. There is none for names, kinds of values and indents that are too
wide, which are no matter of rules. -/
def message? : LooseFault → Option Text
  | unknown _ => none
  | wrongKind _ => none
  | markerNotSingle marker =>
    marker.describe?.map ("marker must be a single character, got ".toList ++ ·)
  | negativeIndent => some IndentFault.negativeIndent.message
  | marginGiven => some IndentFault.marginGiven.message
  | indentTooWide _ => none
  | broken fault => some fault.message

end LooseFault

/-- The field with a name. -/
def Field.named? (name : Text) : Option Field :=
  if name = "tab_size".toList then some .tabSize
  else if name = "lines_before".toList then some .linesBefore
  else if name = "lines_after".toList then some .linesAfter
  else if name = "prefix".toList then some .margin
  else if name = "marker".toList then some .marker
  else none

def Field.name : Field → Text
  | tabSize => "tab_size".toList
  | linesBefore => "lines_before".toList
  | linesAfter => "lines_after".toList
  | margin => "prefix".toList
  | marker => "marker".toList

theorem Field.named?_name (f : Field) : Field.named? f.name = some f := by
  cases f <;> decide

def Change.field : Change → Field
  | .tabSize _ => .tabSize
  | .linesBefore _ => .linesBefore
  | .linesAfter _ => .linesAfter
  | .margin _ => .margin
  | .marker _ => .marker

def Change.value : Change → Value
  | .tabSize n => .int n
  | .linesBefore n => .int n
  | .linesAfter n => .int n
  | .margin t => .text t
  | .marker t => .text t

/-- A change by the name of its field. -/
def Change.entry (c : Change) : Text × Value :=
  (c.field.name, c.value)

namespace Loose

def set (s : Loose) (v : Value) : Field → Loose
  | .tabSize => { s with tabSize := v }
  | .linesBefore => { s with linesBefore := v }
  | .linesAfter => { s with linesAfter := v }
  | .margin => { s with margin := v }
  | .marker => { s with marker := v }

/-- The settings after one named field is changed. -/
def setNamed (s : Loose) (entry : Text × Value) : Except LooseFault Loose :=
  match Field.named? entry.1 with
  | some f => .ok (s.set entry.2 f)
  | none => .error (.unknown entry.1)

/-- Holds if a rule for a field is known to be kept. -/
def demand (field : Field) (isBroken : Option Bool) (fault : LooseFault) :
    Except LooseFault Unit :=
  match isBroken with
  | none => .error (.wrongKind field)
  | some true => .error fault
  | some false => .ok ()

/-- Whether a line break is in a margin. -/
def hasBreak? (margin : Value) : Option Bool := do
  return (← margin.holds? '\n') || (← margin.holds? '\r')

/-- The settings themselves, if they break no rule. -/
def check (s : Loose) : Except LooseFault Loose := do
  demand .tabSize (s.tabSize.isBelow? 1) (.broken .tabSizeTooSmall)
  demand .linesBefore (s.linesBefore.isBelow? 0) (.broken .negativeLinesBefore)
  demand .linesAfter (s.linesAfter.isBelow? 0) (.broken .negativeLinesAfter)
  demand .marker (s.marker.length?.map (· != 1)) (.markerNotSingle s.marker)
  demand .margin (hasBreak? s.margin) (.broken .breakInMargin)
  return s

/-- The settings after changes to named fields. All names are looked at before any rule. -/
def evolve (s : Loose) (entries : List (Text × Value)) : Except LooseFault Loose := do
  (← entries.foldlM setNamed s).check

/-- Settings from changes to the defaults. -/
def build (entries : List (Text × Value)) : Except LooseFault Loose :=
  evolve {} entries

/-- The size that a value stands for. -/
def size? : Value → Option Int
  | .int n => some n
  | .bool b => some b.toNat
  | _ => none

/-- Settings with a margin of as many spaces as a value says, and changes to other fields. -/
def withIndent [Memory] (indent : Value) (entries : List (Text × Value)) :
    Except LooseFault Loose := do
  demand .margin (indent.isBelow? 0) .negativeIndent
  if entries.any fun e => e.1 = Field.margin.name then .error .marginGiven
  else match size? indent with
    | none => .error (.wrongKind .margin)
    | some count => match Text.countError? count with
      | some e => .error (.indentTooWide e)
      | none => build ((Change.indent count).entry :: entries)

def ofSettings (s : Settings) : Loose where
  tabSize := .int s.tabSize
  linesBefore := .int s.linesBefore
  linesAfter := .int s.linesAfter
  margin := .text s.margin
  marker := .text s.marker

def wording? : Value → Option Text
  | .text t => some t
  | _ => none

/-- The settings in which every field has its proper kind. -/
def toSettings? (s : Loose) : Option Settings := do
  let tabSize ← size? s.tabSize
  let linesBefore ← size? s.linesBefore
  let linesAfter ← size? s.linesAfter
  let margin ← wording? s.margin
  let marker ← wording? s.marker
  return { tabSize, linesBefore, linesAfter, margin, marker }

@[simp]
theorem toSettings?_ofSettings (s : Settings) : (ofSettings s).toSettings? = some s := rfl

theorem setNamed_ofSettings (s : Settings) (c : Change) :
    (ofSettings s).setNamed c.entry = .ok (ofSettings (s.set c)) := by
  cases c <;> rfl

theorem foldlM_setNamed_ofSettings (s : Settings) (changes : List Change) :
    (changes.map Change.entry).foldlM setNamed (ofSettings s) =
      .ok (ofSettings (s.setAll changes)) := by
  induction changes generalizing s with
  | nil => rfl
  | cons c rest ih =>
    rw [List.map_cons, List.foldlM_cons, setNamed_ofSettings]
    exact ih (s.set c)

theorem demand_decide (field : Field) (p : Prop) [Decidable p] (fault : LooseFault) :
    demand field (some (decide p)) fault = if p then .error fault else .ok () := by
  by_cases h : p <;> simp [demand, h]

theorem hasBreak?_text (t : Text) :
    hasBreak? (.text t) = some (decide ('\n' ∈ t ∨ '\r' ∈ t)) := by
  simp [hasBreak?, Value.holds?]

theorem length?_text (t : Text) :
    (Value.text t).length?.map (· != 1) = some (decide (t.length ≠ 1)) := by
  by_cases h : t.length = 1 <;> simp [Value.length?, h]

/-- On fields of the proper kind the rules are those of settings. -/
theorem check_ofSettings (s : Settings) :
    (ofSettings s).check = (s.check.map ofSettings).mapError LooseFault.ofFault := by
  unfold check Settings.check Settings.fault?
  simp only [ofSettings, Value.isBelow?, length?_text, hasBreak?_text, demand_decide]
  by_cases h1 : s.tabSize < 1
  · rw [if_pos h1, if_pos h1]; rfl
  rw [if_neg h1, if_neg h1]
  by_cases h2 : s.linesBefore < 0
  · rw [if_pos h2, if_pos h2]; rfl
  rw [if_neg h2, if_neg h2]
  by_cases h3 : s.linesAfter < 0
  · rw [if_pos h3, if_pos h3]; rfl
  rw [if_neg h3, if_neg h3]
  by_cases h4 : s.marker.length ≠ 1
  · rw [if_pos h4, if_pos h4]; rfl
  rw [if_neg h4, if_neg h4]
  by_cases h5 : '\n' ∈ s.margin ∨ '\r' ∈ s.margin
  · rw [if_pos h5, if_pos h5]; rfl
  · rw [if_neg h5, if_neg h5]; rfl

theorem evolve_ofSettings (s : Settings) (changes : List Change) :
    (ofSettings s).evolve (changes.map Change.entry) =
      ((s.evolve changes).map ofSettings).mapError LooseFault.ofFault := by
  unfold evolve Settings.evolve
  rw [foldlM_setNamed_ofSettings]
  exact check_ofSettings _

theorem any_isMargin (changes : List Change) :
    ((changes.map Change.entry).any fun e => e.1 = Field.margin.name) =
      changes.any Change.isMargin := by
  rw [List.any_map]
  congr 1
  funext c
  cases c <;> rfl

theorem withIndent_entries [Memory] {count : Int} (h : count ≤ Memory.maxRun)
    (changes : List Change) :
    withIndent (.int count) (changes.map Change.entry) =
      ((Settings.withIndent count changes).map ofSettings).mapError LooseFault.ofIndentFault := by
  unfold withIndent Settings.withIndent
  rw [any_isMargin, Value.isBelow?, demand_decide]
  by_cases h0 : count < 0
  · rw [if_pos h0, if_pos h0]; rfl
  rw [if_neg h0, if_neg h0]
  by_cases hm : changes.any Change.isMargin = true
  · rw [if_pos hm, if_pos hm]; rfl
  rw [if_neg hm, if_neg hm]
  have hn := Text.countError?_of_le (by omega) h
  have he := evolve_ofSettings {} (.indent count :: changes)
  have hb : build ((Change.indent count).entry :: changes.map Change.entry) =
      ((Settings.build (.indent count :: changes)).map ofSettings).mapError LooseFault.ofFault := he
  simp only [size?, hn, hb]
  cases Settings.build (.indent count :: changes) <;> rfl

end Loose

end SyntaxReport.Settings
