import Mathlib.Logic.Basic
import SyntaxReport.Proofs.Command.ExitStatus
import SyntaxReport.Proofs.Command.Flags
import SyntaxReport.Proofs.Snippet.Fits

/-! The layers of the settings of a run: a flag stands over the entry of the configuration document,
and the entry over the default, field by field. The document is checked by itself first, so that a
flag does not hide what is wrong in it; the fields that result are checked again. -/
namespace SyntaxReport.Command

open Settings (Overrides written? ofOptionTable)

/-- A file can be read, and its bytes are a text in UTF-8. -/
def HoldsText (read : Reader) (path : Path) (t : Text) : Prop :=
  '\x00' ∉ path.text ∧ ∃ bytes, read path = .ok bytes ∧ Text.ofUtf8? bytes = some t

/-- The entry for this program in a document: it stands in the table for all tools. -/
def ownValue? (document : List (Text × Value)) : Option Value :=
  match document.lookup "tool".toList with
  | some (.table tools) => tools.lookup Settings.tableName
  | _ => none

/-- The entry for this program in the configuration document of a command line, which has a table
for all tools or none. Without a document there is no entry either. -/
inductive OwnEntry (around : Surroundings) (g : Given) : Option Value → Prop
  | noDocument (hname : configName? g = none) : OwnEntry around g none
  | document {name path : Path} {t : Text} {document : List (Text × Value)}
    (hname : configName? g = some name) (hpath : name.expanded around.homes = .ok path)
    (htext : HoldsText around.read path t)
    (hparse : Toml.parse (Line.unifyBreaks t) = .ok document)
    (htool : ∀ v, document.lookup "tool".toList = some v → ∃ tools, v = .table tools) :
    OwnEntry around g (ownValue? document)

/-- Each field holds the flag's value, else the table's value, else the default. -/
def Layered (o : Overrides) (options : List (Text × Value)) (c : Settings) : Prop :=
  ∀ f, fieldOf (.ofSettings c) f =
    ((o.value? f).or (options.reverse.findSome? (written? f))).getD (fieldOf {} f)

/-- The numbers that say which characters are marked. -/
structure Extract where
  line : Int
  column : Int
  stopLine : Option Int := none
  stopColumn : Option Int := none
  length : Option Int := none

/-- The span reaches to the stop, if a part of it is given, or else over a number of characters. -/
def Extract.span (e : Extract) : Span where
  start := ⟨e.line, e.column⟩
  stop :=
    if e.stopLine.isSome ∨ e.stopColumn.isSome then
      ⟨e.stopLine.getD e.line, e.stopColumn.getD e.column⟩
    else ⟨e.line, e.column + max (e.length.getD 1) 1 - 1⟩

/-- The flags for the place that are used are these, and each has a value. -/
structure Places (a : Arguments) (e : Extract) : Prop where
  line : a.line = .value e.line
  column : a.column = .value e.column
  stopLine : a.given.stopLine = e.stopLine.map .value
  stopColumn : a.given.stopColumn = e.stopColumn.map .value
  length : a.given.length = e.length.map .value

/-- The line above the snippet, if a message is given that is not empty. -/
def header (a : Arguments) (path : Path) (e : Extract) : Text :=
  match a.given.message with
  | some (.value (c :: message)) => path.text ++ [':'] ++ Text.ofInt e.line ++ [':'] ++
      Text.ofInt e.column ++ ": ".toList ++ c :: message ++ ['\n']
  | _ => []

/-- What is printed of a snippet: the snippet itself below the header, or a document with the
snippet as its last value. -/
structure Printed (a : Arguments) (path : Path) (e : Extract) (snippet out : Text) : Prop where
  text : a.given.json = false → out = header a path e ++ snippet
  json : a.given.json = true → out = Json.object
    [("file".toList, Json.string path.text),
      ("message".toList, messageJson a.given.message),
      ("snippet".toList, Json.string snippet)] ++ ['\n']

/-- The runs of spaces that the snippet of a span needs can be written. -/
def SpanFits [Memory] (c : Settings) (span : Span) (source : Text) : Prop :=
  ∀ resolved, span.normalized = some resolved → (Formatter.standard c).Fits resolved source

/-- How a run ends whose fields are those of `c`. -/
structure EndsUnder [Memory] (a : Arguments) (path : Path) (o : Overrides) (c : Settings)
    (e : Extract) (source : Text) (outcome : Outcome) : Prop where
  tooWide : ∀ n cause, o.indent = some n → Text.countError? n = some cause →
    outcome = .crashed (.settings (.indentTooWide cause))
  invalid : o.Writable → ¬ c.Valid → ∃ err, outcome = .finished 2 [] err
  printed : o.Writable → c.Valid → SpanFits c e.span source → ∃ snippet out err,
    (Formatter.standard c).render e.span source = .ok snippet ∧ outcome = .finished 0 out err ∧
      Printed a path e snippet out
  undrawn : o.Writable → c.Valid → ¬ SpanFits c e.span source →
    ∃ cause, outcome = .crashed (.unrenderable (.line (.spaces cause)))

/-- How a run ends, given the entry for this program in the configuration document. -/
structure Layers [Memory] (a : Arguments) (path : Path) (own : Option Value) (source : Text)
    (outcome : Outcome) : Prop where
  notATable : ∀ v, own = some v → (∀ options, v ≠ .table options) →
    ∃ err, outcome = .finished 2 [] err
  refused : ∀ options fault message, own = some (.table options) →
    ofOptionTable options = .error fault → fault.message? = some message →
    ∃ err, outcome = .finished 2 [] err
  silent : ∀ options fault, own = some (.table options) → ofOptionTable options = .error fault →
    fault.message? = none → outcome = .crashed (.document (.option fault))
  accepted : ∀ options base o e, own.getD (.table []) = .table options →
    ofOptionTable options = .ok base → Supplies a.given o → Places a e →
    ∃ c, Layered o options c ∧ EndsUnder a path o c e source outcome

variable {around : Surroundings} {words : List Text} {a : Arguments} {own : Option Value}

theorem HoldsText.reads {read : Reader} {path : Path} {t : Text} (h : HoldsText read path t) :
    Reads read path (.ok (Line.unifyBreaks t)) := by
  obtain ⟨hnul, bytes, hread, hdecode⟩ := h
  exact .text hnul hread hdecode

theorem span?_of_places {e : Extract} (h : Places a e) : span? a = some e.span := by
  obtain ⟨line, column, stopLine, stopColumn, length⟩ := e
  unfold span? Extent.ofArguments?
  rw [h.stopLine, h.stopColumn, h.line, h.column, h.length]
  cases stopLine <;> cases stopColumn <;> cases length <;> rfl

theorem printed_shown {e : Extract} (h : Places a e) (path : Path) (snippet : Text) :
    Printed a path e snippet (shown a path snippet) := by
  unfold shown
  constructor
  · intro hjson
    rw [hjson, if_neg Bool.false_ne_true, header, h.line, h.column]
    -- a message that is empty stands for none
    rcases a.given.message with _ | (_ | ⟨c, message⟩) | _
    · rfl
    · rfl
    · simp only [Supplied.text, List.append_assoc]
    · rfl
  · intro hjson
    rw [hjson, if_pos rfl]

section

variable [Memory]

/-- The settings of a document, by the entry for this program alone. -/
def ofOwn (path : Text) : Option Value → Except Settings.DocumentFault Settings
  | none => .ok {}
  | some (.table options) => (ofOptionTable options).mapError .option
  | some _ => .error (.notATable path)

theorem ofOwn_of_not_table (path : Text) {v : Value} (hv : ∀ options, v ≠ .table options) :
    ofOwn path (some v) = .error (.notATable path) := by
  cases v with
  | table options => exact absurd rfl (hv options)
  | _ => rfl

theorem ofOwn_of_error (path : Text) {options : List (Text × Value)} {fault : Settings.OptionFault}
    (h : ofOptionTable options = .error fault) :
    ofOwn path (some (.table options)) = .error (.option fault) := by
  rw [ofOwn, h, Outcome.mapError_error]

theorem ofOwn_of_ok (path : Text) {options : List (Text × Value)} {base : Settings}
    (hown : own.getD (.table []) = .table options) (h : ofOptionTable options = .ok base) :
    ofOwn path own = .ok base := by
  cases own with
  | none =>
    -- a missing table is like an empty one
    obtain rfl := Value.table.inj hown
    have hempty : ofOptionTable [] = .ok {} := rfl
    obtain rfl := Except.ok.inj (hempty.symm.trans h)
    rfl
  | some v =>
    obtain rfl : v = .table options := hown
    rw [ofOwn, h, Outcome.mapError_ok]

theorem describes_ofOwn (complaint : Text → Text) (path : Text) {text : Text}
    {document : List (Text × Value)} (hparse : Toml.parse text = .ok document)
    (htool : ∀ v, document.lookup "tool".toList = some v → ∃ tools, v = .table tools) :
    Describes complaint path text (ofOwn path (ownValue? document)) := by
  unfold ownValue?
  cases hlookup : document.lookup "tool".toList with
  | none => exact .noTools hparse hlookup
  | some v =>
    obtain ⟨tools, rfl⟩ := htool v hlookup
    dsimp only
    cases hown : tools.lookup Settings.tableName with
    | none => exact .noOptions hparse hlookup hown
    | some w =>
      by_cases hw : ∃ options, w = .table options
      · obtain ⟨options, rfl⟩ := hw
        exact .options hparse hlookup hown
      · have hne : ∀ options, w ≠ .table options := fun options h => hw ⟨options, h⟩
        rw [ofOwn_of_not_table path hne]
        exact .notATable hparse hlookup hown hne

/-- A fault of the document ends the run whatever the flags are, and the flags are put over its
settings otherwise. -/
theorem configures_of_own {g : Given} (h : OwnEntry around g own) : ∃ path,
    (∀ fault, ofOwn path own = .error fault → Configures around g (.error (.document fault))) ∧
      ∀ base r, ofOwn path own = .ok base → Flagged base g r → Configures around g r := by
  cases h with
  | noDocument hname =>
    refine ⟨[], nofun, ?_⟩
    intro base r hbase hflags
    obtain rfl := Except.ok.inj hbase
    exact .plain hname hflags
  | @document _ path _ _ hname hpath htext hparse htool =>
    have hdescribes := describes_ofOwn around.complaint path.text hparse htool
    have hload := Loads.described hpath htext.reads hdescribes
    refine ⟨path.text, ?_, ?_⟩
    · intro fault hfault
      rw [hfault] at hload
      exact .unloaded hname hload
    · intro base r hbase hflags
      rw [hbase] at hload
      exact .loaded hname hload hflags

theorem exists_finished_two {path : Path} {p : Problem} {message : Text}
    (hparse : Arguments.parse around.keepsSeparator words = .ok a)
    (hpath : sourcePath around a = .ok path) (h : Configures around a.given (.error p))
    (hm : p.message? = some message) : ∃ err, run around words = .finished 2 [] err := by
  obtain ⟨logged, -, hrun⟩ := run_eq_endOf hparse (.unconfigured hpath h)
  exact ⟨_, hrun.trans (endOf_eq_finished_two_iff.mpr ⟨p, message, rfl, hm, rfl, rfl⟩)⟩

theorem run_eq_crashed {p : Problem} (hparse : Arguments.parse around.keepsSeparator words = .ok a)
    (h : Prints around a (.error p)) (hm : p.message? = none) : run around words = .crashed p := by
  obtain ⟨logged, -, hrun⟩ := run_eq_endOf hparse h
  exact hrun.trans (endOf_eq_crashed_iff.mpr ⟨rfl, hm⟩)

theorem layered_onto {o : Overrides} {options : List (Text × Value)} {base : Settings}
    (h : ofOptionTable options = .ok base) : Layered o options (o.onto base) := by
  obtain ⟨-, hlast, -⟩ := (Settings.ofOptionTable_eq_ok_iff options base).mp h
  intro f
  rw [o.fieldOf_onto, hlast f, Option.getD_or]

theorem render_of_spanFits {c : Settings} (hc : c.Valid) {span : Span} {source : Text}
    (hs : source.length < Text.wordBound) (h : SpanFits c span source) :
    ∃ snippet, (Formatter.standard c).render span source = .ok snippet := by
  cases hn : span.normalized with
  | none => exact ⟨_, by rw [Formatter.render, hn]⟩
  | some resolved =>
    obtain ⟨rows, -, hrender⟩ := Formatter.render_of_fits hc hn hs (h resolved hn)
    exact ⟨_, hrender none⟩

theorem render_of_not_spanFits {c : Settings} (hc : c.Valid) {span : Span} {source : Text}
    (hs : source.length < Text.wordBound) (h : ¬ SpanFits c span source) :
    ∃ cause, (Formatter.standard c).render span source = .error (.line (.spaces cause)) := by
  obtain ⟨resolved, hresolved⟩ := not_forall.mp h
  obtain ⟨hn, hfits⟩ := Classical.not_imp.mp hresolved
  obtain ⟨cause, hrender⟩ := Formatter.render_of_not_fits hc hn hs hfits
  exact ⟨cause, hrender none⟩

theorem endsUnder_run {path : Path} {o : Overrides} {e : Extract} {base : Settings} {source : Text}
    (hparse : Arguments.parse around.keepsSeparator words = .ok a)
    (hpath : sourcePath around a = .ok path)
    (hsettings : ∀ r, Flagged base a.given r → Configures around a.given r) (hbase : base.Valid)
    (hsource : Reads around.read path (.ok source)) (hs : source.length < Text.wordBound)
    (ho : Supplies a.given o) (he : Places a e) :
    EndsUnder a path o (o.onto base) e source (run around words) := by
  have hspan := span?_of_places he
  have hchecked (hw : o.Writable) := hsettings _ (flagged_of_supplies hbase ho hw)
  constructor
  · -- the indent is looked at before the fields are checked, so the other flags do not matter
    intro n cause hn hcause
    have hflags := flagged_of_not_writable base ho hn hcause
    exact run_eq_crashed hparse (.unconfigured hpath (hsettings _ hflags)) rfl
  · intro hw hc
    obtain ⟨fault, hfault⟩ := Settings.exists_check_eq_error hc
    have hrejected := hchecked hw
    rw [hfault] at hrejected
    have hm := Settings.LooseFault.message?_ofFault fault
    exact exists_finished_two hparse hpath hrejected hm
  · intro hw hc hfits
    have hconfigured := hchecked hw
    rw [Settings.check_of_valid hc] at hconfigured
    obtain ⟨snippet, hrender⟩ := render_of_spanFits hc hs hfits
    have hdrawn := Prints.drawn hpath hconfigured hsource hspan hrender
    obtain ⟨logged, -, hrun⟩ := run_eq_endOf hparse hdrawn
    exact ⟨snippet, _, logged, hrender, hrun, printed_shown he path snippet⟩
  · intro hw hc hfits
    have hconfigured := hchecked hw
    rw [Settings.check_of_valid hc] at hconfigured
    obtain ⟨cause, hrender⟩ := render_of_not_spanFits hc hs hfits
    have hundrawn := Prints.undrawn hpath hconfigured hsource hspan hrender
    exact ⟨cause, run_eq_crashed hparse hundrawn rfl⟩

/-- Whatever the flags are, a document that is refused ends the run with status two, if the refusal
has a message. Otherwise flags stand over the document and the document over the defaults, field by
field: fields that break a rule end the run with status two, and with others the snippet is printed,
unless the indent or a run of spaces in the snippet cannot be written. -/
theorem run_layers {path : Path} {t : Text}
    (hparse : Arguments.parse around.keepsSeparator words = .ok a)
    (hown : OwnEntry around a.given own) (hpath : sourcePath around a = .ok path)
    (hsource : HoldsText around.read path t) (hs : (Line.unifyBreaks t).length < Text.wordBound) :
    Layers a path own (Line.unifyBreaks t) (run around words) := by
  obtain ⟨document, hfaulty, hfine⟩ := configures_of_own hown
  constructor
  · intro v hv hne
    rw [hv] at hfaulty
    exact exists_finished_two hparse hpath (hfaulty _ (ofOwn_of_not_table document hne)) rfl
  · intro options fault message hoptions hfault hm
    rw [hoptions] at hfaulty
    exact exists_finished_two hparse hpath (hfaulty _ (ofOwn_of_error document hfault)) hm
  · intro options fault hoptions hfault hm
    rw [hoptions] at hfaulty
    have hunconfigured := hfaulty _ (ofOwn_of_error document hfault)
    exact run_eq_crashed hparse (.unconfigured hpath hunconfigured) hm
  · intro options base o e hoptions hbase ho he
    have hvalid := Settings.valid_of_ofOptionTable hbase
    have hsettings (r : Except Problem Settings) :=
      hfine base r (ofOwn_of_ok document hoptions hbase)
    refine ⟨o.onto base, layered_onto hbase, ?_⟩
    exact endsUnder_run hparse hpath hsettings hvalid hsource.reads hs ho he

end

theorem valid_onto_indent (n : Int) : (Overrides.onto { indent := some n } {}).Valid := by
  have hspaces (c : Char) (hc : c ≠ ' ') : c ∉ Text.spaces n := by
    intro hmem
    exact hc (List.eq_of_mem_replicate hmem)
  exact { Settings.valid_default with
    margin_unbroken := ⟨hspaces '\n' (by decide), hspaces '\r' (by decide)⟩ }

/-- The words of a command line that asks for the second character of a file, with an indent and a
configuration document. -/
def secondCharacter : List Text :=
  ["f".toList, "--line".toList, "1".toList, "--column".toList, "1".toList, "--config".toList,
    "p".toList, "--indent".toList, "2".toList]

def secondCharacterArguments : Arguments where
  file := "f".toList
  line := .value 1
  column := .value 1
  given := {
    file := some "f".toList, line := some (.value 1), column := some (.value 1)
    config := some (.value "p".toList), indent := some (.value 2) }

def narrowTabs : Text :=
  "[tool.parsediag]\ntab-size = 2\n".toList

/-- The document asks for narrow tabs, and every other file begins with a tab. -/
def tabbedFiles : Reader := fun path =>
  .ok (if path = .ofText "p".toList then narrowTabs.map fun c => c.toNat.toUInt8 else [9, 120])

/-- The only option of a document is its size of tabs. Values cannot be compared, but the texts and
the number in them can. -/
def isTabSizeOnly (size : Int) : List (Text × Value) → Bool
  | [(tool, .table [(own, .table [(key, .int n)])])] =>
    tool = "tool".toList ∧ own = "parsediag".toList ∧ key = "tab-size".toList ∧ n = size
  | _ => false

theorem eq_of_isTabSizeOnly {size : Int} {document : List (Text × Value)}
    (h : isTabSizeOnly size document = true) : document = [("tool".toList, .table
      [("parsediag".toList, .table [("tab-size".toList, .int size)])])] := by
  unfold isTabSizeOnly at h
  split at h
  · obtain ⟨rfl, rfl, rfl, rfl⟩ := of_decide_eq_true h
    rfl
  · cases h

theorem parse_narrowTabs : Toml.parse (Line.unifyBreaks narrowTabs) = .ok [("tool".toList, .table
    [("parsediag".toList, .table [("tab-size".toList, .int 2)])])] := by
  have honly :
      (Toml.parse (Line.unifyBreaks narrowTabs)).toOption.any (isTabSizeOnly 2) = true := by
    decide +kernel
  cases hparse : Toml.parse (Line.unifyBreaks narrowTabs) with
  | error fault =>
    rw [hparse] at honly
    cases honly
  | ok document =>
    rw [hparse] at honly
    rw [eq_of_isTabSizeOnly honly]

/-- The tab has the size that the document asks for, and the margin is that of the flag. -/
theorem run_layers_narrow_tabs :
    Arguments.parse false secondCharacter = .ok secondCharacterArguments ∧
      ∃ err, run (.homeless tabbedFiles) secondCharacter =
        .finished 0 "    x\n    ^\n".toList err := by
  have hparse : Arguments.parse false secondCharacter = .ok secondCharacterArguments := rfl
  have hdocument : HoldsText tabbedFiles (.ofText "p".toList) narrowTabs :=
    ⟨by decide, _, rfl, by decide +kernel⟩
  have hown : OwnEntry (.homeless tabbedFiles) secondCharacterArguments.given
      (some (.table [("tab-size".toList, .int 2)])) := by
    apply OwnEntry.document rfl rfl hdocument parse_narrowTabs
    intro v hv
    exact ⟨_, (Option.some.inj hv).symm⟩
  have hsource : HoldsText tabbedFiles (.ofText "f".toList) ['\t', 'x'] :=
    ⟨by decide, _, rfl, by decide +kernel⟩
  have hlayers : Layers secondCharacterArguments (.ofText "f".toList)
      (some (.table [("tab-size".toList, .int 2)])) (Line.unifyBreaks ['\t', 'x'])
      (run (.homeless tabbedFiles) secondCharacter) :=
    run_layers hparse hown rfl hsource (by decide)
  obtain ⟨c, hlayered, hends⟩ := hlayers.accepted
    _ { tabSize := 2 } { indent := some 2 } ⟨1, 1, none, none, none⟩ rfl rfl
    ⟨rfl, rfl, rfl, rfl, rfl⟩ ⟨rfl, rfl, rfl, rfl, rfl⟩
  obtain rfl : c = { tabSize := 2, margin := [' ', ' '] } := by
    apply Settings.eq_of_fieldOf
    intro f
    rw [hlayered f]
    cases f <;> rfl
  have hvalid : Settings.Valid { tabSize := 2, margin := [' ', ' '] } :=
    ⟨by decide, by decide, by decide, by decide, by decide⟩
  have hwritable : Overrides.Writable { indent := some 2 } := by
    intro n hn
    obtain rfl := Option.some.inj hn
    decide
  have hfits : SpanFits { tabSize := 2, margin := [' ', ' '] } ⟨⟨1, 1⟩, ⟨1, 1⟩⟩ ['\t', 'x'] := by
    intro resolved hresolved
    obtain rfl := Option.some.inj hresolved
    exact Formatter.fits_of_le hvalid (by decide) (by decide) (by decide) _
  obtain ⟨snippet, out, err, hrender, hrun, hout⟩ := hends.printed hwritable hvalid hfits
  have hsnippet : (Formatter.standard { tabSize := 2, margin := [' ', ' '] }).render
      ⟨⟨1, 1⟩, ⟨1, 1⟩⟩ ['\t', 'x'] = .ok "    x\n    ^\n".toList := by decide +kernel
  obtain rfl := Except.ok.inj (hsnippet.symm.trans hrender)
  obtain rfl := hout.text rfl
  exact ⟨hparse, err, hrun⟩

def wideIndent : List Text :=
  firstCharacter ++
    ["--config".toList, "p".toList, "--indent".toList, "9223372036854775808".toList]

def wideIndentArguments : Arguments where
  file := "f".toList
  line := .value 1
  column := .value 0
  given := {
    file := some "f".toList, line := some (.value 1), column := some (.value 0)
    config := some (.value "p".toList), indent := some (.value 9223372036854775808) }

/-- The settings that the flag asks for are valid, but so many spaces cannot be written, and the
program ends without a status. -/
theorem run_crashes_on_wide_indent :
    Arguments.parse false wideIndent = .ok wideIndentArguments ∧
      Supplies wideIndentArguments.given { indent := some 9223372036854775808 } ∧
      OwnEntry (.homeless fun _ => .ok []) wideIndentArguments.given none ∧
      HoldsText (fun _ => .ok []) (.ofText "f".toList) [] ∧
      (Overrides.onto { indent := some 9223372036854775808 } {}).Valid ∧
      run (.homeless fun _ => .ok []) wideIndent =
        .crashed (.settings (.indentTooWide .notAWord)) := by
  have hdocument : HoldsText (fun _ => .ok []) (.ofText "p".toList) [] := ⟨by decide, _, rfl, rfl⟩
  have hempty : Toml.parse (Line.unifyBreaks []) = .ok [] := rfl
  refine ⟨rfl, ⟨rfl, rfl, rfl, rfl, rfl⟩, ?_, ⟨by decide, _, rfl, rfl⟩, ?_, rfl⟩
  · exact .document rfl rfl hdocument hempty nofun
  · exact valid_onto_indent _

end SyntaxReport.Command
