import Mathlib.Tactic.SplitIfs
import SyntaxReport.Command.Run
import SyntaxReport.Proofs.Outcome

/-! The stages of a run as rules: reading a file, finding the settings in a configuration document,
changing them by flags, and drawing the snippet. Each stage comes to exactly one result by its
rules, whatever has been logged before it. -/
namespace SyntaxReport.Command

open Settings (DocumentFault Field Loose LooseFault)

namespace Run

variable {α β ε : Type} {m : Run α} {f : α → Run β} {r r' : Except Problem α}

/-- The steps come to a result, whatever has been logged before them. -/
def ComesTo (m : Run α) (result : Except Problem α) : Prop :=
  ∀ entries, (m.run.run entries).1 = result

theorem ComesTo.unique (h : ComesTo m r) (h' : ComesTo m r') : r = r' :=
  (h []).symm.trans (h' [])

theorem comesTo_pure (a : α) : ComesTo (pure a) (.ok a) := fun _ => rfl

theorem comesTo_throw (p : Problem) : ComesTo (throw p : Run α) (.error p) := fun _ => rfl

theorem comesTo_log (logger : String) (text? : Option Text) : ComesTo (log logger text?) (.ok ()) :=
  fun _ => rfl

theorem comesTo_require (problem : ε → Problem) (result : Except ε α) :
    ComesTo (require problem result) (result.mapError problem) := by
  cases result with
  | ok a => exact comesTo_pure a
  | error e => exact comesTo_throw (problem e)

theorem fst_run_bind (m : Run α) (f : α → Run β) (entries : List LogEntry) :
    ((m >>= f).run.run entries).1 = match m.run.run entries with
      | (.ok a, logged) => ((f a).run.run logged).1
      | (.error p, _) => .error p := by
  simp only [ExceptT.run_bind, StateT.run_bind]
  cases m.run.run entries with
  | mk result logged => cases result <;> rfl

theorem ComesTo.bind_ok {a : α} {result : Except Problem β} (hm : ComesTo m (.ok a))
    (hf : ComesTo (f a) result) : ComesTo (m >>= f) result := by
  intro entries
  have ha := hm entries
  rw [fst_run_bind]
  cases hrun : m.run.run entries with
  | mk x logged =>
    rw [hrun] at ha
    cases ha
    exact hf logged

theorem ComesTo.bind_error {p : Problem} (hm : ComesTo m (.error p)) :
    ComesTo (m >>= f) (.error p) := by
  intro entries
  have hp := hm entries
  rw [fst_run_bind]
  cases hrun : m.run.run entries with
  | mk x logged =>
    rw [hrun] at hp
    cases hp
    rfl

end Run

open Run (ComesTo)

theorem comesTo_needed_none {α : Type} :
    ComesTo (needed (none : Option α)) (.error .nothingSupplied) :=
  Run.comesTo_throw _

theorem comesTo_needed_some {α : Type} (x : α) : ComesTo (needed (some x)) (.ok x) :=
  Run.comesTo_pure x

/-- What reading a file comes to. -/
inductive Reads (read : Reader) (path : Path) : Except Problem Text → Prop
  | nul (h : '\x00' ∈ path.text) : Reads read path (.error .nulInPath)
  | refused {e : FileError} (h : '\x00' ∉ path.text) (hread : read path = .error e) :
    Reads read path (.error (.file e path))
  | undecodable {bytes : List UInt8} (h : '\x00' ∉ path.text) (hread : read path = .ok bytes)
    (hdecode : Text.ofUtf8? bytes = none) : Reads read path (.error .notUtf8)
  | text {bytes : List UInt8} {t : Text} (h : '\x00' ∉ path.text) (hread : read path = .ok bytes)
    (hdecode : Text.ofUtf8? bytes = some t) : Reads read path (.ok (Line.unifyBreaks t))

/-- What a configuration document describes. The options stand in the table for this program inside
the table for all tools; where either is missing, the defaults hold. -/
inductive Describes [Memory] (complaint : Text → Text) (path text : Text) :
    Except DocumentFault Settings → Prop
  | malformed (hparse : Toml.parse text = .error .malformed) :
    Describes complaint path text (.error (.malformed path (complaint text)))
  | longNumber {count : Nat} (hparse : Toml.parse text = .error (.tooManyDigits count)) :
    Describes complaint path text (.error (.tooManyDigits count))
  | noTools {document : List (Text × Value)} (hparse : Toml.parse text = .ok document)
    (htool : document.lookup "tool".toList = none) : Describes complaint path text (.ok {})
  | toolNotATable {document : List (Text × Value)} {v : Value}
    (hparse : Toml.parse text = .ok document) (htool : document.lookup "tool".toList = some v)
    (hv : ∀ tools, v ≠ .table tools) : Describes complaint path text (.error .toolNotATable)
  | noOptions {document tools : List (Text × Value)} (hparse : Toml.parse text = .ok document)
    (htool : document.lookup "tool".toList = some (.table tools))
    (hown : tools.lookup Settings.tableName = none) : Describes complaint path text (.ok {})
  | notATable {document tools : List (Text × Value)} {v : Value}
    (hparse : Toml.parse text = .ok document)
    (htool : document.lookup "tool".toList = some (.table tools))
    (hown : tools.lookup Settings.tableName = some v) (hv : ∀ options, v ≠ .table options) :
    Describes complaint path text (.error (.notATable path))
  | options {document tools options : List (Text × Value)}
    (hparse : Toml.parse text = .ok document)
    (htool : document.lookup "tool".toList = some (.table tools))
    (hown : tools.lookup Settings.tableName = some (.table options)) :
    Describes complaint path text ((Settings.ofOptionTable options).mapError .option)

/-- What the flags make of settings. A flag without a value stands for a value of no proper kind,
and settings without flags are not checked again. -/
inductive Flagged [Memory] (base : Settings) (g : Given) : Except Problem Settings → Prop
  | noIndent (h : g.indent = some .nothing) : Flagged base g (.error .nothingSupplied)
  | wideIndent {n : Int} {e : CountError} (h : g.indent = some (.value n))
    (he : Text.countError? n = some e) : Flagged base g (.error (.settings (.indentTooWide e)))
  | unchanged (h : changes g = .ok []) : Flagged base g (.ok base)
  | rejected {entries : List (Text × Value)} {fault : LooseFault} (h : changes g = .ok entries)
    (hne : entries ≠ []) (hevolve : (Loose.ofSettings base).evolve entries = .error fault) :
    Flagged base g (.error (.settings fault))
  | changed {entries : List (Text × Value)} {s : Settings} (h : changes g = .ok entries)
    (hne : entries ≠ []) (hevolve : (Loose.ofSettings base).evolve entries = .ok (.ofSettings s)) :
    Flagged base g (.ok s)

/-- The configuration file that a command line names; an empty name is none. -/
def configName? (g : Given) : Option Path :=
  match g.config with
  | some (.value (c :: name)) => some (.ofText (c :: name))
  | _ => none

/-- What loading the settings from a configuration file comes to. -/
inductive Loads [Memory] (around : Surroundings) (name : Path) : Except Problem Settings → Prop
  | noHome {e : HomeError} (hpath : name.expanded around.homes = .error e) :
    Loads around name (.error (.home e))
  | unreadable {path : Path} {p : Problem} (hpath : name.expanded around.homes = .ok path)
    (hread : Reads around.read path (.error p)) : Loads around name (.error p)
  | described {path : Path} {t : Text} {r : Except DocumentFault Settings}
    (hpath : name.expanded around.homes = .ok path) (hread : Reads around.read path (.ok t))
    (hdoc : Describes around.complaint path.text t r) : Loads around name (r.mapError .document)

/-- What building the settings of a run comes to. -/
inductive Configures [Memory] (around : Surroundings) (g : Given) : Except Problem Settings → Prop
  | plain {r : Except Problem Settings} (hname : configName? g = none) (hflags : Flagged {} g r) :
    Configures around g r
  | unloaded {name : Path} {p : Problem} (hname : configName? g = some name)
    (hload : Loads around name (.error p)) : Configures around g (.error p)
  | loaded {name : Path} {base : Settings} {r : Except Problem Settings}
    (hname : configName? g = some name) (hload : Loads around name (.ok base))
    (hflags : Flagged base g r) : Configures around g r

/-- The span that a command line asks for, if its flags supply one. -/
def span? (a : Arguments) : Option Span :=
  (Extent.ofArguments? a).bind Extent.span?

/-- The path of the source, which may begin in a home directory. -/
def sourcePath (around : Surroundings) (a : Arguments) : Except HomeError Path :=
  (Path.ofText a.file).expanded around.homes

/-- What a run with complete arguments comes to: what it prints, or the problem that it meets. -/
inductive Prints [Memory] (around : Surroundings) (a : Arguments) : Except Problem Text → Prop
  | noHome {e : HomeError} (hpath : sourcePath around a = .error e) :
    Prints around a (.error (.home e))
  | unconfigured {path : Path} {p : Problem} (hpath : sourcePath around a = .ok path)
    (hsettings : Configures around a.given (.error p)) : Prints around a (.error p)
  | unreadable {path : Path} {s : Settings} {p : Problem} (hpath : sourcePath around a = .ok path)
    (hsettings : Configures around a.given (.ok s)) (hread : Reads around.read path (.error p)) :
    Prints around a (.error p)
  | noPlace {path : Path} {s : Settings} {t : Text} (hpath : sourcePath around a = .ok path)
    (hsettings : Configures around a.given (.ok s)) (hread : Reads around.read path (.ok t))
    (hspan : span? a = none) : Prints around a (.error .nothingSupplied)
  | undrawn {path : Path} {s : Settings} {t : Text} {span : Span} {e : RenderError}
    (hpath : sourcePath around a = .ok path) (hsettings : Configures around a.given (.ok s))
    (hread : Reads around.read path (.ok t)) (hspan : span? a = some span)
    (hrender : (Formatter.standard s).render span t = .error e) :
    Prints around a (.error (.unrenderable e))
  | drawn {path : Path} {s : Settings} {t : Text} {span : Span} {snippet : Text}
    (hpath : sourcePath around a = .ok path) (hsettings : Configures around a.given (.ok s))
    (hread : Reads around.read path (.ok t)) (hspan : span? a = some span)
    (hrender : (Formatter.standard s).render span t = .ok snippet) :
    Prints around a (.ok (shown a path snippet))

variable {around : Surroundings} {read : Reader} {path : Path} {g : Given} {a : Arguments}

theorem exists_reads (read : Reader) (path : Path) : ∃ r, Reads read path r := by
  by_cases h : '\x00' ∈ path.text
  · exact ⟨_, .nul h⟩
  · cases hread : read path with
    | error e => exact ⟨_, .refused h hread⟩
    | ok bytes =>
      cases hdecode : Text.ofUtf8? bytes with
      | none => exact ⟨_, .undecodable h hread hdecode⟩
      | some t => exact ⟨_, .text h hread hdecode⟩

theorem Reads.comesTo {r : Except Problem Text} (h : Reads read path r) :
    ComesTo (readText read path) r := by
  unfold readText
  cases h with
  | nul h =>
    rw [if_pos h]
    exact (Run.comesTo_throw _).bind_error
  | refused h hread =>
    rw [if_neg h, hread]
    exact (Run.comesTo_require _ _).bind_error
  | undecodable h hread hdecode =>
    rw [if_neg h, hread]
    refine (Run.comesTo_require _ _).bind_ok ?_
    rw [hdecode]
    exact Run.comesTo_throw _
  | text h hread hdecode =>
    rw [if_neg h, hread]
    refine (Run.comesTo_require _ _).bind_ok ?_
    rw [hdecode]
    exact Run.comesTo_pure _

theorem exists_describes [Memory] (complaint : Text → Text) (path text : Text) :
    ∃ r, Describes complaint path text r := by
  cases hparse : Toml.parse text with
  | error fault =>
    cases fault with
    | malformed => exact ⟨_, .malformed hparse⟩
    | tooManyDigits count => exact ⟨_, .longNumber hparse⟩
  | ok document =>
    cases htool : document.lookup "tool".toList with
    | none => exact ⟨_, .noTools hparse htool⟩
    | some v =>
      by_cases hv : ∃ tools, v = .table tools
      · obtain ⟨tools, rfl⟩ := hv
        cases hown : tools.lookup Settings.tableName with
        | none => exact ⟨_, .noOptions hparse htool hown⟩
        | some w =>
          by_cases hw : ∃ options, w = .table options
          · obtain ⟨options, rfl⟩ := hw
            exact ⟨_, .options hparse htool hown⟩
          · exact ⟨_, .notATable hparse htool hown fun options hw' => hw ⟨options, hw'⟩⟩
      · exact ⟨_, .toolNotATable hparse htool fun tools hv' => hv ⟨tools, hv'⟩⟩

theorem Describes.ofDocument_eq [Memory] {complaint : Text → Text} {path text : Text}
    {r : Except DocumentFault Settings} (h : Describes complaint path text r) :
    Settings.ofDocument complaint path text = r := by
  unfold Settings.ofDocument Settings.readOptions
  cases h with
  | malformed hparse => rw [hparse]; rfl
  | longNumber hparse => rw [hparse]; rfl
  | noTools hparse htool =>
    rw [hparse]
    simp only [Settings.documentOptions, htool]
    rfl
  | @toolNotATable document v hparse htool hv =>
    rw [hparse]
    simp only [Settings.documentOptions, htool]
    cases v with
    | table tools => exact absurd rfl (hv tools)
    | _ => rfl
  | noOptions hparse htool hown =>
    rw [hparse]
    simp only [Settings.documentOptions, htool, hown]
    rfl
  | @notATable document tools v hparse htool hown hv =>
    rw [hparse]
    simp only [Settings.documentOptions, htool, hown]
    cases v with
    | table options => exact absurd rfl (hv options)
    | _ => rfl
  | options hparse htool hown =>
    rw [hparse]
    simp only [Settings.documentOptions, htool, hown]
    rfl

/-- Once the document is read, what it describes decides; the log is written in between. -/
theorem document_comesTo [Memory] (complaint : Text → Text) (path t : Text) :
    ComesTo (do
      let options ← require .document (Settings.readOptions complaint path t)
      match options with
      | none => log "config" (some ("no [tool.".toList ++ Settings.tableName ++
          "] table in ".toList ++ path ++ ", using defaults".toList))
      | some entries => log "config" (some ("loaded formatter options from ".toList ++ path ++
          ": ".toList ++ optionList entries))
      require .document (Settings.ofOptions? options))
      ((Settings.ofDocument complaint path t).mapError .document) := by
  unfold Settings.ofDocument
  have hread := Run.comesTo_require Problem.document (Settings.readOptions complaint path t)
  cases hoptions : Settings.readOptions complaint path t with
  | error fault =>
    rw [hoptions] at hread
    exact hread.bind_error
  | ok options =>
    rw [hoptions] at hread
    refine hread.bind_ok ?_
    have hsettings := Run.comesTo_require Problem.document (Settings.ofOptions? options)
    cases options with
    | none => exact (Run.comesTo_log _ _).bind_ok hsettings
    | some entries => exact (Run.comesTo_log _ _).bind_ok hsettings

theorem comesTo_expanded {name : Path} {r : Except HomeError Path}
    (h : name.expanded around.homes = r) :
    ComesTo (require .home (name.expanded around.homes)) (r.mapError .home) := by
  rw [h]
  exact Run.comesTo_require _ _

theorem exists_loads [Memory] (around : Surroundings) (name : Path) : ∃ r, Loads around name r := by
  cases hpath : name.expanded around.homes with
  | error e => exact ⟨_, .noHome hpath⟩
  | ok path =>
    obtain ⟨p | t, hread⟩ := exists_reads around.read path
    · exact ⟨_, .unreadable hpath hread⟩
    · obtain ⟨r, hdoc⟩ := exists_describes around.complaint path.text t
      exact ⟨_, .described hpath hread hdoc⟩

theorem Loads.comesTo [Memory] {name : Path} {r : Except Problem Settings}
    (h : Loads around name r) :
    ComesTo (loadSettings around name) r := by
  unfold loadSettings
  cases h with
  | noHome hpath => exact (comesTo_expanded hpath).bind_error
  | unreadable hpath hread =>
    exact (comesTo_expanded hpath).bind_ok hread.comesTo.bind_error
  | @described path t r hpath hread hdoc =>
    refine (comesTo_expanded hpath).bind_ok (hread.comesTo.bind_ok ?_)
    rw [← hdoc.ofDocument_eq]
    exact document_comesTo around.complaint path.text t

/-- Whether a value can come from the flag of a field: it has the proper kind, or is the empty list
that stands for nothing. -/
def Suits : Field → Value → Prop
  | .margin, v => ∃ t, v = .text t
  | .marker, v => (∃ t, v = .text t) ∨ v = .list []
  | _, v => (∃ n, v = .int n) ∨ v = .list []

def fieldOf (s : Loose) : Field → Value
  | .tabSize => s.tabSize
  | .linesBefore => s.linesBefore
  | .linesAfter => s.linesAfter
  | .margin => s.margin
  | .marker => s.marker

theorem fieldOf_set (s : Loose) (v : Value) (f f' : Field) :
    fieldOf (s.set v f) f' = if f' = f then v else fieldOf s f' := by
  cases f <;> cases f' <;> rfl

def AllSuit (s : Loose) : Prop :=
  ∀ f, Suits f (fieldOf s f)

theorem allSuit_ofSettings (s : Settings) : AllSuit (.ofSettings s) := by
  intro f
  cases f with
  | margin => exact ⟨_, rfl⟩
  | _ => exact .inl ⟨_, rfl⟩

theorem AllSuit.set {s : Loose} (hs : AllSuit s) {f : Field} {v : Value} (hv : Suits f v) :
    AllSuit (s.set v f) := by
  intro f'
  rw [fieldOf_set]
  split_ifs with hf
  · rw [hf]
    exact hv
  · exact hs f'

/-- The entries name fields and hold values for them. -/
def EntriesSuit (entries : List (Text × Value)) : Prop :=
  ∀ e ∈ entries, ∃ f v, e = (Field.name f, v) ∧ Suits f v

theorem exists_foldlM_setNamed {entries : List (Text × Value)} (he : EntriesSuit entries)
    {s : Loose} (hs : AllSuit s) : ∃ s', entries.foldlM Loose.setNamed s = .ok s' ∧ AllSuit s' := by
  induction entries generalizing s with
  | nil => exact ⟨s, rfl, hs⟩
  | cons e rest ih =>
    obtain ⟨f, v, rfl, hv⟩ := he e List.mem_cons_self
    have hset : s.setNamed (f.name, v) = .ok (s.set v f) := by
      rw [Loose.setNamed, Settings.Field.named?_name]
    rw [List.foldlM_cons, hset, Outcome.ok_bind]
    exact ih (fun e' he' => he e' (List.mem_cons_of_mem _ he')) (hs.set hv)

theorem demand_eq_ok {f : Field} {isBroken : Option Bool} {fault : LooseFault} {u : Unit}
    (h : Loose.demand f isBroken fault = .ok u) : isBroken = some false := by
  rcases isBroken with _ | _ | _
  · cases h
  · rfl
  · cases h

/-- Fields that come from flags have the proper kind, if they break no rule. -/
theorem AllSuit.eq_ofSettings_of_check {s s' : Loose} (hs : AllSuit s) (h : s.check = .ok s') :
    ∃ t, s' = .ofSettings t := by
  unfold Loose.check at h
  obtain ⟨_, h1, h⟩ := Outcome.exists_of_bind_eq_ok h
  obtain ⟨_, h2, h⟩ := Outcome.exists_of_bind_eq_ok h
  obtain ⟨_, h3, h⟩ := Outcome.exists_of_bind_eq_ok h
  obtain ⟨_, h4, h⟩ := Outcome.exists_of_bind_eq_ok h
  obtain ⟨_, -, h⟩ := Outcome.exists_of_bind_eq_ok h
  cases h
  -- the empty list is not comparable with a number, and it is not one character long
  have hsize (bound : Int) (v : Value) (hv : (∃ n, v = .int n) ∨ v = .list [])
      (hb : v.isBelow? bound = some false) : ∃ n, v = .int n := by
    rcases hv with hv | rfl
    · exact hv
    · cases hb
  obtain ⟨tabSize, htab⟩ := hsize 1 _ (hs .tabSize) (demand_eq_ok h1)
  obtain ⟨before, hbefore⟩ := hsize 0 _ (hs .linesBefore) (demand_eq_ok h2)
  obtain ⟨after, hafter⟩ := hsize 0 _ (hs .linesAfter) (demand_eq_ok h3)
  obtain ⟨margin, hmargin⟩ := hs .margin
  obtain ⟨marker, hmarker⟩ : ∃ t, s.marker = .text t := by
    rcases hs .marker with hv | hv
    · exact hv
    · have hlength := demand_eq_ok h4
      rw [show s.marker = .list [] from hv] at hlength
      cases hlength
  refine ⟨⟨tabSize, before, after, margin, marker⟩, ?_⟩
  cases s
  cases htab
  cases hbefore
  cases hafter
  cases hmargin
  cases hmarker
  rfl

theorem entriesSuit_fieldEntry {α : Type} {f : Field} {ofValue : α → Value}
    (hvalue : ∀ x, Suits f (ofValue x)) (hnothing : Suits f (.list []))
    (given : Option (Supplied α)) : EntriesSuit (fieldEntry f ofValue given) := by
  intro e he
  rcases given with _ | x | _
  · cases he
  · exact ⟨f, ofValue x, List.mem_singleton.mp he, hvalue x⟩
  · exact ⟨f, .list [], List.mem_singleton.mp he, hnothing⟩

variable [Memory]

/-- The flags ask for changes to fields, unless the indent cannot be written. -/
theorem changes_cases (g : Given) :
    g.indent = some .nothing ∧ changes g = .error .nothingSupplied ∨
    (∃ n e, g.indent = some (.value n) ∧ Text.countError? n = some e ∧
      changes g = .error (.settings (.indentTooWide e))) ∨
    ∃ entries, changes g = .ok entries ∧ EntriesSuit entries := by
  have hsuit (margin : List (Text × Value)) (hmargin : EntriesSuit margin) :
      EntriesSuit (fieldEntry .tabSize .int g.tabSize ++ fieldEntry .linesBefore .int g.before ++
        fieldEntry .linesAfter .int g.after ++ margin ++ fieldEntry .marker .text g.marker) := by
    have htab :=
      entriesSuit_fieldEntry (f := .tabSize) (fun n => .inl ⟨n, rfl⟩) (.inr rfl) g.tabSize
    have hbefore :=
      entriesSuit_fieldEntry (f := .linesBefore) (fun n => .inl ⟨n, rfl⟩) (.inr rfl) g.before
    have hafter :=
      entriesSuit_fieldEntry (f := .linesAfter) (fun n => .inl ⟨n, rfl⟩) (.inr rfl) g.after
    have hmarker :=
      entriesSuit_fieldEntry (f := .marker) (fun t => .inl ⟨t, rfl⟩) (.inr rfl) g.marker
    simp only [EntriesSuit, List.forall_mem_append] at htab hbefore hafter hmargin hmarker ⊢
    exact ⟨⟨⟨⟨htab, hbefore⟩, hafter⟩, hmargin⟩, hmarker⟩
  unfold changes
  rcases g.indent with _ | n | _
  · exact .inr (.inr ⟨_, rfl, hsuit [] nofun⟩)
  · cases he : Text.countError? n with
    | some e => exact .inr (.inl ⟨n, e, rfl, he, by simp only [he]; rfl⟩)
    | none =>
      have hmargin : EntriesSuit [(Settings.Change.indent n).entry] := by
        intro entry hentry
        exact ⟨.margin, _, List.mem_singleton.mp hentry, _, rfl⟩
      exact .inr (.inr ⟨_, by simp only [he]; rfl, hsuit _ hmargin⟩)
  · exact .inl ⟨rfl, rfl⟩

theorem exists_flagged (base : Settings) (g : Given) : ∃ r, Flagged base g r := by
  obtain ⟨hindent, -⟩ | ⟨n, e, hindent, he, -⟩ | ⟨entries, hchanges, hsuit⟩ := changes_cases g
  · exact ⟨_, .noIndent hindent⟩
  · exact ⟨_, .wideIndent hindent he⟩
  · by_cases hne : entries = []
    · rw [hne] at hchanges
      exact ⟨_, .unchanged hchanges⟩
    · cases hevolve : (Loose.ofSettings base).evolve entries with
      | error fault => exact ⟨_, .rejected hchanges hne hevolve⟩
      | ok s =>
        -- flags set fields to proper values or to nothing, and the check lets nothing through
        obtain ⟨s', hfold, hall⟩ := exists_foldlM_setNamed hsuit (allSuit_ofSettings base)
        have hcheck := hevolve
        rw [Loose.evolve, hfold, Outcome.ok_bind] at hcheck
        obtain ⟨t, rfl⟩ := hall.eq_ofSettings_of_check hcheck
        exact ⟨_, .changed hchanges hne hevolve⟩

/-- The last steps of building the settings, from those of the configuration file on. -/
def flagSteps (base : Settings) (g : Given) : Run Settings := do
  match ← require id (changes g) with
  | [] => return base
  | entries => require id (evolved base entries)

theorem flagSteps_comesTo_error {base : Settings} {p : Problem} (h : changes g = .error p) :
    ComesTo (flagSteps base g) (.error p) := by
  have hrequire := Run.comesTo_require id (changes g)
  rw [h] at hrequire
  rw [flagSteps, h]
  exact hrequire.bind_error

theorem flagSteps_comesTo_evolved {base : Settings} {entries : List (Text × Value)}
    (h : changes g = .ok entries) (hne : entries ≠ []) {r : Except Problem Settings}
    (hr : evolved base entries = r) : ComesTo (flagSteps base g) r := by
  have hrequire := Run.comesTo_require id (changes g)
  rw [h] at hrequire
  rw [flagSteps, h]
  refine hrequire.bind_ok ?_
  have hlast := Run.comesTo_require id (evolved base entries)
  cases entries with
  | nil => exact absurd rfl hne
  | cons e rest =>
    rw [hr] at hlast
    change ComesTo (require id (evolved base (e :: rest))) r
    rw [hr]
    cases r <;> exact hlast

theorem Flagged.comesTo {base : Settings} {r : Except Problem Settings} (h : Flagged base g r) :
    ComesTo (flagSteps base g) r := by
  cases h with
  | noIndent hindent =>
    exact flagSteps_comesTo_error (by simp only [changes, hindent]; rfl)
  | wideIndent hindent he =>
    exact flagSteps_comesTo_error (by simp only [changes, hindent, he]; rfl)
  | unchanged h =>
    have hrequire := Run.comesTo_require id (changes g)
    rw [h] at hrequire
    rw [flagSteps, h]
    exact hrequire.bind_ok (Run.comesTo_pure base)
  | rejected h hne hevolve =>
    exact flagSteps_comesTo_evolved h hne (by rw [evolved, hevolve]; rfl)
  | changed h hne hevolve =>
    exact flagSteps_comesTo_evolved h hne (by rw [evolved, hevolve]; rfl)

theorem exists_configures (around : Surroundings) (g : Given) : ∃ r, Configures around g r := by
  cases hname : configName? g with
  | none =>
    obtain ⟨r, hflags⟩ := exists_flagged {} g
    exact ⟨r, .plain hname hflags⟩
  | some name =>
    obtain ⟨p | base, hload⟩ := exists_loads around name
    · exact ⟨_, .unloaded hname hload⟩
    · obtain ⟨r, hflags⟩ := exists_flagged base g
      exact ⟨r, .loaded hname hload hflags⟩

theorem settings_eq (around : Surroundings) (g : Given) :
    settings around g = (configName? g).elim (pure {}) (loadSettings around) >>=
      fun base => flagSteps base g := by
  unfold settings configName?
  rcases g.config with _ | (_ | ⟨c, name⟩) | _ <;> rfl

theorem Configures.comesTo {r : Except Problem Settings} (h : Configures around g r) :
    ComesTo (settings around g) r := by
  rw [settings_eq]
  cases h with
  | plain hname hflags =>
    rw [hname]
    exact (Run.comesTo_pure _).bind_ok hflags.comesTo
  | unloaded hname hload =>
    rw [hname]
    exact hload.comesTo.bind_error
  | loaded hname hload hflags =>
    rw [hname]
    exact hload.comesTo.bind_ok hflags.comesTo

theorem exists_prints (around : Surroundings) (a : Arguments) : ∃ r, Prints around a r := by
  cases hpath : sourcePath around a with
  | error e => exact ⟨_, .noHome hpath⟩
  | ok path =>
    obtain ⟨p | s, hsettings⟩ := exists_configures around a.given
    · exact ⟨_, .unconfigured hpath hsettings⟩
    obtain ⟨p | t, hread⟩ := exists_reads around.read path
    · exact ⟨_, .unreadable hpath hsettings hread⟩
    cases hspan : span? a with
    | none => exact ⟨_, .noPlace hpath hsettings hread hspan⟩
    | some span =>
      cases hrender : (Formatter.standard s).render span t with
      | error e => exact ⟨_, .undrawn hpath hsettings hread hspan hrender⟩
      | ok snippet => exact ⟨_, .drawn hpath hsettings hread hspan hrender⟩

/-- Once there are settings, a source and a span, the drawing alone decides. -/
theorem output_comesTo {s : Settings} {t : Text} {span : Span}
    (hpath : sourcePath around a = .ok path) (hsettings : Configures around a.given (.ok s))
    (hread : Reads around.read path (.ok t)) (hspan : span? a = some span) :
    ComesTo (output around a) ((((Formatter.standard s).render span t).mapError .unrenderable).map
      (shown a path)) := by
  obtain ⟨extent, hextent, hplaces⟩ := Option.bind_eq_some_iff.mp hspan
  have hdraw : ComesTo (do
      let snippet ← require .unrenderable ((Formatter.standard s).render span t)
      return shown a path snippet)
      ((((Formatter.standard s).render span t).mapError .unrenderable).map (shown a path)) := by
    have hrequire := Run.comesTo_require Problem.unrenderable ((Formatter.standard s).render span t)
    cases hrender : (Formatter.standard s).render span t with
    | error e =>
      rw [hrender] at hrequire
      exact hrequire.bind_error
    | ok snippet =>
      rw [hrender] at hrequire
      exact hrequire.bind_ok (Run.comesTo_pure _)
  unfold output
  refine (comesTo_expanded hpath).bind_ok (hsettings.comesTo.bind_ok (hread.comesTo.bind_ok ?_))
  rw [hextent]
  refine (comesTo_needed_some extent).bind_ok ?_
  rw [hplaces]
  refine (comesTo_needed_some span).bind_ok ((Run.comesTo_log _ _).bind_ok ?_)
  -- the fallback is logged or not, and the drawing is the same
  split_ifs
  · exact (Run.comesTo_log _ _).bind_ok hdraw
  · exact hdraw

theorem Prints.comesTo {r : Except Problem Text} (h : Prints around a r) :
    ComesTo (output around a) r := by
  cases h with
  | noHome hpath => exact (comesTo_expanded hpath).bind_error
  | unconfigured hpath hsettings =>
    exact (comesTo_expanded hpath).bind_ok hsettings.comesTo.bind_error
  | unreadable hpath hsettings hread =>
    exact (comesTo_expanded hpath).bind_ok (hsettings.comesTo.bind_ok hread.comesTo.bind_error)
  | noPlace hpath hsettings hread hspan =>
    unfold output
    refine (comesTo_expanded hpath).bind_ok (hsettings.comesTo.bind_ok (hread.comesTo.bind_ok ?_))
    unfold span? at hspan
    cases hextent : Extent.ofArguments? a with
    | none => exact comesTo_needed_none.bind_error
    | some extent =>
      rw [hextent] at hspan
      refine (comesTo_needed_some extent).bind_ok ?_
      rw [show extent.span? = none from hspan]
      exact comesTo_needed_none.bind_error
  | undrawn hpath hsettings hread hspan hrender =>
    have hout := output_comesTo hpath hsettings hread hspan
    rwa [hrender] at hout
  | drawn hpath hsettings hread hspan hrender =>
    have hout := output_comesTo hpath hsettings hread hspan
    rwa [hrender] at hout

end SyntaxReport.Command
