import SyntaxReport.Proofs.Command.Stages

/-! How a run ends. It prints and exits with status zero, or it exits with status two and one line
that gives the reason, or it ends without a status. Status two stands for settings that cannot be
built and for files that cannot be read, as far as there is a message for the problem. -/
namespace SyntaxReport.Command

open Run (ComesTo)

/-- The end of a run that comes to a result. -/
def endOf (logged : Text) : Except Problem Text → Outcome
  | .ok out => .finished 0 out logged
  | .error p => match p.message? with
    | some reason => .finished 2 [] (logged ++ "parsediag: ".toList ++ reason ++ ['\n'])
    | none => .crashed p

section Ends

variable {logged out err : Text} {r : Except Problem Text} {p : Problem}

theorem endOf_eq_finished_zero_iff :
    endOf logged r = .finished 0 out err ↔ r = .ok out ∧ logged = err := by
  cases r with
  | ok out' => simp [endOf]
  | error p => cases hm : p.message? <;> simp [endOf, hm]

theorem endOf_eq_finished_two_iff :
    endOf logged r = .finished 2 out err ↔ ∃ p reason, r = .error p ∧ p.message? = some reason ∧
      out = [] ∧ err = logged ++ "parsediag: ".toList ++ reason ++ ['\n'] := by
  cases r with
  | ok out' => simp [endOf]
  | error p => cases hm : p.message? <;> simp [endOf, hm, eq_comm]

theorem endOf_eq_crashed_iff :
    endOf logged r = .crashed p ↔ r = .error p ∧ p.message? = none := by
  cases r with
  | ok out' => simp [endOf]
  | error q =>
    cases hm : q.message? with
    | none =>
      simp only [endOf, hm, Outcome.crashed.injEq, Except.error.injEq]
      constructor
      · rintro rfl
        exact ⟨rfl, hm⟩
      · exact And.left
    | some reason =>
      simp only [endOf, hm, reduceCtorEq, Except.error.injEq, false_iff, not_and]
      rintro rfl hp
      rw [hm] at hp
      cases hp

theorem endOf_cases (logged : Text) (r : Except Problem Text) :
    (∃ out err, endOf logged r = .finished 0 out err) ∨
      (∃ out err, endOf logged r = .finished 2 out err) ∨ ∃ p, endOf logged r = .crashed p := by
  cases r with
  | ok out => exact .inl ⟨out, logged, rfl⟩
  | error p =>
    cases hm : p.message? with
    | none => exact .inr (.inr ⟨p, endOf_eq_crashed_iff.mpr ⟨rfl, hm⟩⟩)
    | some reason =>
      exact .inr (.inl ⟨_, _, endOf_eq_finished_two_iff.mpr ⟨p, reason, rfl, hm, rfl, rfl⟩⟩)

end Ends

variable {around : Surroundings} {words : List Text} {a : Arguments}

section

variable [Memory]

/-- The settings cannot be built, or one of the files cannot be read; the home directory of the
source is looked up before both. -/
inductive Hindered (around : Surroundings) (a : Arguments) : Problem → Prop
  | noHome {e : HomeError} (hpath : sourcePath around a = .error e) : Hindered around a (.home e)
  | unconfigured {path : Path} {p : Problem} (hpath : sourcePath around a = .ok path)
    (hsettings : Configures around a.given (.error p)) : Hindered around a p
  | unreadable {path : Path} {s : Settings} {p : Problem} (hpath : sourcePath around a = .ok path)
    (hsettings : Configures around a.given (.ok s)) (hread : Reads around.read path (.error p)) :
    Hindered around a p

/-- The settings are built and the files are read, but there is no span, or the snippet cannot be
drawn. -/
inductive Undrawn (around : Surroundings) (a : Arguments) : Problem → Prop
  | noPlace {path : Path} {s : Settings} {t : Text} (hpath : sourcePath around a = .ok path)
    (hsettings : Configures around a.given (.ok s)) (hread : Reads around.read path (.ok t))
    (hspan : span? a = none) : Undrawn around a .nothingSupplied
  | undrawable {path : Path} {s : Settings} {t : Text} {span : Span} {e : RenderError}
    (hpath : sourcePath around a = .ok path) (hsettings : Configures around a.given (.ok s))
    (hread : Reads around.read path (.ok t)) (hspan : span? a = some span)
    (hrender : (Formatter.standard s).render span t = .error e) :
    Undrawn around a (.unrenderable e)

theorem prints_error_iff {p : Problem} :
    Prints around a (.error p) ↔ Hindered around a p ∨ Undrawn around a p := by
  constructor
  · intro h
    cases h with
    | noHome hpath => exact .inl (.noHome hpath)
    | unconfigured hpath hsettings => exact .inl (.unconfigured hpath hsettings)
    | unreadable hpath hsettings hread => exact .inl (.unreadable hpath hsettings hread)
    | noPlace hpath hsettings hread hspan => exact .inr (.noPlace hpath hsettings hread hspan)
    | undrawn hpath hsettings hread hspan hrender =>
      exact .inr (.undrawable hpath hsettings hread hspan hrender)
  · rintro (h | h)
    · cases h with
      | noHome hpath => exact .noHome hpath
      | unconfigured hpath hsettings => exact .unconfigured hpath hsettings
      | unreadable hpath hsettings hread => exact .unreadable hpath hsettings hread
    · cases h with
      | noPlace hpath hsettings hread hspan => exact .noPlace hpath hsettings hread hspan
      | undrawable hpath hsettings hread hspan hrender =>
        exact .undrawn hpath hsettings hread hspan hrender

theorem Undrawn.message?_eq_none {p : Problem} (h : Undrawn around a p) : p.message? = none := by
  cases h <;> rfl

theorem Prints.iff_eq {r x : Except Problem Text} (h : Prints around a r) :
    Prints around a x ↔ r = x := by
  constructor
  · intro hx
    exact h.comesTo.unique hx.comesTo
  · rintro rfl
    exact h

theorem run_eq_endOf {r : Except Problem Text}
    (h : Arguments.parse around.keepsSeparator words = .ok a) (hr : Prints around a r) :
    ∃ logged, (a.given.verbose = false → logged = []) ∧ run around words = endOf logged r := by
  have hresult := hr.comesTo []
  cases hrun : (output around a).run.run [] with
  | mk result entries =>
    rw [hrun] at hresult
    cases hresult
    refine ⟨if a.given.verbose then entries.flatMap (LogEntry.line around.mishap) else [], ?_, ?_⟩
    · intro hverbose
      rw [hverbose, if_neg Bool.false_ne_true]
    · unfold run
      rw [h]
      dsimp only
      rw [hrun]
      cases result with
      | ok out => rfl
      | error p =>
        cases hm : p.message? <;> simp only [endOf, hm]

/-- How a run ends: which inputs lead to which status, and what is written with status two. -/
structure Exits (around : Surroundings) (a : Arguments) (outcome : Outcome) : Prop where
  status : (∃ out err, outcome = .finished 0 out err) ∨
    (∃ out err, outcome = .finished 2 out err) ∨ ∃ p, outcome = .crashed p
  printed : ∀ out, (∃ err, outcome = .finished 0 out err) ↔ Prints around a (.ok out)
  reported : (∃ out err, outcome = .finished 2 out err) ↔
    ∃ p reason, Hindered around a p ∧ p.message? = some reason
  report : ∀ out err, outcome = .finished 2 out err → out = [] ∧ ∃ p reason logged,
    Hindered around a p ∧ p.message? = some reason ∧ (a.given.verbose = false → logged = []) ∧
    err = logged ++ "parsediag: ".toList ++ reason ++ ['\n']
  crashed : ∀ p, outcome = .crashed p ↔
    Hindered around a p ∧ p.message? = none ∨ Undrawn around a p

theorem hindered_of_message? {p : Problem} {reason : Text} (h : Prints around a (.error p))
    (hm : p.message? = some reason) : Hindered around a p := by
  -- a problem with a message is met before anything is drawn
  rcases prints_error_iff.mp h with hp | hp
  · exact hp
  · rw [hp.message?_eq_none] at hm
    cases hm

/-- Status two stands for settings that cannot be built and files that cannot be read, and comes
with the reason, whenever there is a message for it; all other problems end the program without a
status. -/
theorem run_exits (h : Arguments.parse around.keepsSeparator words = .ok a) :
    Exits around a (run around words) := by
  -- there is one result, so each ending is a question about it
  obtain ⟨r, hr⟩ := exists_prints around a
  obtain ⟨logged, hlogged, hrun⟩ := run_eq_endOf h hr
  rw [hrun]
  constructor
  · exact endOf_cases logged r
  · intro out
    rw [hr.iff_eq]
    constructor
    · rintro ⟨err, he⟩
      exact (endOf_eq_finished_zero_iff.mp he).1
    · intro hout
      exact ⟨logged, endOf_eq_finished_zero_iff.mpr ⟨hout, rfl⟩⟩
  · constructor
    · rintro ⟨out, err, he⟩
      obtain ⟨p, reason, hp, hm, -, -⟩ := endOf_eq_finished_two_iff.mp he
      exact ⟨p, reason, hindered_of_message? (hr.iff_eq.mpr hp) hm, hm⟩
    · rintro ⟨p, reason, hp, hm⟩
      have hprints := hr.iff_eq.mp (prints_error_iff.mpr (.inl hp))
      exact ⟨_, _, endOf_eq_finished_two_iff.mpr ⟨p, reason, hprints, hm, rfl, rfl⟩⟩
  · intro out err he
    obtain ⟨p, reason, hp, hm, hout, herr⟩ := endOf_eq_finished_two_iff.mp he
    have hhindered := hindered_of_message? (hr.iff_eq.mpr hp) hm
    exact ⟨hout, p, reason, logged, hhindered, hm, hlogged, herr⟩
  · intro p
    rw [endOf_eq_crashed_iff, ← hr.iff_eq, prints_error_iff]
    constructor
    · rintro ⟨hp | hp, hm⟩
      · exact .inl ⟨hp, hm⟩
      · exact .inr hp
    · rintro (⟨hp, hm⟩ | hp)
      · exact ⟨.inl hp, hm⟩
      · exact ⟨.inr hp, hp.message?_eq_none⟩

end

/-- The words of a command line that asks for the first character of a file. -/
def firstCharacter : List Text :=
  ["f".toList, "--line".toList, "1".toList, "--column".toList, "0".toList]

def firstCharacterArguments : Arguments where
  file := "f".toList
  line := .value 1
  column := .value 0
  given := { file := some "f".toList, line := some (.value 1), column := some (.value 0) }

/-- A file that is missing is reported. -/
theorem run_exits_missing_file :
    Arguments.parse false firstCharacter = .ok firstCharacterArguments ∧
      ∃ out err,
        run (.homeless fun _ => .error .notFound) firstCharacter = .finished 2 out err := by
  have hparse : Arguments.parse false firstCharacter = .ok firstCharacterArguments := rfl
  have hread : Reads (fun _ => .error .notFound) (.ofText "f".toList)
      (.error (.file .notFound (.ofText "f".toList))) := .refused (by decide) rfl
  have hsettings : Configures (.homeless fun _ => .error .notFound) firstCharacterArguments.given
      (.ok {}) := .plain rfl (.unchanged rfl)
  have hmissing := Hindered.unreadable (a := firstCharacterArguments) rfl hsettings hread
  have hexits : Exits (.homeless fun _ => .error .notFound) firstCharacterArguments
      (run (.homeless fun _ => .error .notFound) firstCharacter) := run_exits hparse
  exact ⟨hparse, hexits.reported.mpr ⟨_, _, hmissing, rfl⟩⟩

-- A home directory that is not known ends the program, whatever the files are.
example : run (.homeless fun _ => .ok []) ("~x/f".toList :: firstCharacter.tail) =
    .crashed (.home .unknown) := rfl

/-- A file whose bytes are no text ends the program. -/
theorem run_crashes_on_undecodable_file :
    Arguments.parse false firstCharacter = .ok firstCharacterArguments ∧
      run (.homeless fun _ => .ok [0xFF]) firstCharacter = .crashed .notUtf8 :=
  ⟨rfl, rfl⟩

end SyntaxReport.Command
