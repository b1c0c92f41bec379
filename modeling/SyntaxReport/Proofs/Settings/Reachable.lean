import SyntaxReport.Proofs.Command.Stages

/-! Settings under a sequence of steps. A step makes new settings from scratch, from the present
ones, from an option table or from a file; where it fails the present ones stay. Fields may hold
values of any kind, and yet the settings that are reached are valid and hold values of the proper
kinds: the steps that check kinds let nothing else through, and the others are given nothing else.
-/
namespace SyntaxReport.Settings

open Command (Problem fieldOf)

/-- A step that makes settings. -/
inductive Step where
  | new (entries : List (Text × Value))
  | evolve (entries : List (Text × Value))
  | withIndent (indent : Value) (entries : List (Text × Value))
  | ofOptions (entries : List (Text × Value))
  | ofFile (around : Surroundings) (name : Path)

/-- The values of the kind that a field is for: integers, which truth values are not, or texts. -/
def Field.Takes : Field → Value → Prop
  | .margin, v => ∃ t, v = .text t
  | .marker, v => ∃ t, v = .text t
  | _, v => ∃ n, v = .int n

/-- The entries that name a field hold a value of its kind. -/
def EntriesProper (entries : List (Text × Value)) : Prop :=
  ∀ e ∈ entries, ∀ f, Field.named? e.1 = some f → f.Takes e.2

/-- All fields hold values of the proper kinds, and no rule is broken. -/
def Loose.Sound (s : Loose) : Prop :=
  ∃ c : Settings, c.Valid ∧ s = .ofSettings c

namespace Step

/-- What a step makes of the present settings. -/
def make [Memory] (s : Loose) : Step → Except Problem Loose
  | new entries => (Loose.build entries).mapError .settings
  | evolve entries => (s.evolve entries).mapError .settings
  | withIndent indent entries => (Loose.withIndent indent entries).mapError .settings
  | ofOptions entries =>
    ((ofOptionTable entries).map .ofSettings).mapError fun fault => .document (.option fault)
  | ofFile around name => ((Command.loadSettings around name).run.run []).1.map .ofSettings

/-- The settings after a step: the new ones, or the present ones if it fails. -/
def apply [Memory] (s : Loose) (step : Step) : Loose :=
  match step.make s with
  | .ok s' => s'
  | .error _ => s

/-- The settings after some steps from the defaults. -/
def run [Memory] (steps : List Step) : Loose :=
  steps.foldl apply {}

/-- The steps that do not look at kinds are given values of the proper kinds. -/
def Proper : Step → Prop
  | new entries => EntriesProper entries
  | evolve entries => EntriesProper entries
  | withIndent _ entries => EntriesProper entries
  | ofOptions _ => True
  | ofFile _ _ => True

end Step

theorem Field.eq_name_of_named? {name : Text} {f : Field} (h : Field.named? name = some f) :
    name = f.name := by
  unfold Field.named? at h
  split_ifs at h with h1 h2 h3 h4 h5
  · cases h; exact h1
  · cases h; exact h2
  · cases h; exact h3
  · cases h; exact h4
  · cases h; exact h5

theorem Field.name_injective {f f' : Field} (h : f.name = f'.name) : f = f' := by
  have hnamed := Field.named?_name f
  rw [h, Field.named?_name, Option.some_inj] at hnamed
  exact hnamed.symm

theorem Field.Takes.exists_change {f : Field} {v : Value} (h : f.Takes v) :
    ∃ c : Change, c.entry = (f.name, v) := by
  cases f with
  | tabSize =>
    obtain ⟨n, rfl⟩ := h
    exact ⟨.tabSize n, rfl⟩
  | linesBefore =>
    obtain ⟨n, rfl⟩ := h
    exact ⟨.linesBefore n, rfl⟩
  | linesAfter =>
    obtain ⟨n, rfl⟩ := h
    exact ⟨.linesAfter n, rfl⟩
  | margin =>
    obtain ⟨t, rfl⟩ := h
    exact ⟨.margin t, rfl⟩
  | marker =>
    obtain ⟨t, rfl⟩ := h
    exact ⟨.marker t, rfl⟩

theorem Change.takes (c : Change) : c.field.Takes c.value := by
  cases c <;> exact ⟨_, rfl⟩

theorem entriesProper_cons (c : Change) {entries : List (Text × Value)}
    (h : EntriesProper entries) : EntriesProper (c.entry :: entries) := by
  intro e he f hf
  rcases List.mem_cons.mp he with rfl | he
  · have hnamed : some c.field = some f := by rw [← hf, ← Field.named?_name c.field, Change.entry]
    cases hnamed
    exact c.takes
  · exact h e he f hf

namespace Loose

theorem exists_of_setNamed_eq_ok {s s' : Loose} {e : Text × Value} (h : s.setNamed e = .ok s') :
    ∃ f, Field.named? e.1 = some f ∧ s' = s.set e.2 f := by
  unfold setNamed at h
  cases hf : Field.named? e.1 with
  | none =>
    rw [hf] at h
    cases h
  | some f =>
    rw [hf] at h
    cases h
    exact ⟨f, rfl, rfl⟩

/-- Entries that can be applied are changes, if they hold values of the proper kinds. -/
theorem exists_changes {entries : List (Text × Value)} (hproper : EntriesProper entries)
    {s s' : Loose} (h : entries.foldlM setNamed s = .ok s') :
    ∃ changes : List Change, changes.map Change.entry = entries := by
  induction entries generalizing s with
  | nil => exact ⟨[], rfl⟩
  | cons e rest ih =>
    rw [List.foldlM_cons] at h
    obtain ⟨s₁, hset, hrest⟩ := Outcome.exists_of_bind_eq_ok h
    obtain ⟨f, hf, -⟩ := exists_of_setNamed_eq_ok hset
    obtain ⟨c, hc⟩ := (hproper e List.mem_cons_self f hf).exists_change
    obtain ⟨changes, hchanges⟩ := ih (fun e' he' => hproper e' (List.mem_cons_of_mem e he')) hrest
    refine ⟨c :: changes, ?_⟩
    rw [List.map_cons, hc, hchanges, ← Field.eq_name_of_named? hf]

/-- Of the settings before, only the kinds matter: the rules are looked at again. -/
theorem sound_of_evolve {c : Settings} {entries : List (Text × Value)}
    (hproper : EntriesProper entries) {s : Loose} (h : (ofSettings c).evolve entries = .ok s) :
    s.Sound := by
  obtain ⟨s₁, hfold, -⟩ := Outcome.exists_of_bind_eq_ok h
  obtain ⟨changes, rfl⟩ := exists_changes hproper hfold
  rw [evolve_ofSettings, Outcome.mapError_eq_ok_iff] at h
  obtain ⟨c', hevolve, rfl⟩ := Outcome.exists_of_map_eq_ok h
  obtain ⟨rfl, hvalid⟩ := (check_eq_ok_iff _ _).mp hevolve
  exact ⟨_, hvalid, rfl⟩

theorem exists_build_of_withIndent [Memory] {indent : Value} {entries : List (Text × Value)}
    {s : Loose}
    (h : withIndent indent entries = .ok s) :
    ∃ count, build ((Change.indent count).entry :: entries) = .ok s := by
  obtain ⟨-, -, h⟩ := Outcome.exists_of_bind_eq_ok h
  split_ifs at h
  cases hsize : size? indent with
  | none =>
    rw [hsize] at h
    cases h
  | some count =>
    rw [hsize] at h
    cases hcount : Text.countError? count with
    | some e =>
      simp only [hcount] at h
      cases h
    | none =>
      simp only [hcount] at h
      exact ⟨count, h⟩

theorem eq_of_check_eq_ok {s s' : Loose} (h : s.check = .ok s') : s' = s := by
  unfold check at h
  obtain ⟨_, -, h⟩ := Outcome.exists_of_bind_eq_ok h
  obtain ⟨_, -, h⟩ := Outcome.exists_of_bind_eq_ok h
  obtain ⟨_, -, h⟩ := Outcome.exists_of_bind_eq_ok h
  obtain ⟨_, -, h⟩ := Outcome.exists_of_bind_eq_ok h
  obtain ⟨_, -, h⟩ := Outcome.exists_of_bind_eq_ok h
  cases h
  rfl

theorem fieldOf_foldlM_setNamed {entries : List (Text × Value)} {s s' : Loose}
    (h : entries.foldlM setNamed s = .ok s') (f : Field) :
    fieldOf s' f = (entries.reverse.lookup f.name).getD (fieldOf s f) := by
  induction entries generalizing s with
  | nil =>
    cases h
    rfl
  | cons e rest ih =>
    rw [List.foldlM_cons] at h
    obtain ⟨s₁, hset, hrest⟩ := Outcome.exists_of_bind_eq_ok h
    obtain ⟨f', hf', rfl⟩ := exists_of_setNamed_eq_ok hset
    -- the first entry counts only for a field that no later entry names
    rw [ih hrest, List.reverse_cons, List.lookup_append, Option.getD_or, Command.fieldOf_set]
    congr 1
    have hname : e = (f'.name, e.2) := by rw [← Field.eq_name_of_named? hf']
    rw [hname, List.lookup_cons]
    by_cases hf : f = f'
    · rw [if_pos hf, hf, beq_self_eq_true]
      rfl
    · have hne : (f.name == f'.name) = false := beq_false_of_ne fun h => hf (Field.name_injective h)
      rw [if_neg hf, hne]
      rfl

/-- A field that is named holds the value given last, and the others are as before. -/
theorem fieldOf_evolve {entries : List (Text × Value)} {s s' : Loose}
    (h : s.evolve entries = .ok s') (f : Field) :
    fieldOf s' f = (entries.reverse.lookup f.name).getD (fieldOf s f) := by
  obtain ⟨s₁, hfold, hcheck⟩ := Outcome.exists_of_bind_eq_ok h
  rw [eq_of_check_eq_ok hcheck]
  exact fieldOf_foldlM_setNamed hfold f

end Loose

section

variable [Memory]

theorem valid_of_ofOptionTable {entries : List (Text × Value)} {c : Settings}
    (h : ofOptionTable entries = .ok c) : c.Valid := by
  unfold ofOptionTable at h
  split at h
  · obtain ⟨changes, -, hbuild⟩ := Outcome.exists_of_bind_eq_ok h
    rw [Outcome.mapError_eq_ok_iff] at hbuild
    obtain ⟨rfl, hvalid⟩ := (check_eq_ok_iff _ _).mp hbuild
    exact hvalid
  · -- with an indent that is too wide there are no settings, whatever comes before it
    obtain ⟨_, -, herror⟩ := Outcome.exists_of_bind_eq_ok h
    cases herror

theorem valid_of_describes {complaint : Text → Text} {path text : Text} {c : Settings}
    (h : Command.Describes complaint path text (.ok c)) : c.Valid := by
  generalize hr : (Except.ok c : Except DocumentFault Settings) = r at h
  cases h with
  | noTools => cases hr; exact valid_default
  | noOptions => cases hr; exact valid_default
  | options => exact valid_of_ofOptionTable (Outcome.mapError_eq_ok_iff.mp hr.symm)
  | _ => cases hr

theorem valid_of_loadSettings {around : Surroundings} {name : Path} {c : Settings}
    (h : ((Command.loadSettings around name).run.run []).1 = .ok c) : c.Valid := by
  obtain ⟨r, hload⟩ := Command.exists_loads around name
  rw [hload.comesTo] at h
  cases hload with
  | noHome => cases h
  | unreadable => cases h
  | described _ _ hdescribes =>
    rw [Outcome.mapError_eq_ok_iff] at h
    rw [h] at hdescribes
    exact valid_of_describes hdescribes

namespace Step

theorem sound_of_make {s s' : Loose} (hs : s.Sound) {step : Step} (hstep : step.Proper)
    (h : step.make s = .ok s') : s'.Sound := by
  cases step with
  | new entries =>
    exact Loose.sound_of_evolve (c := {}) hstep (Outcome.mapError_eq_ok_iff.mp h)
  | evolve entries =>
    obtain ⟨c, -, rfl⟩ := hs
    exact Loose.sound_of_evolve hstep (Outcome.mapError_eq_ok_iff.mp h)
  | withIndent indent entries =>
    obtain ⟨count, hbuild⟩ :=
      Loose.exists_build_of_withIndent (Outcome.mapError_eq_ok_iff.mp h)
    have hproper := entriesProper_cons (.indent count) hstep
    exact Loose.sound_of_evolve (c := {}) hproper hbuild
  | ofOptions entries =>
    obtain ⟨c, htable, rfl⟩ := Outcome.exists_of_map_eq_ok (Outcome.mapError_eq_ok_iff.mp h)
    exact ⟨c, valid_of_ofOptionTable htable, rfl⟩
  | ofFile around name =>
    obtain ⟨c, hload, rfl⟩ := Outcome.exists_of_map_eq_ok h
    exact ⟨c, valid_of_loadSettings hload, rfl⟩

theorem sound_apply {s : Loose} (hs : s.Sound) {step : Step} (hstep : step.Proper) :
    (apply s step).Sound := by
  unfold apply
  cases hmake : step.make s with
  | error p => exact hs
  | ok s' => exact sound_of_make hs hstep hmake

theorem sound_foldl {steps : List Step} (h : ∀ step ∈ steps, step.Proper) {s : Loose}
    (hs : s.Sound) : (steps.foldl apply s).Sound := by
  induction steps generalizing s with
  | nil => exact hs
  | cons step rest ih =>
    have happly := sound_apply hs (h step List.mem_cons_self)
    exact ih (fun step' hstep' => h step' (List.mem_cons_of_mem step hstep')) happly

/-- Whatever the steps and whichever of them fail, the settings are sound; and changing them where
no rule gets broken changes the named fields and no others. -/
theorem run_sound {steps : List Step} (h : ∀ step ∈ steps, step.Proper) :
    (run steps).Sound ∧
      ∀ entries s', (run steps).evolve entries = .ok s' → ∀ f,
        fieldOf s' f = (entries.reverse.lookup f.name).getD (fieldOf (run steps) f) := by
  have hdefault : Loose.Sound {} := ⟨{}, valid_default, rfl⟩
  exact ⟨sound_foldl h hdefault, fun entries s' hevolve => Loose.fieldOf_evolve hevolve⟩

end Step

end

namespace Step

/-- An option table, a change of the marker, and a change that is refused. -/
def mixedSteps : List Step :=
  [.ofOptions [("tab-size".toList, .int 4), ("indent".toList, .int 2)],
    .evolve [("marker".toList, .text ['~'])], .evolve [("tab_size".toList, .int 0)]]

theorem run_sound_mixedSteps :
    (∀ step ∈ mixedSteps, step.Proper) ∧
      run mixedSteps = .ofSettings { tabSize := 4, margin := [' ', ' '], marker := ['~'] } ∧
      (run mixedSteps).Sound ∧
      ∃ s', (run mixedSteps).evolve [("lines_after".toList, .int 1)] = .ok s' ∧
        fieldOf s' .linesAfter = .int 1 ∧ fieldOf s' .marker = .text ['~'] := by
  have hproper : ∀ step ∈ mixedSteps, step.Proper := by
    intro step hstep
    rcases hstep with _ | ⟨_, _ | ⟨_, _ | ⟨_, hnone⟩⟩⟩
    · trivial
    · exact entriesProper_cons (.marker ['~']) nofun
    · exact entriesProper_cons (.tabSize 0) nofun
    · cases hnone
  obtain ⟨hsound, hfields⟩ := run_sound hproper
  obtain ⟨s', hevolve⟩ :
      ∃ s', (run mixedSteps).evolve [("lines_after".toList, .int 1)] = .ok s' := ⟨_, rfl⟩
  have hs' := hfields _ s' hevolve
  exact ⟨hproper, rfl, hsound, s', hevolve, hs' .linesAfter, hs' .marker⟩

end Step

end SyntaxReport.Settings
