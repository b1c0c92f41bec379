import Mathlib.Data.List.Pairwise
import SyntaxReport.Proofs.Settings.OptionTable

/-! What the flags of a command line make of settings. Where every flag that is used has a value,
the flags are changes to fields, no field twice. So their order does not matter, and the result is
the old settings with the given fields in place of the old ones. -/
namespace SyntaxReport

namespace Settings

open Command (fieldOf)

/-- Values for some of the fields, the margin as a number of spaces. -/
structure Overrides where
  tabSize : Option Int := none
  linesBefore : Option Int := none
  linesAfter : Option Int := none
  indent : Option Int := none
  marker : Option Text := none

def Field.all : List Field :=
  [.tabSize, .linesBefore, .linesAfter, .margin, .marker]

namespace Overrides

/-- The settings with the given fields in place of the old ones. -/
def onto (o : Overrides) (base : Settings) : Settings where
  tabSize := o.tabSize.getD base.tabSize
  linesBefore := o.linesBefore.getD base.linesBefore
  linesAfter := o.linesAfter.getD base.linesAfter
  margin := (o.indent.map Text.spaces).getD base.margin
  marker := o.marker.getD base.marker

def change? (o : Overrides) : Field → Option Change
  | .tabSize => o.tabSize.map .tabSize
  | .linesBefore => o.linesBefore.map .linesBefore
  | .linesAfter => o.linesAfter.map .linesAfter
  | .margin => o.indent.map .indent
  | .marker => o.marker.map .marker

def changes (o : Overrides) : List Change :=
  Field.all.filterMap o.change?

def value? (o : Overrides) (f : Field) : Option Value :=
  (o.change? f).map Change.value

/-- The indent, if there is one, is a number of spaces that can be written. -/
def Writable [Memory] (o : Overrides) : Prop :=
  ∀ n, o.indent = some n → Text.countError? n = none

variable (o : Overrides)

theorem setAll_changes (base : Settings) : base.setAll o.changes = o.onto base := by
  obtain ⟨tabSize, linesBefore, linesAfter, indent, marker⟩ := o
  cases tabSize <;> cases linesBefore <;> cases linesAfter <;> cases indent <;> cases marker <;> rfl

theorem fieldOf_onto (base : Settings) (f : Field) :
    fieldOf (.ofSettings (o.onto base)) f = (o.value? f).getD (fieldOf (.ofSettings base) f) := by
  obtain ⟨tabSize, linesBefore, linesAfter, indent, marker⟩ := o
  cases f with
  | tabSize => cases tabSize <;> rfl
  | linesBefore => cases linesBefore <;> rfl
  | linesAfter => cases linesAfter <;> rfl
  | margin => cases indent <;> rfl
  | marker => cases marker <;> rfl

theorem field_of_change? {f : Field} {c : Change} (h : o.change? f = some c) : c.field = f := by
  cases f with
  | _ =>
    obtain ⟨x, -, rfl⟩ := Option.map_eq_some_iff.mp h
    rfl

theorem pairwise_field_ne : o.changes.Pairwise fun c c' => c.field ≠ c'.field := by
  have hall : Field.all.Pairwise (· ≠ ·) := by decide
  apply List.pairwise_filterMap.mpr
  apply hall.imp
  intro f f' hne c hc c' hc'
  rw [o.field_of_change? hc, o.field_of_change? hc']
  exact hne

end Overrides

theorem set_comm {c c' : Change} (h : c.field ≠ c'.field) (s : Settings) :
    (s.set c).set c' = (s.set c').set c := by
  apply eq_of_fieldOf
  intro f
  simp only [fieldOf_ofSettings_set]
  by_cases hc : f = c.field
  · rw [if_pos hc, if_neg (hc.trans_ne h), if_pos hc]
  · rw [if_neg hc, if_neg hc]

theorem setAll_of_perm {cs cs' : List Change} (hperm : cs.Perm cs')
    (hone : cs.Pairwise fun c c' => c.field ≠ c'.field) (s : Settings) :
    s.setAll cs = s.setAll cs' := by
  have hcomm : cs.Pairwise fun c c' => ∀ s : Settings, (s.set c).set c' = (s.set c').set c :=
    hone.imp set_comm
  have : Std.Symm fun c c' : Change => ∀ s : Settings, (s.set c).set c' = (s.set c').set c :=
    ⟨fun c c' h s => (h s).symm⟩
  apply hperm.foldl_eq'
  exact hcomm.forall_of_forall fun c _ s => rfl

theorem Overrides.setAll_of_perm {o : Overrides} {cs : List Change} (hperm : cs.Perm o.changes)
    (base : Settings) : base.setAll cs = o.onto base := by
  rw [← Settings.setAll_of_perm hperm.symm o.pairwise_field_ne, setAll_changes]

theorem check_of_valid {c : Settings} (h : c.Valid) : c.check = .ok c :=
  (check_eq_ok_iff c c).mpr ⟨rfl, h⟩

theorem exists_check_eq_error {c : Settings} (h : ¬ c.Valid) : ∃ fault, c.check = .error fault := by
  cases hcheck : c.check with
  | error fault => exact ⟨fault, rfl⟩
  | ok c' => exact absurd ((check_eq_ok_iff c c').mp hcheck).2 h

/-- The message is that of the rule that is broken. -/
theorem LooseFault.message?_ofFault (fault : SettingsFault) :
    (LooseFault.ofFault fault).message? = some fault.message := by
  cases fault <;> rfl

end Settings

namespace Command

open Settings (Loose LooseFault Overrides Change)

/-- The flags for settings that are used are these, and each has a value. -/
structure Supplies (g : Given) (o : Overrides) : Prop where
  tabSize : g.tabSize = o.tabSize.map .value
  before : g.before = o.linesBefore.map .value
  after : g.after = o.linesAfter.map .value
  indent : g.indent = o.indent.map .value
  marker : g.marker = o.marker.map .value

variable {g : Given} {o : Overrides}

variable [Memory]

theorem changes_of_supplies (h : Supplies g o) (hindent : o.Writable) :
    changes g = .ok (o.changes.map Change.entry) := by
  obtain ⟨tabSize, linesBefore, linesAfter, indent, marker⟩ := o
  unfold changes
  rw [h.tabSize, h.before, h.after, h.indent, h.marker]
  cases indent with
  | none =>
    cases tabSize <;> cases linesBefore <;> cases linesAfter <;> cases marker <;> rfl
  | some n =>
    simp only [Option.map_some, hindent n rfl]
    cases tabSize <;> cases linesBefore <;> cases linesAfter <;> cases marker <;> rfl

/-- The flags come to the overridden settings, if these are valid. -/
theorem flagged_of_supplies {base : Settings} (hbase : base.Valid) (h : Supplies g o)
    (hindent : o.Writable) :
    Flagged base g ((o.onto base).check.mapError fun fault => .settings (.ofFault fault)) := by
  have hchanges := changes_of_supplies h hindent
  by_cases hnone : o.changes.map Change.entry = []
  · -- without flags the settings are not looked at again, and they are valid
    have honto : o.onto base = base := by
      rw [← o.setAll_changes, List.map_eq_nil_iff.mp hnone]
      rfl
    rw [hnone] at hchanges
    rw [honto, Settings.check_of_valid hbase]
    exact .unchanged hchanges
  · have hevolve := Loose.evolve_ofSettings base o.changes
    rw [Settings.evolve, o.setAll_changes] at hevolve
    cases hcheck : (o.onto base).check with
    | error fault =>
      rw [hcheck] at hevolve
      exact .rejected hchanges hnone hevolve
    | ok c =>
      rw [hcheck] at hevolve
      exact .changed hchanges hnone hevolve

theorem flagged_of_not_writable (base : Settings) (h : Supplies g o) {n : Int} {cause : CountError}
    (hn : o.indent = some n) (hcause : Text.countError? n = some cause) :
    Flagged base g (.error (.settings (.indentTooWide cause))) := by
  have hindent := h.indent
  rw [hn] at hindent
  exact .wideIndent hindent hcause

end Command

end SyntaxReport
