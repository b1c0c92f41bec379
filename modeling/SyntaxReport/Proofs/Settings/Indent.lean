import Mathlib.Data.List.Perm.Basic
import SyntaxReport.Proofs.Command.Flags

/-! Three ways to ask for an indent beside other fields: by an entry of an option table, by settings
made with an indent, and by a flag of the command line. For a number of spaces that can be written
they come to the same settings or to the same refusal, and for a larger one to the same failure.
Below zero they part: only settings made with an indent refuse it. -/
namespace SyntaxReport

namespace Settings

theorem Field.optionName_name (f : Field) : optionName f.name = f.name := by
  cases f <;> decide

theorem entryChange_entry [Memory] (c : Change) : entryChange c.entry = .ok c := by
  have hname := c.field.optionName_name
  have hne : optionField? c.field.name ≠ some .indent := by
    rw [optionField?_of_name hname]
    cases c.field <;> nofun
  rw [Change.entry, entryChange_of_ne_indent hne, optionChange_value hname]

theorem entryChange_indent [Memory] (n : Int) :
    entryChange (indentName, .int n) = match Text.countError? n with
      | some cause => .error (.indentTooWide cause)
      | none => .ok (.indent n) := rfl

namespace Overrides

variable {o : Overrides} {n : Int} {table kw : List (Text × Value)}

/-- The overrides with an indent. -/
def withIndent (o : Overrides) (n : Int) : Overrides :=
  { o with indent := some n }

theorem perm_changes_withIndent (ho : o.indent = none) (n : Int) :
    (.indent n :: o.changes).Perm (o.withIndent n).changes := by
  -- the margin comes fourth of the five fields
  have hsplit (o' : Overrides) : o'.changes =
      [Field.tabSize, .linesBefore, .linesAfter].filterMap o'.change? ++
        [Field.margin, .marker].filterMap o'.change? := by
    rw [← List.filterMap_append]
    rfl
  have hold : [Field.margin, .marker].filterMap o.change? = [Field.marker].filterMap o.change? := by
    rw [List.filterMap_cons_none]
    rw [change?, ho]
    rfl
  have hnew : [Field.margin, .marker].filterMap (o.withIndent n).change? =
      .indent n :: [Field.marker].filterMap o.change? := rfl
  have hfront : [Field.tabSize, .linesBefore, .linesAfter].filterMap (o.withIndent n).change? =
      [Field.tabSize, .linesBefore, .linesAfter].filterMap o.change? := rfl
  rw [hsplit o, hsplit (o.withIndent n), hold, hnew, hfront]
  exact List.perm_middle.symm

theorem ofOptionTable_of_perm [Memory] (ho : o.indent = none)
    (htable : table.Perm ((indentName, .int n) :: o.changes.map Change.entry))
    (hn : Text.countError? n = none) :
    ofOptionTable table = ((o.withIndent n).onto {}).check.mapError .rejected := by
  have hread : List.Forall₂ (fun e c => entryChange e = .ok c)
      ((indentName, .int n) :: o.changes.map Change.entry) (.indent n :: o.changes) := by
    apply List.Forall₂.cons
    · rw [entryChange_indent, hn]
    · exact List.forall₂_map_left_iff.mpr (List.forall₂_same.mpr fun c _ => entryChange_entry c)
  obtain ⟨cs, hcs, hperm⟩ := List.perm_comp_forall₂ htable hread
  rw [ofOptionTable_eq, Outcome.mapM_eq_ok_of_forall₂ hcs, Outcome.ok_bind, build,
    Overrides.setAll_of_perm (hperm.trans (perm_changes_withIndent ho n))]

theorem ofOptionTable_of_countError? [Memory] {cause : CountError}
    (htable : table.Perm ((indentName, .int n) :: o.changes.map Change.entry))
    (hn : Text.countError? n = some cause) :
    ofOptionTable table = .error (.indentTooWide cause) := by
  obtain ⟨before, after, rfl⟩ := List.append_of_mem (htable.mem_iff.mpr List.mem_cons_self)
  have hothers : (before ++ after).Perm (o.changes.map Change.entry) :=
    (List.perm_middle.symm.trans htable).cons_inv
  have hmap : (before ++ (indentName, Value.int n) :: after).mapM entryChange =
      .error (.indentTooWide cause) := by
    apply Outcome.mapM_eq_error_iff.mpr
    refine ⟨before, (indentName, .int n), after, rfl, ?_, ?_⟩
    · -- all other entries can be read, so the indent is the first that fails
      intro e he
      obtain ⟨c, -, rfl⟩ := List.mem_map.mp (hothers.mem_iff.mp (List.mem_append_left after he))
      exact ⟨c, entryChange_entry c⟩
    · rw [entryChange_indent, hn]
  rw [ofOptionTable_eq, hmap, Outcome.error_bind]

theorem exists_changes_of_perm (hkw : kw.Perm (o.changes.map Change.entry)) :
    ∃ cs : List Change, kw = cs.map Change.entry ∧ cs.Perm o.changes := by
  have hentries : List.Forall₂ (fun e c => e = Change.entry c) (o.changes.map Change.entry)
      o.changes := List.forall₂_map_left_iff.mpr (List.forall₂_same.mpr fun _ _ => rfl)
  obtain ⟨cs, hcs, hperm⟩ := List.perm_comp_forall₂ hkw hentries
  refine ⟨cs, ?_, hperm⟩
  have hmap : List.Forall₂ (· = ·) kw (cs.map Change.entry) := List.forall₂_map_right_iff.mpr hcs
  rwa [List.forall₂_eq_eq_eq] at hmap

theorem any_isMargin_changes (ho : o.indent = none) {cs : List Change} (hperm : cs.Perm o.changes) :
    cs.any Change.isMargin = false := by
  rw [List.any_eq_false]
  intro c hc
  obtain ⟨f, -, hf⟩ := List.mem_filterMap.mp (hperm.mem_iff.mp hc)
  -- the field of the margin has no change without an indent
  have hmargin : f ≠ .margin := by
    rintro rfl
    rw [change?, ho] at hf
    cases hf
  have hfield := o.field_of_change? hf
  cases c with
  | margin t => exact absurd hfield.symm hmargin
  | _ => exact Bool.false_ne_true

theorem looseWithIndent_of_neg [Memory] (hn : n < 0) (kw : List (Text × Value)) :
    Loose.withIndent (.int n) kw = .error .negativeIndent := by
  rw [Loose.withIndent, Value.isBelow?, Loose.demand_decide, if_pos hn]
  rfl

theorem looseWithIndent_of_perm [Memory] (ho : o.indent = none)
    (hkw : kw.Perm (o.changes.map Change.entry)) (h0 : 0 ≤ n) (hn : n ≤ Memory.maxRun) :
    Loose.withIndent (.int n) kw =
      (((o.withIndent n).onto {}).check.map .ofSettings).mapError .ofFault := by
  obtain ⟨cs, rfl, hperm⟩ := exists_changes_of_perm hkw
  have hmargin := any_isMargin_changes ho hperm
  have hsettings : Settings.build (.indent n :: cs) = ((o.withIndent n).onto {}).check := by
    rw [build, Overrides.setAll_of_perm ((hperm.cons _).trans (perm_changes_withIndent ho n))]
  -- values of the right kinds are checked as settings are
  rw [Loose.withIndent_entries hn, Settings.withIndent, if_neg (by omega), hmargin,
    if_neg (by decide), hsettings]
  cases ((o.withIndent n).onto {}).check <;> rfl

theorem looseWithIndent_of_countError? [Memory] (ho : o.indent = none)
    (hkw : kw.Perm (o.changes.map Change.entry)) (h0 : 0 ≤ n) {cause : CountError}
    (hn : Text.countError? n = some cause) :
    Loose.withIndent (.int n) kw = .error (.indentTooWide cause) := by
  obtain ⟨cs, rfl, hperm⟩ := exists_changes_of_perm hkw
  have hmargin := any_isMargin_changes ho hperm
  rw [Loose.withIndent, Value.isBelow?, Loose.demand_decide, if_neg (by omega), Loose.any_isMargin,
    hmargin]
  simp only [Outcome.ok_bind, Loose.size?, hn]
  rfl

end Overrides

open Command (Problem Supplies configName?)
open Command.Run (ComesTo)

/-- A failure that is reported by a message. -/
def Refuses {ε α : Type} (message? : ε → Option Text) (r : Except ε α) (message : Text) : Prop :=
  ∃ fault, r = .error fault ∧ message? fault = some message

section

variable [Memory]

/-- How the three ways answer for an indent of `n` spaces, where `c` are the settings asked for. -/
structure IndentAnswers (n : Int) (c : Settings) (byTable : Except OptionFault Settings)
    (byCall : Except LooseFault Loose) (byFlag : Except Problem Settings) : Prop where
  accepted : 0 ≤ n → n ≤ Memory.maxRun → c.Valid →
    byTable = .ok c ∧ byCall = .ok (.ofSettings c) ∧ byFlag = .ok c
  refused : 0 ≤ n → n ≤ Memory.maxRun → ¬ c.Valid → ∃ message,
    Refuses OptionFault.message? byTable message ∧ Refuses LooseFault.message? byCall message ∧
      Refuses Problem.message? byFlag message
  tooWide : Memory.maxRun < n → ∃ cause,
    byTable = .error (.indentTooWide cause) ∧ byCall = .error (.indentTooWide cause) ∧
      byFlag = .error (.settings (.indentTooWide cause))
  negative : n < 0 → byCall = .error .negativeIndent
  negative_accepted : -Text.wordBound ≤ n → n < 0 → c.Valid → byTable = .ok c ∧ byFlag = .ok c
  negative_refused : -Text.wordBound ≤ n → n < 0 → ¬ c.Valid → ∃ message,
    Refuses OptionFault.message? byTable message ∧ Refuses Problem.message? byFlag message
  notAWord : n < -Text.wordBound → byTable = .error (.indentTooWide .notAWord) ∧
    byFlag = .error (.settings (.indentTooWide .notAWord))

theorem indentAnswers_of_writable {n : Int} (hn : Text.countError? n = none) {c : Settings}
    {byCall : Except LooseFault Loose} (hneg : n < 0 → byCall = .error .negativeIndent)
    (hcall : 0 ≤ n → byCall = (c.check.map .ofSettings).mapError .ofFault) :
    IndentAnswers n c (c.check.mapError .rejected) byCall
      (c.check.mapError fun fault => .settings (.ofFault fault)) := by
  obtain ⟨hlow, hhigh⟩ := (Text.countError?_eq_none_iff n).mp hn
  have hrefused (fault : SettingsFault) :
      Problem.message? (.settings (.ofFault fault)) = some fault.message :=
    LooseFault.message?_ofFault fault
  constructor
  · intro h0 _ hvalid
    rw [hcall h0, check_of_valid hvalid]
    exact ⟨rfl, rfl, rfl⟩
  · intro h0 _ hvalid
    obtain ⟨fault, hfault⟩ := exists_check_eq_error hvalid
    rw [hcall h0, hfault]
    exact ⟨fault.message, ⟨_, rfl, rfl⟩, ⟨_, rfl, LooseFault.message?_ofFault fault⟩,
      ⟨_, rfl, hrefused fault⟩⟩
  · intro hwide
    omega
  · exact hneg
  · intro _ _ hvalid
    rw [check_of_valid hvalid]
    exact ⟨rfl, rfl⟩
  · intro _ _ hvalid
    obtain ⟨fault, hfault⟩ := exists_check_eq_error hvalid
    rw [hfault]
    exact ⟨fault.message, ⟨_, rfl, rfl⟩, ⟨_, rfl, hrefused fault⟩⟩
  · intro hword
    omega

theorem indentAnswers_of_countError? {n : Int} {cause : CountError}
    (hn : Text.countError? n = some cause) {byCall : Except LooseFault Loose}
    (hneg : n < 0 → byCall = .error .negativeIndent)
    (hcall : 0 ≤ n → byCall = .error (.indentTooWide cause)) (c : Settings) :
    IndentAnswers n c (.error (.indentTooWide cause)) byCall
      (.error (.settings (.indentTooWide cause))) := by
  -- the indent is longer than every run or below every word, and the cases in between are empty
  have hnot : ¬ (-Text.wordBound ≤ n ∧ n ≤ Memory.maxRun) := by
    intro hboth
    rw [(Text.countError?_eq_none_iff n).mpr hboth] at hn
    cases hn
  have hroomy := Memory.roomy
  have hpos : 0 < Text.wordBound := by decide
  constructor
  · intro h0 hle
    omega
  · intro h0 hle
    omega
  · intro hlt
    exact ⟨cause, rfl, hcall (by omega), rfl⟩
  · exact hneg
  · intro hlow hlt
    omega
  · intro hlow hlt
    omega
  · intro hword
    have hisWord : Text.isWord n = false := decide_eq_false (by omega)
    have hcause : some cause = some .notAWord := by
      rw [← hn, Text.countError?, hisWord]
      rfl
    rw [Option.some_inj.mp hcause]
    exact ⟨rfl, rfl⟩

/-- The three ways agree for every indent that is not negative, whatever other fields are given and
in whatever order: they give the same settings, or refuse with the same message, or fail alike where
the indent cannot be written. -/
theorem indent_three_ways {o : Overrides} (ho : o.indent = none) {n : Int}
    {table kw : List (Text × Value)}
    (htable : table.Perm ((indentName, .int n) :: o.changes.map Change.entry))
    (hkw : kw.Perm (o.changes.map Change.entry)) (around : Surroundings) {g : Given}
    (hconfig : configName? g = none) (hg : Supplies g (o.withIndent n)) :
    ∃ byFlag, ComesTo (Command.settings around g) byFlag ∧
      IndentAnswers n ((o.withIndent n).onto {}) (ofOptionTable table)
        (Loose.withIndent (.int n) kw) byFlag := by
  have hneg (h : n < 0) := Overrides.looseWithIndent_of_neg h kw
  cases hn : Text.countError? n with
  | none =>
    have hle := ((Text.countError?_eq_none_iff n).mp hn).2
    have hwritable : (o.withIndent n).Writable := by
      intro n' hn'
      obtain rfl : n = n' := Option.some.inj hn'
      exact hn
    have hflags := Command.flagged_of_supplies valid_default hg hwritable
    refine ⟨_, (Command.Configures.plain hconfig hflags).comesTo, ?_⟩
    rw [Overrides.ofOptionTable_of_perm ho htable hn]
    exact indentAnswers_of_writable hn hneg
      fun h0 => Overrides.looseWithIndent_of_perm ho hkw h0 hle
  | some cause =>
    have hflags := Command.flagged_of_not_writable {} hg rfl hn
    refine ⟨_, (Command.Configures.plain hconfig hflags).comesTo, ?_⟩
    rw [Overrides.ofOptionTable_of_countError? htable hn]
    exact indentAnswers_of_countError? hn hneg
      (fun h0 => Overrides.looseWithIndent_of_countError? ho hkw h0 hn) _

end

/-- A marker of another shape, and nothing else. -/
def waves : Overrides :=
  { marker := some ['~'] }

def wavesTable : List (Text × Value) :=
  [("marker".toList, .text ['~']), (indentName, .int 3)]

theorem indent_three_ways_waves :
    ofOptionTable wavesTable = .ok { margin := [' ', ' ', ' '], marker := ['~'] } ∧
      Loose.withIndent (.int 3) [("marker".toList, .text ['~'])] =
        .ok (.ofSettings { margin := [' ', ' ', ' '], marker := ['~'] }) ∧
      ComesTo (Command.settings (.homeless fun _ => .error .notFound)
          { indent := some (.value 3), marker := some (.value ['~']) })
        (.ok { margin := [' ', ' ', ' '], marker := ['~'] }) := by
  have htable : wavesTable.Perm ((indentName, .int 3) :: waves.changes.map Change.entry) :=
    List.Perm.swap _ _ _
  have hvalid : Valid { margin := [' ', ' ', ' '], marker := ['~'] } := by
    refine ⟨?_, ?_, ?_, ?_, ?_⟩ <;> decide
  obtain ⟨byFlag, hflag, hanswers⟩ := indent_three_ways rfl htable (List.Perm.refl _)
    (.homeless fun _ => .error .notFound)
    (g := { indent := some (.value 3), marker := some (.value ['~']) }) rfl
    ⟨rfl, rfl, rfl, rfl, rfl⟩
  obtain ⟨hbyTable, hcall, rfl⟩ := hanswers.accepted (by decide) (by decide) hvalid
  exact ⟨hbyTable, hcall, hflag⟩

/-- Of an indent below zero, settings made with an indent are refused, while the option table and
the flag stand for settings without a margin. -/
theorem indent_ways_part_below_zero :
    Loose.withIndent (.int (-1)) [] = .error .negativeIndent ∧
      ofOptionTable [("indent".toList, .int (-1))] = .ok { margin := [] } ∧
      ComesTo (Command.settings (.homeless fun _ => .error .notFound)
          { indent := some (.value (-1)) })
        (.ok { margin := [] }) :=
  ⟨rfl, rfl, fun _ => rfl⟩

end Settings

end SyntaxReport
