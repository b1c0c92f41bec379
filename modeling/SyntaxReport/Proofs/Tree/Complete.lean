import Mathlib.Algebra.Ring.GeomSum
import Mathlib.Data.List.Nodup
import SyntaxReport.Proofs.Source.Description
import SyntaxReport.Proofs.Tree.Counting
import SyntaxReport.Proofs.Tree.Shape
import SyntaxReport.Proofs.Walk.Nesting
import SyntaxReport.Tree.Generate

/-! Complete trees. The rules take their numbers in pre-order, so a rule is named by its level and by
how many rules are entered before it; rules above the last level have rules below them only, and
each rule on the last level holds one terminal. -/
namespace SyntaxReport

namespace Event

variable {N : Type}

/-- The node that an event enters. -/
def entered? : Event N → Option N
  | enter n => some n
  | _ => none

end Event

namespace Tree

open Counting

mutual

/-- The rules are entered in pre-order. -/
theorem filterMap_entered?_events (level : Nat) : (t : Tree) →
    t.events.filterMap Event.entered? = (t.rulesFrom level).map Prod.snd
  | .rule name cs start stop => by
    rw [events, rulesFrom, List.filterMap_append, List.filterMap_append,
      filterMap_entered?_eventsList (level + 1) cs]
    simp [Event.entered?]
  | .terminal symbol => rfl
  | .error symbol => rfl

theorem filterMap_entered?_eventsList (level : Nat) : (ts : List Tree) →
    (eventsList ts).filterMap Event.entered? = (rulesFromList level ts).map Prod.snd
  | [] => rfl
  | t :: rest => by
    rw [eventsList, rulesFromList, List.filterMap_append, List.map_append,
      filterMap_entered?_events level t, filterMap_entered?_eventsList level rest]

end

mutual

/-- Every rule is exited. -/
theorem countP_isExit_events (level : Nat) : (t : Tree) →
    t.events.countP Event.isExit = (t.rulesFrom level).length
  | .rule name cs start stop => by
    rw [events, rulesFrom, List.countP_append, List.countP_append,
      countP_isExit_eventsList (level + 1) cs]
    simp [Event.isExit]
  | .terminal symbol => rfl
  | .error symbol => rfl

theorem countP_isExit_eventsList (level : Nat) : (ts : List Tree) →
    (eventsList ts).countP Event.isExit = (rulesFromList level ts).length
  | [] => rfl
  | t :: rest => by
    rw [eventsList, rulesFromList, List.countP_append, List.length_append,
      countP_isExit_events level t, countP_isExit_eventsList level rest]

end

theorem filterMap_entered?_eventsIn {mode : Mode} (h : mode.enters = true) (t : Tree) :
    (t.eventsIn mode).filterMap Event.entered? = t.rules.map Prod.snd := by
  have hkeeps : (fun e : Event Tree => if mode.keeps e then e.entered? else none) =
      Event.entered? := by
    funext e
    cases e with
    | enter n => simp [Mode.keeps, h]
    | exit n => rfl
    | terminal n => exact ite_self none
    | error n => exact ite_self none
  rw [eventsIn, List.filterMap_filter, hkeeps, filterMap_entered?_events 0, rules]

theorem countP_isExit_eventsIn (mode : Mode) (t : Tree) :
    (t.eventsIn mode).countP Event.isExit = t.rules.length := by
  have hkeeps : (fun e : Event Tree => e.isExit && mode.keeps e) = Event.isExit := by
    funext e
    cases e <;> simp [Mode.keeps, Event.isExit]
  rw [eventsIn, List.countP_filter, hkeeps, countP_isExit_events 0, rules]

/-- A rule of a complete tree, with its level: it is named by level and number, and below it are
`fanout` rules or, on the last level, one terminal on the next column. -/
structure IsFullRule (fanout last number : Nat) (p : Nat × Tree) : Prop where
  label_eq : p.2.label = .rule (fullName p.1 number)
  level_le : p.1 ≤ last
  above_last : p.1 < last → p.2.children.length = fanout ∧ ∀ c ∈ p.2.children, c.isInternal = true
  on_last : p.1 = last → p.2.children = [leafAt (number + 1) none]

/-- A complete tree with its root on a level, whose rules take the numbers from `i` up to `j`. -/
structure FullFrom (fanout below level i : Nat) (t : Tree) (j : Nat) : Prop where
  isInternal : t.isInternal = true
  numbered : NumberedFrom (IsFullRule fanout (level + below)) i (t.rulesFrom level)
  rules_length : (t.rulesFrom level).length = ∑ l ∈ Finset.range (below + 1), fanout ^ l
  count_eq : i + (t.rulesFrom level).length = j
  leaves_length : t.leaves.length = fanout ^ below
  terminals : ∀ leaf ∈ t.leaves, ∃ symbol, leaf = .terminal symbol

/-- The same of trees side by side. -/
structure AllFullFrom (fanout below level i : Nat) (ts : List Tree) (j : Nat) : Prop where
  isInternal : ∀ t ∈ ts, t.isInternal = true
  numbered : NumberedFrom (IsFullRule fanout (level + below)) i (rulesFromList level ts)
  rules_length :
    (rulesFromList level ts).length = ts.length * ∑ l ∈ Finset.range (below + 1), fanout ^ l
  count_eq : i + (rulesFromList level ts).length = j
  leaves_length : (leavesList ts).length = ts.length * fanout ^ below
  terminals : ∀ leaf ∈ leavesList ts, ∃ symbol, leaf = .terminal symbol

variable {fanout below level i j k : Nat}

theorem allFullFrom_nil : AllFullFrom fanout below level i [] i where
  isInternal := nofun
  numbered := numberedFrom_nil _ _
  rules_length := by rw [List.length_nil, Nat.zero_mul, rulesFromList, List.length_nil]
  count_eq := rfl
  leaves_length := by rw [List.length_nil, Nat.zero_mul, leavesList, List.length_nil]
  terminals := nofun

theorem AllFullFrom.cons {t : Tree} {ts : List Tree} (ht : FullFrom fanout below level i t j)
    (hts : AllFullFrom fanout below level j ts k) :
    AllFullFrom fanout below level i (t :: ts) k := by
  obtain rfl := ht.count_eq
  constructor
  case isInternal => exact List.forall_mem_cons.mpr ⟨ht.isInternal, hts.isInternal⟩
  case numbered =>
    rw [rulesFromList]
    exact ht.numbered.append hts.numbered
  case rules_length =>
    rw [rulesFromList, List.length_append, ht.rules_length, hts.rules_length, List.length_cons,
      Nat.succ_mul, Nat.add_comm]
  case count_eq =>
    rw [rulesFromList, List.length_append, ← Nat.add_assoc]
    exact hts.count_eq
  case leaves_length =>
    rw [leavesList, List.length_append, ht.leaves_length, hts.leaves_length, List.length_cons,
      Nat.succ_mul, Nat.add_comm]
  case terminals =>
    intro leaf hleaf
    rw [leavesList] at hleaf
    rcases List.mem_append.mp hleaf with hleaf | hleaf
    · exact ht.terminals leaf hleaf
    · exact hts.terminals leaf hleaf

/-- A rule on the last level with its terminal. -/
theorem fullFrom_last (fanout level i : Nat) :
    FullFrom fanout 0 level i (ruleOf (fullName level i) [leafAt (i + 1) none]) (i + 1) := by
  constructor
  case isInternal => rfl
  case numbered =>
    refine .cons ⟨rfl, le_rfl, ?_, fun _ => rfl⟩ (numberedFrom_nil _ _)
    intro hlt
    exact absurd hlt (Nat.lt_irrefl level)
  case rules_length => rw [Finset.sum_range_one, Nat.pow_zero]; rfl
  case count_eq => rfl
  case leaves_length => rw [Nat.pow_zero]; rfl
  case terminals =>
    intro leaf hleaf
    exact ⟨_, List.mem_singleton.mp hleaf⟩

/-- A rule above complete trees that are side by side. -/
theorem AllFullFrom.ruleOf {cs : List Tree} (h : AllFullFrom fanout below (level + 1) (i + 1) cs j)
    (hlength : cs.length = fanout) :
    FullFrom fanout (below + 1) level i (ruleOf (fullName level i) cs) j := by
  have hlast : level + 1 + below = level + (below + 1) := by omega
  have hrules : (Tree.ruleOf (fullName level i) cs).rulesFrom level =
      (level, Tree.ruleOf (fullName level i) cs) :: rulesFromList (level + 1) cs := rfl
  have hleaves : (Tree.ruleOf (fullName level i) cs).leaves = leavesList cs := rfl
  have hnumbered := h.numbered
  rw [hlast] at hnumbered
  constructor
  case isInternal => rfl
  case numbered =>
    rw [hrules]
    refine .cons ⟨rfl, Nat.le_add_right _ _, fun _ => ⟨hlength, h.isInternal⟩, ?_⟩ hnumbered
    intro heq
    omega
  case rules_length =>
    rw [hrules, List.length_cons, h.rules_length, hlength]
    exact geom_sum_succ.symm
  case count_eq =>
    have hcount := h.count_eq
    rw [hrules, List.length_cons]
    omega
  case leaves_length => rw [hleaves, h.leaves_length, hlength, Nat.pow_succ, Nat.mul_comm]
  case terminals =>
    rw [hleaves]
    exact h.terminals

theorem fullBelow_yields (fanout below level i : Nat) :
    Yields (fullBelow fanout below level) i (FullFrom fanout below level i) := by
  -- on the levels below; the children start one level deeper, behind the number of their parent
  induction below generalizing level i with
  | zero =>
    rw [fullBelow]
    apply yields_next_bind
    exact yields_pure (fullFrom_last fanout level i)
  | succ below ih =>
    rw [fullBelow]
    apply yields_next_bind
    have hchildren := Yields.mapM_replicate (Q := AllFullFrom fanout below (level + 1))
      (ih (level + 1)) (fun _ => allFullFrom_nil) (fun _ _ _ _ _ ht hts => .cons ht hts)
      fanout (i + 1)
    apply hchildren.bind
    rintro cs j ⟨hlength, hcs⟩
    exact yields_pure (hcs.ruleOf hlength)

/-- The name gives both numbers back. -/
theorem eq_of_fullName_eq {level' number number' : Nat}
    (h : fullName level number = fullName level' number') : level = level' ∧ number = number' := by
  have hcut : Text.ofNat level ++ '_' :: Text.ofNat number =
      Text.ofNat level' ++ '_' :: Text.ofNat number' := by
    simpa [fullName] using h
  have hdigits (n : Nat) : '_' ∉ Text.ofNat n := Text.not_mem_ofNat (by decide) n
  obtain ⟨hlevel, hnumber⟩ := Sequence.eq_of_append_cons (hdigits level) (hdigits level') hcut
  exact ⟨Text.ofNat_injective hlevel, Text.ofNat_injective hnumber⟩

/-- Rules with different numbers have different names. -/
theorem nodup_labels {last : Nat} {rules : List (Nat × Tree)}
    (h : NumberedFrom (IsFullRule fanout last) i rules) :
    (rules.map fun p => p.2.label).Nodup := by
  rw [List.nodup_iff_getElem?_ne_getElem?]
  intro m n hlt hn heq
  rw [List.length_map] at hn
  have hm : m < rules.length := hlt.trans hn
  have hlabel (n : Nat) (hn : n < rules.length) :
      rules[n].2.label = .rule (fullName rules[n].1 (i + n)) :=
    (h n rules[n] (List.getElem?_eq_getElem hn)).label_eq
  rw [List.getElem?_map, List.getElem?_map, List.getElem?_eq_getElem hm,
    List.getElem?_eq_getElem hn, Option.map_some, Option.map_some, Option.some_inj, hlabel m hm,
    hlabel n hn] at heq
  have hnumber := (eq_of_fullName_eq (Label.rule.inj heq)).2
  omega

theorem exists_fullFrom_full {depth : Nat} (h : 1 ≤ depth) (fanout : Nat) :
    ∃ j, FullFrom fanout (depth - 1) 0 0 (full depth fanout) j := by
  have hbelow : ((depth : Int) - 1).toNat = depth - 1 := by omega
  rw [full, hbelow, Int.toNat_natCast]
  exact ⟨_, (fullBelow_yields fanout (depth - 1) 0 0).run⟩

/-- A complete tree has the powers of the fanout as the numbers of rules on its levels and one
terminal for each rule of the last one. Its rules are named by level and by their number in
pre-order, which is the order in which every walk that enters rules comes to them. -/
theorem full_is_complete (depth fanout : Nat) (hdepth : 1 ≤ depth) :
    (full depth fanout).rules.length = ∑ l ∈ Finset.range depth, fanout ^ l ∧
    (full depth fanout).leaves.length = fanout ^ (depth - 1) ∧
    (∀ leaf ∈ (full depth fanout).leaves, ∃ symbol, leaf = .terminal symbol) ∧
    (∀ k p, (full depth fanout).rules[k]? = some p → IsFullRule fanout (depth - 1) k p) ∧
    ((full depth fanout).rules.map fun p => p.2.label).Nodup ∧
    ∀ s : Strategy, s.mode.enters = true → ∃ events, nodes.Records s (full depth fanout) events ∧
      events.filterMap Event.entered? = (full depth fanout).rules.map Prod.snd ∧
      (∀ (k : Nat) (u : Tree), (events.filterMap Event.entered?)[k]? = some u →
        ∃ level, u.label = .rule (fullName level k)) ∧
      events.countP Event.isExit = (events.filterMap Event.entered?).length := by
  obtain ⟨j, hfull⟩ := exists_fullFrom_full hdepth fanout
  have hnumbered (k : Nat) (p : Nat × Tree) (hp : (full depth fanout).rules[k]? = some p) :
      IsFullRule fanout (depth - 1) k p := by
    have hrule := hfull.numbered k p hp
    rwa [Nat.zero_add, Nat.zero_add] at hrule
  refine ⟨?_, hfull.leaves_length, hfull.terminals, hnumbered, nodup_labels hfull.numbered, ?_⟩
  · have hlength := hfull.rules_length
    rwa [Nat.sub_add_cancel hdepth] at hlength
  · intro s hs
    have hrecords := nodes.records_eventsIn s (full depth fanout)
    rw [eventsIn_nodes] at hrecords
    have hentered := filterMap_entered?_eventsIn hs (full depth fanout)
    refine ⟨_, hrecords, hentered, ?_, ?_⟩
    · intro k u hu
      rw [hentered, List.getElem?_map] at hu
      obtain ⟨p, hp, rfl⟩ := Option.map_eq_some_iff.mp hu
      exact ⟨p.1, (hnumbered k p hp).label_eq⟩
    · rw [hentered, List.length_map, countP_isExit_eventsIn]

/-- Three levels of rules with two rules below each rule above the last. -/
theorem full_is_complete_binary :
    1 ≤ 3 ∧ (full 3 2).rules.length = 7 ∧ (full 3 2).leaves.length = 4 ∧
    Strategy.standard.mode.enters = true ∧
    ∃ events, nodes.Records .standard (full 3 2) events ∧ events.countP Event.isExit = 7 := by
  obtain ⟨hrules, hleaves, -, -, -, hwalks⟩ := full_is_complete 3 2 (by decide)
  obtain ⟨events, hrecords, hentered, -, hexits⟩ := hwalks .standard rfl
  have hseven : ∑ l ∈ Finset.range 3, 2 ^ l = 7 := by decide
  refine ⟨by decide, hrules.trans hseven, hleaves, rfl, events, hrecords, ?_⟩
  rw [hexits, hentered, List.length_map]
  exact hrules.trans hseven

end Tree

end SyntaxReport
