import SyntaxReport.Proofs.Tree.Counting
import SyntaxReport.Proofs.Tree.Shape
import SyntaxReport.Tree.Generate

/-! Random trees keep to their bounds, whatever is drawn. A tree that grows takes the next numbers
for its leaves from left to right, and under a rule of the last level there are leaves only. -/
namespace SyntaxReport.Tree

open Counting

/-- A leaf as it grows: one to six small letters on the first line, on the column that is its
number. -/
def IsNumberedLeaf (number : Nat) (leaf : Tree) : Prop :=
  ∃ (text : Text) (symbol : Token),
    (leaf = .terminal (some symbol) ∨ leaf = .error (some symbol)) ∧
    symbol.line = 1 ∧ symbol.column = number ∧ symbol.first = number ∧
    symbol.last = number + text.length - 1 ∧ symbol.text? = some text ∧
    1 ≤ text.length ∧ text.length ≤ 6 ∧ ∀ c ∈ text, 'a' ≤ c ∧ c ≤ 'z'

/-- A tree that takes the numbers from `i` up to `j` for its leaves, with at most so many levels of
rules and at most so many children below each of them. -/
structure Grown (fanout levels i : Nat) (t : Tree) (j : Nat) : Prop where
  level_lt : ∀ p ∈ t.rules, p.1 < levels
  children_le : ∀ p ∈ t.rules, p.2.children.length ≤ fanout
  numbered : NumberedFrom IsNumberedLeaf i t.leaves
  count_eq : i + t.leaves.length = j

/-- The same of trees side by side. -/
structure AllGrown (fanout levels i : Nat) (ts : List Tree) (j : Nat) : Prop where
  level_lt : ∀ t ∈ ts, ∀ p ∈ t.rules, p.1 < levels
  children_le : ∀ t ∈ ts, ∀ p ∈ t.rules, p.2.children.length ≤ fanout
  numbered : NumberedFrom IsNumberedLeaf i (leavesList ts)
  count_eq : i + (leavesList ts).length = j

theorem letter_mem_range (i : Fin 26) : 'a' ≤ letter i ∧ letter i ≤ 'z' := by
  decide +revert

theorem IsNumberedLeaf.grown {number : Nat} {leaf : Tree} (h : IsNumberedLeaf number leaf)
    (fanout levels : Nat) : Grown fanout levels number leaf (number + 1) := by
  have hnumbered : NumberedFrom IsNumberedLeaf number [leaf] :=
    .cons h (numberedFrom_nil _ _)
  have hshape : leaf.rules = [] ∧ leaf.leaves = [leaf] := by
    obtain ⟨text, symbol, hleaf, -⟩ := h
    rcases hleaf with rfl | rfl
    · exact ⟨rfl, rfl⟩
    · exact ⟨rfl, rfl⟩
  constructor
  case level_lt => simp [hshape.1]
  case children_le => simp [hshape.1]
  case numbered => rwa [hshape.2]
  case count_eq => rw [hshape.2, List.length_singleton]

variable {fanout levels i j k : Nat}

theorem allGrown_nil : AllGrown fanout levels i [] i where
  level_lt := nofun
  children_le := nofun
  numbered := numberedFrom_nil _ _
  count_eq := rfl

theorem AllGrown.cons {t : Tree} {ts : List Tree} (ht : Grown fanout levels i t j)
    (hts : AllGrown fanout levels j ts k) : AllGrown fanout levels i (t :: ts) k := by
  obtain rfl := ht.count_eq
  constructor
  case level_lt => exact List.forall_mem_cons.mpr ⟨ht.level_lt, hts.level_lt⟩
  case children_le => exact List.forall_mem_cons.mpr ⟨ht.children_le, hts.children_le⟩
  case numbered =>
    rw [leavesList]
    exact ht.numbered.append hts.numbered
  case count_eq =>
    rw [leavesList, List.length_append, ← Nat.add_assoc]
    exact hts.count_eq

/-- A rule above trees that have grown one after the other. -/
theorem AllGrown.ruleOf {cs : List Tree} (h : AllGrown fanout levels i cs j)
    (hfanout : cs.length ≤ fanout) (name : Text) :
    Grown fanout (levels + 1) i (ruleOf name cs) j := by
  -- a rule below is one of a child, one level deeper
  have hrules (p : Nat × Tree) (hp : p ∈ (Tree.ruleOf name cs).rules) :
      p = (0, Tree.ruleOf name cs) ∨ ∃ c ∈ cs, ∃ q ∈ c.rules, p = (1 + q.1, q.2) := by
    rcases List.mem_cons.mp hp with rfl | hp
    · exact .inl rfl
    · rw [rulesFromList_eq_flatMap] at hp
      obtain ⟨c, hc, hp⟩ := List.mem_flatMap.mp hp
      rw [show 0 + 1 = 1 + 0 from rfl, rulesFrom_add] at hp
      obtain ⟨q, hq, rfl⟩ := List.mem_map.mp hp
      exact .inr ⟨c, hc, q, hq, rfl⟩
  constructor
  case level_lt =>
    intro p hp
    rcases hrules p hp with rfl | ⟨c, hc, q, hq, rfl⟩
    · exact Nat.succ_pos levels
    · have hlt := h.level_lt c hc q hq
      omega
  case children_le =>
    intro p hp
    rcases hrules p hp with rfl | ⟨c, hc, q, hq, rfl⟩
    · exact hfanout
    · exact h.children_le c hc q hq
  case numbered => exact h.numbered
  case count_eq => exact h.count_eq

variable {σ : Type} (chooser : Chooser σ) (bounds : Bounds)

theorem letters_yield (count i : Nat) :
    Yields (m := StateM σ)
      ((List.replicate count ()).mapM fun _ => do return letter (← chooser.upTo 25)) i
      fun text j => text.length = count ∧ (∀ c ∈ text, 'a' ≤ c ∧ c ≤ 'z') ∧ j = i := by
  have hletter (i : Nat) : Yields (m := StateM σ) (do return letter (← chooser.upTo 25)) i
      fun c j => ('a' ≤ c ∧ c ≤ 'z') ∧ j = i := by
    apply yields_lift_bind
    intro number
    exact yields_pure ⟨letter_mem_range number, rfl⟩
  apply Yields.mapM_replicate (Q := fun i text j => (∀ c ∈ text, 'a' ≤ c ∧ c ≤ 'z') ∧ j = i) hletter
  · intro i
    exact ⟨nofun, rfl⟩
  · rintro i c j text _ ⟨hc, rfl⟩ ⟨htext, rfl⟩
    exact ⟨List.forall_mem_cons.mpr ⟨hc, htext⟩, rfl⟩

theorem randomLeaf_yields (i : Nat) :
    Yields (randomLeaf chooser bounds) i fun t j => j = i + 1 ∧ IsNumberedLeaf i t := by
  unfold randomLeaf
  apply yields_next_bind
  apply yields_lift_bind
  intro extra
  apply (letters_yield chooser (extra.val + 1) (i + 1)).bind
  rintro text j ⟨hlength, hrange, rfl⟩
  apply yields_lift_bind
  intro isError
  have hextra := extra.isLt
  have hlower : 1 ≤ text.length := by omega
  have hupper : text.length ≤ 6 := by omega
  cases isError with
  | true =>
    exact yields_pure ⟨rfl, text, _, .inr rfl, rfl, rfl, rfl, rfl, rfl, hlower, hupper, hrange⟩
  | false =>
    exact yields_pure ⟨rfl, text, _, .inl rfl, rfl, rfl, rfl, rfl, rfl, hlower, hupper, hrange⟩

/-- A rule grows from whatever its children grow from. -/
theorem randomNode_yields {levels : Nat} {child : Growth σ Tree}
    (hchild : ∀ i, Yields child i (Grown bounds.maxFanout levels i)) (i : Nat) :
    Yields (randomNode chooser bounds child) i
      fun t j => t.isInternal = true ∧ Grown bounds.maxFanout (levels + 1) i t j := by
  unfold randomNode
  apply yields_lift_bind
  intro name
  apply yields_lift_bind
  intro count
  have hchildren := Yields.mapM_replicate (Q := AllGrown bounds.maxFanout levels) hchild
    (fun _ => allGrown_nil) (fun _ _ _ _ _ ht hts => .cons ht hts) count.val i
  apply hchildren.bind
  rintro cs j ⟨hlength, hcs⟩
  -- the number of children has been drawn from what the bounds allow
  have hfanout : cs.length ≤ bounds.maxFanout := by
    have hlt := count.isLt
    omega
  exact yields_pure ⟨rfl, hcs.ruleOf hfanout _⟩

theorem grown_randomLeaf (levels i : Nat) :
    Yields (randomLeaf chooser bounds) i (Grown bounds.maxFanout levels i) := by
  apply (randomLeaf_yields chooser bounds i).imp
  rintro leaf j ⟨rfl, hleaf⟩
  exact hleaf.grown _ _

/-- Below a rule of the last level there are leaves only; elsewhere each child is drawn. -/
theorem randomRule_yields (below i : Nat) :
    Yields (randomRule chooser bounds below) i
      fun t j => t.isInternal = true ∧ Grown bounds.maxFanout (below + 1) i t j := by
  induction below generalizing i with
  | zero =>
    rw [randomRule]
    exact randomNode_yields chooser bounds (grown_randomLeaf chooser bounds 0) i
  | succ below ih =>
    rw [randomRule]
    apply randomNode_yields
    intro i
    apply yields_lift_bind
    intro isLeaf
    cases isLeaf with
    | true => exact grown_randomLeaf chooser bounds (below + 1) i
    | false => exact (ih i).imp fun t j h => h.2

/-- A random tree is a rule. However its parts are drawn, no rule lies deeper than the bounds allow
or has more children, and the leaves carry their numbers from left to right. -/
theorem random_keeps_bounds (seed : σ) :
    (random chooser bounds seed).isInternal = true ∧
    (∀ p ∈ (random chooser bounds seed).rules,
      (p.1 : Int) < max bounds.maxDepth 1 ∧ p.2.children.length ≤ bounds.maxFanout) ∧
    ∀ k leaf, (random chooser bounds seed).leaves[k]? = some leaf → IsNumberedLeaf k leaf := by
  obtain ⟨hrule, hgrown⟩ := (randomRule_yields chooser bounds (bounds.maxDepth - 1).toNat 0).run_run
    seed
  refine ⟨hrule, fun p hp => ⟨?_, hgrown.children_le p hp⟩, fun k leaf hleaf => ?_⟩
  · have hlt := hgrown.level_lt p hp
    omega
  · have hnumbered := hgrown.numbered k leaf hleaf
    rwa [Nat.zero_add] at hnumbered

end SyntaxReport.Tree
