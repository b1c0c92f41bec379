import Mathlib.Algebra.BigOperators.Ring.List
import Mathlib.Algebra.Ring.Nat
import SyntaxReport.Proofs.Tree.Shape
import SyntaxReport.Proofs.Walk.Equivalence

/-! The steps of the walk with a stack of frames. As long as no callback raises, a step depends on
the stack alone. Every step leaves a path of rules from the root down, so the stack is never larger
than the tree is high, and what is left to do gets less by exactly one: each rule is pushed and
popped, each leaf visited, and all of it once. -/
namespace SyntaxReport

namespace Tree

/-- How many steps the walk spends on a tree: two for every rule and one for every leaf. -/
def visits (t : Tree) : Nat :=
  2 * t.rules.length + t.leaves.length

/-- How often the loop of a walk runs for a tree. The root is pushed before the loop. -/
def loopSteps (t : Tree) : Nat :=
  2 * t.rules.length - 1 + t.leaves.length

theorem length_rulesFromList (level : Nat) (ts : List Tree) :
    (rulesFromList level ts).length = (ts.map fun t => t.rules.length).sum := by
  rw [rulesFromList_eq_flatMap, List.length_flatMap]
  simp only [length_rulesFrom]

theorem visits_of_isInternal {t : Tree} (h : t.isInternal = true) :
    t.visits = (t.children.map visits).sum + 2 := by
  cases t with
  | rule name cs start stop =>
    have hrules := length_rulesFromList 1 cs
    have hleaves : (leavesList cs).length = (cs.map fun t => t.leaves.length).sum := by
      rw [leavesList_eq_flatMap, List.length_flatMap]
    have hsum : (cs.map visits).sum =
        2 * (cs.map fun t => t.rules.length).sum + (cs.map fun t => t.leaves.length).sum := by
      unfold visits
      rw [List.sum_map_add, List.sum_map_mul_left]
    rw [visits, rules, rulesFrom, leaves, List.length_cons, hrules, hleaves, children, hsum]
    omega
  | terminal symbol => cases h
  | error symbol => cases h

theorem visits_of_not_isInternal {t : Tree} (h : t.isInternal = false) : t.visits = 1 := by
  cases t with
  | rule name cs start stop => cases h
  | terminal symbol => rfl
  | error symbol => rfl

theorem length_rules_pos {t : Tree} (h : t.isInternal = true) : 0 < t.rules.length := by
  cases t with
  | rule name cs start stop => exact Nat.succ_pos _
  | terminal symbol => cases h
  | error symbol => cases h

theorem height_pos {t : Tree} (h : t.isInternal = true) : 0 < t.height := by
  cases t with
  | rule name cs start stop =>
    rw [height]
    omega
  | terminal symbol => cases h
  | error symbol => cases h

theorem height_lt_of_mem {t c : Tree} (h : c ∈ t.children) : c.height < t.height := by
  cases t with
  | rule name cs start stop =>
    have hle : c.height ≤ heightList cs := height_le_heightList h
    rw [height]
    omega
  | terminal symbol => cases h
  | error symbol => cases h

end Tree

namespace Listener

variable {N σ ε : Type}

/-- No callback raises. -/
def NeverRaises (l : Listener N σ ε) : Prop :=
  ∀ e s, ∃ s', l.fire e s = .ok () s'

theorem NeverRaises.fireAll {l : Listener N σ ε} (hl : l.NeverRaises) (es : List (Event N))
    (s : σ) : ∃ s', Walk.fireAll l es s = .ok () s' := by
  induction es generalizing s with
  | nil => exact ⟨s, rfl⟩
  | cons e es ih =>
    obtain ⟨s', hs'⟩ := hl e s
    rw [Walk.fireAll_cons_apply, hs']
    exact ih s'

end Listener

namespace Walk

variable {N σ ε : Type}

/-- The stack after a number of steps. -/
def stepTimes (view : View N σ) (mode : Mode) (l : Listener N σ ε) :
    (count : Nat) → List (Frame N) → EStateM (WalkError ε) σ (List (Frame N))
  | 0, stack => pure stack
  | count + 1, stack => do
    stepTimes view mode l count (← step view mode l stack)

end Walk

namespace Nodes

variable {N : Type} (k : Nodes N)

/-- A frame of a rule whose cursor stands among the rule's children or behind the last one. -/
structure Sound (f : Frame N) : Prop where
  isInternal : (k.tree f.node).isInternal = true
  childCount_eq : f.childCount = (k.children f.node).length
  nonneg : 0 ≤ f.childIndex
  le_childCount : f.childIndex ≤ f.childCount

/-- The frames, the top one first, are those of rules on a path from the root down. Each frame above
another is that of the child which the lower one returned last. -/
inductive Path (root : N) : List (Frame N) → Prop
  | empty : Path root []
  | bottom {f : Frame N} (sound : k.Sound f) (isRoot : f.node = root) : Path root [f]
  | above {f g : Frame N} {rest : List (Frame N)} (sound : k.Sound f) (below : Path root (g :: rest))
    (nonneg : 0 ≤ g.childIndex - 1) (lt_childCount : g.childIndex - 1 < g.childCount)
    (returned : Sequence.item? (k.children g.node) (g.childIndex - 1) = some f.node) :
    Path root (f :: g :: rest)

/-- The frames behind the next step. -/
def advance : List (N × Nat) → List (N × Nat)
  | [] => []
  | (n, i) :: rest => match (k.children n)[i]? with
    | none => rest
    | some c => if (k.tree c).isInternal then (c, 0) :: (n, i + 1) :: rest else (n, i + 1) :: rest

/-- The steps that a stack still takes: those for the remaining children of every frame, and one to
leave it. -/
def remaining (stack : List (N × Nat)) : Nat :=
  (stack.map fun (n, i) => (((k.children n).drop i).map fun c => (k.tree c).visits).sum + 1).sum

variable {k}

theorem remaining_cons (n : N) (i : Nat) (rest : List (N × Nat)) :
    k.remaining ((n, i) :: rest) =
      (((k.children n).drop i).map fun c => (k.tree c).visits).sum + 1 + k.remaining rest := by
  simp [remaining]

theorem remaining_eq_zero_iff (stack : List (N × Nat)) : k.remaining stack = 0 ↔ stack = [] := by
  cases stack with
  | nil => simp [remaining]
  | cons top rest =>
    rw [remaining_cons]
    simp

theorem visits_of_isInternal {n : N} (h : (k.tree n).isInternal = true) :
    (k.tree n).visits = ((k.children n).map fun c => (k.tree c).visits).sum + 2 := by
  rw [Tree.visits_of_isInternal h, ← k.map_children, List.map_map]
  rfl

/-- What is left to do gets less by one. -/
theorem remaining_advance (top : N × Nat) (rest : List (N × Nat)) :
    k.remaining (k.advance (top :: rest)) + 1 = k.remaining (top :: rest) := by
  obtain ⟨n, i⟩ := top
  rw [advance, remaining_cons]
  cases hc : (k.children n)[i]? with
  | none =>
    rw [List.drop_eq_nil_of_le (List.getElem?_eq_none_iff.mp hc)]
    simp only [List.map_nil, List.sum_nil]
    omega
  | some c =>
    obtain ⟨hi, rfl⟩ := List.getElem?_eq_some_iff.mp hc
    rw [List.drop_eq_getElem_cons hi, List.map_cons, List.sum_cons]
    cases hr : (k.tree (k.children n)[i]).isInternal with
    | true =>
      -- of the two steps for the rule this is the first
      have hvisits := visits_of_isInternal hr
      simp only [hr, if_true, remaining_cons, List.drop_zero]
      omega
    | false =>
      have hvisits := Tree.visits_of_not_isInternal hr
      simp only [hr, Bool.false_eq_true, if_false, remaining_cons]
      omega

theorem Sound.next {n : N} {i : Nat} (h : k.Sound (k.frameAt (n, i)))
    (hi : i < (k.children n).length) : k.Sound (k.frameAt (n, i + 1)) where
  isInternal := h.isInternal
  childCount_eq := rfl
  nonneg := Int.natCast_nonneg (i + 1)
  le_childCount := Int.ofNat_le.mpr hi

theorem sound_frameAt_zero {n : N} (h : (k.tree n).isInternal = true) :
    k.Sound (k.frameAt (n, 0)) where
  isInternal := h
  childCount_eq := rfl
  nonneg := Int.le_refl 0
  le_childCount := Int.natCast_nonneg _

theorem Path.sound {root : N} {f : Frame N} {rest : List (Frame N)} (h : k.Path root (f :: rest)) :
    k.Sound f := by
  cases h with
  | bottom sound isRoot => exact sound
  | above sound below nonneg lt_childCount returned => exact sound

theorem Path.tail {root : N} {f : Frame N} {rest : List (Frame N)} (h : k.Path root (f :: rest)) :
    k.Path root rest := by
  cases h with
  | bottom sound isRoot => exact .empty
  | above sound below nonneg lt_childCount returned => exact below

/-- On top of a path another frame of the same rule may stand. -/
theorem Path.replace {root : N} {f f' : Frame N} {rest : List (Frame N)}
    (h : k.Path root (f :: rest)) (hnode : f'.node = f.node) (hsound : k.Sound f') :
    k.Path root (f' :: rest) := by
  cases h with
  | bottom sound isRoot => exact .bottom hsound (hnode.trans isRoot)
  | above sound below nonneg lt_childCount returned =>
    rw [← hnode] at returned
    exact .above hsound below nonneg lt_childCount returned

/-- A step leads from a path to a path. -/
theorem path_advance {root : N} {stack : List (N × Nat)}
    (h : k.Path root (stack.map k.frameAt)) : k.Path root ((k.advance stack).map k.frameAt) := by
  cases stack with
  | nil => exact .empty
  | cons top rest =>
    obtain ⟨n, i⟩ := top
    rw [List.map_cons] at h
    rw [advance]
    cases hc : (k.children n)[i]? with
    | none => exact h.tail
    | some c =>
      obtain ⟨hi, -⟩ := List.getElem?_eq_some_iff.mp hc
      have htop : k.Path root (k.frameAt (n, i + 1) :: rest.map k.frameAt) :=
        h.replace rfl (h.sound.next hi)
      cases hr : (k.tree c).isInternal with
      | false =>
        simp only [hr, Bool.false_eq_true, if_false]
        exact htop
      | true =>
        simp only [hr, if_true]
        -- the cursor of the frame below has just passed the child
        have hindex : (k.frameAt (n, i + 1)).childIndex - 1 = (i : Int) :=
          Int.add_sub_cancel (i : Int) 1
        refine .above (sound_frameAt_zero hr) htop ?_ ?_ ?_
        · rw [hindex]
          exact Int.natCast_nonneg i
        · rw [hindex]
          exact Int.ofNat_lt.mpr hi
        · rw [hindex, Sequence.item?_ofNat]
          exact hc

/-- The rules of a path get less and less high. -/
theorem Path.length_add_height_le {root : N} {f : Frame N} {rest : List (Frame N)}
    (h : k.Path root (f :: rest)) :
    (f :: rest).length + (k.tree f.node).height ≤ (k.tree root).height + 1 := by
  induction rest generalizing f with
  | nil =>
    cases h with
    | bottom sound isRoot =>
      rw [isRoot, List.length_singleton]
      omega
  | cons g rest ih =>
    cases h with
    | above sound below nonneg lt_childCount returned =>
      have hbelow := ih below
      have hmem : f.node ∈ k.children g.node := by
        obtain ⟨j, hj⟩ := Int.eq_ofNat_of_zero_le nonneg
        rw [hj, Sequence.item?_ofNat] at returned
        exact List.mem_of_getElem? returned
      have hlt : (k.tree f.node).height < (k.tree g.node).height := by
        apply Tree.height_lt_of_mem
        rw [← k.map_children]
        exact List.mem_map_of_mem hmem
      rw [List.length_cons]
      omega

theorem Path.length_le_height {root : N} {stack : List (Frame N)} (h : k.Path root stack) :
    stack.length ≤ (k.tree root).height := by
  cases stack with
  | nil => exact Nat.zero_le _
  | cons f rest =>
    have hle := h.length_add_height_le
    have hpos := Tree.height_pos h.sound.isInternal
    omega

/-- The next child of a sound frame is there. -/
theorem Sound.next_ne_gone {f : Frame N} (h : k.Sound f) :
    f.next (k.children f.node) ≠ .gone := by
  obtain ⟨i, hi⟩ := Int.eq_ofNat_of_zero_le h.nonneg
  have hf : f = k.frameAt (f.node, i) := by
    obtain ⟨node, childCount, childIndex⟩ := f
    exact congrArg₂ (Frame.mk node) h.childCount_eq hi
  have hnext := k.next_frameAt f.node i
  rw [← hf] at hnext
  rw [hnext]
  cases (k.children f.node)[i]? <;> nofun

end Nodes

namespace Walk

variable {N σ ε : Type} {k : Nodes N} {l : Listener N σ ε}

/-- If nothing raises, a step depends on the stack alone. -/
theorem step_eq_advance (hl : l.NeverRaises) (mode : Mode) (stack : List (N × Nat)) (s : σ) :
    ∃ s', step k.view mode l (stack.map k.frameAt) s =
      .ok ((k.advance stack).map k.frameAt) s' := by
  have hfires (es : List (Event N)) (frames : List (Frame N)) :
      ∃ s', (do fireAll l es; return frames : EStateM (WalkError ε) σ _) s = .ok frames s' := by
    obtain ⟨s', hs'⟩ := hl.fireAll es s
    refine ⟨s', ?_⟩
    simp only [bind, EStateM.bind, hs']
    rfl
  cases stack with
  | nil => exact ⟨s, rfl⟩
  | cons top rest =>
    obtain ⟨n, i⟩ := top
    rw [List.map_cons, step_frameAt, Nodes.advance]
    cases (k.children n)[i]? with
    | none =>
      simp only [call_exit_eq_fireAll]
      exact hfires _ _
    | some c =>
      cases ht : k.tree c with
      | rule name cs start stop =>
        simp only [ht, Tree.label, Tree.isInternal, if_true, enter_eq_fireAll]
        exact hfires _ _
      | terminal symbol =>
        simp only [ht, Tree.label, Tree.isInternal, terminal_eq_fireAll]
        exact hfires _ _
      | error symbol =>
        simp only [ht, Tree.label, Tree.isInternal, error_eq_fireAll]
        exact hfires _ _

/-- A run of steps keeps what every step keeps. -/
theorem stepTimes_path (hl : l.NeverRaises) (mode : Mode) {root : N} (count : Nat)
    (stack : List (N × Nat)) (hpath : k.Path root (stack.map k.frameAt))
    (hcount : count ≤ k.remaining stack) (s : σ) :
    ∃ stack' s', stepTimes k.view mode l count (stack.map k.frameAt) s =
        .ok (stack'.map k.frameAt) s' ∧
      k.Path root (stack'.map k.frameAt) ∧ k.remaining stack' + count = k.remaining stack := by
  -- along the count, from whatever stack and state the steps before have left
  induction count generalizing stack s with
  | zero => exact ⟨stack, s, rfl, hpath, rfl⟩
  | succ count ih =>
    cases stack with
    | nil =>
      rw [(Nodes.remaining_eq_zero_iff []).mpr rfl] at hcount
      omega
    | cons top rest =>
      obtain ⟨s₁, hstep⟩ := step_eq_advance (k := k) hl mode (top :: rest) s
      have hless := Nodes.remaining_advance (k := k) top rest
      obtain ⟨stack', s', hsteps, hpath', hleft⟩ :=
        ih (k.advance (top :: rest)) (Nodes.path_advance hpath) (by omega) s₁
      refine ⟨stack', s', ?_, hpath', by omega⟩
      rw [stepTimes]
      simp only [bind, EStateM.bind, hstep]
      exact hsteps

/-- The loop ends if it may take as many steps as are left, and not before. -/
theorem run_of_remaining (hl : l.NeverRaises) (mode : Mode) (fuel : Nat) (stack : List (N × Nat))
    (s : σ) :
    (k.remaining stack ≤ fuel → ∃ s', run k.view mode l fuel (stack.map k.frameAt) s = .ok () s') ∧
    (fuel < k.remaining stack →
      ∃ s', run k.view mode l fuel (stack.map k.frameAt) s = .error .unfinished s') := by
  induction fuel generalizing stack s with
  | zero =>
    cases stack with
    | nil => exact ⟨fun _ => ⟨s, rfl⟩, fun hlt => absurd hlt (Nat.not_lt_zero _)⟩
    | cons top rest =>
      have hless := Nodes.remaining_advance (k := k) top rest
      exact ⟨fun hle => by omega, fun _ => ⟨s, rfl⟩⟩
  | succ fuel ih =>
    cases stack with
    | nil =>
      have hzero := (Nodes.remaining_eq_zero_iff (k := k) []).mpr rfl
      exact ⟨fun _ => ⟨s, rfl⟩, fun hlt => by omega⟩
    | cons top rest =>
      -- one step takes one unit of fuel and one of what is left
      obtain ⟨s₁, hstep⟩ := step_eq_advance (k := k) hl mode (top :: rest) s
      have hless := Nodes.remaining_advance (k := k) top rest
      have hrun : run k.view mode l (fuel + 1) ((top :: rest).map k.frameAt) s =
          run k.view mode l fuel ((k.advance (top :: rest)).map k.frameAt) s₁ := by
        rw [List.map_cons] at hstep ⊢
        rw [run]
        simp only [bind, EStateM.bind, hstep]
      obtain ⟨hok, herror⟩ := ih (k.advance (top :: rest)) s₁
      rw [hrun]
      exact ⟨fun hle => hok (by omega), fun hlt => herror (by omega)⟩

theorem remaining_root {root : N} (hroot : (k.tree root).isInternal = true) :
    k.remaining [(root, 0)] = (k.tree root).loopSteps := by
  have hvisits := Nodes.visits_of_isInternal hroot
  have hrules := Tree.length_rules_pos hroot
  have hnil : k.remaining ([] : List (N × Nat)) = 0 := rfl
  rw [Nodes.remaining_cons, List.drop_zero, hnil, Tree.loopSteps]
  rw [Tree.visits] at hvisits
  omega

/-- The loop of the walk with a stack of frames is safe and ends. Before each of its runs the frames
are those of a path from the root, no more than the tree is high, and the next child is there; and
it runs exactly as often as there are rules to push and pop and leaves to visit. -/
theorem loop_follows_paths (k : Nodes N) (mode : Mode) (l : Listener N σ ε) (hl : l.NeverRaises)
    (root : N) (hroot : (k.tree root).isInternal = true) (s : σ) :
    (∀ count ≤ (k.tree root).loopSteps, ∃ stack s',
      stepTimes k.view mode l count [Frame.ofNode root (k.children root)] s = .ok stack s' ∧
      k.Path root stack ∧ stack.length ≤ (k.tree root).height ∧
      (∀ top ∈ stack.head?, top.next (k.children top.node) ≠ .gone) ∧
      (stack = [] ↔ count = (k.tree root).loopSteps)) ∧
    (∀ fuel, (k.tree root).loopSteps ≤ fuel →
      ∃ s', iterate k.view mode l fuel root s = .ok () s') ∧
    ∀ fuel, fuel < (k.tree root).loopSteps →
      ∃ s', iterate k.view mode l fuel root s = .error .unfinished s' := by
  have hleft := remaining_root hroot
  have hstart : [Frame.ofNode root (k.children root)] = [(root, 0)].map k.frameAt := rfl
  refine ⟨fun count hcount => ?_, ?_⟩
  · have hbottom : k.Path root ([(root, 0)].map k.frameAt) :=
      .bottom (Nodes.sound_frameAt_zero hroot) rfl
    obtain ⟨stack, s', hsteps, hpath, hremaining⟩ :=
      stepTimes_path hl mode count [(root, 0)] hbottom (by omega) s
    refine ⟨stack.map k.frameAt, s', by rw [hstart, hsteps], hpath, hpath.length_le_height, ?_, ?_⟩
    · intro top htop
      obtain ⟨rest, hrest⟩ := List.head?_eq_some_iff.mp htop
      rw [hrest] at hpath
      exact hpath.sound.next_ne_gone
    · rw [List.map_eq_nil_iff, ← Nodes.remaining_eq_zero_iff (k := k)]
      omega
  · -- before the loop the root is entered, which does not raise
    obtain ⟨s₁, hs₁⟩ := hl.fireAll (if mode.enters then [.enter root] else []) s
    have hiterate (fuel : Nat) : iterate k.view mode l fuel root s =
        run k.view mode l fuel ([(root, 0)].map k.frameAt) s₁ := by
      rw [iterate_eq]
      cases ht : k.tree root with
      | rule name cs start stop =>
        simp only [Tree.label, enter_eq_fireAll, bind, EStateM.bind, hs₁]
        rfl
      | terminal symbol =>
        rw [ht] at hroot
        cases hroot
      | error symbol =>
        rw [ht] at hroot
        cases hroot
    refine ⟨fun fuel hle => ?_, fun fuel hlt => ?_⟩
    · rw [hiterate]
      exact (run_of_remaining hl mode fuel [(root, 0)] s₁).1 (by omega)
    · rw [hiterate]
      exact (run_of_remaining hl mode fuel [(root, 0)] s₁).2 (by omega)

/-- A rule with a leaf and an empty rule below it takes four steps. -/
theorem loop_follows_paths_empty_rule :
    (Listener.recorder : Listener Tree (List (Event Tree)) Empty).NeverRaises ∧
    (Tree.rule ['a'] [.terminal none, .rule ['b'] [] none none] none none).isInternal = true ∧
    (∃ s', iterate Tree.nodes.view .full
      (Listener.recorder : Listener Tree (List (Event Tree)) Empty) 4
      (.rule ['a'] [.terminal none, .rule ['b'] [] none none] none none) [] = .ok () s') ∧
    ∃ s', iterate Tree.nodes.view .full
      (Listener.recorder : Listener Tree (List (Event Tree)) Empty) 3
      (.rule ['a'] [.terminal none, .rule ['b'] [] none none] none none) [] =
        .error .unfinished s' := by
  have hl : (Listener.recorder : Listener Tree (List (Event Tree)) Empty).NeverRaises := by
    intro e s
    cases e <;> exact ⟨_, rfl⟩
  have hloop := loop_follows_paths Tree.nodes .full _ hl
    (.rule ['a'] [.terminal none, .rule ['b'] [] none none] none none) rfl []
  exact ⟨hl, rfl, hloop.2.1 4 (by decide), hloop.2.2 3 (by decide)⟩

end Walk

end SyntaxReport
