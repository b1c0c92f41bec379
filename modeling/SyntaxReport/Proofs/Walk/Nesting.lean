import SyntaxReport.Proofs.Walk.Recording

/-! The events of a walk are one traversal, well nested. One node may occur at several places of a
tree, so a place is named by its address, the way down to it from the root. The addresses put all
events of a traversal into one order, and the order holds the rest: nothing is entered, exited or
visited twice, rules are entered before what is below them and exited behind it, leaves are visited
from left to right, and the events below a rule stand together between its enter and its exit. -/
namespace SyntaxReport

/-- The way down from a node to a place below it: which child is taken at every step. -/
abbrev Address := List Nat

namespace Address

/-- Two ways part, and the first goes on further to the left. -/
def LeftOf : Address → Address → Prop
  | i :: a, j :: b => i < j ∨ i = j ∧ LeftOf a b
  | _, _ => False

/-- The order in which nodes come before what is below them. -/
def PreBefore (a b : Address) : Prop :=
  a <+: b ∧ a ≠ b ∨ a.LeftOf b

/-- The order in which nodes come behind what is below them. -/
def PostBefore (a b : Address) : Prop :=
  b <+: a ∧ a ≠ b ∨ a.LeftOf b

theorem LeftOf.extend {a b a' b' : Address} (h : a.LeftOf b) (ha : a <+: a') (hb : b <+: b') :
    a'.LeftOf b' := by
  -- what stands behind the step at which the ways part does not matter
  obtain ⟨r, rfl⟩ := ha
  obtain ⟨r', rfl⟩ := hb
  induction a generalizing b with
  | nil => cases h
  | cons i a ih =>
    cases b with
    | nil => cases h
    | cons j b =>
      rcases h with hlt | ⟨heq, hrest⟩
      · exact .inl hlt
      · exact .inr ⟨heq, ih hrest⟩

theorem LeftOf.asymm {a b : Address} (h : a.LeftOf b) : ¬ b.LeftOf a := by
  induction a generalizing b with
  | nil => cases h
  | cons i a ih =>
    cases b with
    | nil => cases h
    | cons j b =>
      rcases h with hlt | ⟨heq, hrest⟩
      · rintro (hgt | ⟨heq, -⟩)
        · omega
        · omega
      · rintro (hgt | ⟨-, hback⟩)
        · omega
        · exact ih hrest hback

theorem LeftOf.not_prefix {a b : Address} (h : a.LeftOf b) : ¬ a <+: b := by
  intro hpre
  have hself : b.LeftOf b := h.extend hpre List.prefix_rfl
  exact hself.asymm hself

theorem LeftOf.not_prefix_swap {a b : Address} (h : a.LeftOf b) : ¬ b <+: a := by
  intro hpre
  have hself : a.LeftOf a := h.extend List.prefix_rfl hpre
  exact hself.asymm hself

theorem leftOf_append_singleton (a : Address) {i j : Nat} (h : i < j) :
    Address.LeftOf (a ++ [i]) (a ++ [j]) := by
  induction a with
  | nil => exact .inl h
  | cons x a ih => exact .inr ⟨rfl, ih⟩

end Address

/-- A node at a place. -/
structure Occurrence (N : Type) where
  address : Address
  node : N

namespace Nodes

variable {N : Type} (k : Nodes N)

/-- The node to which an address leads. -/
def at? (n : N) : Address → Option N
  | [] => some n
  | i :: a => (k.children n)[i]?.bind fun c => at? c a

/-- Occurrences of nodes as nodes, each of them at one place only. -/
def occurrences : Nodes (Occurrence N) where
  tree o := k.tree o.node
  children o := (k.children o.node).mapIdx fun i c => ⟨o.address ++ [i], c⟩
  map_children o := by
    rw [← k.map_children, List.mapIdx_eq_zipIdx_map, List.map_map]
    conv_rhs => rw [← List.zipIdx_map_fst 0 (k.children o.node), List.map_map]
    rfl

variable {k}

theorem mem_children_occurrences {o c : Occurrence N} :
    c ∈ k.occurrences.children o ↔
      ∃ i, (k.children o.node)[i]? = some c.node ∧ c.address = o.address ++ [i] := by
  obtain ⟨a, n⟩ := c
  simp only [occurrences, List.mem_mapIdx, Occurrence.mk.injEq, List.getElem?_eq_some_iff]
  constructor
  · rintro ⟨i, hi, ha, hn⟩
    exact ⟨i, ⟨hi, hn⟩, ha.symm⟩
  · rintro ⟨i, ⟨hi, hn⟩, ha⟩
    exact ⟨i, hi, ha.symm, hn⟩

theorem pairwise_children_occurrences (o : Occurrence N) :
    (k.occurrences.children o).Pairwise fun c c' => c.address.LeftOf c'.address := by
  rw [List.pairwise_iff_getElem]
  intro i j hi hj hij
  simp only [occurrences, List.getElem_mapIdx]
  exact Address.leftOf_append_singleton o.address hij

theorem map_node_events_occurrences (o : Occurrence N) :
    (k.occurrences.events o).map (Event.map Occurrence.node) = k.events o.node := by
  have hchildren (o : Occurrence N) :
      k.children o.node = (k.occurrences.children o).map Occurrence.node := by
    apply List.ext_getElem?
    intro i
    simp [occurrences, Function.comp_def]
  rw [← events_map k.occurrences k Occurrence.node (fun _ => rfl) hchildren]

end Nodes

namespace Event

variable {N : Type}

def isLeaf : Event N → Bool
  | terminal _ => true
  | error _ => true
  | _ => false

def isExit : Event N → Bool
  | exit _ => true
  | _ => false

/-- Whether an event of this kind is fired for a node. Rules are entered and exited, leaves are
visited, and those of errors in a way of their own. -/
def Suits (t : Tree) : Event N → Prop
  | enter _ => t.isInternal = true
  | exit _ => t.isInternal = true
  | terminal _ => t.isInternal = false ∧ t.isError = false
  | error _ => t.isError = true

/-- The order of the events of one traversal. -/
inductive Before : Event (Occurrence N) → Event (Occurrence N) → Prop
  | left {e e' : Event (Occurrence N)} (h : e.node.address.LeftOf e'.node.address) : Before e e'
  | opened {o : Occurrence N} {e : Event (Occurrence N)} (h : o.address <+: e.node.address)
    (hne : o.address ≠ e.node.address) : Before (.enter o) e
  | closed {o : Occurrence N} {e : Event (Occurrence N)} (h : o.address <+: e.node.address)
    (hne : e.node.address ≠ o.address) : Before e (.exit o)
  | around (o : Occurrence N) : Before (.enter o) (.exit o)

/-- The events at an occurrence and below it are one block, from its enter to its exit. -/
def FormBlock (o : Occurrence N) (events : List (Event (Occurrence N))) : Prop :=
  ∃ before inside after, events = before ++ .enter o :: inside ++ .exit o :: after ∧
    (∀ e ∈ inside, o.address <+: e.node.address) ∧
    ∀ e ∈ before ++ after, ¬ o.address <+: e.node.address

theorem Before.irrefl (e : Event (Occurrence N)) : ¬ e.Before e := by
  intro h
  cases h with
  | left h => exact h.asymm h
  | opened h hne => exact hne rfl
  | closed h hne => exact hne rfl

/-- What comes between the enter and the exit of an occurrence is at its place or below. -/
theorem Before.prefix_between {o : Occurrence N} {e : Event (Occurrence N)}
    (hopen : (enter o).Before e) (hclose : e.Before (exit o)) :
    o.address <+: e.node.address := by
  cases hopen with
  | opened h hne => exact h
  | around => exact List.prefix_rfl
  | closed habove hne =>
    cases hclose with
    | left hleft => exact absurd habove hleft.not_prefix
    | closed h hne' => exact h
  | left hleft =>
    cases hclose with
    | left hback => exact absurd hback hleft.asymm
    | opened habove hne => exact absurd habove hleft.not_prefix_swap
    | closed h hne => exact h
    | around => exact List.prefix_rfl

theorem Before.not_prefix_of_enter {o : Occurrence N} {e : Event (Occurrence N)}
    (h : e.Before (enter o)) : ¬ o.address <+: e.node.address := by
  cases h with
  | left h => exact h.not_prefix_swap
  | opened h hne =>
    intro hback
    exact hne (h.eq_of_length_le hback.length_le)

theorem Before.not_prefix_of_exit {o : Occurrence N} {e : Event (Occurrence N)}
    (h : (exit o).Before e) : ¬ o.address <+: e.node.address := by
  cases h with
  | left h => exact h.not_prefix
  | closed h hne =>
    intro hback
    exact hne (hback.eq_of_length_le h.length_le)

end Event

namespace Nodes

variable {N : Type} {k : Nodes N}

theorem children_eq_nil {n : N} (h : (k.tree n).isInternal = false) : k.children n = [] := by
  have hmap := k.map_children n
  cases ht : k.tree n with
  | rule name cs start stop =>
    rw [ht] at h
    cases h
  | terminal symbol =>
    rw [ht] at hmap
    exact List.map_eq_nil_iff.mp hmap
  | error symbol =>
    rw [ht] at hmap
    exact List.map_eq_nil_iff.mp hmap

/-- The events of a tree are those of its root and those of the trees below the root's children. -/
theorem mem_events_iff {n : N} {e : Event N} :
    e ∈ k.events n ↔ e.node = n ∧ e.Suits (k.tree n) ∨ ∃ c ∈ k.children n, e ∈ k.events c := by
  cases ht : k.tree n with
  | rule name cs start stop =>
    have hl : (k.tree n).label = .rule name := by rw [ht]; rfl
    rw [events_rule hl, List.mem_append, List.mem_cons, List.mem_flatMap, List.mem_singleton]
    cases e <;> simp [Event.node, Event.Suits, Tree.isInternal, Tree.isError, or_comm]
  | terminal symbol =>
    have hl : (k.tree n).label = .terminal symbol := by rw [ht]; rfl
    rw [events_terminal hl, children_eq_nil (by rw [ht]; rfl), List.mem_singleton]
    cases e <;> simp [Event.node, Event.Suits, Tree.isInternal, Tree.isError]
  | error symbol =>
    have hl : (k.tree n).label = .error symbol := by rw [ht]; rfl
    rw [events_error hl, children_eq_nil (by rw [ht]; rfl), List.mem_singleton]
    cases e <;> simp [Event.node, Event.Suits, Tree.isInternal, Tree.isError]

theorem mem_events_occurrences_iff {o : Occurrence N} {e : Event (Occurrence N)} :
    e ∈ k.occurrences.events o ↔ ∃ a, e.node.address = o.address ++ a ∧
      k.at? o.node a = some e.node.node ∧ e.Suits (k.tree e.node.node) := by
  induction o using k.occurrences.induction with
  | step o ih =>
    rw [mem_events_iff]
    constructor
    · rintro (⟨rfl, hsuits⟩ | ⟨c, hc, he⟩)
      · exact ⟨[], by rw [List.append_nil], rfl, hsuits⟩
      · obtain ⟨i, hi, haddress⟩ := mem_children_occurrences.mp hc
        obtain ⟨a, ha, hat, hsuits⟩ := (ih c hc).mp he
        refine ⟨i :: a, ?_, ?_, hsuits⟩
        · rw [ha, haddress, List.append_assoc, List.singleton_append]
        · rw [at?, hi, Option.bind_some, hat]
    · rintro ⟨_ | ⟨i, a⟩, ha, hat, hsuits⟩
      · rw [List.append_nil] at ha
        rw [at?, Option.some_inj] at hat
        have ho : e.node = o := by
          obtain ⟨address, node⟩ := o
          exact congrArg₂ Occurrence.mk ha hat.symm
        subst ho
        exact .inl ⟨rfl, hsuits⟩
      · rw [at?, Option.bind_eq_some_iff] at hat
        obtain ⟨c, hc, hat⟩ := hat
        have hchild : ⟨o.address ++ [i], c⟩ ∈ k.occurrences.children o :=
          mem_children_occurrences.mpr ⟨i, hc, rfl⟩
        refine .inr ⟨_, hchild, (ih _ hchild).mpr ⟨a, ?_, hat, hsuits⟩⟩
        rw [ha, List.append_assoc, List.singleton_append]

theorem prefix_of_mem_events {o : Occurrence N} {e : Event (Occurrence N)}
    (h : e ∈ k.occurrences.events o) : o.address <+: e.node.address := by
  obtain ⟨a, ha, -⟩ := mem_events_occurrences_iff.mp h
  exact ⟨a, ha.symm⟩

theorem pairwise_before_events (o : Occurrence N) :
    (k.occurrences.events o).Pairwise Event.Before := by
  induction o using k.occurrences.induction with
  | step o ih =>
    cases hl : (k.occurrences.tree o).label with
    | terminal symbol =>
      rw [events_terminal hl]
      exact List.pairwise_singleton _ _
    | error symbol =>
      rw [events_error hl]
      exact List.pairwise_singleton _ _
    | rule name =>
      have hbelow : ∀ e ∈ (k.occurrences.children o).flatMap k.occurrences.events,
          o.address <+: e.node.address ∧ o.address ≠ e.node.address := by
        intro e he
        obtain ⟨c, hc, he⟩ := List.mem_flatMap.mp he
        obtain ⟨i, -, haddress⟩ := mem_children_occurrences.mp hc
        obtain ⟨a, ha⟩ := prefix_of_mem_events he
        rw [← ha, haddress, List.append_assoc]
        exact ⟨List.prefix_append _ _, fun h => by simp at h⟩
      -- events below different children part at these children
      have hinside :
          ((k.occurrences.children o).flatMap k.occurrences.events).Pairwise Event.Before := by
        rw [List.pairwise_flatMap]
        refine ⟨ih, (pairwise_children_occurrences o).imp ?_⟩
        intro c c' hleft e he e' he'
        exact .left (hleft.extend (prefix_of_mem_events he) (prefix_of_mem_events he'))
      rw [events_rule hl, List.cons_append, List.pairwise_cons, List.pairwise_append]
      refine ⟨?_, hinside, List.pairwise_singleton _ _, ?_⟩
      · intro e he
        rcases List.mem_append.mp he with he | he
        · exact .opened (hbelow e he).1 (hbelow e he).2
        · rw [List.mem_singleton.mp he]
          exact .around o
      · intro e he e' he'
        rw [List.mem_singleton.mp he']
        exact .closed (hbelow e he).1 (hbelow e he).2.symm

/-- The events are one traversal of the tree below a root: every occurrence has its events, each
of them once, and they come in the order of a walk that goes down from left to right. -/
structure Nested (k : Nodes N) (root : N) (events : List (Event (Occurrence N))) : Prop where
  nodup : events.Nodup
  mem_iff : ∀ e, e ∈ events ↔
    k.at? root e.node.address = some e.node.node ∧ e.Suits (k.tree e.node.node)
  block : ∀ o, k.at? root o.address = some o.node → (k.tree o.node).isInternal = true →
    Event.FormBlock o events
  preorder : ∀ o o', List.Sublist [.enter o, .enter o'] events → o.address.PreBefore o'.address
  postorder : ∀ o o', List.Sublist [.exit o, .exit o'] events → o.address.PostBefore o'.address
  leaves : ∀ e e', e.isLeaf = true → e'.isLeaf = true → List.Sublist [e, e'] events →
    e.node.address.LeftOf e'.node.address

theorem formBlock_of_pairwise {events : List (Event (Occurrence N))}
    (h : events.Pairwise Event.Before) {o : Occurrence N} (henter : .enter o ∈ events)
    (hexit : .exit o ∈ events) : Event.FormBlock o events := by
  obtain ⟨before, rest, rfl⟩ := List.append_of_mem henter
  obtain ⟨-, hrest, hbefore⟩ := List.pairwise_append.mp h
  have hbehind : .exit o ∈ rest := by
    rcases List.mem_append.mp hexit with he | he
    · -- an exit does not come before the enter of the same occurrence
      have hlate := (hbefore _ he _ List.mem_cons_self).not_prefix_of_enter
      exact absurd List.prefix_rfl hlate
    · rcases List.mem_cons.mp he with he | he
      · cases he
      · exact he
  obtain ⟨inside, after, rfl⟩ := List.append_of_mem hbehind
  obtain ⟨hopened, hrest⟩ := List.pairwise_cons.mp hrest
  obtain ⟨-, hafter, hinside⟩ := List.pairwise_append.mp hrest
  refine ⟨before, inside, after, by simp, ?_, ?_⟩
  · intro e he
    exact (hopened e (List.mem_append_left _ he)).prefix_between
      (hinside e he _ List.mem_cons_self)
  · intro e he
    rcases List.mem_append.mp he with he | he
    · exact (hbefore e he _ List.mem_cons_self).not_prefix_of_enter
    · exact ((List.pairwise_cons.mp hafter).1 e he).not_prefix_of_exit

theorem nested_events (root : N) : k.Nested root (k.occurrences.events ⟨[], root⟩) := by
  have hpairwise := pairwise_before_events (k := k) ⟨[], root⟩
  have hbefore {e e' : Event (Occurrence N)}
      (h : List.Sublist [e, e'] (k.occurrences.events ⟨[], root⟩)) : e.Before e' :=
    List.pairwise_iff_forall_sublist.mp hpairwise h
  have hmem (e : Event (Occurrence N)) : e ∈ k.occurrences.events ⟨[], root⟩ ↔
      k.at? root e.node.address = some e.node.node ∧ e.Suits (k.tree e.node.node) := by
    rw [mem_events_occurrences_iff]
    simp only [List.nil_append, exists_eq_left']
  constructor
  case nodup =>
    apply hpairwise.imp
    intro e e' h heq
    rw [heq] at h
    exact h.irrefl
  case mem_iff => exact hmem
  case block =>
    intro o hat hrule
    have henter := (hmem (.enter o)).mpr ⟨hat, hrule⟩
    have hexit := (hmem (.exit o)).mpr ⟨hat, hrule⟩
    exact formBlock_of_pairwise hpairwise henter hexit
  case preorder =>
    intro o o' h
    cases hbefore h with
    | left hleft => exact .inr hleft
    | opened h hne => exact .inl ⟨h, hne⟩
  case postorder =>
    intro o o' h
    cases hbefore h with
    | left hleft => exact .inr hleft
    | closed h hne => exact .inl ⟨h, hne⟩
  case leaves =>
    intro e e' hleaf hleaf' h
    cases hbefore h with
    | left hleft => exact hleft
    | opened => cases hleaf
    | closed => cases hleaf'
    | around => cases hleaf

end Nodes

/-- Every strategy records a part of one traversal, by either engine: the full walk all of it, the
walk without leaves what is left without the visits of leaves, and the walk of exits the exits. -/
theorem Walk.records_nested {N : Type} (k : Nodes N) (root : N) :
    ∃ events, k.Nested root events ∧ ∀ recursive,
      k.Records ⟨.full, recursive⟩ root (events.map (Event.map Occurrence.node)) ∧
      k.Records ⟨.enterExitOnly, recursive⟩ root
        ((events.map (Event.map Occurrence.node)).filter fun e => !e.isLeaf) ∧
      k.Records ⟨.exitOnly, recursive⟩ root
        ((events.map (Event.map Occurrence.node)).filter Event.isExit) := by
  have hrules : (Mode.enterExitOnly.keeps : Event N → Bool) = fun e => !e.isLeaf := by
    funext e
    cases e <;> rfl
  have hexits : (Mode.exitOnly.keeps : Event N → Bool) = Event.isExit := by
    funext e
    cases e <;> rfl
  refine ⟨k.occurrences.events ⟨[], root⟩, Nodes.nested_events root, fun recursive => ?_⟩
  rw [Nodes.map_node_events_occurrences, ← hrules, ← hexits]
  exact ⟨k.records_full recursive root, k.records_eventsIn ⟨.enterExitOnly, recursive⟩ root,
    k.records_eventsIn ⟨.exitOnly, recursive⟩ root⟩

end SyntaxReport
