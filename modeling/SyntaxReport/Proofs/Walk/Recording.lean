import SyntaxReport.Proofs.Walk.Equivalence

/-! What a walk records. By either engine a strategy hands the events of its mode to the listener,
so a recorder ends with these events in order. Which events they are depends on the trees below the
nodes alone: other nodes for the same trees have the same events. -/
namespace SyntaxReport

namespace Event

variable {N N' N'' : Type}

/-- The node that an event is about. -/
def node : Event N → N
  | enter n => n
  | exit n => n
  | terminal n => n
  | error n => n

/-- The same event about another node. -/
def map (f : N → N') : Event N → Event N'
  | enter n => enter (f n)
  | exit n => exit (f n)
  | terminal n => terminal (f n)
  | error n => error (f n)

theorem map_map (g : N' → N'') (f : N → N') (e : Event N) : (e.map f).map g = e.map (g ∘ f) := by
  cases e <;> rfl

end Event

namespace Nodes

variable {N N' : Type}

/-- What holds of every node of whose children it holds, holds of every node. -/
theorem induction (k : Nodes N) {P : N → Prop} (step : ∀ n, (∀ c ∈ k.children n, P c) → P n)
    (n : N) : P n :=
  step n fun c _ => induction k step c
termination_by (k.tree n).size
decreasing_by exact k.size_lt_of_mem ‹_›

variable {k : Nodes N}

theorem events_terminal {n : N} {symbol : Option Token}
    (h : (k.tree n).label = .terminal symbol) : k.events n = [.terminal n] := by
  rw [events, h]

theorem events_error {n : N} {symbol : Option Token} (h : (k.tree n).label = .error symbol) :
    k.events n = [.error n] := by
  rw [events, h]

/-- Nodes may be exchanged for others that stand for the same trees. -/
theorem events_map (k : Nodes N) (k' : Nodes N') (f : N → N')
    (htree : ∀ n, k'.tree (f n) = k.tree n)
    (hchildren : ∀ n, k'.children (f n) = (k.children n).map f) (n : N) :
    k'.events (f n) = (k.events n).map (Event.map f) := by
  induction n using k.induction with
  | step n ih =>
    cases hl : (k.tree n).label with
    | terminal symbol =>
      rw [events_terminal hl, events_terminal (by rw [htree, hl])]
      rfl
    | error symbol =>
      rw [events_error hl, events_error (by rw [htree, hl])]
      rfl
    | rule name =>
      have hbelow : (k'.children (f n)).flatMap k'.events =
          ((k.children n).flatMap k.events).map (Event.map f) := by
        rw [hchildren, List.flatMap_map, List.map_flatMap]
        exact List.flatMap_congr ih
      rw [events_rule hl, events_rule (by rw [htree, hl]), hbelow, List.map_append, List.map_cons]
      rfl

/-- The events of a tree do not depend on what its nodes are. -/
theorem map_tree_events (k : Nodes N) (n : N) :
    (k.events n).map (Event.map k.tree) = (k.tree n).events := by
  have hchildren (n : N) : Tree.nodes.children (k.tree n) = (k.children n).map k.tree :=
    (k.map_children n).symm
  rw [← events_map k Tree.nodes k.tree (fun _ => rfl) hchildren, Tree.events_nodes]

end Nodes

namespace Walk

variable {N σ ε : Type}

theorem fireAll_recorder (es log : List (Event N)) :
    fireAll (Listener.recorder : Listener N (List (Event N)) ε) es log = .ok () (log ++ es) := by
  induction es generalizing log with
  | nil =>
    rw [List.append_nil]
    rfl
  | cons e es ih =>
    have hfire : (Listener.recorder : Listener N (List (Event N)) ε).fire e log =
        .ok () (log ++ [e]) := by
      cases e <;> rfl
    rw [fireAll_cons_apply, hfire]
    dsimp only
    rw [ih, List.append_assoc, List.singleton_append]

theorem walk_eq_fireAll (k : Nodes N) (s : Strategy) (l : Listener N σ ε) (root : N)
    (spare : Nat) :
    s.walk k.view l ((k.tree root).fuel + spare) root = fireAll l (k.eventsIn s.mode root) := by
  have hfuel : 2 * (k.tree root).size ≤ (k.tree root).fuel + spare := by
    unfold Tree.fuel
    omega
  unfold Strategy.walk
  cases s.recursive with
  | true => exact (descend_and_descendFrom k s.mode l _).1 root hfuel
  | false => exact iterate_eq_fireAll k s.mode l _ root hfuel

end Walk

/-- The walk of a strategy below a root ends, and the events are what it has recorded then. -/
def Nodes.Records {N : Type} (k : Nodes N) (s : Strategy) (root : N) (events : List (Event N)) :
    Prop :=
  ∀ (ε : Type) (spare : Nat),
    s.walk k.view (Listener.recorder : Listener N (List (Event N)) ε)
      ((k.tree root).fuel + spare) root [] = .ok () events

theorem Nodes.records_eventsIn {N : Type} (k : Nodes N) (s : Strategy) (root : N) :
    k.Records s root (k.eventsIn s.mode root) := by
  intro ε spare
  rw [Walk.walk_eq_fireAll, Walk.fireAll_recorder, List.nil_append]

theorem Nodes.records_full {N : Type} (k : Nodes N) (recursive : Bool) (root : N) :
    k.Records ⟨.full, recursive⟩ root (k.events root) := by
  have hfull : (Mode.full.keeps : Event N → Bool) = fun _ => true := funext Mode.keeps_full
  have hrecords := k.records_eventsIn ⟨.full, recursive⟩ root
  rwa [eventsIn, hfull, List.filter_true] at hrecords

end SyntaxReport
