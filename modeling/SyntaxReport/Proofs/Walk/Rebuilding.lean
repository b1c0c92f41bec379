import SyntaxReport.Proofs.Walk.Recording

/-! A full walk tells everything about a tree but the tokens at the ends of its rules. A machine
with a stack of the rules that are open reads the labels of the events and builds the tree again,
so two trees whose walks show the same labels are the same tree up to these tokens. -/
namespace SyntaxReport

namespace Tree

mutual

/-- The tree without the tokens at the ends of its rules. -/
def bare : Tree → Tree
  | rule name cs _ _ => rule name (bareAll cs) none none
  | terminal symbol => terminal symbol
  | error symbol => error symbol

def bareAll : List Tree → List Tree
  | [] => []
  | t :: rest => t.bare :: bareAll rest

end

/-- The labels that the events of a tree show. -/
def labels (t : Tree) : List (Event Label) :=
  t.events.map (Event.map label)

def labelsAll (ts : List Tree) : List (Event Label) :=
  (eventsList ts).map (Event.map label)

theorem labels_rule (name : Text) (cs : List Tree) (start stop : Option Token) :
    (rule name cs start stop).labels =
      .enter (.rule name) :: labelsAll cs ++ [.exit (.rule name)] := by
  rw [labels, events, List.map_append, List.map_append]
  rfl

theorem labelsAll_cons (t : Tree) (rest : List Tree) :
    labelsAll (t :: rest) = t.labels ++ labelsAll rest := by
  rw [labelsAll, eventsList, List.map_append]
  rfl

end Tree

/-- A rule that has been entered and not exited, with the trees that are complete below it. -/
structure OpenRule where
  name : Text
  children : List Tree

/-- What the machine has read: a part of a tree with the rules that are open, innermost first, or
all of it. -/
inductive Rebuilt where
  | part (stack : List OpenRule)
  | whole (t : Tree)

namespace Rebuilt

/-- A complete tree goes below the innermost open rule, and is the whole if none is open. -/
def complete (t : Tree) : List OpenRule → Rebuilt
  | [] => .whole t
  | r :: rest => .part ({ r with children := r.children ++ [t] } :: rest)

/-- One step of the machine. A tree that is complete takes no more events, an exit has to have the
name of the rule that it closes, and an event has to fit the label. -/
def read : Rebuilt → Event Tree.Label → Option Rebuilt
  | .part stack, .enter (.rule name) => some (.part (⟨name, []⟩ :: stack))
  | .part (r :: rest), .exit (.rule name) =>
    if r.name = name then some (complete (.rule name r.children none none) rest) else none
  | .part stack, .terminal (.terminal symbol) => some (complete (.terminal symbol) stack)
  | .part stack, .error (.error symbol) => some (complete (.error symbol) stack)
  | _, _ => none

end Rebuilt

/-- The tree that events with labels tell of, if they tell of exactly one. -/
def Tree.ofLabels? (events : List (Event Tree.Label)) : Option Tree :=
  match events.foldlM Rebuilt.read (.part []) with
  | some (.whole t) => some t
  | _ => none

namespace Tree

mutual

theorem labels_bare : (t : Tree) → t.bare.labels = t.labels
  | .rule name cs start stop => by
    rw [bare, labels_rule, labels_rule, labelsAll_bareAll cs]
  | .terminal symbol => rfl
  | .error symbol => rfl

theorem labelsAll_bareAll : (ts : List Tree) → labelsAll (bareAll ts) = labelsAll ts
  | [] => rfl
  | t :: rest => by
    rw [bareAll, labelsAll_cons, labelsAll_cons, labels_bare t, labelsAll_bareAll rest]

end

mutual

/-- From any stack, the labels of a tree make the machine complete that tree. -/
theorem foldlM_read_labels : (t : Tree) → (stack : List OpenRule) →
    t.labels.foldlM Rebuilt.read (.part stack) = some (Rebuilt.complete t.bare stack)
  | .rule name cs start stop, stack => by
    have hinside := foldlM_read_labelsAll cs ⟨name, []⟩ stack
    rw [labels_rule, List.cons_append, List.foldlM_cons, Rebuilt.read, Option.bind_eq_bind,
      Option.bind_some, List.foldlM_append, hinside, Option.bind_eq_bind, Option.bind_some,
      List.nil_append, List.foldlM_cons, Rebuilt.read, if_pos rfl, bare]
    rfl
  | .terminal symbol, stack => rfl
  | .error symbol, stack => rfl

/-- The labels of several trees put these trees below the innermost open rule. -/
theorem foldlM_read_labelsAll : (ts : List Tree) → (r : OpenRule) → (stack : List OpenRule) →
    (labelsAll ts).foldlM Rebuilt.read (.part (r :: stack)) =
      some (.part ({ r with children := r.children ++ bareAll ts } :: stack))
  | [], r, stack => by
    rw [bareAll, List.append_nil]
    rfl
  | t :: rest, r, stack => by
    have hrest := foldlM_read_labelsAll rest { r with children := r.children ++ [t.bare] } stack
    rw [labelsAll_cons, List.foldlM_append, foldlM_read_labels t, Option.bind_eq_bind,
      Option.bind_some, Rebuilt.complete, hrest, bareAll, List.append_assoc,
      List.singleton_append]

end

theorem ofLabels?_labels (t : Tree) : ofLabels? t.labels = some t.bare := by
  rw [ofLabels?, foldlM_read_labels]
  rfl

theorem labels_eq_labels_iff (t t' : Tree) : t.labels = t'.labels ↔ t.bare = t'.bare := by
  constructor
  · intro h
    have hbare := ofLabels?_labels t
    rw [h, ofLabels?_labels, Option.some_inj] at hbare
    exact hbare.symm
  · intro h
    rw [← labels_bare t, h, labels_bare]

end Tree

/-- A full walk shows the labels of a tree, from which the machine builds the tree again, and two
trees show the same labels exactly if they are the same up to the tokens at the ends of rules. -/
theorem Walk.labels_determine_tree {N N' : Type} (k : Nodes N) (k' : Nodes N') (root : N)
    (root' : N') :
    ∃ events events', k.Records .standard root events ∧ k'.Records .standard root' events' ∧
      (events.map (Event.map fun n => (k.tree n).label) =
          events'.map (Event.map fun n => (k'.tree n).label) ↔
        (k.tree root).bare = (k'.tree root').bare) ∧
      Tree.ofLabels? (events.map (Event.map fun n => (k.tree n).label)) =
        some (k.tree root).bare := by
  have hlabels {M : Type} (m : Nodes M) (n : M) :
      (m.events n).map (Event.map fun n => (m.tree n).label) = (m.tree n).labels := by
    rw [Tree.labels, ← m.map_tree_events, List.map_map]
    apply List.map_congr_left
    intro e _
    exact (Event.map_map Tree.label m.tree e).symm
  refine ⟨k.events root, k'.events root', k.records_full false root, k'.records_full false root',
    ?_, ?_⟩
  · rw [hlabels, hlabels]
    exact Tree.labels_eq_labels_iff _ _
  · rw [hlabels]
    exact Tree.ofLabels?_labels _

end SyntaxReport
