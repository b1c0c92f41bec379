import SyntaxReport.Proofs.Walk.Recording

/-! Handlers of single rules. A listener that forwards enters and exits finds the handler of a rule
among its own methods, by a name made of the side and the rule; the callbacks that forward are
methods too. The handlers that a walk calls are those of the events of its strategy that have one,
in order, up to the first that raises, and none of them is a callback that forwards. -/
namespace SyntaxReport

namespace Listener

/-- The name of the method that handles one side of a rule. -/
def Side.methodName (side : Side) (rule : Text) : Text :=
  side.word ++ ['_'] ++ rule

/-- The methods of a listener by their names, among them `enter_rule` and `exit_rule` themselves. -/
structure Methods (N σ ε : Type) where
  find? : Text → Option (N → EStateM ε σ Unit)

namespace Methods

variable {N σ ε : Type}

def handler (m : Methods N σ ε) (side : Side) (rule : Text) : Option (N → EStateM ε σ Unit) :=
  m.find? (side.methodName rule)

/-- A method that also notes its name and its node when it is called, even if it raises. -/
def note (name : Text) (method : N → EStateM ε σ Unit) (n : N) :
    EStateM ε (σ × List (Text × N)) Unit := fun (s, log) =>
  match method n s with
  | .ok _ s' => .ok () (s', log ++ [(name, n)])
  | .error x s' => .error x (s', log ++ [(name, n)])

def logged (m : Methods N σ ε) : Methods N (σ × List (Text × N)) ε where
  find? name := (m.find? name).map (note name)

theorem find?_logged (m : Methods N σ ε) (name : Text) :
    m.logged.find? name = (m.find? name).map (note name) := rfl

/-- A run of calls from a state. Each call starts where the one before it ended, and there is none
after one that raises. -/
inductive Calls (m : Methods N σ ε) :
    σ → List (Text × N) → EStateM.Result (WalkError ε) σ Unit → Prop where
  | done (s : σ) : Calls m s [] (.ok () s)
  | next {s s' : σ} {name : Text} {n : N} {method : N → EStateM ε σ Unit} {cs : List (Text × N)}
      {r : EStateM.Result (WalkError ε) σ Unit} (found : m.find? name = some method)
      (called : method n s = .ok () s') (rest : Calls m s' cs r) : Calls m s ((name, n) :: cs) r
  | raised {s s' : σ} {name : Text} {n : N} {method : N → EStateM ε σ Unit} {x : ε}
      (found : m.find? name = some method) (called : method n s = .error x s') :
      Calls m s [(name, n)] (.error (.raised x) s')

end Methods

/-- Only a rule named `rule` would lead to a callback that forwards. -/
theorem Side.methodName_ne {side : Side} {rule : Text} (h : rule ≠ "rule".toList) :
    side.methodName rule ≠ "enter_rule".toList ∧ side.methodName rule ≠ "exit_rule".toList := by
  unfold methodName
  cases side with
  | enter =>
    refine ⟨fun he => ?_, fun he => ?_⟩
    · apply h
      have hsplit : "enter_rule".toList = "enter".toList ++ ['_'] ++ "rule".toList := by decide
      rw [hsplit] at he
      exact List.append_cancel_left he
    · -- the words differ in their second letter
      have hsecond : some 'n' = some 'x' := congrArg (fun t : Text => t[1]?) he
      exact absurd hsecond (by decide)
  | exit =>
    refine ⟨fun he => ?_, fun he => ?_⟩
    · have hsecond : some 'x' = some 'n' := congrArg (fun t : Text => t[1]?) he
      exact absurd hsecond (by decide)
    · apply h
      have hsplit : "exit_rule".toList = "exit".toList ++ ['_'] ++ "rule".toList := by decide
      rw [hsplit] at he
      exact List.append_cancel_left he

end Listener

open Listener (Side Methods)

/-- The side of a rule that an event is about; leaves have none. -/
def Event.side? {N : Type} : Event N → Option Side
  | enter _ => some .enter
  | exit _ => some .exit
  | terminal _ => none
  | error _ => none

namespace Nodes

variable {N σ ε : Type} (k : Nodes N)

/-- The name of a node's rule. -/
def ruleName (n : N) : Text :=
  match (k.tree n).label with
  | .rule name => name
  | _ => []

/-- The listener that forwards enters and exits to its methods. -/
def dispatcher (m : Methods N σ ε) : Listener N σ ε :=
  .dispatcher (fun _ n => k.ruleName n) m.handler

/-- The call that an event leads to, which is that of the method for its side and its rule, if there
is one. Rules without a name and rules named `rule` lead to none. -/
def call? (m : Methods N σ ε) (e : Event N) : Option (Text × N) :=
  e.side?.bind fun side =>
    if k.ruleName e.node = [] ∨ k.ruleName e.node = "rule".toList then none
    else (m.handler side (k.ruleName e.node)).map fun _ =>
      (side.methodName (k.ruleName e.node), e.node)

variable {k} {m : Methods N σ ε} {e : Event N}

theorem call?_logged (e : Event N) : k.call? m.logged e = k.call? m e := by
  unfold call?
  congr 1
  funext side
  rw [Methods.handler, Methods.find?_logged, Option.map_map]
  rfl

/-- What an event does: the handler of its side and its rule is called, where they have one. -/
theorem fire_dispatcher_of_side? {side : Side} (h : e.side? = some side) (s : σ) :
    (k.dispatcher m).fire e s =
      Listener.dispatchRule m.handler side (k.ruleName e.node) e.node s := by
  cases e with
  | enter n => cases h; rfl
  | exit n => cases h; rfl
  | terminal n => cases h
  | error n => cases h

theorem fire_of_call?_eq_none (h : k.call? m e = none) (s : σ) :
    (k.dispatcher m).fire e s = .ok () s := by
  cases hside : e.side? with
  | none =>
    -- leaves are ignored
    cases e with
    | enter n => cases hside
    | exit n => cases hside
    | terminal n => rfl
    | error n => rfl
  | some side =>
    rw [fire_dispatcher_of_side? hside, Listener.dispatchRule]
    rw [call?, hside, Option.bind_some] at h
    split_ifs at h ⊢ with hrule
    · rfl
    · rw [Option.map_eq_none_iff.mp h]
      rfl

theorem of_call?_eq_some {c : Text × N} (h : k.call? m e = some c) :
    ∃ (side : Side) (method : N → EStateM ε σ Unit),
      c = (side.methodName (k.ruleName e.node), e.node) ∧
      k.ruleName e.node ≠ [] ∧ k.ruleName e.node ≠ "rule".toList ∧
      m.find? c.1 = some method ∧ ∀ s, (k.dispatcher m).fire e s = method c.2 s := by
  obtain ⟨side, hside, h⟩ := Option.bind_eq_some_iff.mp h
  split_ifs at h with hrule
  obtain ⟨method, hmethod, rfl⟩ := Option.map_eq_some_iff.mp h
  obtain ⟨hempty, hnamed⟩ := not_or.mp hrule
  refine ⟨side, method, rfl, hempty, hnamed, hmethod, ?_⟩
  intro s
  rw [fire_dispatcher_of_side? hside, Listener.dispatchRule, if_neg hrule, hmethod]

end Nodes

namespace Walk

variable {N σ ε : Type}

/-- Firing events is a run of the calls that they lead to, up to the first that raises. -/
theorem exists_calls (k : Nodes N) (m : Methods N σ ε) (es : List (Event N)) (s : σ) :
    ∃ called, m.Calls s called (fireAll (k.dispatcher m) es s) ∧
      called <+: es.filterMap (k.call? m) ∧
      (∀ s', fireAll (k.dispatcher m) es s = .ok () s' → called = es.filterMap (k.call? m)) ∧
      ∀ log, finalState (fireAll (k.dispatcher m.logged) es (s, log)) =
        (finalState (fireAll (k.dispatcher m) es s), log ++ called) := by
  -- along the events, from whatever state the calls before have left
  induction es generalizing s with
  | nil =>
    refine ⟨[], .done s, List.prefix_rfl, fun _ _ => rfl, fun log => ?_⟩
    rw [List.append_nil]
    rfl
  | cons e es ih =>
    cases hcall : k.call? m e with
    | none =>
      -- nothing happens, with or without the log
      have hfire := Nodes.fire_of_call?_eq_none hcall
      have hlogged := Nodes.fire_of_call?_eq_none ((Nodes.call?_logged e).trans hcall)
      rw [List.filterMap_cons_none hcall, fireAll_cons_apply, hfire]
      obtain ⟨called, hcalls, hpre, hok, hlog⟩ := ih s
      refine ⟨called, hcalls, hpre, hok, fun log => ?_⟩
      rw [fireAll_cons_apply, hlogged]
      exact hlog log
    | some c =>
      obtain ⟨-, method, -, -, -, hfind, hfire⟩ := Nodes.of_call?_eq_some hcall
      -- the same method is found, and is called with a note
      have hlogged (log : List (Text × N)) :
          (k.dispatcher m.logged).fire e (s, log) = Methods.note c.1 method c.2 (s, log) := by
        obtain ⟨-, noted, -, -, -, hnoted, hfire'⟩ :=
          Nodes.of_call?_eq_some ((Nodes.call?_logged e).trans hcall)
        have hsame : m.logged.find? c.1 = some (Methods.note c.1 method) := by
          rw [Methods.find?_logged, hfind, Option.map_some]
        rw [hfire', Option.some.inj (hnoted.symm.trans hsame)]
      rw [List.filterMap_cons_some hcall, fireAll_cons_apply, hfire]
      cases hmethod : method c.2 s with
      | ok _ s' =>
        obtain ⟨called, hcalls, hpre, hok, hlog⟩ := ih s'
        refine ⟨c :: called, .next hfind hmethod hcalls, ?_, ?_, ?_⟩
        · exact List.cons_prefix_cons.mpr ⟨rfl, hpre⟩
        · intro t ht
          rw [hok t ht]
        · intro log
          rw [fireAll_cons_apply, hlogged, Methods.note]
          simp only [hmethod]
          rw [hlog, List.append_assoc]
          rfl
      | error x s' =>
        -- the events behind `e` lead to no calls any more
        refine ⟨[c], .raised hfind hmethod, ?_, ?_, ?_⟩
        · exact List.cons_prefix_cons.mpr ⟨rfl, List.nil_prefix⟩
        · intro t ht
          cases ht
        · intro log
          rw [fireAll_cons_apply, hlogged, Methods.note]
          simp only [hmethod]
          rfl

/-- The handlers that a walk calls are those of the events that its strategy fires, in the same
order and on the same nodes, and the first that raises ends the walk with what it raised. Rules
without a name and rules named `rule` have none, and no forwarding callback is called again. -/
theorem walk_calls_handlers (k : Nodes N) (strategy : Strategy) (m : Methods N σ ε) (root : N)
    (spare : Nat) (s : σ) :
    ∃ events called result, k.Records strategy root events ∧ m.Calls s called result ∧
      called <+: events.filterMap (k.call? m) ∧
      (∀ s', result = .ok () s' → called = events.filterMap (k.call? m)) ∧
      strategy.walk k.view (k.dispatcher m) ((k.tree root).fuel + spare) root s = result ∧
      finalState (strategy.walk k.view (k.dispatcher m.logged) ((k.tree root).fuel + spare) root
        (s, [])) = (finalState result, called) ∧
      ∀ c ∈ called, k.ruleName c.2 ≠ [] ∧ k.ruleName c.2 ≠ "rule".toList ∧
        c.1 ≠ "enter_rule".toList ∧ c.1 ≠ "exit_rule".toList := by
  have hwalk {σ' : Type} (l : Listener N σ' ε) := walk_eq_fireAll k strategy l root spare
  obtain ⟨called, hcalls, hpre, hok, hlog⟩ :=
    exists_calls k m (k.eventsIn strategy.mode root) s
  refine ⟨k.eventsIn strategy.mode root, called, _, k.records_eventsIn strategy root, hcalls, hpre,
    hok, ?_, ?_, ?_⟩
  · rw [hwalk]
  · rw [hwalk, hlog, List.nil_append]
  · intro c hc
    obtain ⟨e, -, hcall⟩ := List.mem_filterMap.mp (hpre.subset hc)
    obtain ⟨side, method, rfl, hempty, hnamed, -⟩ := Nodes.of_call?_eq_some hcall
    exact ⟨hempty, hnamed, Side.methodName_ne hnamed⟩

end Walk

end SyntaxReport
