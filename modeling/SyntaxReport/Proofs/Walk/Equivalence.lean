import SyntaxReport.Proofs.Walk.Nodes

/-! The recursive walk and the walk with a stack of frames are the same walk. Both fire the events
of the tree in order until a callback raises: the recursion by its own shape, the stack because the
events that its frames still owe are the events of the whole tree, less those that have been fired.
-/
namespace SyntaxReport

namespace Listener

variable {N σ ε : Type}

/-- A run of callbacks from a state. Each callback starts where the one before it ended, and none is
called after one that raises; the list holds the events whose callbacks are called. -/
inductive Fires (l : Listener N σ ε) :
    σ → List (Event N) → EStateM.Result (WalkError ε) σ Unit → Prop where
  | done (s : σ) : Fires l s [] (.ok () s)
  | next {s s' : σ} {e : Event N} {es : List (Event N)} {r : EStateM.Result (WalkError ε) σ Unit}
      (called : l.fire e s = .ok () s') (rest : Fires l s' es r) : Fires l s (e :: es) r
  | raised {s s' : σ} {e : Event N} {x : ε} (called : l.fire e s = .error x s') :
      Fires l s [e] (.error (.raised x) s')

/-- The listener that also notes every event whose callback is called, even if it raises. -/
def logged (l : Listener N σ ε) : Listener N (σ × List (Event N)) ε :=
  ofEvents fun e => fun (s, log) =>
    match l.fire e s with
    | .ok _ s' => .ok () (s', log ++ [e])
    | .error x s' => .error x (s', log ++ [e])

theorem fire_logged (l : Listener N σ ε) (e : Event N) (s : σ) (log : List (Event N)) :
    l.logged.fire e (s, log) = match l.fire e s with
      | .ok _ s' => .ok () (s', log ++ [e])
      | .error x s' => .error x (s', log ++ [e]) := by
  cases e <;> rfl

end Listener

/-- The state in which a walk ends, whatever its outcome. -/
def Walk.finalState {ε σ α : Type} : EStateM.Result ε σ α → σ
  | .ok _ s => s
  | .error _ s => s

namespace Walk

variable {N σ ε : Type}

/-- The callbacks of some events, one after the other. -/
def fireAll (l : Listener N σ ε) (es : List (Event N)) : EStateM (WalkError ε) σ Unit :=
  es.forM fun e => call (l.fire e)

theorem fireAll_nil (l : Listener N σ ε) : fireAll l [] = pure () := rfl

theorem fireAll_singleton (l : Listener N σ ε) (e : Event N) :
    fireAll l [e] = call (l.fire e) := by
  simp [fireAll]

theorem fireAll_append (l : Listener N σ ε) (es es' : List (Event N)) :
    fireAll l (es ++ es') = (do fireAll l es; fireAll l es') := by
  simp [fireAll]

theorem fireAll_cons_apply (l : Listener N σ ε) (e : Event N) (es : List (Event N)) (s : σ) :
    fireAll l (e :: es) s = match l.fire e s with
      | .ok _ s' => fireAll l es s'
      | .error x s' => .error (.raised x) s' := by
  simp only [fireAll, List.forM_eq_forM, List.forM_cons, call, EStateM.adaptExcept, bind,
    EStateM.bind]
  cases l.fire e s <;> rfl

/-- Firing a list of events is a run of callbacks for its events up to the first that raises. -/
theorem exists_fires (l : Listener N σ ε) (es : List (Event N)) (s : σ) :
    ∃ fired, l.Fires s fired (fireAll l es s) ∧ fired <+: es ∧
      (∀ s', fireAll l es s = .ok () s' → fired = es) ∧
      ∀ log, finalState (fireAll l.logged es (s, log)) =
        (finalState (fireAll l es s), log ++ fired) := by
  -- along the list, from whatever state the callbacks before it have left
  induction es generalizing s with
  | nil =>
    refine ⟨[], .done s, List.prefix_rfl, fun _ _ => rfl, fun log => ?_⟩
    rw [List.append_nil]
    rfl
  | cons e es ih =>
    have hl (log : List (Event N)) := fireAll_cons_apply l.logged e es (s, log)
    simp only [Listener.fire_logged] at hl
    rw [fireAll_cons_apply]
    cases hf : l.fire e s with
    | ok _ s' =>
      obtain ⟨fired, hfires, hpre, hok, hlog⟩ := ih s'
      refine ⟨e :: fired, .next hf hfires, by simpa using hpre, ?_, ?_⟩
      · intro t ht
        rw [hok t ht]
      · intro log
        simp only [hl, hf]
        rw [hlog, List.append_assoc]
        rfl
    | error x s' =>
      -- the events behind `e` are not fired, and `e` itself is
      refine ⟨[e], .raised hf, by simp, ?_, ?_⟩
      · intro t ht
        cases ht
      · intro log
        simp only [hl, hf]
        rfl

theorem enter_eq_fireAll (mode : Mode) (l : Listener N σ ε) (n : N) :
    enter mode l n = fireAll l (if mode.enters then [.enter n] else []) := by
  cases h : mode.enters <;> simp [enter, h, fireAll_nil, fireAll_singleton, Listener.fire]

theorem terminal_eq_fireAll (mode : Mode) (l : Listener N σ ε) (n : N) :
    terminal mode l n = fireAll l (if mode.visitsLeaves then [.terminal n] else []) := by
  cases h : mode.visitsLeaves <;> simp [terminal, h, fireAll_nil, fireAll_singleton, Listener.fire]

theorem error_eq_fireAll (mode : Mode) (l : Listener N σ ε) (n : N) :
    error mode l n = fireAll l (if mode.visitsLeaves then [.error n] else []) := by
  cases h : mode.visitsLeaves <;> simp [error, h, fireAll_nil, fireAll_singleton, Listener.fire]

theorem call_exit_eq_fireAll (l : Listener N σ ε) (n : N) :
    call (l.exit n) = fireAll l [.exit n] := by
  rw [fireAll_singleton]
  rfl

theorem descend_succ (k : Nodes N) (mode : Mode) (l : Listener N σ ε) (fuel : Nat) (n : N) :
    descend k.view mode l (fuel + 1) n =
      (match (k.tree n).label with
      | .terminal _ => terminal mode l n
      | .error _ => error mode l n
      | .rule _ => do
        enter mode l n
        descendFrom k.view mode l fuel n 0
        call (l.exit n)) := by
  rw [descend]
  rfl

theorem descendFrom_succ (k : Nodes N) (mode : Mode) (l : Listener N σ ε) (fuel : Nat) (n : N)
    (i : Nat) :
    descendFrom k.view mode l (fuel + 1) n i =
      (match (k.children n)[i]? with
      | none => pure ()
      | some c => do
        descend k.view mode l fuel c
        descendFrom k.view mode l fuel n (i + 1)) := by
  rw [descendFrom]
  rfl

/-- The recursive walk fires the events below a node. Below the children from an index on it needs
two steps for each node and one to see their end. -/
theorem descend_and_descendFrom (k : Nodes N) (mode : Mode) (l : Listener N σ ε) (fuel : Nat) :
    (∀ n, 2 * (k.tree n).size ≤ fuel →
      descend k.view mode l fuel n = fireAll l (k.eventsIn mode n)) ∧
    (∀ n i, 2 * k.weight ((k.children n).drop i) + 1 ≤ fuel →
      descendFrom k.view mode l fuel n i =
        fireAll l (((k.children n).drop i).flatMap (k.eventsIn mode))) := by
  -- both at once, since each of the two functions calls the other with one step less
  induction fuel with
  | zero =>
    refine ⟨fun n h => ?_, fun n i h => ?_⟩
    · have hpos := (k.tree n).size_pos
      omega
    · omega
  | succ fuel ih =>
    obtain ⟨ihd, ihf⟩ := ih
    refine ⟨fun n h => ?_, fun n i h => ?_⟩
    · rw [descend_succ]
      cases hl : (k.tree n).label with
      | terminal => rw [Nodes.eventsIn_terminal mode hl, terminal_eq_fireAll]
      | error => rw [Nodes.eventsIn_error mode hl, error_eq_fireAll]
      | rule =>
        have hs := k.size_eq n
        have hc := ihf n 0 (by rw [List.drop_zero]; omega)
        rw [List.drop_zero] at hc
        simp only [hc, enter_eq_fireAll, call_exit_eq_fireAll, Nodes.eventsIn_rule mode hl,
          fireAll_append, bind_assoc]
    · rw [descendFrom_succ]
      cases hc : (k.children n)[i]? with
      | none =>
        have hlen := List.getElem?_eq_none_iff.mp hc
        rw [List.drop_eq_nil_of_le hlen]
        rfl
      | some c =>
        obtain ⟨hi, rfl⟩ := List.getElem?_eq_some_iff.mp hc
        rw [List.drop_eq_getElem_cons hi] at h ⊢
        rw [k.weight_cons] at h
        have hpos := (k.tree ((k.children n)[i])).size_pos
        simp only [ihd _ (show 2 * (k.tree ((k.children n)[i])).size ≤ fuel by omega),
          ihf n (i + 1) (by omega), List.flatMap_cons, fireAll_append]

end Walk

namespace Nodes

variable {N : Type} (k : Nodes N)

/-- The frame of a node from whose children the first ones have been taken. -/
def frameAt (c : N × Nat) : Frame N :=
  { node := c.1, childCount := (k.children c.1).length, childIndex := c.2 }

/-- The events that a stack of such frames still owes: for each frame those of its remaining
children and its exit. -/
def pending (mode : Mode) (stack : List (N × Nat)) : List (Event N) :=
  stack.flatMap fun (n, i) => ((k.children n).drop i).flatMap (k.eventsIn mode) ++ [.exit n]

/-- A bound on the steps that a stack still takes. -/
def work (stack : List (N × Nat)) : Nat :=
  stack.foldr (fun (n, i) steps => 2 * k.weight ((k.children n).drop i) + 1 + steps) 0

theorem pending_cons (mode : Mode) (n : N) (i : Nat) (rest : List (N × Nat)) :
    k.pending mode ((n, i) :: rest) =
      ((k.children n).drop i).flatMap (k.eventsIn mode) ++ .exit n :: k.pending mode rest := by
  simp [pending]

theorem work_cons (n : N) (i : Nat) (rest : List (N × Nat)) :
    k.work ((n, i) :: rest) = 2 * k.weight ((k.children n).drop i) + 1 + k.work rest := by
  simp [work]

theorem next_frameAt (n : N) (i : Nat) :
    (k.frameAt (n, i)).next (k.children n) = match (k.children n)[i]? with
      | none => .done
      | some c => .child c (k.frameAt (n, i + 1)) := by
  unfold Frame.next frameAt
  by_cases hi : i < (k.children n).length
  · have hc : ¬ ((k.children n).length : Int) ≤ (i : Int) := by omega
    simp only [hc, if_false, Sequence.item?_ofNat, List.getElem?_eq_getElem hi]
    rfl
  · have hc : ((k.children n).length : Int) ≤ (i : Int) := by omega
    simp only [hc, if_true, List.getElem?_eq_none (Nat.le_of_not_lt hi)]

end Nodes

namespace Walk

variable {N σ ε : Type}

theorem get_bind_eq {α : Type} {f : σ → EStateM ε σ α} {x : EStateM ε σ α} (h : ∀ s, f s = x) :
    (get >>= f) = x := by
  -- the state is looked at but does not matter
  funext s
  exact congrFun (h s) s

theorem step_frameAt (k : Nodes N) (mode : Mode) (l : Listener N σ ε) (n : N) (i : Nat)
    (rest : List (Frame N)) :
    step k.view mode l (k.frameAt (n, i) :: rest) =
      (match (k.children n)[i]? with
      | none => do
        call (l.exit n)
        return rest
      | some c => match (k.tree c).label with
        | .terminal _ => do
          terminal mode l c
          return k.frameAt (n, i + 1) :: rest
        | .error _ => do
          error mode l c
          return k.frameAt (n, i + 1) :: rest
        | .rule _ => do
          enter mode l c
          return k.frameAt (c, 0) :: k.frameAt (n, i + 1) :: rest) := by
  rw [step]
  apply get_bind_eq
  intro s
  have hn : (k.frameAt (n, i)).next (k.view.children s (k.frameAt (n, i)).node) = _ :=
    k.next_frameAt n i
  rw [hn]
  cases (k.children n)[i]? with
  | none => rfl
  | some c =>
    apply get_bind_eq
    intro s'
    simp only [Nodes.view]
    cases (k.tree c).label <;> rfl

/-- A step fires the first events that the stack owes and leaves a stack that owes the others. -/
theorem step_pending (k : Nodes N) (mode : Mode) (l : Listener N σ ε) (top : N × Nat)
    (rest : List (N × Nat)) :
    ∃ fired stack,
      step k.view mode l ((top :: rest).map k.frameAt) =
        (do fireAll l fired; return stack.map k.frameAt) ∧
      k.pending mode (top :: rest) = fired ++ k.pending mode stack ∧
      k.work stack < k.work (top :: rest) := by
  obtain ⟨n, i⟩ := top
  rw [List.map_cons, step_frameAt, k.pending_cons, k.work_cons]
  cases hc : (k.children n)[i]? with
  | none =>
    -- no child is left: the frame owes its exit only
    refine ⟨[.exit n], rest, ?_, ?_, by omega⟩
    · simp only [call_exit_eq_fireAll]
    · rw [List.drop_eq_nil_of_le (List.getElem?_eq_none_iff.mp hc)]
      rfl
  | some c =>
    obtain ⟨hi, rfl⟩ := List.getElem?_eq_some_iff.mp hc
    have hpos := (k.tree ((k.children n)[i])).size_pos
    rw [List.drop_eq_getElem_cons hi, List.flatMap_cons, k.weight_cons]
    cases hl : (k.tree ((k.children n)[i])).label with
    | terminal =>
      refine ⟨k.eventsIn mode (k.children n)[i], (n, i + 1) :: rest, ?_, ?_, ?_⟩
      · simp only [hl, Nodes.eventsIn_terminal mode hl, terminal_eq_fireAll, List.map_cons]
      · rw [k.pending_cons, List.append_assoc]
      · rw [k.work_cons]
        omega
    | error =>
      refine ⟨k.eventsIn mode (k.children n)[i], (n, i + 1) :: rest, ?_, ?_, ?_⟩
      · simp only [hl, Nodes.eventsIn_error mode hl, error_eq_fireAll, List.map_cons]
      · rw [k.pending_cons, List.append_assoc]
      · rw [k.work_cons]
        omega
    | rule =>
      -- the child is only entered; the rest of its events is owed by its own frame
      refine ⟨if mode.enters then [.enter (k.children n)[i]] else [],
        ((k.children n)[i], 0) :: (n, i + 1) :: rest, ?_, ?_, ?_⟩
      · simp only [hl, enter_eq_fireAll, List.map_cons]
      · rw [k.pending_cons, k.pending_cons, Nodes.eventsIn_rule mode hl, List.drop_zero]
        simp
      · rw [k.work_cons, k.work_cons, List.drop_zero, k.size_eq (k.children n)[i]]
        omega

/-- A stack of frames fires everything that it owes. -/
theorem run_pending (k : Nodes N) (mode : Mode) (l : Listener N σ ε) (fuel : Nat)
    (stack : List (N × Nat)) (h : k.work stack ≤ fuel) :
    run k.view mode l fuel (stack.map k.frameAt) = fireAll l (k.pending mode stack) := by
  induction fuel generalizing stack with
  | zero =>
    cases stack with
    | nil => rfl
    | cons top rest =>
      rw [k.work_cons] at h
      omega
  | succ fuel ih =>
    cases stack with
    | nil => rfl
    | cons top rest =>
      -- what one step fires and what the stack then owes is what was owed before
      obtain ⟨fired, stack, hstep, hpending, hwork⟩ := step_pending k mode l top rest
      rw [List.map_cons] at hstep ⊢
      rw [run, hstep, hpending, fireAll_append]
      simp only [bind_assoc, pure_bind]
      rw [ih stack (by omega)]

theorem iterate_eq (k : Nodes N) (mode : Mode) (l : Listener N σ ε) (fuel : Nat) (root : N) :
    iterate k.view mode l fuel root =
      (match (k.tree root).label with
      | .terminal _ => terminal mode l root
      | .error _ => error mode l root
      | .rule _ => do
        enter mode l root
        run k.view mode l fuel [k.frameAt (root, 0)]) := by
  rw [iterate]
  apply get_bind_eq
  intro s
  simp only [Nodes.view]
  cases (k.tree root).label <;> rfl

theorem iterate_eq_fireAll (k : Nodes N) (mode : Mode) (l : Listener N σ ε) (fuel : Nat) (root : N)
    (h : 2 * (k.tree root).size ≤ fuel) :
    iterate k.view mode l fuel root = fireAll l (k.eventsIn mode root) := by
  rw [iterate_eq]
  cases hl : (k.tree root).label with
  | terminal => rw [Nodes.eventsIn_terminal mode hl, terminal_eq_fireAll]
  | error => rw [Nodes.eventsIn_error mode hl, error_eq_fireAll]
  | rule =>
    have hs := k.size_eq root
    have hw : k.work [(root, 0)] ≤ fuel := by
      rw [k.work_cons, List.drop_zero]
      simp only [Nodes.work, List.foldr_nil]
      omega
    have hr := run_pending k mode l fuel [(root, 0)] hw
    rw [List.map_cons, List.map_nil, k.pending_cons, List.drop_zero] at hr
    simp only [hr, enter_eq_fireAll, Nodes.eventsIn_rule mode hl, fireAll_append, bind_assoc]
    rfl

/-- The two walks agree for every listener and from every state: they call the same callbacks on the
same nodes in the same order, namely those of the tree's events up to the first that raises, and end
in the same state with the same outcome. -/
theorem descend_iterate_agree (k : Nodes N) (mode : Mode) (l : Listener N σ ε) (root : N)
    (spare : Nat) (s : σ) :
    ∃ fired result, l.Fires s fired result ∧ fired <+: k.eventsIn mode root ∧
      (∀ s', result = .ok () s' → fired = k.eventsIn mode root) ∧
      descend k.view mode l ((k.tree root).fuel + spare) root s = result ∧
      iterate k.view mode l ((k.tree root).fuel + spare) root s = result ∧
      finalState (descend k.view mode l.logged ((k.tree root).fuel + spare) root (s, [])) =
        (finalState result, fired) ∧
      finalState (iterate k.view mode l.logged ((k.tree root).fuel + spare) root (s, [])) =
        (finalState result, fired) := by
  have hf : 2 * (k.tree root).size ≤ (k.tree root).fuel + spare := by
    unfold Tree.fuel
    omega
  -- for `l` and for the listener that notes its calls alike
  have hd {σ' : Type} (l' : Listener N σ' ε) :=
    (descend_and_descendFrom k mode l' ((k.tree root).fuel + spare)).1 root hf
  have hi {σ' : Type} (l' : Listener N σ' ε) :=
    iterate_eq_fireAll k mode l' ((k.tree root).fuel + spare) root hf
  obtain ⟨fired, hfires, hpre, hok, hlog⟩ := exists_fires l (k.eventsIn mode root) s
  have hlog' := hlog []
  rw [List.nil_append] at hlog'
  refine ⟨fired, fireAll l (k.eventsIn mode root) s, hfires, hpre, hok, ?_, ?_, ?_, ?_⟩
  · rw [hd]
  · rw [hi]
  · rw [hd, hlog']
  · rw [hi, hlog']

end Walk

end SyntaxReport
