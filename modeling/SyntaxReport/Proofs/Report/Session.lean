import SyntaxReport.Report.Draft

/-! Drafts under a sequence of calls. A call that succeeds writes to each of its targets, so that
start, stop and cause hold what was written to them last; reports in between change nothing. A call
that fails leaves the draft as it was, with one exception: a rule with a start and without a stop is
taken over at its start before the missing stop is noticed. -/
namespace SyntaxReport

/-- The token of a node at an end: for a rule its own, for a leaf the symbol. -/
def Tree.tokenAt (e : End) : Tree → Option Token
  | rule _ _ start stop => match e with
    | .start => start
    | .stop => stop
  | terminal symbol => symbol
  | error symbol => symbol

/-- What a place contributes to an end: a node its token there, anything else itself. -/
def Anchor.contribution (e : End) : Anchor → Option Anchor
  | node n => (n.tokenAt e).map .token
  | place => some place

namespace Draft

variable {ε : Type}

inductive Call where
  | withStart (place : Option Anchor)
  | withStop (place : Option Anchor)
  | withToken (place : Option Anchor)
  | withNode (place : Option Anchor)
  | withCause (cause : Option Failure)

namespace Call

def edit : Call → Edit ε Unit
  | withStart place => Draft.withStart place
  | withStop place => Draft.withStop place
  | withToken place => Draft.withToken place
  | withNode place => Draft.withNode place
  | withCause cause => Draft.withCause cause

/-- What a call writes to an end of the report, if that end is one of its targets. -/
def place? (e : End) : Call → Option (Option Anchor)
  | withStart place => if e = .start then some (place.bind (Anchor.contribution e)) else none
  | withStop place => if e = .stop then some (place.bind (Anchor.contribution e)) else none
  | withToken place => some place
  | withNode place => some (place.bind (Anchor.contribution e))
  | withCause _ => none

/-- What a call writes to the cause, if the cause is its target. -/
def cause? : Call → Option (Option Failure)
  | withCause cause => some cause
  | _ => none

/-- Why a call fails: a rule lacks a token that is asked for, or a node is needed and the place is
none. -/
def error? : Call → Option AnchorError
  | withStart (some (.node (.rule name _ none _))) => some (.noStart name)
  | withStop (some (.node (.rule name _ _ none))) => some (.noStop name)
  | withNode (some (.node (.rule name _ none _))) => some (.noStart name)
  | withNode (some (.node (.rule name _ (some _) none))) => some (.noStop name)
  | withNode (some (.node _)) => none
  | withNode place => some (.notATree (Anchor.typeNameOf place))
  | _ => none

/-- The call takes over the start of a rule, which is `t`, and then misses its stop. -/
def StopsHalfway (c : Call) (t : Token) : Prop :=
  ∃ name children, c = withNode (some (.node (.rule name children (some t) none)))

end Call

/-- The draft after the writes of a call. -/
def write (d : Draft ε) (c : Call) : Draft ε :=
  { d with
    start := (c.place? .start).getD d.start
    stop := (c.place? .stop).getD d.stop
    cause := c.cause?.getD d.cause }

/-- All that a call can do: it succeeds and writes, it fails and changes nothing, or it fails
halfway. -/
theorem apply_edit_cases (d : Draft ε) (c : Call) :
    c.error? = none ∧ d.apply c.edit = (d.write c, none) ∨
    (∃ e, c.error? = some e ∧ (∀ t, ¬ c.StopsHalfway t) ∧ d.apply c.edit = (d, some e)) ∨
    ∃ e t, c.error? = some e ∧ c.StopsHalfway t ∧
      d.apply c.edit = ({ d with start := some (.token t) }, some e) := by
  cases c with
  | withStart place =>
    rcases place with _ | _ | (⟨name, children, _ | t, stop⟩ | symbol | symbol) | typeName
    case some.node.rule.none =>
      refine .inr (.inl ⟨.noStart name, rfl, ?_, rfl⟩)
      rintro t ⟨_, _, hhalf⟩
      cases hhalf
    all_goals exact .inl ⟨rfl, rfl⟩
  | withStop place =>
    rcases place with _ | _ | (⟨name, children, start, _ | t⟩ | symbol | symbol) | typeName
    case some.node.rule.none =>
      refine .inr (.inl ⟨.noStop name, rfl, ?_, rfl⟩)
      rintro t ⟨_, _, hhalf⟩
      cases hhalf
    all_goals exact .inl ⟨rfl, rfl⟩
  | withToken place => exact .inl ⟨rfl, rfl⟩
  | withNode place =>
    rcases place with _ | _ | (⟨name, children, _ | t, _ | u⟩ | symbol | symbol) | typeName
    -- the start is written before the stop is looked for
    case some.node.rule.some.none =>
      exact .inr (.inr ⟨.noStop name, t, rfl, ⟨name, children, rfl⟩, rfl⟩)
    case some.node.rule.some.some => exact .inl ⟨rfl, rfl⟩
    case some.node.terminal => exact .inl ⟨rfl, rfl⟩
    case some.node.error => exact .inl ⟨rfl, rfl⟩
    all_goals
      refine .inr (.inl ⟨_, rfl, ?_, rfl⟩)
      rintro t ⟨_, _, hhalf⟩
      cases hhalf
  | withCause cause => exact .inl ⟨rfl, rfl⟩

/-- A step of a session: an edit, or a report, after which the draft can be edited further. -/
inductive Step where
  | call (c : Call)
  | report

def Step.call? : Step → Option Call
  | call c => some c
  | report => none

inductive Answer (ε : Type) where
  | edited (error : Option AnchorError)
  | raised (outcome : Except DraftFault ε)

def step [Memory] (d : Draft ε) : Step → Draft ε × Answer ε
  | .call c => ((d.apply c.edit).1, .edited (d.apply c.edit).2)
  | .report => (d, .raised d.raise)

/-- The draft after some steps, and what each of them came to. A failure does not end a session. -/
def session [Memory] (d : Draft ε) : List Step → Draft ε × List (Answer ε)
  | [] => (d, [])
  | s :: rest =>
    (((d.step s).1.session rest).1, (d.step s).2 :: ((d.step s).1.session rest).2)

theorem session_append [Memory] (d : Draft ε) (steps later : List Step) :
    d.session (steps ++ later) = (((d.session steps).1.session later).1,
      (d.session steps).2 ++ ((d.session steps).1.session later).2) := by
  induction steps generalizing d with
  | nil => rfl
  | cons s rest ih => rw [List.cons_append, session, ih, session, List.cons_append]

def callsOf (steps : List Step) : List Call :=
  steps.filterMap Step.call?

theorem apply_edit_error (d : Draft ε) (c : Call) : (d.apply c.edit).2 = c.error? := by
  obtain ⟨he, hc⟩ | ⟨e, he, -, hc⟩ | ⟨e, t, he, -, hc⟩ := d.apply_edit_cases c
  · rw [hc, he]
  · rw [hc, he]
  · rw [hc, he]

theorem edited_mem_session [Memory] (d : Draft ε) {steps : List Step} {c : Call}
    (h : c ∈ callsOf steps) :
    .edited c.error? ∈ (d.session steps).2 := by
  induction steps generalizing d with
  | nil => cases h
  | cons s rest ih =>
    rw [session, List.mem_cons]
    cases s with
    | report => exact .inr (ih _ h)
    | call c' =>
      rcases List.mem_cons.mp h with rfl | hrest
      · exact .inl (by rw [step, apply_edit_error])
      · exact .inr (ih _ hrest)

theorem session_eq_writes [Memory] (d : Draft ε) (steps : List Step)
    (h : ∀ c ∈ callsOf steps, ∀ t, ¬ c.StopsHalfway t) :
    (d.session steps).1 = ((callsOf steps).filter fun c => c.error?.isNone).foldl write d := by
  -- by induction for every draft, since a successful call hands a new one to the rest
  induction steps generalizing d with
  | nil => rfl
  | cons s rest ih =>
    cases s with
    | report => exact ih d h
    | call c =>
      have hrest (d' : Draft ε) := ih d' fun c' hc' => h c' (List.mem_cons_of_mem c hc')
      change ((d.apply c.edit).1.session rest).1 =
        ((c :: callsOf rest).filter fun c => c.error?.isNone).foldl write d
      obtain ⟨he, hc⟩ | ⟨e, he, -, hc⟩ | ⟨e, t, -, ht, -⟩ := d.apply_edit_cases c
      · rw [hc, hrest, List.filter_cons_of_pos (by rw [he]; rfl), List.foldl_cons]
      · rw [hc, hrest, List.filter_cons_of_neg (by rw [he]; exact Bool.false_ne_true)]
      · exact absurd ht (h c List.mem_cons_self t)

theorem Call.StopsHalfway.error?_ne_none {c : Call} {t : Token} (h : c.StopsHalfway t) :
    c.error? ≠ none := by
  obtain ⟨name, children, rfl⟩ := h
  exact Option.some_ne_none _

theorem Call.StopsHalfway.unique {c : Call} {t u : Token} (ht : c.StopsHalfway t)
    (hu : c.StopsHalfway u) : t = u := by
  obtain ⟨name, children, rfl⟩ := ht
  obtain ⟨name', children', hu⟩ := hu
  cases hu
  rfl

/-- The last of the values that some calls write to a field, or `value` if they write none. -/
def lastWrite {α : Type} (write? : Call → Option α) (steps : List Step) (value : α) : α :=
  ((callsOf steps).filterMap write?).getLast?.getD value

theorem getD_getLast?_filterMap_cons {α β : Type} (f : α → Option β) (x : α) (xs : List α)
    (y : β) : ((x :: xs).filterMap f).getLast?.getD y =
      (xs.filterMap f).getLast?.getD ((f x).getD y) := by
  cases hx : f x with
  | none => rw [List.filterMap_cons_none hx, Option.getD_none]
  | some z =>
    rw [List.filterMap_cons_some hx, List.getLast?_cons, Option.getD_some, Option.getD_some]

theorem foldl_write_eq (d : Draft ε) (calls : List Call) :
    calls.foldl write d =
      { d with
        start := (calls.filterMap (Call.place? .start)).getLast?.getD d.start
        stop := (calls.filterMap (Call.place? .stop)).getLast?.getD d.stop
        cause := (calls.filterMap Call.cause?).getLast?.getD d.cause } := by
  induction calls generalizing d with
  | nil => rfl
  | cons c rest ih =>
    rw [List.foldl_cons, ih, getD_getLast?_filterMap_cons, getD_getLast?_filterMap_cons,
      getD_getLast?_filterMap_cons]
    rfl

/-- What a report comes to that goes from `start` to `stop`: both have to be there, the start is
looked at first, and the snippet between the two is handed to the maker of failures. -/
structure Reports [Memory] (d : Draft ε) (start stop : Option Anchor) (cause : Option Failure)
    (outcome : Except DraftFault ε) : Prop where
  no_start : start = none → outcome = .error (.missing .start)
  no_stop : start ≠ none → stop = none → outcome = .error (.missing .stop)
  made : ∀ t u snippet, start = some (.token t) → stop = some (.token u) →
    d.formatter.format t u d.source cause = .ok snippet →
    outcome = .ok (d.make t u snippet d.message cause)
  unrenderable : ∀ t u e, start = some (.token t) → stop = some (.token u) →
    d.formatter.format t u d.source cause = .error e → outcome = .error (.unrenderable e)
  not_a_token : ∀ a b, start = some a → stop = some b →
    (∀ t, a ≠ .token t) ∨ (∀ t, b ≠ .token t) → outcome = .error .notAToken

theorem reports_raise [Memory] (d : Draft ε) : d.Reports d.start d.stop d.cause d.raise := by
  constructor
  · intro hstart
    rw [raise, hstart]
  · intro hstart hstop
    obtain ⟨a, ha⟩ := Option.ne_none_iff_exists'.mp hstart
    rw [raise, ha, hstop]
  · intro t u snippet hstart hstop hformat
    rw [raise, hstart, hstop]
    simp only [hformat]
  · intro t u e hstart hstop hformat
    rw [raise, hstart, hstop]
    simp only [hformat]
  · intro a b hstart hstop hother
    rw [raise, hstart, hstop]
    cases a with
    | token t =>
      cases b with
      | token u => exact hother.elim (fun h => absurd rfl (h t)) (fun h => absurd rfl (h u))
      | node n => rfl
      | other typeName => rfl
    | node n => cases b <;> rfl
    | other typeName => cases b <;> rfl

/-- The last write wins, and reports leave no trace. After steps without a failure each field holds
what was written to it last; a report is made from these values, and the steps behind it go on as if
it had not been there. -/
theorem session_last_writes [Memory] (d : Draft ε) (steps : List Step)
    (h : ∀ e, .edited (some e) ∉ (d.session steps).2) :
    (d.session steps).1 =
      { d with
        start := lastWrite (Call.place? .start) steps d.start
        stop := lastWrite (Call.place? .stop) steps d.stop
        cause := lastWrite Call.cause? steps d.cause } ∧
    ∃ outcome, d.Reports (lastWrite (Call.place? .start) steps d.start)
        (lastWrite (Call.place? .stop) steps d.stop) (lastWrite Call.cause? steps d.cause)
        outcome ∧
      ∀ later, ∃ answers,
        d.session (steps ++ later) =
          ((d.session (steps ++ later)).1, (d.session steps).2 ++ answers) ∧
        d.session (steps ++ .report :: later) =
          ((d.session (steps ++ later)).1, (d.session steps).2 ++ .raised outcome :: answers) := by
  -- no answer shows an error, so no call has one, and every call is among the writes
  have hnone (c : Call) (hc : c ∈ callsOf steps) : c.error? = none := by
    cases he : c.error? with
    | none => rfl
    | some e =>
      have hmem := d.edited_mem_session hc
      rw [he] at hmem
      exact absurd hmem (h e)
  have hall : (callsOf steps).filter (fun c => c.error?.isNone) = callsOf steps :=
    List.filter_eq_self.mpr fun c hc => by rw [hnone c hc]; rfl
  have hlast := d.session_eq_writes steps fun c hc t ht => ht.error?_ne_none (hnone c hc)
  rw [hall, foldl_write_eq] at hlast
  refine ⟨hlast, (d.session steps).1.raise, ?_, fun later => ?_⟩
  · -- the report sees source, formatter and maker of the draft at the beginning
    have hreports := reports_raise (d.session steps).1
    rw [hlast] at hreports ⊢
    exact ⟨hreports.no_start, hreports.no_stop, hreports.made, hreports.unrenderable,
      hreports.not_a_token⟩
  · refine ⟨((d.session steps).1.session later).2, ?_, ?_⟩
    · rw [session_append]
    · rw [session_append, session_append]
      rfl

/-- A new draft of a report that keeps every part. -/
def new (message source : Text) : Draft Report :=
  { message, source, make := report }

/-- A node contributes both ends, a report is made, and then the stop is taken away. -/
def leafSession : List Step :=
  [.call (.withNode (some (.node (.terminal (some {}))))), .report,
    .call (.withCause (some (.plain ['c']))), .call (.withStop none)]

theorem session_last_writes_leafSession :
    (∀ e, .edited (some e) ∉ ((new ['m'] ['x']).session leafSession).2) ∧
      ((new ['m'] ['x']).session leafSession).1 =
        { new ['m'] ['x'] with
          start := some (.token {}), stop := none, cause := some (.plain ['c']) } := by
  have h : ∀ e, .edited (some e) ∉ ((new ['m'] ['x']).session leafSession).2 := by
    obtain ⟨outcome, hanswers⟩ : ∃ outcome, ((new ['m'] ['x']).session leafSession).2 =
        [.edited none, .raised outcome, .edited none, .edited none] := ⟨_, rfl⟩
    rw [hanswers]
    simp
  exact ⟨h, (session_last_writes (new ['m'] ['x']) leafSession h).1⟩

/-- A node in the place of a token is kept as it is, and does not contribute its tokens. -/
theorem withToken_keeps_node :
    (new ['m'] ['x']).apply (Call.withToken (some (.node (.terminal (some {}))))).edit =
        ({ new ['m'] ['x'] with
          start := some (.node (.terminal (some {})))
          stop := some (.node (.terminal (some {}))) }, none) ∧
      some (Anchor.node (.terminal (some {}))) ≠
        (Anchor.node (.terminal (some {}))).contribution .start :=
  ⟨rfl, nofun⟩

/-- A call fails for its place alone, whatever the draft holds. A call that fails changes nothing
unless it stops halfway, and then it changes nothing but the start. Failed calls that do not stop
halfway can thus be left out of a session. -/
theorem failed_calls_keep_draft [Memory] (d : Draft ε) :
    (∀ c : Call, (d.apply c.edit).2 = c.error?) ∧
    (∀ (c : Call) (e : AnchorError), (d.apply c.edit).2 = some e →
      ((∀ t, ¬ c.StopsHalfway t) → (d.apply c.edit).1 = d) ∧
      ∀ t, c.StopsHalfway t → (d.apply c.edit).1 = { d with start := some (.token t) }) ∧
    ∀ steps : List Step, (∀ c ∈ callsOf steps, ∀ t, ¬ c.StopsHalfway t) →
      (d.session steps).1 = ((callsOf steps).filter fun c => c.error?.isNone).foldl write d := by
  refine ⟨d.apply_edit_error, fun c e hfails => ?_, d.session_eq_writes⟩
  obtain ⟨-, hc⟩ | ⟨e', -, hwhole, hc⟩ | ⟨e', t, -, hhalf, hc⟩ := d.apply_edit_cases c
  · rw [hc] at hfails
    cases hfails
  · exact ⟨fun _ => by rw [hc], fun t ht => absurd ht (hwhole t)⟩
  · refine ⟨fun hno => absurd hhalf (hno t), fun u hu => ?_⟩
    rw [hc, hhalf.unique hu]

/-- A rule without tokens fails at once, and a rule without a stop halfway. -/
theorem failed_calls_keep_draft_of_rules :
    ((new ['m'] ['x']).apply (Call.withNode (some (.node (.rule ['r'] [] none none)))).edit).2 =
        some (.noStart ['r']) ∧
      ((new ['m'] ['x']).apply (Call.withNode (some (.node (.rule ['r'] [] none none)))).edit).1 =
        new ['m'] ['x'] ∧
      ((new ['m'] ['x']).apply
          (Call.withNode (some (.node (.rule ['r'] [] (some {}) none)))).edit).1 =
        { new ['m'] ['x'] with start := some (.token {}) } := by
  obtain ⟨-, hfails, -⟩ := failed_calls_keep_draft (new ['m'] ['x'])
  refine ⟨rfl, (hfails _ _ rfl).1 ?_, (hfails _ _ rfl).2 {} ⟨['r'], [], rfl⟩⟩
  rintro t ⟨_, _, hhalf⟩
  cases hhalf

/-- The start of a rule without a stop is taken over by a call that fails. -/
theorem failed_withNode_moves_start :
    ((new ['m'] ['x']).apply
        (Call.withNode (some (.node (.rule ['r'] [] (some {}) none)))).edit).2 =
        some (.noStop ['r']) ∧
      (new ['m'] ['x']).start = none ∧
      ((new ['m'] ['x']).apply
        (Call.withNode (some (.node (.rule ['r'] [] (some {}) none)))).edit).1.start =
        some (.token {}) :=
  ⟨rfl, rfl, rfl⟩

end Draft

end SyntaxReport
