import SyntaxReport.Proofs.Outcome
import SyntaxReport.Proofs.Snippet.Unlocated
import SyntaxReport.Report.Draft

/-! Reports that cause each other. A report without a location shows the text of its cause in the
place of a snippet, and that text shows the cause of the cause in turn. So a chain of such reports
tells all their messages, the outermost first, and every report of it can be reached from the
last one. -/
namespace SyntaxReport

/-- The failure itself, then the one that it is chained to, the one that this is chained to, and so
on. -/
def Failure.causes : Failure → List Failure
  | .plain t => [.plain t]
  | .report ⟨m, s, a, b, c, none⟩ => [.report ⟨m, s, a, b, c, none⟩]
  | .report ⟨m, s, a, b, c, some f⟩ => .report ⟨m, s, a, b, c, some f⟩ :: f.causes

theorem Failure.causes_report (r : Report) :
    (Failure.report r).causes = .report r :: r.chained.elim [] Failure.causes := by
  obtain ⟨m, s, a, b, c, _ | f⟩ := r
  · rw [causes]
    rfl
  · rw [causes]
    rfl

/-- The messages in order, with a blank line between neighbours. -/
def Text.told (messages : List Text) : Text :=
  Text.joined ['\n', '\n'] messages

theorem Text.told_cons (m : Text) {messages : List Text} (h : messages ≠ []) :
    Text.told (m :: messages) = m ++ ['\n', '\n'] ++ Text.told messages := by
  obtain ⟨n, rest, rfl⟩ := List.exists_cons_of_ne_nil h
  rfl

namespace Draft

/-- The draft is raised in the standard way, and neither of its tokens leads to a valid position. -/
structure IsUnlocated (d : Draft Report) : Prop where
  formatter : ∃ settings, d.formatter = .standard settings
  make : d.make = report
  tokens : ∃ start stop, d.start = some (.token start) ∧ d.stop = some (.token stop) ∧
    ¬ (Position.ofStart start).IsValid ∧ ¬ (Position.ofStop stop d.source).IsValid

/-- Raises drafts one after the other, each with the report before it as its cause. -/
def raiseInTurn [Memory] (cause : Option Failure) :
    List (Draft Report) → Except DraftFault (List Report)
  | [] => .ok []
  | d :: rest => do
    let r ← (d.apply (withCause cause)).1.raise
    let later ← raiseInTurn (some (.report r)) rest
    return r :: later

/-- The report that a draft without a location makes of a cause. -/
structure Reported (cause : Option Failure) (d : Draft Report) (r : Report) : Prop where
  message : r.message = d.message
  snippet : r.snippet = cause.elim [] Failure.text
  start : r.start.map .token = d.start
  stop : r.stop.map .token = d.stop
  chained : r.chained = cause
  cause : r.cause = cause

theorem IsUnlocated.exists_raise [Memory] {d : Draft Report} (h : d.IsUnlocated)
    (cause : Option Failure) :
    ∃ r, (d.apply (withCause cause)).1.raise = .ok r ∧ Reported cause d r := by
  obtain ⟨settings, hformatter⟩ := h.formatter
  obtain ⟨start, stop, hstart, hstop, hfirst, hlast⟩ := h.tokens
  have hsnippet : d.formatter.format start stop d.source cause =
      .ok (cause.elim [] Failure.text) := by
    rw [hformatter]
    exact Formatter.format_of_not_isValid hfirst hlast cause
  refine ⟨report start stop (cause.elim [] Failure.text) d.message cause, ?_, ?_⟩
  · -- the edit writes the cause and leaves the rest, so the draft's own parts are formatted
    change ({ d with cause := cause } : Draft Report).raise = _
    unfold raise
    simp only [hstart, hstop, hsnippet, h.make]
  · exact ⟨rfl, rfl, hstart.symm, hstop.symm, rfl, rfl⟩

/-- What is known of a cause: its text tells the messages of the failures that it leads to. -/
structure Tells (cause : Option Failure) (messages : List Text) (visited : List Failure) :
    Prop where
  text : cause.elim [] Failure.text = Text.told messages
  told_ne_nil : messages ≠ [] → Text.told messages ≠ []
  causes : cause.elim [] Failure.causes = visited

/-- One more report puts its message in front. Only a first message can be lost, if it is empty. -/
theorem Tells.report {cause : Option Failure} {messages : List Text} {visited : List Failure}
    (h : Tells cause messages visited) {d : Draft Report} {r : Report} (hr : Reported cause d r)
    (hm : messages = [] → d.message ≠ []) :
    Tells (some (.report r)) (d.message :: messages) (.report r :: visited) := by
  have hsnippet : r.snippet = Text.told messages := hr.snippet.trans h.text
  have htext : r.text = Text.told (d.message :: messages) := by
    unfold Report.text
    rw [hr.message, hsnippet]
    by_cases hnil : messages = []
    · rw [hnil]
      rfl
    · have hne := List.isEmpty_eq_false_iff.mpr (h.told_ne_nil hnil)
      rw [Text.told_cons _ hnil, hne, if_neg Bool.false_ne_true]
  refine ⟨htext, ?_, ?_⟩
  · intro _
    by_cases hnil : messages = []
    · rw [hnil]
      exact hm hnil
    · rw [Text.told_cons _ hnil]
      simp
  · change (Failure.report r).causes = _
    rw [Failure.causes_report, hr.chained, h.causes]

theorem exists_raiseInTurn [Memory] {drafts : List (Draft Report)}
    (hu : ∀ d ∈ drafts, d.IsUnlocated)
    {cause : Option Failure} {messages : List Text} {visited : List Failure}
    (h : Tells cause messages visited)
    (hm : messages = [] → ∀ d ∈ drafts.head?, d.message ≠ []) :
    ∃ reports, raiseInTurn cause drafts = .ok reports ∧
      List.Forall₂ (fun d r => ∃ c, Reported c d r) drafts reports ∧
      Tells ((reports.getLast?.map .report).or cause)
        ((drafts.map (·.message)).reverse ++ messages)
        ((reports.map .report).reverse ++ visited) := by
  -- the report of a draft is the cause of the next one, with one more message in front
  induction drafts generalizing cause messages visited with
  | nil => exact ⟨[], rfl, .nil, h⟩
  | cons d rest ih =>
    obtain ⟨r, hraise, hr⟩ := (hu d List.mem_cons_self).exists_raise cause
    have hnext := h.report hr fun hnil => hm hnil d rfl
    obtain ⟨later, hlater, hreports, htells⟩ :=
      ih (fun d' hd' => hu d' (List.mem_cons_of_mem d hd')) hnext nofun
    refine ⟨r :: later, ?_, .cons ⟨cause, hr⟩ hreports, ?_⟩
    · rw [raiseInTurn, hraise, Outcome.ok_bind, hlater, Outcome.ok_bind, Outcome.pure_eq_ok]
    · have hlast : ((r :: later).getLast?.map Failure.report).or cause =
          (later.getLast?.map Failure.report).or (some (.report r)) := by
        rw [List.getLast?_cons]
        cases later.getLast? <;> rfl
      rw [hlast]
      simpa only [List.map_cons, List.reverse_cons, List.append_assoc,
        List.singleton_append] using htells

/-- Reports without a location that are raised inside out keep every message: the text of the last
one tells them all, the outermost first, and its causes are the reports before it. Every message but
the innermost may be empty. -/
theorem raiseInTurn_keeps_messages [Memory] {inner : Draft Report} {outer : List (Draft Report)}
    (hu : ∀ d ∈ inner :: outer, d.IsUnlocated) (hm : inner.message ≠ []) :
    ∃ reports last, raiseInTurn none (inner :: outer) = .ok reports ∧
      List.Forall₂ (fun d r => ∃ cause, Reported cause d r) (inner :: outer) reports ∧
      reports.getLast? = some last ∧
      last.text = Text.joined ['\n', '\n'] ((inner :: outer).map (·.message)).reverse ∧
      (Failure.report last).causes = (reports.map .report).reverse := by
  have hstart : Tells none [] [] := ⟨rfl, fun h => absurd rfl h, rfl⟩
  have hfirst : ∀ d ∈ (inner :: outer).head?, d.message ≠ [] := by
    intro d hd
    rw [← Option.some.inj hd]
    exact hm
  obtain ⟨reports, hraise, hreports, htells⟩ := exists_raiseInTurn hu hstart fun _ => hfirst
  -- there is a last report, since there is a draft
  have hne : reports ≠ [] := by
    intro hnil
    rw [hnil] at hreports
    cases hreports
  have hlast := List.getLast?_eq_some_getLast hne
  rw [hlast, List.append_nil, List.append_nil] at htells
  exact ⟨reports, reports.getLast hne, hraise, hreports, hlast, htells.text, htells.causes⟩

/-- A draft on line zero, which no source has. -/
def nowhere (message source : Text) : Draft Report where
  message := message
  source := source
  make := report
  start := some (.token { line := 0 })
  stop := some (.token { line := 0 })

-- An empty message is not told if it is the innermost one.
example : (raiseInTurn none [nowhere [] [], nowhere ['m'] []]).map (·.map Report.text) =
    .ok [[], ['m']] := by decide

theorem raiseInTurn_keeps_messages_nowhere :
    (∀ d ∈ [nowhere ['a'] ['x'], nowhere [] [], nowhere ['c'] ['\n']], d.IsUnlocated) ∧
      (nowhere ['a'] ['x']).message ≠ [] ∧
      ∃ reports last,
        raiseInTurn none [nowhere ['a'] ['x'], nowhere [] [], nowhere ['c'] ['\n']] =
          .ok reports ∧
        reports.getLast? = some last ∧ last.text = ['c', '\n', '\n', '\n', '\n', 'a'] ∧
        (Failure.report last).causes = (reports.map .report).reverse := by
  have hu : ∀ d ∈ [nowhere ['a'] ['x'], nowhere [] [], nowhere ['c'] ['\n']], d.IsUnlocated := by
    have hnowhere (message source : Text) (h : ¬ (Position.ofStop { line := 0 } source).IsValid) :
        (nowhere message source).IsUnlocated :=
      ⟨⟨{}, rfl⟩, rfl, { line := 0 }, { line := 0 }, rfl, rfl, by decide, h⟩
    simp only [List.forall_mem_cons]
    exact ⟨hnowhere _ _ (by decide), hnowhere _ _ (by decide), hnowhere _ _ (by decide),
      List.forall_mem_nil _⟩
  have hm : (nowhere ['a'] ['x']).message ≠ [] := List.cons_ne_nil _ _
  obtain ⟨reports, last, hraise, -, hlast, htext, hcauses⟩ := raiseInTurn_keeps_messages hu hm
  exact ⟨hu, hm, reports, last, hraise, hlast, htext, hcauses⟩

end Draft

end SyntaxReport
