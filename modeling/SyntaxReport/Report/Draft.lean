import SyntaxReport.Report.Anchor
import SyntaxReport.Snippet.Formatter

/-! Drafts: a report in the making. Edits set where the report starts and stops and what caused it;
raising it draws the snippet and hands everything to the draft's maker of failures. -/
namespace SyntaxReport

/-- A report in the making, whose raised failures have type `ε`. -/
structure Draft (ε : Type) where
  message : Text
  source : Text
  formatter : Formatter := {}
  /-- Makes the failure from start, stop, snippet, message and cause. -/
  make : Token → Token → Text → Text → Option Failure → ε
  start : Option Anchor := none
  stop : Option Anchor := none
  cause : Option Failure := none

/-- An end of a report. -/
inductive End where
  | start
  | stop
  deriving DecidableEq, Repr

/-- Why a draft cannot be raised. -/
inductive DraftFault where
  | missing (e : End)
  | notAToken
  | unrenderable (cause : RenderError)
  deriving DecidableEq, Repr

def End.missingMessage : End → Text
  | start => "start token must be specified".toList
  | stop => "stop token must be specified".toList

namespace Draft

variable {ε : Type}

/-- The maker that keeps every part in a report. -/
def report (start stop : Token) (snippet message : Text) (cause : Option Failure) : Report :=
  .make message snippet (some start) (some stop) cause

/-- An edit of a draft; one that fails may already have changed it. -/
abbrev Edit (ε : Type) := ExceptT AnchorError (StateM (Draft ε))

def setStart (place : Option Anchor) : Edit ε Unit :=
  modify fun d => { d with start := place }

def setStop (place : Option Anchor) : Edit ε Unit :=
  modify fun d => { d with stop := place }

/-- Starts the report at a place, for a node at its start token. -/
def withStart (place : Option Anchor) : Edit ε Unit :=
  match place with
  | some (.node n) => do setStart ((← n.startToken).map .token)
  | _ => setStart place

/-- Stops the report at a place, for a node at its stop token. -/
def withStop (place : Option Anchor) : Edit ε Unit :=
  match place with
  | some (.node n) => do setStop ((← n.stopToken).map .token)
  | _ => setStop place

/-- Starts and stops the report at the place itself, whatever it is. -/
def withToken (place : Option Anchor) : Edit ε Unit := do
  setStart place
  setStop place

/-- Starts and stops the report at the ends of a node, first the start. -/
def withNode (place : Option Anchor) : Edit ε Unit := do
  setStart ((← Anchor.startToken place).map .token)
  setStop ((← Anchor.stopToken place).map .token)

def withCause (cause : Option Failure) : Edit ε Unit :=
  modify fun d => { d with cause }

/-- The draft after an edit, and the error if the edit failed. -/
def apply (d : Draft ε) (edit : Edit ε Unit) : Draft ε × Option AnchorError :=
  match edit.run.run d with
  | (.ok (), d') => (d', none)
  | (.error e, d') => (d', some e)

/-- The failure that the draft raises. A missing start is noticed before a missing stop, and both
before anything else. -/
def raise [Memory] (d : Draft ε) : Except DraftFault ε :=
  match d.start, d.stop with
  | none, _ => .error (.missing .start)
  | some _, none => .error (.missing .stop)
  | some (.token start), some (.token stop) =>
    match d.formatter.format start stop d.source d.cause with
    | .ok snippet => .ok (d.make start stop snippet d.message d.cause)
    | .error e => .error (.unrenderable e)
  | some _, some _ => .error .notAToken

end Draft

end SyntaxReport
