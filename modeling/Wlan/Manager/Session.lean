import Wlan.Manager.Wait

/-!
# Sessions

A manager over time: a link, a clock, and at most one wait that goes on in the background. There
is a single slot for waits. A second wait does not share the first one's deadline and is turned
away, even where its own condition already holds.

The background wait looks at the link when a step is over, and at nothing in between. So it ends
with the first step after which its condition holds, and a condition that held only for a moment
inside a step goes unnoticed.

The clock moves in two ways: by a step that lets time pass, and by a wait in the foreground that
nobody ends, which takes until its deadline.
-/

set_option autoImplicit false

namespace Wlan

structure Blocked where
  wait : Wait
  deadline : Option Moment
  deriving DecidableEq, Repr

/-- A manager at some moment. -/
structure Session where
  link : Link := {}
  now : Moment := 0
  /-- The holder of the wait slot. -/
  blocked : Option Blocked := none
  deriving DecidableEq, Repr

inductive Step
  | command (c : Command) (answer : Answer)
  | event (e : Event)
  | wait (w : Wait)
  | background (w : Wait)
  | elapse (span : Span)

/-- What a step comes to for the one who takes it. -/
inductive StepResult
  | performed (result : Except CommandError Unit)
  | heard (listeners : Nat)
  | waited (outcome : Outcome)
  | started
  | elapsed

/-- What the background wait did during a step: its outcome if it ended, and what it logged. -/
structure BackgroundReport where
  outcome : Option Outcome
  log : List LogLine

structure Report where
  result : StepResult
  request : Option Request := none
  credentials : Option Credentials := none
  log : List LogLine := []
  /-- Present while there is a background wait, up to the step that ends it. -/
  background : Option BackgroundReport := none

namespace Session

/-- How a wait ends that has just looked at the link, if it does. -/
def verdictOn (w : Wait) (deadline : Option Moment) (link : Link) (now : Moment) :
    Option Outcome :=
  -- The condition comes first, so that a limit of nothing still finds what is already there.
  if !w.pending link then some .done
  else if hasPassed deadline now then some w.expiry
  else none

/-- The background wait looks at the link. `opened` is what it logged in this step already. -/
def recheck (s : Session) (opened : List LogLine) : Session × Option BackgroundReport :=
  match s.blocked with
  | none => (s, none)
  | some b =>
    match verdictOn b.wait b.deadline s.link s.now with
    | some outcome =>
      ({ s with blocked := none }, some ⟨some outcome, opened ++ b.wait.closing outcome⟩)
    | none => (s, some ⟨none, opened⟩)

/-- A wait in the foreground, with nobody else active: the session and the outcome. -/
def waitNow (s : Session) (w : Wait) : Session × Outcome :=
  if s.blocked.isSome then (s, .turnedAway)
  else
    let deadline := w.deadline? s.now
    match verdictOn w deadline s.link s.now with
    | some outcome => (s, outcome)
    | none =>
      match deadline with
      | some moment => ({ s with now := moment }, w.expiry)
      | none => (s, .endless)

/-- Starts a wait in the background, which takes the slot. -/
def start (s : Session) (w : Wait) : Session :=
  { s with blocked := some ⟨w, w.deadline? s.now⟩ }

/-- What a step does before the background wait looks. -/
def act (s : Session) : Step → Session × List LogLine × Report
  | .command c answer =>
    let p := c.perform s.link answer
    ({ s with link := p.link }, [],
      { result := .performed p.result, request := p.request, credentials := p.credentials,
        log := p.log })
  | .event e =>
    ({ s with link := s.link.deliver e }, [],
      { result := .heard (Link.hearers e).length, log := s.link.deliveryLog e })
  | .wait w =>
    let (s', outcome) := s.waitNow w
    (s', [], { result := .waited outcome, log := w.opening ++ w.closing outcome })
  | .background w =>
    -- A wait that is turned away never gets into the background.
    if s.blocked.isSome then
      (s, [], { result := .waited .turnedAway, log := w.opening ++ w.closing .turnedAway })
    else (s.start w, w.opening, { result := .started })
  | .elapse span => ({ s with now := s.now + span.nanos }, [], { result := .elapsed })

def step (s : Session) (t : Step) : Session × Report :=
  let (acted, opened, report) := s.act t
  let (rested, background) := acted.recheck opened
  (rested, { report with background })

def run (s : Session) : List Step → Session × List Report
  | [] => (s, [])
  | t :: ts =>
    let (next, report) := s.step t
    let (last, reports) := next.run ts
    (last, report :: reports)

end Session

end Wlan
