import Wlan.CommandLine.Timeline
import Wlan.Settings.File

/-!
# Shells

What a subcommand works with. It runs the tool on a host, may look at and replace the settings
file, has at most one job under way, prints and logs. A step of it may fail, and what was done
before the failure stays done.
-/

set_option autoImplicit false

namespace Wlan.CommandLine

open NetworkManager

/-- What a subcommand changes. -/
structure Shell where
  host : Host
  spot : Spot
  timeline : Timeline
  printed : String := ""
  log : List LogLine := []
  /-- What the job under way has logged. -/
  jobLog : List LogLine := []

/-- Why a subcommand does not come to its end. -/
inductive Stop
  | failed (f : Failure)
  /-- It waits for what never comes. -/
  | endless
  deriving DecidableEq, Repr

abbrev Work (α : Type) := ExceptT Stop (StateM Shell) α

namespace Work

def fail {α : Type} (cause : Cause) : Work α := throw (.failed (.of cause))

/-- Goes on with a result, or ends the work with its failure. -/
def orFail {α : Type} : Except Failure α → Work α
  | .ok a => pure a
  | .error f => throw (.failed f)

def within {α : Type} (context : String) (work : Work α) : Work α :=
  tryCatch work fun
    | .failed f => throw (.failed (f.within context))
    | .endless => throw .endless

def say (lines : List LogLine) : Work Unit :=
  modify fun s => { s with log := s.log ++ lines }

def print (text : String) : Work Unit :=
  modify fun s => { s with printed := s.printed ++ text }

def onHost {α : Type} (m : OnHost α) : Work α :=
  modifyGet fun s =>
    let (a, host) := m.run s.host
    (a, { s with host })

def fromHost {α : Type} (m : OnHost (Except Failure α)) : Work α := do
  orFail (← onHost m)

/-- Starts to work on an interface, of which nothing is known yet. -/
def openInterface (interface : String) : Work Unit :=
  modify fun s => { s with timeline := { station := { interface }, now := s.timeline.now } }

def keep (keeper : Keeper) (credentials : Option Credentials) : Work Unit :=
  modify fun s =>
    match credentials with
    | none => s
    | some c =>
      let (spot, lines) := keeper.keep c s.spot
      { s with spot, log := s.log ++ lines }

/-- Gives a command to the station, whose job starts at once. -/
def command (pace : Pace) (keeper : Keeper) (c : Command) : Work Unit := do
  let t := (← get).timeline
  let done ← onHost (t.station.command c)
  say done.performed.opening
  keep keeper done.performed.credentials
  say done.performed.closing
  -- A failure is thrown only after its job, if there is one, has been set going.
  modify fun s =>
    { s with timeline := ⟨done.station, t.now, schedule pace t.now done.job⟩ }
  match done.performed.result with
  | .ok () => return
  | .error e => fail (.command e)

def await (w : Wait) : Work Unit := do
  let waited := (← get).timeline.await w
  modify fun s => { s with timeline := waited.timeline, jobLog := s.jobLog ++ waited.log }
  say (w.opening ++ w.closing waited.outcome)
  match waited.outcome.result? with
  | some (.ok ()) => return
  | some (.error e) => fail (.command e)
  | none => throw .endless

def station : Work Station := return (← get).timeline.station

end Work

end Wlan.CommandLine
