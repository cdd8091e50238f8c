import Wlan.Manager.Session
import Wlan.NetworkManager.Station

/-!
# Caller and job

A command leaves a job behind, and a caller who waits for its outcome waits while the acts of that
job happen. Every act gets the moment at which it happens, which the pauses before it decide. What
a pause costs the caller is the pace: as long as the pause in life, and nothing where the job only
pretends to pause.

A clock may have been running for any time when a caller starts (`Clock`), as long as it can still
be read.

A wait lets the acts happen one by one. It ends as soon as its condition holds, and otherwise when
the next act would come too late for its deadline; the acts that did not happen are left.
-/

set_option autoImplicit false

namespace Wlan.CommandLine

open NetworkManager

/-- What a pause of so many milliseconds costs a caller, in nanoseconds. -/
abbrev Pace := Nat → Nat

/-- A pause takes as long as it says. -/
def Pace.live : Pace := fun millis => millis * 1000000

/-- A pause takes no time. -/
def Pace.instant : Pace := fun _ => 0

/-- The clock of a caller: what it shows when the caller starts, and how pauses move it. -/
structure Clock where
  start : Moment
  readable : start < clockEnd
  pace : Pace

namespace Clock

/-- A clock that goes on by itself. -/
def live (start : Moment) (readable : start < clockEnd) : Clock := ⟨start, readable, .live⟩

/-- A clock that stands still. -/
def instant : Clock := ⟨0, clockEnd_pos, .instant⟩

end Clock

abbrev Due := Moment × Act

/-- The acts of a job that starts now, without its pauses. -/
def schedule (pace : Pace) (now : Moment) : List Act → List Due
  | [] => []
  | .pause millis :: rest => schedule pace (now + pace millis) rest
  | act :: rest => (now, act) :: schedule pace now rest

/-- A station with a job under way, and the caller's clock. -/
structure Timeline where
  station : Station
  now : Moment
  due : List Due := []

namespace Timeline

/-- How a wait ended, and what the job logged meanwhile. -/
structure Waited where
  outcome : Outcome
  timeline : Timeline
  log : List LogLine

/-- Waits while the acts in `due` happen. -/
def awaitFrom (w : Wait) (deadline : Option Moment) (station : Station) (now : Moment) :
    List Due → Waited
  | [] =>
    match Session.verdictOn w deadline station.link now, deadline with
    | some outcome, _ => ⟨outcome, ⟨station, now, []⟩, []⟩
    | none, some moment => ⟨w.expiry, ⟨station, moment, []⟩, []⟩
    | none, none => ⟨.endless, ⟨station, now, []⟩, []⟩
  | (moment, act) :: rest =>
    match Session.verdictOn w deadline station.link now with
    | some outcome => ⟨outcome, ⟨station, now, (moment, act) :: rest⟩, []⟩
    | none =>
      -- An act that falls on the deadline itself comes too late.
      if hasPassed deadline moment then
        ⟨w.expiry, ⟨station, deadline.getD now, (moment, act) :: rest⟩, []⟩
      else
        let (station, log) := station.apply act
        let waited := awaitFrom w deadline station (max now moment) rest
        { waited with log := log ++ waited.log }

def await (t : Timeline) (w : Wait) : Waited :=
  awaitFrom w (w.deadline? t.now) t.station t.now t.due

def finish (t : Timeline) : Station × List LogLine :=
  t.station.applyAll (t.due.map Prod.snd)

end Timeline

end Wlan.CommandLine
