import Wlan.Manager.Command

/-!
# Waits

A wait blocks its caller until a condition on the link holds or a deadline passes. What it waits
for and how long it may take are one value; only the wait for the end of a scan has no limit.

Limits are spans and deadlines are moments of a clock that can be read up to a last moment. A
limit that reaches past that moment sets no deadline at all, since no reading of the clock could
ever show that it has passed.
-/

set_option autoImplicit false

namespace Wlan

/-- A moment of the clock, in nanoseconds since it was started. -/
abbrev Moment := Nat

/-- The clock counts its seconds in 63 bits; from this moment on it cannot be read. -/
def clockEnd : Moment := 9223372036854775808 * 1000000000

theorem clockEnd_pos : 0 < clockEnd := by decide

/-- The moment at which a limit that starts now runs out. -/
def deadline? (now : Moment) (limit : Option Span) : Option Moment :=
  match limit with
  | none => none
  | some span => if now + span.nanos < clockEnd then some (now + span.nanos) else none

def hasPassed (deadline : Option Moment) (now : Moment) : Bool :=
  match deadline with
  | none => false
  | some moment => moment ≤ now

inductive Wait
  | scanDone
  | connecting (limit : Span)
  | disconnecting (limit : Span)
  | lease (limit : Span)
  deriving DecidableEq, Repr

/-- How a wait ends, as far as it does. -/
inductive Outcome
  | done
  | timedOut (limit : Span)
  /-- Another wait has the only slot. -/
  | turnedAway
  /-- Nothing would ever end the wait. -/
  | endless
  deriving DecidableEq, Repr

/-- What the caller gets from a wait that ended. -/
def Outcome.result? : Outcome → Option (Except CommandError Unit)
  | done => some (.ok ())
  | timedOut limit => some (.error (.timedOut limit))
  | turnedAway => some (.error .waitInProgress)
  | endless => none

namespace Wait

def pending : Wait → Link → Bool
  | scanDone, link => link.scanning
  | connecting _, link => link.connecting
  | disconnecting _, link => link.disconnecting
  | lease _, link => !link.leased

def limit? : Wait → Option Span
  | scanDone => none
  | connecting limit => some limit
  | disconnecting limit => some limit
  | lease limit => some limit

/-- The moment at which the wait gives up if it starts now. -/
def deadline? (w : Wait) (now : Moment) : Option Moment :=
  Wlan.deadline? now w.limit?

/-- How the wait ends when its deadline passes. A wait without a limit has no deadline, so that
nothing ends it. -/
def expiry (w : Wait) : Outcome :=
  match w.limit? with
  | some limit => .timedOut limit
  | none => .endless

def opening : Wait → List LogLine
  | connecting _ => [.debug "Waiting for connection to be established"]
  | lease _ => [.debug "Waiting for DHCP to be configured"]
  | _ => []

def closing : Wait → Outcome → List LogLine
  | connecting _, .done => [.info "Connecting established"]
  | connecting _, .timedOut _ => [.error "Connecting timed out"]
  | disconnecting _, .timedOut _ => [.error "Disconnecting timed out"]
  | lease _, .done => [.info "DHCP configuration established"]
  | lease _, .timedOut _ => [.error "DHCP configuration timed out"]
  | _, _ => []

end Wait

end Wlan
