import Wlan.NetworkManager.AccessPoint
import Wlan.NetworkManager.Connection

/-!
# Jobs

A request that was taken is worked off by a job in the background, which runs the tool and reports
by events. A job is seen from outside as a list of acts in their order: what it reports, what it
logs, what it publishes, and where it pauses. Since a job hears nothing from its caller, that list
depends on the host alone, and an interleaving of a job with anything else is an interleaving of
its acts.

Every job reports how it ended exactly once, whatever the tool does. For a scan that report is the
last act; the job of an association goes on afterwards and waits for a lease.
-/

set_option autoImplicit false

namespace Wlan.NetworkManager

/-- What a job does that others can see. -/
inductive Act
  | report (e : Event)
  /-- Makes known what the scan found. -/
  | publish (found : List AccessPoint)
  | remark (line : LogLine)
  | pause (millis : Nat)

/-! ## Scanning -/

/-- The end of a scan: every access point, then what was found as a whole, then that it is over.
A listing that failed reports none and publishes nothing. -/
def scanActs (interface : String) : Except Failure (List AccessPoint) → List Act
  | .ok found =>
    found.map (fun a => .report (.scanResult a.sighting))
      ++ [.publish found, .report (.scanDone statusOk)]
  | .error f =>
    [.remark (.error ("nmcli scan on " ++ interface ++ " failed: " ++ f.message)),
      .report (.scanDone statusFailed)]

def scanJob (interface : String) : OnHost (List Act) := do
  return .pause scanPause :: scanActs interface (← scan interface)

/-! ## Associating -/

/-- The time between two looks for a lease, in milliseconds. -/
def pollInterval : Nat := 500

/-- The time after which no lease is looked for any more, in milliseconds. -/
def pollLimit : Nat := 30000

/-- What a look at the device shows: an address, none so far, or a failure that the next look may
not repeat. -/
def lookForLease (interface : String) : OnHost (Except Failure (Option Ipv4)) := do
  return (← status interface).bind DeviceStatus.ipv4

/-- Looks for a lease until there is one or the limit is reached, `elapsed` milliseconds after the
first look: the address if one was found, and the acts on the way. -/
def pollFrom (interface : String) (elapsed : Nat) : OnHost (Option Ipv4 × List Act) := do
  if elapsed < pollLimit then
    match ← lookForLease interface with
    | .ok (some ip) => return (some ip, [])
    | .ok none =>
      let (ip, acts) ← pollFrom interface (elapsed + pollInterval)
      return (ip, .pause pollInterval :: acts)
    | .error f =>
      -- A look that fails costs its pause like any other and ends nothing.
      let (ip, acts) ← pollFrom interface (elapsed + pollInterval)
      return (ip, .remark (.debug ("Polling " ++ interface ++ " for an address: " ++ f.message))
        :: .pause pollInterval :: acts)
  else return (none, [])
  termination_by pollLimit - elapsed
  decreasing_by all_goals simp only [pollLimit, pollInterval] at *; omega

def leaseActs (interface : String) : Option Ipv4 → List Act
  | some ip => [.report (.leaseBound ip)]
  | none =>
    [.remark (.warn ("No IPv4 lease on " ++ interface ++ " after "
      ++ (Span.ofMillis pollLimit).text))]

def profileFor (interface : String) (a : Association) : Profile :=
  ⟨interface, a.ssid, a.key, a.security, a.protection⟩

def connectJob (interface : String) (a : Association) : OnHost (List Act) := do
  match ← join (profileFor interface a) with
  | .error f =>
    return [.remark (.debug ("nmcli connect to " ++ a.ssid ++ " failed: " ++ f.message)),
      .report (.connectResult statusFailed)]
  | .ok () =>
    let (ip, acts) ← pollFrom interface 0
    return .report (.connectResult statusOk) :: acts ++ leaseActs interface ip

/-! ## Leaving -/

/-- The end of leaving a network. To find nothing to leave is a failure too, but not worth more
than a remark. -/
def disconnectActs (interface : String) : Except Failure Unit → List Act
  | .ok () => [.report (.disconnectResult statusOk)]
  | .error f =>
    [.remark (match f.cause with
      | .interfaceNotActive _ => .debug (interface ++ " went down before the disconnect")
      | _ => .error ("nmcli disconnect on " ++ interface ++ " failed: " ++ f.message)),
      .report (.disconnectResult statusFailed)]

def disconnectJob (interface : String) : OnHost (List Act) := do
  return disconnectActs interface (← disconnect interface)

/-! ## Requests -/

/-- Takes a request or refuses it. A request that is taken comes with the acts of its job. A
disconnect looks at the device first: one that is disconnected already has nothing to leave, and
one that cannot be looked at is not left. -/
def request (interface : String) : Request → OnHost (Verdict × List Act)
  | .scan => do return (.accepted, ← scanJob interface)
  | .associate a => do
    if a.ssid = "" then return (.refused (.rejected "empty SSID"), [])
    else return (.accepted, ← connectJob interface a)
  | .disconnect => do
    match ← status interface with
    | .error f => return (.refused (.rejected f.message), [])
    | .ok s =>
      if s.isDisconnected then return (.refused .already, [])
      else return (.accepted, ← disconnectJob interface)

/-! ## What the acts of a job come to -/

def reports (acts : List Act) : List Event :=
  acts.filterMap fun
    | .report e => some e
    | _ => none

def remarks (acts : List Act) : List LogLine :=
  acts.filterMap fun
    | .remark line => some line
    | _ => none

/-- What is known of the latest scan after the acts. -/
def published (before : List AccessPoint) (acts : List Act) : List AccessPoint :=
  acts.foldl (fun known act => match act with | .publish found => found | _ => known) before

end Wlan.NetworkManager
