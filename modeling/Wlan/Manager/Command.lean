import Wlan.Link
import Wlan.Span

/-!
# Commands

A command asks the stack for something and comes back at once; what became of it arrives later,
as an event. The effect of a command on the link has two parts with a gap between them. `submit`
marks what is now outstanding, before the stack hears of the request; `settle` takes the mark back
where the stack refused. Events may be delivered in the gap, so neither part may assume anything
about the link the other one left, and each sets no more than its own mark.

`perform` is the command as a caller sees it, with the events that the stack delivered before it
answered put into the gap.
-/

set_option autoImplicit false

namespace Wlan

/-! ## Requests and what becomes of them -/

structure Credentials where
  ssid : String
  key : Option String
  security : Security
  deriving DecidableEq, Repr

/-- The channel number that leaves the choice to the stack. -/
def anyChannel : UInt8 := 255

structure Association where
  ssid : String
  key : Option String
  security : Security
  protection : FrameProtection
  channel : UInt8
  /-- How long the stack may try; absent if that is left to the stack. -/
  timeout : Option Span
  deriving DecidableEq, Repr

inductive Request
  | scan
  | associate (parameters : Association)
  | disconnect
  deriving DecidableEq, Repr

inductive Refusal
  /-- The interface is already in the state that was asked for. -/
  | already
  | rejected (why : String)
  deriving DecidableEq, Repr

def Refusal.message : Refusal → String
  | already => "Operation already done"
  | rejected why => why

/-- The stack's immediate word on a request. -/
inductive Verdict
  | accepted
  | refused (why : Refusal)
  deriving DecidableEq, Repr

/-- How a stack reacts to a request: the events it delivers before it answers, and its word. -/
structure Answer where
  events : List Event
  verdict : Verdict

inductive CommandError
  | emptySsid
  | refused (why : String)
  | timedOut (limit : Span)
  | waitInProgress
  deriving DecidableEq, Repr

def CommandError.message : CommandError → String
  | emptySsid => "Invalid argument: SSID must not be empty"
  | refused why => "Request rejected by network stack: " ++ why
  | timedOut limit => "Timed out after " ++ limit.text
  | waitInProgress => "Another blocking wait is already in progress"

/-! ## Commands -/

/-- What a caller can ask of a manager. -/
inductive Command
  | scan
  | connect (credentials : Credentials)
  | disconnect
  deriving DecidableEq, Repr

/-- The association that credentials ask for. With a key, protected management frames are asked
for where the network offers them; without one the network is joined as an open one, whatever
security was named. -/
def Credentials.association (c : Credentials) : Association where
  ssid := c.ssid
  key := c.key
  security := if c.key.isSome then c.security else .unsecured
  protection := if c.key.isSome then .optional else .disabled
  channel := anyChannel
  timeout := none

namespace Command

/-- The request of a command. Only an empty network name makes a command fail before the stack
hears of it. -/
def request : Command → Except CommandError Request
  | scan => .ok .scan
  | connect c => if c.ssid = "" then .error .emptySsid else .ok (.associate c.association)
  | disconnect => .ok .disconnect

/-- The credentials that a command hands to whoever keeps them, just as the caller gave them. -/
def credentials? : Command → Option Credentials
  | connect c => if c.ssid = "" then none else some c
  | _ => none

/-- What is logged before the request. The key itself is never logged. -/
def opening : Command → List LogLine
  | connect c =>
    let a := c.association
    [.debug ("Connecting to " ++ c.ssid),
      .debug ("ssid: " ++ a.ssid ++ ", psk: " ++ (if a.key.isSome then "<set>" else "<none>")
        ++ ", security: " ++ a.security.label ++ ", mfp: " ++ a.protection.label)]
  | _ => []

/-- What is logged when the stack has answered. -/
def closing : Command → Verdict → List LogLine
  | scan, .accepted => [.info "Scan requested"]
  | scan, .refused why => [.error ("Scan request failed: " ++ why.message)]
  | connect _, .accepted => [.debug "Connection requested"]
  | connect _, .refused why => [.debug ("Connection request failed: " ++ why.message)]
  | disconnect, .accepted => [.info "Disconnect requested"]
  | disconnect, .refused .already => [.info "Already disconnected"]
  | disconnect, .refused why => [.error ("Disconnect request failed: " ++ why.message)]

/-- What the caller gets. To be disconnected already is what a disconnect wants. -/
def result : Command → Verdict → Except CommandError Unit
  | _, .accepted => .ok ()
  | disconnect, .refused .already => .ok ()
  | _, .refused why => .error (.refused why.message)

end Command

/-! ## What a command does to the link -/

namespace Link

/-- Marks what a command leaves outstanding, before the stack hears of it. -/
def submit (link : Link) : Command → Link
  | .scan => { link with scanning := true }
  | .connect _ => { link with connecting := true }
  | .disconnect => { link with disconnecting := true }

/-- Takes the mark back where the stack refused. A scan stays marked: its end is waited for
whether or not the request was taken. -/
def settle (link : Link) : Command → Verdict → Link
  | _, .accepted => link
  | .scan, .refused _ => link
  | .connect _, .refused _ => { link with connecting := false }
  | .disconnect, .refused _ => { link with disconnecting := false }

@[simp] theorem settle_accepted (link : Link) (c : Command) : link.settle c .accepted = link := by
  cases c <;> rfl

end Link

/-- A command as its caller sees it. -/
structure Performed where
  link : Link
  result : Except CommandError Unit
  /-- What the stack was asked, if it was. -/
  request : Option Request
  /-- What was handed to whoever keeps credentials, before the request. -/
  credentials : Option Credentials
  /-- What was logged before that. -/
  opening : List LogLine
  /-- What was logged after it. -/
  closing : List LogLine

def Performed.log (p : Performed) : List LogLine := p.opening ++ p.closing

/-- Performs a command on a link whose stack answers as given. -/
def Command.perform (link : Link) (c : Command) (answer : Answer) : Performed :=
  match c.request with
  | .error e => ⟨link, .error e, none, none, [], []⟩
  | .ok request =>
    let submitted := link.submit c
    { link := (submitted.deliverAll answer.events).settle c answer.verdict
      result := c.result answer.verdict
      request := some request
      credentials := c.credentials?
      opening := c.opening
      closing := submitted.deliveryLogs answer.events ++ c.closing answer.verdict }

end Wlan
