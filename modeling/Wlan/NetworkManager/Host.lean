import Wlan.Failure
import Wlan.NetworkManager.Profile
import Wlan.Text.Blank
import Wlan.Text.Utf8

/-!
# Running the tool

Everything asked of NetworkManager goes through runs of its command-line tool. Which runs there
are is a type, and the argument list of each is a function of it, so that no run outside that list
can be made.

A host answers each run by what it was asked and by how often the same was asked before, or lacks
the tool altogether. It remembers what it was asked to run in its order. That a run was asked for
does not mean that it began: a host that has the tool may yet be unable to start it, with these
arguments or at this moment, and the next run may start again.
-/

set_option autoImplicit false

namespace Wlan.NetworkManager

/-! ## Runs -/

inductive Run
  | listDevices
  | rescan (interface : String)
  | listAccessPoints (interface : String)
  | showDevice (interface : String)
  | disconnect (interface : String)
  | deleteProfile (name : String)
  | addProfile (profile : Profile)
  | activateProfile (name : String)
  deriving DecidableEq, Repr

/-- What a run is about, its operands apart. -/
inductive Verb
  | listDevices
  | rescan
  | listAccessPoints
  | showDevice
  | disconnect
  | deleteProfile
  | addProfile
  | activateProfile
  deriving DecidableEq, Repr

namespace Run

def verb : Run → Verb
  | listDevices => .listDevices
  | rescan _ => .rescan
  | listAccessPoints _ => .listAccessPoints
  | showDevice _ => .showDevice
  | disconnect _ => .disconnect
  | deleteProfile _ => .deleteProfile
  | addProfile _ => .addProfile
  | activateProfile _ => .activateProfile

def arguments : Run → List String
  | listDevices => ["-t", "-f", "DEVICE,TYPE,STATE", "device"]
  | rescan interface => ["device", "wifi", "rescan", "ifname", interface]
  | listAccessPoints interface =>
    ["-t", "-f", "SSID,CHAN,SIGNAL,SECURITY", "device", "wifi", "list", "ifname", interface]
  | showDevice interface => ["-t", "device", "show", interface]
  | disconnect interface => ["device", "disconnect", interface]
  | deleteProfile name => ["connection", "delete", "id", name]
  | addProfile profile => profile.arguments
  | activateProfile name => ["connection", "up", "id", name]

end Run

/-! ## Replies -/

/-- How a run ended. -/
inductive Ending
  | exited (code : Int)
  /-- It could not even be started. -/
  | unstarted (fault : SystemFault)
  deriving DecidableEq

/-- An exit code stands for itself. -/
instance : Coe Int Ending := ⟨.exited⟩

instance (code : Nat) : OfNat Ending code := ⟨.exited code⟩

/-- What comes of a run. Of one that was not started nobody reads the streams. -/
structure Reply where
  out : ByteArray
  err : ByteArray
  ending : Ending
  deriving DecidableEq

namespace Reply

def succeeded (r : Reply) : Bool := r.ending == .exited 0

/-- The run was made, and reported a failure. -/
def failed (r : Reply) : Bool :=
  match r.ending with
  | .exited code => code != 0
  | .unstarted _ => false

def text (r : Reply) : String := Text.decodeLossy r.out

def errorText (r : Reply) : String := Text.decodeLossy r.err

/-- The complaint of a run that failed. Some complaints come on the output stream instead. -/
def complaint (r : Reply) : String :=
  let err := Text.trim r.errorText
  if err = "" then Text.trim r.text else err

end Reply

/-! ## Hosts -/

/-- A machine on which the tool can be run. -/
structure Host where
  /-- What comes of the n-th run (from 0) about a verb; absent if there is no such tool. -/
  script : Option (Verb → Nat → Reply)
  runs : List Run := []

abbrev OnHost (α : Type) := StateM Host α

namespace Host

def count (h : Host) (v : Verb) : Nat := h.runs.countP fun r => r.verb = v

/-- Runs the tool. Where there is none, nothing is run and there is no reply. -/
def run (r : Run) : OnHost (Option Reply) := fun h =>
  match h.script with
  | none => (none, h)
  | some script => (some (script r.verb (h.count r.verb)), { h with runs := h.runs ++ [r] })

end Host

/-- The reply of a run that was made, or the failure to start it seen from `context`. -/
def started (context : String) (reply : Option Reply) : Except Failure Reply :=
  match reply with
  | none => .error ⟨[context], .system .noSuchFile⟩
  | some r =>
    match r.ending with
    | .exited _ => .ok r
    | .unstarted fault => .error ⟨[context], .system fault⟩

/-- The text of a listing. A listing that failed shows its error stream as it stands. -/
def listing (context : String) (reply : Option Reply) : Except Failure String := do
  let r ← started context reply
  if r.succeeded then return r.text else throw (.of (.toolFailed r.errorText))

/-- The text of any other run, or its complaint. -/
def answered (context : String) (reply : Option Reply) : Except Failure String := do
  let r ← started context reply
  if r.succeeded then return r.text else throw (.of (.toolFailed r.complaint))

end Wlan.NetworkManager
