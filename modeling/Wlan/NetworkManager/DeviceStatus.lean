import Wlan.Json
import Wlan.NetworkManager.Host
import Wlan.Text.Column

/-!
# Device status

What the tool shows of one device: a key and a value on each line, parted by the first colon. For
each key that matters the last line that says something counts. A placeholder says nothing, except
for the state, which is taken as it stands.
-/

set_option autoImplicit false

namespace Wlan.NetworkManager

structure DeviceStatus where
  interface : String
  /-- As shown, for example `100 (connected)`. -/
  state : String
  connection : Option String
  /-- The first IPv4 address with its mask length. -/
  address : Option String
  gateway : Option String
  deriving DecidableEq, Repr

namespace DeviceStatus

/-- What is known of a device of which nothing was shown. -/
def blank (interface : String) : DeviceStatus := ⟨interface, "unknown", none, none, none⟩

def isPresent (value : String) : Bool := value ≠ "" && value ≠ "--"

def note (s : DeviceStatus) (line : List Char) : DeviceStatus :=
  match Text.splitOnce ':' line with
  | none => s
  | some (key, value) =>
    let key := String.ofList key
    let value := String.ofList value
    -- The state comes before the check for placeholders, to which it is not subject.
    if key = "GENERAL.STATE" then { s with state := value }
    else if !isPresent value then s
    else if key = "GENERAL.CONNECTION" then { s with connection := some value }
    else if key = "IP4.ADDRESS[1]" then { s with address := some value }
    else if key = "IP4.GATEWAY" then { s with gateway := some value }
    else s

def ofLines (interface : String) (text : String) : DeviceStatus :=
  (Text.lines text.toList).foldl note (blank interface)

def isConnected (s : DeviceStatus) : Bool := "100".toList.isPrefixOf s.state.toList

/-- No profile is active and the device does not count as connected. -/
def isDisconnected (s : DeviceStatus) : Bool := s.connection.isNone && !s.isConnected

/-- The IPv4 address without its mask length, if one is shown. -/
def ipv4 (s : DeviceStatus) : Except Failure (Option Ipv4) :=
  match s.address with
  | none => .ok none
  | some shown =>
    match Ipv4.parse? (String.ofList (shown.toList.takeWhile (· ≠ '/'))) with
    | some ip => .ok (some ip)
    | none => .error (.of (.unreadableAnswer ("bad IPv4 address '" ++ shown ++ "'")))

def display (s : DeviceStatus) : String :=
  Text.printed
    (["Interface: " ++ s.interface, "State:     " ++ s.state,
      "Connected: " ++ s.connection.getD "(none)"]
      ++ (s.address.map ("IP:        " ++ ·)).toList
      ++ (s.gateway.map ("Gateway:   " ++ ·)).toList)

def json (s : DeviceStatus) : String :=
  Json.renderRecord ""
    [("interface", .text s.interface), ("state", .text s.state),
      ("connection", .ofText? s.connection), ("ip_address", .ofText? s.address),
      ("gateway", .ofText? s.gateway)]

end DeviceStatus

def readStatus (interface : String) (reply : Option Reply) : Except Failure DeviceStatus :=
  (answered "Failed to execute nmcli device show" reply).map (DeviceStatus.ofLines interface)

def status (interface : String) : OnHost (Except Failure DeviceStatus) := do
  return readStatus interface (← Host.run (.showDevice interface))

end Wlan.NetworkManager
