import Wlan.NetworkManager.Host
import Wlan.Text.Column

/-!
# Devices

The devices that NetworkManager knows, and the choice of the one to work on. A name, once given,
decides alone: it must be the name of a listed device, and the first device of that name must be a
wireless one. Without a name the first wireless device is taken.
-/

set_option autoImplicit false

namespace Wlan.NetworkManager

structure Device where
  name : String
  kind : String
  state : String
  deriving DecidableEq, Repr

namespace Device

/-- Reads a row: three parts at least, of which the first is not empty. Escapes are not undone
here, so that a colon always parts. -/
def ofRow? (row : List Char) : Option Device :=
  match Text.parts ':' row with
  | name :: kind :: state :: _ =>
    if name = [] then none
    else some ⟨String.ofList name, String.ofList kind, String.ofList state⟩
  | _ => none

def ofListing (text : String) : List Device :=
  (Text.lines text.toList).filterMap ofRow?

def isWireless (d : Device) : Bool := d.kind == "wifi"

/-- The device to work on. -/
def choose (devices : List Device) : Option String → Except Failure Device
  | some name =>
    match devices.find? (·.name == name) with
    | none => .error (.of (.interfaceNotFound name))
    | some d => if d.isWireless then .ok d else .error (.of (.interfaceNotWireless name))
  | none =>
    match devices.find? isWireless with
    | none => .error (.of .noWirelessInterface)
    | some d => .ok d

def table (devices : List Device) : String :=
  if devices.isEmpty then "No WiFi interfaces found.\n"
  else Text.printed ((Text.padRight 16 "INTERFACE" ++ " STATE") :: Text.rule 40
    :: devices.map fun d => Text.padRight 16 d.name ++ " " ++ d.state)

end Device

def readDevices (reply : Option Reply) : Except Failure (List Device) :=
  (listing "Failed to execute nmcli" reply).map Device.ofListing

def listDevices : OnHost (Except Failure (List Device)) := do
  return readDevices (← Host.run .listDevices)

def listWireless : OnHost (Except Failure (List Device)) := do
  return (← listDevices).map (·.filter Device.isWireless)

/-- Finds the device to work on. -/
def resolve (name : Option String) : OnHost (Except Failure Device) := do
  return (← listDevices).bind fun devices => Device.choose devices name

end Wlan.NetworkManager
