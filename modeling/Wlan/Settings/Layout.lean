import Wlan.Settings.Basic
import Wlan.Toml.Quote

/-!
# The layout of the settings file

How settings are written. What is absent is left out. Plain entries come before the tables, and
the networks are tables unless there are none, in which case an empty list says so; so the place
of the default interface depends on whether there are networks.

The format holds numbers of 64 bits with a sign, so that a wait of more seconds cannot be written.
-/

set_option autoImplicit false

namespace Wlan.Settings

/-- An entry on a line of its own. -/
def line (key : String) (value : List Char) : List Char :=
  key.toList ++ " = ".toList ++ value ++ ['\n']

/-- An entry whose value is a string. -/
def textLine (key s : String) : List Char := line key (Toml.quote s.toList)

/-- An entry that is left out if it has no value. -/
def textLine? (key : String) (s : Option String) : List Char :=
  match s with
  | some s => textLine key s
  | none => []

/-- A network, and the empty line after it. -/
def networkText (n : SavedNetwork) : List Char :=
  "[[networks]]\n".toList ++ textLine "ssid" n.ssid ++ textLine? "password" n.password
    ++ textLine "security" n.security.name ++ textLine? "interface" n.interface ++ ['\n']

def patienceText (p : Patience) : List Char :=
  "[wait]\n".toList ++ line "connect_timeout_secs" (toString p.connectSeconds).toList
    ++ line "dhcp_timeout_secs" (toString p.leaseSeconds).toList

/-- All that stands before the waits. -/
def headText (s : Settings) : List Char :=
  let interface := textLine? "default_interface" s.defaultInterface
  if s.networks.isEmpty then line "networks" "[]".toList ++ interface ++ ['\n']
  else interface ++ (if s.defaultInterface.isSome then ['\n'] else [])
    ++ s.networks.flatMap networkText

/-- The greatest number that can be written, one below the 63rd power of two. -/
def greatest : Nat := 9223372036854775807

def isWritable (s : Settings) : Bool :=
  s.patience.connectSeconds ≤ greatest && s.patience.leaseSeconds ≤ greatest

def render (s : Settings) : String :=
  String.ofList (headText s ++ patienceText s.patience)

/-- The settings in writing, unless a number is too large. -/
def render? (s : Settings) : Option String :=
  if s.isWritable then some s.render else none

end Wlan.Settings
