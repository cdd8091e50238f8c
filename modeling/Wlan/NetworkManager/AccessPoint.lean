import Wlan.Json
import Wlan.NetworkManager.Host
import Wlan.NetworkManager.Terse
import Wlan.Text.Column

/-!
# Access points

What a scan finds. The listing has one row for every access point, so that a network with several
of them is listed several times, and it is kept so: nothing is merged. A row without a name
belongs to a hidden network and is left out. The strongest access points come first, and those of
equal strength stay in the order of the listing.
-/

set_option autoImplicit false

namespace Wlan.NetworkManager

structure AccessPoint where
  ssid : String
  channel : Option UInt8
  /-- Strength in per cent. -/
  signal : UInt8
  security : Security
  deriving DecidableEq, Repr

namespace AccessPoint

/-! ## Reading -/

/-- Reads the fields of a row. What follows the third field is the security column, whose colons
are put back. -/
def ofFields? : List (List Char) → Option AccessPoint
  | ssid :: channel :: signal :: security :: more =>
    if ssid = [] then none
    else some {
      ssid := String.ofList ssid
      channel := Text.readOctet? channel
      signal := (Text.readOctet? signal).getD 0
      security := .ofListing ([':'].intercalate (security :: more)) }
  | _ => none

def rows (text : String) : List AccessPoint :=
  (Text.lines text.toList).filterMap fun line => ofFields? (Terse.split line)

def atLeast (a b : AccessPoint) : Bool := b.signal ≤ a.signal

/-- The access points of a listing, strongest first. -/
def ofListing (text : String) : List AccessPoint :=
  (rows text).mergeSort atLeast

/-! ## Strength -/

/-- The approximate strength in dBm, from -100 at nothing to -50 at full. -/
def rssi (a : AccessPoint) : Int :=
  (min a.signal.toNat 100 / 2 : Nat) - 100

/-- What a scan reports of an access point. -/
def sighting (a : AccessPoint) : Sighting :=
  ⟨a.ssid, a.security, a.rssi, a.channel⟩

/-- Four blocks that show the strength. Above full strength none is shown. -/
def bars (signal : UInt8) : String :=
  if signal ≤ 100 ∧ 80 ≤ signal then "████"
  else if signal ≤ 79 ∧ 60 ≤ signal then "███░"
  else if signal ≤ 59 ∧ 40 ≤ signal then "██░░"
  else if signal ≤ 39 ∧ 20 ≤ signal then "█░░░"
  else "░░░░"

/-! ## Printing -/

/-- A name cut to `width` characters, the last three of which are then points. -/
def shortened (width : Nat) (s : String) : String :=
  if s.length > width then String.ofList (s.toList.take (width - 3)) ++ "..." else s

def tableRow (a : AccessPoint) : String :=
  Text.padRight 32 (shortened 32 a.ssid) ++ " "
    ++ Text.padLeft 4 (match a.channel with | some c => toString c.toNat | none => "-") ++ " "
    ++ Text.padLeft 5 (toString a.signal.toNat) ++ "% " ++ bars a.signal ++ " " ++ a.security.label

def table (found : List AccessPoint) : String :=
  if found.isEmpty then "No networks found.\n"
  else Text.printed
    ((Text.padRight 32 "SSID" ++ " " ++ Text.padLeft 4 "CHAN" ++ " " ++ Text.padLeft 6 "SIGNAL"
      ++ " SECURITY") :: Text.rule 60 :: found.map tableRow)

def record (a : AccessPoint) : Json.Record :=
  [("ssid", .text a.ssid),
    ("channel", match a.channel with | some c => .number c.toNat | none => .null),
    ("signal", .number a.signal.toNat),
    ("security", .text a.security.name)]

def json (found : List AccessPoint) : String :=
  Json.renderList (found.map record)

end AccessPoint

/-- The pause between asking for a scan and reading its listing, in milliseconds. -/
def scanPause : Nat := 500

def readAccessPoints (reply : Option Reply) : Except Failure (List AccessPoint) :=
  (listing "Failed to execute nmcli wifi list" reply).map AccessPoint.ofListing

/-- Scans. A scan that the adapter refuses still leaves the listing of the one before. -/
def scan (interface : String) : OnHost (Except Failure (List AccessPoint)) := do
  let _ ← Host.run (.rescan interface)
  return readAccessPoints (← Host.run (.listAccessPoints interface))

end Wlan.NetworkManager
