import Wlan.Settings.Basic
import Wlan.Toml.Document

/-!
# Settings from a document

Which documents are settings. A group of settings may be given by name, as a table, or by
position, as an array whose missing tail takes the defaults. What the settings do not know is
ignored, but nothing they know may have another type. A kind of security may be named by a string
or by a table with one key, whose value is then empty.
-/

set_option autoImplicit false

namespace Wlan.Settings

open Toml (Value Entries)

/-- The values of a group's fields: by name from a table, by position from an array. A point in
time counts as a table in which nothing is known. -/
def fields (names : List String) : Value → Option (List (Option Value))
  | .table _ es => some (names.map fun name => es.lookup name)
  | .array _ vs => some ((List.range names.length).map fun i => vs[i]?)
  | .moment _ => some (names.map fun _ => none)
  | _ => none

/-- A field that must be a string if it is there. -/
def text? : Option Value → Option (Option String)
  | none => some none
  | some (.text s) => some (some s)
  | some _ => none

/-- A number of seconds, which has a default. -/
def seconds? (default : Nat) : Option Value → Option Nat
  | none => some default
  | some (.integer n) => if 0 ≤ n then some n.toNat else none
  | some _ => none

/-- A value that says nothing. -/
def isEmpty : Value → Bool
  | .table _ es => es.isEmpty
  | .array _ vs => vs.isEmpty
  | _ => false

def security? : Option Value → Option Security
  | none => some .unsecured
  | some (.text s) => Security.ofName? s
  | some (.table _ [(name, v)]) => if isEmpty v then Security.ofName? name else none
  | some _ => none

def network? (v : Value) : Option SavedNetwork := do
  match ← fields ["ssid", "password", "security", "interface"] v with
  | [some (.text ssid), password, security, interface] =>
    return {
      ssid
      password := ← text? password
      security := ← security? security
      interface := ← text? interface }
  | _ => none

def networks? : Option Value → Option (List SavedNetwork)
  | none => some []
  | some (.array _ vs) => vs.mapM network?
  | some _ => none

def patience? : Option Value → Option Patience
  | none => some {}
  | some v => do
    match ← fields ["connect_timeout_secs", "dhcp_timeout_secs"] v with
    | [connect, lease] =>
      return ⟨← seconds? 30 connect, ← seconds? 30 lease⟩
    | _ => none

def ofEntries? (es : Entries) : Option Settings := do
  return {
    networks := ← networks? (es.lookup "networks")
    defaultInterface := ← text? (es.lookup "default_interface")
    patience := ← patience? (es.lookup "wait") }

def parse? (text : String) : Option Settings := do
  ofEntries? (← Toml.parse? text)

end Wlan.Settings
