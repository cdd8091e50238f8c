import Wlan.Text.Blank
import Wlan.Text.Lines

/-!
# Security of a network

How a network is secured has five spellings: the number that a management layer reports, the label
shown to people, the name in the settings file, what a person may type, and the column of a
listing. All five are functions on one type here, so that no two of them can disagree about which
kinds exist.

The listing column names every mode an access point offers, in any order; `ofListing` takes the
strongest. What it looks for are stretches of the whole column, which is enough because no mode's
name contains a blank.
-/

set_option autoImplicit false

namespace Wlan

inductive Security
  | unsecured
  | psk
  | pskSha256
  | sae
  | wapiPsk
  | eap
  | wep
  | wpaPsk
  | unknown
  deriving DecidableEq, Repr

namespace Security

/-- Every kind, in the order of their numbers; the unknown kind, which has none of them, last. -/
def all : List Security :=
  [unsecured, psk, pskSha256, sae, wapiPsk, eap, wep, wpaPsk, unknown]

theorem mem_all (s : Security) : s ∈ all := by
  cases s <;> decide

def code : Security → Int
  | unsecured => 0
  | psk => 1
  | pskSha256 => 2
  | sae => 3
  | wapiPsk => 4
  | eap => 5
  | wep => 6
  | wpaPsk => 7
  | unknown => -1

/-- The kind of a number; a number that belongs to no kind means the unknown kind. -/
def ofCode : Int → Security
  | 0 => unsecured
  | 1 => psk
  | 2 => pskSha256
  | 3 => sae
  | 4 => wapiPsk
  | 5 => eap
  | 6 => wep
  | 7 => wpaPsk
  | _ => unknown

@[simp] theorem ofCode_code (s : Security) : ofCode s.code = s := by
  cases s <;> rfl

def label : Security → String
  | unsecured => "OPEN"
  | psk => "WPA2-PSK"
  | pskSha256 => "WPA2-PSK-SHA256"
  | sae => "WPA3-SAE"
  | wapiPsk => "WAPI"
  | eap => "EAP"
  | wep => "WEP"
  | wpaPsk => "WPA-PSK"
  | unknown => "UNKNOWN"

def name : Security → String
  | unsecured => "none"
  | psk => "psk"
  | pskSha256 => "psk-sha256"
  | sae => "sae"
  | wapiPsk => "wapi-psk"
  | eap => "eap"
  | wep => "wep"
  | wpaPsk => "wpa-psk"
  | unknown => "unknown"

/-- The kind that a name in the settings file stands for. -/
def ofName? (s : String) : Option Security :=
  all.find? fun kind => kind.name == s

@[simp] theorem ofName?_name (s : Security) : ofName? s.name = some s := by
  cases s <;> decide

/-- A text that names no kind, in lower case. -/
structure Unrecognized where
  text : String
  deriving DecidableEq, Repr

def Unrecognized.message (e : Unrecognized) : String :=
  "Unknown security type '" ++ e.text ++ "'"

/-- What a person may type for each kind, in lower case. The unknown kind cannot be asked for. -/
def aliases : List (String × Security) :=
  [("open", unsecured), ("none", unsecured),
    ("wpa2-psk", psk), ("wpa2", psk), ("psk", psk),
    ("wpa2-psk-sha256", pskSha256), ("psk-sha256", pskSha256),
    ("wpa3-sae", sae), ("wpa3", sae), ("sae", sae),
    ("wapi", wapiPsk), ("wapi-psk", wapiPsk),
    ("eap", eap), ("wpa2-eap", eap), ("802.1x", eap),
    ("wep", wep),
    ("wpa-psk", wpaPsk), ("wpa", wpaPsk)]

/-- The kind that a person means; ASCII letters may be of either case. -/
def parse (s : String) : Except Unrecognized Security :=
  let lower := String.ofList (s.toList.map Char.toLower)
  match aliases.lookup lower with
  | some kind => .ok kind
  | none => .error ⟨lower⟩

/-- The kind that a listing column shows: the strongest mode named in it, none if the column is
blank or a placeholder. -/
def ofListing (column : List Char) : Security :=
  let column := Text.trimmed column
  if column = [] ∨ column = ['-', '-'] then unsecured
  else if Text.occurs "802.1X".toList column then eap
  else if Text.occurs "WPA3".toList column then sae
  else if Text.occurs "WPA2".toList column then psk
  -- Whatever is left of this family is its first generation, with or without a number.
  else if Text.occurs "WPA".toList column then wpaPsk
  else if Text.occurs "WEP".toList column then wep
  else unknown

end Security

/-- Whether management frames are protected during an association. -/
inductive FrameProtection
  | disabled
  | optional
  | required
  deriving DecidableEq, Repr

namespace FrameProtection

def label : FrameProtection → String
  | disabled => "Disable"
  | optional => "Optional"
  | required => "Required"

end FrameProtection

end Wlan
