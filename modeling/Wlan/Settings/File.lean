import Wlan.Failure
import Wlan.Settings.Decode
import Wlan.Settings.Layout

/-!
# The settings file

The one file that settings are kept in. Of the file system only the spot matters where that file
belongs: nothing may be there, or a file, which may be sealed against writing, or a directory, or
the directory it would be in may itself be a file, so that nothing can be there at all.

Nothing there means the default settings, and so does a spot where nothing can be. Anything else
that is no settings file is a failure. Saving puts the whole file in place or leaves the spot as it
was: what could go wrong is found out before anything is written.
-/

set_option autoImplicit false

namespace Wlan

structure Place where
  directory : String
  file : String
  deriving DecidableEq, Repr

def Place.path (p : Place) : String := p.directory ++ "/" ++ p.file

inductive Spot
  | vacant
  | file (bytes : ByteArray)
  /-- A file that may be read but not written. -/
  | sealed (bytes : ByteArray)
  | directory
  /-- The directory of the place is a file. -/
  | blocked
  deriving DecidableEq

namespace Spot

/-- Whether a file can be put there. -/
def isOpen : Spot → Bool
  | vacant => true
  | file _ => true
  | sealed _ => false
  | directory => false
  | blocked => false

/-- What is in the way of writing a file where its directory is there. -/
def writeFault? : Spot → Option SystemFault
  | sealed _ => some .permissionDenied
  | directory => some .isDirectory
  | _ => none

end Spot

namespace Settings

/-- The settings in the octets of a file. -/
def read (place : Place) (bytes : ByteArray) : Except Failure Settings :=
  match String.fromUTF8? bytes with
  | none => .error ⟨["Failed to read config file: " ++ place.path], .system .notUtf8⟩
  | some text =>
    match parse? text with
    | none => .error ⟨["Failed to parse config file: " ++ place.path], .malformedSettings⟩
    | some s => .ok s

def load (place : Place) : Spot → Except Failure Settings
  | .vacant => .ok {}
  | .blocked => .ok {}
  | .directory =>
    .error ⟨["Failed to read config file: " ++ place.path], .system .isDirectory⟩
  | .file bytes => read place bytes
  | .sealed bytes => read place bytes

/-- Saves the settings: what is at the place afterwards, or why it is still what it was. -/
def save (place : Place) (s : Settings) (spot : Spot) : Except Failure Spot :=
  if spot = .blocked then
    .error ⟨["Failed to create config directory: " ++ place.directory], .system .fileExists⟩
  -- Where both the settings and the place are at fault, it is the settings that are reported.
  else match s.render? with
    | none => .error ⟨["Failed to serialize config"], .numberTooLarge⟩
    | some text =>
      match spot.writeFault? with
      | some fault => .error ⟨["Failed to write config file: " ++ place.path], .system fault⟩
      | none => .ok (.file text.toUTF8)

end Settings

/-! ## Keeping credentials -/

/-- What becomes of the credentials of connect attempts. -/
inductive Keeper
  | forgetful
  /-- Adds them to the settings file, for this interface. -/
  | filing (place : Place) (interface : Option String)
  deriving DecidableEq, Repr

namespace Keeper

/-- The network that credentials make known. -/
def entry (interface : Option String) (c : Credentials) : SavedNetwork :=
  ⟨c.ssid, c.key, c.security, interface⟩

/-- Adds credentials to the settings file. -/
def file (place : Place) (interface : Option String) (c : Credentials) (spot : Spot) :
    Except Failure Spot := do
  let s ← Settings.load place spot
  Settings.save place (s.add (entry interface c)) spot

/-- Keeps credentials: what is at the place afterwards, and what is logged. Whoever hands over
credentials does not hear of a failure. -/
def keep (k : Keeper) (c : Credentials) (spot : Spot) : Spot × List LogLine :=
  match k with
  | forgetful => (spot, [])
  | filing place interface =>
    match file place interface c spot with
    | .ok spot =>
      (spot, [.info ("Saved credentials for '" ++ c.ssid ++ "' to " ++ place.path)])
    | .error f =>
      (spot, [.error ("Failed to save credentials for '" ++ c.ssid ++ "': " ++ f.message)])

end Keeper

end Wlan
