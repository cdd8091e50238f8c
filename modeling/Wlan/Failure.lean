import Wlan.Manager.Command

/-!
# Failures

What can go wrong outside the link: with the interface, with the tool, with the settings file. A
failure has a cause and the contexts in which it arose, outermost first, and its text is all of
them joined. Two causes have no wording of their own, since the context says all there is to say.
-/

set_option autoImplicit false

namespace Wlan

/-- What the operating system objects to. -/
inductive SystemFault
  | noSuchFile
  | fileExists
  | isDirectory
  | notUtf8
  | permissionDenied
  | nulInArgument
  | argumentsTooLong
  deriving DecidableEq, Repr

def SystemFault.message : SystemFault → String
  | noSuchFile => "No such file or directory (os error 2)"
  | fileExists => "File exists (os error 17)"
  | isDirectory => "Is a directory (os error 21)"
  | notUtf8 => "stream did not contain valid UTF-8"
  | permissionDenied => "Permission denied (os error 13)"
  | nulInArgument => "nul byte found in provided data"
  | argumentsTooLong => "Argument list too long (os error 7)"

inductive Cause
  | noWirelessInterface
  | interfaceNotFound (name : String)
  | interfaceNotWireless (name : String)
  | interfaceNotActive (name : String)
  | toolFailed (complaint : String)
  | unreadableAnswer (what : String)
  | system (fault : SystemFault)
  | command (error : CommandError)
  | associationFailed (ssid : String)
  | malformedSettings
  | numberTooLarge
  deriving DecidableEq, Repr

/-- The wording of a cause, if it has one. -/
def Cause.message? : Cause → Option String
  | noWirelessInterface => some "No WiFi interface found"
  | interfaceNotFound name => some ("Interface '" ++ name ++ "' not found")
  | interfaceNotWireless name => some ("Interface '" ++ name ++ "' is not a WiFi device")
  | interfaceNotActive name => some ("Interface '" ++ name ++ "' is not active")
  | toolFailed complaint => some ("Failed to execute nmcli: " ++ complaint)
  | unreadableAnswer what => some ("Failed to parse nmcli output: " ++ what)
  | system fault => some fault.message
  | command error => some error.message
  | associationFailed ssid => some ("Connection to '" ++ ssid ++ "' failed")
  | malformedSettings => none
  | numberTooLarge => none

/-- A cause and the contexts in which it arose, outermost first. -/
structure Failure where
  contexts : List String
  cause : Cause
  deriving DecidableEq, Repr

namespace Failure

def of (cause : Cause) : Failure := ⟨[], cause⟩

/-- The failure seen from one context further out. -/
def within (context : String) (f : Failure) : Failure := ⟨context :: f.contexts, f.cause⟩

def message (f : Failure) : String :=
  ": ".intercalate (f.contexts ++ f.cause.message?.toList)

end Failure

end Wlan
