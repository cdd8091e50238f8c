import Wlan.Manager.Command

/-!
# Settings

What is remembered between runs: the networks with their credentials, the interface to prefer, and
how long to wait. The networks form a list keyed by their names. Adding one removes the entries of
the same name and puts the new one last, so that a list once read with several entries of one name
keeps the others, and a look-up finds the first.
-/

set_option autoImplicit false

namespace Wlan

structure SavedNetwork where
  ssid : String
  password : Option String := none
  security : Security := .unsecured
  /-- The interface on which to join it. -/
  interface : Option String := none
  deriving DecidableEq, Repr

/-- How long the blocking waits may take, in seconds. -/
structure Patience where
  connectSeconds : Nat := 30
  leaseSeconds : Nat := 30
  deriving DecidableEq, Repr

namespace Patience

def connect (p : Patience) : Span := .ofSeconds p.connectSeconds

def lease (p : Patience) : Span := .ofSeconds p.leaseSeconds

end Patience

structure Settings where
  networks : List SavedNetwork := []
  defaultInterface : Option String := none
  patience : Patience := {}
  deriving DecidableEq, Repr

namespace Settings

def find? (s : Settings) (ssid : String) : Option SavedNetwork :=
  s.networks.find? (·.ssid == ssid)

/-- Remembers a network in place of those of the same name. -/
def add (s : Settings) (n : SavedNetwork) : Settings :=
  { s with networks := s.networks.filter (·.ssid != n.ssid) ++ [n] }

end Settings

end Wlan
