import Wlan.Manager.Wait
import Wlan.NetworkManager.Job

/-!
# Stations

A station is a link whose stack is NetworkManager, on one interface. A command on a station leaves
a job behind whose acts are still to come; `apply` lets one of them happen. Which of them happen
before the caller goes on is not for the station to say.
-/

set_option autoImplicit false

namespace Wlan.NetworkManager

structure Station where
  interface : String
  link : Link := {}
  lastScan : List AccessPoint := []

namespace Station

/-- What a command on a station comes to, its job apart. -/
structure Commanded where
  station : Station
  performed : Performed
  job : List Act

/-- Gives a command to a station. The stack answers a request before its job does anything, so
that nothing is delivered in between. -/
def command (s : Station) (c : Command) : OnHost Commanded := do
  let (verdict, job) ← match c.request with
    | .error _ => pure (.accepted, [])
    | .ok r => request s.interface r
  let p := c.perform s.link ⟨[], verdict⟩
  return ⟨{ s with link := p.link }, p, job⟩

/-- Lets one act of a job happen: the station afterwards and what is logged. -/
def apply (s : Station) : Act → Station × List LogLine
  | .report e => ({ s with link := s.link.deliver e }, s.link.deliveryLog e)
  | .publish found => ({ s with lastScan := found }, [])
  | .remark line => (s, [line])
  | .pause _ => (s, [])

def applyAll (s : Station) : List Act → Station × List LogLine
  | [] => (s, [])
  | a :: rest =>
    let (next, log) := s.apply a
    let (last, logs) := next.applyAll rest
    (last, log ++ logs)

end Station

end Wlan.NetworkManager
