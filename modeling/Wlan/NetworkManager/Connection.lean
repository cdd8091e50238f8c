import Wlan.NetworkManager.DeviceStatus

/-!
# Joining and leaving a network

The runs that join a network and the run that leaves it. A profile left by an earlier attempt is
deleted first, whether or not there is one; then the profile is created, and only a profile that
was created is activated.
-/

set_option autoImplicit false

namespace Wlan.NetworkManager

def required (context : String) (reply : Option Reply) : Except Failure Unit :=
  match answered "Failed to execute nmcli" reply with
  | .ok _ => .ok ()
  | .error f => .error (f.within context)

def join (p : Profile) : OnHost (Except Failure Unit) := do
  let _ ← Host.run (.deleteProfile p.name)
  match required "Failed to create connection profile" (← Host.run (.addProfile p)) with
  | .error f => return .error f
  | .ok () =>
    return required "Failed to activate connection profile" (← Host.run (.activateProfile p.name))

/-- Whether a complaint means that there was nothing to leave. -/
def meansNotActive (complaint : String) : Bool :=
  Text.occurs "not active".toList complaint.toList

def readDisconnect (interface : String) (reply : Option Reply) : Except Failure Unit := do
  let r ← started "Failed to execute nmcli disconnect" reply
  if r.succeeded then return ()
  else if meansNotActive r.complaint then throw (.of (.interfaceNotActive interface))
  else throw (.of (.toolFailed r.complaint))

/-- Leaves the network that the device is in. The profile is kept. -/
def disconnect (interface : String) : OnHost (Except Failure Unit) := do
  return readDisconnect interface (← Host.run (.disconnect interface))

end Wlan.NetworkManager
