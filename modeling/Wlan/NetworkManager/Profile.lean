import Wlan.Manager.Command

/-!
# Connection profiles

The tool joins a network through a named profile, which says how the network is secured. An
association gets a profile of its own, so that the key management asked for is applied and not
negotiated.

Whether a profile has a security setting at all is decided by `keyManagement?`, and a profile
without one joins an open network.
-/

set_option autoImplicit false

namespace Wlan.NetworkManager

/-- The key management of a kind of security; absent for a network without any. A kind that the
tool does not know is treated as a pre-shared key if there is a key, and as open if not. -/
def keyManagement? (security : Security) (hasKey : Bool) : Option String :=
  match security with
  | .unsecured => none
  | .wep => some "none"
  | .psk => some "wpa-psk"
  | .pskSha256 => some "wpa-psk"
  | .wpaPsk => some "wpa-psk"
  | .sae => some "sae"
  | .eap => some "wpa-eap"
  | .wapiPsk => if hasKey then some "wpa-psk" else none
  | .unknown => if hasKey then some "wpa-psk" else none

/-- The tool's number for the protection of management frames. -/
def frameProtectionNumber : FrameProtection → String
  | .disabled => "1"
  | .optional => "2"
  | .required => "3"

structure Profile where
  interface : String
  ssid : String
  key : Option String
  security : Security
  protection : FrameProtection
  deriving DecidableEq, Repr

namespace Profile

def nameFor (ssid : String) : String := "wifi-link-" ++ ssid

def name (p : Profile) : String := nameFor p.ssid

def keySetting (security : Security) : String :=
  if security = .wep then "wifi-sec.wep-key0" else "wifi-sec.psk"

/-- The security settings of a profile, each name followed by its value. -/
def securitySettings (p : Profile) : List String :=
  match keyManagement? p.security p.key.isSome with
  | none => []
  | some management =>
    ["wifi-sec.key-mgmt", management]
      ++ (match p.key with
        | some key => [keySetting p.security, key]
        | none => [])
      ++ (if p.security = .wep then [] else ["wifi-sec.pmf", frameProtectionNumber p.protection])

def arguments (p : Profile) : List String :=
  ["connection", "add", "type", "wifi", "con-name", p.name, "ifname", p.interface, "ssid", p.ssid]
    ++ p.securitySettings

end Profile

end Wlan.NetworkManager
