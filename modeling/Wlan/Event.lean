import Wlan.Ipv4
import Wlan.Security

/-!
# Events

What a network-management stack reports back. Every event is of one kind, and it is by kinds that
listeners say what they want to hear.
-/

set_option autoImplicit false

namespace Wlan

inductive Kind
  | scanResult
  | scanDone
  | connectResult
  | disconnectResult
  | targetWakeTime
  | rawScanResult
  | leaseBound
  deriving DecidableEq, Repr

namespace Kind

/-- Every kind, in the order of their bits. -/
def all : List Kind :=
  [scanResult, scanDone, connectResult, disconnectResult, targetWakeTime, rawScanResult,
    leaseBound]

theorem mem_all (k : Kind) : k ∈ all := by
  cases k <;> decide

/-- The bit of a kind. Wireless kinds share the low half of a word, addressing has the high one. -/
def bit : Kind → Nat
  | scanResult => 0
  | scanDone => 1
  | connectResult => 2
  | disconnectResult => 3
  | targetWakeTime => 4
  | rawScanResult => 5
  | leaseBound => 16

theorem bit_injective {j k : Kind} (h : j.bit = k.bit) : j = k := by
  cases j <;> cases k <;> first | rfl | exact absurd h (by decide)

def label : Kind → String
  | scanResult => "WifiScanResult"
  | scanDone => "WifiScanDone"
  | connectResult => "WifiConnectResult"
  | disconnectResult => "WifiDisconnectResult"
  | targetWakeTime => "WifiTwt"
  | rawScanResult => "WifiRawScanResult"
  | leaseBound => "Ipv4DhcpBound"

end Kind

/-- A network heard during a scan. -/
structure Sighting where
  ssid : String
  security : Security
  /-- Received strength in dBm. -/
  rssi : Int
  channel : Option UInt8
  deriving DecidableEq, Repr

def statusOk : Int := 0

/-- The status of a job whose command failed. -/
def statusFailed : Int := -1

/-- Octets are compared as the core library does it, whatever else is imported. -/
instance decidableEqOctets : DecidableEq ByteArray := ByteArray.decEq

/-- What the stack reports. -/
inductive Event
  | scanResult (found : Sighting)
  | scanDone (status : Int)
  | connectResult (status : Int)
  | disconnectResult (status : Int)
  | targetWakeTime
  | rawScanResult (frame : ByteArray)
  | leaseBound (address : Ipv4)
  deriving DecidableEq

def Event.kind : Event → Kind
  | scanResult _ => .scanResult
  | scanDone _ => .scanDone
  | connectResult _ => .connectResult
  | disconnectResult _ => .disconnectResult
  | targetWakeTime => .targetWakeTime
  | rawScanResult _ => .rawScanResult
  | leaseBound _ => .leaseBound

end Wlan
