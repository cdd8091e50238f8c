import Wlan.Event.Registry
import Wlan.Log

/-!
# The link

What is known of one wireless interface, and what an event changes about it. An event never fails:
whatever it reports, the link afterwards is some link, and anything odd is only logged. So a
failed scan leaves the same link as an empty one.

Two listeners watch a link, one for the radio and one for addressing. What an event does to the
link (`hear`) and what is logged about it (`remarks`) are separate functions, since the second
depends on the first only through the link before the event.
-/

set_option autoImplicit false

namespace Wlan

/-- What is known of a wireless interface. -/
structure Link where
  /-- A connect request is outstanding. -/
  connecting : Bool := false
  /-- A disconnect request is outstanding. -/
  disconnecting : Bool := false
  /-- A scan has been asked for and its end not been seen. -/
  scanning : Bool := false
  /-- Results of the running scan so far. -/
  found : Nat := 0
  connected : Bool := false
  leased : Bool := false
  address : Option Ipv4 := none
  deriving DecidableEq, Repr

inductive Listener
  | radio
  | addressing
  deriving DecidableEq, Repr

namespace Link

/-! ## What an event does -/

/-- The radio's part of an event. A disconnect that nobody asked for leaves the link connected. -/
def hearRadio (link : Link) : Event → Link
  | .scanResult _ => { link with found := link.found + 1 }
  | .scanDone _ => { link with found := 0, scanning := false }
  | .connectResult status =>
    { link with connecting := false, connected := status == statusOk || link.connected }
  | .disconnectResult _ =>
    if link.disconnecting then { link with disconnecting := false, connected := false } else link
  | .targetWakeTime => link
  | .rawScanResult _ => link
  | .leaseBound _ => link

def hearAddressing (link : Link) : Event → Link
  | .leaseBound address => { link with address := some address, leased := true }
  | _ => link

def hear (link : Link) : Listener → Event → Link
  | .radio => link.hearRadio
  | .addressing => link.hearAddressing

/-! ## What is logged -/

def radioRemarks (link : Link) : Event → List LogLine
  | .scanResult found =>
    [.info ("SSID: " ++ found.ssid ++ ", Security: " ++ found.security.label ++ " ("
      ++ toString found.security.code ++ "), RSSI: " ++ toString found.rssi ++ " dBm")]
  | .scanDone status =>
    if status = statusOk then [] else [.error ("Scan request failed (" ++ toString status ++ ")")]
  | .connectResult status =>
    if status = statusOk then [.debug "Connected"]
    else [.debug ("Connection request failed (" ++ toString status ++ ")")]
  | .disconnectResult status =>
    if link.disconnecting then
      [.debug ("Disconnection request " ++ (if status = statusOk then "done" else "failed")
        ++ " (" ++ toString status ++ ")")]
    else [.debug "Disconnected"]
  | _ => []

def addressingRemarks : Event → List LogLine
  | .leaseBound address => [.info ("DHCP IP address: " ++ address.text)]
  | e => [.warn ("Unhandled event: " ++ e.kind.label)]

/-- What the listener logs when an event meets this link. -/
def remarks (link : Link) : Listener → Event → List LogLine
  | .radio => link.radioRemarks
  | .addressing => addressingRemarks

/-! ## Delivery -/

/-- The listeners of a link as the stack knows them. -/
def listeners : Registry Listener :=
  ⟨[.mk .radio .wireless [], .mk .addressing .addressing []]⟩

def hearers (e : Event) : List Listener :=
  (listeners.receivers e).map Subscriber.name

/-- The link after an event has been delivered to its listeners, in their order. -/
def deliver (link : Link) (e : Event) : Link :=
  (hearers e).foldl (fun l listener => l.hear listener e) link

def deliveryLog (link : Link) (e : Event) : List LogLine :=
  (hearers e).flatMap fun listener => link.remarks listener e

def deliverAll (link : Link) (es : List Event) : Link :=
  es.foldl deliver link

/-- What the delivery of several events logs, each as it meets the link that the earlier ones
left. -/
def deliveryLogs (link : Link) : List Event → List LogLine
  | [] => []
  | e :: es => link.deliveryLog e ++ (link.deliver e).deliveryLogs es

/-- Every event has exactly one hearer, and only a lease is addressing's. -/
theorem hearers_eq (e : Event) :
    hearers e = if e.kind = .leaseBound then [.addressing] else [.radio] := by
  cases e <;>
    simp [hearers, listeners, Registry.receivers, List.filter, Subscriber.wants, Subscriber.mask,
      Subscriber.name, Mask.contains_wireless, Mask.addressing, Event.kind]

@[simp] theorem deliver_leaseBound (link : Link) (address : Ipv4) :
    link.deliver (.leaseBound address) = { link with address := some address, leased := true } := by
  simp [deliver, hearers_eq, Event.kind, hear, hearAddressing]

/-- Every other event is heard by the radio alone. -/
theorem deliver_of_kind_ne {e : Event} (link : Link) (h : e.kind ≠ .leaseBound) :
    link.deliver e = link.hearRadio e := by
  simp [deliver, hearers_eq, h, hear]

/-- Whoever does not hear an event would make nothing of it. -/
theorem deliver_eq (link : Link) (e : Event) :
    link.deliver e = (link.hearRadio e).hearAddressing e := by
  cases e with
  | leaseBound address => exact deliver_leaseBound link address
  | _ => exact deliver_of_kind_ne link (by simp [Event.kind])

@[simp] theorem deliverAll_nil (link : Link) : link.deliverAll [] = link := rfl

@[simp] theorem deliverAll_cons (link : Link) (e : Event) (es : List Event) :
    link.deliverAll (e :: es) = (link.deliver e).deliverAll es := rfl

theorem deliverAll_append (link : Link) (es fs : List Event) :
    link.deliverAll (es ++ fs) = (link.deliverAll es).deliverAll fs := by
  simp [deliverAll]

end Link

end Wlan
