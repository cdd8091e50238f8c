import Wlan.Event

/-!
# Masks

A mask is a set of event kinds held as the bits of one number, which is also how it is shown. The
lemmas say what each way of building a mask does to membership; after them nobody needs the bits.
-/

set_option autoImplicit false

namespace Wlan

structure Mask where
  bits : Nat
  deriving DecidableEq, Repr

namespace Mask

def empty : Mask := ⟨0⟩

def only (k : Kind) : Mask := ⟨1 <<< k.bit⟩

def union (m n : Mask) : Mask := ⟨m.bits ||| n.bits⟩

def insert (m : Mask) (k : Kind) : Mask := m.union (only k)

def contains (m : Mask) (k : Kind) : Bool := m.bits.testBit k.bit

def kinds (m : Mask) : List Kind := Kind.all.filter m.contains

def ofKinds (ks : List Kind) : Mask := ks.foldl insert empty

/-- All that the radio reports. -/
def wireless : Mask :=
  ofKinds [.scanResult, .scanDone, .connectResult, .disconnectResult, .targetWakeTime,
    .rawScanResult]

/-- All that addressing reports. -/
def addressing : Mask := only .leaseBound

@[simp] theorem contains_empty (k : Kind) : empty.contains k = false := by
  simp [contains, empty]

@[simp] theorem contains_only (j k : Kind) : (only j).contains k = decide (j = k) := by
  cases j <;> cases k <;> rfl

@[simp] theorem contains_union (m n : Mask) (k : Kind) :
    (m.union n).contains k = (m.contains k || n.contains k) := by
  simp [contains, union, Nat.testBit_or]

@[simp] theorem contains_insert (m : Mask) (j k : Kind) :
    (m.insert j).contains k = (m.contains k || decide (j = k)) := by
  simp [insert]

/-- The two standing masks part the kinds between them. -/
theorem contains_wireless (k : Kind) : wireless.contains k = !addressing.contains k := by
  cases k <;> rfl

end Mask

end Wlan
