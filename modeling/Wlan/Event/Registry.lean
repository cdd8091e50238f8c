import Wlan.Event.Mask

/-!
# Registries

A registry holds subscribers in the order in which they were added. An event goes to every
subscriber whose mask contains its kind, and a subscriber may add further ones whenever it is
called. Those hear later events only: who receives an event is settled before the first
subscriber is called, and what they add is appended in the order of the calls.

A subscriber is therefore more than a name and a mask. It also holds what it adds when called,
which are subscribers of the same sort, so that additions can nest to any depth.
-/

set_option autoImplicit false

namespace Wlan

/-- Someone who listens for events, and what they add to the registry whenever they are called. -/
inductive Subscriber (α : Type)
  | mk (name : α) (mask : Mask) (adds : List (Subscriber α))

instance {α : Type} [Inhabited α] : Inhabited (Subscriber α) := ⟨.mk default .empty []⟩

namespace Subscriber

variable {α : Type}

def name : Subscriber α → α
  | mk n _ _ => n

def mask : Subscriber α → Mask
  | mk _ m _ => m

def adds : Subscriber α → List (Subscriber α)
  | mk _ _ a => a

def wants (s : Subscriber α) (e : Event) : Bool :=
  s.mask.contains e.kind

end Subscriber

/-- Subscribers in the order in which they were added. -/
structure Registry (α : Type) where
  subscribers : List (Subscriber α)

namespace Registry

variable {α : Type}

def empty : Registry α := ⟨[]⟩

def size (r : Registry α) : Nat := r.subscribers.length

def isEmpty (r : Registry α) : Bool := r.size == 0

def add (r : Registry α) (s : Subscriber α) : Registry α := ⟨r.subscribers ++ [s]⟩

/-- Those who receive the event, in the order of the calls. -/
def receivers (r : Registry α) (e : Event) : List (Subscriber α) :=
  r.subscribers.filter (·.wants e)

/-- Delivers an event: who was called, and the registry afterwards. -/
def dispatch (r : Registry α) (e : Event) : List (Subscriber α) × Registry α :=
  let called := r.receivers e
  (called, ⟨r.subscribers ++ called.flatMap Subscriber.adds⟩)

@[simp] theorem size_empty : (empty : Registry α).size = 0 := rfl

@[simp] theorem size_add (r : Registry α) (s : Subscriber α) : (r.add s).size = r.size + 1 := by
  simp [add, size]

end Registry

end Wlan
