import Wlan.Event.Registry

/-!
# Who receives an event

A registry over time. Subscribers are added from outside, and by other subscribers whenever these are
called. What a call adds is left open here: a `Step.dispatch` comes with the additions of each of its
calls, and nothing is assumed of them, so that a subscriber may add something else each time, and the
ones it adds may do the same. The dispatch of the program, where a subscriber adds what it holds, is
one of these steps (`dispatch_eq_step`).

Subscribers may be alike, and then only their places tell them apart. So a registration is known by
its number in the order of all registrations, which never changes, since a registry only grows at its
end (`subscribers_run`). What it receives in a run is then told from its mask and from what was
dispatched after the step that registered it, which is `registry_delivers`.
-/

set_option autoImplicit false

namespace Wlan

/-! ## Building masks -/

/-- A mask in the making. -/
inductive Mask.Build
  | empty
  | only (k : Kind)
  | insert (b : Build) (k : Kind)
  | union (b c : Build)

namespace Mask.Build

def mask : Build → Mask
  | empty => .empty
  | only k => .only k
  | insert b k => b.mask.insert k
  | union b c => b.mask.union c.mask

/-- The kinds that were put into it. -/
def kinds : Build → List Kind
  | empty => []
  | only k => [k]
  | insert b k => b.kinds ++ [k]
  | union b c => b.kinds ++ c.kinds

theorem contains_mask (b : Build) (k : Kind) : b.mask.contains k = true ↔ k ∈ b.kinds := by
  induction b with
  | empty => simp [mask, kinds]
  | only j => simp [mask, kinds, eq_comm (a := j)]
  | insert b j ih => simp [mask, kinds, ih, eq_comm (a := j)]
  | union b c ihb ihc => simp [mask, kinds, ihb, ihc]

end Mask.Build

namespace Registry

variable {α : Type}

/-! ## Steps -/

/-- The numbers of the registrations that receive the event, in the order of the calls. -/
def called (r : Registry α) (e : Event) : List Nat :=
  (List.range r.size).filter fun i => r.subscribers[i]?.any (·.wants e)

/-- What is done with a registry. In a dispatch the call of each number, from 0, adds these. -/
inductive Step (α : Type)
  | add (s : Subscriber α)
  | dispatch (e : Event) (adds : Nat → List (Subscriber α))

/-- So many calls, one after the other, each of which adds its subscribers one by one. -/
def callAll (r : Registry α) (adds : Nat → List (Subscriber α)) (calls : Nat) : Registry α :=
  (List.range calls).foldl (fun r n => (adds n).foldl add r) r

/-- Who is called is settled when the dispatch begins. -/
def step (r : Registry α) : Step α → Registry α
  | .add s => r.add s
  | .dispatch e adds => r.callAll adds (r.called e).length

def run (r : Registry α) (ts : List (Step α)) : Registry α := ts.foldl step r

/-! ## Registrations -/

/-- Those whom a step registers, in their order. -/
def newcomers (r : Registry α) : Step α → List (Subscriber α)
  | .add s => [s]
  | .dispatch e adds => (List.range (r.called e).length).flatMap adds

/-- All registrations of a run, in their order. -/
def registrations : Registry α → List (Step α) → List (Subscriber α)
  | _, [] => []
  | r, t :: ts => r.newcomers t ++ registrations (r.step t) ts

theorem subscribers_foldl_add (r : Registry α) (ss : List (Subscriber α)) :
    (ss.foldl add r).subscribers = r.subscribers ++ ss := by
  induction ss generalizing r with
  | nil => simp
  | cons s ss ih => simp [ih, add]

theorem subscribers_callAll (r : Registry α) (adds : Nat → List (Subscriber α)) (calls : Nat) :
    (r.callAll adds calls).subscribers = r.subscribers ++ (List.range calls).flatMap adds := by
  induction calls with
  | zero => simp [callAll]
  | succ calls ih =>
    have hlast : r.callAll adds (calls + 1) = (adds calls).foldl add (r.callAll adds calls) := by
      simp [callAll, List.range_succ]
    rw [hlast, subscribers_foldl_add, ih, List.range_succ, List.flatMap_append, List.append_assoc]
    simp

/-- A step leaves the registrations before it in their places. -/
theorem subscribers_step (r : Registry α) (t : Step α) :
    (r.step t).subscribers = r.subscribers ++ r.newcomers t := by
  cases t with
  | add s => rfl
  | dispatch e adds => exact subscribers_callAll r adds _

theorem subscribers_run (r : Registry α) (ts : List (Step α)) :
    (r.run ts).subscribers = r.subscribers ++ r.registrations ts := by
  induction ts generalizing r with
  | nil => simp [run, registrations]
  | cons t ts ih =>
    have hrest : (r.run (t :: ts)).subscribers = ((r.step t).run ts).subscribers := rfl
    rw [hrest, ih, subscribers_step, registrations, List.append_assoc]

/-- Who was registered keeps its number. -/
theorem getElem?_step {r : Registry α} {i : Nat} {s : Subscriber α}
    (hs : r.subscribers[i]? = some s) (t : Step α) : (r.step t).subscribers[i]? = some s := by
  obtain ⟨hlt, -⟩ := List.getElem?_eq_some_iff.mp hs
  rw [subscribers_step, List.getElem?_append_left hlt, hs]

/-! ## Calls -/

theorem mem_called_iff {r : Registry α} {e : Event} {i : Nat} :
    i ∈ r.called e ↔ ∃ s, r.subscribers[i]? = some s ∧ s.mask.contains e.kind = true := by
  rw [called, List.mem_filter, List.mem_range, Option.any_eq_true]
  constructor
  · intro hi
    obtain ⟨-, s, hs, hwants⟩ := hi
    exact ⟨s, hs, hwants⟩
  · intro hi
    obtain ⟨s, hs, hwants⟩ := hi
    obtain ⟨hlt, -⟩ := List.getElem?_eq_some_iff.mp hs
    exact ⟨hlt, s, hs, hwants⟩

/-- The calls are in the order of the registrations, and no registration is called twice. -/
theorem pairwise_called (r : Registry α) (e : Event) : (r.called e).Pairwise (· < ·) :=
  List.pairwise_lt_range.filter _

/-- Those who receive an event are those registered under the numbers that are called. -/
theorem map_called (r : Registry α) (e : Event) :
    (r.called e).map (r.subscribers[·]?) = (r.receivers e).map some := by
  have hall : (List.range r.size).map (r.subscribers[·]?) = r.subscribers.map some := by
    refine List.ext_getElem (by simp [size]) ?_
    intro i hi hi'
    rw [List.length_map] at hi'
    simp [hi']
  have hwants : (r.called e).map (r.subscribers[·]?)
      = ((List.range r.size).map (r.subscribers[·]?)).filter (·.any (·.wants e)) := by
    rw [List.filter_map]
    rfl
  rw [hwants, hall, List.filter_map]
  rfl

theorem length_receivers (r : Registry α) (e : Event) :
    (r.receivers e).length = (r.called e).length := by
  have hlength := congrArg List.length (map_called r e)
  rw [List.length_map, List.length_map] at hlength
  exact hlength.symm

/-- A dispatch of the program is a step in which each call adds what its subscriber holds. -/
theorem dispatch_eq_step (r : Registry α) (e : Event) :
    r.dispatch e = (r.receivers e,
      r.step (.dispatch e fun n => (r.receivers e)[n]?.elim [] Subscriber.adds)) := by
  have hadds (called : List (Subscriber α)) :
      (List.range called.length).flatMap (fun n => called[n]?.elim [] Subscriber.adds)
        = called.flatMap Subscriber.adds := by
    induction called with
    | nil => rfl
    | cons s called ih =>
      rw [List.length_cons, List.range_succ_eq_map, List.flatMap_cons, List.flatMap_map]
      exact congrArg (s.adds ++ ·) ih
  have hsubscribers := subscribers_step r
    (.dispatch e fun n => (r.receivers e)[n]?.elim [] Subscriber.adds)
  rw [newcomers, ← length_receivers, hadds] at hsubscribers
  exact Prod.ext rfl (congrArg Registry.mk hsubscribers.symm)

/-! ## What a registration receives -/

/-- The event that the registration of this number receives in a step. -/
def hears? (r : Registry α) (i : Nat) : Step α → Option Event
  | .add _ => none
  | .dispatch e _ => if i ∈ r.called e then some e else none

/-- The events that the registration of this number receives in a run. -/
def heard (i : Nat) : Registry α → List (Step α) → List Event
  | _, [] => []
  | r, t :: ts => (r.hears? i t).toList ++ heard i (r.step t) ts

def dispatched (ts : List (Step α)) : List Event :=
  ts.filterMap fun
    | .add _ => none
    | .dispatch e _ => some e

theorem heard_append (i : Nat) (r : Registry α) (ts us : List (Step α)) :
    heard i r (ts ++ us) = heard i r ts ++ heard i (r.run ts) us := by
  induction ts generalizing r with
  | nil => rfl
  | cons t ts ih =>
    rw [List.cons_append, heard, ih, heard, List.append_assoc]
    rfl

/-- Whoever is registered receives all events of its kinds. -/
theorem heard_of_registered {r : Registry α} {i : Nat} {s : Subscriber α}
    (hs : r.subscribers[i]? = some s) (ts : List (Step α)) :
    heard i r ts = (dispatched ts).filter s.wants := by
  induction ts generalizing r with
  | nil => rfl
  | cons t ts ih =>
    rw [heard, ih (getElem?_step hs t)]
    cases t with
    | add s' => rfl
    | dispatch e adds =>
      have hcalled : i ∈ r.called e ↔ s.wants e = true := by
        rw [mem_called_iff]
        simp [hs, Subscriber.wants]
      have hcons : dispatched (.dispatch e adds :: ts) = e :: dispatched ts := rfl
      rw [hcons, List.filter_cons, hears?]
      simp only [hcalled]
      cases s.wants e <;> rfl

/-- Who is not registered yet receives nothing. -/
theorem hears?_of_size_le {r : Registry α} {i : Nat} (hi : r.size ≤ i) (t : Step α) :
    r.hears? i t = none := by
  cases t with
  | add s => rfl
  | dispatch e adds =>
    rw [hears?, if_neg]
    intro hcalled
    have hlt := List.mem_range.mp (List.mem_filter.mp hcalled).1
    exact absurd hi (Nat.not_le.mpr hlt)

theorem heard_of_size_le {i : Nat} {r : Registry α} {ts : List (Step α)}
    (hi : (r.run ts).size ≤ i) : heard i r ts = [] := by
  induction ts generalizing r with
  | nil => rfl
  | cons t ts ih =>
    have hrun : (r.run (t :: ts)).size = ((r.step t).run ts).size := rfl
    have hfirst : r.size ≤ i := by
      rw [hrun, size, subscribers_run, subscribers_step] at hi
      simp only [List.length_append] at hi
      exact Nat.le_trans (by rw [size]; omega) hi
    rw [heard, hears?_of_size_le hfirst, ih (hrun ▸ hi)]
    rfl

/-! ## Runs -/

/-- **A registration receives every event of its kinds that is dispatched after it, and no other.**
From the beginning, whatever is added by whomever and whatever is dispatched:

A dispatch calls those numbers whose masks contain the kind of the event, each once and in the order
of the registrations, and what the calls add comes after all that is there. The dispatch of the
program is such a step; it gives those who are called, and so their number. The size is the number of
registrations. A registration that a step makes, from outside or in a call, receives nothing of that
step or before, and of what is dispatched afterwards what its mask contains. A mask contains what was
put into it. -/
theorem registry_delivers (before : List (Step α)) (t : Step α) (after : List (Step α)) :
    let r := (empty : Registry α).run before
    (∀ e adds, (r.called e).Pairwise (· < ·) ∧
      (∀ i, i ∈ r.called e ↔
        ∃ s, r.subscribers[i]? = some s ∧ s.mask.contains e.kind = true) ∧
      (r.step (.dispatch e adds)).subscribers
        = r.subscribers ++ (List.range (r.called e).length).flatMap adds) ∧
    (∀ e, (r.dispatch e).1.map some = (r.called e).map (r.subscribers[·]?) ∧
      (r.dispatch e).1.length = (r.called e).length ∧
      (r.dispatch e).2
        = r.step (.dispatch e fun n => (r.dispatch e).1[n]?.elim [] Subscriber.adds)) ∧
    (r.subscribers = (empty : Registry α).registrations before ∧
      r.size = ((empty : Registry α).registrations before).length ∧
      (r.isEmpty = true ↔ r.size = 0)) ∧
    (∀ i s, r.size ≤ i → (r.step t).subscribers[i]? = some s →
      heard i empty (before ++ t :: after) = (dispatched after).filter s.wants) ∧
    ∀ (b : Mask.Build) (k : Kind), b.mask.contains k = true ↔ k ∈ b.kinds := by
  intro r
  have hregistered : r.subscribers = (empty : Registry α).registrations before :=
    subscribers_run empty before
  refine ⟨?_, ?_, ⟨hregistered, congrArg List.length hregistered, ?_⟩, ?_,
    Mask.Build.contains_mask⟩
  · intro e adds
    exact ⟨pairwise_called r e, fun i => mem_called_iff, subscribers_step r (.dispatch e adds)⟩
  · intro e
    have hdispatch := dispatch_eq_step r e
    refine ⟨(map_called r e).symm, length_receivers r e, ?_⟩
    exact congrArg Prod.snd hdispatch
  · rw [isEmpty, beq_iff_eq]
  · intro i s hi hs
    -- Up to the step the number is nobody's, and afterwards it is the newcomer's.
    rw [heard_append, heard_of_size_le hi, heard, hears?_of_size_le hi, heard_of_registered hs]
    rfl

/-- A subscriber who adds another one when it is called, and both of them at the next event. -/
example :
    let r : Registry Bool := empty.add (.mk true .wireless [.mk false .wireless []])
    let later := (r.dispatch (.scanDone statusOk)).2
    r.called (.scanDone statusOk) = [0] ∧ later.size = 2 ∧
      later.called (.leaseBound ⟨10, 0, 0, 1⟩) = [] ∧ later.called (.scanDone statusOk) = [0, 1] := by
  decide

end Registry

end Wlan
