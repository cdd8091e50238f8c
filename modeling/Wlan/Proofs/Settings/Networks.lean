import Mathlib.Data.List.Induction
import Mathlib.Data.List.Nodup
import Wlan.Proofs.Settings.Keeping

/-!
# The networks as a map

The networks are a list, and whoever looks one up reads it as a map from names: the list may hold a
name several times, but the first entry of a name hides the others. One addition overwrites the map
at one name (`find?_add_eq`), so after many of them a name is mapped to its last addition, or to
what it was mapped to before.

The list knows more than the map, the order. Its entries whose names are never added stay where they
are, with their duplicates, and behind them stand the last additions of each name, in the order in
which these were made (`networks_addAll`).
-/

set_option autoImplicit false

namespace Wlan.Settings

/-! ## One addition -/

theorem find?_add_of_ne (s : Settings) {n : SavedNetwork} {ssid : String} (h : n.ssid ≠ ssid) :
    (s.add n).find? ssid = s.find? ssid := by
  have hkept : (s.networks.filter (·.ssid != n.ssid)).find? (·.ssid == ssid)
      = s.networks.find? (·.ssid == ssid) := by
    rw [List.find?_filter]
    congr 1
    funext m
    by_cases hm : m.ssid = ssid
    · simp [hm, Ne.symm h]
    · simp [hm]
  have hnew : [n].find? (·.ssid == ssid) = none := by
    simp [h]
  show (s.networks.filter (·.ssid != n.ssid) ++ [n]).find? (·.ssid == ssid) = _
  rw [List.find?_append, hkept, hnew, Option.or_none]
  rfl

/-- Read as a map, the networks are overwritten at one name. -/
theorem find?_add_eq (s : Settings) (n : SavedNetwork) (ssid : String) :
    (s.add n).find? ssid = if n.ssid = ssid then some n else s.find? ssid := by
  split
  · next h => exact h ▸ find?_add s n
  · next h => exact find?_add_of_ne s h

/-! ## Many additions -/

/-- The settings with these networks added, one after the other. -/
def addAll (s : Settings) (ns : List SavedNetwork) : Settings := ns.foldl add s

theorem addAll_append (s : Settings) (ns ms : List SavedNetwork) :
    s.addAll (ns ++ ms) = (s.addAll ns).addAll ms := List.foldl_append

theorem addAll_concat (s : Settings) (ns : List SavedNetwork) (n : SavedNetwork) :
    s.addAll (ns ++ [n]) = (s.addAll ns).add n := addAll_append s ns [n]

/-- The additions that no later one of the same name replaces, in their order. -/
def standing : List SavedNetwork → List SavedNetwork
  | [] => []
  | n :: later =>
    if n.ssid ∈ later.map SavedNetwork.ssid then standing later else n :: standing later

/-- A last addition drops out of the order those of its name and goes to the end of it. -/
theorem standing_concat (ns : List SavedNetwork) (n : SavedNetwork) :
    standing (ns ++ [n]) = (standing ns).filter (·.ssid != n.ssid) ++ [n] := by
  induction ns with
  | nil => simp [standing]
  | cons m ns ih =>
    rw [List.cons_append, standing, standing, ih]
    by_cases hn : m.ssid = n.ssid
    · by_cases hm : n.ssid ∈ ns.map SavedNetwork.ssid <;> simp [hn, hm]
    · by_cases hm : m.ssid ∈ ns.map SavedNetwork.ssid <;> simp [hn, hm]

theorem mem_ssid_standing {ns : List SavedNetwork} {ssid : String} :
    ssid ∈ (standing ns).map SavedNetwork.ssid ↔ ssid ∈ ns.map SavedNetwork.ssid := by
  induction ns with
  | nil => exact Iff.rfl
  | cons n later ih =>
    rw [standing, List.map_cons, List.mem_cons]
    split
    · next hlater =>
      rw [ih]
      constructor
      · exact Or.inr
      · rintro (rfl | h)
        · exact hlater
        · exact h
    · rw [List.map_cons, List.mem_cons, ih]

theorem nodup_ssid_standing (ns : List SavedNetwork) :
    ((standing ns).map SavedNetwork.ssid).Nodup := by
  induction ns with
  | nil => exact List.nodup_nil
  | cons n later ih =>
    rw [standing]
    split
    · exact ih
    · next hlater =>
      rw [List.map_cons, List.nodup_cons, mem_ssid_standing]
      exact ⟨hlater, ih⟩

/-- The networks whose names are none of these, as they stand. -/
def untouched (s : Settings) (ns : List SavedNetwork) : List SavedNetwork :=
  s.networks.filter fun m => m.ssid ∉ ns.map SavedNetwork.ssid

theorem networks_addAll (s : Settings) (ns : List SavedNetwork) :
    (s.addAll ns).networks = s.untouched ns ++ standing ns := by
  induction ns using List.reverseRecOn with
  | nil => simp [addAll, untouched, standing]
  | append_singleton ns n ih =>
    have hadd : ((s.addAll ns).add n).networks
        = (s.addAll ns).networks.filter (·.ssid != n.ssid) ++ [n] := rfl
    have huntouched : (s.untouched ns).filter (·.ssid != n.ssid) = s.untouched (ns ++ [n]) := by
      unfold untouched
      rw [List.filter_filter]
      congr 1
      funext m
      by_cases hm : m.ssid = n.ssid <;> simp [hm]
    rw [addAll_concat, hadd, ih, List.filter_append, huntouched, standing_concat, List.append_assoc]

theorem not_mem_ssid_untouched {s : Settings} {ns : List SavedNetwork} {ssid : String}
    (h : ssid ∈ ns.map SavedNetwork.ssid) : ssid ∉ (s.untouched ns).map SavedNetwork.ssid := by
  intro hmem
  obtain ⟨m, hm, rfl⟩ := List.mem_map.mp hmem
  have hkept := (List.mem_filter.mp hm).2
  exact absurd h (of_decide_eq_true hkept)

/-- What the map holds under a name is decided by the last addition of that name. -/
theorem find?_addAll (s : Settings) (ns : List SavedNetwork) (ssid : String) :
    (s.addAll ns).find? ssid = (ns.filter (·.ssid == ssid)).getLast?.or (s.find? ssid) := by
  induction ns using List.reverseRecOn with
  | nil => rfl
  | append_singleton ns n ih =>
    rw [addAll_concat, find?_add_eq, List.filter_append]
    by_cases hn : n.ssid = ssid
    · simp [hn]
    · simp [hn, ih]

/-- What is added twice in a row has been added. -/
theorem addAll_twice (s : Settings) (before later : List SavedNetwork) (n : SavedNetwork) :
    s.addAll (before ++ n :: n :: later) = s.addAll (before ++ n :: later) := by
  have htwice : ((s.addAll before).add n).add n = (s.addAll before).add n := add_add _ n
  rw [addAll_append, addAll_append]
  show (((s.addAll before).add n).add n).addAll later = ((s.addAll before).add n).addAll later
  rw [htwice]

theorem defaultInterface_addAll (s : Settings) (ns : List SavedNetwork) :
    (s.addAll ns).defaultInterface = s.defaultInterface := by
  induction ns using List.reverseRecOn with
  | nil => rfl
  | append_singleton ns n ih =>
    rw [addAll_concat]
    exact ih

theorem patience_addAll (s : Settings) (ns : List SavedNetwork) :
    (s.addAll ns).patience = s.patience := by
  induction ns using List.reverseRecOn with
  | nil => rfl
  | append_singleton ns n ih =>
    rw [addAll_concat]
    exact ih

/-- **The networks are a map that remembers an order.** After any additions a name is mapped to its
last addition, or else to what it was mapped to before. Every name that was added stands there once;
names that were distinct still are. The entries of all other names are as they were and where they
were, and the last additions follow them in their order. To add a network twice in a row is to add
it once, and nothing but the networks ever changes. -/
theorem addAll_isMap (s : Settings) (ns : List SavedNetwork) :
    let after := s.addAll ns
    (∀ ssid, after.find? ssid = (ns.filter (·.ssid == ssid)).getLast?.or (s.find? ssid)) ∧
    (∀ n ∈ ns, (after.networks.map SavedNetwork.ssid).count n.ssid = 1) ∧
    ((s.networks.map SavedNetwork.ssid).Nodup → (after.networks.map SavedNetwork.ssid).Nodup) ∧
    after.networks
      = s.networks.filter (fun m => m.ssid ∉ ns.map SavedNetwork.ssid) ++ standing ns ∧
    (∀ before n later, ns = before ++ n :: later →
      s.addAll (before ++ n :: n :: later) = after) ∧
    after.defaultInterface = s.defaultInterface ∧ after.patience = s.patience := by
  intro after
  have hnetworks : after.networks = s.untouched ns ++ standing ns := networks_addAll s ns
  refine ⟨find?_addAll s ns, ?_, ?_, hnetworks, ?_, defaultInterface_addAll s ns,
    patience_addAll s ns⟩
  · intro n hn
    have hname : n.ssid ∈ ns.map SavedNetwork.ssid := List.mem_map_of_mem hn
    rw [hnetworks, List.map_append, List.count_append,
      List.count_eq_zero.mpr (not_mem_ssid_untouched hname), Nat.zero_add]
    exact List.count_eq_one_of_mem (nodup_ssid_standing ns) (mem_ssid_standing.mpr hname)
  · intro hdistinct
    rw [hnetworks, List.map_append]
    have huntouched : ((s.untouched ns).map SavedNetwork.ssid).Nodup :=
      hdistinct.sublist (List.filter_sublist.map _)
    refine huntouched.append (nodup_ssid_standing ns) ?_
    intro ssid hleft hright
    exact not_mem_ssid_untouched (mem_ssid_standing.mp hright) hleft
  · rintro before n later rfl
    exact addAll_twice s before later n

/-- A network added, replaced by another and added again: it is known once, as it was last, and
stands behind the other. -/
theorem addAll_isMap_again :
    let cafe : SavedNetwork := ⟨"Cafe", none, .unsecured, none⟩
    let home : SavedNetwork := ⟨"Home", some "c", .sae, some "wlan0"⟩
    let lab : SavedNetwork := ⟨"Lab", some "x", .psk, none⟩
    let s : Settings := { networks := [cafe, { home with password := some "a" }] }
    let ns := [{ home with password := some "b" }, lab, home]
    let after := s.addAll ns
    (s.networks.map SavedNetwork.ssid).Nodup ∧ (after.networks.map SavedNetwork.ssid).Nodup ∧
      after.find? "Home" = some home ∧ after.networks = [cafe, lab, home] := by
  intro cafe home lab s ns after
  obtain ⟨hfind, -, hdistinct, hnetworks, -⟩ := addAll_isMap s ns
  have hstart : (s.networks.map SavedNetwork.ssid).Nodup := by decide
  exact ⟨hstart, hdistinct hstart, (hfind "Home").trans (by decide), hnetworks.trans (by decide)⟩

end Wlan.Settings
