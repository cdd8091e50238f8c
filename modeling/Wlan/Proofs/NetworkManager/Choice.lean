import Wlan.NetworkManager.Device

/-!
# The device that is chosen

Which device is taken is a matter of what the listing shows first (`Choice`). There is exactly one
outcome for every listing, and `Device.choose` finds it (`choice_iff`). So whatever is to be known of
a device that was chosen can be read off the ways in which one is.
-/

set_option autoImplicit false

namespace Wlan.NetworkManager

/-! ## Ways to choose -/

/-- The device to work on, or why there is none. Where one is named, the first device of that name
decides, and no other one is taken instead. -/
inductive Choice (devices : List Device) : Option String → Except Cause Device → Prop
  | wireless {d : Device} {before after : List Device} (hsplit : devices = before ++ d :: after)
    (hfirst : ∀ e ∈ before, e.name ≠ d.name) (hkind : d.kind = "wifi") :
    Choice devices (some d.name) (.ok d)
  | notWireless {d : Device} {before after : List Device} (hsplit : devices = before ++ d :: after)
    (hfirst : ∀ e ∈ before, e.name ≠ d.name) (hkind : d.kind ≠ "wifi") :
    Choice devices (some d.name) (.error (.interfaceNotWireless d.name))
  | notFound {name : String} (hnone : ∀ d ∈ devices, d.name ≠ name) :
    Choice devices (some name) (.error (.interfaceNotFound name))
  | first {d : Device} {before after : List Device} (hsplit : devices = before ++ d :: after)
    (hfirst : ∀ e ∈ before, e.kind ≠ "wifi") (hkind : d.kind = "wifi") :
    Choice devices none (.ok d)
  | noWireless (hnone : ∀ d ∈ devices, d.kind ≠ "wifi") :
    Choice devices none (.error .noWirelessInterface)

theorem isWireless_iff {d : Device} : d.isWireless = true ↔ d.kind = "wifi" := beq_iff_eq

theorem not_isWireless_iff {d : Device} : (!d.isWireless) = true ↔ d.kind ≠ "wifi" := by
  rw [Bool.not_eq_true', Bool.eq_false_iff, Ne, isWireless_iff]

section

variable {devices before after : List Device} {d : Device}

theorem find?_name (hsplit : devices = before ++ d :: after)
    (hfirst : ∀ e ∈ before, e.name ≠ d.name) : devices.find? (·.name == d.name) = some d := by
  rw [List.find?_eq_some_iff_append]
  exact ⟨by simp, before, after, hsplit, by simpa using hfirst⟩

theorem find?_isWireless (hsplit : devices = before ++ d :: after)
    (hfirst : ∀ e ∈ before, e.kind ≠ "wifi") (hkind : d.kind = "wifi") :
    devices.find? Device.isWireless = some d := by
  rw [List.find?_eq_some_iff_append]
  refine ⟨isWireless_iff.mpr hkind, before, after, hsplit, ?_⟩
  intro e he
  exact not_isWireless_iff.mpr (hfirst e he)

end

theorem Choice.choose_eq {devices : List Device} {name : Option String}
    {choice : Except Cause Device} (h : Choice devices name choice) :
    Device.choose devices name = choice.mapError .of := by
  unfold Device.choose
  cases h with
  | wireless hsplit hfirst hkind =>
    simp only [find?_name hsplit hfirst, if_pos (isWireless_iff.mpr hkind)]
    rfl
  | notWireless hsplit hfirst hkind =>
    simp only [find?_name hsplit hfirst, if_neg (hkind ∘ isWireless_iff.mp)]
    rfl
  | @notFound name hnone =>
    have hfind : devices.find? (·.name == name) = none := by simpa using hnone
    simp only [hfind]
    rfl
  | first hsplit hfirst hkind =>
    simp only [find?_isWireless hsplit hfirst hkind]
    rfl
  | noWireless hnone =>
    have hfind : devices.find? Device.isWireless = none := by simpa [isWireless_iff] using hnone
    simp only [hfind]
    rfl

/-- Every listing leaves a choice, be it that there is nothing to choose. -/
theorem exists_choice (devices : List Device) (name : Option String) :
    ∃ choice, Choice devices name choice := by
  cases name with
  | none =>
    cases hfind : devices.find? Device.isWireless with
    | none =>
      rw [List.find?_eq_none] at hfind
      exact ⟨_, .noWireless (by simpa [isWireless_iff] using hfind)⟩
    | some d =>
      obtain ⟨hkind, before, after, hsplit, hfirst⟩ := List.find?_eq_some_iff_append.mp hfind
      refine ⟨_, .first hsplit ?_ (isWireless_iff.mp hkind)⟩
      intro e he
      exact not_isWireless_iff.mp (hfirst e he)
  | some name =>
    cases hfind : devices.find? (·.name == name) with
    | none =>
      rw [List.find?_eq_none] at hfind
      exact ⟨_, .notFound (by simpa using hfind)⟩
    | some d =>
      obtain ⟨hname, before, after, hsplit, hfirst⟩ := List.find?_eq_some_iff_append.mp hfind
      obtain rfl : d.name = name := by simpa using hname
      by_cases hkind : d.kind = "wifi"
      · exact ⟨_, .wireless hsplit (by simpa using hfirst) hkind⟩
      · exact ⟨_, .notWireless hsplit (by simpa using hfirst) hkind⟩

theorem mapError_of_injective {α : Type} {x y : Except Cause α}
    (h : x.mapError Failure.of = y.mapError Failure.of) : x = y := by
  cases x with
  | ok a =>
    cases y with
    | ok b => exact congrArg Except.ok (Except.ok.inj h)
    | error c => cases h
  | error c =>
    cases y with
    | ok b => cases h
    | error c' => exact congrArg Except.error (congrArg Failure.cause (Except.error.inj h))

theorem Choice.unique {devices : List Device} {name : Option String}
    {choice other : Except Cause Device} (h : Choice devices name choice)
    (hother : Choice devices name other) : choice = other :=
  mapError_of_injective (h.choose_eq.symm.trans hother.choose_eq)

/-- The choice is the one that is made. -/
theorem choice_iff {devices : List Device} {name : Option String} {choice : Except Cause Device} :
    Choice devices name choice ↔ Device.choose devices name = choice.mapError .of := by
  refine ⟨Choice.choose_eq, fun h => ?_⟩
  obtain ⟨other, hother⟩ := exists_choice devices name
  obtain rfl : other = choice := mapError_of_injective (hother.choose_eq.symm.trans h)
  exact hother

/-! ## What is chosen -/

theorem mem_of_choose {devices : List Device} {name : Option String} {d : Device}
    (h : Device.choose devices name = .ok d) : d ∈ devices ∧ d.isWireless = true := by
  have hchoice : Choice devices name (.ok d) := choice_iff.mpr h
  cases hchoice with
  | wireless hsplit _ hkind | first hsplit _ hkind =>
    rw [hsplit]
    exact ⟨by simp, isWireless_iff.mpr hkind⟩

/-- Where no two devices share a name, the name of the device that was chosen chooses it again. -/
theorem choose_name {devices : List Device} (hdistinct : (devices.map Device.name).Nodup)
    {name : Option String} {d : Device} (h : Device.choose devices name = .ok d) :
    Device.choose devices (some d.name) = .ok d := by
  obtain ⟨hmem, hwireless⟩ := mem_of_choose h
  obtain ⟨before, after, hsplit⟩ := List.append_of_mem hmem
  rw [hsplit, List.map_append, List.map_cons] at hdistinct
  have hfirst : ∀ e ∈ before, e.name ≠ d.name := by
    intro e he
    exact (List.nodup_append.mp hdistinct).2.2 e.name (List.mem_map_of_mem he) d.name
      List.mem_cons_self
  exact (Choice.wireless hsplit hfirst (isWireless_iff.mp hwireless)).choose_eq

end Wlan.NetworkManager
