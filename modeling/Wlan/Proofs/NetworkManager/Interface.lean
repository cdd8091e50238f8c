import Wlan.Proofs.NetworkManager.Following
import Wlan.Proofs.NetworkManager.Reports

/-!
# The interface that is worked on

Whatever is done on an interface keeps to it: of the runs that are told of an interface at all, each
is told of this one (`KeepTo`). Some runs are told of a profile instead, and the one that adds the
profile is told of both, so that a network is joined where it was meant to be.
-/

set_option autoImplicit false

namespace Wlan.NetworkManager

/-! ## Interfaces in runs -/

/-- The interface that a run is told to work on, if it is told of one. -/
def Run.interface? : Run → Option String
  | .rescan interface => some interface
  | .listAccessPoints interface => some interface
  | .showDevice interface => some interface
  | .disconnect interface => some interface
  | .addProfile profile => some profile.interface
  | .listDevices => none
  | .deleteProfile _ => none
  | .activateProfile _ => none

/-- What a run is told of is among its arguments. -/
theorem Run.mem_arguments {r : Run} {interface : String} (h : r.interface? = some interface) :
    interface ∈ r.arguments := by
  cases r with
  | listDevices | deleteProfile | activateProfile => cases h
  | rescan | listAccessPoints | showDevice | disconnect | addProfile =>
    cases h
    simp [arguments, Profile.arguments]

/-- One of the runs is told to work on this interface. -/
def Names (interface : String) (rs : List Run) : Prop :=
  ∃ r ∈ rs, r.interface? = some interface

/-- No other interface is worked on. -/
def KeepTo (interface : String) (rs : List Run) : Prop :=
  ∀ other, Names other rs → other = interface

section

variable {interface : String} {rs qs : List Run}

theorem names_append : Names interface (rs ++ qs) ↔ Names interface rs ∨ Names interface qs := by
  simp only [Names, List.mem_append, or_and_right, exists_or]

theorem names_made {r : Run} {h : Host} :
    Names interface (h.made r) ↔ h.script ≠ none ∧ r.interface? = some interface := by
  rw [Names, Host.made_eq]
  split <;> simp [*]

theorem KeepTo.append (hrs : KeepTo interface rs) (hqs : KeepTo interface qs) :
    KeepTo interface (rs ++ qs) := by
  intro other hnames
  exact (names_append.mp hnames).elim (hrs other) (hqs other)

theorem keepTo_nil (interface : String) : KeepTo interface [] := by
  rintro other ⟨r, hr, -⟩
  exact absurd hr List.not_mem_nil

theorem keepTo_of_forall (hrs : ∀ r ∈ rs, r.interface? = some interface ∨ r.interface? = none) :
    KeepTo interface rs := by
  rintro other ⟨r, hr, hother⟩
  rcases hrs r hr with hthis | hno
  · exact Option.some.inj (hother.symm.trans hthis)
  · exact nomatch hother.symm.trans hno

theorem keepTo_made {r : Run} (hr : r.interface? = some interface) (h : Host) :
    KeepTo interface (h.made r) := by
  intro other hnames
  exact Option.some.inj ((names_made.mp hnames).2.symm.trans hr)

end

/-! ## Work on an interface -/

/-- Work on this host keeps to the interface, and turns to it where it has to and there is a tool. -/
def WorksOn {α : Type} (interface : String) (must : Prop) (work : OnHost α) (h : Host) : Prop :=
  ∃ rs, Makes work h rs ∧ KeepTo interface rs ∧ (must → h.script ≠ none → Names interface rs)

theorem WorksOn.exists_runs {α : Type} {interface : String} {must must' : Prop} {work : OnHost α}
    {h h' : Host} (hwork : WorksOn interface must work h) (hmust : must' → must)
    (hscript : h.script ≠ none) (hafter : h' = (work h).2) :
    ∃ rs, h' = { h with runs := h.runs ++ rs } ∧ KeepTo interface rs ∧
      (must' → Names interface rs) := by
  obtain ⟨rs, hmakes, hkeep, hnames⟩ := hwork
  exact ⟨rs, hafter.trans hmakes, hkeep, fun hmust' => hnames (hmust hmust') hscript⟩

section

variable (interface : String) (h : Host)

theorem worksOn_status : WorksOn interface True (status interface) h := by
  have hlook := (exchanges_status interface h).makes
  rw [Host.map_run_exchanged] at hlook
  exact ⟨_, hlook, keepTo_made rfl h, fun _ hscript => names_made.mpr ⟨hscript, rfl⟩⟩

theorem worksOn_scan : WorksOn interface True (request interface .scan) h := by
  have hrescan := Makes.run (.rescan interface) h
  have hlist := Makes.run (.listAccessPoints interface) (Host.run (.rescan interface) h).2
  have hscan : Makes (scan interface) h _ := hrescan.bind (hlist.map _)
  refine ⟨_, (hscan.map _).map _, (keepTo_made rfl h).append (keepTo_made rfl _), ?_⟩
  intro _ hscript
  exact names_append.mpr (.inl (names_made.mpr ⟨hscript, rfl⟩))

/-- The device is looked at in any case, and told to leave only if it is in use. -/
theorem worksOn_disconnect : WorksOn interface True (request interface .disconnect) h := by
  have hlook : KeepTo interface (h.made (.showDevice interface)) := keepTo_made rfl h
  have hnames (hscript : h.script ≠ none) : Names interface (h.made (.showDevice interface)) :=
    names_made.mpr ⟨hscript, rfl⟩
  by_cases hshown : ShownInUse interface (h.exchanged (.showDevice interface))
  · have hleave := (exchanges_request_disconnect_accepted hshown).1.makes
    rw [List.map_append, Host.map_run_exchanged, Host.map_run_exchanged] at hleave
    refine ⟨_, hleave, hlook.append (keepTo_made rfl _), fun _ hscript => ?_⟩
    exact names_append.mpr (.inl (hnames hscript))
  · have hrefused := (exchanges_request_disconnect_refused hshown).1.makes
    rw [Host.map_run_exchanged] at hrefused
    exact ⟨_, hrefused, hlook, fun _ => hnames⟩

theorem keepTo_attempt (p : Profile) : KeepTo p.interface ((p.attempt h).map Exchange.run) := by
  refine keepTo_of_forall fun r hr => ?_
  obtain ⟨x, hx, rfl⟩ := List.mem_map.mp hr
  have hstep := mem_steps_of_mem_attempt hx
  simp only [Profile.steps, List.mem_cons, List.not_mem_nil, or_false] at hstep
  rcases hstep with hdelete | hadd | hactivate
  · exact .inr (congrArg Run.interface? hdelete)
  · exact .inl (congrArg Run.interface? hadd)
  · exact .inr (congrArg Run.interface? hactivate)

/-- However far an attempt gets, it adds the profile. -/
theorem names_attempt (p : Profile) (hscript : h.script ≠ none) :
    Names p.interface ((p.attempt h).map Exchange.run) := by
  have htaken := p.two_le_taken (p.attempt h)
  rw [Profile.map_run_attempt, if_neg hscript]
  refine ⟨.addProfile p, List.mem_take_iff_getElem.mpr ⟨1, ?_, rfl⟩, rfl⟩
  simp only [Profile.steps, List.length_cons, List.length_nil]
  omega

theorem worksOn_connect (c : Credentials) :
    WorksOn interface (c.ssid ≠ "") (({ interface } : Station).command (.connect c)) h := by
  by_cases hssid : c.ssid = ""
  · refine ⟨[], ?_, keepTo_nil interface, fun hmust => absurd hssid hmust⟩
    rw [Makes, command_connect_empty _ hssid, List.append_nil]
  · obtain ⟨looks, hcommand, hlooks⟩ := exchanges_command_connect { interface } hssid h
    have hattempt := keepTo_attempt h (profileFor interface c.association)
    have hlook : KeepTo interface (looks.map Exchange.run) := by
      refine keepTo_of_forall fun r hr => ?_
      obtain ⟨x, hx, rfl⟩ := List.mem_map.mp hr
      exact .inl (congrArg Run.interface? (hlooks x hx))
    refine ⟨_, hcommand.makes, ?_⟩
    rw [List.map_append]
    refine ⟨hattempt.append hlook, fun _ hscript => names_append.mpr (.inl ?_)⟩
    exact names_attempt h (profileFor interface c.association) hscript

end

end Wlan.NetworkManager
