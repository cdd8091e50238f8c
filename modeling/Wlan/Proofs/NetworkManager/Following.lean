import Wlan.Proofs.NetworkManager.Joining

/-!
# Following a profile

Two attempts are the same attempt if they are made on the same interface by the same profile. How
far each gets is for the replies to say, and what each looks at meanwhile may differ as well. So an
attempt is told by those of its argument lists that are about profiles (`connections`): they are
the steps of the profile, up to the one that failed (`Follows`).
-/

set_option autoImplicit false

namespace Wlan.NetworkManager

/-! ## Connections -/

/-- The argument lists of these runs that are about profiles. -/
def connections (rs : List Run) : List (List String) :=
  (rs.map Run.arguments).filter (["connection"].isPrefixOf ·)

theorem connections_append (rs qs : List Run) :
    connections (rs ++ qs) = connections rs ++ connections qs := by
  simp [connections]

/-- A network was joined by a profile, as far as its steps succeeded, on the interface of the
profile and with nothing else but looks. -/
structure IsFollowed (p : Profile) (xs : List Exchange) : Prop where
  steps : connections (xs.map Exchange.run) = (p.steps.take (p.taken xs)).map Run.arguments
  others : ∀ x ∈ xs, x.run ∈ p.steps ∨ x.run = .listDevices ∨ x.run = .showDevice p.interface

theorem connections_steps (p : Profile) (n : Nat) :
    connections (p.steps.take n) = (p.steps.take n).map Run.arguments := by
  rw [connections, List.filter_eq_self]
  intro args hargs
  obtain ⟨r, hr, rfl⟩ := List.mem_map.mp hargs
  have hstep := List.mem_of_mem_take hr
  simp only [Profile.steps, List.mem_cons, List.not_mem_nil, or_false] at hstep
  rcases hstep with rfl | rfl | rfl <;> rfl

theorem connections_looks {p : Profile} {xs : List Exchange}
    (hxs : ∀ x ∈ xs, x.run = .listDevices ∨ x.run = .showDevice p.interface) :
    connections (xs.map Exchange.run) = [] ∧ succeeded (.addProfile p) xs = false := by
  constructor
  · rw [connections, List.filter_eq_nil_iff]
    intro args hargs
    obtain ⟨r, hr, rfl⟩ := List.mem_map.mp hargs
    obtain ⟨x, hx, rfl⟩ := List.mem_map.mp hr
    rcases hxs x hx with hlook | hlook <;> simp [hlook, Run.arguments, List.isPrefixOf]
  · refine succeeded_eq_false fun x hx => ?_
    rcases hxs x hx with hlook | hlook <;> simp [hlook]

theorem mem_steps_of_mem_attempt {p : Profile} {h : Host} {x : Exchange} (hx : x ∈ p.attempt h) :
    x.run ∈ p.steps := by
  have hrun : x.run ∈ (p.attempt h).map Exchange.run := List.mem_map_of_mem hx
  rw [Profile.map_run_attempt] at hrun
  split at hrun
  · exact absurd hrun List.not_mem_nil
  · exact List.mem_of_mem_take hrun

/-- Looks before and after an attempt leave it what it is. -/
theorem isFollowed_attempt {p : Profile} {h : Host} (hscript : h.script ≠ none)
    {before after : List Exchange} (hbefore : ∀ x ∈ before, x.run = .listDevices)
    (hafter : ∀ x ∈ after, x.run = .showDevice p.interface) :
    IsFollowed p (before ++ (p.attempt h ++ after)) := by
  obtain ⟨hconnections, hsucceeded⟩ :=
    connections_looks (p := p) fun x hx => Or.inl (hbefore x hx)
  obtain ⟨hconnections', hsucceeded'⟩ :=
    connections_looks (p := p) fun x hx => Or.inr (hafter x hx)
  have htaken : p.taken (before ++ (p.attempt h ++ after)) = p.taken (p.attempt h) := by
    simp [Profile.taken, hsucceeded, hsucceeded']
  constructor
  · rw [htaken, List.map_append, List.map_append, connections_append, connections_append,
      hconnections, hconnections', List.nil_append, List.append_nil, Profile.map_run_attempt,
      if_neg hscript, connections_steps]
  · intro x hx
    rcases List.mem_append.mp hx with hlist | hx
    · exact Or.inr (Or.inl (hbefore x hlist))
    · rcases List.mem_append.mp hx with hstep | hlook
      · exact Or.inl (mem_steps_of_mem_attempt hstep)
      · exact Or.inr (Or.inr (hafter x hlook))

/-- The host came to be as it is by a network having been joined by the profile. -/
def Follows (p : Profile) (h h' : Host) : Prop :=
  ∃ xs, h' = h.after xs ∧ h.Gives xs ∧ IsFollowed p xs

theorem follows_command {h : Host} (hscript : h.script ≠ none) {c : Credentials}
    (hssid : c.ssid ≠ "") (interface : String) :
    Follows (profileFor interface c.association) h
      ((({ interface } : Station).command (.connect c)) (listDevices h).2).2 := by
  have hlist := exchanges_listDevices h
  obtain ⟨looks, hcommand, hlooks⟩ :=
    exchanges_command_connect { interface } hssid (h.after (h.exchanged .listDevices))
  rw [hlist.host_after, hcommand.host_after, Host.after_after]
  refine ⟨_, rfl, Host.gives_append.mpr ⟨hlist.gives, hcommand.gives⟩, ?_⟩
  have hscript' : (h.after (h.exchanged .listDevices)).script ≠ none := hscript
  exact isFollowed_attempt (p := profileFor interface c.association) hscript'
    (fun x hx => Host.run_of_mem_exchanged hx) hlooks

end Wlan.NetworkManager
