import Wlan.Proofs.NetworkManager.Runs

/-!
# Joining a network, run by run

An attempt to join goes through the steps of its profile, deletion, creation and activation, and
gets to the last of them exactly if the profile was created (`Profile.attempt`, `exchanges_join`).
It has joined if the last one succeeded too; what became of the deletion does not matter
(`isOk_join`). An attempt that has joined goes on to look at the device, and a look is none of these
steps, so that the steps are still told apart in all that was run (`exchanges_connectJob`).

What matters of an attempt is the argument list with which it adds a profile. There is one
exactly where there is a tool and a network to join (`makes_command_connect`).
-/

set_option autoImplicit false

namespace Wlan.NetworkManager

/-! ## Steps -/

namespace Profile

/-- The runs that join a network through a profile. -/
def steps (p : Profile) : List Run :=
  [.deleteProfile p.name, .addProfile p, .activateProfile p.name]

/-- How many of the steps were taken in these exchanges. -/
def taken (p : Profile) (xs : List Exchange) : Nat :=
  if succeeded (.addProfile p) xs then 3 else 2

theorem two_le_taken (p : Profile) (xs : List Exchange) : 2 ≤ p.taken xs := by
  unfold taken
  split <;> decide

/-- The network was joined in these exchanges. -/
def isJoined (p : Profile) (xs : List Exchange) : Bool :=
  succeeded (.addProfile p) xs && succeeded (.activateProfile p.name) xs

/-- What is exchanged on a host to create the profile. -/
def creation (p : Profile) (h : Host) : List Exchange :=
  h.exchanged (.deleteProfile p.name)
    ++ (h.after (h.exchanged (.deleteProfile p.name))).exchanged (.addProfile p)

/-- What is exchanged on a host to join. -/
def attempt (p : Profile) (h : Host) : List Exchange :=
  p.creation h ++
    if succeeded (.addProfile p) (p.creation h) then
      (h.after (p.creation h)).exchanged (.activateProfile p.name)
    else []

theorem run_of_mem_creation {p : Profile} {h : Host} {x : Exchange} (hx : x ∈ p.creation h) :
    x.run ≠ .activateProfile p.name := by
  rcases List.mem_append.mp hx with hdelete | hadd
  · exact Host.run_of_mem_exchanged hdelete ▸ nofun
  · exact Host.run_of_mem_exchanged hadd ▸ nofun

/-- The deletion does not create the profile. -/
theorem succeeded_creation (p : Profile) (h : Host) :
    succeeded (.addProfile p) (p.creation h) = succeeded (.addProfile p)
      ((h.after (h.exchanged (.deleteProfile p.name))).exchanged (.addProfile p)) := by
  rw [creation, succeeded_append, succeeded_exchanged_of_ne (by simp), Bool.false_or]

/-- The activation does not create the profile either. -/
theorem succeeded_attempt (p : Profile) (h : Host) :
    succeeded (.addProfile p) (p.attempt h) = succeeded (.addProfile p) (p.creation h) := by
  have hactivate : succeeded (.addProfile p)
      ((h.after (p.creation h)).exchanged (.activateProfile p.name)) = false :=
    succeeded_exchanged_of_ne (by simp) _
  unfold attempt
  split <;> simp [hactivate]

theorem map_run_creation (p : Profile) (h : Host) :
    (p.creation h).map Exchange.run
      = if h.script = none then [] else [.deleteProfile p.name, .addProfile p] := by
  simp only [creation, List.map_append, Host.map_run_exchanged, Host.made_eq, Host.script_after]
  by_cases hscript : h.script = none <;> simp [hscript]

/-- The steps are taken up to the one that fails, the deletion apart. -/
theorem map_run_attempt (p : Profile) (h : Host) :
    (p.attempt h).map Exchange.run
      = if h.script = none then [] else p.steps.take (p.taken (p.attempt h)) := by
  rw [taken, succeeded_attempt, attempt, List.map_append, map_run_creation]
  cases succeeded (.addProfile p) (p.creation h)
  · by_cases hscript : h.script = none <;> simp [hscript, steps]
  · by_cases hscript : h.script = none <;> simp [hscript, steps, Host.made_eq]

theorem isJoined_attempt (p : Profile) (h : Host) :
    p.isJoined (p.attempt h) = (succeeded (.addProfile p) (p.creation h) &&
      succeeded (.activateProfile p.name)
        ((h.after (p.creation h)).exchanged (.activateProfile p.name))) := by
  have hcreation : succeeded (.activateProfile p.name) (p.creation h) = false :=
    succeeded_eq_false fun _ => run_of_mem_creation
  rw [isJoined, succeeded_attempt, attempt, succeeded_append, hcreation]
  cases succeeded (.addProfile p) (p.creation h) <;> rfl

end Profile

/-! ## Joining -/

/-- A run that has to succeed has done so or is a failure. -/
theorem isOk_required (context : String) (r : Run) (h : Host) :
    (required context (Host.run r h).1).isOk = succeeded r (h.exchanged r) := by
  rw [← isOk_answered "Failed to execute nmcli", required]
  cases answered "Failed to execute nmcli" (Host.run r h).1 <;> rfl

/-- A network is joined if its profile could be created and activated, whatever became of the
profile that was there before. -/
theorem isOk_join (p : Profile) (h : Host) :
    (join p h).1.isOk = p.isJoined (p.attempt h) := by
  have hadd := isOk_required "Failed to create connection profile" (.addProfile p)
    (h.after (h.exchanged (.deleteProfile p.name)))
  rw [Profile.isJoined_attempt, Profile.succeeded_creation, ← hadd, join, Host.run_bind,
    Host.run_bind, Host.after_after, ← Profile.creation]
  cases required "Failed to create connection profile"
    (Host.run (.addProfile p) (h.after (h.exchanged (.deleteProfile p.name)))).1 with
  | error f => rfl
  | ok u => exact isOk_required _ _ _

/-- A profile that cannot be created is not activated. -/
theorem exchanges_join (p : Profile) (h : Host) : Exchanges (join p) h (p.attempt h) := by
  have hdelete := Exchanges.run (.deleteProfile p.name) h
  have hadd := Exchanges.run (.addProfile p) (h.after (h.exchanged (.deleteProfile p.name)))
  have hdone := isOk_required "Failed to create connection profile" (.addProfile p)
    (h.after (h.exchanged (.deleteProfile p.name)))
  rw [← Profile.succeeded_creation] at hdone
  rw [Profile.attempt, ← hdone, Profile.creation, List.append_assoc]
  refine hdelete.bind (hadd.bind ?_)
  rw [Host.after_after, ← Profile.creation]
  cases required "Failed to create connection profile"
    (Host.run (.addProfile p) (h.after (h.exchanged (.deleteProfile p.name)))).1 with
  | error f => exact Exchanges.pure _ _
  | ok u => exact (Exchanges.run _ _).map _

/-! ## Looking for a lease -/

/-- Looking for a lease shows the device over and over, and nothing else is run. -/
theorem exchanges_pollFrom (interface : String) (elapsed : Nat) (h : Host) :
    ∃ looks, Exchanges (pollFrom interface elapsed) h looks ∧
      ∀ x ∈ looks, x.run = .showDevice interface := by
  induction elapsed using pollFrom.induct generalizing h with
  | case1 elapsed hlt ih =>
    have hlook : Exchanges (lookForLease interface) h (h.exchanged (.showDevice interface)) :=
      ((Exchanges.run (.showDevice interface) h).map _).map _
    have hshown : ∀ x ∈ h.exchanged (.showDevice interface), x.run = .showDevice interface :=
      fun x hx => Host.run_of_mem_exchanged hx
    obtain ⟨looks, hnext, hlooks⟩ := ih (h.after (h.exchanged (.showDevice interface)))
    have hall : ∀ x ∈ h.exchanged (.showDevice interface) ++ looks,
        x.run = .showDevice interface := List.forall_mem_append.mpr ⟨hshown, hlooks⟩
    rw [pollFrom, if_pos hlt]
    -- A look that fails leads to the next one just as one that finds nothing does.
    cases hfound : (lookForLease interface h).1 with
    | error f =>
      refine ⟨_, hlook.bind ?_, hall⟩
      simp only [hfound]
      exact hnext.map _
    | ok ip =>
      cases ip with
      | none =>
        refine ⟨_, hlook.bind ?_, hall⟩
        simp only [hfound]
        exact hnext.map _
      | some ip =>
        refine ⟨h.exchanged (.showDevice interface) ++ [], hlook.bind ?_, by simpa using hshown⟩
        simp only [hfound]
        exact Exchanges.pure _ _
  | case2 elapsed hlt =>
    rw [pollFrom, if_neg hlt]
    exact ⟨[], Exchanges.pure _ h, fun x hx => absurd hx List.not_mem_nil⟩

/-- An attempt that has joined goes on to look for a lease. -/
theorem exchanges_connectJob (interface : String) (a : Association) (h : Host) :
    ∃ looks, Exchanges (connectJob interface a) h ((profileFor interface a).attempt h ++ looks) ∧
      ∀ x ∈ looks, x.run = .showDevice interface := by
  have hjoin := exchanges_join (profileFor interface a) h
  cases hjoined : (join (profileFor interface a) h).1 with
  | error f =>
    refine ⟨[], hjoin.bind ?_, fun x hx => absurd hx List.not_mem_nil⟩
    simp only [hjoined]
    exact Exchanges.pure _ _
  | ok u =>
    obtain ⟨looks, hpoll, hlooks⟩ :=
      exchanges_pollFrom interface 0 (h.after ((profileFor interface a).attempt h))
    refine ⟨looks, hjoin.bind ?_, hlooks⟩
    simp only [hjoined]
    exact hpoll.map _

/-! ## Additions -/

/-- However far an attempt gets, its one addition is that of its profile. -/
theorem additions_attempt (p : Profile) (h : Host) :
    additions ((p.attempt h).map Exchange.run) = h.addition p := by
  have hadded (n : Nat) (hn : 2 ≤ n) : additions (p.steps.take n) = [p.arguments] := by
    obtain ⟨m, rfl⟩ := Nat.exists_eq_add_of_le' hn
    cases m <;> simp [additions, Profile.steps, Run.arguments, Profile.arguments, List.isPrefixOf]
  rw [Profile.map_run_attempt, Host.addition_eq]
  split
  · rfl
  · exact hadded _ (p.two_le_taken _)

theorem additions_looks {looks : List Exchange} {interface : String}
    (hlooks : ∀ x ∈ looks, x.run = .showDevice interface) :
    additions (looks.map Exchange.run) = [] := by
  refine additions_eq_nil fun r hr => ?_
  obtain ⟨x, hx, rfl⟩ := List.mem_map.mp hr
  simp [hlooks x hx, Run.verb]

/-! ## Commands -/

/-- The exchanges of a connect attempt are those of its job. -/
theorem exchanges_command_connect (s : Station) {c : Credentials} (hssid : c.ssid ≠ "")
    (h : Host) :
    ∃ looks, Exchanges (s.command (.connect c)) h
        ((profileFor s.interface c.association).attempt h ++ looks) ∧
      ∀ x ∈ looks, x.run = .showDevice s.interface := by
  obtain ⟨looks, hjob, hlooks⟩ := exchanges_connectJob s.interface c.association h
  have hrequest : Command.request (.connect c) = .ok (.associate c.association) :=
    if_neg hssid
  have hname : c.association.ssid ≠ "" := hssid
  refine ⟨looks, ?_, hlooks⟩
  unfold Station.command
  simp only [hrequest, request, if_neg hname]
  exact (hjob.map _).map _

/-- Without a network to join there is no attempt. -/
theorem command_connect_empty (s : Station) {c : Credentials} (hssid : c.ssid = "") (h : Host) :
    s.command (.connect c) h = (⟨s, ⟨s.link, .error .emptySsid, none, none, [], []⟩, []⟩, h) := by
  have hrequest : Command.request (.connect c) = .error .emptySsid := if_pos hssid
  unfold Station.command Command.perform
  simp only [hrequest]
  rfl

/-- With a network to join, the link is marked and the job goes to work. -/
theorem command_connect (s : Station) {c : Credentials} (hssid : c.ssid ≠ "") (h : Host) :
    let job := connectJob s.interface c.association h
    s.command (.connect c) h = (⟨{ s with link := s.link.submit (.connect c) },
      (Command.connect c).perform s.link ⟨[], .accepted⟩, job.1⟩, job.2) := by
  intro job
  have hrequest : Command.request (.connect c) = .ok (.associate c.association) := if_neg hssid
  have hname : c.association.ssid ≠ "" := hssid
  unfold Station.command Command.perform
  simp only [hrequest, request, if_neg hname]
  rfl

theorem result_command_connect (s : Station) {c : Credentials} (hssid : c.ssid ≠ "") (h : Host) :
    (s.command (.connect c) h).1.performed.result = .ok () := by
  have hrequest : Command.request (.connect c) = .ok (.associate c.association) := if_neg hssid
  rw [command_connect s hssid]
  simp only [Command.perform, hrequest, Command.result]

/-- A connect attempt adds one profile, unless there is no network or no tool to do it with. -/
theorem makes_command_connect (s : Station) (c : Credentials) (h : Host) :
    ∃ rs, Makes (s.command (.connect c)) h rs ∧ additions rs =
      if c.ssid = "" then [] else h.addition (profileFor s.interface c.association) := by
  by_cases hssid : c.ssid = ""
  · refine ⟨[], ?_, (if_pos hssid).symm⟩
    rw [Makes, command_connect_empty s hssid, List.append_nil]
  · obtain ⟨looks, hcommand, hlooks⟩ := exchanges_command_connect s hssid h
    refine ⟨_, hcommand.makes, ?_⟩
    rw [List.map_append, additions_append, additions_attempt, additions_looks hlooks,
      List.append_nil, if_neg hssid]

end Wlan.NetworkManager
