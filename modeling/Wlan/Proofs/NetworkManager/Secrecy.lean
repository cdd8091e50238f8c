import Wlan.NetworkManager.Job
import Wlan.Proofs.NetworkManager.Joining

/-!
# Where a key goes

Two attempts to join one network with different keys. The key stands in the argument list of one
run, the one that adds the profile, and in no other place there (`differ_arguments`). What is
replied to a run depends on what was asked and how often, and on nothing that was said with it. So
the two attempts are given the same replies, and everything that is made of these is the same
(`concur_connectJob`).

Two hosts that differ in such a run alone are `Alike`, and work that takes no notice of the
difference is `Blind` to it.
-/

set_option autoImplicit false

namespace Wlan

/-- The association with this key. -/
def Association.withKey (a : Association) (key : String) : Association := { a with key := some key }

namespace NetworkManager

/-! ## Argument lists -/

/-- The argument lists are the same, except that one of them has another value after the setting of
a key. -/
def DifferInKey (k k' : String) (lists lists' : List (List String)) : Prop :=
  lists' = lists ∨ ∃ before pre setting post after,
    setting ∈ ["wifi-sec.psk", "wifi-sec.wep-key0"] ∧
    lists = before ++ (pre ++ setting :: k :: post) :: after ∧
    lists' = before ++ (pre ++ setting :: k' :: post) :: after

/-- The profile with this key. -/
def Profile.withKey (p : Profile) (key : String) : Profile := { p with key := some key }

theorem Profile.keySetting_mem (security : Security) :
    keySetting security ∈ ["wifi-sec.psk", "wifi-sec.wep-key0"] := by
  unfold keySetting
  split
  · exact List.mem_cons_of_mem _ List.mem_cons_self
  · exact List.mem_cons_self

/-- An open network is joined without its key. In any other profile the key follows its setting. -/
theorem Profile.arguments_withKey (p : Profile) (k k' : String) :
    (p.withKey k').arguments = (p.withKey k).arguments ∨ ∃ pre post,
      (p.withKey k).arguments = pre ++ keySetting p.security :: k :: post ∧
      (p.withKey k').arguments = pre ++ keySetting p.security :: k' :: post := by
  cases hmanagement : keyManagement? p.security true with
  | none =>
    refine Or.inl ?_
    simp only [arguments, securitySettings, withKey, name, Option.isSome_some, hmanagement]
  | some management =>
    let named := ["connection", "add", "type", "wifi", "con-name", p.name, "ifname", p.interface,
      "ssid", p.ssid]
    let frames := if p.security = .wep then []
      else ["wifi-sec.pmf", frameProtectionNumber p.protection]
    have harguments (key : String) : (p.withKey key).arguments
        = (named ++ ["wifi-sec.key-mgmt", management]) ++ keySetting p.security :: key :: frames := by
      simp only [arguments, securitySettings, withKey, name, Option.isSome_some, hmanagement]
      rfl
    exact Or.inr ⟨_, frames, harguments k, harguments k'⟩

/-! ## Hosts -/

/-- The hosts differ at most in the key of one profile that was added. -/
structure Alike (k k' : String) (h h' : Host) : Prop where
  script : h'.script = h.script
  runs : h'.runs = h.runs ∨ ∃ (before : List Run) (p : Profile) (after : List Run),
    h.runs = before ++ .addProfile (p.withKey k) :: after ∧
    h'.runs = before ++ .addProfile (p.withKey k') :: after

namespace Alike

variable {k k' : String} {h h' : Host}

theorem refl (k k' : String) (h : Host) : Alike k k' h h := ⟨rfl, Or.inl rfl⟩

/-- The same was asked just as often. -/
theorem count (halike : Alike k k' h h') (v : Verb) : h'.count v = h.count v := by
  rcases halike.runs with hruns | ⟨before, p, after, hruns, hruns'⟩
  · rw [Host.count, Host.count, hruns]
  · rw [Host.count, Host.count, hruns, hruns', List.countP_append, List.countP_append,
      List.countP_cons, List.countP_cons]
    rfl

theorem differ_arguments (halike : Alike k k' h h') :
    DifferInKey k k' (h.runs.map Run.arguments) (h'.runs.map Run.arguments) := by
  rcases halike.runs with hruns | ⟨before, p, after, hruns, hruns'⟩
  · exact Or.inl (congrArg _ hruns)
  · rw [hruns, hruns']
    rcases p.arguments_withKey k k' with hsame | ⟨pre, post, hargs, hargs'⟩
    · refine Or.inl ?_
      simp only [List.map_append, List.map_cons, Run.arguments, hsame]
    · refine Or.inr ⟨before.map Run.arguments, pre, _, post, after.map Run.arguments,
        Profile.keySetting_mem p.security, ?_, ?_⟩
      · simp only [List.map_append, List.map_cons, Run.arguments, hargs]
      · simp only [List.map_append, List.map_cons, Run.arguments, hargs']

end Alike

/-! ## Work that takes no notice -/

/-- The two works, each on its host, come to the same and leave hosts that are alike. -/
structure Concur {α : Type} (k k' : String) (work work' : OnHost α) (h h' : Host) : Prop where
  result : (work' h').1 = (work h).1
  hosts : Alike k k' (work h).2 (work' h').2

theorem Concur.bind {α β : Type} {k k' : String} {work work' : OnHost α}
    {next next' : α → OnHost β} {h h' : Host} (hwork : Concur k k' work work' h h')
    (hnext : ∀ a, Concur k k' (next a) (next' a) (work h).2 (work' h').2) :
    Concur k k' (work >>= next) (work' >>= next') h h' := by
  obtain ⟨hresult, hhosts⟩ := hnext (work h).1
  have hbind' : (work' >>= next') h' = next' (work h).1 (work' h').2 :=
    congrArg (fun a => next' a (work' h').2) hwork.result
  refine ⟨?_, ?_⟩
  · rw [hbind']
    exact hresult
  · rw [hbind']
    exact hhosts

/-- On hosts that are alike the work comes to the same, and they stay alike. -/
def Blind {α : Type} (k k' : String) (work : OnHost α) : Prop :=
  ∀ h h', Alike k k' h h' → Concur k k' work work h h'

namespace Blind

variable {α β : Type} {k k' : String} {work : OnHost α} {next : α → OnHost β}

theorem pure (a : α) : Blind k k' (Pure.pure a : OnHost α) := by
  intro h h' halike
  exact ⟨rfl, halike⟩

theorem run (r : Run) : Blind k k' (Host.run r) := by
  intro h h' halike
  have hscript := halike.script
  cases hsome : h.script with
  | none =>
    rw [hsome] at hscript
    constructor
    · simp only [Host.run, hsome, hscript]
    · simp only [Host.run, hsome, hscript]
      exact halike
  | some script =>
    rw [hsome] at hscript
    constructor
    · simp only [Host.run, hsome, hscript, halike.count]
    · simp only [Host.run, hsome, hscript]
      refine ⟨rfl, ?_⟩
      rcases halike.runs with hruns | ⟨before, p, after, hruns, hruns'⟩
      · exact Or.inl (congrArg (· ++ [r]) hruns)
      · exact Or.inr ⟨before, p, after ++ [r], by simp [hruns], by simp [hruns']⟩

theorem bind (hwork : Blind k k' work) (hnext : ∀ a, Blind k k' (next a)) :
    Blind k k' (work >>= next) := by
  intro h h' halike
  have hdone := hwork h h' halike
  exact hdone.bind fun a => hnext a _ _ hdone.hosts

theorem map (hwork : Blind k k' work) (f : α → β) : Blind k k' (do return f (← work)) :=
  hwork.bind fun a => pure (f a)

theorem status (interface : String) : Blind k k' (NetworkManager.status interface) :=
  (run _).map _

theorem pollFrom (interface : String) (elapsed : Nat) :
    Blind k k' (NetworkManager.pollFrom interface elapsed) := by
  induction elapsed using pollFrom.induct with
  | case1 elapsed hlt ih =>
    rw [NetworkManager.pollFrom, if_pos hlt]
    refine ((status interface).map _).bind fun looked => ?_
    cases looked with
    | error f => exact ih.map _
    | ok ip =>
      cases ip with
      | none => exact ih.map _
      | some ip => exact pure _
  | case2 elapsed hlt =>
    rw [NetworkManager.pollFrom, if_neg hlt]
    exact pure _

end Blind

/-! ## Joining with one key and another -/

section

variable (k k' : String) (h : Host)

/-- The one run in which the keys are told. -/
theorem concur_addProfile (p : Profile) :
    Concur k k' (Host.run (.addProfile (p.withKey k))) (Host.run (.addProfile (p.withKey k'))) h h := by
  cases hscript : h.script with
  | none =>
    constructor
    · simp only [Host.run, hscript]
    · simp only [Host.run, hscript]
      exact Alike.refl k k' h
  | some script =>
    constructor
    · simp only [Host.run, hscript]
      rfl
    · simp only [Host.run, hscript]
      exact ⟨rfl, Or.inr ⟨h.runs, p, [], rfl, rfl⟩⟩

theorem concur_join (p : Profile) : Concur k k' (join (p.withKey k)) (join (p.withKey k')) h h := by
  unfold join
  -- The run before is the same for both keys, and those after it are blind to the difference.
  refine Concur.bind (Blind.run (.deleteProfile p.name) h h (Alike.refl k k' h)) fun _ => ?_
  have hadded := concur_addProfile k k' (Host.run (.deleteProfile p.name) h).2 p
  refine hadded.bind fun reply => ?_
  cases required "Failed to create connection profile" reply with
  | error f => exact Blind.pure _ _ _ hadded.hosts
  | ok u => exact (Blind.run (.activateProfile p.name)).map _ _ _ hadded.hosts

/-- A job is given the same replies with either key, and its acts are the same. -/
theorem concur_connectJob (interface : String) (a : Association) :
    Concur k k' (connectJob interface (a.withKey k)) (connectJob interface (a.withKey k')) h h := by
  have hjoined := concur_join k k' h (profileFor interface a)
  unfold connectJob
  refine Concur.bind hjoined fun outcome => ?_
  cases outcome with
  | error f => exact Blind.pure _ _ _ hjoined.hosts
  | ok u => exact (Blind.pollFrom interface 0).map _ _ _ hjoined.hosts

end

end NetworkManager

end Wlan
