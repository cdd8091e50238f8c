import Wlan.Proofs.NetworkManager.Joining

/-!
# Replies to come

What a host replies depends on nothing but how often it was asked about the same thing. So it can be
said beforehand what the coming runs will be told (`Host.reply?`), whatever is run between them. A
claim about a whole run is made in these words: of the host as it was found, and not of what the run
happened to ask.
-/

set_option autoImplicit false

namespace Wlan.NetworkManager.Host

/-- The reply to the `n`-th (from 0) of the coming runs about a verb, if there is the tool. -/
def reply? (h : Host) (v : Verb) (n : Nat) : Option Reply :=
  h.script.map fun script => script v (h.count v + n)

/-- The next run about the verb will be made and succeed. -/
def willSucceed (h : Host) (v : Verb) : Bool := (h.reply? v 0).any Reply.succeeded

/-- The next attempt to join a network will get through: its profile will be created, and then it
will be activated. -/
def willJoin (h : Host) : Bool := h.willSucceed .addProfile && h.willSucceed .activateProfile

/-- A host that was asked these things more, and has the tool. -/
def asked (h : Host) (rs : List Run) : Host := { h with runs := h.runs ++ rs }

@[simp] theorem asked_nil (h : Host) : h.asked [] = h := by
  simp [asked]

@[simp] theorem asked_asked (h : Host) (rs qs : List Run) :
    (h.asked rs).asked qs = h.asked (rs ++ qs) := by
  simp [asked]

@[simp] theorem script_asked (h : Host) (rs : List Run) : (h.asked rs).script = h.script := rfl

theorem after_eq (h : Host) (xs : List Exchange) : h.after xs = h.asked (xs.map Exchange.run) := rfl

theorem made_of_script {h : Host} (hscript : h.script ≠ none) (r : Run) : h.made r = [r] := by
  rw [made_eq, if_neg hscript]

/-! ## Asking -/

theorem fst_run (r : Run) (h : Host) : (run r h).1 = h.reply? r.verb 0 := by
  unfold run reply?
  cases h.script <;> rfl

theorem snd_run (r : Run) (h : Host) : (run r h).2 = h.asked (h.made r) := Makes.run r h

/-- What was asked about something else does not matter. -/
theorem reply?_asked (h : Host) (rs : List Run) (v : Verb) (n : Nat) :
    (h.asked rs).reply? v n = h.reply? v (rs.countP (·.verb = v) + n) := by
  simp [reply?, asked, count, Nat.add_assoc]

theorem reply?_asked_of_ne {h : Host} {rs : List Run} {v : Verb} (hrs : ∀ r ∈ rs, r.verb ≠ v)
    (n : Nat) : (h.asked rs).reply? v n = h.reply? v n := by
  have hcount : rs.countP (fun r => decide (r.verb = v)) = 0 := by
    rw [List.countP_eq_zero]
    intro r hr
    simpa using hrs r hr
  rw [reply?_asked, hcount, Nat.zero_add]

theorem willSucceed_asked_of_ne {h : Host} {rs : List Run} {v : Verb}
    (hrs : ∀ r ∈ rs, r.verb ≠ v) : (h.asked rs).willSucceed v = h.willSucceed v := by
  rw [willSucceed, willSucceed, reply?_asked_of_ne hrs]

theorem succeeded_exchanged (r : Run) (h : Host) :
    succeeded r (h.exchanged r) = h.willSucceed r.verb := by
  rw [exchanged, willSucceed, ← fst_run]
  cases (run r h).1 <;> simp

theorem verb_of_mem_made {h : Host} {r q : Run} (hq : q ∈ h.made r) : q.verb = r.verb := by
  rw [made_eq] at hq
  split at hq
  · exact absurd hq List.not_mem_nil
  · rw [List.mem_singleton.mp hq]

/-! ## Joining -/

theorem succeeded_creation (p : Profile) (h : Host) :
    succeeded (.addProfile p) (p.creation h) = h.willSucceed .addProfile := by
  rw [Profile.succeeded_creation, succeeded_exchanged, after_eq, map_run_exchanged]
  refine willSucceed_asked_of_ne fun r hr => ?_
  rw [verb_of_mem_made hr]
  nofun

/-- Whether an attempt gets through can be said beforehand. -/
theorem isJoined_attempt (p : Profile) (h : Host) : p.isJoined (p.attempt h) = h.willJoin := by
  rw [Profile.isJoined_attempt, succeeded_creation, succeeded_exchanged, after_eq, willJoin]
  congr 1
  refine willSucceed_asked_of_ne fun r hr => ?_
  rw [Profile.map_run_creation] at hr
  split at hr
  · exact absurd hr List.not_mem_nil
  · simp only [List.mem_cons, List.not_mem_nil, or_false] at hr
    rcases hr with rfl | rfl <;> nofun

/-- The runs of an attempt are the steps of its profile, without the last one if the profile will not
be created. -/
theorem runs_attempt {h : Host} (hscript : h.script ≠ none) (p : Profile) :
    (p.attempt h).map Exchange.run
      = p.steps.take (if h.willSucceed .addProfile then 3 else 2) := by
  rw [Profile.map_run_attempt, if_neg hscript, Profile.taken, Profile.succeeded_attempt,
    succeeded_creation]

end Wlan.NetworkManager.Host
