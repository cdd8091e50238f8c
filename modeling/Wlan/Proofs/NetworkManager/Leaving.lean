import Wlan.Proofs.NetworkManager.Lease
import Wlan.Proofs.NetworkManager.Replies
import Wlan.Proofs.NetworkManager.Reports

/-!
# Leaving a network

A request to leave a network has three ways to go on (`Leaving`). The look at the device may fail,
and then the request is rejected; the device may be shown as disconnected, and then there is nothing
to do; or it is in use and told to leave. In the last case it has either left, or had nothing to
leave, or is stuck, and only the log tells (`mem_remarks_of_isStuck`).
-/

set_option autoImplicit false

namespace Wlan.NetworkManager

/-! ## Replies among exchanges -/

/-- A reply to this run is among the exchanges, and it is like this. -/
def Replied (r : Run) (P : Reply → Prop) (xs : List Exchange) : Prop :=
  ∃ reply, ⟨r, reply⟩ ∈ xs ∧ P reply

section

variable {r q : Run} {P : Reply → Prop} {h : Host}

theorem replied_append {xs ys : List Exchange} :
    Replied r P (xs ++ ys) ↔ Replied r P xs ∨ Replied r P ys := by
  simp only [Replied, List.mem_append, or_and_right, exists_or]

theorem replied_exchanged : Replied r P (h.exchanged r) ↔
    ∃ reply, (Host.run r h).1 = some reply ∧ P reply := by
  simp only [Replied, Host.mem_exchanged, true_and]

theorem not_replied_exchanged (hne : q ≠ r) : ¬ Replied r P (h.exchanged q) := by
  rintro ⟨reply, hreply, -⟩
  exact hne (Host.run_of_mem_exchanged hreply).symm

end

/-- The device was shown, and as disconnected. -/
def ShownFree (interface : String) : List Exchange → Prop :=
  Replied (.showDevice interface) fun reply => reply.succeeded = true ∧
    (DeviceStatus.ofLines interface reply.text).isDisconnected = true

/-- The device was told to leave, and has left or had nothing to leave. -/
def HasLeft (interface : String) : List Exchange → Prop :=
  Replied (.disconnect interface) fun reply =>
    reply.succeeded = true ∨ reply.failed = true ∧ meansNotActive reply.complaint = true

/-- By what was exchanged, the device is not in a network any more. -/
def IsLeft (interface : String) (xs : List Exchange) : Prop :=
  ShownFree interface xs ∨ HasLeft interface xs

/-- Why the device has not left by this reply: the run failed, and that not because there was
nothing to leave, or it was not even started. -/
inductive IsStuckBy (reply : Reply) : (why : String) → Prop
  | failed (hfailed : reply.failed = true) (hactive : meansNotActive reply.complaint = false) :
    IsStuckBy reply ("Failed to execute nmcli: " ++ reply.complaint)
  | unstarted {fault : SystemFault} (hending : reply.ending = .unstarted fault) :
    IsStuckBy reply ("Failed to execute nmcli disconnect: " ++ fault.message)

/-- The device was to be told to leave and has not left, for this reason. -/
def IsStuck (interface why : String) : List Exchange → Prop :=
  Replied (.disconnect interface) (IsStuckBy · why)

/-! ## Ways to go on -/

/-- How a request to leave a network goes on: with this word, these acts and these exchanges. -/
inductive Leaving (interface : String) (h : Host) : Verdict → List Act → List Exchange → Prop
  /-- The device could not be looked at. -/
  | unseen {f : Failure} (hs : (status interface h).1 = .error f) :
    Leaving interface h (.refused (.rejected f.message)) [] (h.exchanged (.showDevice interface))
  | free (hfree : ShownFree interface (h.exchanged (.showDevice interface))) :
    Leaving interface h (.refused .already) [] (h.exchanged (.showDevice interface))
  | told (hshown : ShownInUse interface (h.exchanged (.showDevice interface))) (seen : Host)
    (hseen : seen = h.after (h.exchanged (.showDevice interface))) :
    Leaving interface h .accepted (disconnectActs interface (disconnect interface seen).1)
      (h.exchanged (.showDevice interface) ++ seen.exchanged (.disconnect interface))

theorem shownFree_iff (interface : String) (h : Host) :
    ShownFree interface (h.exchanged (.showDevice interface)) ↔
      ∃ s, (status interface h).1 = .ok s ∧ s.isDisconnected = true :=
  exists_shown_iff interface h (·.isDisconnected = true)

theorem exists_leaving (interface : String) (h : Host) :
    ∃ xs, Exchanges (request interface .disconnect) h xs ∧
      Leaving interface h (request interface .disconnect h).1.1
        (request interface .disconnect h).1.2 xs := by
  by_cases hshown : ShownInUse interface (h.exchanged (.showDevice interface))
  · obtain ⟨hxs, hanswer⟩ := exchanges_request_disconnect_accepted hshown
    rw [hanswer]
    exact ⟨_, hxs, .told hshown _ rfl⟩
  · obtain ⟨hxs, -⟩ := exchanges_request_disconnect_refused hshown
    refine ⟨_, hxs, ?_⟩
    rw [request_disconnect]
    cases hlooked : status interface h with
    | mk outcome seen =>
      have hs : (status interface h).1 = outcome := congrArg Prod.fst hlooked
      cases outcome with
      | error f => exact .unseen hs
      | ok s =>
        cases hfree : s.isDisconnected with
        | true =>
          dsimp only
          rw [if_pos hfree]
          exact .free ((shownFree_iff interface h).mpr ⟨s, hs, hfree⟩)
        | false => exact absurd ((shownInUse_iff interface h).mpr ⟨s, hs, hfree⟩) hshown

/-! ## What has become of the device -/

section

variable {interface why : String} {h : Host}

theorem not_shownFree_of_shownInUse
    (hshown : ShownInUse interface (h.exchanged (.showDevice interface))) :
    ¬ ShownFree interface (h.exchanged (.showDevice interface)) := by
  obtain ⟨s, hs, hinuse⟩ := (shownInUse_iff interface h).mp hshown
  rw [shownFree_iff]
  rintro ⟨s', hs', hfree⟩
  have hsame : s = s' := Except.ok.inj (hs.symm.trans hs')
  rw [hsame, hfree] at hinuse
  cases hinuse

theorem not_shown_of_unseen {f : Failure} (hs : (status interface h).1 = .error f) :
    ¬ ShownFree interface (h.exchanged (.showDevice interface)) ∧
      ¬ ShownInUse interface (h.exchanged (.showDevice interface)) := by
  simp [shownFree_iff, shownInUse_iff, hs]

/-- Whoever was told to leave has left, or had nothing to leave, or is stuck. -/
theorem not_isStuckBy_iff {reply : Reply} : (∀ why, ¬ IsStuckBy reply why) ↔
    reply.succeeded = true ∨ reply.failed = true ∧ meansNotActive reply.complaint = true := by
  cases hending : reply.ending with
  | unstarted fault =>
    refine iff_of_false (fun hnone => hnone _ (.unstarted hending)) ?_
    simp [Reply.succeeded, Reply.failed, hending]
  | exited code =>
    have hsucceeded : reply.succeeded = true ↔ code = 0 := by simp [Reply.succeeded, hending]
    have hfailed : reply.failed = true ↔ code ≠ 0 := by simp [Reply.failed, hending]
    rw [hsucceeded, hfailed]
    constructor
    · intro hnone
      by_cases hcode : code = 0
      · exact Or.inl hcode
      · cases hactive : meansNotActive reply.complaint with
        | true => exact Or.inr ⟨hcode, rfl⟩
        | false => exact absurd (.failed (hfailed.mpr hcode) hactive) (hnone _)
    · rintro hleft why (⟨hcode, hactive⟩ | hunstarted)
      · rcases hleft with hzero | ⟨-, hidle⟩
        · exact hfailed.mp hcode hzero
        · rw [hidle] at hactive
          cases hactive
      · rw [hending] at hunstarted
        cases hunstarted

/-- With the tool at hand, a device that was told to leave has left unless it is stuck. -/
theorem hasLeft_iff (hscript : h.script ≠ none) :
    HasLeft interface (h.exchanged (.disconnect interface)) ↔
      ∀ why, ¬ IsStuck interface why (h.exchanged (.disconnect interface)) := by
  obtain ⟨script, hsome⟩ := Option.ne_none_iff_exists'.mp hscript
  have hreply : ∃ reply, (Host.run (.disconnect interface) h).1 = some reply := by
    rw [Host.fst_run, Host.reply?, hsome]
    exact ⟨_, rfl⟩
  obtain ⟨reply, hreply⟩ := hreply
  simp only [HasLeft, IsStuck, replied_exchanged, hreply, Option.some.injEq, exists_eq_left']
  exact not_isStuckBy_iff.symm

/-- A job that leaves says how that ended at once, after a remark at most. -/
theorem exists_disconnectActs_eq (interface : String) (outcome : Except Failure Unit) :
    ∃ before status, disconnectActs interface outcome
        = before ++ [.report (.disconnectResult status)] ∧
      (∀ a ∈ before, a.IsIdle) ∧ pausesOf before = [] := by
  cases outcome with
  | ok u => exact ⟨[], statusOk, rfl, fun _ ha => absurd ha List.not_mem_nil, rfl⟩
  | error f => exact ⟨[_], statusFailed, rfl, List.forall_mem_singleton.mpr trivial, rfl⟩

/-- What keeps a device stuck is how the run that was to tell it to leave has failed. -/
theorem readDisconnect_of_isStuckBy (interface : String) {reply : Reply}
    (hstuck : IsStuckBy reply why) :
    ∃ f, readDisconnect interface (some reply) = .error f ∧ f.message = why ∧
      ∀ name, f.cause ≠ .interfaceNotActive name := by
  cases hstuck with
  | failed hfailed hactive =>
    have hsucceeded : ¬ reply.succeeded = true := fun h => by
      rw [Reply.failed, Reply.succeeded_iff.mp h] at hfailed
      cases hfailed
    have hread : readDisconnect interface (some reply)
        = .error (.of (.toolFailed reply.complaint)) := by
      cases hending : reply.ending with
      | exited code =>
        rw [readDisconnect, started_of_exited _ hending]
        simp only [bind, Except.bind, if_neg hsucceeded, hactive, Bool.false_eq_true, reduceIte]
        rfl
      | unstarted fault =>
        rw [Reply.failed, hending] at hfailed
        cases hfailed
    exact ⟨_, hread, rfl, nofun⟩
  | @unstarted fault hending =>
    have hread : readDisconnect interface (some reply)
        = .error ⟨["Failed to execute nmcli disconnect"], .system fault⟩ := by
      rw [readDisconnect, started_of_unstarted _ hending]
      rfl
    exact ⟨_, hread, rfl, nofun⟩

/-- That the device is stuck is remarked. -/
theorem mem_remarks_of_isStuck
    (hstuck : IsStuck interface why (h.exchanged (.disconnect interface))) :
    .error ("nmcli disconnect on " ++ interface ++ " failed: " ++ why)
      ∈ remarks (disconnectActs interface (disconnect interface h).1) := by
  obtain ⟨reply, hreply, hby⟩ := replied_exchanged.mp hstuck
  obtain ⟨f, hread, rfl, hcause⟩ := readDisconnect_of_isStuckBy interface hby
  have hdisconnect : (disconnect interface h).1 = .error f := by
    rw [← hread, ← hreply]
    rfl
  obtain ⟨contexts, cause⟩ := f
  rw [hdisconnect]
  cases cause with
  | interfaceNotActive name => exact absurd rfl (hcause name)
  | _ => exact List.mem_cons_self

end

end Wlan.NetworkManager
