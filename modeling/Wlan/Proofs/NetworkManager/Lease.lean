import Wlan.NetworkManager.Job
import Wlan.Proofs.NetworkManager.Replies

/-!
# Looking for a lease

Whether a lease is found is decided by the addresses that the coming looks at the device will show.
A look that fails shows none, nor does one at a malformed address, and each of them costs a pause
and nothing else (`pollFrom_of_none`). So the looks go on to the first that shows an address
(`Host.IsFirstLease`), or to the sixtieth.
-/

set_option autoImplicit false

namespace Wlan.NetworkManager

/-! ## What looks show -/

/-- The address that the reply to a look shows. -/
def shownAddress (interface : String) : Option Reply → Option Ipv4
  | some r =>
    if r.succeeded then
      match (DeviceStatus.ofLines interface r.text).ipv4 with
      | .ok ip => ip
      | .error _ => none
    else none
  | none => none

/-- The address that the `n`-th (from 0) of the coming looks will show. -/
def Host.address? (h : Host) (interface : String) (n : Nat) : Option Ipv4 :=
  shownAddress interface (h.reply? .showDevice n)

/-- The `n`-th of the coming looks is the first to show an address, and shows this one. -/
structure Host.IsFirstLease (h : Host) (interface : String) (n : Nat) (ip : Ipv4) : Prop where
  shown : h.address? interface n = some ip
  unseen : ∀ k < n, h.address? interface k = none

theorem Host.address?_asked_of_ne {h : Host} {rs : List Run}
    (hrs : ∀ r ∈ rs, r.verb ≠ .showDevice) (interface : String) (n : Nat) :
    (h.asked rs).address? interface n = h.address? interface n := by
  rw [address?, address?, reply?_asked_of_ne hrs]

/-- The runs that so many looks at the device come to. -/
def Host.looks (h : Host) (interface : String) (n : Nat) : List Run :=
  if h.script = none then [] else List.replicate n (.showDevice interface)

@[simp] theorem Host.looks_zero (h : Host) (interface : String) : h.looks interface 0 = [] :=
  ite_self []

theorem Host.made_showDevice (h : Host) (interface : String) :
    h.made (.showDevice interface) = h.looks interface 1 := made_eq _ _

@[simp] theorem Host.looks_asked (h : Host) (rs : List Run) (interface : String) (n : Nat) :
    (h.asked rs).looks interface n = h.looks interface n := rfl

theorem Host.looks_add (h : Host) (interface : String) (k n : Nat) :
    h.looks interface (k + n) = h.looks interface k ++ h.looks interface n := by
  unfold looks
  split
  · rfl
  · exact List.replicate_append_replicate.symm

theorem Host.address?_asked_looks (h : Host) (interface : String) (k n : Nat) :
    (h.asked (h.looks interface k)).address? interface n = h.address? interface (k + n) := by
  by_cases hscript : h.script = none
  · simp [address?, reply?, hscript]
  · rw [looks, if_neg hscript, address?, address?, reply?_asked, List.countP_replicate]
    rfl

theorem Host.IsFirstLease.asked_of_ne {h : Host} {rs : List Run} {interface : String} {n : Nat}
    {ip : Ipv4} (hfirst : h.IsFirstLease interface n ip) (hrs : ∀ r ∈ rs, r.verb ≠ .showDevice) :
    (h.asked rs).IsFirstLease interface n ip where
  shown := by rw [address?_asked_of_ne hrs, hfirst.shown]
  unseen k hk := by rw [address?_asked_of_ne hrs, hfirst.unseen k hk]

/-- Among so many looks there is a first one that shows an address, or there is none. -/
theorem Host.exists_isFirstLease (h : Host) (interface : String) (n : Nat) :
    (∃ k < n, ∃ ip, h.IsFirstLease interface k ip) ∨ ∀ k < n, h.address? interface k = none := by
  induction n with
  | zero => exact Or.inr nofun
  | succ n ih =>
    rcases ih with ⟨k, hk, hfirst⟩ | hnone
    · exact Or.inl ⟨k, Nat.lt_succ_of_lt hk, hfirst⟩
    · cases hshown : h.address? interface n with
      | some ip => exact Or.inl ⟨n, Nat.lt_succ_self n, ip, hshown, hnone⟩
      | none =>
        refine Or.inr fun k hk => ?_
        rcases Nat.lt_succ_iff_lt_or_eq.mp hk with hlt | rfl
        · exact hnone k hlt
        · exact hshown

/-! ## One look -/

theorem lookForLease_eq (interface : String) (h : Host) :
    lookForLease interface h = ((readStatus interface (h.reply? .showDevice 0)).bind
      DeviceStatus.ipv4, h.asked (h.made (.showDevice interface))) := by
  have hlook : lookForLease interface h = ((readStatus interface
      (Host.run (.showDevice interface) h).1).bind DeviceStatus.ipv4,
      (Host.run (.showDevice interface) h).2) := rfl
  rw [hlook, Host.fst_run, Host.snd_run]
  rfl

/-- Whatever a look finds, it is one look. -/
theorem lookForLease_of_fst {interface : String} {h : Host} {found : Except Failure (Option Ipv4)}
    (hfound : (lookForLease interface h).1 = found) :
    lookForLease interface h = (found, h.asked (h.looks interface 1)) := by
  have hlook := lookForLease_eq interface h
  rw [Host.made_showDevice, Prod.ext_iff] at hlook
  exact Prod.ext hfound hlook.2

/-- A look finds what is shown. -/
theorem lookForLease_eq_some_iff {interface : String} {h : Host} {ip : Ipv4} :
    (lookForLease interface h).1 = .ok (some ip) ↔ h.address? interface 0 = some ip := by
  rw [lookForLease_eq, Host.address?]
  dsimp only
  cases h.reply? .showDevice 0 with
  | none => exact ⟨nofun, nofun⟩
  | some r =>
    cases hread : readStatus interface (some r) with
    | error f =>
      have hfailed : ¬ r.succeeded = true := fun hr => by
        rw [readStatus_eq_ok_iff.mpr ⟨hr, rfl⟩] at hread
        cases hread
      rw [shownAddress, if_neg hfailed]
      exact ⟨nofun, nofun⟩
    | ok s =>
      obtain ⟨hr, rfl⟩ := readStatus_eq_ok_iff.mp hread
      rw [shownAddress, if_pos hr]
      simp only [Except.bind]
      cases (DeviceStatus.ofLines interface r.text).ipv4 <;> simp

/-! ## Acts that touch nothing -/

/-- An act of which nobody but the log hears. -/
def Act.IsIdle : Act → Prop
  | .report _ => False
  | .publish _ => False
  | .remark _ => True
  | .pause _ => True

/-- The pauses among the acts, in milliseconds. -/
def pausesOf (acts : List Act) : List Nat :=
  acts.filterMap fun
    | .pause millis => some millis
    | _ => none

@[simp] theorem pausesOf_append (acts more : List Act) :
    pausesOf (acts ++ more) = pausesOf acts ++ pausesOf more :=
  List.filterMap_append

/-! ## Many looks -/

/-- A look that shows no address costs a pause, and the next one is taken. -/
theorem pollFrom_of_none {interface : String} {elapsed : Nat} {h : Host}
    (hlt : elapsed < pollLimit) (hnone : h.address? interface 0 = none) :
    ∃ acts, (∀ a ∈ acts, a.IsIdle) ∧ pausesOf acts = [pollInterval] ∧
      pollFrom interface elapsed h =
        let later := pollFrom interface (elapsed + pollInterval) (h.asked (h.looks interface 1))
        ((later.1.1, acts ++ later.1.2), later.2) := by
  rw [pollFrom, if_pos hlt]
  simp only [bind, StateT.bind]
  cases hfound : (lookForLease interface h).1 with
  | error f =>
    refine ⟨[.remark (.debug ("Polling " ++ interface ++ " for an address: " ++ f.message)),
      .pause pollInterval], by simp [Act.IsIdle], rfl, ?_⟩
    rw [lookForLease_of_fst hfound]
    rfl
  | ok found =>
    cases found with
    | some ip =>
      rw [lookForLease_eq_some_iff, hnone] at hfound
      cases hfound
    | none =>
      refine ⟨[.pause pollInterval], by simp [Act.IsIdle], rfl, ?_⟩
      rw [lookForLease_of_fst hfound]
      rfl

/-- The first look that shows an address is the last one taken. -/
theorem pollFrom_of_some {interface : String} {elapsed : Nat} {h : Host}
    (hlt : elapsed < pollLimit) {ip : Ipv4} (hsome : h.address? interface 0 = some ip) :
    pollFrom interface elapsed h = ((some ip, []), h.asked (h.looks interface 1)) := by
  rw [pollFrom, if_pos hlt]
  simp only [bind, StateT.bind, lookForLease_of_fst (lookForLease_eq_some_iff.mpr hsome)]
  rfl

/-- Looks that show no address are passed over, at the cost of their pauses. -/
theorem pollFrom_skip {interface : String} (n : Nat) {elapsed : Nat} {h : Host}
    (hlimit : elapsed + n * pollInterval ≤ pollLimit)
    (hnone : ∀ k < n, h.address? interface k = none) :
    ∃ acts, (∀ a ∈ acts, a.IsIdle) ∧ pausesOf acts = List.replicate n pollInterval ∧
      pollFrom interface elapsed h =
        let later := pollFrom interface (elapsed + n * pollInterval)
          (h.asked (h.looks interface n))
        ((later.1.1, acts ++ later.1.2), later.2) := by
  induction n generalizing elapsed h with
  | zero =>
    refine ⟨[], fun _ ha => absurd ha List.not_mem_nil, rfl, ?_⟩
    rw [Nat.zero_mul, Nat.add_zero, Host.looks_zero, Host.asked_nil]
    rfl
  | succ n ih =>
    have hstep : elapsed + pollInterval + n * pollInterval = elapsed + (n + 1) * pollInterval := by
      rw [Nat.succ_mul]
      omega
    have hlt : elapsed < pollLimit := by
      have hpause : 0 < pollInterval := by decide
      rw [Nat.succ_mul] at hlimit
      omega
    obtain ⟨first, hfirst, hpause, hpoll⟩ := pollFrom_of_none hlt (hnone 0 (Nat.succ_pos n))
    -- The looks to come are those of the host that was asked once more.
    have hlater : ∀ k < n, (h.asked (h.looks interface 1)).address? interface k = none := by
      intro k hk
      rw [Host.address?_asked_looks, Nat.add_comm]
      exact hnone (k + 1) (Nat.succ_lt_succ hk)
    obtain ⟨rest, hrest, hpauses, hmore⟩ := ih (hstep ▸ hlimit) hlater
    refine ⟨first ++ rest, List.forall_mem_append.mpr ⟨hfirst, hrest⟩, ?_, ?_⟩
    · rw [pausesOf_append, hpause, hpauses]
      rfl
    · rw [hpoll, hmore, hstep, Host.looks_asked, Host.asked_asked, ← Host.looks_add, Nat.add_comm 1]
      simp only [List.append_assoc]

/-! ## The whole search -/

/-- How many looks are taken at most. -/
def maxLooks : Nat := 60

/-- The search ends with the first look that shows an address, if that is one of the sixty, and has
paused once for each look before it. -/
theorem poll_of_isFirstLease {interface : String} {h : Host} {n : Nat} (hn : n < maxLooks)
    {ip : Ipv4} (hfirst : h.IsFirstLease interface n ip) :
    ∃ acts, (∀ a ∈ acts, a.IsIdle) ∧ pausesOf acts = List.replicate n pollInterval ∧
      pollFrom interface 0 h = ((some ip, acts), h.asked (h.looks interface (n + 1))) := by
  have hlimit : 0 + n * pollInterval < pollLimit := by
    simp only [maxLooks, pollInterval, pollLimit] at *
    omega
  obtain ⟨acts, hidle, hpauses, hpoll⟩ := pollFrom_skip n (Nat.le_of_lt hlimit) hfirst.unseen
  have hshown : (h.asked (h.looks interface n)).address? interface 0 = some ip := by
    rw [Host.address?_asked_looks]
    exact hfirst.shown
  refine ⟨acts, hidle, hpauses, ?_⟩
  rw [hpoll, pollFrom_of_some hlimit hshown, Host.looks_asked, Host.asked_asked, ← Host.looks_add]
  simp only [List.append_nil]

/-- If none of the sixty looks shows an address, they are all taken, and there is no lease. -/
theorem poll_of_none {interface : String} {h : Host}
    (hnone : ∀ k < maxLooks, h.address? interface k = none) :
    ∃ acts, (∀ a ∈ acts, a.IsIdle) ∧ pausesOf acts = List.replicate maxLooks pollInterval ∧
      pollFrom interface 0 h = ((none, acts), h.asked (h.looks interface maxLooks)) := by
  have hlimit : 0 + maxLooks * pollInterval = pollLimit := by decide
  obtain ⟨acts, hidle, hpauses, hpoll⟩ := pollFrom_skip maxLooks (Nat.le_of_eq hlimit) hnone
  refine ⟨acts, hidle, hpauses, ?_⟩
  rw [hpoll, hlimit, pollFrom, if_neg (Nat.lt_irrefl _)]
  exact Prod.ext (Prod.ext rfl (List.append_nil acts)) rfl

/-! ## The job of an association -/

/-- An attempt asks for the steps of its profile, and has joined if it gets through. -/
theorem join_eq {p : Profile} {h : Host} (hscript : h.script ≠ none) :
    (join p h).1.isOk = h.willJoin ∧
      (join p h).2 = h.asked (p.steps.take (if h.willSucceed .addProfile then 3 else 2)) := by
  constructor
  · rw [isOk_join, Host.isJoined_attempt]
  · rw [(exchanges_join p h).host_after, Host.after_eq, Host.runs_attempt hscript]

theorem verb_of_mem_steps {p : Profile} {r : Run} (hr : r ∈ p.steps) : r.verb ≠ .showDevice := by
  simp only [Profile.steps, List.mem_cons, List.not_mem_nil, or_false] at hr
  rcases hr with rfl | rfl | rfl <;> simp [Run.verb]

theorem connectJob_of_not_willJoin {interface : String} {a : Association} {h : Host}
    (hscript : h.script ≠ none) (hjoin : h.willJoin = false) :
    ∃ line, connectJob interface a h = ([.remark line, .report (.connectResult statusFailed)],
      h.asked ((profileFor interface a).steps.take
        (if h.willSucceed .addProfile then 3 else 2))) := by
  obtain ⟨hok, hhost⟩ := join_eq (p := profileFor interface a) hscript
  rw [hjoin] at hok
  unfold connectJob
  simp only [bind, StateT.bind]
  generalize join (profileFor interface a) h = joined at hok hhost ⊢
  obtain ⟨outcome, after⟩ := joined
  cases outcome with
  | ok u => cases hok
  | error f =>
    subst hhost
    exact ⟨_, rfl⟩

/-- A job that has joined says so first, and what it does then is to look for a lease. -/
theorem connectJob_of_willJoin {interface : String} {a : Association} {h : Host}
    (hscript : h.script ≠ none) (hjoin : h.willJoin = true) :
    let polled := pollFrom interface 0 (h.asked (profileFor interface a).steps)
    connectJob interface a h
      = (.report (.connectResult statusOk) :: (polled.1.2 ++ leaseActs interface polled.1.1),
        polled.2) := by
  obtain ⟨hok, hhost⟩ := join_eq (p := profileFor interface a) hscript
  have hadd : h.willSucceed .addProfile = true := (Bool.and_eq_true_iff.mp hjoin).1
  rw [hadd, if_pos rfl] at hhost
  have hsteps : (profileFor interface a).steps.take 3 = (profileFor interface a).steps := rfl
  rw [hsteps] at hhost
  rw [hjoin] at hok
  intro polled
  unfold connectJob
  simp only [bind, StateT.bind]
  generalize join (profileFor interface a) h = joined at hok hhost ⊢
  obtain ⟨outcome, after⟩ := joined
  cases outcome with
  | error f => cases hok
  | ok u =>
    subst hhost
    rfl

end Wlan.NetworkManager
