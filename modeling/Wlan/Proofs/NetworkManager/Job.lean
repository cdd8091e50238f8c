import Wlan.NetworkManager.Job
import Wlan.Proofs.Manager.History

/-!
# What a job owes

A job that was taken on has one thing to report at all costs, the end of its errand. Whatever the
tool replies, and whichever way the job takes through its replies, that report is among its acts.
A job that reports findings of a scan reports the end of the scan after each of them.

The host that a request is made on is arbitrary in all of this, so that what is said here holds of
every sequence of replies.
-/

set_option autoImplicit false

namespace Wlan

def Request.errand : Request → Errand
  | scan => .scan
  | associate _ => .connect
  | disconnect => .disconnect

theorem Command.errand_request {c : Command} {r : Request} (h : c.request = .ok r) :
    r.errand = c.errand := by
  cases c with
  | scan =>
    cases h
    rfl
  | connect credentials =>
    rw [request] at h
    split at h
    · cases h
    · cases h
      rfl
  | disconnect =>
    cases h
    rfl

namespace NetworkManager

/-- An event of this kind is still to be reported. -/
def Owes (job : List Act) (k : Kind) : Prop := ∃ e ∈ reports job, e.kind = k

/-- Every finding of a scan is followed by the end of the scan. -/
def ClosesScans (job : List Act) : Prop :=
  ∀ found rest, (.report (.scanResult found) :: rest) <:+ job → Owes rest .scanDone

/-! ## What is reported -/

theorem mem_reports {job : List Act} {e : Event} : e ∈ reports job ↔ .report e ∈ job := by
  unfold reports
  rw [List.mem_filterMap]
  constructor
  · rintro ⟨a, ha, hae⟩
    cases a with
    | report e' =>
      cases hae
      exact ha
    | _ => cases hae
  · intro he
    exact ⟨.report e, he, rfl⟩

theorem owes_of_mem {job : List Act} {e : Event} (h : .report e ∈ job) : Owes job e.kind :=
  ⟨e, mem_reports.mpr h, rfl⟩

theorem reports_append (acts more : List Act) :
    reports (acts ++ more) = reports acts ++ reports more :=
  List.filterMap_append

/-- A scan reports every access point that it found, and then that it is over. -/
theorem reports_scanActs (interface : String) (outcome : Except Failure (List AccessPoint)) :
    reports (scanActs interface outcome) = match outcome with
      | .ok found => found.map (fun a => .scanResult a.sighting) ++ [.scanDone statusOk]
      | .error _ => [.scanDone statusFailed] := by
  cases outcome with
  | error f => rfl
  | ok found =>
    have hfound : reports (found.map fun a => .report (.scanResult a.sighting))
        = found.map fun a => .scanResult a.sighting := by
      rw [reports, List.filterMap_map]
      exact congrFun List.filterMap_eq_map' found
    rw [scanActs, reports_append, hfound]
    rfl

/-- Looking for a lease pauses and remarks, and that is all. -/
theorem reports_pollFrom (interface : String) (elapsed : Nat) (host : Host) :
    reports (pollFrom interface elapsed host).1.2 = [] := by
  induction elapsed using pollFrom.induct generalizing host with
  | case1 elapsed hlt ih =>
    have hnext := ih (lookForLease interface host).2
    rw [pollFrom, if_pos hlt]
    simp only [bind, StateT.bind]
    generalize lookForLease interface host = looked at hnext ⊢
    obtain ⟨found, after⟩ := looked
    cases found with
    | error f => exact hnext
    | ok ip =>
      cases ip with
      | none => exact hnext
      | some ip => rfl
  | case2 elapsed hlt =>
    rw [pollFrom, if_neg hlt]
    rfl

/-- The result of an association is known before a lease is looked for. -/
theorem reports_connectJob (interface : String) (a : Association) (host : Host) :
    reports (connectJob interface a host).1 =
      if (join (profileFor interface a) host).1.isOk then
        .connectResult statusOk :: ((pollFrom interface 0
          (join (profileFor interface a) host).2).1.1.map Event.leaseBound).toList
      else [.connectResult statusFailed] := by
  unfold connectJob
  simp only [bind, StateT.bind]
  generalize join (profileFor interface a) host = joined
  obtain ⟨outcome, after⟩ := joined
  cases outcome with
  | error f => rfl
  | ok u =>
    have hpoll := reports_pollFrom interface 0 after
    dsimp only [StateT.bind]
    generalize pollFrom interface 0 after = polled at hpoll ⊢
    obtain ⟨⟨ip, acts⟩, last⟩ := polled
    have hlease : reports (leaseActs interface ip) = (ip.map Event.leaseBound).toList := by
      cases ip <;> rfl
    have hacts : reports (.report (.connectResult statusOk) :: acts ++ leaseActs interface ip)
        = .connectResult statusOk :: (reports acts ++ reports (leaseActs interface ip)) := by
      rw [← reports_append]
      rfl
    rw [hpoll, hlease] at hacts
    exact hacts

theorem reports_disconnectActs (interface : String) (outcome : Except Failure Unit) :
    reports (disconnectActs interface outcome)
      = [.disconnectResult (if outcome.isOk then statusOk else statusFailed)] := by
  cases outcome <;> rfl

/-! ## Jobs that end no scan -/

theorem closesScans_of_no_finding {job : List Act}
    (h : ∀ e ∈ reports job, e.kind ≠ .scanResult) : ClosesScans job := by
  intro found rest hsuffix
  have hmem : .report (.scanResult found) ∈ job := hsuffix.subset List.mem_cons_self
  exact absurd rfl (h _ (mem_reports.mpr hmem))

theorem connectJob_owes (interface : String) (a : Association) (host : Host) :
    Owes (connectJob interface a host).1 .connectResult ∧
      ∀ e ∈ reports (connectJob interface a host).1, e.kind ≠ .scanResult := by
  unfold Owes
  rw [reports_connectJob]
  split
  · refine ⟨⟨_, List.mem_cons_self, rfl⟩, List.forall_mem_cons.mpr ⟨nofun, fun e he => ?_⟩⟩
    obtain ⟨ip, -, rfl⟩ := Option.map_eq_some_iff.mp (Option.mem_toList.mp he)
    nofun
  · exact ⟨⟨_, List.mem_cons_self, rfl⟩, List.forall_mem_singleton.mpr nofun⟩

theorem disconnectActs_owes (interface : String) (outcome : Except Failure Unit) :
    Owes (disconnectActs interface outcome) .disconnectResult ∧
      ∀ e ∈ reports (disconnectActs interface outcome), e.kind ≠ .scanResult := by
  unfold Owes
  rw [reports_disconnectActs]
  exact ⟨⟨_, List.mem_cons_self, rfl⟩, List.forall_mem_singleton.mpr nofun⟩

/-! ## Jobs that end a scan -/

theorem mem_of_suffix_append_singleton {α : Type} {l rest : List α} {x z : α} (hne : x ≠ z)
    (h : (x :: rest) <:+ l ++ [z]) : z ∈ rest := by
  obtain ⟨before, hsplit⟩ := h
  rcases List.eq_nil_or_concat rest with rfl | ⟨init, last, rfl⟩
  · have hlast := (List.append_inj' hsplit rfl).2
    exact absurd (List.cons.inj hlast).1 hne
  · rw [List.concat_eq_append, ← List.cons_append, ← List.append_assoc] at hsplit
    have hlast := (List.append_inj' hsplit rfl).2
    rw [(List.cons.inj hlast).1]
    simp

/-- The end of the scan is the last act, so that it follows everything. -/
theorem closesScans_of_last {job acts : List Act} {status : Int}
    (h : job = acts ++ [.report (.scanDone status)]) : ClosesScans job := by
  subst h
  intro found rest hsuffix
  exact owes_of_mem (mem_of_suffix_append_singleton (by simp) hsuffix)

/-- A scan ends by saying so, whatever there was to find. -/
theorem scanJob_eq (interface : String) (host : Host) :
    ∃ acts status, (scanJob interface host).1 = acts ++ [.report (.scanDone status)] := by
  have hjob : (scanJob interface host).1
      = .pause scanPause :: scanActs interface (scan interface host).1 := rfl
  rw [hjob]
  cases (scan interface host).1 with
  | error f => exact ⟨[_, _], statusFailed, rfl⟩
  | ok found =>
    refine ⟨.pause scanPause :: (found.map (fun a => .report (.scanResult a.sighting))
      ++ [.publish found]), statusOk, ?_⟩
    rw [scanActs, List.cons_append, List.append_assoc]
    rfl

/-! ## Requests -/

theorem request_scan (interface : String) (host : Host) :
    (request interface .scan host).1 = (.accepted, (scanJob interface host).1) := rfl

theorem request_associate (interface : String) (a : Association) (host : Host) :
    (request interface (.associate a) host).1
      = if a.ssid = "" then (.refused (.rejected "empty SSID"), [])
        else (.accepted, (connectJob interface a host).1) := by
  by_cases hssid : a.ssid = ""
  · rw [request, if_pos hssid, if_pos hssid]
    rfl
  · rw [request, if_neg hssid, if_neg hssid]
    rfl

theorem request_disconnect (interface : String) (host : Host) :
    (request interface .disconnect host).1
      = match status interface host with
        | (.error f, _) => (.refused (.rejected f.message), [])
        | (.ok s, seen) =>
          if s.isDisconnected then (.refused .already, [])
          else (.accepted, disconnectActs interface (disconnect interface seen).1) := by
  rw [request]
  simp only [bind, StateT.bind]
  generalize status interface host = looked
  obtain ⟨outcome, seen⟩ := looked
  cases outcome with
  | error f => rfl
  | ok s =>
    by_cases hs : s.isDisconnected = true
    · simp only [if_pos hs]
      rfl
    · simp only [if_neg hs]
      rfl

/-- What the word of the stack says of the job. -/
structure IsFitting (r : Request) (answer : Verdict × List Act) : Prop where
  owes : answer.1 = .accepted → Owes answer.2 r.errand.ender
  closes : ClosesScans answer.2
  /-- A scan is never refused. -/
  takes : r.errand = .scan → answer.1 = .accepted

theorem isFitting_refused {r : Request} (hr : r.errand ≠ .scan) (why : Refusal) :
    IsFitting r (.refused why, []) where
  owes := nofun
  closes := closesScans_of_no_finding fun _ he => absurd he List.not_mem_nil
  takes := fun h => absurd h hr

/-- **A request that is taken leaves a job that reports its end.** -/
theorem isFitting_request (interface : String) (r : Request) (host : Host) :
    IsFitting r ((request interface r host).1) := by
  cases r with
  | scan =>
    obtain ⟨acts, status, hjob⟩ := scanJob_eq interface host
    rw [request_scan, hjob]
    refine ⟨fun _ => ?_, closesScans_of_last rfl, fun _ => rfl⟩
    exact owes_of_mem (e := .scanDone status) (List.mem_append_right _ List.mem_cons_self)
  | associate a =>
    rw [request_associate]
    split
    · exact isFitting_refused (by simp [Request.errand]) _
    · obtain ⟨howes, hfinding⟩ := connectJob_owes interface a host
      exact ⟨fun _ => howes, closesScans_of_no_finding hfinding, nofun⟩
  | disconnect =>
    rw [request_disconnect]
    split
    · exact isFitting_refused (by decide) _
    · split
      · exact isFitting_refused (by decide) _
      · obtain ⟨howes, hfinding⟩ := disconnectActs_owes interface _
        exact ⟨fun _ => howes, closesScans_of_no_finding hfinding, nofun⟩

end NetworkManager

end Wlan
