import Wlan.Proofs.NetworkManager.Job
import Wlan.Proofs.NetworkManager.Joining

/-!
# What is reported of a request

A request is answered at once and worked off by runs, and what is reported of it in the end is
decided by the replies to these runs and by nothing else. `Service.KeepsProtocol` says how. The
reports of an errand are complete, so that whoever waits for its end hears of it once, and there
are none where the request was refused.

Requests are served one after the other on one host (`serve_keepsProtocol`), of which nothing is
assumed: the tool may be missing, fail at any run and write anything. Where the runs of several
jobs stand between each other, each job gets its replies from all over the script, and some other
script gives just these replies in a row.
-/

set_option autoImplicit false

namespace Wlan.NetworkManager

/-! ## The protocol -/

/-- What is reported of a scan of the interface. -/
structure ReportsScan (interface : String) (xs : List Exchange) (events : List Event) : Prop where
  listed : ∀ reply, ⟨.listAccessPoints interface, reply⟩ ∈ xs → reply.succeeded = true →
    events = (AccessPoint.ofListing reply.text).map (fun a => .scanResult a.sighting)
      ++ [.scanDone statusOk]
  failed : succeeded (.listAccessPoints interface) xs = false → events = [.scanDone statusFailed]

/-- What is reported of joining a network through the profile. -/
structure ReportsJoin (p : Profile) (xs : List Exchange) (events : List Event) : Prop where
  /-- A lease may follow, and only here. -/
  joined : p.isJoined xs = true →
    ∃ lease : Option Ipv4, events = .connectResult statusOk :: (lease.map .leaseBound).toList
  failed : p.isJoined xs = false → events = [.connectResult statusFailed]
  /-- A profile that could not be created is not activated. -/
  stops : succeeded (.addProfile p) xs = false → ∀ x ∈ xs, x.run ≠ .activateProfile p.name

/-- What is reported of leaving the network that the interface is in. -/
def ReportsLeave (interface : String) (xs : List Exchange) (events : List Event) : Prop :=
  events = [.disconnectResult
    (if succeeded (.disconnect interface) xs then statusOk else statusFailed)]

/-- The device was shown, and not as disconnected. -/
def ShownInUse (interface : String) (xs : List Exchange) : Prop :=
  ∃ reply, ⟨.showDevice interface, reply⟩ ∈ xs ∧ reply.succeeded = true ∧
    (DeviceStatus.ofLines interface reply.text).isDisconnected = false

/-- A request, what was exchanged with the host for it, the word on it, and the acts of its job. -/
structure Service where
  request : Request
  exchanges : List Exchange
  verdict : Verdict
  acts : List Act

namespace Service

/-- The request was taken if this was so and only then; if it was, this is what is reported of it,
and nothing if it was not. -/
structure IsAnswered (s : Service) (may : Prop) (reported : List Event → Prop) : Prop where
  taken : s.verdict = .accepted ↔ may
  accepted : s.verdict = .accepted → reported (reports s.acts)
  refused : s.verdict ≠ .accepted → reports s.acts = []

/-- A scan is always taken. Joining is refused where no network is named, and leaving where the
device is not seen to be in one. -/
def KeepsProtocol (interface : String) (s : Service) : Prop :=
  match s.request with
  | .scan => s.IsAnswered True (ReportsScan interface s.exchanges)
  | .associate a =>
    s.IsAnswered (a.ssid ≠ "") (ReportsJoin (profileFor interface a) s.exchanges)
  | .disconnect =>
    s.IsAnswered (ShownInUse interface s.exchanges) (ReportsLeave interface s.exchanges)

variable {request : Request} {xs : List Exchange} {may : Prop} {reported : List Event → Prop}

theorem isAnswered_accepted {acts : List Act} (hmay : may) (hreported : reported (reports acts)) :
    IsAnswered ⟨request, xs, .accepted, acts⟩ may reported :=
  ⟨⟨fun _ => hmay, fun _ => rfl⟩, fun _ => hreported, fun h => absurd rfl h⟩

theorem isAnswered_refused (why : Refusal) (hmay : ¬ may) :
    IsAnswered ⟨request, xs, .refused why, []⟩ may reported := by
  have hrefused : Verdict.refused why ≠ .accepted := by simp
  exact ⟨⟨fun h => absurd h hrefused, fun h => absurd h hmay⟩, fun h => absurd h hrefused,
    fun _ => rfl⟩

end Service

/-! ## Scanning -/

theorem readAccessPoints_of_succeeded {reply : Reply} (h : reply.succeeded = true) :
    readAccessPoints (some reply) = .ok (AccessPoint.ofListing reply.text) := by
  rw [readAccessPoints, listing_of_succeeded _ h]
  rfl

/-- A scan finds what its listing shows, if that was made and succeeded. -/
theorem exchanges_scan (interface : String) (h : Host) :
    ∃ xs, Exchanges (scan interface) h xs ∧
      (scan interface h).1.isOk = succeeded (.listAccessPoints interface) xs ∧
      ∀ reply, ⟨.listAccessPoints interface, reply⟩ ∈ xs → reply.succeeded = true →
        (scan interface h).1 = .ok (AccessPoint.ofListing reply.text) := by
  have hrescan := Exchanges.run (.rescan interface) h
  have hlist := Exchanges.run (.listAccessPoints interface)
    (h.after (h.exchanged (.rescan interface)))
  have hscan : (scan interface h).1 = readAccessPoints (Host.run (.listAccessPoints interface)
      (h.after (h.exchanged (.rescan interface)))).1 := by
    rw [scan, Host.run_bind, Host.run_bind]
    rfl
  have hother : succeeded (.listAccessPoints interface) (h.exchanged (.rescan interface)) = false :=
    succeeded_exchanged_of_ne (by simp) h
  refine ⟨_, hrescan.bind (hlist.map _), ?_, fun reply hreply hsucceeded => ?_⟩
  · rw [hscan, readAccessPoints, isOk_map, isOk_listing, succeeded_append, hother, Bool.false_or]
  · rcases List.mem_append.mp hreply with hbefore | hthis
    · exact absurd (Host.run_of_mem_exchanged hbefore) (by simp)
    · rw [hscan, (Host.mem_exchanged.mp hthis).2, readAccessPoints_of_succeeded hsucceeded]

theorem exchanges_scanJob (interface : String) (h : Host) :
    ∃ xs, Exchanges (scanJob interface) h xs ∧
      ReportsScan interface xs (reports (scanJob interface h).1) := by
  obtain ⟨xs, hxs, hok, hlisted⟩ := exchanges_scan interface h
  have hjob : reports (scanJob interface h).1 = reports (scanActs interface (scan interface h).1) :=
    rfl
  rw [hjob, reports_scanActs]
  refine ⟨xs, hxs.map _, fun reply hreply hsucceeded => ?_, fun hfailed => ?_⟩
  · rw [hlisted reply hreply hsucceeded]
  · rw [hfailed] at hok
    cases hscan : (scan interface h).1 with
    | error f => rfl
    | ok found =>
      rw [hscan] at hok
      cases hok

/-! ## Joining -/

/-- Looking for a lease does not bear on whether the network was joined. -/
theorem isJoined_append_looks {p : Profile} {xs looks : List Exchange} {interface : String}
    (hlooks : ∀ x ∈ looks, x.run = .showDevice interface) :
    p.isJoined (xs ++ looks) = p.isJoined xs := by
  have hnot {r : Run} (hr : r ≠ .showDevice interface) : succeeded r looks = false :=
    succeeded_eq_false fun x hx => hlooks x hx ▸ hr.symm
  simp [Profile.isJoined, hnot]

theorem run_of_mem_attempt {p : Profile} {h : Host}
    (hfailed : succeeded (.addProfile p) (p.attempt h) = false) {x : Exchange}
    (hx : x ∈ p.attempt h) : x.run ≠ .activateProfile p.name := by
  rw [Profile.succeeded_attempt] at hfailed
  rw [Profile.attempt, hfailed] at hx
  exact Profile.run_of_mem_creation (by simpa using hx)

theorem exchanges_connectJob_reports (interface : String) (a : Association) (h : Host) :
    ∃ xs, Exchanges (connectJob interface a) h xs ∧
      ReportsJoin (profileFor interface a) xs (reports (connectJob interface a h).1) := by
  obtain ⟨looks, hjob, hlooks⟩ := exchanges_connectJob interface a h
  refine ⟨_, hjob, ?_⟩
  rw [reports_connectJob, isOk_join]
  refine ⟨fun hjoined => ?_, fun hjoined => ?_, fun hfailed x hx => ?_⟩
  · rw [isJoined_append_looks hlooks] at hjoined
    exact ⟨_, if_pos hjoined⟩
  · rw [isJoined_append_looks hlooks] at hjoined
    rw [hjoined]
    rfl
  · rw [succeeded_append, Bool.or_eq_false_iff] at hfailed
    rcases List.mem_append.mp hx with hstep | hlook
    · exact run_of_mem_attempt hfailed.1 hstep
    · rw [hlooks x hlook]
      simp

/-! ## Leaving -/

theorem isOk_readDisconnect (interface : String) (r : Run) (h : Host) :
    (readDisconnect interface (Host.run r h).1).isOk = succeeded r (h.exchanged r) := by
  refine isOk_started_bind (fun reply => ?_) r h
  cases hreply : reply.succeeded
  · cases meansNotActive reply.complaint <;> rfl
  · rfl

theorem exchanges_disconnect (interface : String) (h : Host) :
    Exchanges (disconnect interface) h (h.exchanged (.disconnect interface)) ∧
      (disconnect interface h).1.isOk
        = succeeded (.disconnect interface) (h.exchanged (.disconnect interface)) :=
  ⟨(Exchanges.run _ h).map _, isOk_readDisconnect interface _ h⟩

/-- The word on a disconnect is the outcome of a look at the device. -/
theorem status_eq (interface : String) (h : Host) :
    status interface h = (readStatus interface (Host.run (.showDevice interface) h).1,
      h.after (h.exchanged (.showDevice interface))) := by
  rw [status, Host.run_bind]
  rfl

theorem exchanges_status (interface : String) (h : Host) :
    Exchanges (status interface) h (h.exchanged (.showDevice interface)) :=
  (Exchanges.run _ h).map _

/-- A look is told by its exchange. -/
theorem fst_status_eq_ok_iff {interface : String} {h : Host} {s : DeviceStatus} :
    (status interface h).1 = .ok s ↔
      ∃ reply, ⟨.showDevice interface, reply⟩ ∈ h.exchanged (.showDevice interface) ∧
        reply.succeeded = true ∧ s = DeviceStatus.ofLines interface reply.text := by
  rw [status_eq]
  constructor
  · intro hs
    cases hreply : (Host.run (.showDevice interface) h).1 with
    | none =>
      rw [hreply] at hs
      cases hs
    | some reply =>
      rw [hreply] at hs
      exact ⟨reply, Host.mem_exchanged.mpr ⟨rfl, hreply⟩, readStatus_eq_ok_iff.mp hs⟩
  · rintro ⟨reply, hreply, hshown⟩
    rw [(Host.mem_exchanged.mp hreply).2]
    exact readStatus_eq_ok_iff.mpr hshown

/-- What is so of the device by the reply to a look is so by the look. -/
theorem exists_shown_iff (interface : String) (h : Host) (P : DeviceStatus → Prop) :
    (∃ reply, ⟨.showDevice interface, reply⟩ ∈ h.exchanged (.showDevice interface) ∧
        reply.succeeded = true ∧ P (DeviceStatus.ofLines interface reply.text)) ↔
      ∃ s, (status interface h).1 = .ok s ∧ P s := by
  simp only [fst_status_eq_ok_iff]
  constructor
  · rintro ⟨reply, hreply, hsucceeded, hstatus⟩
    exact ⟨_, ⟨reply, hreply, hsucceeded, rfl⟩, hstatus⟩
  · rintro ⟨s, ⟨reply, hreply, hsucceeded, rfl⟩, hstatus⟩
    exact ⟨reply, hreply, hsucceeded, hstatus⟩

theorem shownInUse_iff (interface : String) (h : Host) :
    ShownInUse interface (h.exchanged (.showDevice interface)) ↔
      ∃ s, (status interface h).1 = .ok s ∧ s.isDisconnected = false :=
  exists_shown_iff interface h (·.isDisconnected = false)

/-! ## Requests -/

/-- A request as it is served on this host. -/
def serviceOf (interface : String) (r : Request) (xs : List Exchange) (h : Host) : Service :=
  ⟨r, xs, (request interface r h).1.1, (request interface r h).1.2⟩

theorem keepsProtocol_scan (interface : String) (h : Host) :
    ∃ xs, Exchanges (request interface .scan) h xs ∧
      (serviceOf interface .scan xs h).KeepsProtocol interface := by
  obtain ⟨xs, hxs, hreports⟩ := exchanges_scanJob interface h
  exact ⟨xs, hxs.map _, Service.isAnswered_accepted trivial hreports⟩

theorem keepsProtocol_associate (interface : String) (a : Association) (h : Host) :
    ∃ xs, Exchanges (request interface (.associate a)) h xs ∧
      (serviceOf interface (.associate a) xs h).KeepsProtocol interface := by
  by_cases hssid : a.ssid = ""
  · have hrequest : request interface (.associate a)
        = pure (.refused (.rejected "empty SSID"), []) := by
      rw [request, if_pos hssid]
    unfold serviceOf
    rw [hrequest]
    exact ⟨[], Exchanges.pure _ h, Service.isAnswered_refused _ (absurd hssid)⟩
  · have hrequest : request interface (.associate a)
        = do return (.accepted, ← connectJob interface a) := by
      rw [request, if_neg hssid]
    obtain ⟨xs, hxs, hreports⟩ := exchanges_connectJob_reports interface a h
    unfold serviceOf
    rw [hrequest]
    exact ⟨xs, hxs.map _, Service.isAnswered_accepted hssid hreports⟩

/-- A device that is not seen in use is not left. -/
theorem exchanges_request_disconnect_refused {interface : String} {h : Host}
    (hshown : ¬ ShownInUse interface (h.exchanged (.showDevice interface))) :
    Exchanges (request interface .disconnect) h (h.exchanged (.showDevice interface)) ∧
      ∃ why, (request interface .disconnect h).1 = (.refused why, []) := by
  have hlook := exchanges_status interface h
  rw [shownInUse_iff] at hshown
  rw [request_disconnect, ← List.append_nil (h.exchanged (.showDevice interface))]
  cases hlooked : status interface h with
  | mk outcome seen =>
    rw [hlooked] at hshown
    cases outcome with
    | error f =>
      refine ⟨hlook.bind ?_, _, rfl⟩
      rw [hlooked]
      exact Exchanges.pure _ _
    | ok s =>
      have hs : s.isDisconnected = true := by simpa using hshown
      refine ⟨hlook.bind ?_, _, if_pos hs⟩
      simp only [hlooked, if_pos hs]
      exact Exchanges.pure _ _

/-- A device that is seen in use is told to leave. -/
theorem exchanges_request_disconnect_accepted {interface : String} {h : Host}
    (hshown : ShownInUse interface (h.exchanged (.showDevice interface))) :
    let seen := h.after (h.exchanged (.showDevice interface))
    Exchanges (request interface .disconnect) h
        (h.exchanged (.showDevice interface) ++ seen.exchanged (.disconnect interface)) ∧
      (request interface .disconnect h).1
        = (.accepted, disconnectActs interface (disconnect interface seen).1) := by
  intro seen
  have hlook := exchanges_status interface h
  obtain ⟨s, hs, hinuse⟩ := (shownInUse_iff interface h).mp hshown
  have hlooked : status interface h = (.ok s, seen) := Prod.ext hs hlook.host_after
  have hnot : ¬ s.isDisconnected = true := by simp [hinuse]
  refine ⟨hlook.bind ?_, ?_⟩
  · simp only [hlooked, if_neg hnot]
    exact ((exchanges_disconnect interface seen).1.map _).map _
  · simp only [request_disconnect, hlooked, if_neg hnot]

theorem keepsProtocol_disconnect (interface : String) (h : Host) :
    ∃ xs, Exchanges (request interface .disconnect) h xs ∧
      (serviceOf interface .disconnect xs h).KeepsProtocol interface := by
  unfold serviceOf
  by_cases hshown : ShownInUse interface (h.exchanged (.showDevice interface))
  · obtain ⟨hxs, hanswer⟩ := exchanges_request_disconnect_accepted hshown
    obtain ⟨reply, hreply, hinuse⟩ := hshown
    rw [hanswer]
    refine ⟨_, hxs, Service.isAnswered_accepted
      ⟨reply, List.mem_append_left _ hreply, hinuse⟩ ?_⟩
    -- The look at the device is not the run that leaves.
    rw [ReportsLeave, reports_disconnectActs, (exchanges_disconnect interface _).2,
      succeeded_append, succeeded_exchanged_of_ne (by simp) h, Bool.false_or]
  · obtain ⟨hxs, why, hanswer⟩ := exchanges_request_disconnect_refused hshown
    rw [hanswer]
    exact ⟨_, hxs, Service.isAnswered_refused why hshown⟩

/-- **A request is reported on by the protocol.** -/
theorem keepsProtocol_request (interface : String) (r : Request) (h : Host) :
    ∃ xs, Exchanges (request interface r) h xs ∧
      (serviceOf interface r xs h).KeepsProtocol interface := by
  cases r with
  | scan => exact keepsProtocol_scan interface h
  | associate a => exact keepsProtocol_associate interface a h
  | disconnect => exact keepsProtocol_disconnect interface h

/-! ## Sequences of requests -/

/-- Serves requests one after the other. -/
def serve (interface : String) : List Request → OnHost (List (Verdict × List Act))
  | [] => return []
  | r :: rest => do
    let answer ← request interface r
    return answer :: (← serve interface rest)

/-- The exchanges of each service are those of its request, on the host as the services before it
have left it. -/
def AreServed (interface : String) : Host → List Service → Prop
  | _, [] => True
  | h, s :: rest =>
    Exchanges (request interface s.request) h s.exchanges ∧
      AreServed interface (h.after s.exchanges) rest

/-- **Requests are reported on by the protocol, one and all.** Whatever requests are made and
whatever the tool replies, a refused request is not reported on. A scan reports what its listing
shows and then that it is over, well if the listing was made and succeeded, and otherwise nothing
but that it is over. Joining reports its result once, which is good exactly if the profile was
created and activated, and after a good one a lease at most. Leaving reports its result once, which
is good exactly if the disconnect succeeded. -/
theorem serve_keepsProtocol (interface : String) (requests : List Request) (h : Host) :
    ∃ served : List Service,
      served.map Service.request = requests ∧
      served.map (fun s => (s.verdict, s.acts)) = (serve interface requests h).1 ∧
      Exchanges (serve interface requests) h (served.flatMap Service.exchanges) ∧
      AreServed interface h served ∧ ∀ s ∈ served, s.KeepsProtocol interface := by
  induction requests generalizing h with
  | nil =>
    exact ⟨[], rfl, rfl, Exchanges.pure _ h, trivial, fun s hs => absurd hs List.not_mem_nil⟩
  | cons r rest ih =>
    obtain ⟨xs, hxs, hkeeps⟩ := keepsProtocol_request interface r h
    -- The requests to come find the host as this one has left it.
    obtain ⟨served, hrequests, hanswers, hexchanges, hserved, hall⟩ := ih (h.after xs)
    refine ⟨serviceOf interface r xs h :: served, ?_, ?_, ?_, ⟨hxs, hserved⟩,
      List.forall_mem_cons.mpr ⟨hkeeps, hall⟩⟩
    · rw [List.map_cons, hrequests]
      rfl
    · rw [List.map_cons, hanswers, ← hxs.host_after]
      rfl
    · exact hxs.bind (hexchanges.map _)

end Wlan.NetworkManager
