import Wlan.NetworkManager.Station
import Wlan.Proofs.NetworkManager.AccessPoint
import Wlan.Proofs.NetworkManager.Following
import Wlan.Proofs.NetworkManager.Lease
import Wlan.Proofs.NetworkManager.Reports

/-!
# What a scan leaves to see

A scan reports its findings one by one, makes them known as a whole, and then reports that it is
over. So whoever hears of the end and looks, finds what this scan has found (`IsShown`), and a scan
whose listing failed leaves to see what was there before.

Nothing but a scan touches what is known. After any requests it is therefore what the last listing
that succeeded has shown (`latest`), whatever was joined and left in between (`exists_shown`).
-/

set_option autoImplicit false

namespace Wlan

/-! ## Strength -/

/-- The sightings among events. -/
def sightings (es : List Event) : List Sighting :=
  es.filterMap fun
    | .scanResult found => some found
    | _ => none

namespace NetworkManager

namespace AccessPoint

theorem rssi_mem_range (a : AccessPoint) : -100 ≤ a.rssi ∧ a.rssi ≤ -50 := by
  unfold rssi
  omega

/-- To be stronger in per cent is to be no weaker in dBm. -/
theorem rssi_le_rssi {a b : AccessPoint} (h : b.signal ≤ a.signal) : b.rssi ≤ a.rssi := by
  have hsignal : b.signal.toNat ≤ a.signal.toNat := UInt8.le_iff_toNat_le.mp h
  unfold rssi
  omega

theorem pairwise_rssi_ofListing (text : String) :
    (ofListing text).Pairwise fun a b => b.rssi ≤ a.rssi := by
  refine (List.pairwise_mergeSort atLeast_trans atLeast_total (rows text)).imp fun {a b} h => ?_
  exact rssi_le_rssi (of_decide_eq_true h)

end AccessPoint

/-! ## What is known -/

/-- What is known after an exchange: a listing that succeeded shows what there is. -/
def learnt (interface : String) (known : List AccessPoint) (x : Exchange) : List AccessPoint :=
  if x.run = .listAccessPoints interface ∧ x.reply.succeeded = true then
    AccessPoint.ofListing x.reply.text
  else known

/-- What is known after these exchanges. -/
def latest (interface : String) (known : List AccessPoint) (xs : List Exchange) :
    List AccessPoint :=
  xs.foldl (learnt interface) known

theorem latest_append (interface : String) (known : List AccessPoint) (xs ys : List Exchange) :
    latest interface known (xs ++ ys) = latest interface (latest interface known xs) ys :=
  List.foldl_append

/-- A run succeeded if a reply says so. -/
theorem succeeded_iff {r : Run} {xs : List Exchange} :
    succeeded r xs = true ↔ ∃ reply, ⟨r, reply⟩ ∈ xs ∧ reply.succeeded = true := by
  rw [succeeded, List.any_eq_true]
  constructor
  · rintro ⟨⟨run, reply⟩, hmem, hx⟩
    obtain ⟨hrun, hsucceeded⟩ := (Bool.and_eq_true _ _).mp hx
    obtain rfl := of_decide_eq_true hrun
    exact ⟨reply, hmem, hsucceeded⟩
  · rintro ⟨reply, hmem, hsucceeded⟩
    exact ⟨⟨r, reply⟩, hmem, by simp [hsucceeded]⟩

theorem latest_of_failed {interface : String} {xs : List Exchange}
    (h : succeeded (.listAccessPoints interface) xs = false) (known : List AccessPoint) :
    latest interface known xs = known := by
  induction xs generalizing known with
  | nil => rfl
  | cons x xs ih =>
    rw [succeeded_cons, Bool.or_eq_false_iff] at h
    obtain ⟨hfirst, hrest⟩ := h
    have hlearnt : learnt interface known x = known := if_neg (by simpa using hfirst)
    rw [latest, List.foldl_cons, hlearnt]
    exact ih hrest known

/-- Where every listing shows the same, one of them is enough to know it. -/
theorem latest_of_listed {interface : String} {xs : List Exchange} {found : List AccessPoint}
    (h : succeeded (.listAccessPoints interface) xs = true)
    (hall : ∀ reply, ⟨.listAccessPoints interface, reply⟩ ∈ xs → reply.succeeded = true →
      found = AccessPoint.ofListing reply.text) (known : List AccessPoint) :
    latest interface known xs = found := by
  induction xs generalizing known with
  | nil => cases h
  | cons x xs ih =>
    have hrest := fun reply hreply => hall reply (List.mem_cons_of_mem x hreply)
    cases hlater : succeeded (.listAccessPoints interface) xs with
    | true => exact ih hlater hrest _
    | false =>
      rw [succeeded_cons, hlater, Bool.or_false, Bool.and_eq_true, decide_eq_true_eq] at h
      obtain ⟨run, reply⟩ := x
      obtain ⟨rfl, hsucceeded⟩ := h
      have hlearnt : learnt interface known ⟨.listAccessPoints interface, reply⟩
          = AccessPoint.ofListing reply.text := if_pos ⟨rfl, hsucceeded⟩
      rw [hall reply List.mem_cons_self hsucceeded, latest, List.foldl_cons, hlearnt]
      exact latest_of_failed hlater _

/-! ## What acts make known -/

theorem published_append (known : List AccessPoint) (acts more : List Act) :
    published known (acts ++ more) = published (published known acts) more :=
  List.foldl_append

/-- Only an act that publishes makes anything known. -/
theorem published_eq_self {acts : List Act} (h : ∀ a ∈ acts, ∀ found, a ≠ .publish found)
    (known : List AccessPoint) : published known acts = known := by
  induction acts generalizing known with
  | nil => rfl
  | cons a acts ih =>
    obtain ⟨hfirst, hrest⟩ := List.forall_mem_cons.mp h
    cases a with
    | publish found => exact absurd rfl (hfirst found)
    | _ => exact ih hrest known

theorem Act.IsIdle.ne_publish {a : Act} (ha : a.IsIdle) (found : List AccessPoint) :
    a ≠ .publish found := by
  intro heq
  rw [heq] at ha
  exact ha

/-- What a station knows is what was made known on it. -/
theorem Station.lastScan_applyAll (s : Station) (acts : List Act) :
    (s.applyAll acts).1.lastScan = published s.lastScan acts := by
  induction acts generalizing s with
  | nil => rfl
  | cons a acts ih =>
    refine (ih (s.apply a).1).trans ?_
    cases a <;> rfl

theorem Station.applyAll_append (s : Station) (acts more : List Act) :
    (s.applyAll (acts ++ more)).1 = ((s.applyAll acts).1.applyAll more).1 := by
  induction acts generalizing s with
  | nil => rfl
  | cons a acts ih => exact ih (s.apply a).1

/-- Looking for a lease pauses and remarks, and that is all. -/
theorem isIdle_pollFrom (interface : String) (elapsed : Nat) (host : Host) :
    ∀ a ∈ (pollFrom interface elapsed host).1.2, a.IsIdle := by
  induction elapsed using pollFrom.induct generalizing host with
  | case1 elapsed hlt ih =>
    have hnext := ih (lookForLease interface host).2
    rw [pollFrom, if_pos hlt]
    simp only [bind, StateT.bind]
    generalize lookForLease interface host = looked at hnext ⊢
    obtain ⟨found, after⟩ := looked
    cases found with
    | error f =>
      exact List.forall_mem_cons.mpr ⟨trivial, List.forall_mem_cons.mpr ⟨trivial, hnext⟩⟩
    | ok ip =>
      cases ip with
      | none => exact List.forall_mem_cons.mpr ⟨trivial, hnext⟩
      | some ip => exact fun a ha => absurd ha List.not_mem_nil
  | case2 elapsed hlt =>
    rw [pollFrom, if_neg hlt]
    exact fun a ha => absurd ha List.not_mem_nil

/-- To join a network makes nothing known. -/
theorem published_connectJob (interface : String) (a : Association) (host : Host)
    (known : List AccessPoint) : published known (connectJob interface a host).1 = known := by
  unfold connectJob
  simp only [bind, StateT.bind]
  generalize join (profileFor interface a) host = joined
  obtain ⟨outcome, after⟩ := joined
  cases outcome with
  | error f => rfl
  | ok u =>
    have hidle := isIdle_pollFrom interface 0 after
    dsimp only [StateT.bind]
    generalize pollFrom interface 0 after = polled at hidle ⊢
    obtain ⟨⟨ip, acts⟩, last⟩ := polled
    have hlease : published known (leaseActs interface ip) = known := by
      cases ip <;> rfl
    have hacts : published known (.report (.connectResult statusOk) :: acts) = known :=
      published_eq_self (List.forall_mem_cons.mpr
        ⟨fun found => by simp, fun a ha => (hidle a ha).ne_publish⟩) known
    refine (published_append known (.report (.connectResult statusOk) :: acts) _).trans ?_
    rw [hacts, hlease]

theorem published_disconnectActs (interface : String) (outcome : Except Failure Unit)
    (known : List AccessPoint) : published known (disconnectActs interface outcome) = known := by
  cases outcome <;> rfl

/-! ## Requests -/

/-- What is made known for a request on these exchanges is what their listing shows. -/
def Service.KeepsKnown (interface : String) (v : Service) : Prop :=
  ∀ known, published known v.acts = latest interface known v.exchanges

/-- Where nothing is listed, nothing may be made known. -/
theorem Service.keepsKnown_of_not_listed {interface : String} {v : Service}
    (hruns : ∀ x ∈ v.exchanges, x.run ≠ .listAccessPoints interface)
    (hacts : ∀ known, published known v.acts = known) : v.KeepsKnown interface := by
  intro known
  rw [hacts, latest_of_failed (succeeded_eq_false hruns)]

theorem ne_listAccessPoints_of_mem_steps {p : Profile} {r : Run} (hr : r ∈ p.steps)
    (interface : String) : r ≠ .listAccessPoints interface := by
  simp only [Profile.steps, List.mem_cons, List.not_mem_nil, or_false] at hr
  rcases hr with rfl | rfl | rfl <;> simp

theorem keepsKnown_associate (interface : String) (a : Association) (h : Host) :
    ∃ xs, Exchanges (request interface (.associate a)) h xs ∧
      (serviceOf interface (.associate a) xs h).KeepsKnown interface := by
  by_cases hssid : a.ssid = ""
  · refine ⟨[], ?_, fun known => ?_⟩
    · rw [request, if_pos hssid]
      exact Exchanges.pure _ h
    · rw [serviceOf, request_associate, if_pos hssid]
      rfl
  · obtain ⟨looks, hjob, hlooks⟩ := exchanges_connectJob interface a h
    have hrequest : request interface (.associate a)
        = do return (.accepted, ← connectJob interface a) := by
      rw [request, if_neg hssid]
    have hxs := hjob.map fun acts => (Verdict.accepted, acts)
    rw [← hrequest] at hxs
    refine ⟨_, hxs, Service.keepsKnown_of_not_listed (fun x hx => ?_) fun known => ?_⟩
    · rcases List.mem_append.mp hx with hstep | hlook
      · exact ne_listAccessPoints_of_mem_steps (mem_steps_of_mem_attempt hstep) interface
      · rw [hlooks x hlook]
        simp
    · rw [serviceOf, request_associate, if_neg hssid]
      exact published_connectJob interface a h known

theorem keepsKnown_disconnect (interface : String) (h : Host) :
    ∃ xs, Exchanges (request interface .disconnect) h xs ∧
      (serviceOf interface .disconnect xs h).KeepsKnown interface := by
  have hlook : ∀ x ∈ h.exchanged (.showDevice interface), x.run ≠ .listAccessPoints interface :=
    fun x hx => Host.run_of_mem_exchanged hx ▸ nofun
  by_cases hshown : ShownInUse interface (h.exchanged (.showDevice interface))
  · obtain ⟨hxs, hanswer⟩ := exchanges_request_disconnect_accepted hshown
    refine ⟨_, hxs, Service.keepsKnown_of_not_listed (fun x hx => ?_) fun known => ?_⟩
    · rcases List.mem_append.mp hx with hbefore | hthis
      · exact hlook x hbefore
      · exact Host.run_of_mem_exchanged hthis ▸ nofun
    · rw [serviceOf, hanswer]
      exact published_disconnectActs interface _ known
  · obtain ⟨hxs, why, hanswer⟩ := exchanges_request_disconnect_refused hshown
    refine ⟨_, hxs, Service.keepsKnown_of_not_listed hlook fun known => ?_⟩
    rw [serviceOf, hanswer]
    rfl

/-! ## Scans -/

/-- What is seen of a scan with these exchanges whose acts happen on this station. -/
structure IsShown (interface : String) (s : Station) (xs : List Exchange) (acts : List Act) :
    Prop where
  /-- The findings are reported in the order of the listing. When the end is reported, they are
  known. -/
  listed : ∀ reply, ⟨.listAccessPoints interface, reply⟩ ∈ xs → reply.succeeded = true →
    let found := AccessPoint.ofListing reply.text
    reports acts = found.map (fun a => .scanResult a.sighting) ++ [.scanDone statusOk] ∧
      ∀ before status after, acts = before ++ .report (.scanDone status) :: after →
        (s.applyAll before).1.lastScan = found
  /-- Where the listing failed, only the end is reported, as a failure, and what is known at any
  time is what was known before. -/
  failed : succeeded (.listAccessPoints interface) xs = false →
    reports acts = [.scanDone statusFailed] ∧
      ∀ before after, acts = before ++ after → (s.applyAll before).1.lastScan = s.lastScan
  /-- The strongest are reported first. -/
  falling : ((sightings (reports acts)).map Sighting.rssi).Pairwise (· ≥ ·)
  inRange : ∀ found ∈ sightings (reports acts), -100 ≤ found.rssi ∧ found.rssi ≤ -50

theorem sightings_reports_scanActs (interface : String)
    (outcome : Except Failure (List AccessPoint)) :
    sightings (reports (scanActs interface outcome)) = match outcome with
      | .ok found => found.map AccessPoint.sighting
      | .error _ => [] := by
  rw [reports_scanActs]
  cases outcome with
  | error f => rfl
  | ok found => simp [sightings, List.filterMap_append, List.filterMap_map]

/-- All that a scan does before it reports its end, where the listing succeeded. -/
def findings (found : List AccessPoint) : List Act :=
  .pause scanPause :: found.map (fun a => .report (.scanResult a.sighting)) ++ [.publish found]

theorem scanActs_ok (interface : String) (found : List AccessPoint) :
    .pause scanPause :: scanActs interface (.ok found)
      = findings found ++ [.report (.scanDone statusOk)] := by
  simp [scanActs, findings]

theorem published_findings (known found : List AccessPoint) :
    published known (findings found) = found := by
  rw [findings, published_append]
  rfl

theorem not_mem_findings (found : List AccessPoint) (status : Int) :
    .report (.scanDone status) ∉ findings found := by
  simp [findings]

/-- What stands last and nowhere else has all the rest before it. -/
theorem eq_of_append_singleton {α : Type} {l before after : List α} {x z : α} (hx : x ∉ l)
    (h : l ++ [z] = before ++ x :: after) : before = l := by
  rcases List.eq_nil_or_concat after with rfl | ⟨init, last, rfl⟩
  · exact (List.append_inj_left' h rfl).symm
  · rw [List.concat_eq_append, ← List.cons_append, ← List.append_assoc] at h
    have hsplit := List.append_inj_left' h rfl
    exact absurd (hsplit ▸ List.mem_append_right before List.mem_cons_self) hx

theorem isShown_of_failed {interface : String} {xs : List Exchange}
    (hfailed : succeeded (.listAccessPoints interface) xs = false) (s : Station) (f : Failure) :
    IsShown interface s xs (.pause scanPause :: scanActs interface (.error f)) where
  listed := by
    intro reply hreply hsucceeded
    have hsome : succeeded (.listAccessPoints interface) xs = true :=
      succeeded_iff.mpr ⟨reply, hreply, hsucceeded⟩
    rw [hfailed] at hsome
    cases hsome
  failed := by
    refine fun _ => ⟨rfl, fun before after hsplit => ?_⟩
    have hsilent : ∀ a ∈ before, ∀ found, a ≠ .publish found := by
      intro a ha
      have hmem := hsplit ▸ List.mem_append_left after ha
      simp only [scanActs, List.mem_cons, List.not_mem_nil, or_false] at hmem
      rcases hmem with rfl | rfl | rfl <;> simp
    rw [Station.lastScan_applyAll, published_eq_self hsilent]
  falling := List.Pairwise.nil
  inRange := nofun

theorem isShown_of_listed {interface : String} {xs : List Exchange} {found : List AccessPoint}
    (hok : succeeded (.listAccessPoints interface) xs = true)
    (hfound : ∀ reply, ⟨.listAccessPoints interface, reply⟩ ∈ xs → reply.succeeded = true →
      found = AccessPoint.ofListing reply.text) (s : Station) :
    IsShown interface s xs (.pause scanPause :: scanActs interface (.ok found)) where
  listed := by
    intro reply hreply hsucceeded
    rw [← hfound reply hreply hsucceeded]
    refine ⟨reports_scanActs interface (.ok found), fun before status after hsplit => ?_⟩
    rw [scanActs_ok] at hsplit
    rw [eq_of_append_singleton (not_mem_findings found status) hsplit, Station.lastScan_applyAll,
      published_findings]
  failed := by
    intro hfailed
    rw [hok] at hfailed
    cases hfailed
  falling := by
    obtain ⟨reply, hreply, hsucceeded⟩ := succeeded_iff.mp hok
    have hsorted := AccessPoint.pairwise_rssi_ofListing reply.text
    rw [← hfound reply hreply hsucceeded] at hsorted
    rw [show reports (.pause scanPause :: scanActs interface (.ok found))
      = reports (scanActs interface (.ok found)) from rfl, sightings_reports_scanActs]
    exact List.pairwise_map.mpr (List.pairwise_map.mpr hsorted)
  inRange := by
    intro sighting hsighting
    rw [show reports (.pause scanPause :: scanActs interface (.ok found))
      = reports (scanActs interface (.ok found)) from rfl, sightings_reports_scanActs] at hsighting
    obtain ⟨a, -, rfl⟩ := List.mem_map.mp hsighting
    exact a.rssi_mem_range

/-- **What a scan has found is known when its end is reported.** -/
theorem exists_shown_scan (interface : String) (h : Host) :
    ∃ xs, Exchanges (request interface .scan) h xs ∧
      (serviceOf interface .scan xs h).KeepsKnown interface ∧
      ∀ s, IsShown interface s xs (request interface .scan h).1.2 := by
  obtain ⟨xs, hxs, hok, hlisted⟩ := exchanges_scan interface h
  refine ⟨xs, (hxs.map _).map _, ?_⟩
  have hacts : (request interface .scan h).1.2
      = .pause scanPause :: scanActs interface (scan interface h).1 := rfl
  unfold Service.KeepsKnown serviceOf
  rw [hacts]
  cases hscan : (scan interface h).1 with
  | error f =>
    rw [hscan] at hok
    have hfailed : succeeded (.listAccessPoints interface) xs = false := hok.symm
    refine ⟨fun known => ?_, fun s => isShown_of_failed hfailed s f⟩
    rw [latest_of_failed hfailed]
    rfl
  | ok found =>
    rw [hscan] at hok hlisted
    have hsucceeded : succeeded (.listAccessPoints interface) xs = true := hok.symm
    have hfound : ∀ reply, ⟨.listAccessPoints interface, reply⟩ ∈ xs → reply.succeeded = true →
        found = AccessPoint.ofListing reply.text :=
      fun reply hreply hreplied => Except.ok.inj (hlisted reply hreply hreplied)
    refine ⟨fun known => ?_, isShown_of_listed hsucceeded hfound⟩
    rw [scanActs_ok, published_append, published_findings, latest_of_listed hsucceeded hfound]
    rfl

/-! ## Sequences of requests -/

/-- What is so of every request that is served is so of all that are served one after the other. -/
theorem exists_served {interface : String} {P : Service → Prop}
    (hrequest : ∀ r h, ∃ xs, Exchanges (request interface r) h xs ∧ P (serviceOf interface r xs h))
    (requests : List Request) (h : Host) :
    ∃ served : List Service,
      served.map Service.request = requests ∧
      served.map (fun s => (s.verdict, s.acts)) = (serve interface requests h).1 ∧
      Exchanges (serve interface requests) h (served.flatMap Service.exchanges) ∧
      AreServed interface h served ∧ ∀ s ∈ served, P s := by
  induction requests generalizing h with
  | nil =>
    exact ⟨[], rfl, rfl, Exchanges.pure _ h, trivial, fun s hs => absurd hs List.not_mem_nil⟩
  | cons r rest ih =>
    obtain ⟨xs, hxs, hkeeps⟩ := hrequest r h
    -- The requests to come find the host as this one has left it.
    obtain ⟨served, hrequests, hanswers, hexchanges, hserved, hall⟩ := ih (h.after xs)
    refine ⟨serviceOf interface r xs h :: served, ?_, ?_, ?_, ⟨hxs, hserved⟩,
      List.forall_mem_cons.mpr ⟨hkeeps, hall⟩⟩
    · rw [List.map_cons, hrequests]
      rfl
    · rw [List.map_cons, hanswers, ← hxs.host_after]
      rfl
    · exact hxs.bind (hexchanges.map _)

/-- A request keeps what is known up to date, and a scan is seen as it should be. -/
structure Service.KeepsSight (interface : String) (v : Service) : Prop where
  known : v.KeepsKnown interface
  shown : v.request = .scan → ∀ s, IsShown interface s v.exchanges v.acts

theorem keepsSight_request (interface : String) (r : Request) (h : Host) :
    ∃ xs, Exchanges (request interface r) h xs ∧
      (serviceOf interface r xs h).KeepsSight interface := by
  cases r with
  | scan =>
    obtain ⟨xs, hxs, hknown, hshown⟩ := exists_shown_scan interface h
    exact ⟨xs, hxs, hknown, fun _ => hshown⟩
  | associate a =>
    obtain ⟨xs, hxs, hknown⟩ := keepsKnown_associate interface a h
    exact ⟨xs, hxs, hknown, nofun⟩
  | disconnect =>
    obtain ⟨xs, hxs, hknown⟩ := keepsKnown_disconnect interface h
    exact ⟨xs, hxs, hknown, nofun⟩

/-- After any requests, what is known is what the last listing that succeeded has shown. -/
theorem lastScan_served {interface : String} {served : List Service}
    (hserved : ∀ v ∈ served, v.KeepsKnown interface) (s : Station) :
    (s.applyAll (served.flatMap Service.acts)).1.lastScan
      = latest interface s.lastScan (served.flatMap Service.exchanges) := by
  induction served generalizing s with
  | nil => rfl
  | cons v served ih =>
    obtain ⟨hfirst, hrest⟩ := List.forall_mem_cons.mp hserved
    rw [List.flatMap_cons, List.flatMap_cons, latest_append, Station.applyAll_append, ih hrest,
      Station.lastScan_applyAll, hfirst]

end NetworkManager

end Wlan
