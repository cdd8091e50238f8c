import Wlan.Proofs.CommandLine.Storing
import Wlan.Proofs.CommandLine.Waiting
import Wlan.Proofs.Text.Address

/-!
# The outcome of joining a network

A run that joins a network has five ways to end, and the host decides which one it is: what the
listing of the devices shows, whether the profile is created and activated, and which of the looks
at the device is the first to show an address. They are the rungs of a ladder. At each of them the
run ends with a failure of its own, and nothing that belongs to a later one has been run by then
(`connect_outcome`).

The last rung is a race. The caller waits for a lease as long as the settings say, while the job
looks for one as long as its own limit allows. So a lease is missed if it comes after either of the
two, and the settings alone cannot make the run wait longer (`connect_lease`). A caller whose clock
cannot show the end of the wait waits for ever, and then the job's limit alone decides.
-/

set_option autoImplicit false

namespace Wlan.CommandLine

open NetworkManager

/-! ## What a caller gets -/

namespace Work

variable {α β : Type} {work : Work α} {next : α → Work β} {s s' : Shell}

/-- How work ends, and what has been printed by then. -/
def shown {α : Type} (work : Work α) (s : Shell) : Except Stop α × String :=
  ((work.run.run s).1, (work.run.run s).2.printed)

theorem shown_bind_of_ok {a : α} (h : work.run.run s = (.ok a, s')) :
    (work >>= next).shown s = (next a).shown s' := by
  rw [shown, run_bind_of_ok h, shown]

theorem shown_bind_of_error {e : Stop} (h : work.run.run s = (.error e, s')) :
    (work >>= next).shown s = (.error e, s'.printed) := by
  rw [shown, run_bind_of_error h]

end Work

def Ran.shown (r : Ran) : Except Stop Unit × String := (r.exit, r.printed)

/-- A failure, with nothing printed. -/
def failed (f : Failure) : Except Stop Unit × String := (.error (.failed f), "")

/-- A network was joined and has given this address. -/
def joined (ssid : String) (ip : Ipv4) : Except Stop Unit × String :=
  (.ok (), "Connected to '" ++ ssid ++ "' with address " ++ ip.text ++ "\n")

/-- The network was joined, but no lease came in time. -/
def noLease (p : Patience) : Failure :=
  ⟨["Associated but no DHCP lease"], .command (.timedOut p.lease)⟩

/-- What becomes of a run that started its wait for a lease at this time and gets none. A wait whose
deadline is past the end of the clock goes on for ever. -/
def unleased (start : Moment) (p : Patience) : Except Stop Unit × String :=
  if start + p.lease.nanos < clockEnd then failed (noLease p) else (.error .endless, "")

theorem message_of {cause : Cause} {text : String} (h : cause.message? = some text) :
    (Failure.of cause).message = text := by
  have hmessage : (Failure.of cause).message = ": ".intercalate ([] ++ cause.message?.toList) := rfl
  rw [hmessage, h]
  rfl

theorem message_noLease (p : Patience) :
    (noLease p).message = "Associated but no DHCP lease: Timed out after " ++ p.lease.text := by
  have hmessage : (noLease p).message
      = "Associated but no DHCP lease" ++ ": " ++ ("Timed out after " ++ p.lease.text) := rfl
  rw [hmessage, ← String.append_assoc]
  rfl

/-- No two addresses are told alike. -/
theorem joined_injective {ssid : String} {a b : Ipv4} (h : joined ssid a = joined ssid b) :
    a = b := by
  have htext := (Prod.mk.inj h).2
  rw [String.append_left_inj, String.append_right_inj] at htext
  exact Ipv4.text_injective htext

theorem joined_ne_failed (ssid : String) (ip : Ipv4) (f : Failure) : joined ssid ip ≠ failed f :=
  fun h => nomatch (Prod.mk.inj h).1

theorem joined_ne_unleased (ssid : String) (ip : Ipv4) (start : Moment) (p : Patience) :
    joined ssid ip ≠ unleased start p := by
  unfold unleased
  split
  · exact joined_ne_failed ssid ip _
  · exact fun h => nomatch (Prod.mk.inj h).1

/-! ## Waiting for the outcome -/

section

variable {p : Patience} {ssid : String} {s : Shell}

theorem shown_awaitAddress_of_done (hprinted : s.printed = "")
    (hdone : (s.timeline.await (.lease p.lease)).outcome = .done) {ip : Ipv4}
    (hip : (s.timeline.await (.lease p.lease)).timeline.station.link.address = some ip) :
    (awaitAddress p ssid).shown s = joined ssid ip := by
  have hwait := Work.run_within "Associated but no DHCP lease" (Work.await (.lease p.lease)) s
  rw [Work.run_await, hdone] at hwait
  unfold awaitAddress
  rw [Work.shown_bind_of_ok hwait, Work.shown_bind_of_ok (Work.run_station _), Work.waited]
  dsimp only
  rw [hip]
  dsimp only
  rw [Work.shown, Work.run_print, hprinted, String.empty_append]
  rfl

theorem shown_awaitAddress_of_error (hprinted : s.printed = "") {o : Outcome}
    (houtcome : (s.timeline.await (.lease p.lease)).outcome = o) {e : Stop}
    (he : exitOf o = .error e) : (awaitAddress p ssid).shown s
      = (.error (e.within "Associated but no DHCP lease"), "") := by
  have hwait := Work.run_within "Associated but no DHCP lease" (Work.await (.lease p.lease)) s
  rw [Work.run_await, houtcome, he] at hwait
  unfold awaitAddress
  rw [Work.shown_bind_of_error hwait]
  exact Prod.ext rfl hprinted

theorem shown_awaitNetwork_of_timedOut (hprinted : s.printed = "")
    (hout : (s.timeline.await (.connecting p.connect)).outcome = .timedOut p.connect) :
    (awaitNetwork p ssid).shown s = failed (.of (.command (.timedOut p.connect))) := by
  have hwait := Work.run_await (.connecting p.connect) s
  rw [hout] at hwait
  unfold awaitNetwork
  rw [Work.shown_bind_of_error hwait]
  exact Prod.ext rfl hprinted

variable (hdone : (s.timeline.await (.connecting p.connect)).outcome = .done)

include hdone

theorem shown_awaitNetwork_of_not_connected (hprinted : s.printed = "")
    (hlink : (s.timeline.await (.connecting p.connect)).timeline.station.link.connected = false) :
    (awaitNetwork p ssid).shown s = failed (.of (.associationFailed ssid)) := by
  have hwait := Work.run_await (.connecting p.connect) s
  rw [hdone] at hwait
  unfold awaitNetwork
  rw [Work.shown_bind_of_ok hwait, Work.shown_bind_of_ok (Work.run_station _), Work.waited]
  dsimp only
  rw [hlink]
  exact Prod.ext rfl hprinted

theorem shown_awaitNetwork_of_connected
    (hlink : (s.timeline.await (.connecting p.connect)).timeline.station.link.connected = true) :
    (awaitNetwork p ssid).shown s
      = (awaitAddress p ssid).shown (Work.waited (.connecting p.connect) s) := by
  have hwait := Work.run_await (.connecting p.connect) s
  rw [hdone] at hwait
  have hstation := Work.run_station (Work.waited (.connecting p.connect) s)
  unfold awaitNetwork
  rw [Work.shown_bind_of_ok hwait, Work.shown_bind_of_ok hstation, Work.waited]
  dsimp only
  rw [hlink]
  rfl

end

/-! ## Attempts -/

/-- The shell in which an attempt waits for its job, which has been set going at this time. -/
structure IsAwaiting (pace : Pace) (start : Moment) (job : List Act) (link : Link) (s : Shell) :
    Prop where
  printed : s.printed = ""
  link : s.timeline.station.link = link
  now : s.timeline.now = start
  due : s.timeline.due = schedule pace start job

namespace IsAwaiting

variable {pace : Pace} {start : Moment} {p : Patience} {ssid interface : String} {acts : List Act}
  {link : Link} {s : Shell}

theorem await_eq (h : IsAwaiting pace start acts link s) (w : Wait) :
    s.timeline.await w = Timeline.awaitFrom w (w.deadline? start) s.timeline.station start
      (schedule pace start acts) := by
  rw [Timeline.await, h.now, h.due]

/-- A report that comes at once is heard in any time there is to wait. -/
theorem await_report {w : Wait} {limit : Span} (hlimit : w.limit? = some limit)
    (hpos : 0 < limit.nanos) (hpending : w.pending link = true) {e : Event}
    (hmet : w.pending (link.deliver e) = false) {rest : List Act}
    (h : IsAwaiting pace start (acts ++ .report e :: rest) link s) (hidle : ∀ a ∈ acts, a.IsIdle)
    (hdelay : delay pace acts = 0) :
    (s.timeline.await w).outcome = .done ∧
      IsAwaiting pace start rest (link.deliver e) (Work.waited w s) := by
  have htime : hasPassed (w.deadline? start) (start + delay pace acts) = false := by
    rw [hdelay, ← Bool.not_eq_true, hasPassed_deadline? hlimit]
    exact fun h => Nat.not_le_of_lt hpos h.2
  rw [← h.link] at hpending hmet
  obtain ⟨houtcome, htimeline⟩ :=
    Timeline.awaitFrom_report hpending hmet hidle (Nat.le_refl start) rest htime
  rw [← h.await_eq, hdelay, Nat.add_zero, h.link] at htimeline
  rw [← h.await_eq] at houtcome
  refine ⟨houtcome, h.printed, ?_, ?_, ?_⟩
  all_goals
    unfold Work.waited
    rw [htimeline]

/-- Whoever has no time at all to wait hears of nothing. -/
theorem await_impatient {w : Wait} {limit : Span} (hlimit : w.limit? = some limit)
    (hzero : limit.nanos = 0) (hpending : w.pending link = true) (hreadable : start < clockEnd)
    (h : IsAwaiting pace start acts link s) :
    (s.timeline.await w).outcome = .timedOut limit := by
  have hpassed : hasPassed (w.deadline? start) start = true := by
    refine (hasPassed_deadline? hlimit start 0).mpr ?_
    rw [hzero]
    exact ⟨hreadable, Nat.le_refl 0⟩
  rw [← h.link] at hpending
  rw [h.await_eq, Timeline.outcome_awaitFrom_of_expired hpending hpassed, Wait.expiry, hlimit]

/-- The report of the association comes at once. -/
theorem await_connectResult {status : Int} {rest : List Act}
    (h : IsAwaiting pace start (acts ++ .report (.connectResult status) :: rest)
      { connecting := true } s)
    (hidle : ∀ a ∈ acts, a.IsIdle) (hdelay : delay pace acts = 0)
    (hconnect : 0 < p.connect.nanos) :
    (s.timeline.await (.connecting p.connect)).outcome = .done ∧
      IsAwaiting pace start rest { connected := status == statusOk }
        (Work.waited (.connecting p.connect) s) := by
  have hlink : ({ connecting := true } : Link).deliver (.connectResult status)
      = { connected := status == statusOk } := by
    rw [Link.deliver_of_kind_ne _ (by simp [Event.kind])]
    simp [Link.hearRadio]
  have hmet : (Wait.connecting p.connect).pending
      (({ connecting := true } : Link).deliver (.connectResult status)) = false := by
    rw [hlink]
    rfl
  have hheard := h.await_report rfl hconnect rfl hmet hidle hdelay
  rw [hlink] at hheard
  exact hheard

/-- A lease that comes in time is what was waited for. -/
theorem shown_awaitAddress (hidle : ∀ a ∈ acts, a.IsIdle) {ip : Ipv4}
    (h : IsAwaiting pace start (acts ++ leaseActs interface (some ip)) { connected := true } s)
    (htime : ¬ (start + p.lease.nanos < clockEnd ∧ p.lease.nanos ≤ delay pace acts)) :
    (awaitAddress p ssid).shown s = joined ssid ip := by
  rw [← hasPassed_deadline? (w := .lease p.lease) rfl, Bool.not_eq_true] at htime
  have hpending : (Wait.lease p.lease).pending s.timeline.station.link = true := by
    rw [h.link]
    rfl
  have hlink := Link.deliver_leaseBound s.timeline.station.link ip
  have hmet : (Wait.lease p.lease).pending (s.timeline.station.link.deliver (.leaseBound ip))
      = false := by
    rw [hlink]
    rfl
  obtain ⟨houtcome, htimeline⟩ :=
    Timeline.awaitFrom_report hpending hmet hidle (Nat.le_refl start) [] htime
  have hawait := h.await_eq (.lease p.lease)
  refine shown_awaitAddress_of_done h.printed ?_ ?_
  · rw [hawait]
    exact houtcome
  · rw [hawait, show leaseActs interface (some ip) = [.report (.leaseBound ip)] from rfl,
      htimeline, hlink]

/-- A lease that comes too late is not. -/
theorem shown_awaitAddress_late (hidle : ∀ a ∈ acts, a.IsIdle) {ip : Ipv4}
    (h : IsAwaiting pace start (acts ++ leaseActs interface (some ip)) { connected := true } s)
    (hlate : start + p.lease.nanos < clockEnd ∧ p.lease.nanos ≤ delay pace acts) :
    (awaitAddress p ssid).shown s = failed (noLease p) := by
  rw [← hasPassed_deadline? (w := .lease p.lease) rfl] at hlate
  have hpending : (Wait.lease p.lease).pending s.timeline.station.link = true := by
    rw [h.link]
    rfl
  have houtcome := h.await_eq (.lease p.lease) ▸
    Timeline.awaitFrom_report_late hpending hidle (Nat.le_refl start) (.leaseBound ip) [] hlate
  exact shown_awaitAddress_of_error h.printed houtcome rfl

/-- Nor is there anything in a job that found none. -/
theorem shown_awaitAddress_none (hidle : ∀ a ∈ acts, a.IsIdle)
    (h : IsAwaiting pace start (acts ++ leaseActs interface none) { connected := true } s) :
    (awaitAddress p ssid).shown s = unleased start p := by
  have hpending : (Wait.lease p.lease).pending s.timeline.station.link = true := by
    rw [h.link]
    rfl
  have hall : ∀ a ∈ acts ++ leaseActs interface none, a.IsIdle := by
    refine List.forall_mem_append.mpr ⟨hidle, List.forall_mem_singleton.mpr ?_⟩
    trivial
  have houtcome := h.await_eq (.lease p.lease) ▸
    Timeline.awaitFrom_idle hpending hall (Nat.le_refl start)
  unfold unleased
  split
  · next hrange =>
    refine shown_awaitAddress_of_error h.printed (houtcome.trans (if_neg ?_)) rfl
    rw [Wait.deadline?_eq_none_iff]
    exact fun h => Nat.not_le_of_lt hrange (h _ rfl)
  · next hrange =>
    refine shown_awaitAddress_of_error h.printed (houtcome.trans (if_pos ?_)) rfl
    rw [Wait.deadline?_eq_none_iff]
    intro limit hlimit
    cases hlimit
    exact Nat.not_lt.mp hrange

end IsAwaiting

section

variable (pace : Pace) {p : Patience} (keeper : Keeper) {c : Credentials} (interface : String)
  {s : Shell}

/-- Without a network to join, the attempt is over before anyone is handed its credentials. -/
theorem run_connectOn_of_empty (hssid : c.ssid = "") (s : Shell) :
    (connectOn pace p keeper c interface).run.run s
      = (.error (.failed (.of (.command .emptySsid))), { s with
        timeline := { station := { interface }, now := s.timeline.now }
        log := s.log
          ++ [.info ("Connecting to '" ++ c.ssid ++ "' on interface " ++ interface ++ "...")] }) := by
  unfold connectOn
  rw [Work.run_bind_of_ok (Work.run_openInterface interface s), Work.run_bind_of_ok (Work.run_say _ _),
    Work.run_bind_of_error (by rw [Work.run_command, command_connect_empty _ hssid]; rfl)]
  simp only [Work.commanded, command_connect_empty _ hssid, Work.handed, List.append_nil]
  rfl

/-- With a network to join, the attempt has its job and waits for it. -/
theorem shown_connectOn (hprinted : s.printed = "") (hssid : c.ssid ≠ "") :
    ∃ s', IsAwaiting pace s.timeline.now (connectJob interface c.association s.host).1
        { connecting := true } s' ∧
      (connectOn pace p keeper c interface).shown s = (awaitNetwork p c.ssid).shown s' := by
  let opened : Shell := { s with
    timeline := { station := { interface }, now := s.timeline.now }
    log := s.log ++ [.info ("Connecting to '" ++ c.ssid ++ "' on interface " ++ interface ++ "...")] }
  have hcommand : (Work.command pace keeper (.connect c)).run.run opened
      = (.ok (), Work.commanded pace keeper (.connect c) opened) := by
    rw [Work.run_command, result_command_connect _ hssid]
    rfl
  refine ⟨Work.commanded pace keeper (.connect c) opened, ?_, ?_⟩
  · unfold Work.commanded
    rw [command_connect _ hssid]
    exact ⟨hprinted, rfl, rfl, rfl⟩
  · unfold connectOn
    rw [Work.shown_bind_of_ok (Work.run_openInterface interface s),
      Work.shown_bind_of_ok (Work.run_say _ _), Work.shown_bind_of_ok hcommand]

theorem shown_connectOn_of_impatient (hprinted : s.printed = "") (hssid : c.ssid ≠ "")
    (hzero : p.connect.nanos = 0) (hreadable : s.timeline.now < clockEnd) :
    (connectOn pace p keeper c interface).shown s
      = failed (.of (.command (.timedOut p.connect))) := by
  obtain ⟨s', hawaiting, hshown⟩ := shown_connectOn pace keeper interface hprinted hssid
  rw [hshown]
  exact shown_awaitNetwork_of_timedOut hawaiting.printed
    (hawaiting.await_impatient rfl hzero rfl hreadable)

variable (hprinted : s.printed = "") (hssid : c.ssid ≠ "") (hscript : s.host.script ≠ none)
  (hconnect : 0 < p.connect.nanos)

include hprinted hssid hscript hconnect

theorem shown_connectOn_of_not_willJoin (hjoin : s.host.willJoin = false) :
    (connectOn pace p keeper c interface).shown s = failed (.of (.associationFailed c.ssid)) := by
  obtain ⟨s', hawaiting, hshown⟩ := shown_connectOn pace keeper interface hprinted hssid
  obtain ⟨line, hjob⟩ := connectJob_of_not_willJoin hscript hjoin
  rw [hjob] at hawaiting
  have hidle : ∀ a ∈ [Act.remark line], a.IsIdle := List.forall_mem_singleton.mpr trivial
  obtain ⟨hdone, hwaited⟩ := hawaiting.await_connectResult hidle rfl hconnect
  rw [hshown]
  refine shown_awaitNetwork_of_not_connected hdone hawaiting.printed ?_
  exact congrArg Link.connected hwaited.link

theorem shown_connectOn_of_willJoin (hjoin : s.host.willJoin = true) :
    let polled := pollFrom interface 0 (s.host.asked (profileFor interface c.association).steps)
    ∃ s', IsAwaiting pace s.timeline.now (polled.1.2 ++ leaseActs interface polled.1.1)
        { connected := true } s' ∧
      (connectOn pace p keeper c interface).shown s = (awaitAddress p c.ssid).shown s' := by
  intro polled
  obtain ⟨s', hawaiting, hshown⟩ := shown_connectOn pace keeper interface hprinted hssid
  rw [connectJob_of_willJoin hscript hjoin] at hawaiting
  have hjob : IsAwaiting pace s.timeline.now ([] ++ .report (.connectResult statusOk) ::
      (polled.1.2 ++ leaseActs interface polled.1.1)) { connecting := true } s' := hawaiting
  obtain ⟨hdone, hwaited⟩ :=
    hjob.await_connectResult (fun _ ha => absurd ha List.not_mem_nil) rfl hconnect
  refine ⟨Work.waited (.connecting p.connect) s', hwaited, ?_⟩
  rw [hshown]
  exact shown_awaitNetwork_of_connected hdone (congrArg Link.connected hwaited.link)

/-- The first look that shows an address decides, if the job gets that far. -/
theorem shown_connectOn_of_isFirstLease (hjoin : s.host.willJoin = true) {k : Nat}
    (hk : k < maxLooks) {ip : Ipv4} (hfirst : s.host.IsFirstLease interface k ip) :
    (connectOn pace p keeper c interface).shown s =
      if s.timeline.now + p.lease.nanos < clockEnd ∧ p.lease.nanos ≤ k * pace pollInterval
        then failed (noLease p) else joined c.ssid ip := by
  obtain ⟨s', hawaiting, hshown⟩ :=
    shown_connectOn_of_willJoin pace keeper interface hprinted hssid hscript hconnect hjoin
  have hlater : (s.host.asked (profileFor interface c.association).steps).IsFirstLease
      interface k ip := hfirst.asked_of_ne fun r hr => verb_of_mem_steps hr
  obtain ⟨acts, hidle, hpauses, hpoll⟩ := poll_of_isFirstLease (h := s.host.asked _) hk hlater
  rw [hpoll] at hawaiting
  rw [hshown, ← delay_of_pausesOf hpauses]
  split
  · next hlate => exact hawaiting.shown_awaitAddress_late hidle hlate
  · next htime => exact hawaiting.shown_awaitAddress hidle htime

theorem shown_connectOn_of_none (hjoin : s.host.willJoin = true)
    (hnone : ∀ k < maxLooks, s.host.address? interface k = none) :
    (connectOn pace p keeper c interface).shown s = unleased s.timeline.now p := by
  obtain ⟨s', hawaiting, hshown⟩ :=
    shown_connectOn_of_willJoin pace keeper interface hprinted hssid hscript hconnect hjoin
  have hlooks : ∀ k < maxLooks, (s.host.asked (profileFor interface c.association).steps).address?
      interface k = none := by
    intro k hk
    rw [Host.address?_asked_of_ne fun r hr => verb_of_mem_steps hr]
    exact hnone k hk
  obtain ⟨acts, hidle, -, hpoll⟩ := poll_of_none (h := s.host.asked _) hlooks
  rw [hpoll] at hawaiting
  rw [hshown]
  exact hawaiting.shown_awaitAddress_none hidle

end

/-! ## Runs -/

theorem snd_listDevices (h : Host) : (listDevices h).2 = h.asked (h.made .listDevices) :=
  (Makes.run .listDevices h).map _

/-- With a device to work on, the attempt is made on it. -/
theorem run_connect_of_ok (pace : Pace) (place : Place) {settings : Settings} {t : Target}
    (save : Bool) {s : Shell} {d : Device} (hd : deviceFor settings t s.host = .ok d) :
    (connect pace place settings t save).run.run s =
      (connectOn pace settings.patience (if save then .filing place (some d.name) else .forgetful)
        (t.credentials (settings.find? t.ssid)) d.name).run.run { s with
          host := s.host.asked [.listDevices]
          log := s.log ++ if t.usesSaved (settings.find? t.ssid) then
            [.info ("Using saved credentials for '" ++ t.ssid ++ "'")] else [] } := by
  have hhost := snd_listDevices s.host
  rw [Host.made_of_script (script_ne_none_of_deviceFor hd)] at hhost
  have hpick (lines : List LogLine) := run_pickInterface settings
    (t.interface <|> (settings.find? t.ssid).bind SavedNetwork.interface)
    { s with log := s.log ++ lines }
  unfold deviceFor at hd
  simp only [hd] at hpick
  unfold connect
  dsimp only
  rw [Work.run_bind_of_ok (Work.run_say _ _), Work.run_bind_of_ok (hpick _), ← hhost]
  rfl

/-- Without one, there is none. -/
theorem run_connect_of_error (pace : Pace) (place : Place) {settings : Settings} {t : Target}
    (save : Bool) {s : Shell} {f : Failure} (hd : deviceFor settings t s.host = .error f) :
    (connect pace place settings t save).run.run s =
      (.error (.failed f), { s with
        host := s.host.asked (s.host.made .listDevices)
        log := s.log ++ if t.usesSaved (settings.find? t.ssid) then
          [.info ("Using saved credentials for '" ++ t.ssid ++ "'")] else [] }) := by
  have hpick (lines : List LogLine) := run_pickInterface settings
    (t.interface <|> (settings.find? t.ssid).bind SavedNetwork.interface)
    { s with log := s.log ++ lines }
  unfold deviceFor at hd
  simp only [hd] at hpick
  unfold connect
  dsimp only
  rw [Work.run_bind_of_ok (Work.run_say _ _), Work.run_bind_of_error (hpick _), ← snd_listDevices]
  rfl

theorem willJoin_asked_listing (h : Host) : (h.asked [.listDevices]).willJoin = h.willJoin := by
  rw [Host.willJoin, Host.willJoin, Host.willSucceed_asked_of_ne (by simp [Run.verb]),
    Host.willSucceed_asked_of_ne (by simp [Run.verb])]

section

variable (clock : Clock) (place : Place) (w : World) (t : Target) (save : Bool)

variable {d : Device} (hd : deviceFor (settingsFor place w.spot).1 t w.host = .ok d)

include hd

/-- What a run is about to do, once it has found a device. The listing tells nothing of how that
will end. -/
theorem shown_run_of_ok :
    ∃ keeper c s, s.timeline.now = clock.start ∧ s.printed = "" ∧ c.ssid = t.ssid ∧
      s.host = w.host.asked [.listDevices] ∧ s.host.script ≠ none ∧
      s.host.willJoin = w.host.willJoin ∧
      (run clock place w (.connect t save)).shown = (connectOn clock.pace
        (settingsFor place w.spot).1.patience keeper c d.name).shown s := by
  have hrun := run_connect_of_ok clock.pace place save (s := startShell clock place w) hd
  have hscript : w.host.script ≠ none := script_ne_none_of_deviceFor hd
  refine ⟨_, _, _, ?_, ?_, ?_, ?_, ?_, ?_, congrArg (Ran.shown ∘ Ran.of) hrun⟩
  · rfl
  · rfl
  · exact Target.ssid_credentials t _
  · rfl
  · exact hscript
  · exact willJoin_asked_listing w.host

/-- Without a network to join, it is nothing to a run whether credentials are to be stored. -/
theorem run_of_empty (hssid : t.ssid = "") :
    ∃ log, ∀ save, run clock place w (.connect t save)
      = ⟨.error (.failed (.of (.command .emptySsid))), "", log, [],
          ⟨w.host.asked [.listDevices], w.spot⟩⟩ := by
  let saved := (settingsFor place w.spot).1.find? t.ssid
  refine ⟨(settingsFor place w.spot).2 ++ (if t.usesSaved saved then
      [.info ("Using saved credentials for '" ++ t.ssid ++ "'")] else [])
    ++ [.info ("Connecting to '" ++ (t.credentials saved).ssid ++ "' on interface " ++ d.name
      ++ "...")], fun save => ?_⟩
  have hrun := run_connect_of_ok clock.pace place save (s := startShell clock place w) hd
  rw [run_connectOn_of_empty _ _ _ ((Target.ssid_credentials t _).trans hssid)] at hrun
  exact congrArg Ran.of hrun

/-- Where the network is not joined, the runs are those of the attempt and no more. -/
theorem host_of_not_willJoin (hssid : t.ssid ≠ "") (hjoin : w.host.willJoin = false) :
    ∃ rs, (run clock place w (.connect t save)).world.host = w.host.asked rs ∧
      ∀ r ∈ rs, r.verb ≠ .showDevice := by
  have hscript : w.host.script ≠ none := script_ne_none_of_deviceFor hd
  have hcredentials : (t.credentials ((settingsFor place w.spot).1.find? t.ssid)).ssid ≠ "" := by
    rw [Target.ssid_credentials]
    exact hssid
  have hhost := congrArg Prod.fst (run_connect clock place w t save)
  rw [← willJoin_asked_listing] at hjoin
  obtain ⟨line, hjob⟩ := @connectJob_of_not_willJoin d.name
    (t.credentials ((settingsFor place w.spot).1.find? t.ssid)).association
    (w.host.asked [.listDevices]) hscript hjoin
  simp only [hd] at hhost
  rw [snd_listDevices, Host.made_of_script hscript, command_connect _ hcredentials, hjob,
    Host.asked_asked] at hhost
  refine ⟨_, hhost, List.forall_mem_append.mpr ⟨by simp [Run.verb], fun r hr => ?_⟩⟩
  exact verb_of_mem_steps (List.mem_of_mem_take hr)

theorem shown_run_of_impatient (hssid : t.ssid ≠ "")
    (hzero : (settingsFor place w.spot).1.patience.connectSeconds = 0) :
    (run clock place w (.connect t save)).shown
      = failed (.of (.command (.timedOut (settingsFor place w.spot).1.patience.connect))) := by
  obtain ⟨keeper, c, s, hnow, hprinted, hname, -, -, -, hshown⟩ :=
    shown_run_of_ok clock place w t save hd
  have hnanos : (settingsFor place w.spot).1.patience.connect.nanos = 0 := by
    rw [Patience.connect, Span.ofSeconds, hzero, Nat.zero_mul]
  rw [← hname] at hssid
  rw [hshown, shown_connectOn_of_impatient clock.pace keeper d.name hprinted hssid hnanos
    (hnow.symm ▸ clock.readable)]

variable (hssid : t.ssid ≠ "")
  (hconnect : 0 < (settingsFor place w.spot).1.patience.connect.nanos)

include hssid hconnect

theorem shown_run_of_not_willJoin (hjoin : w.host.willJoin = false) :
    (run clock place w (.connect t save)).shown = failed (.of (.associationFailed t.ssid)) := by
  obtain ⟨keeper, c, s, hnow, hprinted, hname, -, hscript, hjoins, hshown⟩ :=
    shown_run_of_ok clock place w t save hd
  rw [← hjoins] at hjoin
  rw [← hname] at hssid ⊢
  rw [hshown, shown_connectOn_of_not_willJoin clock.pace keeper d.name hprinted hssid hscript
    hconnect hjoin]

theorem shown_run_of_isFirstLease (hjoin : w.host.willJoin = true) {k : Nat} (hk : k < maxLooks)
    {ip : Ipv4} (hfirst : w.host.IsFirstLease d.name k ip) :
    let p := (settingsFor place w.spot).1.patience
    (run clock place w (.connect t save)).shown =
      if clock.start + p.lease.nanos < clockEnd ∧ p.lease.nanos ≤ k * clock.pace pollInterval
        then failed (noLease p) else joined t.ssid ip := by
  intro p
  obtain ⟨keeper, c, s, hnow, hprinted, hname, hhost, hscript, hjoins, hshown⟩ :=
    shown_run_of_ok clock place w t save hd
  rw [← hjoins] at hjoin
  have hlater : s.host.IsFirstLease d.name k ip := by
    rw [hhost]
    exact hfirst.asked_of_ne (by simp [Run.verb])
  rw [← hname] at hssid ⊢
  rw [hshown, shown_connectOn_of_isFirstLease clock.pace keeper d.name hprinted hssid hscript
    hconnect hjoin hk hlater, hnow]

theorem shown_run_of_none (hjoin : w.host.willJoin = true)
    (hnone : ∀ k < maxLooks, w.host.address? d.name k = none) :
    (run clock place w (.connect t save)).shown
      = unleased clock.start (settingsFor place w.spot).1.patience := by
  obtain ⟨keeper, c, s, hnow, hprinted, hname, hhost, hscript, hjoins, hshown⟩ :=
    shown_run_of_ok clock place w t save hd
  rw [← hjoins] at hjoin
  have hlater : ∀ k < maxLooks, s.host.address? d.name k = none := by
    intro k hk
    rw [hhost, Host.address?_asked_of_ne (by simp [Run.verb])]
    exact hnone k hk
  rw [← hname] at hssid
  rw [hshown, shown_connectOn_of_none clock.pace keeper d.name hprinted hssid hscript hconnect
    hjoin hlater, hnow]

end

/-! ## A host -/

/-- A host with one device, on which the first look (from 0) to show an address is this one. -/
def hostWithLease (n : Nat) : Host where
  script := some fun verb looks => match verb with
    | .listDevices => ⟨"wlan0:wifi:disconnected".toUTF8, .empty, 0⟩
    | .showDevice =>
      ⟨if looks < n then .empty else "IP4.ADDRESS[1]:10.0.0.9/24".toUTF8, .empty, 0⟩
    | _ => ⟨.empty, .empty, 0⟩

theorem isFirstLease_hostWithLease (n : Nat) :
    (hostWithLease n).IsFirstLease "wlan0" n ⟨10, 0, 0, 9⟩ := by
  have hreply (k : Nat) : (hostWithLease n).reply? .showDevice k
      = some ⟨if k < n then .empty else "IP4.ADDRESS[1]:10.0.0.9/24".toUTF8, .empty, 0⟩ := by
    simp [Host.reply?, hostWithLease, Host.count]
  refine ⟨?_, fun k hk => ?_⟩
  · rw [Host.address?, hreply, if_neg (Nat.lt_irrefl n)]
    decide +kernel
  · rw [Host.address?, hreply, if_pos hk]
    decide +kernel

theorem deviceFor_hostWithLease (n : Nat) (patience : Patience) :
    deviceFor { patience } ⟨"home", none, .psk, none⟩ (hostWithLease n)
      = .ok ⟨"wlan0", "wifi", "disconnected"⟩ := by
  let r : Reply := ⟨"wlan0:wifi:disconnected".toUTF8, .empty, 0⟩
  have hread : Device.ofListing r.text = [⟨"wlan0", "wifi", "disconnected"⟩] := by
    decide +kernel
  have hlisted : (listDevices (hostWithLease n)).1 = .ok (Device.ofListing r.text) := rfl
  rw [deviceFor_eq hlisted, hread]
  rfl

/-! ## The outcome of a whole run -/

/-- The waits are longer than what the job may take until it reports. -/
structure Outlasts (p : Patience) (pace : Pace) : Prop where
  connect : 0 < p.connect.nanos
  lease : (maxLooks - 1) * pace pollInterval < p.lease.nanos

/-- The run prints nothing and ends with this cause, and this is how it is told. -/
def Ran.FailsWith (r : Ran) (cause : Cause) (text : String) : Prop :=
  ∃ contexts, r.shown = failed ⟨contexts, cause⟩ ∧ (Failure.mk contexts cause).message = text

/-- The run prints nothing and gets no lease: it fails when its wait is over, and where the clock
cannot show the end of that it does not end. -/
structure Ran.LacksLease (r : Ran) (start : Moment) (p : Patience) : Prop where
  fails : start + p.lease.nanos < clockEnd → r.FailsWith (.command (.timedOut p.lease))
    ("Associated but no DHCP lease: Timed out after " ++ p.lease.text)
  lasts : clockEnd ≤ start + p.lease.nanos → r.shown = (.error .endless, "")

theorem Ran.LacksLease.of_unleased {r : Ran} {start : Moment} {p : Patience}
    (h : r.shown = unleased start p) : r.LacksLease start p where
  fails hrange := ⟨_, h.trans (if_pos hrange), message_noLease p⟩
  lasts hrange := h.trans (if_neg (Nat.not_lt.mpr hrange))

/-- **A run connects if the host lets it, and else it fails as far up as it got.** Where the waits
are long enough, a run says that it connected with an address exactly if there is a device to work
on and a network to join, the profile will be created and activated, and one of the looks at the
device is the first to show an address, and shows this one. Otherwise it prints nothing. Without a
device it has only listed them; without a network to join it asks nothing more, and nobody is handed
any credentials; without an association nobody looks for a lease; and without a lease the wait for
it runs out, or never ends if the clock cannot show its deadline. -/
theorem connect_outcome (clock : Clock) (place : Place) (w : World) (t : Target) (save : Bool)
    (hpatience : Outlasts (settingsFor place w.spot).1.patience clock.pace) :
    let settings := (settingsFor place w.spot).1
    let ran := run clock place w (.connect t save)
    (∀ ip, ran.shown = joined t.ssid ip ↔ ∃ d, deviceFor settings t w.host = .ok d ∧ t.ssid ≠ "" ∧
      w.host.willJoin = true ∧ ∃ k < maxLooks, w.host.IsFirstLease d.name k ip) ∧
    (∀ f, deviceFor settings t w.host = .error f → ran.shown = failed f ∧
      ran.world = ⟨w.host.asked (w.host.made .listDevices), w.spot⟩) ∧
    ∀ d, deviceFor settings t w.host = .ok d →
      (t.ssid = "" →
        ran.FailsWith (.command .emptySsid) "Invalid argument: SSID must not be empty" ∧
        ran.world = ⟨w.host.asked [.listDevices], w.spot⟩ ∧
        ran = run clock place w (.connect t false)) ∧
      (t.ssid ≠ "" → w.host.willJoin = false →
        ran.FailsWith (.associationFailed t.ssid) ("Connection to '" ++ t.ssid ++ "' failed") ∧
        ∃ rs, ran.world.host = w.host.asked rs ∧ ∀ r ∈ rs, r.verb ≠ .showDevice) ∧
      (t.ssid ≠ "" → w.host.willJoin = true →
        (∀ k < maxLooks, w.host.address? d.name k = none) →
        ran.LacksLease clock.start settings.patience) := by
  intro settings ran
  have herror (f : Failure) (hd : deviceFor settings t w.host = .error f) : ran.shown = failed f ∧
      ran.world = ⟨w.host.asked (w.host.made .listDevices), w.spot⟩ := by
    have hrun := run_connect_of_error clock.pace place save (s := startShell clock place w) hd
    exact ⟨congrArg (Ran.shown ∘ Ran.of) hrun, congrArg (Ran.world ∘ Ran.of) hrun⟩
  have hempty (d : Device) (hd : deviceFor settings t w.host = .ok d) (hssid : t.ssid = "") :
      ran.shown = failed (.of (.command .emptySsid)) ∧
        ran.world = ⟨w.host.asked [.listDevices], w.spot⟩ ∧
        ran = run clock place w (.connect t false) := by
    obtain ⟨log, hrun⟩ := run_of_empty clock place w t hd hssid
    refine ⟨congrArg Ran.shown (hrun save), congrArg Ran.world (hrun save), ?_⟩
    exact (hrun save).trans (hrun false).symm
  have hrefused (d : Device) (hd : deviceFor settings t w.host = .ok d) (hssid : t.ssid ≠ "")
      (hjoin : w.host.willJoin = false) : ran.shown = failed (.of (.associationFailed t.ssid)) :=
    shown_run_of_not_willJoin clock place w t save hd hssid hpatience.connect hjoin
  have hlease (d : Device) (hd : deviceFor settings t w.host = .ok d) (hssid : t.ssid ≠ "")
      (hjoin : w.host.willJoin = true) (k : Nat) (hk : k < maxLooks) (ip : Ipv4)
      (hfirst : w.host.IsFirstLease d.name k ip) : ran.shown = joined t.ssid ip := by
    have htime : k * clock.pace pollInterval < settings.patience.lease.nanos :=
      Nat.lt_of_le_of_lt (Nat.mul_le_mul_right _ (Nat.le_sub_one_of_lt hk)) hpatience.lease
    refine (shown_run_of_isFirstLease clock place w t save hd hssid hpatience.connect hjoin hk
      hfirst).trans (if_neg fun h => ?_)
    exact Nat.not_le_of_lt htime h.2
  have hnone (d : Device) (hd : deviceFor settings t w.host = .ok d) (hssid : t.ssid ≠ "")
      (hjoin : w.host.willJoin = true) (hnone : ∀ k < maxLooks, w.host.address? d.name k = none) :
      ran.shown = unleased clock.start settings.patience :=
    shown_run_of_none clock place w t save hd hssid hpatience.connect hjoin hnone
  refine ⟨fun ip => ⟨fun hshown => ?_, ?_⟩, herror, fun d hd => ⟨fun hssid => ?_, ?_, ?_⟩⟩
  · -- In every other way to end nobody is joined.
    cases hd : deviceFor settings t w.host with
    | error f => exact absurd (hshown.symm.trans (herror f hd).1) (joined_ne_failed _ _ _)
    | ok d =>
      by_cases hssid : t.ssid = ""
      · exact absurd (hshown.symm.trans (hempty d hd hssid).1) (joined_ne_failed _ _ _)
      · cases hjoin : w.host.willJoin with
        | false =>
          exact absurd (hshown.symm.trans (hrefused d hd hssid hjoin)) (joined_ne_failed _ _ _)
        | true =>
          rcases w.host.exists_isFirstLease d.name maxLooks with ⟨k, hk, found, hfirst⟩ | hall
          · have hfound := hshown.symm.trans (hlease d hd hssid hjoin k hk found hfirst)
            rw [joined_injective hfound]
            exact ⟨d, rfl, hssid, rfl, k, hk, hfirst⟩
          · exact absurd (hshown.symm.trans (hnone d hd hssid hjoin hall))
              (joined_ne_unleased _ _ _ _)
  · rintro ⟨d, hd, hssid, hjoin, k, hk, hfirst⟩
    exact hlease d hd hssid hjoin k hk ip hfirst
  · obtain ⟨hshown, hworld, hsave⟩ := hempty d hd hssid
    exact ⟨⟨_, hshown, message_of rfl⟩, hworld, hsave⟩
  · intro hssid hjoin
    exact ⟨⟨_, hrefused d hd hssid hjoin, message_of rfl⟩,
      host_of_not_willJoin clock place w t save hd hssid hjoin⟩
  · intro hssid hjoin hall
    exact .of_unleased (hnone d hd hssid hjoin hall)

/-- With the default waits, an address that the third look shows is told, and one that only the
sixty-first would show is not. -/
theorem connect_outcome_looks :
    let place := Place.standard "/home"
    let clock := Clock.live 0 clockEnd_pos
    let ran (n : Nat) := run clock place ⟨hostWithLease n, .vacant⟩
      (.connect ⟨"home", none, .psk, none⟩ true)
    Outlasts (settingsFor place .vacant).1.patience clock.pace ∧
      (ran 2).shown = joined "home" ⟨10, 0, 0, 9⟩ ∧
      (ran 60).FailsWith (.command (.timedOut (.ofSeconds 30)))
        "Associated but no DHCP lease: Timed out after 30s" := by
  intro place clock ran
  have hpatience : Outlasts (settingsFor place .vacant).1.patience clock.pace :=
    ⟨by decide, by decide⟩
  have houtcome (n : Nat) := connect_outcome clock place ⟨hostWithLease n, .vacant⟩
    ⟨"home", none, .psk, none⟩ true hpatience
  refine ⟨hpatience, ?_, ?_⟩
  · exact ((houtcome 2).1 _).mpr ⟨_, deviceFor_hostWithLease 2 {}, nofun, rfl, 2,
      by decide, isFirstLease_hostWithLease 2⟩
  · have hlacks := ((houtcome 60).2.2 _ (deviceFor_hostWithLease 60 {})).2.2 nofun rfl
      (isFirstLease_hostWithLease 60).unseen
    obtain ⟨contexts, hshown, hmessage⟩ := hlacks.fails (by decide)
    have htext : (Span.ofSeconds 30).text = "30s" := by decide +kernel
    refine ⟨contexts, hshown, hmessage.trans ?_⟩
    exact congrArg ("Associated but no DHCP lease: Timed out after " ++ ·) htext

/-! ## Two limits -/

/-- **A lease is found if it comes before both limits.** Where the network is joined and the first
look to show an address is this one, half a second after each look before it, the run connects with
that address exactly if the look is taken before the wait that the settings allow is over, and
before the job's own limit. Otherwise it fails with the wait. A wait whose deadline the clock cannot
show is never over, so that it is the job's own limit alone that counts. -/
theorem connect_lease (start : Moment) (hreadable : start < clockEnd) (place : Place) (w : World)
    (t : Target) (save : Bool) {d : Device}
    (hd : deviceFor (settingsFor place w.spot).1 t w.host = .ok d) (hssid : t.ssid ≠ "")
    (hjoin : w.host.willJoin = true)
    (hconnect : 0 < (settingsFor place w.spot).1.patience.connectSeconds) {k : Nat} {ip : Ipv4}
    (hfirst : w.host.IsFirstLease d.name k ip) :
    let p := (settingsFor place w.spot).1.patience
    let ran := run (.live start hreadable) place w (.connect t save)
    (ran.shown = joined t.ssid ip ↔
      (start + p.lease.nanos < clockEnd → k * pollInterval < p.leaseSeconds * 1000) ∧
        k * pollInterval < pollLimit) ∧
    (ran.shown = joined t.ssid ip ∨ ran.LacksLease start p) := by
  intro p ran
  have hnanos : 0 < p.connect.nanos := Nat.mul_pos hconnect (Nat.succ_pos _)
  by_cases hk : k < maxLooks
  · have hshown := shown_run_of_isFirstLease (.live start hreadable) place w t save hd hssid hnanos
      hjoin hk hfirst
    have hlimit : k * pollInterval < pollLimit := by
      simp only [maxLooks, pollInterval, pollLimit] at *
      omega
    have htime : k * pollInterval < p.leaseSeconds * 1000 ↔
        ¬ p.lease.nanos ≤ k * Pace.live pollInterval := by
      simp only [Pace.live, pollInterval, Patience.lease, Span.ofSeconds]
      omega
    rw [and_iff_left hlimit, htime, ← not_and]
    by_cases hlate : start + p.lease.nanos < clockEnd ∧ p.lease.nanos ≤ k * Pace.live pollInterval
    · have hfailed : ran.shown = failed (noLease p) := hshown.trans (if_pos hlate)
      refine ⟨iff_of_false (fun h => joined_ne_failed _ _ _ (h.symm.trans hfailed))
        (not_not_intro hlate), ?_⟩
      exact Or.inr (.of_unleased (hfailed.trans (if_pos hlate.1).symm))
    · have hjoined : ran.shown = joined t.ssid ip := hshown.trans (if_neg hlate)
      exact ⟨iff_of_true hjoined hlate, Or.inl hjoined⟩
  · -- The job gives up before the look is taken.
    have hnone : ∀ j < maxLooks, w.host.address? d.name j = none :=
      fun j hj => hfirst.unseen j (Nat.lt_of_lt_of_le hj (Nat.not_lt.mp hk))
    have hshown : ran.shown = unleased start p :=
      shown_run_of_none (.live start hreadable) place w t save hd hssid hnanos hjoin hnone
    have hlimit : ¬ k * pollInterval < pollLimit := by
      simp only [maxLooks, pollInterval, pollLimit] at *
      omega
    refine ⟨iff_of_false (fun h => joined_ne_unleased _ _ _ _ (h.symm.trans hshown)) ?_,
      Or.inr (.of_unleased hshown)⟩
    exact fun h => hlimit h.2

/-- With the default waits, an address that the third look shows comes in time. -/
theorem connect_lease_third_look :
    let w : World := ⟨hostWithLease 2, .vacant⟩
    let ran := run (.live 0 clockEnd_pos) (.standard "/home") w
      (.connect ⟨"home", none, .psk, none⟩ false)
    ran.shown = joined "home" ⟨10, 0, 0, 9⟩ := by
  intro w ran
  obtain ⟨hiff, -⟩ := connect_lease 0 clockEnd_pos (.standard "/home") w ⟨"home", none, .psk, none⟩
    false (deviceFor_hostWithLease 2 {}) nofun rfl (by decide) (isFirstLease_hostWithLease 2)
  exact hiff.mpr ⟨fun _ => by decide, by decide⟩

/-- On a host that the network takes in, and whose `k`-th look is the first to show an address, that
address comes before the wait for it is over and is yet not told. -/
def IsMissed (k : Nat) (p : Patience) : Prop :=
  let place := Place.standard "/home"
  let t : Target := ⟨"home", none, .psk, none⟩
  let w : World := ⟨hostWithLease k, .file ({ patience := p } : Settings).render.toUTF8⟩
  let settings := (settingsFor place w.spot).1
  deviceFor settings t w.host = .ok ⟨"wlan0", "wifi", "disconnected"⟩ ∧ w.host.willJoin = true ∧
    w.host.IsFirstLease "wlan0" k ⟨10, 0, 0, 9⟩ ∧
    k * pollInterval < settings.patience.leaseSeconds * 1000 ∧
    (run (.live 0 clockEnd_pos) place w (.connect t false)).shown ≠ joined "home" ⟨10, 0, 0, 9⟩

/-- A lease is missed where the job has given up by then, as it has at the sixty-first look in a
wait of 31 seconds, and where there was no time to wait for the association. -/
theorem connect_lease_missed : IsMissed 60 ⟨30, 31⟩ ∧ IsMissed 0 ⟨0, 30⟩ := by
  have hsettings (p : Patience) (hp : ({ patience := p } : Settings).isWritable = true) :
      (settingsFor (.standard "/home") (.file ({ patience := p } : Settings).render.toUTF8)).1
        = { patience := p } := settingsFor_of_load (Settings.load_render hp)
  constructor
  · have hloaded := hsettings ⟨30, 31⟩ rfl
    have hd := deviceFor_hostWithLease 60 ⟨30, 31⟩
    rw [← hloaded] at hd
    refine ⟨hd, rfl, isFirstLease_hostWithLease 60, ?_, ?_⟩
    · rw [hloaded]
      decide
    · rw [shown_run_of_none _ _ ⟨hostWithLease 60, _⟩ _ _ hd nofun (by rw [hloaded]; decide) rfl
        (isFirstLease_hostWithLease 60).unseen]
      exact (joined_ne_unleased _ _ _ _).symm
  · have hloaded := hsettings ⟨0, 30⟩ rfl
    have hd := deviceFor_hostWithLease 0 ⟨0, 30⟩
    rw [← hloaded] at hd
    refine ⟨hd, rfl, isFirstLease_hostWithLease 0, ?_, ?_⟩
    · rw [hloaded]
      decide
    · rw [shown_run_of_impatient _ _ ⟨hostWithLease 0, _⟩ _ _ hd nofun (by rw [hloaded])]
      exact (joined_ne_failed _ _ _).symm

end Wlan.CommandLine
