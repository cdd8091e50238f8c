import Mathlib.Logic.Relation
import Wlan.Proofs.CommandLine.Leaving
import Wlan.Proofs.NetworkManager.Display
import Wlan.Proofs.NetworkManager.Scanning

/-!
# Scanning and looking

A caller who scans waits for the end of the job and then looks up what is known. The job reports its
end last of all, so that there is nothing left that could still change it. Whichever way the acts of
the job and the steps of its caller stand between each other (`Course`), what is printed is what the
listing of this very scan has shown (`scan_outcome`), in a table or in JSON (`Shows`).
-/

set_option autoImplicit false

namespace Wlan

open NetworkManager

/-! ## The mark of a scan -/

/-- A scan is marked until its end is reported. -/
theorem scanning_apply {s : Station} {a : Act} (hs : s.link.scanning = true)
    (ha : ∀ status, a ≠ .report (.scanDone status)) : (s.apply a).1.link.scanning = true := by
  cases a with
  | report e =>
    have hkind : (e.kind == Kind.scanDone) = false := by
      cases e with
      | scanDone status => exact absurd rfl (ha status)
      | _ => rfl
    have hmark : (s.link.deliver e).isMarked .scan = true := by
      rw [Link.isMarked_deliver, Bool.and_eq_true, Bool.not_eq_true']
      exact ⟨hkind, hs⟩
    exact hmark
  | _ => exact hs

theorem scanning_apply_scanDone (s : Station) (status : Int) :
    (s.apply (.report (.scanDone status))).1.link.scanning = false := by
  have hdeliver : s.link.deliver (.scanDone status) = s.link.hearRadio (.scanDone status) :=
    Link.deliver_of_kind_ne s.link (by simp [Event.kind])
  exact congrArg Link.scanning hdeliver

/-- A scan reports its end last, and only then. -/
theorem exists_scanJob_eq (interface : String) (h : Host) :
    ∃ acts status, (scanJob interface h).1 = acts ++ [.report (.scanDone status)] ∧
      ∀ status', .report (.scanDone status') ∉ acts := by
  have hjob : (scanJob interface h).1
      = .pause scanPause :: scanActs interface (scan interface h).1 := rfl
  rw [hjob]
  cases (scan interface h).1 with
  | error f => exact ⟨[_, _], statusFailed, rfl, by simp⟩
  | ok found => exact ⟨findings found, statusOk, scanActs_ok interface found, not_mem_findings found⟩

namespace CommandLine

/-! ## Waits that end with a job -/

/-- The last of the acts, and none before it, ends the wait. -/
def IsMetAtEnd (w : Wait) (s : Station) (acts : List Act) : Prop :=
  ∀ before after, acts = before ++ after →
    (w.pending (s.applyAll before).1.link = true ↔ after ≠ [])

theorem schedule_cons {a : Act} (ha : ∀ millis, a ≠ .pause millis) {pace : Pace} {now : Moment}
    {acts : List Act} : schedule pace now (a :: acts) = (now, a) :: schedule pace now acts := by
  cases a with
  | pause millis => exact absurd rfl (ha millis)
  | _ => rfl

namespace IsMetAtEnd

variable {w : Wait} {s : Station} {a : Act} {acts : List Act}

theorem pending (h : IsMetAtEnd w s (a :: acts)) : w.pending s.link = true :=
  (h [] _ rfl).mpr nofun

theorem tail (h : IsMetAtEnd w s (a :: acts)) : IsMetAtEnd w (s.apply a).1 acts := by
  intro before after hsplit
  exact h (a :: before) after (congrArg (a :: ·) hsplit)

theorem not_pending (h : IsMetAtEnd w s acts) : w.pending (s.applyAll acts).1.link = false := by
  have hend := h acts [] (List.append_nil acts).symm
  exact Bool.eq_false_iff.mpr fun hpending => hend.mp hpending rfl

/-- With no deadline, such a wait takes until all has happened. -/
theorem awaitFrom (h : IsMetAtEnd w s acts) (pace : Pace) {now start : Moment} (hle : now ≤ start) :
    let waited := Timeline.awaitFrom w none s now (schedule pace start acts)
    waited.outcome = .done ∧ waited.timeline.station = (s.applyAll acts).1 := by
  induction acts generalizing s now start with
  | nil =>
    intro waited
    have hdone : waited = ⟨.done, ⟨s, now, []⟩, []⟩ :=
      Timeline.awaitFrom_of_not_pending h.not_pending now []
    rw [hdone]
    exact ⟨rfl, rfl⟩
  | cons a acts ih =>
    -- A pause is no act of its own on the timeline; it only moves those after it.
    by_cases hpause : ∃ millis, a = .pause millis
    · obtain ⟨millis, rfl⟩ := hpause
      exact ih h.tail (Nat.le_add_right_of_le hle)
    · have hpassed : hasPassed none start = false := rfl
      rw [schedule_cons fun millis heq => hpause ⟨millis, heq⟩]
      obtain ⟨houtcome, htimeline⟩ := Timeline.awaitFrom_of_not_hasPassed h.pending hle hpassed a
        (schedule pace start acts)
      obtain ⟨hdone, hstation⟩ := ih h.tail (Nat.le_refl start)
      exact ⟨houtcome.trans hdone, (congrArg Timeline.station htimeline).trans hstation⟩

end IsMetAtEnd

theorem isMetAtEnd_concat {s : Station} {acts : List Act} {status : Int}
    (hs : s.link.scanning = true) (hacts : ∀ status', .report (.scanDone status') ∉ acts) :
    IsMetAtEnd .scanDone s (acts ++ [.report (.scanDone status)]) := by
  induction acts generalizing s with
  | nil =>
    intro before after hsplit
    cases before with
    | nil =>
      obtain rfl : _ = after := hsplit
      exact iff_of_true hs (by simp)
    | cons a before =>
      obtain ⟨rfl, hrest⟩ := List.cons.inj hsplit
      obtain ⟨rfl, rfl⟩ := List.append_eq_nil_iff.mp hrest.symm
      exact iff_of_false (by simp [Station.applyAll, Wait.pending, scanning_apply_scanDone]) (by simp)
  | cons a acts ih =>
    intro before after hsplit
    cases before with
    | nil =>
      obtain rfl : _ = after := hsplit
      exact iff_of_true hs (by simp)
    | cons b before =>
      obtain ⟨rfl, hrest⟩ := List.cons.inj hsplit
      refine ih ?_ (fun status' hmem => hacts status' (List.mem_cons_of_mem a hmem)) before after hrest
      refine scanning_apply hs fun status' heq => hacts status' ?_
      exact heq ▸ List.mem_cons_self

theorem isMetAtEnd_scanJob {s : Station} (hs : s.link.scanning = true) (interface : String)
    (h : Host) : IsMetAtEnd .scanDone s (scanJob interface h).1 := by
  obtain ⟨acts, status, hjob, hacts⟩ := exists_scanJob_eq interface h
  rw [hjob]
  exact isMetAtEnd_concat hs hacts

/-! ## Courses -/

/-- What is printed of a scan that found this. -/
def scanText (json : Bool) (found : List AccessPoint) : String :=
  if json then AccessPoint.json found ++ "\n" else AccessPoint.table found

/-- A text that shows these access points, as a table or as JSON, one for one and in this order. -/
inductive Shows (found : List AccessPoint) : (json : Bool) → (text : String) → Prop
  | table {text : String} (htable : AccessPoint.IsTable found text) : Shows found false text
  | json {list : String} (hlist : AccessPoint.IsList found list) : Shows found true (list ++ "\n")

theorem shows_scanText (json : Bool) (found : List AccessPoint) :
    Shows found json (scanText json found) := by
  cases json with
  | false => exact .table (AccessPoint.isTable_table found)
  | true => exact .json (AccessPoint.isList_json found)

/-- How far the caller of a scan has come. -/
inductive Caller
  | waiting
  /-- It has seen that the scan is over. -/
  | released
  | done (printed : String)

/-- A scan under way: the station, what is left of the job, and the caller. -/
structure Course where
  station : Station
  job : List Act
  caller : Caller := .waiting

namespace Course

variable {json : Bool} {s : Station} {acts : List Act} {c d : Course}

/-- Either the job goes on or its caller does: it may look whether the scan is over whenever it
likes, and when it has seen so, it may take any time to look up what is known. -/
inductive Step (json : Bool) : Course → Course → Prop
  | act (station : Station) (a : Act) (rest : List Act) (caller : Caller) :
      Step json ⟨station, a :: rest, caller⟩ ⟨(station.apply a).1, rest, caller⟩
  | look (station : Station) (job : List Act)
      (hover : Wait.scanDone.pending station.link = false) :
      Step json ⟨station, job, .waiting⟩ ⟨station, job, .released⟩
  | read (station : Station) (job : List Act) :
      Step json ⟨station, job, .released⟩ ⟨station, job, .done (scanText json station.lastScan)⟩

/-- A course of these acts on this station. No caller has got ahead of the job. -/
structure IsOn (json : Bool) (s : Station) (acts : List Act) (c : Course) : Prop where
  split : ∃ before, acts = before ++ c.job ∧ c.station = (s.applyAll before).1
  caller : c.caller ≠ .waiting → c.job = []
  printed : ∀ text, c.caller = .done text → text = scanText json (s.applyAll acts).1.lastScan

theorem isOn_start (json : Bool) (s : Station) (acts : List Act) : IsOn json s acts ⟨s, acts, .waiting⟩ where
  split := ⟨[], rfl, rfl⟩
  caller := fun h => absurd rfl h
  printed := nofun

theorem IsOn.step (hmet : IsMetAtEnd .scanDone s acts) (h : IsOn json s acts c)
    (hstep : Step json c d) : IsOn json s acts d := by
  obtain ⟨before, hsplit, hstation⟩ := h.split
  cases hstep with
  | act station a rest caller =>
    have hwaiting : caller = .waiting := by
      by_contra hne
      exact nomatch h.caller hne
    obtain rfl : station = _ := hstation
    refine ⟨⟨before ++ [a], ?_, ?_⟩, fun hne => absurd hwaiting hne, fun text htext => ?_⟩
    · rw [hsplit, List.append_assoc]
      rfl
    · rw [Station.applyAll_append]
      rfl
    · exact nomatch hwaiting.symm.trans htext
  | look station job hover =>
    obtain rfl : station = _ := hstation
    refine ⟨⟨before, hsplit, rfl⟩, fun _ => ?_, nofun⟩
    by_contra hleft
    rw [(hmet before job hsplit).mpr hleft] at hover
    cases hover
  | read station job =>
    obtain rfl : station = _ := hstation
    have hjob : job = [] := h.caller nofun
    refine ⟨⟨before, hsplit, rfl⟩, fun _ => hjob, fun text htext => ?_⟩
    rw [hsplit, hjob, List.append_nil]
    exact (Caller.done.inj htext).symm

theorem IsOn.of_steps (hmet : IsMetAtEnd .scanDone s acts)
    (hsteps : Relation.ReflTransGen (Step json) ⟨s, acts, .waiting⟩ c) : IsOn json s acts c := by
  induction hsteps with
  | refl => exact isOn_start json s acts
  | tail _ hstep ih => exact ih.step hmet hstep

/-- A course comes to its end only when the caller has printed. -/
theorem IsOn.exists_printed (hmet : IsMetAtEnd .scanDone s acts) (h : IsOn json s acts c)
    (hend : ∀ d, ¬ Step json c d) : ∃ text, c.caller = .done text := by
  obtain ⟨before, hsplit, hstation⟩ := h.split
  obtain ⟨station, job, caller⟩ := c
  cases caller with
  | waiting =>
    cases job with
    | nil =>
      obtain rfl : acts = before := hsplit.trans (List.append_nil before)
      obtain rfl : station = _ := hstation
      exact absurd (.look _ _ hmet.not_pending) (hend _)
    | cons a rest => exact absurd (.act _ _ _ _) (hend _)
  | released => exact absurd (.read _ _) (hend _)
  | done text => exact ⟨text, rfl⟩

end Course

/-- A scan starts with its mark set and its job to come. -/
theorem command_scan (s : Station) (h : Host) :
    s.command .scan h = (⟨{ s with link := s.link.submit .scan },
      Command.scan.perform s.link ⟨[], .accepted⟩, (scanJob s.interface h).1⟩,
      (scanJob s.interface h).2) := rfl

/-- **A caller who waits for a scan sees what this scan has found**, whichever way the steps of the
two stand between each other. -/
theorem exists_course_printed (json : Bool) (s : Station) (h : Host) :
    let commanded := (s.command .scan h).1
    ∃ xs, Exchanges (request s.interface .scan) h xs ∧
      ∀ c, Relation.ReflTransGen (Course.Step json) ⟨commanded.station, commanded.job, .waiting⟩ c →
        (∀ text, c.caller = .done text → text = scanText json (latest s.interface s.lastScan xs)) ∧
          ((∀ d, ¬ Course.Step json c d) → ∃ text, c.caller = .done text) := by
  intro commanded
  obtain ⟨xs, hxs, hknown, -⟩ := exists_shown_scan s.interface h
  have hmet : IsMetAtEnd .scanDone commanded.station commanded.job :=
    isMetAtEnd_scanJob rfl s.interface h
  refine ⟨xs, hxs, fun c hsteps => ?_⟩
  have hon := Course.IsOn.of_steps hmet hsteps
  refine ⟨fun text htext => ?_, hon.exists_printed hmet⟩
  rw [hon.printed text htext, Station.lastScan_applyAll]
  exact congrArg (scanText json) (hknown s.lastScan)

/-! ## Runs -/

/-- What a run does with an interface that it has opened. -/
def survey (pace : Pace) (json : Bool) : Work Unit := do
  Work.command pace .forgetful .scan
  Work.await .scanDone
  Work.print (scanText json (← Work.station).lastScan)

/-- The scan is waited for without any limit, and then all of it has happened. -/
theorem run_survey (pace : Pace) (json : Bool) {interface : String} {s : Shell}
    (hstation : s.timeline.station = { interface }) (hprinted : s.printed = "") :
    ∃ xs s', Exchanges (request interface .scan) s.host xs ∧ s'.host = s.host.after xs ∧
      s'.printed = scanText json (latest interface [] xs) ∧
      (survey pace json).run.run s = (.ok (), s') := by
  obtain ⟨xs, hxs, hknown, -⟩ := exists_shown_scan interface s.host
  let commanded := Work.commanded pace .forgetful .scan s
  have hcommand : (Work.command pace .forgetful .scan).run.run s = (.ok (), commanded) := by
    rw [Work.run_command, command_scan]
    rfl
  have hhost : commanded.host = s.host.after xs := by
    show (s.timeline.station.command .scan s.host).2 = s.host.after xs
    rw [hstation, command_scan, ← hxs.host_after]
    rfl
  have hawait : commanded.timeline.await .scanDone = Timeline.awaitFrom .scanDone none
      { interface, link := { scanning := true } } s.timeline.now
      (schedule pace s.timeline.now (scanJob interface s.host).1) := by
    show Timeline.await ⟨_, _, _⟩ .scanDone = _
    rw [hstation, command_scan]
    rfl
  have hmet : IsMetAtEnd .scanDone { interface, link := { scanning := true } }
      (scanJob interface s.host).1 := isMetAtEnd_scanJob rfl interface s.host
  obtain ⟨hdone, hfinal⟩ := hmet.awaitFrom pace (Nat.le_refl s.timeline.now)
  rw [← hawait] at hdone hfinal
  let waited := Work.waited .scanDone commanded
  have hwait : (Work.await .scanDone).run.run commanded = (.ok (), waited) := by
    rw [Work.run_await, hdone]
    rfl
  have hfound : waited.timeline.station.lastScan = latest interface [] xs := by
    show (commanded.timeline.await .scanDone).timeline.station.lastScan = _
    rw [hfinal, Station.lastScan_applyAll]
    exact hknown []
  refine ⟨xs, { waited with printed := scanText json (latest interface [] xs) }, hxs, hhost, rfl, ?_⟩
  unfold survey
  rw [Work.run_bind_of_ok hcommand, Work.run_bind_of_ok hwait,
    Work.run_bind_of_ok (Work.run_station _), Work.run_print, hfound]
  have hempty : waited.printed = "" := hprinted
  rw [hempty, String.empty_append]

theorem scan_eq (pace : Pace) (settings : Settings) (interface : Option String) (json : Bool) :
    scan pace settings interface json = onInterface settings interface
      (fun name => .info ("Scanning on interface: " ++ name)) fun _ => survey pace json := rfl

/-- A run that scans prints what its own listing has shown, unless there is no device to scan with. -/
theorem run_scan_prints (clock : Clock) (place : Place) (w : World) (interface : Option String)
    (json : Bool) :
    let ran := run clock place w (.scan interface json)
    match (resolve (interface <|> (settingsFor place w.spot).1.defaultInterface) w.host).1 with
    | .error f => ran.exit = .error (.failed f) ∧ ran.printed = ""
    | .ok d => ∃ xs, Exchanges (request d.name .scan)
          (w.host.after (w.host.exchanged .listDevices)) xs ∧
        ran.world.host = w.host.after (w.host.exchanged .listDevices ++ xs) ∧
        ran.exit = .ok () ∧ ran.printed = scanText json (latest d.name [] xs) := by
  intro ran
  cases hd : (resolve (interface <|> (settingsFor place w.spot).1.defaultInterface) w.host).1 with
  | error f =>
    have hrun := run_onInterface_of_error (s := startShell clock place w)
      (fun name => .info ("Scanning on interface: " ++ name)) (fun _ => survey clock.pace json) hd
    rw [← scan_eq] at hrun
    exact ⟨congrArg (Ran.exit ∘ Ran.of) hrun, congrArg (Ran.printed ∘ Ran.of) hrun⟩
  | ok d =>
    obtain ⟨s, hstation, -, hprinted, hhost, hrun⟩ := run_onInterface_of_ok
      (s := startShell clock place w)
      (fun name => .info ("Scanning on interface: " ++ name)) (fun _ => survey clock.pace json) hd
    rw [← scan_eq] at hrun
    obtain ⟨xs, s', hxs, hhost', hprinted', hsurvey⟩ := run_survey clock.pace json hstation hprinted
    have hran : ran = .of (.ok (), s') :=
      (run_eq _ _ _ _).trans (congrArg Ran.of (hrun.trans hsurvey))
    have hstart : s.host = w.host.after (w.host.exchanged .listDevices) := hhost
    rw [hstart] at hxs hhost'
    rw [hran]
    exact ⟨xs, hxs, hhost'.trans (Host.after_after _ _ _), rfl, hprinted'⟩

/-- **Who waits for a scan sees what it has found.** Whatever requests are served one after the
other on a station, and whatever the tool replies: every scan reports its findings in the order of
its listing, the strongest first; they are known when its end is reported; a scan that failed
reports nothing but that, and leaves known what was known. At any time between two requests, what
is known is what the last listing that succeeded has shown. So whichever way a scan and its caller
are interleaved, and at any pace, what is printed is what the listing of this scan has shown, and
on a fresh station an empty list where it failed. What is printed is a table with one row for each
access point, or a JSON list with one record for each, in their order and with all that is known of
them. -/
theorem scan_outcome :
    (∀ (interface : String) (requests : List Request) (h : Host) (s : Station),
      ∃ served : List Service,
        served.map Service.request = requests ∧
        served.map (fun v => (v.verdict, v.acts)) = (serve interface requests h).1 ∧
        Exchanges (serve interface requests) h (served.flatMap Service.exchanges) ∧
        AreServed interface h served ∧
        ∀ before after, served = before ++ after →
          let reached := (s.applyAll (before.flatMap Service.acts)).1
          reached.lastScan = latest interface s.lastScan (before.flatMap Service.exchanges) ∧
            ∀ v ∈ after.head?, v.request = .scan → IsShown interface reached v.exchanges v.acts) ∧
    (∀ (json : Bool) (s : Station) (h : Host),
      let commanded := (s.command .scan h).1
      ∃ xs, Exchanges (request s.interface .scan) h xs ∧
        ∀ c,
          Relation.ReflTransGen (Course.Step json) ⟨commanded.station, commanded.job, .waiting⟩ c →
          (∀ text, c.caller = .done text →
            text = scanText json (latest s.interface s.lastScan xs)) ∧
          ((∀ d, ¬ Course.Step json c d) → ∃ text, c.caller = .done text)) ∧
    (∀ (json : Bool) (found : List AccessPoint), Shows found json (scanText json found)) ∧
    ∀ (clock : Clock) (place : Place) (w : World) (interface : Option String) (json : Bool),
      let ran := run clock place w (.scan interface json)
      match (resolve (interface <|> (settingsFor place w.spot).1.defaultInterface) w.host).1 with
      | .error f => ran.exit = .error (.failed f) ∧ ran.printed = ""
      | .ok d => ∃ xs, Exchanges (request d.name .scan)
            (w.host.after (w.host.exchanged .listDevices)) xs ∧
          ran.world.host = w.host.after (w.host.exchanged .listDevices ++ xs) ∧
          ran.exit = .ok () ∧ ran.printed = scanText json (latest d.name [] xs) := by
  refine ⟨fun interface requests h s => ?_, exists_course_printed, shows_scanText, run_scan_prints⟩
  obtain ⟨served, hrequests, hanswers, hexchanges, hserved, hall⟩ :=
    exists_served (keepsSight_request interface) requests h
  refine ⟨served, hrequests, hanswers, hexchanges, hserved, fun before after hsplit => ⟨?_, ?_⟩⟩
  · refine lastScan_served (fun v hv => ?_) s
    exact (hall v (hsplit ▸ List.mem_append_left after hv)).known
  · intro v hv hscan
    have hmem : v ∈ after := List.mem_of_mem_head? hv
    exact (hall v (hsplit ▸ List.mem_append_right before hmem)).shown hscan _

end CommandLine

end Wlan
