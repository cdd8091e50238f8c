import Wlan.Proofs.CommandLine.Outcome
import Wlan.Proofs.NetworkManager.Leaving

/-!
# The outcome of leaving a network

A run that leaves a network waits until the job reports that this has ended. How it has ended the
report does say, but neither the wait nor the run asks. So a run ends well if it has seen the device
disconnected, or has told it to leave and heard that this is over; and whether the device has left is
only told by the log of the job (`disconnect_outcome`).
-/

set_option autoImplicit false

namespace Wlan.CommandLine

open NetworkManager

/-! ## The command and the wait -/

/-- What a run does to a device that it has found. -/
def leave (pace : Pace) (p : Patience) : Work Unit := do
  Work.command pace .forgetful .disconnect
  Work.await (.disconnecting p.connect)

theorem command_disconnect (s : Station) (h : Host) :
    let answer := request s.interface .disconnect h
    let performed := Command.disconnect.perform s.link ⟨[], answer.1.1⟩
    s.command .disconnect h
      = (⟨{ s with link := performed.link }, performed, answer.1.2⟩, answer.2) := rfl

section

variable {pace : Pace} {p : Patience} {interface : String} {s : Shell} {verdict : Verdict}
  {acts : List Act} (hstation : s.timeline.station = { interface })

include hstation

theorem host_leave :
    ((leave pace p).run.run s).2.host = (request interface .disconnect s.host).2 := by
  have hcommand := Work.run_command pace .forgetful .disconnect s
  have hhost : (Work.commanded pace .forgetful .disconnect s).host
      = (request interface .disconnect s.host).2 := by
    unfold Work.commanded
    rw [hstation, command_disconnect]
  unfold leave
  cases hresult : (s.timeline.station.command .disconnect s.host).1.performed.result with
  | error e =>
    rw [hresult] at hcommand
    rw [Work.run_bind_of_error hcommand, hhost]
  | ok u =>
    rw [hresult] at hcommand
    rw [Work.run_bind_of_ok hcommand, Work.run_await, ← hhost]
    rfl

variable (hanswer : (request interface .disconnect s.host).1 = (verdict, acts))

include hanswer

theorem run_command_disconnect :
    (Work.command pace .forgetful .disconnect).run.run s =
      ((Command.disconnect.result verdict).mapError fun e => .failed (.of (.command e)),
        Work.commanded pace .forgetful .disconnect s) := by
  rw [Work.run_command, hstation, command_disconnect, hanswer]
  rfl

/-- A command that was not turned down is followed by the wait. -/
theorem run_leave_of_ok (hresult : Command.disconnect.result verdict = .ok ()) :
    let commanded := Work.commanded pace .forgetful .disconnect s
    (leave pace p).run.run s =
      (exitOf (commanded.timeline.await (.disconnecting p.connect)).outcome,
        Work.waited (.disconnecting p.connect) commanded) := by
  intro commanded
  have hcommand : (Work.command pace .forgetful .disconnect).run.run s = (.ok (), commanded) := by
    rw [run_command_disconnect hstation hanswer, hresult]
    rfl
  exact (Work.run_bind_of_ok hcommand).trans (Work.run_await _ _)

theorem isAwaiting_commanded (hprinted : s.printed = "") :
    IsAwaiting pace s.timeline.now acts (Command.disconnect.perform {} ⟨[], verdict⟩).link
      (Work.commanded pace .forgetful .disconnect s) := by
  unfold Work.commanded
  rw [hstation, command_disconnect, hanswer]
  exact ⟨hprinted, rfl, rfl, rfl⟩

end

section

variable {pace : Pace} {p : Patience} {interface : String} {s : Shell} {acts : List Act}
  (hstation : s.timeline.station = { interface }) (hprinted : s.printed = "")

include hstation

theorem exit_leave_of_rejected {why : String}
    (hanswer : (request interface .disconnect s.host).1 = (.refused (.rejected why), [])) :
    ((leave pace p).run.run s).1 = .error (.failed (.of (.command (.refused why)))) := by
  have hcommand : (Work.command pace .forgetful .disconnect).run.run s
      = (.error (.failed (.of (.command (.refused why)))), _) :=
    run_command_disconnect hstation hanswer
  unfold leave
  rw [Work.run_bind_of_error hcommand]

include hprinted

theorem exit_leave_of_already
    (hanswer : (request interface .disconnect s.host).1 = (.refused .already, [])) :
    ((leave pace p).run.run s).1 = .ok () := by
  have hawaiting : IsAwaiting pace s.timeline.now [] {}
      (Work.commanded pace .forgetful .disconnect s) := isAwaiting_commanded hstation hanswer hprinted
  have hdone := hawaiting.await_eq (.disconnecting p.connect)
  rw [Timeline.awaitFrom_of_not_pending (by rw [hawaiting.link]; rfl)] at hdone
  rw [run_leave_of_ok hstation hanswer rfl, hdone]
  rfl

/-- Once the device has been told to leave, the run ends well if there is any time to wait. -/
theorem exit_leave_of_accepted (hreadable : s.timeline.now < clockEnd)
    {outcome : Except Failure Unit}
    (hanswer : (request interface .disconnect s.host).1
      = (.accepted, disconnectActs interface outcome)) :
    ((leave pace p).run.run s).1 = .ok () ↔ 0 < p.connect.nanos := by
  obtain ⟨before, status, hacts, hidle, hpauses⟩ := exists_disconnectActs_eq interface outcome
  rw [hacts] at hanswer
  have hawaiting : IsAwaiting pace s.timeline.now (before ++ [.report (.disconnectResult status)])
      { disconnecting := true } (Work.commanded pace .forgetful .disconnect s) :=
    isAwaiting_commanded hstation hanswer hprinted
  have hdelay : delay pace before = 0 :=
    (delay_of_pausesOf (n := 0) hpauses).trans (Nat.zero_mul (pace 0))
  have hmet : (Wait.disconnecting p.connect).pending
      (({ disconnecting := true } : Link).deliver (.disconnectResult status)) = false := by
    rw [Link.deliver_of_kind_ne _ (by simp [Event.kind])]
    rfl
  rw [run_leave_of_ok hstation hanswer rfl]
  rcases Nat.eq_zero_or_pos p.connect.nanos with hzero | hpos
  · rw [hawaiting.await_impatient rfl hzero rfl hreadable, hzero]
    exact iff_of_false (by simp [exitOf, Outcome.result?, Except.mapError]) (Nat.lt_irrefl 0)
  · rw [(hawaiting.await_report rfl hpos rfl hmet hidle hdelay).1]
    exact ⟨fun _ => hpos, fun _ => rfl⟩

/-- What the job remarks is logged, whether the run waits for it or not. -/
theorem mem_jobLog_leave {outcome : Except Failure Unit}
    (hanswer : (request interface .disconnect s.host).1
      = (.accepted, disconnectActs interface outcome))
    {line : LogLine} (hline : line ∈ remarks (disconnectActs interface outcome)) :
    line ∈ (Ran.of ((leave pace p).run.run s)).jobLog := by
  have hawaiting : IsAwaiting pace s.timeline.now _ _
      (Work.commanded pace .forgetful .disconnect s) := isAwaiting_commanded hstation hanswer hprinted
  have hlog := Timeline.log_awaitFrom (.disconnecting p.connect)
    ((Wait.disconnecting p.connect).deadline? s.timeline.now)
    (Work.commanded pace .forgetful .disconnect s).timeline.station s.timeline.now
    (schedule pace s.timeline.now (disconnectActs interface outcome))
  rw [← remarks_schedule pace s.timeline.now] at hline
  have hlogged := hlog ▸ mem_applyAll_of_mem_remarks hline _
  rw [run_leave_of_ok hstation hanswer rfl, Ran.of, Work.waited, hawaiting.await_eq]
  dsimp only
  rw [List.append_assoc]
  exact List.mem_append_right _ hlogged

end

/-! ## What an exit tells -/

/-- How a run that leaves a network has ended, by what was exchanged with the host about this
device. -/
structure EndsBy (p : Patience) (interface : String) (xs : List Exchange) (r : Ran) : Prop where
  ends : r.exit = .ok () ↔
    ShownFree interface xs ∨ ShownInUse interface xs ∧ 0 < p.connectSeconds
  left : r.exit = .ok () → (IsLeft interface xs ↔ ∀ why, ¬ IsStuck interface why xs)
  /-- Nothing but a line in the log of the job tells that the device is stuck. -/
  stuck : ∀ why, IsStuck interface why xs → (r.exit = .ok () ↔ 0 < p.connectSeconds) ∧
    .error ("nmcli disconnect on " ++ interface ++ " failed: " ++ why) ∈ r.jobLog

namespace EndsBy

variable {p : Patience} {interface : String} {h : Host} {r : Ran}

/-- Nothing is known of a device that could not be looked at. -/
theorem of_unseen {f : Failure} (hs : (status interface h).1 = .error f) (hexit : r.exit ≠ .ok ()) :
    EndsBy p interface (h.exchanged (.showDevice interface)) r := by
  obtain ⟨hfree, hinuse⟩ := not_shown_of_unseen hs
  refine ⟨⟨fun h => absurd h hexit, ?_⟩, fun h => absurd h hexit, fun why hstuck => ?_⟩
  · rintro (hshown | ⟨hshown, -⟩)
    · exact absurd hshown hfree
    · exact absurd hshown hinuse
  · exact absurd hstuck (not_replied_exchanged (by simp))

theorem of_free (hfree : ShownFree interface (h.exchanged (.showDevice interface)))
    (hexit : r.exit = .ok ()) :
    EndsBy p interface (h.exchanged (.showDevice interface)) r := by
  have hstuck (why : String) :
      ¬ IsStuck interface why (h.exchanged (.showDevice interface)) :=
    not_replied_exchanged (by simp)
  exact ⟨⟨fun _ => .inl hfree, fun _ => hexit⟩, fun _ => ⟨fun _ => hstuck, fun _ => .inl hfree⟩,
    fun why h => absurd h (hstuck why)⟩

/-- The look tells that the device is in use, and the run after it what has become of that. -/
theorem of_told {seen : Host} (hscript : seen.script ≠ none)
    (hshown : ShownInUse interface (h.exchanged (.showDevice interface)))
    (hexit : r.exit = .ok () ↔ 0 < p.connectSeconds)
    (hlog : ∀ line ∈ remarks (disconnectActs interface (NetworkManager.disconnect interface seen).1),
      line ∈ r.jobLog) :
    EndsBy p interface
      (h.exchanged (.showDevice interface) ++ seen.exchanged (.disconnect interface)) r := by
  have hfree : ¬ ShownFree interface
      (h.exchanged (.showDevice interface) ++ seen.exchanged (.disconnect interface)) :=
    fun hany => (replied_append.mp hany).elim (not_shownFree_of_shownInUse hshown)
      (not_replied_exchanged (by simp))
  have hinuse : ShownInUse interface
      (h.exchanged (.showDevice interface) ++ seen.exchanged (.disconnect interface)) :=
    replied_append.mpr (.inl hshown)
  have hlast {P : Reply → Prop} : Replied (.disconnect interface) P
      (h.exchanged (.showDevice interface) ++ seen.exchanged (.disconnect interface))
        ↔ Replied (.disconnect interface) P (seen.exchanged (.disconnect interface)) :=
    replied_append.trans (or_iff_right (not_replied_exchanged (by simp)))
  refine ⟨?_, fun _ => ?_, fun why hstuck => ⟨hexit, ?_⟩⟩
  · rw [hexit, or_iff_right hfree, and_iff_right hinuse]
  · rw [IsLeft, or_iff_right hfree]
    simp only [HasLeft, IsStuck, hlast]
    exact hasLeft_iff hscript
  · exact hlog _ (mem_remarks_of_isStuck (hlast.mp hstuck))

/-- What was exchanged about other things does not matter. -/
theorem after {q : Run} (hshow : q ≠ .showDevice interface) (hdisconnect : q ≠ .disconnect interface)
    {xs : List Exchange} (hends : EndsBy p interface xs r) :
    EndsBy p interface (h.exchanged q ++ xs) r := by
  have hskip {about : Run} {P : Reply → Prop} (hne : q ≠ about) :
      Replied about P (h.exchanged q ++ xs) ↔ Replied about P xs :=
    replied_append.trans (or_iff_right (not_replied_exchanged hne))
  have hfree : ShownFree interface (h.exchanged q ++ xs) ↔ ShownFree interface xs := hskip hshow
  have hinuse : ShownInUse interface (h.exchanged q ++ xs) ↔ ShownInUse interface xs := hskip hshow
  have hgone : HasLeft interface (h.exchanged q ++ xs) ↔ HasLeft interface xs := hskip hdisconnect
  have hstuck (why : String) : IsStuck interface why (h.exchanged q ++ xs)
      ↔ IsStuck interface why xs := hskip hdisconnect
  refine ⟨?_, ?_, ?_⟩
  · rw [hfree, hinuse]
    exact hends.ends
  · simp only [IsLeft, hfree, hgone, hstuck]
    exact hends.left
  · simp only [hstuck]
    exact hends.stuck

end EndsBy

section

variable (pace : Pace) (p : Patience) {interface : String} {s : Shell}

theorem endsBy_leave_of_shownInUse (hstation : s.timeline.station = { interface })
    (hreadable : s.timeline.now < clockEnd) (hprinted : s.printed = "")
    (hscript : s.host.script ≠ none)
    (hshown : ShownInUse interface (s.host.exchanged (.showDevice interface))) :
    let seen := s.host.after (s.host.exchanged (.showDevice interface))
    EndsBy p interface
      (s.host.exchanged (.showDevice interface) ++ seen.exchanged (.disconnect interface))
      (.of ((leave pace p).run.run s)) := by
  intro seen
  have hanswer := (exchanges_request_disconnect_accepted hshown).2
  have hseconds : 0 < p.connect.nanos ↔ 0 < p.connectSeconds := by
    simp only [Patience.connect, Span.ofSeconds]
    omega
  refine .of_told hscript hshown ?_ fun line hline => ?_
  · rw [← hseconds]
    exact exit_leave_of_accepted hstation hprinted hreadable hanswer
  · exact mem_jobLog_leave hstation hprinted hanswer hline

/-- Every way to go on ends the run as its exchanges say. -/
theorem endsBy_leave (hstation : s.timeline.station = { interface })
    (hreadable : s.timeline.now < clockEnd) (hprinted : s.printed = "")
    (hscript : s.host.script ≠ none) :
    ∃ xs, ((leave pace p).run.run s).2.host = s.host.after xs ∧ s.host.Gives xs ∧
      EndsBy p interface xs (.of ((leave pace p).run.run s)) := by
  obtain ⟨xs, hxs, hleaving⟩ := exists_leaving interface s.host
  refine ⟨xs, (host_leave hstation).trans hxs.host_after, hxs.gives, ?_⟩
  generalize hanswer : (request interface .disconnect s.host).1 = answer at hleaving
  obtain ⟨verdict, acts⟩ := answer
  cases hleaving with
  | unseen hs =>
    refine .of_unseen hs ?_
    rw [Ran.of, exit_leave_of_rejected hstation hanswer]
    nofun
  | free hfree => exact .of_free hfree (exit_leave_of_already hstation hprinted hanswer)
  | told hshown seen hseen =>
    rw [hseen]
    exact endsBy_leave_of_shownInUse pace p hstation hreadable hprinted hscript hshown

end

/-! ## The outcome of a whole run -/

/-- Work on an interface that is looked for, opened and told to whoever reads the log. -/
def onInterface (settings : Settings) (named : Option String) (line : String → LogLine)
    (work : String → Work Unit) : Work Unit := do
  let interface ← pickInterface settings named
  Work.openInterface interface
  Work.say [line interface]
  work interface

section

variable {settings : Settings} {named : Option String} {s : Shell} (line : String → LogLine)
  (work : String → Work Unit)

theorem run_onInterface_of_ok {d : Device}
    (hd : (resolve (named <|> settings.defaultInterface) s.host).1 = .ok d) :
    ∃ s', s'.timeline.station = { interface := d.name } ∧ s'.timeline.now = s.timeline.now ∧
      s'.printed = s.printed ∧ s'.host = s.host.after (s.host.exchanged .listDevices) ∧
      (onInterface settings named line work).run.run s = (work d.name).run.run s' := by
  have hpick := run_pickInterface settings named s
  rw [hd, (exchanges_resolve _ _).host_after] at hpick
  let opened : Shell := { s with
    host := s.host.after (s.host.exchanged .listDevices)
    timeline := { station := { interface := d.name }, now := s.timeline.now }
    log := s.log ++ [line d.name] }
  have hrun : (onInterface settings named line work).run.run s
      = (work d.name).run.run opened := by
    unfold onInterface
    rw [Work.run_bind_of_ok hpick, Work.run_bind_of_ok (Work.run_openInterface _ _),
      Work.run_bind_of_ok (Work.run_say _ _)]
  exact ⟨opened, rfl, rfl, rfl, rfl, hrun⟩

theorem run_onInterface_of_error {f : Failure}
    (hd : (resolve (named <|> settings.defaultInterface) s.host).1 = .error f) :
    (onInterface settings named line work).run.run s
      = (.error (.failed f), { s with host := s.host.after (s.host.exchanged .listDevices) }) := by
  have hpick := run_pickInterface settings named s
  rw [hd, (exchanges_resolve _ _).host_after] at hpick
  unfold onInterface
  rw [Work.run_bind_of_error hpick]

end

theorem disconnect_eq (pace : Pace) (settings : Settings) (interface : Option String) :
    disconnect pace settings interface = onInterface settings interface
      (fun name => .info ("Disconnecting interface " ++ name ++ "..."))
      fun _ => leave pace settings.patience := rfl

theorem run_disconnect_of_ok (pace : Pace) {settings : Settings} {interface : Option String}
    {s : Shell} {d : Device}
    (hd : (resolve (interface <|> settings.defaultInterface) s.host).1 = .ok d) :
    ∃ s', s'.timeline.station = { interface := d.name } ∧ s'.timeline.now = s.timeline.now ∧
      s'.printed = s.printed ∧ s'.host = s.host.after (s.host.exchanged .listDevices) ∧
      (disconnect pace settings interface).run.run s
        = (leave pace settings.patience).run.run s' := by
  rw [disconnect_eq]
  exact run_onInterface_of_ok _ _ hd

theorem run_disconnect_of_error (pace : Pace) {settings : Settings} {interface : Option String}
    {s : Shell} {f : Failure}
    (hd : (resolve (interface <|> settings.defaultInterface) s.host).1 = .error f) :
    (disconnect pace settings interface).run.run s
      = (.error (.failed f), { s with host := s.host.after (s.host.exchanged .listDevices) }) := by
  rw [disconnect_eq]
  exact run_onInterface_of_error _ _ hd

/-- **A run that leaves a network ends well if it got to hear that this is over.** Without a device
it fails as the search for one did. With a device, it ends well exactly if that was shown as
disconnected, or was shown in use and there was any time to wait. If it ends well, the device has
left, or was or turned out to be in no network, unless it is stuck: the tool was told to disconnect
it and failed otherwise than because it is not active. Then the run ends just as well as if the
device had left, and only the log of the job tells. -/
theorem disconnect_outcome (clock : Clock) (place : Place) (w : World) (interface : Option String) :
    let settings := (settingsFor place w.spot).1
    let ran := run clock place w (.disconnect interface)
    ∃ xs, ran.world.host = w.host.after xs ∧ w.host.Gives xs ∧
      match (resolve (interface <|> settings.defaultInterface) w.host).1 with
      | .error f => ran.exit = .error (.failed f)
      | .ok d => EndsBy settings.patience d.name xs ran := by
  intro settings ran
  cases hd : (resolve (interface <|> settings.defaultInterface) w.host).1 with
  | error f =>
    have hrun := run_disconnect_of_error clock.pace (s := startShell clock place w) hd
    refine ⟨w.host.exchanged .listDevices, ?_, (Exchanges.run .listDevices w.host).gives, ?_⟩
    · exact congrArg (World.host ∘ Ran.world ∘ Ran.of) hrun
    · exact congrArg (Ran.exit ∘ Ran.of) hrun
  | ok d =>
    obtain ⟨s, hstation, hnow, hprinted, hhost, hrun⟩ :=
      run_disconnect_of_ok clock.pace (s := startShell clock place w) hd
    have hran : ran = .of ((leave clock.pace settings.patience).run.run s) :=
      (run_eq _ _ _ _).trans (congrArg Ran.of hrun)
    have hscript : s.host.script ≠ none := by
      rw [hhost, Host.script_after]
      exact script_ne_none_of_resolve hd
    obtain ⟨xs, hafter, hgives, hends⟩ :=
      endsBy_leave clock.pace settings.patience hstation (hnow.symm ▸ clock.readable) hprinted
        hscript
    rw [hhost] at hafter hgives
    refine ⟨w.host.exchanged .listDevices ++ xs, ?_,
      Host.gives_append.mpr ⟨(Exchanges.run .listDevices w.host).gives, hgives⟩, ?_⟩
    · rw [hran]
      exact hafter.trans (Host.after_after _ _ _)
    · rw [hran]
      exact hends.after (by simp) (by simp)

/-- A host whose one device is in a network and cannot be made to leave it. -/
def hostStuck : Host where
  script := some fun verb _ => match verb with
    | .listDevices => ⟨"wlan0:wifi:connected".toUTF8, .empty, 0⟩
    | .showDevice =>
      ⟨"GENERAL.STATE:100 (connected)\nGENERAL.CONNECTION:home".toUTF8, .empty, 0⟩
    | .disconnect => ⟨.empty, "Error: Timeout expired (10 seconds)".toUTF8, 3⟩
    | _ => ⟨.empty, .empty, 0⟩

/-- On it a run ends well and the device has not left. -/
theorem disconnect_stuck :
    let ran := run (.live 0 clockEnd_pos) (.standard "/home") ⟨hostStuck, .vacant⟩
      (.disconnect (some "wlan0"))
    ran.exit = .ok () ∧
      ∃ xs, ran.world.host = hostStuck.after xs ∧ hostStuck.Gives xs ∧ ¬ IsLeft "wlan0" xs := by
  intro ran
  let clock : Clock := .live 0 clockEnd_pos
  let settings := (settingsFor (.standard "/home") .vacant).1
  let left := leave clock.pace settings.patience
  have hseconds : 0 < settings.patience.connectSeconds := Nat.succ_pos _
  have hd : (resolve (some "wlan0" <|> settings.defaultInterface) hostStuck).1
      = .ok ⟨"wlan0", "wifi", "connected"⟩ := by
    decide +kernel
  obtain ⟨s, hstation, hnow, hprinted, hhost, hrun⟩ := run_disconnect_of_ok clock.pace
    (s := startShell clock (.standard "/home") ⟨hostStuck, .vacant⟩) hd
  have hran : ran = .of (left.run.run s) := (run_eq _ _ _ _).trans (congrArg Ran.of hrun)
  have hscript : s.host.script ≠ none := by
    rw [hhost]
    nofun
  have hshown : ShownInUse "wlan0" (s.host.exchanged (.showDevice "wlan0")) := by
    rw [hhost]
    exact replied_exchanged.mpr ⟨_, rfl, rfl, by decide +kernel⟩
  obtain ⟨why, hby⟩ : ∃ why,
      IsStuckBy ⟨.empty, "Error: Timeout expired (10 seconds)".toUTF8, 3⟩ why :=
    ⟨_, .failed (by decide +kernel) (by decide +kernel)⟩
  obtain ⟨xs, hxs, hstuck, hends⟩ : ∃ xs, Exchanges (request "wlan0" .disconnect) s.host xs ∧
      IsStuck "wlan0" why xs ∧
      EndsBy settings.patience "wlan0" xs (.of (left.run.run s)) := by
    refine ⟨_, (exchanges_request_disconnect_accepted hshown).1, ?_,
      endsBy_leave_of_shownInUse _ _ hstation (hnow.symm ▸ clock.readable) hprinted hscript
        hshown⟩
    rw [hhost]
    exact replied_append.mpr (.inr (replied_exchanged.mpr ⟨_, rfl, hby⟩))
  have hexit := (hends.stuck _ hstuck).1.mpr hseconds
  have hall := hends.after (h := hostStuck) (q := .listDevices) (by simp) (by simp)
  rw [hran]
  refine ⟨hexit, hostStuck.exchanged .listDevices ++ xs, ?_, ?_, fun hleft => ?_⟩
  · refine ((host_leave hstation).trans hxs.host_after).trans ?_
    rw [hhost]
    exact Host.after_after _ _ _
  · exact Host.gives_append.mpr ⟨(Exchanges.run .listDevices hostStuck).gives, hhost ▸ hxs.gives⟩
  · exact (hall.left hexit).mp hleft _ (replied_append.mpr (.inr hstuck))

end Wlan.CommandLine
