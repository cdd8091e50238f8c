import Wlan.Proofs.CommandLine.Connect
import Wlan.Proofs.NetworkManager.Secrecy
import Wlan.Proofs.Settings.Secrecy

/-!
# A password goes nowhere else

Two runs that join a network and are told different passwords. Up to the command that joins they are
one and the same, and after it they only wait. What the command does with the password leaves a
mark in two places, the runs of the tool and the settings file, and nothing that waits ever looks at
these (`Work.IsDetached`). So nothing else can tell the two runs apart (`connect_secrecy`).
-/

set_option autoImplicit false

namespace Wlan.CommandLine

open NetworkManager

/-- The same shell with another host and another settings file. -/
def Shell.put (s : Shell) (host : Host) (spot : Spot) : Shell := { s with host, spot }

/-! ## Work that only waits -/

namespace Work

variable {α β : Type} {work : Work α} {next : α → Work β}

/-- The work has nothing to do with the host and the settings file: with others in their place it
comes to the same, and leaves these alone as well. -/
def IsDetached {α : Type} (work : Work α) : Prop :=
  ∀ s host spot, work.run.run (s.put host spot)
    = ((work.run.run s).1, (work.run.run s).2.put host spot)

namespace IsDetached

theorem bind (hwork : IsDetached work) (hnext : ∀ a, IsDetached (next a)) :
    IsDetached (work >>= next) := by
  intro s host spot
  have hput := hwork s host spot
  cases hrun : work.run.run s with
  | mk result s' =>
    rw [hrun] at hput
    cases result with
    | error e => rw [run_bind_of_error hput, run_bind_of_error hrun]
    | ok a => rw [run_bind_of_ok hput, run_bind_of_ok hrun, hnext a]

theorem within (hwork : IsDetached work) (context : String) :
    IsDetached (Work.within context work) := by
  intro s host spot
  rw [run_within, run_within, hwork s host spot]

theorem pure (a : α) : IsDetached (Pure.pure a : Work α) := fun _ _ _ => rfl

theorem fail (cause : Cause) : IsDetached (Work.fail cause : Work α) := fun _ _ _ => rfl

theorem print (text : String) : IsDetached (Work.print text) := fun _ _ _ => rfl

theorem station : IsDetached Work.station := fun _ _ _ => rfl

theorem await (w : Wait) : IsDetached (Work.await w) := by
  intro s host spot
  rw [run_await, run_await]
  rfl

/-- What it has nothing to do with, it leaves as it was. -/
theorem leaves (hwork : IsDetached work) (s : Shell) :
    (work.run.run s).2.host = s.host ∧ (work.run.run s).2.spot = s.spot := by
  have hself : (work.run.run s).2 = (work.run.run s).2.put s.host s.spot :=
    congrArg Prod.snd (hwork s s.host s.spot)
  rw [hself]
  exact ⟨rfl, rfl⟩

end IsDetached

end Work

open Work (IsDetached)

theorem isDetached_awaitAddress (patience : Patience) (ssid : String) :
    IsDetached (awaitAddress patience ssid) := by
  unfold awaitAddress
  refine ((IsDetached.await _).within _).bind fun _ => ?_
  refine IsDetached.station.bind fun station => ?_
  cases station.link.address with
  | some ip => exact IsDetached.print _
  | none => exact IsDetached.pure _

theorem isDetached_awaitNetwork (patience : Patience) (ssid : String) :
    IsDetached (awaitNetwork patience ssid) := by
  unfold awaitNetwork
  refine (IsDetached.await _).bind fun _ => ?_
  refine IsDetached.station.bind fun station => ?_
  dsimp only
  split
  · exact (IsDetached.fail _).bind fun _ => isDetached_awaitAddress patience ssid
  · exact isDetached_awaitAddress patience ssid

/-! ## Runs that differ in a password -/

section

variable {α β : Type} {place : Place} {ssid k k' : String} {save : Bool}

/-- What the work came to is the same, except for one key in the runs of the tool, and one password
in the settings file if that is to be saved. -/
structure Conceals (place : Place) (ssid k k' : String) (save : Bool)
    (done done' : Except Stop α × Shell) : Prop where
  exit : done'.1 = done.1
  shell : done'.2 = done.2.put done'.2.host done'.2.spot
  host : Alike k k' done.2.host done'.2.host
  file : Settings.DifferInPassword place ssid done.2.spot done'.2.spot
  unsaved : save = false → done'.2.spot = done.2.spot

theorem Conceals.refl (done : Except Stop α × Shell) : Conceals place ssid k k' save done done :=
  ⟨rfl, rfl, Alike.refl k k' _, rfl, fun _ => rfl⟩

/-- What is left of two runs that came to the same. -/
theorem Conceals.ran {done done' : Except Stop Unit × Shell}
    (h : Conceals place ssid k k' save done done') :
    (Ran.of done').exit = (Ran.of done).exit ∧ (Ran.of done').printed = (Ran.of done).printed ∧
      (Ran.of done').log = (Ran.of done).log ∧ (Ran.of done').jobLog = (Ran.of done).jobLog ∧
    DifferInKey k k' ((Ran.of done).world.host.runs.map Run.arguments)
      ((Ran.of done').world.host.runs.map Run.arguments) ∧
    Settings.DifferInPassword place ssid (Ran.of done).world.spot (Ran.of done').world.spot ∧
    (save = false → (Ran.of done').world.spot = (Ran.of done).world.spot) := by
  obtain ⟨hexit, hshell, hhost, hfile, hunsaved⟩ := h
  have hprinted := congrArg Shell.printed hshell
  have hlog := congrArg Shell.log hshell
  have hjobLog := congrArg (fun s => s.jobLog ++ s.timeline.finish.2) hshell
  exact ⟨hexit, hprinted, hlog, hjobLog, hhost.differ_arguments, hfile, hunsaved⟩

/-- Nothing comes to light later on. -/
theorem Conceals.bind {work work' : Work α} {next : α → Work β} {s : Shell}
    (hwork : Conceals place ssid k k' save (work.run.run s) (work'.run.run s))
    (hnext : ∀ a, IsDetached (next a)) :
    Conceals place ssid k k' save ((work >>= next).run.run s) ((work' >>= next).run.run s) := by
  cases hrun : work.run.run s with
  | mk result t =>
    cases hrun' : work'.run.run s with
    | mk result' t' =>
      rw [hrun, hrun'] at hwork
      obtain ⟨rfl, hshell, hhost, hfile, hunsaved⟩ := hwork
      cases result' with
      | error e =>
        rw [Work.run_bind_of_error hrun, Work.run_bind_of_error hrun']
        exact ⟨rfl, hshell, hhost, hfile, hunsaved⟩
      | ok a =>
        rw [Work.run_bind_of_ok hrun, Work.run_bind_of_ok hrun']
        dsimp only at hshell hhost hfile hunsaved
        have hput := (congrArg (next a).run.run hshell).trans (hnext a t t'.host t'.spot)
        obtain ⟨hhost', hspot'⟩ := (hnext a).leaves t
        refine ⟨?_, ?_, ?_, ?_, ?_⟩
        · rw [hput]
        · rw [hput]
          rfl
        · rw [hput, hhost']
          exact hhost
        · rw [hput, hspot']
          exact hfile
        · rw [hput, hspot']
          exact hunsaved

/-! ## Joining with one password and another -/

/-- Who is to keep the credentials of a run. -/
def keeperFor (place : Place) (interface : String) (save : Bool) : Keeper :=
  if save then .filing place (some interface) else .forgetful

/-- What is handed over for keeping is the same but for the password, and so is what is kept. -/
theorem handed_withKey (place : Place) (interface : String) (save : Bool) (c : Credentials)
    (k k' : String) (spot : Spot) :
    let handed (key : String) :=
      Work.handed (keeperFor place interface save) (some (c.withKey key)) spot
    (handed k').2 = (handed k).2 ∧
      Settings.DifferInPassword place c.ssid (handed k).1 (handed k').1 ∧
      (save = false → (handed k').1 = (handed k).1) := by
  intro handed
  cases save with
  | false => exact ⟨rfl, rfl, fun _ => rfl⟩
  | true =>
    obtain ⟨hlog, hfile⟩ := Keeper.keep_withKey place (some interface) c k k' spot
    exact ⟨hlog, hfile, nofun⟩

/-- All that a shell shows of a command that joins with some key, the host and the settings file
apart: the job that is under way, and what was logged between the lines of the command itself. -/
def joining (pace : Pace) (c : Credentials) (s : Shell) (acts : List Act) (kept : List LogLine) :
    Shell :=
  let link := s.timeline.station.link.submit (.connect c)
  { s with
    timeline := ⟨{ s.timeline.station with link }, s.timeline.now, schedule pace s.timeline.now acts⟩
    log := s.log
      ++ [.debug ("Connecting to " ++ c.ssid), .debug ("ssid: " ++ c.ssid ++ ", psk: " ++ "<set>"
        ++ ", security: " ++ c.security.label ++ ", mfp: " ++ FrameProtection.optional.label)]
      ++ kept ++ [.debug "Connection requested"] }

theorem commanded_withKey (pace : Pace) (keeper : Keeper) {c : Credentials} (hssid : c.ssid ≠ "")
    (key : String) (s : Shell) :
    let job := connectJob s.timeline.station.interface (c.withKey key).association s.host
    let kept := Work.handed keeper (some (c.withKey key)) s.spot
    Work.commanded pace keeper (.connect (c.withKey key)) s
      = (joining pace c s job.1 kept.2).put job.2 kept.1 := by
  have hname : (c.withKey key).ssid ≠ "" := hssid
  have hrequest : Command.request (.connect (c.withKey key))
      = .ok (.associate (c.withKey key).association) := if_neg hname
  have hcredentials : Command.credentials? (.connect (c.withKey key)) = some (c.withKey key) :=
    if_neg hname
  unfold Work.commanded
  simp only [command_connect _ hname, Command.perform, hrequest, hcredentials]
  rfl

/-- **The command that joins is where the password goes**: into one run of the tool and into the
settings file, and nowhere else. -/
theorem conceals_command (pace : Pace) (interface : String) (c : Credentials) (s : Shell) :
    let command (key : String) :=
      Work.command pace (keeperFor place interface save) (.connect (c.withKey key))
    Conceals place c.ssid k k' save ((command k).run.run s) ((command k').run.run s) := by
  intro command
  by_cases hssid : c.ssid = ""
  · -- Without a network to join nobody is told a password.
    have hempty (key : String) : (c.withKey key).ssid = "" := hssid
    have hsame : (command k').run.run s = (command k).run.run s := by
      simp only [command, Work.run_command, Work.commanded, command_connect_empty _ (hempty _)]
    rw [hsame]
    exact Conceals.refl _
  · have hname (key : String) : (c.withKey key).ssid ≠ "" := hssid
    have hcommand (key : String) : (command key).run.run s
        = (.ok (), Work.commanded pace (keeperFor place interface save)
            (.connect (c.withKey key)) s) := by
      simp only [command, Work.run_command, result_command_connect _ (hname key)]
      rfl
    have hjob : Concur k k'
        (connectJob s.timeline.station.interface (c.withKey k).association)
        (connectJob s.timeline.station.interface (c.withKey k').association) s.host s.host :=
      concur_connectJob k k' s.host s.timeline.station.interface (c.withKey k).association
    obtain ⟨hlog, hfile, hunsaved⟩ := handed_withKey place interface save c k k' s.spot
    rw [hcommand, hcommand, commanded_withKey pace _ hssid, commanded_withKey pace _ hssid]
    refine ⟨rfl, ?_, hjob.hosts, hfile, hunsaved⟩
    exact congrArg₂ (fun acts kept => (joining pace c s acts kept).put _ _) hjob.result hlog

theorem conceals_connectOn (pace : Pace) (patience : Patience) (c : Credentials)
    (interface : String) (s : Shell) :
    let attempt (key : String) :=
      connectOn pace patience (keeperFor place interface save) (c.withKey key) interface
    Conceals place c.ssid k k' save ((attempt k).run.run s) ((attempt k').run.run s) := by
  intro attempt
  let opened : Shell := { s with
    timeline := { station := { interface }, now := s.timeline.now }
    log := s.log ++ [.info ("Connecting to '" ++ c.ssid ++ "' on interface " ++ interface ++ "...")] }
  have hattempt (key : String) : (attempt key).run.run s
      = (Work.command pace (keeperFor place interface save) (.connect (c.withKey key))
        >>= fun _ => awaitNetwork patience c.ssid).run.run opened := by
    simp only [attempt, connectOn]
    rw [Work.run_bind_of_ok (Work.run_openInterface interface s),
      Work.run_bind_of_ok (Work.run_say _ _)]
    rfl
  rw [hattempt, hattempt]
  exact (conceals_command pace interface c opened).bind
    fun _ => isDetached_awaitNetwork patience c.ssid

/-- Which interface is taken does not depend on the password. -/
theorem conceals_connect (pace : Pace) (settings : Settings) (t : Target) (s : Shell) :
    let attempt (key : String) :=
      connect pace place settings { t with password := some key } save
    Conceals place t.ssid k k' save ((attempt k).run.run s) ((attempt k').run.run s) := by
  intro attempt
  let c : Credentials := ⟨t.ssid, none, t.security⟩
  let said : Shell := { s with log := s.log ++ [] }
  let pick := pickInterface settings
    (t.interface <|> (settings.find? t.ssid).bind SavedNetwork.interface)
  have hattempt (key : String) : (attempt key).run.run s = (pick >>= fun interface =>
      connectOn pace settings.patience (keeperFor place interface save) (c.withKey key)
        interface).run.run said := by
    simp only [attempt, connect]
    rw [Work.run_bind_of_ok (Work.run_say _ _)]
    rfl
  rw [hattempt, hattempt]
  cases hpick : pick.run.run said with
  | mk result picked =>
    cases result with
    | error e =>
      rw [Work.run_bind_of_error hpick, Work.run_bind_of_error hpick]
      exact Conceals.refl _
    | ok interface =>
      rw [Work.run_bind_of_ok hpick, Work.run_bind_of_ok hpick]
      exact conceals_connectOn pace settings.patience c interface picked

end

/-- **A password goes nowhere but to the tool and to the settings file.** Two runs that join the same
network with different passwords, on hosts that reply the same, come to the same result, print the
same and log the same, the job as well as its caller. The argument lists of their runs of the tool
are the same, except for the one value after the setting of the key. The settings that they leave
behind are the same, except for the password of this one network, and what they leave is the same
file if nothing is to be saved. -/
theorem connect_secrecy (clock : Clock) (place : Place) (w : World) (t : Target) (save : Bool)
    (k k' : String) :
    let ran := run clock place w (.connect { t with password := some k } save)
    let ran' := run clock place w (.connect { t with password := some k' } save)
    ran'.exit = ran.exit ∧ ran'.printed = ran.printed ∧ ran'.log = ran.log ∧
      ran'.jobLog = ran.jobLog ∧
    DifferInKey k k' (ran.world.host.runs.map Run.arguments)
      (ran'.world.host.runs.map Run.arguments) ∧
    (Settings.load place ran'.world.spot).map (Settings.concealing t.ssid)
      = (Settings.load place ran.world.spot).map (Settings.concealing t.ssid) ∧
    (save = false → ran'.world.spot = ran.world.spot) := by
  intro ran ran'
  have hconceals : Conceals place t.ssid k k' save _ _ :=
    conceals_connect clock.pace (settingsFor place w.spot).1 t (startShell clock place w)
  have hran : ran = .of _ := run_eq clock place w _
  have hran' : ran' = .of _ := run_eq clock place w _
  rw [hran, hran']
  exact hconceals.ran

end Wlan.CommandLine
