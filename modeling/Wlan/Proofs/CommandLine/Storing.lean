import Wlan.Proofs.CommandLine.Connect
import Wlan.Proofs.Settings.Storing

/-!
# Storing credentials on the way

A subcommand goes on by what the host answers and by what its job reports. It never looks back at
the settings file, once it has loaded it, nor at the log. So two works that differ only in what they
make of these come to the same (`Work.Agree`), and an attempt to join a network goes the same way
whether or not its credentials are to be stored, and whatever becomes of them (`agree_connect`).
-/

set_option autoImplicit false

namespace Wlan.CommandLine

open NetworkManager

/-! ## Works that come to the same -/

namespace Work

variable {α β : Type}

/-- All of a shell but the settings file and the log. -/
def inward (s : Shell) : Host × Timeline × String × List LogLine :=
  (s.host, s.timeline, s.printed, s.jobLog)

/-- From shells that are alike inwardly, the works come to one result and leave such shells. -/
def Agree (work work' : Work α) : Prop :=
  ∀ s s', inward s = inward s' →
    (work.run.run s).1 = (work'.run.run s').1 ∧
      inward (work.run.run s).2 = inward (work'.run.run s').2

theorem Agree.bind {work work' : Work α} {next next' : α → Work β} (hwork : Agree work work')
    (hnext : ∀ a, Agree (next a) (next' a)) : Agree (work >>= next) (work' >>= next') := by
  intro s s' hs
  obtain ⟨hresult, hinward⟩ := hwork s s' hs
  cases hrun : work.run.run s with
  | mk result t =>
    cases hrun' : work'.run.run s' with
    | mk result' t' =>
      rw [hrun, hrun'] at hresult hinward
      dsimp only at hresult hinward
      subst hresult
      cases result with
      | error e =>
        rw [run_bind_of_error hrun, run_bind_of_error hrun']
        exact ⟨rfl, hinward⟩
      | ok a =>
        rw [run_bind_of_ok hrun, run_bind_of_ok hrun']
        exact hnext a t t' hinward

theorem Agree.within {work work' : Work α} (hwork : Agree work work') (context : String) :
    Agree (within context work) (within context work') := by
  intro s s' hs
  obtain ⟨hresult, hinward⟩ := hwork s s' hs
  rw [run_within, run_within, hresult]
  exact ⟨rfl, hinward⟩

theorem agree_pure (a : α) : Agree (pure a) (pure a) := fun _ _ hs => ⟨rfl, hs⟩

theorem agree_fail (cause : Cause) : Agree (fail cause : Work α) (fail cause) :=
  fun _ _ hs => ⟨rfl, hs⟩

theorem agree_say (lines lines' : List LogLine) : Agree (say lines) (say lines') :=
  fun _ _ hs => ⟨rfl, hs⟩

theorem agree_print (text : String) : Agree (print text) (print text) := by
  intro s s' hs
  simp only [inward, Prod.mk.injEq] at hs
  simp [run_print, inward, hs]

theorem agree_station : Agree station station := by
  intro s s' hs
  refine ⟨?_, hs⟩
  simp only [inward, Prod.mk.injEq] at hs
  rw [run_station, run_station, hs.2.1]

theorem agree_openInterface (interface : String) :
    Agree (openInterface interface) (openInterface interface) := by
  intro s s' hs
  simp only [inward, Prod.mk.injEq] at hs
  simp [run_openInterface, inward, hs]

theorem agree_fromHost (m : OnHost (Except Failure α)) : Agree (fromHost m) (fromHost m) := by
  intro s s' hs
  simp only [inward, Prod.mk.injEq] at hs
  simp [run_fromHost, inward, hs]

theorem agree_await (w : Wait) : Agree (await w) (await w) := by
  intro s s' hs
  simp only [inward, Prod.mk.injEq] at hs
  simp [run_await, waited, inward, hs]

/-- It is the same to a command who keeps its credentials. -/
theorem agree_command (pace : Pace) (keeper keeper' : Keeper) (c : Command) :
    Agree (command pace keeper c) (command pace keeper' c) := by
  intro s s' hs
  simp only [inward, Prod.mk.injEq] at hs
  simp [run_command, commanded, inward, hs]

end Work

/-! ## Joining -/

open Work (Agree)

theorem agree_awaitAddress (patience : Patience) (ssid : String) :
    Agree (awaitAddress patience ssid) (awaitAddress patience ssid) := by
  unfold awaitAddress
  refine ((Work.agree_await _).within _).bind fun _ => ?_
  refine Work.agree_station.bind fun station => ?_
  split
  · exact Work.agree_print _
  · exact Work.agree_pure _

theorem agree_awaitNetwork (patience : Patience) (ssid : String) :
    Agree (awaitNetwork patience ssid) (awaitNetwork patience ssid) := by
  unfold awaitNetwork
  refine (Work.agree_await _).bind fun _ => ?_
  refine Work.agree_station.bind fun station => ?_
  dsimp only
  split
  · exact (Work.agree_fail _).bind fun _ => agree_awaitAddress patience ssid
  · exact agree_awaitAddress patience ssid

theorem agree_connectOn (pace : Pace) (patience : Patience) (keeper keeper' : Keeper)
    (c : Credentials) (interface : String) :
    Agree (connectOn pace patience keeper c interface)
      (connectOn pace patience keeper' c interface) := by
  unfold connectOn
  refine (Work.agree_openInterface interface).bind fun _ => ?_
  refine (Work.agree_say _ _).bind fun _ => ?_
  exact (Work.agree_command pace keeper keeper' _).bind fun _ => agree_awaitNetwork _ _

theorem agree_connect (pace : Pace) (place : Place) (settings : Settings) (t : Target)
    (save save' : Bool) :
    Agree (connect pace place settings t save) (connect pace place settings t save') := by
  unfold connect
  dsimp only
  refine (Work.agree_say _ _).bind fun _ => ?_
  refine Agree.bind ?_ fun interface => agree_connectOn pace _ _ _ _ interface
  exact (Work.agree_fromHost _).bind fun d => Work.agree_pure _

/-- Whether a run is to store its credentials shows in nothing but the settings file and the log. -/
theorem run_connect_save (clock : Clock) (place : Place) (w : World) (t : Target) :
    let saving := run clock place w (.connect t true)
    let plain := run clock place w (.connect t false)
    saving.exit = plain.exit ∧ saving.printed = plain.printed ∧ saving.jobLog = plain.jobLog ∧
      saving.world.host = plain.world.host := by
  intro saving plain
  obtain ⟨hexit, hinward⟩ := agree_connect clock.pace place (settingsFor place w.spot).1 t true
    false (startShell clock place w) _ rfl
  simp only [Work.inward, Prod.mk.injEq] at hinward
  obtain ⟨hhost, htimeline, hprinted, hjobLog⟩ := hinward
  have hfinish : saving.jobLog = plain.jobLog :=
    congrArg₂ (· ++ ·) hjobLog (congrArg (fun t => t.finish.2) htimeline)
  exact ⟨hexit, hprinted, hfinish, hhost⟩

/-- **To store credentials is all or nothing.** After any calls, from whatever is at the place, the
next one either says that it saved its credentials, and the settings that are loaded are then those
from before with its entry added, or it logs one error and leaves the spot as it is. A file that
cannot be loaded, and a spot where none can be put, are left as they are by any calls; else the
entries of all of them add up. What was loaded can always be put in writing. And who keeps the
credentials, or whether anyone does, is nothing to the command and to the run as a whole. -/
theorem storing_credentials (place : Place) :
    (∀ (start : Spot) (before : List Keeper.Call) (c : Keeper.Call),
      let spot := Keeper.storeAll place start before
      (∃ s, c.IsSaved place spot s) ∨ ∃ why, c.IsTurnedDown place spot why) ∧
    (∀ spot, (spot.isOpen = false ∨ ∃ f, Settings.load place spot = .error f) →
      ∀ calls, Keeper.storeAll place spot calls = spot) ∧
    (∀ spot s, Settings.load place spot = .ok s →
      (∀ n, (s.add n).render? = some (s.add n).render) ∧
      (spot.isOpen = true → ∀ calls, Settings.load place (Keeper.storeAll place spot calls)
        = .ok ((calls.map Keeper.Call.entry).foldl Settings.add s))) ∧
    (∀ pace keeper c, Agree (Work.command pace keeper c) (Work.command pace .forgetful c)) ∧
    ∀ clock w t,
      let saving := run clock place w (.connect t true)
      let plain := run clock place w (.connect t false)
      saving.exit = plain.exit ∧ saving.printed = plain.printed ∧ saving.jobLog = plain.jobLog ∧
        saving.world.host = plain.world.host := by
  refine ⟨fun start before c => c.outcomes place _, fun spot hclosed calls => ?_,
    fun spot s hload => ⟨?_, fun hopen calls => ?_⟩, fun pace keeper c => ?_, fun clock w t => ?_⟩
  · rcases hclosed with hclosed | ⟨f, hload⟩
    · exact Keeper.storeAll_of_not_isOpen hclosed calls
    · exact Keeper.storeAll_of_error hload calls
  · exact Settings.render?_add_of_load hload
  · exact Keeper.load_storeAll hload hopen calls
  · exact Work.agree_command pace keeper .forgetful c
  · exact run_connect_save clock place w t

end Wlan.CommandLine
