import Wlan.CommandLine.Run
import Wlan.Proofs.Settings.Keeping

/-!
# Work and its shell

A subcommand is work that can fail on the way. Its steps are taken one after the other up to the
one that fails (`run_bind_of_ok`, `run_bind_of_error`).

What a shell shows in the end is its host, its settings file, and whether it says that credentials
were saved (`outward`). All that only prints, waits and looks does not bear on that (`IsAside`) and
can be left out of account wherever it comes last, be it cut short or not (`outward_bind`).
-/

set_option autoImplicit false

namespace Wlan.CommandLine

open NetworkManager

/-- The reason to stop, seen from one context further out. -/
def Stop.within (context : String) : Stop → Stop
  | failed f => failed (f.within context)
  | endless => endless

/-- What a caller makes of the way a wait ended. -/
def exitOf (o : Outcome) : Except Stop Unit :=
  match o.result? with
  | some result => result.mapError fun e => .failed (.of (.command e))
  | none => .error .endless

namespace Work

variable {α β : Type} {work : Work α} {next : α → Work β} {s s' : Shell}

/-! ## Sequences -/

theorem run_bind_of_ok {a : α} (h : work.run.run s = (.ok a, s')) :
    (work >>= next).run.run s = (next a).run.run s' := by
  have hbind : (work >>= next).run.run s
      = (ExceptT.bindCont next (work.run.run s).1).run (work.run.run s).2 := rfl
  rw [hbind, h]
  rfl

theorem run_bind_of_error {e : Stop} (h : work.run.run s = (.error e, s')) :
    (work >>= next).run.run s = (.error e, s') := by
  have hbind : (work >>= next).run.run s
      = (ExceptT.bindCont next (work.run.run s).1).run (work.run.run s).2 := rfl
  rw [hbind, h]
  rfl

theorem run_say (lines : List LogLine) (s : Shell) :
    (say lines).run.run s = (.ok (), { s with log := s.log ++ lines }) := rfl

theorem run_print (text : String) (s : Shell) :
    (print text).run.run s = (.ok (), { s with printed := s.printed ++ text }) := rfl

theorem run_station (s : Shell) : station.run.run s = (.ok s.timeline.station, s) := rfl

theorem run_openInterface (interface : String) (s : Shell) :
    (openInterface interface).run.run s
      = (.ok (), { s with timeline := { station := { interface }, now := s.timeline.now } }) := rfl

theorem run_within (context : String) (work : Work α) (s : Shell) :
    (within context work).run.run s
      = ((work.run.run s).1.mapError (Stop.within context), (work.run.run s).2) := by
  unfold within ExceptT.run StateT.run
  simp only [tryCatch, tryCatchThe, MonadExceptOf.tryCatch, ExceptT.tryCatch, ExceptT.mk, bind,
    StateT.bind]
  rcases work s with ⟨⟨f | -⟩ | a, s'⟩
  all_goals rfl

/-! ## Work on the side -/

/-- What a shell shows from outside: the host, the settings file, and whether credentials are said
to have been saved. -/
def outward (s : Shell) : Host × Spot × Bool := (s.host, s.spot, s.log.any LogLine.isReceipt)

/-- Work of which nothing is seen from outside. -/
def IsAside {α : Type} (work : Work α) : Prop := ∀ s, outward (work.run.run s).2 = outward s

/-- What comes last can be left out of account. -/
theorem outward_bind (hnext : ∀ a, IsAside (next a)) (s : Shell) :
    outward ((work >>= next).run.run s).2 = outward (work.run.run s).2 := by
  cases hs : work.run.run s with
  | mk result s' =>
    cases result with
    | error e => rw [run_bind_of_error hs]
    | ok a => rw [run_bind_of_ok hs, hnext a s']

theorem IsAside.bind (hwork : IsAside work) (hnext : ∀ a, IsAside (next a)) :
    IsAside (work >>= next) :=
  fun s => (outward_bind hnext s).trans (hwork s)

theorem isAside_pure (a : α) : IsAside (pure a : Work α) := fun _ => rfl

theorem isAside_throw (e : Stop) : IsAside (throw e : Work α) := fun _ => rfl

theorem isAside_fail (cause : Cause) : IsAside (fail cause : Work α) := isAside_throw _

theorem isAside_get : IsAside (get : Work Shell) := fun _ => rfl

theorem isAside_modify {f : Shell → Shell} (hf : ∀ s, outward (f s) = outward s) :
    IsAside (modify f : Work PUnit) := hf

theorem isAside_station : IsAside station := fun _ => rfl

theorem isAside_print (text : String) : IsAside (print text) := fun _ => rfl

theorem isAside_say {lines : List LogLine} (hlines : lines.any LogLine.isReceipt = false) :
    IsAside (say lines) := by
  intro s
  rw [run_say, outward, List.any_append, hlines, Bool.or_false, outward]

/-- A failure passes through, with its context added, and nothing else happens. -/
theorem isAside_within (context : String) (hwork : IsAside work) :
    IsAside (within context work) := by
  intro s
  rw [run_within, hwork s]

theorem isAside_await (w : Wait) : IsAside (await w) := by
  have hlines (o : Outcome) : (w.opening ++ w.closing o).any LogLine.isReceipt = false := by
    cases w <;> cases o <;> rfl
  unfold await
  refine isAside_get.bind fun s => ?_
  dsimp only
  refine IsAside.bind (isAside_modify fun _ => rfl) fun _ => ?_
  refine IsAside.bind (isAside_say (hlines _)) fun _ => ?_
  split
  · exact isAside_pure _
  · exact isAside_fail _
  · exact isAside_throw _

/-! ## Work that turns to the host -/

/-- Work on the host never fails by itself. -/
theorem run_onHost (m : OnHost α) (s : Shell) :
    (onHost m).run.run s = (.ok (m s.host).1, { s with host := (m s.host).2 }) := rfl

/-- What the host answers with is the result, be it a failure. -/
theorem run_fromHost (m : OnHost (Except Failure α)) (s : Shell) :
    (fromHost m).run.run s
      = ((m s.host).1.mapError .failed, { s with host := (m s.host).2 }) := by
  rw [fromHost, run_bind_of_ok (run_onHost m s)]
  cases (m s.host).1 <;> rfl

/-- What the keeper makes of the spot, and what it logs. -/
def handed (keeper : Keeper) (credentials : Option Credentials) (spot : Spot) :
    Spot × List LogLine :=
  match credentials with
  | none => (spot, [])
  | some c => keeper.keep c spot

theorem run_keep (keeper : Keeper) (credentials : Option Credentials) (s : Shell) :
    (keep keeper credentials).run.run s = (.ok (), { s with
      spot := (handed keeper credentials s.spot).1
      log := s.log ++ (handed keeper credentials s.spot).2 }) := by
  cases credentials with
  | none =>
    rw [handed, List.append_nil]
    rfl
  | some c => rfl

/-- The shell after a command: the station has performed it, and its job is under way. -/
def commanded (pace : Pace) (keeper : Keeper) (c : Command) (s : Shell) : Shell :=
  let done := (s.timeline.station.command c s.host).1
  let kept := handed keeper done.performed.credentials s.spot
  { s with
    host := (s.timeline.station.command c s.host).2
    spot := kept.1
    timeline := ⟨done.station, s.timeline.now, schedule pace s.timeline.now done.job⟩
    log := s.log ++ done.performed.opening ++ kept.2 ++ done.performed.closing }

/-- A command comes to what the station makes of it, whatever the keeper does. -/
theorem run_command (pace : Pace) (keeper : Keeper) (c : Command) (s : Shell) :
    (command pace keeper c).run.run s =
      ((s.timeline.station.command c s.host).1.performed.result.mapError
          fun e => .failed (.of (.command e)),
        commanded pace keeper c s) := by
  unfold command
  rw [run_bind_of_ok (show (get : Work Shell).run.run s = (.ok s, s) from rfl)]
  rw [run_bind_of_ok (run_onHost _ s), run_bind_of_ok (run_say _ _),
    run_bind_of_ok (run_keep keeper _ _), run_bind_of_ok (run_say _ _),
    run_bind_of_ok (show (modify _ : Work PUnit).run.run _ = (.ok (), _) from rfl)]
  unfold commanded
  cases (s.timeline.station.command c s.host).1.performed.result <;> rfl

/-- The shell after a wait, however that has ended. -/
def waited (w : Wait) (s : Shell) : Shell :=
  { s with
    timeline := (s.timeline.await w).timeline
    jobLog := s.jobLog ++ (s.timeline.await w).log
    log := s.log ++ (w.opening ++ w.closing (s.timeline.await w).outcome) }

theorem run_await (w : Wait) (s : Shell) :
    (await w).run.run s = (exitOf (s.timeline.await w).outcome, waited w s) := by
  unfold await
  rw [run_bind_of_ok (show (get : Work Shell).run.run s = (.ok s, s) from rfl)]
  dsimp only
  rw [run_bind_of_ok (show (modify _ : Work PUnit).run.run _ = (.ok (), _) from rfl),
    run_bind_of_ok (run_say _ _)]
  unfold waited
  cases (s.timeline.await w).outcome <;> rfl

end Work

/-! ## Runs -/

/-- The shell that a run starts in. -/
def startShell (clock : Clock) (place : Place) (w : World) : Shell where
  host := w.host
  spot := w.spot
  timeline := { station := { interface := "" }, now := clock.start }
  log := (settingsFor place w.spot).2

/-- What is left of a run whose work has come to this. -/
def Ran.of (done : Except Stop Unit × Shell) : Ran where
  exit := done.1
  printed := done.2.printed
  log := done.2.log
  jobLog := done.2.jobLog ++ done.2.timeline.finish.2
  world := ⟨done.2.host, done.2.spot⟩

theorem run_eq (clock : Clock) (place : Place) (w : World) (i : Invocation) :
    run clock place w i
      = .of ((perform clock.pace place (settingsFor place w.spot).1 i).run.run
          (startShell clock place w)) := rfl

end Wlan.CommandLine
