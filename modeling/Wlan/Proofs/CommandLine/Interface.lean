import Wlan.Proofs.CommandLine.Scanning
import Wlan.Proofs.NetworkManager.Choice
import Wlan.Proofs.NetworkManager.Interface

/-!
# The interface of a run

The subcommands that work on an interface look for it in the same way and then turn to it each in
its own. What they share is said here: the first of its sources that names an interface decides
(`Invocation.sources?`), the listing of the devices decides over the name, and whatever is run
afterwards keeps to the interface that was found (`interface_choice`).
-/

set_option autoImplicit false

namespace Wlan.CommandLine

open NetworkManager

/-! ## Sources -/

/-- Where the interface may come from, first things first. Without any sources, an invocation does
not work on one. -/
def Invocation.sources? (settings : Settings) : Invocation → Option (List (Option String))
  | .scan named _ | .status named _ | .disconnect named => some [named, settings.defaultInterface]
  | .connect t _ => some [t.interface, (settings.find? t.ssid).bind SavedNetwork.interface,
      settings.defaultInterface]
  | .listInterfaces | .saveNetwork _ | .showConfig => none

/-- The interface that is named by the first source that names one. -/
def specified (sources : List (Option String)) : Option String := sources.findSome? id

theorem specified_pair (a b : Option String) : specified [a, b] = (a <|> b) := by
  cases a <;> cases b <;> rfl

theorem specified_triple (a b c : Option String) : specified [a, b, c] = ((a <|> b) <|> c) := by
  cases a <;> cases b <;> cases c <;> rfl

/-- The invocation has something to do once it has found its interface. -/
def Invocation.mustWork (i : Invocation) : Prop := ∀ t save, i = .connect t save → t.ssid ≠ ""

/-! ## Looking for an interface -/

section

variable {settings : Settings} {s : Shell} {α : Type} (next : String → Work α)

theorem run_pickInterface_bind_of_error {named : Option String} {f : Failure}
    (hf : (resolve (named <|> settings.defaultInterface) s.host).1 = .error f) :
    (pickInterface settings named >>= next).run.run s
      = (.error (.failed f), { s with host := s.host.after (s.host.exchanged .listDevices) }) := by
  have hpick := run_pickInterface settings named s
  rw [hf, (exchanges_resolve _ _).host_after] at hpick
  exact Work.run_bind_of_error hpick

theorem run_pickInterface_bind_of_ok {named : Option String} {d : Device}
    (hd : (resolve (named <|> settings.defaultInterface) s.host).1 = .ok d) :
    (pickInterface settings named >>= next).run.run s = (next d.name).run.run
      { s with host := s.host.after (s.host.exchanged .listDevices) } := by
  have hpick := run_pickInterface settings named s
  rw [hd, (exchanges_resolve _ _).host_after] at hpick
  exact Work.run_bind_of_ok hpick

end

section

variable {settings : Settings} {i : Invocation} {sources : List (Option String)} {s : Shell}

/-- Without an interface, nothing is done but to look for one. -/
theorem perform_of_error (pace : Pace) (place : Place) (hi : i.sources? settings = some sources)
    {f : Failure} (hf : (resolve (specified sources) s.host).1 = .error f) :
    let done := (perform pace place settings i).run.run s
    done.1 = .error (.failed f) ∧ done.2.spot = s.spot ∧
      done.2.host = s.host.after (s.host.exchanged .listDevices) := by
  intro done
  cases i with
  | listInterfaces | saveNetwork | showConfig => cases hi
  | scan named _ | status named _ | disconnect named =>
    obtain rfl := Option.some.inj hi
    rw [specified_pair] at hf
    have hdone : done = _ := run_pickInterface_bind_of_error _ hf
    rw [hdone]
    exact ⟨rfl, rfl, rfl⟩
  | connect t save =>
    obtain rfl := Option.some.inj hi
    rw [specified_triple] at hf
    have hdone : done = _ := run_connect_of_error pace place save hf
    rw [hdone, ← snd_listDevices]
    exact ⟨rfl, rfl, (exchanges_listDevices s.host).host_after⟩

/-! ## On an interface -/

/-- What is made of the status of a device is no work on the host. -/
theorem host_showStatus_of_ok {named : Option String} (json : Bool) {d : Device}
    (hd : (resolve (named <|> settings.defaultInterface) s.host).1 = .ok d) :
    ((showStatus settings named json).run.run s).2.host
      = (status d.name (s.host.after (s.host.exchanged .listDevices))).2 := by
  let listed : Shell := { s with host := s.host.after (s.host.exchanged .listDevices) }
  let looked : Work DeviceStatus := Work.fromHost (status d.name)
  have hrun : (showStatus settings named json).run.run s = _ := run_pickInterface_bind_of_ok _ hd
  have hprinted (text : DeviceStatus → String) :
      Work.outward ((looked >>= fun shown => Work.print (text shown)).run.run listed).2
        = Work.outward (looked.run.run listed).2 :=
    Work.outward_bind (fun shown => Work.isAside_print (text shown)) listed
  rw [Work.run_fromHost] at hprinted
  rw [hrun]
  exact congrArg Prod.fst (hprinted fun shown => if json then shown.json ++ "\n" else shown.display)

theorem host_scan_of_ok (pace : Pace) {named : Option String} (json : Bool)
    (hprinted : s.printed = "") {d : Device}
    (hd : (resolve (named <|> settings.defaultInterface) s.host).1 = .ok d) :
    ((scan pace settings named json).run.run s).2.host
      = (request d.name .scan (s.host.after (s.host.exchanged .listDevices))).2 := by
  obtain ⟨opened, hstation, -, hopened, hhost, hrun⟩ := run_onInterface_of_ok
    (fun name => .info ("Scanning on interface: " ++ name)) (fun _ => survey pace json) hd
  obtain ⟨xs, last, hxs, hlast, -, hsurvey⟩ :=
    run_survey pace json hstation (hopened.trans hprinted)
  rw [scan_eq, hrun, hsurvey, ← hhost, hxs.host_after]
  exact hlast

theorem host_disconnect_of_ok (pace : Pace) {named : Option String} {d : Device}
    (hd : (resolve (named <|> settings.defaultInterface) s.host).1 = .ok d) :
    ((disconnect pace settings named).run.run s).2.host
      = (request d.name .disconnect (s.host.after (s.host.exchanged .listDevices))).2 := by
  obtain ⟨opened, hstation, -, -, hhost, hrun⟩ := run_disconnect_of_ok pace hd
  rw [hrun, host_leave hstation, hhost]

theorem host_connect_of_ok (pace : Pace) (place : Place) (t : Target) (save : Bool) {d : Device}
    (hd : deviceFor settings t s.host = .ok d) :
    ((connect pace place settings t save).run.run s).2.host
      = (({ interface := d.name } : Station).command
          (.connect (t.credentials (settings.find? t.ssid)))
          (s.host.after (s.host.exchanged .listDevices))).2 := by
  have houtward := outward_connect pace place settings t save s
  rw [hd, (exchanges_listDevices s.host).host_after] at houtward
  exact congrArg Prod.fst houtward

/-- With an interface, all that is run then keeps to it. -/
theorem exists_runs_of_ok (pace : Pace) (place : Place) (hi : i.sources? settings = some sources)
    (hprinted : s.printed = "") {d : Device}
    (hd : (resolve (specified sources) s.host).1 = .ok d) :
    let listed := s.host.after (s.host.exchanged .listDevices)
    ∃ rs, ((perform pace place settings i).run.run s).2.host
        = { listed with runs := listed.runs ++ rs } ∧
      KeepTo d.name rs ∧ (i.mustWork → Names d.name rs) := by
  intro listed
  have hscript : s.host.script ≠ none := script_ne_none_of_resolve hd
  -- The way to the interface is the same for all of them; what is done on it is not.
  cases i with
  | listInterfaces | saveNetwork | showConfig => cases hi
  | scan named json =>
    obtain rfl := Option.some.inj hi
    rw [specified_pair] at hd
    exact (worksOn_scan d.name listed).exists_runs (fun _ => trivial) hscript
      (host_scan_of_ok pace json hprinted hd)
  | status named json =>
    obtain rfl := Option.some.inj hi
    rw [specified_pair] at hd
    exact (worksOn_status d.name listed).exists_runs (fun _ => trivial) hscript
      (host_showStatus_of_ok json hd)
  | disconnect named =>
    obtain rfl := Option.some.inj hi
    rw [specified_pair] at hd
    exact (worksOn_disconnect d.name listed).exists_runs (fun _ => trivial) hscript
      (host_disconnect_of_ok pace hd)
  | connect t save =>
    obtain rfl := Option.some.inj hi
    rw [specified_triple] at hd
    have hssid (hmust : Invocation.mustWork (.connect t save)) :
        (t.credentials (settings.find? t.ssid)).ssid ≠ "" := by
      rw [Target.ssid_credentials]
      exact hmust t save rfl
    exact (worksOn_connect d.name listed _).exists_runs hssid hscript
      (host_connect_of_ok pace place t save hd)

end

/-! ## Whole runs -/

/-- A run that has found no interface has looked for one, and has done nothing else. -/
structure IsTurnedAway (w : World) (f : Failure) (ran : Ran) : Prop where
  exit : ran.exit = .error (.failed f)
  spot : ran.world.spot = w.spot
  host : ran.world.host = { w.host with runs := w.host.runs ++ w.host.made .listDevices }

/-- A run that has found this interface makes these runs, on it and on no other. -/
structure IsSettledOn (interface : String) (w : World) (i : Invocation) (rs : List Run)
    (ran : Ran) : Prop where
  host : ran.world.host = { w.host with runs := w.host.runs ++ .listDevices :: rs }
  keeps : KeepTo interface rs
  works : i.mustWork → Names interface rs

section

variable (clock : Clock) (place : Place) {w : World} {i : Invocation}
  {sources : List (Option String)}

theorem isTurnedAway_run (hi : i.sources? (settingsFor place w.spot).1 = some sources)
    {f : Failure} (hf : (resolve (specified sources) w.host).1 = .error f) :
    IsTurnedAway w f (run clock place w i) := by
  obtain ⟨hexit, hspot, hhost⟩ :=
    perform_of_error (s := startShell clock place w) clock.pace place hi hf
  refine ⟨hexit, hspot, ?_⟩
  rw [← Host.map_run_exchanged]
  exact hhost

theorem isSettledOn_run (hi : i.sources? (settingsFor place w.spot).1 = some sources)
    {d : Device} (hd : (resolve (specified sources) w.host).1 = .ok d) :
    ∃ rs, IsSettledOn d.name w i rs (run clock place w i) := by
  obtain ⟨rs, hhost, hkeep, hnames⟩ :=
    exists_runs_of_ok (s := startShell clock place w) clock.pace place hi rfl hd
  have hmade : (w.host.exchanged .listDevices).map Exchange.run = [.listDevices] := by
    rw [Host.map_run_exchanged, Host.made_eq, if_neg (script_ne_none_of_resolve hd)]
  refine ⟨rs, hhost.trans ?_, hkeep, hnames⟩
  simp [startShell, Host.after, hmade]

/-- **The first source that names an interface decides, and the listing decides over the name.** A
run that works on an interface lists the devices first. The interface is named by the argument, else
by the entry of the network that is to be joined, else by the settings. If one of these names one,
it is taken if the first device of that name is a wireless one, and no other is taken if it is not
or there is none; if nothing names one, the first wireless device is taken. Where that leaves none,
the listing was all that was run, the settings file is as it was, and the run fails for that reason.
Where it leaves one, every later run that is told of an interface is told of this one; and it comes
to such a run, unless a network without a name was to be joined. -/
theorem interface_choice (hi : i.sources? (settingsFor place w.spot).1 = some sources) :
    let ran := run clock place w i
    match (listDevices w.host).1 with
    | .error f => IsTurnedAway w f ran
    | .ok devices => ∃ choice, (∀ c, Choice devices (specified sources) c ↔ c = choice) ∧
        match choice with
        | .error cause => IsTurnedAway w (.of cause) ran
        | .ok d => ∃ rs, IsSettledOn d.name w i rs ran := by
  intro ran
  cases hlisted : (listDevices w.host).1 with
  | error f =>
    refine isTurnedAway_run clock place hi ?_
    rw [fst_resolve, hlisted]
    rfl
  | ok devices =>
    obtain ⟨choice, hchoice⟩ := exists_choice devices (specified sources)
    refine ⟨choice, fun c => ⟨fun hc => hc.unique hchoice, fun hc => hc ▸ hchoice⟩, ?_⟩
    have hfound : (resolve (specified sources) w.host).1 = choice.mapError .of := by
      rw [fst_resolve, hlisted]
      exact hchoice.choose_eq
    cases choice with
    | error cause => exact isTurnedAway_run clock place hi hfound
    | ok d => exact isSettledOn_run clock place hi hfound

end

/-- A host with a wired device and two wireless ones, which joins whatever it is asked to. -/
def hostMixed : Host where
  script := some fun verb _ => match verb with
    | .listDevices =>
      ⟨("eth0:ethernet:connected\n" ++ "wlan0:wifi:connected\n"
        ++ "wlan1:wifi:disconnected").toUTF8, .empty, 0⟩
    | _ => ⟨.empty, .empty, 0⟩

/-- The interface remembered with a network goes before that of the settings. -/
theorem interface_choice_saved :
    let s : Settings :=
      { networks := [⟨"home", some "secret123", .psk, some "wlan1"⟩]
        defaultInterface := some "wlan0" }
    let i : Invocation := .connect ⟨"home", none, .psk, none⟩ false
    let w : World := ⟨hostMixed, .file s.render.toUTF8⟩
    i.sources? s = some [none, some "wlan1", some "wlan0"] ∧
      ∃ rs, IsSettledOn "wlan1" w i rs (run .instant (.standard "/home") w i) := by
  intro s i w
  have hsettings : (settingsFor (.standard "/home") w.spot).1 = s :=
    settingsFor_of_load (Settings.load_render (by decide +kernel))
  have hsources : i.sources? s = some [none, some "wlan1", some "wlan0"] := rfl
  have hchoice := interface_choice .instant (.standard "/home") (w := w) (hsettings.symm ▸ hsources)
  have hdevices : (listDevices w.host).1 = .ok [⟨"eth0", "ethernet", "connected"⟩,
      ⟨"wlan0", "wifi", "connected"⟩, ⟨"wlan1", "wifi", "disconnected"⟩] := by
    decide +kernel
  rw [hdevices] at hchoice
  obtain ⟨choice, hunique, hran⟩ := hchoice
  obtain rfl := (hunique (.ok ⟨"wlan1", "wifi", "disconnected"⟩)).mp
    (choice_iff.mpr (by decide +kernel))
  exact ⟨hsources, hran⟩

end Wlan.CommandLine
