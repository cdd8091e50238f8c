import Wlan.Proofs.CommandLine.Work
import Wlan.Proofs.NetworkManager.Joining
import Wlan.Proofs.NetworkManager.Profile

/-!
# Joining a network

A connect attempt of the program goes from the command line to the tool in stages: the credentials
are chosen, the interface is looked for, the station takes the command, and its job runs the tool.
Only two of these turn to the host. The first lists the devices and decides with what it finds
whether there is an attempt at all; the second works off the command, and it is there that the
credentials are handed over (`run_connect`).

What the profile of an attempt says about security was settled when the credentials were chosen. So
`connect_security` says of a station and of a whole run in the same words that a key is passed on,
and that an open network is joined only where none of it was asked for.
-/

set_option autoImplicit false

namespace Wlan.CommandLine

open NetworkManager

/-! ## The steps of an attempt -/

theorem isAside_awaitAddress (patience : Patience) (ssid : String) :
    (awaitAddress patience ssid).IsAside := by
  unfold awaitAddress
  refine (Work.isAside_within _ (Work.isAside_await _)).bind fun _ => ?_
  refine Work.isAside_station.bind fun station => ?_
  split
  · exact Work.isAside_print _
  · exact Work.isAside_pure _

theorem isAside_awaitNetwork (patience : Patience) (ssid : String) :
    (awaitNetwork patience ssid).IsAside := by
  unfold awaitNetwork
  refine (Work.isAside_await _).bind fun _ => ?_
  refine Work.isAside_station.bind fun station => ?_
  dsimp only
  split
  · exact (Work.isAside_fail _).bind fun _ => isAside_awaitAddress patience ssid
  · exact isAside_awaitAddress patience ssid

/-- What becomes of the credentials of an attempt. Without a network to join they are nobody's. -/
def filed (keeper : Keeper) (c : Credentials) (spot : Spot) : Spot × List LogLine :=
  if c.ssid = "" then (spot, []) else keeper.keep c spot

/-- What a shell shows after an attempt on the interface that finds this host. -/
def attempted (keeper : Keeper) (c : Credentials) (interface : String) (host : Host)
    (s : Shell) : Host × Spot × Bool :=
  ((({ interface } : Station).command (.connect c) host).2, (filed keeper c s.spot).1,
    s.log.any LogLine.isReceipt || (filed keeper c s.spot).2.any LogLine.isReceipt)

/-- A connect command hands its credentials over, and says nothing of what becomes of them. -/
theorem performed_connect (s : Station) (c : Credentials) (h : Host) :
    let p := (s.command (.connect c) h).1.performed
    p.credentials = (if c.ssid = "" then none else some c) ∧
      p.opening.any LogLine.isReceipt = false ∧ p.closing.any LogLine.isReceipt = false := by
  by_cases hssid : c.ssid = ""
  · rw [command_connect_empty s hssid, if_pos hssid]
    exact ⟨rfl, rfl, rfl⟩
  · have hrequest : Command.request (.connect c) = .ok (.associate c.association) := if_neg hssid
    have hperformed : (s.command (.connect c) h).1.performed = (Command.connect c).perform s.link
        ⟨[], (request s.interface (.associate c.association) h).1.1⟩ := by
      unfold Station.command
      simp only [hrequest]
      rfl
    rw [hperformed]
    simp only [Command.perform, hrequest, Command.credentials?, true_and]
    refine ⟨rfl, ?_⟩
    cases (request s.interface (.associate c.association) h).1.1 <;> rfl

theorem outward_keep (keeper : Keeper) (c : Credentials) (s : Shell) :
    Work.outward ((Work.keep keeper (if c.ssid = "" then none else some c)).run.run s).2
      = (s.host, (filed keeper c s.spot).1,
        s.log.any LogLine.isReceipt || (filed keeper c s.spot).2.any LogLine.isReceipt) := by
  unfold filed
  split
  · rw [List.any_nil, Bool.or_false]
    rfl
  · rw [← List.any_append]
    rfl

theorem outward_command (pace : Pace) (keeper : Keeper) (c : Credentials) (interface : String)
    (s : Shell) (hs : s.timeline.station = { interface }) :
    Work.outward ((Work.command pace keeper (.connect c)).run.run s).2
      = attempted keeper c interface s.host s := by
  obtain ⟨hcredentials, hopening, hclosing⟩ := performed_connect s.timeline.station c s.host
  unfold Work.command
  rw [Work.run_bind_of_ok (show (get : Work Shell).run.run s = (.ok s, s) from rfl)]
  dsimp only
  rw [Work.run_bind_of_ok (Work.run_onHost _ s)]
  rw [hs] at hcredentials hopening hclosing ⊢
  generalize hdone : ({ interface } : Station).command (.connect c) s.host = answer at *
  obtain ⟨done, host⟩ := answer
  -- Once the credentials are handed over, the rest is on the side, be it that the command fails.
  rw [Work.run_bind_of_ok (Work.run_say _ _),
    Work.outward_bind (fun _ => (Work.isAside_say hclosing).bind fun _ => ?_), hcredentials,
    outward_keep]
  · rw [attempted, hdone, List.any_append, hopening, Bool.or_false]
  · refine Work.IsAside.bind (Work.isAside_modify fun _ => rfl) fun _ => ?_
    split
    · exact Work.isAside_pure _
    · exact Work.isAside_fail _

theorem isReceipt_connecting (ssid interface : String) :
    LogLine.isReceipt (.info ("Connecting to '" ++ ssid ++ "' on interface " ++ interface ++ "..."))
      = false := by
  simp [LogLine.isReceipt, LogLine.info, String.toList_append, List.isPrefixOf]

theorem outward_connectOn (pace : Pace) (patience : Patience) (keeper : Keeper) (c : Credentials)
    (interface : String) (s : Shell) :
    Work.outward ((connectOn pace patience keeper c interface).run.run s).2
      = attempted keeper c interface s.host s := by
  unfold connectOn
  rw [Work.run_bind_of_ok (Work.run_openInterface interface s),
    Work.run_bind_of_ok (Work.run_say _ _), Work.outward_bind fun _ => isAside_awaitNetwork _ _,
    outward_command pace keeper c interface _ rfl, attempted, attempted]
  simp [isReceipt_connecting]

/-! ## Whole attempts -/

/-- The device that an attempt settles on. -/
def deviceFor (settings : Settings) (t : Target) (h : Host) : Except Failure Device :=
  (resolve ((t.interface <|> (settings.find? t.ssid).bind SavedNetwork.interface)
    <|> settings.defaultInterface) h).1

theorem fst_resolve (name : Option String) (h : Host) : (resolve name h).1
    = (listDevices h).1.bind fun devices => Device.choose devices name := rfl

theorem deviceFor_eq {settings : Settings} {t : Target} {h : Host} {devices : List Device}
    (hdevices : (listDevices h).1 = .ok devices) :
    deviceFor settings t h = Device.choose devices
      ((t.interface <|> (settings.find? t.ssid).bind SavedNetwork.interface)
        <|> settings.defaultInterface) := by
  rw [deviceFor, fst_resolve, hdevices]
  rfl

/-- The interface is looked for in one listing of the devices. -/
theorem run_pickInterface (settings : Settings) (named : Option String) (s : Shell) :
    (pickInterface settings named).run.run s =
      (((resolve (named <|> settings.defaultInterface) s.host).1.map Device.name).mapError .failed,
        { s with host := (resolve (named <|> settings.defaultInterface) s.host).2 }) := by
  have hask := Work.run_fromHost (resolve (named <|> settings.defaultInterface)) s
  unfold pickInterface
  cases hfound : (resolve (named <|> settings.defaultInterface) s.host).1 with
  | error f =>
    rw [hfound] at hask
    rw [Work.run_bind_of_error hask]
    rfl
  | ok d =>
    rw [hfound] at hask
    rw [Work.run_bind_of_ok hask]
    rfl

theorem any_isReceipt_usesSaved (t : Target) (saved : Option SavedNetwork) :
    (if t.usesSaved saved then [.info ("Using saved credentials for '" ++ t.ssid ++ "'")]
      else []).any LogLine.isReceipt = false := by
  split
  · simp [LogLine.isReceipt, LogLine.info, String.toList_append, List.isPrefixOf]
  · rfl

theorem outward_connect (pace : Pace) (place : Place) (settings : Settings) (t : Target)
    (save : Bool) (s : Shell) :
    Work.outward ((connect pace place settings t save).run.run s).2 =
      match deviceFor settings t s.host with
      | .error _ => ((listDevices s.host).2, s.spot, s.log.any LogLine.isReceipt)
      | .ok d => attempted (if save then .filing place (some d.name) else .forgetful)
          (t.credentials (settings.find? t.ssid)) d.name (listDevices s.host).2 s := by
  have hsaid := any_isReceipt_usesSaved t (settings.find? t.ssid)
  unfold connect
  dsimp only
  rw [Work.run_bind_of_ok (Work.run_say _ _)]
  generalize (if t.usesSaved (settings.find? t.ssid) then
    [LogLine.info ("Using saved credentials for '" ++ t.ssid ++ "'")] else []) = lines at hsaid ⊢
  have hpick := run_pickInterface settings
    (t.interface <|> (settings.find? t.ssid).bind SavedNetwork.interface)
    { s with log := s.log ++ lines }
  cases hfound : deviceFor settings t s.host with
  | error f =>
    unfold deviceFor at hfound
    rw [hfound] at hpick
    rw [Work.run_bind_of_error hpick, Work.outward, List.any_append, hsaid, Bool.or_false]
    rfl
  | ok d =>
    unfold deviceFor at hfound
    rw [hfound] at hpick
    rw [Work.run_bind_of_ok hpick, outward_connectOn, attempted, List.any_append, hsaid,
      Bool.or_false]
    rfl

theorem settingsFor_of_load {place : Place} {spot : Spot} {s : Settings}
    (h : Settings.load place spot = .ok s) : (settingsFor place spot).1 = s := by
  rw [settingsFor, h]

/-- That settings could not be loaded is no receipt. -/
theorem any_isReceipt_settingsFor (place : Place) (spot : Spot) :
    (settingsFor place spot).2.any LogLine.isReceipt = false := by
  unfold settingsFor
  cases Settings.load place spot <;> rfl

/-- What a run that joins a network leaves behind. Where the listing of the devices shows none to
work on, that listing is all there was; else the command was given, and its keeper decides what
becomes of the settings file and whether there is a receipt. -/
theorem run_connect (clock : Clock) (place : Place) (w : World) (t : Target) (save : Bool) :
    let ran := run clock place w (.connect t save)
    let settings := (settingsFor place w.spot).1
    let c := t.credentials (settings.find? t.ssid)
    let keeper (d : Device) := if save then Keeper.filing place (some d.name) else .forgetful
    (ran.world.host, ran.world.spot, ran.log.any LogLine.isReceipt) =
      match deviceFor settings t w.host with
      | .error _ => ((listDevices w.host).2, w.spot, false)
      | .ok d => ((({ interface := d.name } : Station).command (.connect c) (listDevices w.host).2).2,
          (filed (keeper d) c w.spot).1, (filed (keeper d) c w.spot).2.any LogLine.isReceipt) := by
  intro ran settings c keeper
  have hconnect := outward_connect clock.pace place settings t save (startShell clock place w)
  simp only [attempted, startShell, any_isReceipt_settingsFor, Bool.false_or] at hconnect
  exact hconnect

/-! ## Additions -/

/-- The argument lists with which an attempt adds a profile. -/
def additionsFor (settings : Settings) (t : Target) (h : Host) : List (List String) :=
  match deviceFor settings t h with
  | .ok d =>
    if t.ssid = "" then []
    else h.addition (profileFor d.name (t.credentials (settings.find? t.ssid)).association)
  | .error _ => []

theorem Target.credentials_of_password {t : Target} (ht : t.password ≠ none)
    (saved : Option SavedNetwork) :
    t.credentials saved = ⟨t.ssid, t.password, t.security⟩ := by
  obtain ⟨key, hkey⟩ := Option.ne_none_iff_exists'.mp ht
  simp [credentials, hkey]

theorem Target.credentials_of_saved {t : Target} (ht : t.password = none) (n : SavedNetwork) :
    t.credentials (some n) = ⟨t.ssid, n.password, n.security⟩ := by
  simp [credentials, ht]

theorem Target.credentials_of_neither {t : Target} (ht : t.password = none) :
    t.credentials none = ⟨t.ssid, none, .unsecured⟩ := by
  simp [credentials, ht]

theorem Target.ssid_credentials (t : Target) (saved : Option SavedNetwork) :
    (t.credentials saved).ssid = t.ssid := by
  unfold Target.credentials
  split <;> rfl

/-- An attempt adds one profile, and the listing of the devices before it none. -/
theorem adds_connect (pace : Pace) (place : Place) (settings : Settings) (t : Target)
    (save : Bool) (s : Shell) :
    ∃ rs, ((connect pace place settings t save).run.run s).2.host
        = { s.host with runs := s.host.runs ++ rs } ∧
      additions rs = additionsFor settings t s.host := by
  have hhost := congrArg Prod.fst (outward_connect pace place settings t save s)
  have hlist : Makes listDevices s.host (s.host.made .listDevices) := (Makes.run _ _).map _
  have hlisting : additions (s.host.made .listDevices) = [] :=
    additions_made (by simp [Run.verb]) s.host
  unfold additionsFor
  cases hd : deviceFor settings t s.host with
  | error f =>
    simp only [hd] at hhost
    exact ⟨_, hhost.trans hlist, hlisting⟩
  | ok d =>
    obtain ⟨rs, hcommand, hadded⟩ := makes_command_connect { interface := d.name }
      (t.credentials (settings.find? t.ssid)) (listDevices s.host).2
    simp only [hd, attempted] at hhost
    refine ⟨s.host.made .listDevices ++ rs, ?_, ?_⟩
    · refine hhost.trans ?_
      rw [hcommand, hlist, List.append_assoc]
    · rw [additions_append, hlisting, hadded, List.nil_append, Target.ssid_credentials,
        Host.addition_congr hlist.script]

/-- Without the tool there are no devices to find. -/
theorem script_ne_none_of_resolve {name : Option String} {h : Host} {d : Device}
    (hd : (resolve name h).1 = .ok d) : h.script ≠ none := by
  obtain ⟨script, runs⟩ := h
  rintro rfl
  cases hd

theorem script_ne_none_of_deviceFor {settings : Settings} {t : Target} {h : Host} {d : Device}
    (hd : deviceFor settings t h = .ok d) : h.script ≠ none :=
  script_ne_none_of_resolve hd

theorem additionsFor_eq_nil {settings : Settings} {t : Target} {h : Host}
    (hnone : t.ssid = "" ∨ ∃ f, deviceFor settings t h = .error f) :
    additionsFor settings t h = [] := by
  unfold additionsFor
  rcases hnone with hssid | ⟨f, hf⟩
  · simp only [if_pos hssid]
    split <;> rfl
  · rw [hf]

theorem additionsFor_eq_singleton {settings : Settings} {t : Target} {h : Host} {d : Device}
    (hssid : t.ssid ≠ "") (hd : deviceFor settings t h = .ok d) :
    additionsFor settings t h
      = [(profileFor d.name (t.credentials (settings.find? t.ssid)).association).arguments] := by
  rw [additionsFor, hd]
  dsimp only
  rw [if_neg hssid, Host.addition_eq, if_neg (script_ne_none_of_deviceFor hd)]

/-! ## Security -/

/-- What the profile of an attempt owes to the one who asked for it and to the settings. -/
theorem Target.honours_credentials (t : Target) (saved : Option SavedNetwork)
    (interface : String) :
    let args := (profileFor interface (t.credentials saved).association).arguments
    (t.password ≠ none →
      Honours t.password t.security args ∧ (t.security = .unsecured → IsOpen args)) ∧
    (t.password = none → ∀ n, saved = some n → Honours n.password n.security args) ∧
    (t.password = none → saved = none → IsOpen args) := by
  intro args
  refine ⟨fun hpassword => ?_, fun hpassword n hn => ?_, fun hpassword hn => ?_⟩
  · simp only [args, credentials_of_password hpassword saved]
    exact ⟨honours_profileFor ⟨t.ssid, t.password, t.security⟩ interface,
      fun hsecurity => isOpen_profileFor (Or.inr hsecurity) interface⟩
  · simp only [args, hn, credentials_of_saved hpassword n]
    exact honours_profileFor ⟨t.ssid, n.password, n.security⟩ interface
  · simp only [args, hn, credentials_of_neither hpassword]
    exact isOpen_profileFor (Or.inl rfl) interface

/-- **A key is passed on, and security goes with one.** A connect attempt on a station asks for
exactly one profile, unless there is no network to join or no tool to ask. With a key and any
security but none, the key is the value of exactly one setting for keys, and there is key
management; otherwise there is no security setting. In the program the key and the security are
those of the command line if it has a password, else those remembered for the network, and there is
no security setting where neither has a password. -/
theorem connect_security :
    (∀ (s : Station) (c : Credentials) (h : Host),
      ∃ rs, ((s.command (.connect c)).run h).2 = { h with runs := h.runs ++ rs } ∧
        (c.ssid = "" ∨ h.script = none → additions rs = []) ∧
        (c.ssid ≠ "" → h.script ≠ none → ∃ args, additions rs = [args] ∧
          Honours c.key c.security args ∧ (c.security = .unsecured → IsOpen args))) ∧
    ∀ (clock : Clock) (place : Place) (w : World) (t : Target) (save : Bool),
      let settings := (settingsFor place w.spot).1
      let saved := settings.find? t.ssid
      let found := deviceFor settings t w.host
      ∃ rs, (run clock place w (.connect t save)).world.host
          = { w.host with runs := w.host.runs ++ rs } ∧
        (t.ssid = "" ∨ (∃ f, found = .error f) → additions rs = []) ∧
        (t.ssid ≠ "" → ∀ d, found = .ok d → ∃ args, additions rs = [args] ∧
          (t.password ≠ none →
            Honours t.password t.security args ∧ (t.security = .unsecured → IsOpen args)) ∧
          (t.password = none → ∀ n, saved = some n → Honours n.password n.security args) ∧
          (t.password = none → saved = none → IsOpen args)) := by
  constructor
  · intro s c h
    obtain ⟨rs, hrs, hadded⟩ := makes_command_connect s c h
    refine ⟨rs, hrs, fun hnone => ?_, fun hssid hscript => ?_⟩
    · rw [hadded, Host.addition_eq]
      rcases hnone with hssid | hscript
      · rw [if_pos hssid]
      · rw [if_pos hscript, ite_self]
    · rw [if_neg hssid, Host.addition_eq, if_neg hscript] at hadded
      exact ⟨_, hadded, honours_profileFor c s.interface,
        fun hsecurity => isOpen_profileFor (Or.inr hsecurity) s.interface⟩
  · intro clock place w t save settings saved found
    obtain ⟨rs, hrs, hadded⟩ :=
      adds_connect clock.pace place settings t save (startShell clock place w)
    refine ⟨rs, hrs, fun hnone => hadded.trans (additionsFor_eq_nil hnone), fun hssid d hd => ?_⟩
    exact ⟨_, hadded.trans (additionsFor_eq_singleton hssid hd),
      t.honours_credentials saved d.name⟩

/-- A run with a password and the security that goes with it, on a host with a wireless device. -/
theorem connect_security_password :
    let h : Host := { script := some fun verb _ => match verb with
      | .listDevices => ⟨"wlan0:wifi:disconnected".toUTF8, .empty, 0⟩
      | _ => ⟨.empty, .empty, 10⟩ }
    let t : Target := ⟨"home", some "secret123", .sae, none⟩
    let ran := run .instant (.standard "/home") ⟨h, .vacant⟩ (.connect t false)
    ∃ args, additions ran.world.host.runs = [args] ∧ IsSecuredBy "secret123" args := by
  intro h t ran
  have hfound : ∃ d, deviceFor {} t h = .ok d := by
    have hsome : (deviceFor {} t h).toOption.isSome = true := by decide +kernel
    cases hd : deviceFor {} t h with
    | ok d => exact ⟨d, rfl⟩
    | error f =>
      rw [hd] at hsome
      cases hsome
  obtain ⟨d, hd⟩ := hfound
  obtain ⟨rs, hrs, -, hadded⟩ :=
    connect_security.2 .instant (.standard "/home") ⟨h, .vacant⟩ t false
  obtain ⟨args, hargs, hpassword, -⟩ := hadded (by decide) d hd
  refine ⟨args, ?_, (hpassword nofun).1.secured "secret123" rfl nofun⟩
  rw [hrs]
  exact hargs

/-- With a key for a network that is to be joined as an open one, the key stays behind. -/
theorem connect_security_unsecured :
    let s : Station := { interface := "wlan0" }
    let c : Credentials := ⟨"home", some "secret123", .unsecured⟩
    let h : Host := { script := some fun _ _ => ⟨.empty, .empty, 10⟩ }
    let args := ["connection", "add", "type", "wifi", "con-name", "wifi-link-home", "ifname",
      "wlan0", "ssid", "home"]
    additions ((s.command (.connect c)).run h).2.runs = [args] ∧ IsOpen args ∧
      ¬ IsSecuredBy "secret123" args := by
  intro s c h args
  obtain ⟨rs, hrs, hadded⟩ := makes_command_connect s c h
  have hrun : ((s.command (.connect c)).run h).2 = { h with runs := h.runs ++ rs } := hrs
  refine ⟨?_, ?_, ?_⟩
  · rw [hrun]
    exact hadded.trans (by decide)
  · exact isOpen_profileFor (c := c) (Or.inr rfl) "wlan0"
  · rintro ⟨⟨management, hmanagement⟩, -⟩
    simp [args, settings, pairs] at hmanagement

end Wlan.CommandLine
