import Wlan.Proofs.CommandLine.Connect
import Wlan.Proofs.NetworkManager.Choice
import Wlan.Proofs.NetworkManager.Following

/-!
# Joining once more

A run that joins a network may save the credentials it joins with, together with the interface that
it was made on. Where it says that it has done so, the file is the settings with one entry more, and
a later run that names the network finds that entry: it gets the same credentials from it, and by
the name of the interface the same device, unless two devices share a name. So it follows the same
profile (`connect_again`), whether the earlier credentials came from the command line, from an entry
in the file or from nowhere; and if it saves them in its turn, it writes what is there.
-/

set_option autoImplicit false

namespace Wlan.CommandLine

open NetworkManager

/-! ## Argument lists that repeat each other -/

/-- The later argument list asks for no more than the earlier one did. -/
structure Target.Repeats (later earlier : Target) : Prop where
  ssid : later.ssid = earlier.ssid
  password : later.password = none ∨
    later.password = earlier.password ∧ later.security = earlier.security
  interface : later.interface = none ∨ later.interface = earlier.interface

/-- An argument list without any switch. -/
theorem Target.Repeats.bare (t : Target) (security : Security) :
    Target.Repeats ⟨t.ssid, none, security, none⟩ t := ⟨rfl, Or.inl rfl, Or.inl rfl⟩

/-- The entry made of credentials gives them back. -/
theorem Target.Repeats.credentials_eq {later earlier : Target} (h : later.Repeats earlier)
    (saved : Option SavedNetwork) (interface : Option String) :
    later.credentials (some (Keeper.entry interface (earlier.credentials saved)))
      = earlier.credentials saved := by
  have hssid := Target.ssid_credentials earlier saved
  have hnone (hpassword : later.password = none) :
      later.credentials (some (Keeper.entry interface (earlier.credentials saved)))
        = earlier.credentials saved := by
    rw [Target.credentials_of_saved hpassword, h.ssid, ← hssid]
    rfl
  rcases h.password with hpassword | ⟨hpassword, hsecurity⟩
  · exact hnone hpassword
  · by_cases hearlier : earlier.password = none
    · exact hnone (hpassword.trans hearlier)
    · rw [Target.credentials_of_password (hpassword ▸ hearlier),
        Target.credentials_of_password hearlier, h.ssid, hpassword, hsecurity]

/-- The device that was chosen is chosen again, be it by the argument or by the entry. -/
theorem Target.Repeats.choose_eq {later earlier : Target} (h : later.Repeats earlier)
    {devices : List Device} (hdistinct : (devices.map Device.name).Nodup)
    {preferred otherwise : Option String} {d : Device}
    (hd : Device.choose devices ((earlier.interface <|> preferred) <|> otherwise) = .ok d)
    (fallback : Option String) :
    Device.choose devices ((later.interface <|> some d.name) <|> fallback) = .ok d := by
  have hname := choose_name hdistinct hd
  have hnone (hinterface : later.interface = none) :
      Device.choose devices ((later.interface <|> some d.name) <|> fallback) = .ok d := by
    rw [hinterface]
    exact hname
  rcases h.interface with hinterface | hinterface
  · exact hnone hinterface
  · cases hearlier : earlier.interface with
    | none => exact hnone (hinterface.trans hearlier)
    | some name =>
      rw [hearlier] at hd hinterface
      rw [hinterface]
      exact hd

/-! ## Joining once more -/

/-- On a file with an entry for the network, its credentials decide what is done, and the file is
left as it is. -/
theorem run_connect_saved (place : Place) {s : Settings} {c : Credentials} {d : Device}
    (hwritable : (s.add (Keeper.entry (some d.name) c)).isWritable = true) (hssid : c.ssid ≠ "")
    {later : Target} (hcredentials :
      later.credentials (some (Keeper.entry (some d.name) c)) = c)
    {h : Host} {devices : List Device} (hdevices : (listDevices h).1 = .ok devices)
    (hchosen : Device.choose devices
      ((later.interface <|> some d.name) <|> s.defaultInterface) = .ok d)
    (clock : Clock) (save : Bool) :
    let spot := Spot.file (s.add (Keeper.entry (some d.name) c)).render.toUTF8
    let again := run clock place ⟨h, spot⟩ (.connect later save)
    Follows (profileFor d.name c.association) h again.world.host ∧ again.world.spot = spot := by
  intro spot again
  have hname : later.ssid = c.ssid := by
    rw [← Target.ssid_credentials later, hcredentials]
  have hsettings : (settingsFor place spot).1 = s.add (Keeper.entry (some d.name) c) :=
    settingsFor_of_load (Settings.load_render hwritable)
  have hfind : (s.add (Keeper.entry (some d.name) c)).find? later.ssid
      = some (Keeper.entry (some d.name) c) := by
    rw [hname]
    exact Settings.find?_add s (Keeper.entry (some d.name) c)
  have hd : deviceFor (s.add (Keeper.entry (some d.name) c)) later h = .ok d := by
    rw [deviceFor_eq hdevices, hfind]
    exact hchosen
  have hrun := run_connect clock place ⟨h, spot⟩ later save
  simp only [hsettings, hfind, hcredentials, hd, Prod.mk.injEq] at hrun
  obtain ⟨hhost, hspot, -⟩ := hrun
  refine ⟨?_, ?_⟩
  · rw [hhost]
    exact follows_command (script_ne_none_of_deviceFor hd) hssid d.name
  · rw [hspot, filed, if_neg hssid]
    cases save
    · rfl
    · exact Keeper.keep_again hwritable

/-- **Saved credentials replay the connection.** Where a run says that it saved the credentials of
the network it joined, and no two devices share a name, a later run with the same devices that names
the network, and otherwise asks for nothing else than the first did, follows the same profile on the
same interface, and leaves the settings file as it is whether or not it saves its credentials. -/
theorem connect_again (clock : Clock) (place : Place) (w : World) (t : Target)
    (devices : List Device) (hdevices : (listDevices w.host).1 = .ok devices)
    (hdistinct : (devices.map Device.name).Nodup) :
    let first := run clock place w (.connect t true)
    (∃ line ∈ first.log, line.isReceipt = true) →
      let saved := (settingsFor place w.spot).1.find? t.ssid
      ∃ d ∈ devices,
        let p := profileFor d.name (t.credentials saved).association
        Follows p w.host first.world.host ∧
        ∀ (clock' : Clock) (h : Host) (later : Target) (save : Bool),
          (listDevices h).1 = .ok devices → later.Repeats t →
          let again := run clock' place ⟨h, first.world.spot⟩ (.connect later save)
          Follows p h again.world.host ∧ again.world.spot = first.world.spot := by
  intro first hreceipt saved
  have hrun := run_connect clock place w t true
  have hlog : first.log.any LogLine.isReceipt = true := List.any_eq_true.mpr hreceipt
  cases hd : deviceFor (settingsFor place w.spot).1 t w.host with
  | error f =>
    simp only [hd, Prod.mk.injEq] at hrun
    exact absurd (hrun.2.2.symm.trans hlog) nofun
  | ok d =>
    simp only [hd, Prod.mk.injEq, if_true] at hrun
    obtain ⟨hhost, hspot, hfiled⟩ := hrun
    have hkept := hfiled.symm.trans hlog
    have hssid : (t.credentials saved).ssid ≠ "" := by
      intro hempty
      rw [filed, if_pos hempty] at hkept
      cases hkept
    rw [filed, if_neg hssid] at hkept hspot
    obtain ⟨s, hload, hwritable, hafter⟩ := Keeper.keep_of_receipt hkept
    rw [hafter] at hspot
    have hchosen := hd
    rw [deviceFor_eq hdevices] at hchosen
    refine ⟨d, (mem_of_choose hchosen).1, ?_, ?_⟩
    · rw [hhost]
      exact follows_command (script_ne_none_of_deviceFor hd) hssid d.name
    · intro clock' h later save hlisted hrepeats
      have hagain := run_connect_saved place hwritable hssid
        (hrepeats.credentials_eq saved (some d.name)) hlisted
        (hrepeats.choose_eq hdistinct hchosen s.defaultInterface) clock' save
      dsimp only at hagain
      rw [← hspot] at hagain
      exact hagain

/-- A network joined with a password on the second of two devices is joined there once more by its
name alone. -/
theorem connect_again_bare :
    let h : Host := { script := some fun verb _ => match verb with
      | .listDevices => ⟨"wlan0:wifi:connected\nwlan1:wifi:disconnected".toUTF8, .empty, 0⟩
      | _ => ⟨.empty, .empty, 10⟩ }
    let t : Target := ⟨"home", some "secret123", .sae, some "wlan1"⟩
    let first := run (.live 0 clockEnd_pos) (.standard "/home") ⟨h, .vacant⟩ (.connect t true)
    let again := run .instant (.standard "/home") ⟨h, first.world.spot⟩
      (.connect ⟨"home", none, .psk, none⟩ true)
    ∃ p, Follows p h first.world.host ∧ Follows p h again.world.host ∧
      again.world.spot = first.world.spot := by
  intro h t first again
  let devices : List Device := [⟨"wlan0", "wifi", "connected"⟩, ⟨"wlan1", "wifi", "disconnected"⟩]
  have hdevices : (listDevices h).1 = .ok devices := by
    have hread : (listDevices h).1.toOption = some devices := by decide +kernel
    cases hlisted : (listDevices h).1 with
    | error f =>
      rw [hlisted] at hread
      cases hread
    | ok found =>
      rw [hlisted] at hread
      cases hread
      rfl
  have hreceipt : first.log.any LogLine.isReceipt = true := by
    decide +kernel
  clear_value h
  obtain ⟨d, -, hfirst, hagain⟩ := connect_again (.live 0 clockEnd_pos) (.standard "/home")
    ⟨h, .vacant⟩ t devices hdevices (by decide) (List.any_eq_true.mp hreceipt)
  obtain ⟨hfollows, hspot⟩ := hagain .instant h ⟨"home", none, .psk, none⟩ true hdevices
    (Target.Repeats.bare t .psk)
  exact ⟨_, hfirst, hfollows, hspot⟩

end Wlan.CommandLine
