import Wlan.CommandLine.Arguments
import Wlan.CommandLine.Shell
import Wlan.NetworkManager.Device

/-!
# Subcommands

What each subcommand does, and the run of one of them as a whole. A run starts by loading the
settings; settings that cannot be loaded are no reason to stop, except for the subcommands whose
business they are. A job that is still under way when the subcommand has come to its end goes on
to its own.

The interface to work on is the first one named by an argument, by the network to join, or by the
settings. It has to exist, and a later source does not help out. Only where none of them names one
is the first wireless device taken.
-/

set_option autoImplicit false

namespace Wlan

/-- Where the settings file belongs, below the directory for settings. -/
def Place.standard (directory : String) : Place := ⟨directory ++ "/wifi-link", "config.toml"⟩

namespace CommandLine

open NetworkManager

/-- The name of the interface to work on. -/
def pickInterface (settings : Settings) (named : Option String) : Work String := do
  return (← Work.fromHost (resolve (named <|> settings.defaultInterface))).name

def listInterfaces : Work Unit := do
  Work.print (Device.table (← Work.fromHost listWireless))

def scan (pace : Pace) (settings : Settings) (interface : Option String) (json : Bool) :
    Work Unit := do
  let interface ← pickInterface settings interface
  Work.openInterface interface
  Work.say [.info ("Scanning on interface: " ++ interface)]
  Work.command pace .forgetful .scan
  Work.await .scanDone
  let found := (← Work.station).lastScan
  Work.print (if json then AccessPoint.json found ++ "\n" else AccessPoint.table found)

/-! ## Joining a network -/

/-- The credentials to join with: those of the command line if it has a password, else those
remembered, else none. -/
def Target.credentials (t : Target) (saved : Option SavedNetwork) : Credentials :=
  match t.password, saved with
  | some password, _ => ⟨t.ssid, some password, t.security⟩
  | none, some n => ⟨t.ssid, n.password, n.security⟩
  | none, none => ⟨t.ssid, none, .unsecured⟩

/-- Whether those are the remembered ones. -/
def Target.usesSaved (t : Target) (saved : Option SavedNetwork) : Bool :=
  t.password.isNone && saved.isSome

/-- Waits for an address on a network that has been joined, and prints it. -/
def awaitAddress (patience : Patience) (ssid : String) : Work Unit := do
  Work.within "Associated but no DHCP lease" (Work.await (.lease patience.lease))
  match (← Work.station).link.address with
  | some ip => Work.print ("Connected to '" ++ ssid ++ "' with address " ++ ip.text ++ "\n")
  | none => return

/-- Waits until the network has taken the station in and given it an address. -/
def awaitNetwork (patience : Patience) (ssid : String) : Work Unit := do
  Work.await (.connecting patience.connect)
  if !(← Work.station).link.connected then Work.fail (.associationFailed ssid)
  awaitAddress patience ssid

/-- Joins a network on an interface. -/
def connectOn (pace : Pace) (patience : Patience) (keeper : Keeper) (c : Credentials)
    (interface : String) : Work Unit := do
  Work.openInterface interface
  Work.say [.info ("Connecting to '" ++ c.ssid ++ "' on interface " ++ interface ++ "...")]
  Work.command pace keeper (.connect c)
  awaitNetwork patience c.ssid

/-- Joins a network and waits until it has given an address. -/
def connect (pace : Pace) (place : Place) (settings : Settings) (t : Target) (save : Bool) :
    Work Unit := do
  let saved := settings.find? t.ssid
  Work.say (if t.usesSaved saved then [.info ("Using saved credentials for '" ++ t.ssid ++ "'")]
    else [])
  let interface ← pickInterface settings (t.interface <|> saved.bind SavedNetwork.interface)
  let keeper := if save then Keeper.filing place (some interface) else .forgetful
  connectOn pace settings.patience keeper (t.credentials saved) interface

/-! ## Looking and leaving -/

def showStatus (settings : Settings) (interface : Option String) (json : Bool) : Work Unit := do
  let interface ← pickInterface settings interface
  let s ← Work.fromHost (status interface)
  Work.print (if json then s.json ++ "\n" else s.display)

def disconnect (pace : Pace) (settings : Settings) (interface : Option String) : Work Unit := do
  let interface ← pickInterface settings interface
  Work.openInterface interface
  Work.say [.info ("Disconnecting interface " ++ interface ++ "...")]
  Work.command pace .forgetful .disconnect
  Work.await (.disconnecting settings.patience.connect)

/-! ## Settings -/

/-- The settings, which have to be readable here. -/
def loadSettings (place : Place) : Work Settings := do
  Work.orFail (Settings.load place (← get).spot)

/-- The network that an argument list asks to remember. Without a password it is an open one. -/
def Target.network (t : Target) : SavedNetwork :=
  ⟨t.ssid, t.password, if t.password.isSome then t.security else .unsecured, t.interface⟩

def saveNetwork (place : Place) (t : Target) : Work Unit := do
  let settings ← loadSettings place
  let spot ← Work.orFail ((settings.add t.network).save place (← get).spot)
  modify fun s => { s with spot }
  Work.print ("Saved network '" ++ t.ssid ++ "' to " ++ place.path ++ "\n")

/-- A password as it is shown: its length in octets, up to twelve. -/
def masked : Option String → String
  | some password => String.ofList (List.replicate (min password.utf8ByteSize 12) '*')
  | none => "-"

def networkTable (networks : List SavedNetwork) : String :=
  let row (ssid security interface password : String) : String :=
    Text.padRight 24 ssid ++ " " ++ Text.padRight 16 security ++ " "
      ++ Text.padRight 16 interface ++ " " ++ password
  if networks.isEmpty then "No saved networks.\n"
  else Text.printed (row "SSID" "SECURITY" "INTERFACE" "PASSWORD" :: Text.rule 68
    :: networks.map fun n => row n.ssid n.security.label (n.interface.getD "-") (masked n.password))

def settingsText (s : Settings) : String :=
  Text.printed
    (("Wait deadlines: connect " ++ toString s.patience.connectSeconds ++ "s, DHCP "
        ++ toString s.patience.leaseSeconds ++ "s")
      :: (s.defaultInterface.map ("Default interface: " ++ ·)).toList ++ [""])
    ++ networkTable s.networks

/-- Shows the settings. Where they belong is printed even if they cannot be read. -/
def showConfig (place : Place) : Work Unit := do
  Work.print ("Config file: " ++ place.path ++ "\n\n")
  Work.print (settingsText (← loadSettings place))

/-! ## Runs -/

def perform (pace : Pace) (place : Place) (settings : Settings) : Invocation → Work Unit
  | .listInterfaces => listInterfaces
  | .scan interface json => scan pace settings interface json
  | .connect t save => connect pace place settings t save
  | .status interface json => showStatus settings interface json
  | .disconnect interface => disconnect pace settings interface
  | .saveNetwork t => saveNetwork place t
  | .showConfig => showConfig place

/-- What a run finds and leaves behind. -/
structure World where
  host : Host
  spot : Spot

structure Ran where
  exit : Except Stop Unit
  printed : String
  log : List LogLine
  jobLog : List LogLine
  world : World

/-- The settings of a run, and what is logged if they could not be loaded. -/
def settingsFor (place : Place) (spot : Spot) : Settings × List LogLine :=
  match Settings.load place spot with
  | .ok s => (s, [])
  | .error f => ({}, [.warn ("Ignoring config: " ++ f.message)])

def run (clock : Clock) (place : Place) (w : World) (i : Invocation) : Ran :=
  let (settings, warnings) := settingsFor place w.spot
  let start : Shell :=
    { host := w.host, spot := w.spot,
      timeline := { station := { interface := "" }, now := clock.start }, log := warnings }
  let (exit, s) := (perform clock.pace place settings i).run.run start
  -- The caller is done, but what the job still logs belongs to the run.
  let (_, rest) := s.timeline.finish
  { exit
    printed := s.printed
    log := s.log
    jobLog := s.jobLog ++ rest
    world := ⟨s.host, s.spot⟩ }

end CommandLine

end Wlan
