import Wlan.CommandLine.Run

/-!
# The program

The rim of the program: the file system, the environment and the standard streams. All decisions
are taken by `CommandLine.run`, which needs the replies of the tool beforehand. They are asked for
one by one. Whoever started the program runs the tool for it: each run that is wanted is written as
a line of quoted arguments, and its reply is read from standard input, a line with the exit code
and the two lengths in octets, then the output and the error stream themselves. An empty line
means that there is no such tool to run.

A run of the program is a function of the replies, and later replies have no part in earlier
requests. So it is simply taken again with one more reply known, until it asks for nothing more,
and only then is anything printed or written.
-/

set_option autoImplicit false

namespace Wlan

open NetworkManager

/-- A host that gives the replies known so far, each to the run it was given to. -/
def hostKnowing (known : List (Run × Reply)) : Host where
  script := some fun verb n =>
    match (known.filter fun (r, _) => r.verb = verb)[n]? with
    | some (_, reply) => reply
    | none => ⟨.empty, .empty, 0⟩

def ask (r : Run) : IO Reply := do
  let stdout ← IO.getStdout
  stdout.putStrLn ("run " ++ " ".intercalate (r.arguments.map Json.quoted))
  stdout.flush
  let stdin ← IO.getStdin
  let line := (← stdin.getLine).trimAscii.toString
  let numbers : List Int := line.splitOn " " |>.filterMap (·.toInt?)
  match numbers with
  | [code, outLength, errLength] =>
    let out ← stdin.read outLength.toNat.toUSize
    let err ← stdin.read errLength.toNat.toUSize
    return ⟨out, err, code⟩
  | _ => return ⟨.empty, .empty, .unstarted .noSuchFile⟩

/-- Takes the run of the program again and again, until all its requests are answered. -/
partial def converse (clock : CommandLine.Clock) (place : Place) (spot : Spot)
    (i : CommandLine.Invocation) (known : List (Run × Reply)) : IO CommandLine.Ran := do
  let ran := CommandLine.run clock place ⟨hostKnowing known, spot⟩ i
  match ran.world.host.runs[known.length]? with
  | none => return ran
  | some r => converse clock place spot i (known ++ [(r, ← ask r)])

def readClock : IO CommandLine.Clock := do
  let now ← IO.monoNanosNow
  if readable : now < clockEnd then return .live now readable
  else throw (IO.userError "the clock cannot be read")

/-- A file of these octets, which may be sealed. -/
def lookAt (place : Place) (bytes : ByteArray) : IO Spot := do
  try
    let _ ← IO.FS.Handle.mk place.path .append
    return .file bytes
  catch
    | .permissionDenied .. => return .sealed bytes
    | e => throw e

/-- Looks at the place of the settings file. -/
def look (place : Place) : IO Spot := do
  try
    lookAt place (← IO.FS.readBinFile place.path)
  catch
    | .noFileOrDirectory .. => return .vacant
    | .inappropriateType _ code _ => return if code = 20 then .blocked else .directory
    | e => throw e

/-- Puts the settings file in its place. -/
def put (place : Place) : Spot → IO Unit
  | .file bytes => do
    IO.FS.createDirAll place.directory
    IO.FS.writeBinFile place.path bytes
  | _ => return

def settingsDirectory : IO (Option String) := do
  match ← IO.getEnv "XDG_CONFIG_HOME", ← IO.getEnv "HOME" with
  | some directory, _ => return some directory
  | none, some home => return some (home ++ "/.config")
  | none, none => return none

/-- Writes the lines that are shown to the error stream. -/
def showLog (lines : List LogLine) : IO Unit := do
  for line in lines do
    if line.level.isShown then IO.eprintln ("[" ++ line.level.label ++ "] " ++ line.text)

def runAt (place : Place) (i : CommandLine.Invocation) : IO UInt32 := do
  let spot ← look place
  let ran ← converse (← readClock) place spot i []
  IO.print ran.printed
  showLog (ran.log ++ ran.jobLog)
  if ran.world.spot ≠ spot then put place ran.world.spot
  match ran.exit with
  | .ok () => return 0
  | .error (.failed f) =>
    showLog [.error f.message]
    return 1
  | .error .endless => return 1

end Wlan

/-- Reads the arguments and runs what they ask for. -/
def main (args : List String) : IO UInt32 := do
  match Wlan.CommandLine.Invocation.ofArguments? args with
  | none =>
    IO.eprintln "usage: wifi-link SUBCOMMAND [SWITCHES] [SSID]"
    return 2
  | some i =>
    match ← Wlan.settingsDirectory with
    | none =>
      Wlan.showLog [.error "Could not determine config directory"]
      return 1
    | some directory => Wlan.runAt (.standard directory) i
