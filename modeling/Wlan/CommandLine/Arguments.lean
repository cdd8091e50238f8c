import Wlan.Security

/-!
# Arguments

What may be asked of the program on its command line. Reading an argument list goes in two steps.
First each argument is classified with the help of the switches that the subcommand knows, which
gives a list of switches with their values and of operands; then the list is matched against what
the subcommand needs. Nothing may be given twice, and nothing may be left over.

A value may be attached to its switch, or be the next argument. In the second case it must not
look like a switch itself; a lone hyphen does not.
-/

set_option autoImplicit false

namespace Wlan.CommandLine

/-! ## Classifying arguments -/

structure Switch where
  name : String
  short : Option Char
  takesValue : Bool
  deriving DecidableEq, Repr

inductive Argument
  | flag (name : String)
  | value (name value : String)
  | operand (value : String)
  deriving DecidableEq, Repr

def looksLikeSwitch (arg : List Char) : Bool :=
  match arg with
  | '-' :: _ :: _ => true
  | _ => false

/-- What a cluster of short switches comes to: the switches without values, and the switch at its
end that takes a value, with the value if it is attached. -/
def readCluster (switches : List Switch) :
    List Char → Option (List Argument × Option (String × Option String))
  | [] => some ([], none)
  | c :: rest => do
    let s ← switches.find? (·.short == some c)
    if s.takesValue then
      match rest with
      | [] => return ([], some (s.name, none))
      | '=' :: value => return ([], some (s.name, some (String.ofList value)))
      | value => return ([], some (s.name, some (String.ofList value)))
    else
      let (flags, last) ← readCluster switches rest
      return (.flag s.name :: flags, last)

/-- What a long switch comes to, after its two hyphens. -/
def readLong (switches : List Switch) (cs : List Char) :
    Option (List Argument × Option (String × Option String)) := do
  let name := String.ofList (cs.takeWhile (· ≠ '='))
  let s ← switches.find? (·.name == name)
  match cs.dropWhile (· ≠ '=') with
  | [] => if s.takesValue then return ([], some (s.name, none)) else return ([.flag s.name], none)
  | _ :: value =>
    guard s.takesValue
    return ([], some (s.name, some (String.ofList value)))

/-- Classifies arguments. `awaiting` is the switch whose value has to come next. -/
def classify (switches : List Switch) : Option String → List String → Option (List Argument)
  | none, [] => some []
  | some _, [] => none
  | some name, arg :: rest =>
    if looksLikeSwitch arg.toList then none
    else (classify switches none rest).map (.value name arg :: ·)
  | none, arg :: rest =>
    -- After two hyphens alone everything is an operand, whatever it looks like.
    if arg = "--" then some (rest.map .operand)
    else if !looksLikeSwitch arg.toList then
      (classify switches none rest).map (.operand arg :: ·)
    else do
      let (flags, last) ← match arg.toList with
        | '-' :: '-' :: cs => readLong switches cs
        | _ :: cs => readCluster switches cs
        | [] => none
      let more ← match last with
        | none => classify switches none rest
        | some (name, none) => classify switches (some name) rest
        | some (name, some value) => (classify switches none rest).map (.value name value :: ·)
      return flags ++ more

/-! ## Matching them -/

def switchNames (args : List Argument) : List String :=
  args.filterMap fun
    | .flag name => some name
    | .value name _ => some name
    | .operand _ => none

def operands (args : List Argument) : List String :=
  args.filterMap fun
    | .operand value => some value
    | _ => none

def valueOf (args : List Argument) (name : String) : Option String :=
  args.findSome? fun
    | .value n value => if n = name then some value else none
    | _ => none

def hasFlag (args : List Argument) (name : String) : Bool :=
  args.contains (.flag name)

/-- Classifies the arguments of a subcommand, of which no switch is given twice. -/
def read (switches : List Switch) (args : List String) : Option (List Argument) := do
  let args ← classify switches none args
  guard (switchNames args).Nodup
  return args

/-! ## What can be asked -/

/-- The network that an argument list names, and how to join it. -/
structure Target where
  ssid : String
  password : Option String
  security : Security
  interface : Option String
  deriving DecidableEq, Repr

inductive Invocation
  | listInterfaces
  | scan (interface : Option String) (json : Bool)
  | connect (target : Target) (save : Bool)
  | status (interface : Option String) (json : Bool)
  | disconnect (interface : Option String)
  | saveNetwork (target : Target)
  | showConfig
  deriving DecidableEq, Repr

def interfaceSwitch : Switch := ⟨"interface", some 'i', true⟩

def jsonSwitch : Switch := ⟨"json", none, false⟩

def passwordSwitch : Switch := ⟨"password", some 'p', true⟩

def securitySwitch : Switch := ⟨"security", some 'S', true⟩

def saveSwitch : Switch := ⟨"save", some 's', false⟩

/-- Reads arguments that hold no operand. -/
def readBare (switches : List Switch) (args : List String) : Option (List Argument) := do
  let args ← read switches args
  guard (operands args).isEmpty
  return args

/-- Reads the arguments that name a network. The security is the commonest kind unless it is
given. -/
def readTarget (switches : List Switch) (args : List String) : Option (Target × List Argument) := do
  let args ← read switches args
  match operands args with
  | [ssid] =>
    let security ← match valueOf args "security" with
      | none => some .psk
      | some s => (Security.parse s).toOption
    return (⟨ssid, valueOf args "password", security, valueOf args "interface"⟩, args)
  | _ => none

/-- Reads an argument list; nothing if it asks for nothing that the program can do. -/
def Invocation.ofArguments? : List String → Option Invocation
  | [] => none
  | subcommand :: args =>
    match subcommand with
    | "list-interfaces" => do
      let _ ← readBare [] args
      return .listInterfaces
    | "scan" => do
      let args ← readBare [interfaceSwitch, jsonSwitch] args
      return .scan (valueOf args "interface") (hasFlag args "json")
    | "connect" => do
      let (target, args) ←
        readTarget [passwordSwitch, securitySwitch, interfaceSwitch, saveSwitch] args
      return .connect target (hasFlag args "save")
    | "status" => do
      let args ← readBare [interfaceSwitch, jsonSwitch] args
      return .status (valueOf args "interface") (hasFlag args "json")
    | "disconnect" => do
      let args ← readBare [interfaceSwitch] args
      return .disconnect (valueOf args "interface")
    | "save-network" => do
      let (target, _) ← readTarget [passwordSwitch, securitySwitch, interfaceSwitch] args
      return .saveNetwork target
    | "show-config" => do
      let _ ← readBare [] args
      return .showConfig
    | _ => none

end Wlan.CommandLine
