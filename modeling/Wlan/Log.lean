/-!
# Log lines

What the program tells about its work, apart from what it prints. Lines are values: an operation
returns them beside its result, so that what is logged can be reasoned about like any output.
-/

set_option autoImplicit false

namespace Wlan

inductive Level
  | error
  | warn
  | info
  | debug
  deriving DecidableEq, Repr

def Level.label : Level → String
  | error => "ERROR"
  | warn => "WARN"
  | info => "INFO"
  | debug => "DEBUG"

/-- The command line shows everything but what only debugging needs. -/
def Level.isShown : Level → Bool
  | debug => false
  | _ => true

structure LogLine where
  level : Level
  text : String
  deriving DecidableEq, Repr

namespace LogLine

def error (text : String) : LogLine := ⟨.error, text⟩

def warn (text : String) : LogLine := ⟨.warn, text⟩

def info (text : String) : LogLine := ⟨.info, text⟩

def debug (text : String) : LogLine := ⟨.debug, text⟩

end LogLine

end Wlan
