/-!
# `Socks5.Log.Entry`: what is written to the log

A log entry has a level and a text. Levels are ordered from the most
urgent, `error`, to the most detailed, `trace`.
-/

set_option autoImplicit false

namespace Socks5.Log

/-- How urgent an entry is. -/
inductive Level where
  | error | warn | info | debug | trace
  deriving Repr, DecidableEq, Inhabited

namespace Level

/-- The name of a level in the log. -/
def name : Level → String
  | .error => "ERROR"
  | .warn => "WARN"
  | .info => "INFO"
  | .debug => "DEBUG"
  | .trace => "TRACE"

/-- How much detail a level adds: `error` is 1, `trace` is 5. -/
def detail : Level → Nat
  | .error => 1
  | .warn => 2
  | .info => 3
  | .debug => 4
  | .trace => 5

end Level

/-- One line of the log. -/
structure Entry where
  level : Level
  text : String
  deriving Repr, DecidableEq, Inhabited

/-- The one field of an entry, which holds its text. -/
def Entry.field : String := "message"

end Socks5.Log
