import Socks5.Config.Text
import Socks5.Text.Quoted
import Socks5.Text.Utf8

/-!
# `Socks5.Start`: from a file to a configuration, or why not

A server starts with a configuration that can be read, makes sense and
has a listening address that the host agrees to.
-/

set_option autoImplicit false

namespace Socks5

/-- Why a server does not start. -/
inductive StartError where
  /-- The file is not there or is not UTF-8. -/
  | unreadable (path : String)
  /-- The document is not well formed or does not fit. -/
  | malformed
  | unusable (fault : ConfigFault)
  /-- The host does not listen there. -/
  | unbound (address : String) (cause : String)
  deriving Repr, DecidableEq, Inhabited

namespace StartError

/-- The text of an error. -/
def message : StartError → String
  | .unreadable path => s!"Failed to read config file: {Text.quoted path}"
  | .malformed => "Failed to parse configuration"
  | .unusable fault => fault.error.message
  | .unbound address _ => s!"Failed to bind {address}"

/-- The text of the error below, if there is one. -/
def cause? : StartError → Option String
  | .unbound _ cause => some cause
  | _ => none

end StartError

namespace Config

/-- The configuration itself, if nothing makes it unusable. -/
def check (c : Config) : Except StartError Config :=
  match c.fault? with
  | some fault => .error (.unusable fault)
  | none => .ok c

/-- Reads a usable configuration from a document. -/
def parse (s : String) : Except StartError Config :=
  match parse? s with
  | some c => c.check
  | none => .error .malformed

/-- Reads a usable configuration from the bytes of a file, if there are any. -/
def load (path : String) (content : Option Bytes) : Except StartError Config :=
  match content.bind Text.Utf8.decode? with
  | some s => parse s
  | none => .error (.unreadable path)

end Config

end Socks5
