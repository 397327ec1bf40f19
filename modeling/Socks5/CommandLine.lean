/-!
# `Socks5.CommandLine`: what the arguments ask for

Options may stand in any order and each at most once. The value of an
option follows it as the next argument, after an equals sign, or, for
an option of one letter, right after the letter. Arguments are read
from left to right: the first one that asks for help, for the version or
for something that does not exist decides.
-/

set_option autoImplicit false

namespace Socks5.CommandLine

/-- The name of the program. -/
def programName : String := "sockwire"

/-- The version of the program. -/
def programVersion : String := "0.1.0"

/-- What the options of a server set. -/
structure Options where
  /-- The file with the configuration. -/
  config : Option String := none
  /-- Where to listen, whatever the configuration says. -/
  listen : Option String := none
  logLevel : Option String := none
  /-- Write the log as JSON. -/
  jsonLog : Bool := false
  deriving Repr, DecidableEq, Inhabited

/-- What the arguments ask for. -/
inductive Plan where
  | showHelp
  | showVersion
  | misuse
  | serve (options : Options)
  deriving Repr, DecidableEq, Inhabited

/-- An option with a value. -/
inductive Setting where
  | config | listen | logLevel
  deriving Repr, DecidableEq, Inhabited

/-- Sets an option. None may be set twice, and a file has a name. -/
def Options.set? (o : Options) (s : Setting) (value : String) : Option Options :=
  match s with
  | .config =>
    if o.config.isSome ∨ value = "" then none else some { o with config := some value }
  | .listen => if o.listen.isSome then none else some { o with listen := some value }
  | .logLevel => if o.logLevel.isSome then none else some { o with logLevel := some value }

/-- What a single argument says. -/
inductive Word where
  | help
  | version
  | jsonLog
  /-- An option, with its value if that is part of the argument. -/
  | setting (s : Setting) (value : Option String)
  /-- After this only plain arguments follow, of which there are none. -/
  | terminator
  | unknown
  deriving Repr, DecidableEq, Inhabited

/-- The option with a long name. -/
def longSetting? : List Char → Option Setting
  | ['c', 'o', 'n', 'f', 'i', 'g'] => some .config
  | ['l', 'i', 's', 't', 'e', 'n'] => some .listen
  | ['l', 'o', 'g', '-', 'l', 'e', 'v', 'e', 'l'] => some .logLevel
  | _ => none

/-- Reads an argument after its two dashes. -/
def Word.ofLong (cs : List Char) : Word :=
  match cs.span (· != '=') with
  | (name, rest) =>
    match longSetting? name, rest with
    | some s, _ :: value => .setting s (some (String.ofList value))
    | some s, [] => .setting s none
    | none, _ :: _ => .unknown
    | none, [] =>
      match String.ofList name with
      | "help" => .help
      | "version" => .version
      | "json-log" => .jsonLog
      | _ => .unknown

/-- Reads the value that follows a letter, with or without an equals sign. -/
def attached : List Char → Option String
  | [] => none
  | '=' :: cs => some (String.ofList cs)
  | cs => some (String.ofList cs)

/-- Reads an argument after its one dash. -/
def Word.ofShort : List Char → Word
  | 'h' :: _ => .help
  | 'V' :: _ => .version
  | 'c' :: cs => .setting .config (attached cs)
  | 'l' :: cs => .setting .logLevel (attached cs)
  | _ => .unknown

/-- Reads an argument. -/
def Word.ofArgument (arg : String) : Word :=
  match arg.toList with
  | ['-', '-'] => .terminator
  | '-' :: '-' :: cs => .ofLong cs
  | '-' :: cs => .ofShort cs
  | _ => .unknown

/-- Whether an argument can be the value of the option before it. -/
def isValue (arg : String) : Bool :=
  match arg.toList with
  | '-' :: _ :: _ => false
  | _ => true

/-- Reads arguments, with what the ones before them set. -/
def planFrom (o : Options) : List String → Plan
  | [] => .serve o
  | arg :: rest =>
    match Word.ofArgument arg with
    | .help => .showHelp
    | .version => .showVersion
    | .jsonLog => if o.jsonLog then .misuse else planFrom { o with jsonLog := true } rest
    | .terminator => if rest = [] then .serve o else .misuse
    | .unknown => .misuse
    | .setting s (some value) =>
      match o.set? s value with
      | some o => planFrom o rest
      | none => .misuse
    | .setting s none =>
      match rest with
      | [] => .misuse
      | value :: rest =>
        if isValue value then
          match o.set? s value with
          | some o => planFrom o rest
          | none => .misuse
        else .misuse

/-- What the arguments ask for. -/
def plan (args : List String) : Plan := planFrom {} args

/-- What is shown to those who ask for the version. -/
def versionText : String := s!"{programName} {programVersion}"

/-- What is shown to those who ask for help. -/
def helpText : String :=
  "\n".intercalate
    [s!"Usage: {programName} [OPTIONS]",
     "",
     "Options:",
     "  -c, --config <FILE>      Read the configuration from a file",
     "      --listen <ADDRESS>   Listen here, whatever the configuration says",
     "  -l, --log-level <LEVEL>  trace, debug, info, warn or error",
     "      --json-log           Write the log as JSON",
     "  -h, --help               Show this text",
     "  -V, --version            Show the version"]

/-- What is shown to those whose arguments make no sense. -/
def misuseText : String :=
  "error: the arguments make no sense\n\nFor more information, try '--help'."

end Socks5.CommandLine
