import Socks5.Log.Filter
import Socks5.Log.Filter.Pattern
import Socks5.Text.Alphanumeric
import Socks5.Text.Cut
import Socks5.Text.Whitespace

/-!
# `Socks5.Log.Filter.Text`: the text of a filter

A filter is written as rules with commas between them. A rule is a level,
a source, or a source, a span and a level: `source[span{field=value}]=level`,
where all parts but one may be missing. No entry of the program lies in
a span or has a field with a value, so a rule that asks for either shows
nothing.

Blanks around a rule are ignored only when its signs are looked for: a
part is cut out of the rule with its blanks, at the offsets that its
signs have without them. Rules with blanks in front are therefore cut in
odd places, and a cut inside a character cannot be made at all.
-/

set_option autoImplicit false

namespace Socks5.Log

open Text

/-- What is wrong with the text of a filter. -/
inductive Filter.Fault where
  | malformed
  /-- A part begins or ends inside a character. -/
  | torn
  deriving Repr, DecidableEq, Inhabited

/-! ### Thresholds -/

/-- Reads a threshold: a name in letters of either case, or a number. -/
def Threshold.parse? (cs : List Char) : Option Threshold :=
  match decimal? (dropPlus cs) with
  | some 0 => some none
  | some 1 => some (some .error)
  | some 2 => some (some .warn)
  | some 3 => some (some .info)
  | some 4 => some (some .debug)
  | some 5 => some (some .trace)
  | some _ => none
  | none =>
    match String.ofList (cs.map Char.toLower) with
    | "off" => some none
    | "error" => some (some .error)
    | "warn" => some (some .warn)
    | "info" => some (some .info)
    | "debug" => some (some .debug)
    | "trace" => some (some .trace)
    | _ => none

namespace Rule

/-! ### Parts -/

/-- Cuts a part out of the text of a rule. -/
def part (text : List Char) (start stop : Nat) : Except Filter.Fault (List Char) :=
  match cut? start stop text with
  | some cs => .ok cs
  | none => .error .torn

/-- Reads the threshold from an offset on. An empty one shows all. -/
def readThreshold (text : List Char) (start : Nat) : Except Filter.Fault Threshold :=
  match dropBytes? start text with
  | none => .error .torn
  | some [] => .ok (some .trace)
  | some cs =>
    match Threshold.parse? cs with
    | some t => .ok t
    | none => .error .malformed

/-- Reads what follows the bracket that closes a span, which starts at an
offset and is given without blanks. -/
def readLevel (text : List Char) (start : Nat) : List Char → Except Filter.Fault Threshold
  | [] => .ok (some .trace)
  | '=' :: _ => readThreshold text (start + 1)
  | _ => .error .malformed

/-! ### Spans and fields -/

/-- Reads a field: its name, and whether a value is asked for. -/
def readField : List Char → Except Filter.Fault (String × Bool)
  | [] => .error .malformed
  | cs =>
    match cs.splitOn '=' with
    | name :: value :: _ =>
      if Filter.isValue value then .ok (String.ofList name, true) else .error .malformed
    | _ => .ok (String.ofList cs, false)

/-- Reads a span after its opening bracket, and the threshold after it.
`start` is the offset of what is given without blanks. -/
def readSpan (text : List Char) (source : Option String) (start : Nat) (cs : List Char) :
    Except Filter.Fault (Option Rule) := do
  let name := cs.takeWhile fun c => c != ']' && c != '\x7b'
  let stop := start + byteLength name
  match cs.dropWhile fun c => c != ']' && c != '\x7b' with
  | [] => throw .malformed
  | ']' :: rest =>
    let _ ← part text start stop
    let _ ← readLevel text (stop + 1) rest
    return none
  | _ :: rest =>
    let span ← part text start stop
    let inside := rest.takeWhile (· != '\x7d')
    let fieldStop := stop + 1 + byteLength inside
    match rest.dropWhile (· != '\x7d') with
    | [] => throw .malformed
    | _ :: rest =>
      let (field, hasValue) ← readField (← part text (stop + 1) fieldStop)
      match rest with
      | ']' :: rest =>
        let threshold ← readLevel text (fieldStop + 2) rest
        return if hasValue || span != [] then none else some ⟨source, some field, threshold⟩
      | _ => throw .malformed

/-! ### Rules -/

/-- Whether a rule may start with a character. -/
def startsWord (c : Char) : Bool := c == '-' || c == ':' || c == '_' || isAlphanumeric c

/-- Reads a rule. `none` when it shows nothing of the program. -/
def parse (text : List Char) : Except Filter.Fault (Option Rule) :=
  let cs := trim text
  match cs with
  | [] => .error .malformed
  | '[' :: rest => readSpan text none 1 rest
  | first :: _ =>
    if !startsWord first then .error .malformed
    else
      let stop := byteLength (cs.takeWhile fun c => c != '=' && c != '[')
      match cs.dropWhile fun c => c != '=' && c != '[' with
      | [] =>
        match Threshold.parse? text with
        | some t => .ok (some ⟨none, none, t⟩)
        | none => .ok (some ⟨some (String.ofList text), none, some .trace⟩)
      | '=' :: _ => do
        let source ← part text 0 stop
        let threshold ← readThreshold text (stop + 1)
        return some ⟨some (String.ofList source), none, threshold⟩
      | _ :: rest => do
        let source ← part text 0 stop
        readSpan text (some (String.ofList source)) (stop + 1) rest

end Rule

/-- Reads a filter. One without any rule shows errors only. The first
rule with a fault decides which it is. -/
def Filter.parse (s : String) : Except Fault Filter :=
  match (s.toList.splitOn ',').filter (· != []) with
  | [] => .ok (upTo .error)
  | rules => do
    let rules ← rules.mapM Rule.parse
    return rules.filterMap id

end Socks5.Log
