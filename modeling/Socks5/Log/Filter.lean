import Socks5.Log.Entry

/-!
# `Socks5.Log.Filter`: which entries are shown

Every entry comes from a source with a name, such as `sockwire::server`,
and has one field, its message. A filter has rules; each sets the level
up to which entries are shown, for all sources or for those whose name
starts with a given text, and for all entries or for those with a given
field. The most exact rule decides: the one with the longest text, then
one that asks for a field. Of two that are equally exact the later one
decides.
-/

set_option autoImplicit false

namespace Socks5.Log

/-- Up to which level entries are shown. `none` shows nothing. -/
abbrev Threshold := Option Level

/-- Whether a threshold lets a level through. -/
def Threshold.lets (t : Threshold) (l : Level) : Bool := t.any (l.detail ≤ ·.detail)

/-- One rule of a filter. -/
structure Rule where
  /-- The beginning of the sources that the rule is about, or all of them. -/
  source : Option String
  /-- The field that entries must have. -/
  field : Option String
  threshold : Threshold
  deriving Repr, DecidableEq, Inhabited

/-- The rules of a filter. -/
abbrev Filter := List Rule

namespace Rule

/-- Whether a rule is about the entries of a source. -/
def covers (r : Rule) (source : String) : Bool :=
  r.source.all (fun s => s.toList.isPrefixOf source.toList) && r.field.all (· == Entry.field)

/-- How exact a rule is. Each character of the source counts two, naming
any source counts two more, and a field counts one. -/
def exactness (r : Rule) : Nat :=
  2 * (r.source.map (·.length + 1)).getD 0 + if r.field.isSome then 1 else 0

end Rule

namespace Filter

/-- The rule that decides about a source. -/
def rule? (f : Filter) (source : String) : Option Rule :=
  let better (best : Option Rule) (r : Rule) : Option Rule :=
    if best.all (·.exactness ≤ r.exactness) then some r else best
  (f.filter (·.covers source)).foldl better none

/-- Whether an entry of a source is shown. -/
def shows (f : Filter) (source : String) (l : Level) : Bool :=
  match f.rule? source with
  | some r => r.threshold.lets l
  | none => false

/-- The filter that treats all sources alike. -/
def upTo (l : Level) : Filter := [⟨none, none, some l⟩]

end Filter

/-- The level that a word asks for. A word that is no level asks for `info`. -/
def Level.ofWord (s : String) : Level :=
  match String.ofList (s.toList.map Char.toLower) with
  | "trace" => .trace
  | "debug" => .debug
  | "warn" | "warning" => .warn
  | "error" => .error
  | _ => .info

end Socks5.Log
