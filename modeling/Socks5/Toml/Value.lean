/-!
# `Socks5.Toml.Value`: values and how tables grow

A table may come from a header, from braces, from a dotted key or from
the path of something inside it. Where it comes from decides what may
still be added to it: braces close a table for good, a header may fill a
table that so far only stood on a path, and a dotted key adds only to
tables that no header opened.
-/

set_option autoImplicit false

namespace Socks5.Toml

/-- Where a table comes from. -/
inductive Origin where
  /-- It stands in braces. -/
  | braces
  /-- It has a header of its own. -/
  | header
  /-- It only stands on the path of a header. -/
  | path
  /-- It stands in front of a dot in a key. -/
  | dotted
  deriving Repr, DecidableEq, Inhabited

/-- A value. Floats and moments are told apart from other values, but what
they are is not kept. -/
inductive Value where
  | text (s : String)
  | integer (n : Int)
  | float
  | boolean (b : Bool)
  | moment
  | array (items : List Value)
  | table (origin : Origin) (entries : List (String × Value))
  /-- Tables that have the same header in double brackets. -/
  | tables (items : List (List (String × Value)))
  deriving Inhabited

/-- The entries of a table. Keys are different from each other. -/
abbrev Table := List (String × Value)

namespace Table

/-- Puts a value under a key, in place of the one that is there. -/
def put (t : Table) (key : String) (v : Value) : Table :=
  match t with
  | [] => [(key, v)]
  | (k, w) :: rest => if k = key then (key, v) :: rest else (k, w) :: put rest key v

/-- Changes the table at the end of a path. Tables that are missing on the
way come into being. The path leads on through the last of several
tables, and through no value of another kind. -/
def update (byKey : Bool) (change : Origin → Table → Option Table) :
    List String → Origin → Table → Option Table
  | [], origin, t => change origin t
  | key :: path, _, t =>
    match t.lookup key with
    | none => do
      let origin := if byKey then .dotted else .path
      return t.put key (.table origin (← update byKey change path origin []))
    | some (.table origin inner) =>
      if origin = .braces ∨ (byKey ∧ origin = .header) then none
      else do return t.put key (.table origin (← update byKey change path origin inner))
    | some (.tables items) => do
      let last ← items.getLast?
      return t.put key
        (.tables (items.dropLast ++ [← update byKey change path .header last]))
    | some _ => none

end Table

/-- A key with dots in it: the path to a table and the name inside of it. -/
structure Key where
  path : List String
  name : String
  deriving Repr, DecidableEq, Inhabited

/-- The key that consists of the given parts. -/
def Key.ofParts? (parts : List String) : Option Key :=
  parts.getLast?.map fun name => { path := parts.dropLast, name }

namespace Table

/-- Adds an entry under a key. The table that gets it is the present one,
or one that dotted keys alone have made. -/
def add (key : Key) (v : Value) (origin : Origin) (t : Table) : Option Table :=
  t.update true
    (fun origin t =>
      if (origin = .dotted ↔ key.path = []) ∨ (t.lookup key.name).isSome then none
      else some (t.put key.name v))
    key.path origin

/-- Opens the table of a header. -/
def openTable (key : Key) (t : Table) : Option Table :=
  t.update false
    (fun _ t =>
      match t.lookup key.name with
      | none => some (t.put key.name (.table .header []))
      | some (.table .path inner) => some (t.put key.name (.table .header inner))
      | some _ => none)
    key.path .header

/-- Opens one more of several tables under the same header. -/
def openItem (key : Key) (t : Table) : Option Table :=
  t.update false
    (fun _ t =>
      match t.lookup key.name with
      | none => some (t.put key.name (.tables [[]]))
      | some (.tables items) => some (t.put key.name (.tables (items ++ [[]])))
      | some _ => none)
    key.path .header

/-- The table of the entries between braces. -/
def ofPairs? (pairs : List (Key × Value)) : Option Table :=
  pairs.foldlM (fun t (key, v) => t.add key v .braces) []

end Table

end Socks5.Toml
