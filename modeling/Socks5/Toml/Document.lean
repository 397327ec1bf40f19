import Socks5.Toml.Moment
import Socks5.Toml.Number
import Socks5.Toml.Text
import Socks5.Toml.Value

/-!
# `Socks5.Toml.Document`: from a text to a table

A document is read into lines first: blank ones, entries and headers.
`ofLines?` then builds the table that the lines describe. Arrays and
braces nest less than `nestingLimit` deep and a key has fewer than
`nestingLimit` parts.
-/

set_option autoImplicit false

namespace Socks5.Toml

open Reader

/-- How deep nothing may nest. -/
def nestingLimit : Nat := 80

/-! ### Keys -/

/-- A character that may stand in a key without quotes. -/
def isKeyChar (c : Char) : Bool :=
  c.isAlphanum || c == '_' || c == '-'

/-- Reads one part of a key. -/
def keyPart : Reader String :=
  basicText <|> literalText <|> do return String.ofList (← takeWhile1 isKeyChar)

/-- Reads a key. Blanks may stand around its parts. -/
def key : Reader Key := do
  let parts ← sepBy1 (do blanks; let part ← keyPart; blanks; return part) (char '.')
  match Key.ofParts? parts with
  | some key => if parts.length < nestingLimit then return key else failure
  | none => failure

/-! ### Values -/

/-- Reads a key, an equals sign and a value. -/
def entryOf (value : Reader Value) : Reader (Key × Value) := do
  let k ← key
  char '='
  blanks
  return (k, ← value)

/-- Reads an array. Lines may break anywhere between its items, and a comma
may follow the last one. -/
def arrayOf (value : Reader Value) : Reader Value := do
  char '['
  let items ← optional (do
    let items ← sepBy1 (do gap; let v ← value; gap; return v) (char ',')
    let _ ← optional (char ',')
    return items)
  gap
  char ']'
  return .array (items.getD [])

/-- Reads entries in braces. They stand on one line. -/
def bracesOf (value : Reader Value) : Reader Value := do
  char '\x7b'
  let pairs ← optional (sepBy1 (do let pair ← entryOf value; blanks; return pair) (char ','))
  blanks
  char '\x7d'
  match Table.ofPairs? (pairs.getD []) with
  | some t => return .table .braces t
  | none => failure

/-- Reads a value that holds no others. -/
def plainValue : Reader Value :=
  (.text <$> text)
  <|> (do word "true"; return .boolean true)
  <|> (do word "false"; return .boolean false)
  <|> (do moment; return .moment)
  <|> (do float; return .float)
  <|> (.integer <$> integer)

/-- Reads a value in which arrays and braces nest at most `depth` deep. -/
def value : (depth : Nat) → Reader Value
  | 0 => plainValue
  | depth + 1 => plainValue <|> arrayOf (value depth) <|> bracesOf (value depth)

/-! ### Lines -/

/-- A line of a document. -/
inductive Line where
  /-- Nothing but blanks and a comment. -/
  | empty
  | entry (key : Key) (value : Value)
  /-- A header in brackets. -/
  | table (key : Key)
  /-- A header in double brackets. -/
  | item (key : Key)
  deriving Inhabited

/-- Reads a line. -/
def line : Reader Line := do
  blanks
  (do char '#'; let _ ← takeWhile isPlain; lineBreak <|> atEnd; return .empty)
    <|> (do lineBreak; return .empty)
    <|> (do word "[["; let k ← key; word "]]"; restOfLine; return .item k)
    <|> (do char '['; let k ← key; char ']'; restOfLine; return .table k)
    <|> (do let (k, v) ← entryOf (value (nestingLimit - 1)); restOfLine; return .entry k v)

/-- Reads the lines of a whole text. A byte order mark before them is
skipped. -/
def lines : Reader (List Line) := do
  let _ ← optional (char '\uFEFF')
  let lines ← many line
  blanks
  atEnd
  return lines

/-- What the lines so far have built: the whole table, and the path of the
table that entries go to. -/
structure Draft where
  root : Table := []
  current : List String := []
  deriving Inhabited

/-- Adds a line. -/
def Draft.add (d : Draft) : Line → Option Draft
  | .empty => some d
  | .table key => do
    return { root := ← d.root.openTable key, current := key.path ++ [key.name] }
  | .item key => do
    return { root := ← d.root.openItem key, current := key.path ++ [key.name] }
  | .entry key v => do
    return { d with
      root := ← d.root.update false (fun _ t => t.add key v .header) d.current .header }

/-- The table that lines describe. -/
def ofLines? (lines : List Line) : Option Table :=
  (lines.foldlM Draft.add {}).map Draft.root

/-- The table that a text describes. -/
def parse? (s : String) : Option Table := do
  let (lines, _) ← lines.run s.toList
  ofLines? lines

end Socks5.Toml
