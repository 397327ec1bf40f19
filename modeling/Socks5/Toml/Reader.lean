/-!
# `Socks5.Toml.Reader`: reading from the front of a text

A reader takes characters from the front of a text and gives a value, or
fails and takes nothing. `p <|> q` reads with `q` where `p` fails.
-/

set_option autoImplicit false

namespace Socks5.Toml

/-- Reads a value from the front of a text. -/
abbrev Reader (α : Type) := StateT (List Char) Option α

namespace Reader

variable {α β : Type}

/-- Reads one character. -/
def anyChar : Reader Char := fun
  | [] => none
  | c :: cs => some (c, cs)

/-- Reads one character of a class. -/
def satisfy (p : Char → Bool) : Reader Char := do
  let c ← anyChar
  if p c then return c else failure

/-- Reads the given character. -/
def char (c : Char) : Reader Unit := do
  let _ ← satisfy (· == c)

/-- Reads the given word. -/
def word (w : String) : Reader Unit := w.toList.forM char

/-- Reads the longest run of characters of a class, which may be empty. -/
def takeWhile (p : Char → Bool) : Reader (List Char) := fun cs => some (cs.span p)

/-- Reads the longest run of characters of a class, which may not be empty. -/
def takeWhile1 (p : Char → Bool) : Reader (List Char) := do
  let run ← takeWhile p
  if run = [] then failure else return run

/-- Succeeds at the end of the text only. -/
def atEnd : Reader Unit := fun
  | [] => some ((), [])
  | _ => none

/-- Reads up to `n` values. -/
def upTo (p : Reader α) : Nat → Reader (List α)
  | 0 => pure []
  | n + 1 => (do return (← p) :: (← upTo p n)) <|> pure []

/-- Reads values as long as there are any. Each takes a character at
least, so the length of the text bounds their number. -/
def many (p : Reader α) : Reader (List α) := fun cs => upTo p cs.length cs

/-- Reads exactly `n` values. -/
def exactly (n : Nat) (p : Reader α) : Reader (List α) :=
  match n with
  | 0 => pure []
  | n + 1 => do return (← p) :: (← exactly n p)

/-- Reads one or more values with separators between them. -/
def sepBy1 (p : Reader α) (separator : Reader β) : Reader (List α) := do
  return (← p) :: (← many (do let _ ← separator; p))

end Reader

/-! ### Blanks, comments and line ends -/

/-- A blank between the parts of a line. -/
def isBlank (c : Char) : Bool := c == ' ' || c == '\t'

/-- A character that may stand in a comment and, but for the quotes, in a
string: any but the control characters, of which the tab is let in. -/
def isPlain (c : Char) : Bool := c == '\t' || (0x20 ≤ c.toNat && c.toNat != 0x7F)

open Reader

/-- Skips blanks. -/
def blanks : Reader Unit := do
  let _ ← takeWhile isBlank

/-- Reads a line break, with or without a carriage return. -/
def lineBreak : Reader Unit := char '\n' <|> word "\r\n"

/-- Reads a comment up to the end of its line. -/
def comment : Reader Unit := do
  char '#'
  let _ ← takeWhile isPlain

/-- Reads what may follow a complete statement on its line. -/
def restOfLine : Reader Unit := do
  blanks
  let _ ← optional comment
  lineBreak <|> atEnd

/-- Skips blanks, comments and line breaks. -/
def gap : Reader Unit := do
  let _ ← many ((do let _ ← takeWhile1 isBlank) <|> lineBreak <|> comment)

end Socks5.Toml
