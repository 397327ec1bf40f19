import Socks5.Text.Digits
import Socks5.Toml.Reader

/-!
# `Socks5.Toml.Text`: strings

A string stands between quotes or between apostrophes. Between quotes a
backslash starts an escape; between apostrophes it is a character like
any other. Tripled, both kinds may run over several lines: a line break
right after the opening is dropped, and up to two more quotes may stand
before the closing ones.
-/

set_option autoImplicit false

namespace Socks5.Toml

open Reader Text

/-- Reads a character given by `n` hexadecimal digits. -/
def codePoint (n : Nat) : Reader Char := do
  let digits ← exactly n (do
    match hexDigit? (← anyChar) with
    | some d => return d
    | none => failure)
  let code := digits.foldl (fun n d => 16 * n + d) 0
  if code.isValidChar then return Char.ofNat code else failure

/-- Reads what follows a backslash. -/
def escaped : Reader Char := do
  match ← anyChar with
  | 'b' => return '\x08'
  | 't' => return '\t'
  | 'n' => return '\n'
  | 'f' => return '\x0c'
  | 'r' => return '\r'
  | '"' => return '"'
  | '\\' => return '\\'
  | 'u' => codePoint 4
  | 'U' => codePoint 8
  | _ => failure

/-- Reads a character between quotes. -/
def basicChar : Reader Char :=
  satisfy (fun c => isPlain c && c != '"' && c != '\\') <|> do
    char '\\'
    escaped

/-- Reads a character between apostrophes. -/
def literalChar : Reader Char := satisfy fun c => isPlain c && c != '\''

/-- Reads a string between quotes on one line. -/
def basicText : Reader String := do
  char '"'
  let cs ← many basicChar
  char '"'
  return String.ofList cs

/-- Reads a string between apostrophes on one line. -/
def literalText : Reader String := do
  char '\''
  let cs ← many literalChar
  char '\''
  return String.ofList cs

/-! ### Strings over several lines -/

/-- Reads one or two quotes that do not close the string. -/
def innerQuotes (quote : Char) : Reader (List Char) := do
  let run ← takeWhile1 (· == quote)
  if run.length ≤ 2 then return run else failure

/-- Reads the closing quotes, and gives those before the last three. -/
def closingQuotes (quote : Char) : Reader (List Char) := do
  let run ← takeWhile1 (· == quote)
  if 3 ≤ run.length ∧ run.length ≤ 5 then return run.drop 3 else failure

/-- Reads a line break of a string. It counts as a line feed. -/
def innerBreak : Reader (List Char) := do
  lineBreak
  return ['\n']

/-- Reads a backslash at the end of a line, with all blanks and line
breaks after it. They are no part of the string. -/
def continuation : Reader (List Char) := do
  char '\\'
  blanks
  lineBreak
  let _ ← many ((do let _ ← takeWhile1 isBlank) <|> lineBreak)
  return []

/-- Reads a string between tripled quotes of one kind. -/
def tripled (quote : Char) (part : Reader (List Char)) : Reader String := do
  let _ ← exactly 3 (char quote)
  let _ ← optional lineBreak
  let parts ← many (innerQuotes quote <|> innerBreak <|> part)
  let last ← closingQuotes quote
  return String.ofList (parts.flatten ++ last)

/-- Reads a string between tripled quotes. -/
def longBasicText : Reader String :=
  tripled '"' (continuation <|> do return [← basicChar])

/-- Reads a string between tripled apostrophes. -/
def longLiteralText : Reader String :=
  tripled '\'' (do return [← literalChar])

/-- Reads a string of any kind. -/
def text : Reader String := longBasicText <|> basicText <|> longLiteralText <|> literalText

end Socks5.Toml
