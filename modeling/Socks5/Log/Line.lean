import Socks5.Log.Entry

/-!
# `Socks5.Log.Line`: how the log is written

An entry takes one line, either as plain text or as a JSON object. In
plain text, characters that would control a terminal are written as
escapes.
-/

set_option autoImplicit false

namespace Socks5.Log

/-- A character inside a JSON string. -/
def jsonChar (c : Char) : List Char :=
  if c = '"' then ['\\', '"']
  else if c = '\\' then ['\\', '\\']
  else if c.toNat < 0x20 then
    let digits := Nat.toDigits 16 c.toNat
    ['\\', 'u'] ++ List.replicate (4 - digits.length) '0' ++ digits
  else [c]

/-- A text as a JSON string. -/
def jsonString (s : String) : String :=
  String.ofList ('"' :: s.toList.flatMap jsonChar ++ ['"'])

/-- A character in plain text. Escaped are the escape character itself, the
bell, those that move back, forward a page or delete, and the second set
of controls. -/
def plainChar (c : Char) : List Char :=
  let hex := Nat.toDigits 16 c.toNat
  if c.toNat = 0x7 ∨ c.toNat = 0x8 ∨ c.toNat = 0xC then ['\\', 'x', '0'] ++ hex
  else if c.toNat = 0x1B ∨ c.toNat = 0x7F then ['\\', 'x'] ++ hex
  else if 0x80 ≤ c.toNat ∧ c.toNat ≤ 0x9F then ['\\', 'u', '\x7b'] ++ hex ++ ['\x7d']
  else [c]

namespace Entry

/-- The text of an entry in plain text. -/
def plainText (e : Entry) : String := String.ofList (e.text.toList.flatMap plainChar)

/-- An entry of a source as plain text. -/
def toLine (e : Entry) (source : String) : String := s!"{e.level.name} {source}: {e.plainText}"

/-- An entry of a source as a JSON object. -/
def toJson (e : Entry) (source : String) : String :=
  let level := jsonString e.level.name
  let fields := s!"\x7b{jsonString Entry.field}:{jsonString e.text}\x7d"
  s!"\x7b\"level\":{level},\"fields\":{fields},\"target\":{jsonString source}\x7d"

end Entry

end Socks5.Log
