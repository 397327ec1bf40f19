import Socks5.Text.Unprintable

/-!
# `Socks5.Text.Quoted`: texts between double quotes

A quoted text stands between double quotes. A double quote and a
backslash are written after a backslash, four control characters have
a letter each, and any other unprintable character is written as its
code point in hexadecimal between braces.
-/

set_option autoImplicit false

namespace Socks5.Text

/-- A character by its code point. -/
def codePoint (c : Char) : List Char :=
  ['\\', 'u', '\x7b'] ++ Nat.toDigits 16 c.toNat ++ ['\x7d']

/-- A character inside a quoted text. -/
def escape (c : Char) : List Char :=
  if c = '\x00' then ['\\', '0']
  else if c = '\t' then ['\\', 't']
  else if c = '\r' then ['\\', 'r']
  else if c = '\n' then ['\\', 'n']
  else if c = '"' then ['\\', '"']
  else if c = '\\' then ['\\', '\\']
  else if isUnprintable c then codePoint c
  else [c]

/-- A text between double quotes. -/
def quoted (s : String) : String :=
  String.ofList ('"' :: s.toList.flatMap escape ++ ['"'])

end Socks5.Text
