import Socks5.Text.Digits
import Socks5.Toml.Reader

/-!
# `Socks5.Toml.Moment`: dates and times

A moment is a date, a time of day or both. Between date and time stands
a letter or a blank, and a time after a date may have an offset. Days
fit their month and leap years are known.
-/

set_option autoImplicit false

namespace Socks5.Toml

open Reader Text

/-- Reads a number of exactly `n` decimal digits in a range. -/
def numberWithin (n low high : Nat) : Reader Nat := do
  let digits ← exactly n (satisfy Char.isDigit)
  let value := digits.foldl (fun m c => 10 * m + digitValue c) 0
  if low ≤ value ∧ value ≤ high then return value else failure

/-- Whether a year has a 29th of February. -/
def isLeapYear (year : Nat) : Bool := year % 4 == 0 && (year % 100 != 0 || year % 400 == 0)

/-- How many days a month has. -/
def daysInMonth (year month : Nat) : Nat :=
  if month = 2 then if isLeapYear year then 29 else 28
  else if month = 4 ∨ month = 6 ∨ month = 9 ∨ month = 11 then 30
  else 31

/-- Reads a date. -/
def date : Reader Unit := do
  let year ← numberWithin 4 0 9999
  char '-'
  let month ← numberWithin 2 1 12
  char '-'
  let _ ← numberWithin 2 1 (daysInMonth year month)

/-- Reads hours and minutes. -/
def hourAndMinute : Reader Unit := do
  let _ ← numberWithin 2 0 23
  char ':'
  let _ ← numberWithin 2 0 59

/-- Reads a time of day. Its seconds may have a fraction, and a minute may
have a leap second. -/
def timeOfDay : Reader Unit := do
  hourAndMinute
  char ':'
  let _ ← numberWithin 2 0 60
  let _ ← optional (do
    char '.'
    takeWhile1 Char.isDigit)

/-- Reads how far a time is from universal time. -/
def offset : Reader Unit := do
  let c ← satisfy fun c => c == 'Z' || c == 'z' || c == '+' || c == '-'
  if c = '+' ∨ c = '-' then hourAndMinute else return ()

/-- Reads a moment. Its value is not kept. -/
def moment : Reader Unit :=
  (do
    date
    let _ ← optional (do
      let _ ← satisfy fun c => c == 'T' || c == 't' || c == ' '
      timeOfDay
      optional offset))
  <|> timeOfDay

end Socks5.Toml
