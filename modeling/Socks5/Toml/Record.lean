import Socks5.Toml.Value

/-!
# `Socks5.Toml.Record`: values as records

A record takes its fields from a table by name or from an array by
position. Fields that are missing have defaults, and what is no field is
not looked at. A moment counts as a record without any field.
-/

set_option autoImplicit false

namespace Socks5.Toml.Value

/-- The text of a value. -/
def text? : Value → Option String
  | .text s => some s
  | _ => none

/-- The truth of a value. -/
def boolean? : Value → Option Bool
  | .boolean b => some b
  | _ => none

/-- The number of a value, if it is an integer and not negative. -/
def natural? : Value → Option Nat
  | .integer n => if 0 ≤ n then some n.toNat else none
  | _ => none

/-- Finds the fields of a record, whose names are given in order. -/
def fields? (names : List String) : Value → Option (String → Option Value)
  | .table _ entries => some fun name => entries.lookup name
  | .array items => some fun name => (names.zip items).lookup name
  | .tables items => some fun name => (names.zip (items.map (.table .header))).lookup name
  | .moment => some fun _ => none
  | _ => none

/-- Reads a field, or takes its default when it is missing. -/
def fieldOr {α : Type} (default : α) (read : Value → Option α) : Option Value → Option α
  | some v => read v
  | none => some default

end Socks5.Toml.Value
