import Socks5.Text.Digits

/-!
# `Socks5.Log.Filter.Pattern`: patterns for the values of fields

A rule of a filter may ask that the value of a field be a number or
match a pattern. No entry of the program has a field with such a value,
so it only matters which values are well formed. In a pattern,
parentheses and brackets are closed, what repeats follows something, the
ends of a range are in order, and an escape needs no table of a script.
-/

set_option autoImplicit false

namespace Socks5.Log.Filter

open Text

/-! ### Symbols -/

/-- A symbol of a pattern. -/
inductive Symbol where
  /-- A character without a backslash. -/
  | plain (c : Char)
  /-- A character that stands for itself only. -/
  | literal (c : Char)
  /-- One of the ends of the text. -/
  | edge
  deriving Repr, DecidableEq, Inhabited

/-- Whether a character stands for itself after a backslash: a sign of
ASCII, but for the ends of a word. -/
def isEscapable (c : Char) : Bool :=
  c.toNat < 0x80 && !c.isAlphanum && c != '<' && c != '>'

/-- The character with a number in hexadecimal digits. -/
def charOfHex? (digits : List Char) : Option Char :=
  match inBase? 16 digits with
  | some n => if n.isValidChar then some (Char.ofNat n) else none
  | none => none

/-- The symbol that a letter or sign after a backslash denotes. -/
def Symbol.ofEscaped? (c : Char) : Option Symbol :=
  match c with
  | 'a' => some (.literal '\x07')
  | 'f' => some (.literal '\x0c')
  | 'n' => some (.literal '\n')
  | 'r' => some (.literal '\r')
  | 't' => some (.literal '\t')
  | 'v' => some (.literal '\x0b')
  | 'A' | 'z' => some .edge
  | c => if isEscapable c then some (.literal c) else none

/-- The symbols of a pattern. -/
def symbols? : List Char → Option (List Symbol)
  | [] => some []
  | '\\' :: 'x' :: a :: b :: cs => do return .literal (← charOfHex? [a, b]) :: (← symbols? cs)
  | '\\' :: 'u' :: a :: b :: c :: d :: cs => do
    return .literal (← charOfHex? [a, b, c, d]) :: (← symbols? cs)
  | '\\' :: 'U' :: a :: b :: c :: d :: e :: f :: g :: h :: cs => do
    return .literal (← charOfHex? [a, b, c, d, e, f, g, h]) :: (← symbols? cs)
  | '\\' :: c :: cs => do return (← Symbol.ofEscaped? c) :: (← symbols? cs)
  | ['\\'] => none
  | c :: cs => do return .plain c :: (← symbols? cs)

/-! ### Classes -/

/-- The character that a symbol denotes inside a class. -/
def Symbol.char? : Symbol → Option Char
  | .plain c | .literal c => some c
  | .edge => none

/-- Reads a class of characters after its opening bracket, up to the end
of the given number of brackets, and gives what follows. `low?` is the
symbol before, if a range may start there. A bracket that closes is plain
at the front of a class. -/
def classEnd? : Nat → Option Char → List Symbol → Option (List Symbol)
  | 0, _, ss => some ss
  | _ + 1, _, [] => none
  | depth + 1, _, .plain ']' :: ss => classEnd? depth none ss
  | depth + 1, _, .plain '[' :: .plain '^' :: .plain ']' :: ss => classEnd? (depth + 2) none ss
  | depth + 1, _, .plain '[' :: .plain '^' :: ss => classEnd? (depth + 2) none ss
  | depth + 1, _, .plain '[' :: .plain ']' :: ss => classEnd? (depth + 2) none ss
  | depth + 1, _, .plain '[' :: ss => classEnd? (depth + 2) none ss
  | depth + 1, _, .plain '-' :: .plain '-' :: ss => classEnd? (depth + 1) none ss
  | depth + 1, some _, .plain '-' :: .plain ']' :: ss => classEnd? depth none ss
  | depth + 1, some low, .plain '-' :: s :: ss =>
    if s.char?.any (low ≤ ·) then classEnd? (depth + 1) none ss else none
  | depth + 1, _, s :: ss => if s = .edge then none else classEnd? (depth + 1) s.char? ss

/-- Reads a class after its opening bracket. -/
def class? : List Symbol → Option (List Symbol)
  | .plain '^' :: .plain ']' :: ss | .plain '^' :: ss | .plain ']' :: ss | ss => classEnd? 1 none ss

/-! ### Groups -/

/-- A letter of the flags that a group may set. The flag that makes case
not matter needs a table of scripts, so it can only be dropped. -/
def isFlag (c : Char) : Bool := ['m', 's', 'U', 'u', 'x', 'R'].contains c

/-- Whether a text names flags to set and, after a dash, flags to drop. -/
def isFlags (cs : List Char) : Bool :=
  match cs.span isFlag with
  | (_, []) => cs.Nodup
  | (set, '-' :: dropped) =>
    dropped != [] && dropped.all (fun c => isFlag c || c == 'i') && (set ++ dropped).Nodup
  | _ => false

/-- Whether a text is the name of a group. -/
def isGroupName : List Char → Bool
  | [] => false
  | c :: cs =>
    (c == '_' || c.isAlpha) && cs.all fun c => c.isAlphanum || ['_', '.', '[', ']'].contains c

/-- The plain character that a symbol is. -/
def Symbol.plain? : Symbol → Option Char
  | .plain c => some c
  | _ => none

/-- Reads the name of a group, and gives what follows its angle bracket. -/
def groupName? (ss : List Symbol) : Option (List Symbol) :=
  match ss.span (· != .plain '>') with
  | (name, _ :: rest) =>
    match name.mapM Symbol.plain? with
    | some cs => if isGroupName cs then some rest else none
    | none => none
  | (_, []) => none

/-- Reads the front of a group after its opening parenthesis: whether it
opens a group, and what follows. A group that only sets flags is closed
at once. -/
def groupFront? : List Symbol → Option (Bool × List Symbol)
  | .plain '?' :: .plain 'P' :: .plain '<' :: ss | .plain '?' :: .plain '<' :: ss =>
    (groupName? ss).map fun rest => (true, rest)
  | .plain '?' :: ss =>
    match ss.span (fun s => s != .plain ':' && s != .plain ')') with
    | (flags, sign :: rest) =>
      match flags.mapM Symbol.plain? with
      | none => none
      | some cs =>
        if !isFlags cs then none
        else if sign = .plain ':' then some (true, rest)
        else if cs = [] then none
        else some (false, rest)
    | (_, []) => none
  | ss => some (true, ss)

/-! ### Patterns -/

/-- Whether the rest of a pattern closes `depth` groups and is well formed,
as seen in so many steps at most. `full` says whether something stands
before that can repeat. -/
def closes : Nat → Nat → Bool → List Symbol → Bool
  | _, depth, _, [] => depth == 0
  | 0, _, _, _ => false
  | steps + 1, depth, full, s :: ss =>
    match s with
    | .plain '[' => (class? ss).any (closes steps depth true)
    | .plain '(' =>
      (groupFront? ss).any fun (opens, rest) =>
        closes steps (if opens then depth + 1 else depth) false rest
    | .plain ')' => depth != 0 && closes steps (depth - 1) true ss
    | .plain '|' => closes steps depth false ss
    | .plain '*' | .plain '+' | .plain '?' => full && closes steps depth true ss
    | .plain '\x7b' => false
    | _ => closes steps depth true ss

/-- Whether a text is a well-formed pattern. Each step takes a symbol. -/
def isPattern (cs : List Char) : Bool :=
  (symbols? cs).any fun ss => closes ss.length 0 false ss

/-! ### Values -/

/-- Whether a text is a number without a sign, in decimal notation or one
of the words for what has none. -/
def isNumber (cs : List Char) : Bool :=
  let (whole, rest) := cs.span Char.isDigit
  let (fraction, rest) :=
    match rest with
    | '.' :: rest => rest.span Char.isDigit
    | rest => ([], rest)
  let hasExponent (cs : List Char) : Bool :=
    match cs with
    | '-' :: cs => (decimal? cs).isSome
    | cs => (decimal? (dropPlus cs)).isSome
  let isDecimal :=
    whole ++ fraction != [] &&
      match rest with
      | [] => true
      | e :: rest => (e == 'e' || e == 'E') && hasExponent rest
  isDecimal || ["inf", "infinity", "nan"].contains (String.ofList (cs.map Char.toLower))

/-- Whether a rule may ask for a value. Of numbers, only those with a plus
sign are no patterns. -/
def isValue (cs : List Char) : Bool :=
  match cs with
  | '+' :: rest => isNumber rest
  | cs => isPattern cs

end Socks5.Log.Filter
