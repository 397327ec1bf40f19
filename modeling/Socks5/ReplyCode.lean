import Socks5.Net.IoError

/-!
# `Socks5.ReplyCode`: how a server answers a request

The second byte of a reply says whether the request was granted and, if
not, why. Nine values have a meaning; the others are kept as they are,
so reading is total and writing gives the same byte back.
-/

set_option autoImplicit false

namespace Socks5

open Net

/-- The answer to a request. -/
inductive ReplyCode where
  | succeeded
  | generalFailure
  | connectionNotAllowed
  | networkUnreachable
  | hostUnreachable
  | connectionRefused
  | ttlExpired
  | commandNotSupported
  | addressTypeNotSupported
  /-- A value without a meaning. `ofByte` gives it for 9 and above only. -/
  | unassigned (byte : UInt8)
  deriving Repr, DecidableEq, Inhabited

namespace ReplyCode

/-- Reads the byte of a reply. -/
def ofByte (b : UInt8) : ReplyCode :=
  if b = 0 then .succeeded
  else if b = 1 then .generalFailure
  else if b = 2 then .connectionNotAllowed
  else if b = 3 then .networkUnreachable
  else if b = 4 then .hostUnreachable
  else if b = 5 then .connectionRefused
  else if b = 6 then .ttlExpired
  else if b = 7 then .commandNotSupported
  else if b = 8 then .addressTypeNotSupported
  else .unassigned b

/-- The byte of a reply. -/
def toByte : ReplyCode → UInt8
  | .succeeded => 0
  | .generalFailure => 1
  | .connectionNotAllowed => 2
  | .networkUnreachable => 3
  | .hostUnreachable => 4
  | .connectionRefused => 5
  | .ttlExpired => 6
  | .commandNotSupported => 7
  | .addressTypeNotSupported => 8
  | .unassigned b => b

/-- The codes with a meaning, in the order of their bytes. -/
def assigned : List ReplyCode :=
  [.succeeded, .generalFailure, .connectionNotAllowed, .networkUnreachable, .hostUnreachable,
    .connectionRefused, .ttlExpired, .commandNotSupported, .addressTypeNotSupported]

/-- The table of codes, for a writer: a code that has a meaning is written as its
place in the order. -/
theorem toByte_assigned :
    ∀ i (h : i < assigned.length), assigned[i].toByte = UInt8.ofNat i := by
  decide

/-- The table of codes, for a reader: a byte is read as the code at its place, and
behind the last one as itself. So a code without a meaning is never one of the
nine. -/
theorem ofByte_eq_getD (b : UInt8) : ofByte b = assigned.getD b.toNat (.unassigned b) := by
  by_cases hb : b.toNat < assigned.length
  · have hread : ∀ n < assigned.length,
        ofByte (.ofNat n) = assigned.getD n (.unassigned (.ofNat n)) := by decide
    simpa using hread b.toNat hb
  · have hne : ∀ c : UInt8, c.toNat < assigned.length → b ≠ c := by
      rintro c hc rfl
      exact hb hc
    have hnone : assigned[b.toNat]? = none := List.getElem?_eq_none (Nat.le_of_not_lt hb)
    rw [List.getD_eq_getElem?_getD, hnone]
    simp [ofByte, hne, assigned]

/-- Every byte is read into a code that is written as that byte. So nothing is
lost by reading, and a code without a meaning is passed on as it came. -/
@[simp] theorem toByte_ofByte (b : UInt8) : (ofByte b).toByte = b := by
  unfold ofByte
  repeat' split
  all_goals simp_all [toByte]

/-- Whether the request was granted. -/
def isSuccess (c : ReplyCode) : Bool := c == .succeeded

/-- The meaning of a code in words. -/
def text : ReplyCode → String
  | .succeeded => "succeeded"
  | .generalFailure => "general SOCKS server failure"
  | .connectionNotAllowed => "connection not allowed by ruleset"
  | .networkUnreachable => "network unreachable"
  | .hostUnreachable => "host unreachable"
  | .connectionRefused => "connection refused"
  | .ttlExpired => "TTL expired"
  | .commandNotSupported => "command not supported"
  | .addressTypeNotSupported => "address type not supported"
  | .unassigned b => s!"reply code {b.toNat}"

/-- The code that reports a failed dial or listener most closely. -/
def ofIoError (e : IoError) : ReplyCode :=
  match e.kind with
  | .connectionRefused => .connectionRefused
  | .networkUnreachable => .networkUnreachable
  | .hostUnreachable | .timedOut | .addrNotAvailable | .notFound => .hostUnreachable
  | .permissionDenied => .connectionNotAllowed
  | _ => .generalFailure

/-- The code of an error is one of the nine, so a client reads the code that the
server has chosen, and reads a failure. -/
theorem ofByte_ofIoError (e : IoError) :
    ofByte (ofIoError e).toByte = ofIoError e ∧ (ofIoError e).isSuccess = false := by
  unfold ofIoError
  split <;> exact ⟨rfl, rfl⟩

/-- No error is reported with the byte of a success. -/
theorem toByte_ofIoError_ne (e : IoError) : (ofIoError e).toByte ≠ 0 := by
  unfold ofIoError
  split <;> decide

end ReplyCode

end Socks5
