import Socks5.Bytes
import Socks5.Text.Quoted

/-!
# `Socks5.Credentials`: a user name with a password

Both travel behind a length byte and must hold at least one byte, so
each has 1 to 255 bytes. The shown form names the user and never the
password.
-/

set_option autoImplicit false

namespace Socks5

/-- A user name with a password. -/
structure Credentials where
  username : String
  password : String
  deriving DecidableEq, Inhabited

namespace Credentials

/-- Whether the bytes of a field fit behind a length byte and are not empty. -/
def fits (field : String) : Bool := 1 ≤ (utf8 field).length && (utf8 field).length ≤ 255

/-- The shown form on one line. -/
def toText (c : Credentials) : String :=
  s!"Credentials \x7b username: {Text.quoted c.username}, password: \"<redacted>\" \x7d"

/-- The shown form with a line for each field. -/
def toLines (c : Credentials) : String :=
  s!"Credentials \x7b\n    username: {Text.quoted c.username},\n    password: \"<redacted>\",\n\x7d"

end Credentials

end Socks5
