import Socks5.Config
import Socks5.Toml.Document
import Socks5.Toml.Record

/-!
# `Socks5.Config.Text`: configurations as documents

A configuration is the record `server` of a document, with the listening
address and the record `socks`, which is the policy. Whatever is missing
has its default.
-/

set_option autoImplicit false

namespace Socks5

open Toml

/-- Reads a policy. -/
def Policy.ofValue? (v : Value) : Option Policy := do
  let plain : Policy := {}
  let field ← v.fields? ["auth_required", "username", "password", "allow_bind",
    "handshake_timeout", "connect_timeout"]
  let seconds (default : Nat) := Value.fieldOr default Value.natural?
  let text := Value.fieldOr none fun v => v.text?.map some
  return {
    authRequired := ← Value.fieldOr plain.authRequired Value.boolean? (field "auth_required")
    username := ← text (field "username")
    password := ← text (field "password")
    allowBind := ← Value.fieldOr plain.allowBind Value.boolean? (field "allow_bind")
    handshakeTimeout := ← seconds plain.handshakeTimeout (field "handshake_timeout")
    connectTimeout := ← seconds plain.connectTimeout (field "connect_timeout") }

namespace Config

/-- Reads a configuration from the record `server`. -/
def ofValue? (v : Value) : Option Config := do
  let plain : Config := {}
  let field ← v.fields? ["listen_addr", "socks"]
  return {
    listenAddress := ← Value.fieldOr plain.listenAddress Value.text? (field "listen_addr")
    policy := ← Value.fieldOr plain.policy Policy.ofValue? (field "socks") }

/-- Reads a configuration from a document. -/
def parse? (s : String) : Option Config := do
  let document ← Toml.parse? s
  Value.fieldOr {} ofValue? (document.lookup "server")

end Config

end Socks5
