import Socks5.Negotiation
import Socks5.Policy
import Socks5.Reply

/-!
# `Socks5.Server`: one connection from greeting to tunnel

The server negotiates, reads one request and carries it out: it dials
the target, or listens and accepts one peer, and replies. The dialogue
ends with the tunnel open or with the error that closes the connection.

Greeting and authentication share one deadline, the request has a fresh
one, and so have the dial and the wait for a peer. A failure before the
request has been read closes the connection without a reply. A later one
is reported with the closest code; if even that cannot be sent, the
first failure still is the one that counts.
-/

set_option autoImplicit false

namespace Socks5

open Net

namespace Server

/-- A number of seconds in words. -/
def secondsText (n : Nat) : String := if n = 0 then "0ns" else s!"{n}s"

/-- Writes to the log and goes on. -/
def log {α : Type} (level : Log.Level) (text : String) (next : Dialogue α) : Dialogue α :=
  .note { level, text } next

/-- Runs a step of the negotiation under a deadline. -/
def withDeadline {α : Type} (seconds : Nat) (step : String) (x : Exchange α) : Service α :=
  ExceptT.mk <| .within seconds
    (.done (.error (.timeout s!"{step} not completed within {secondsText seconds}")))
    (x.run.bind fun
      | .ok a => .release (.done (.ok a))
      | .error e => .release (.done (.error (.protocol e))))

/-- Tells the client that its request failed, as well as can be, and ends
with the given error. -/
def failWith (code : ReplyCode) (e : ServiceError) : Dialogue (Except ServiceError Unit) :=
  (Reply.failure code).send.run.bind fun
    | .ok () => .done (.error e)
    | .error fault =>
      log .debug s!"Could not send '{code.text}' reply: {fault.message}" (.done (.error e))

/-- Tells the client that its request is granted and goes on. -/
def grant (bound : Endpoint) (next : Dialogue (Except ServiceError Unit)) :
    Dialogue (Except ServiceError Unit) :=
  (Reply.success (.ip bound)).send.run.bind fun
    | .ok () => next
    | .error e => .done (.error (.protocol e))

/-- Carries out a CONNECT: dials the target and reports the local endpoint. -/
def connect (policy : Policy) (target : Address) : Dialogue (Except ServiceError Unit) :=
  .within policy.connectTimeout
    (log .error s!"Connection timeout to {target.toText}"
      (failWith .hostUnreachable (.timeout s!"connect to {target.toText}")))
    (.dial target fun
      | .ok bound => .release <|
        grant bound (log .info s!"SOCKS5 tunnel established to {target.toText}" (.done (.ok ())))
      | .error e => .release <|
        let code := ReplyCode.ofIoError e
        log .error s!"Failed to connect to {target.toText}: {e.message} ({code.text})"
          (failWith code (.io e)))

/-- Whether a peer may use a listener that was opened for a target. A name
and an unspecified address let anyone in. -/
def peerAllowed (target : Address) (peer : Endpoint) : Bool :=
  match target with
  | .ip e => e.ip.isUnspecified || e.ip == peer.ip
  | .name .. => true

/-- Lets the peer of a BIND in, or refuses it. -/
def welcome (target : Address) (peer : Endpoint) : Dialogue (Except ServiceError Unit) :=
  if peerAllowed target peer then
    grant peer
      (log .info s!"SOCKS5 BIND tunnel established with {peer.toText}" (.done (.ok ())))
  else
    log .warn s!"BIND peer {peer.toText} does not match requested {target.toText}"
      (failWith .connectionNotAllowed (.protocol (.rejected .connectionNotAllowed)))

/-- Carries out a BIND: reports where the server listens, accepts one peer
and reports it too. -/
def bind (policy : Policy) (target : Address) : Dialogue (Except ServiceError Unit) :=
  .listen target fun
    | .error e =>
      log .error s!"Failed to open BIND listener: {e.message}"
        (failWith (.ofIoError e) (.io e))
    | .ok bound =>
      grant bound <| log .debug s!"BIND listening on {bound.toText} for {target.toText}" <|
        .within policy.connectTimeout
          (log .warn s!"No inbound connection on {bound.toText} before deadline"
            (failWith .ttlExpired (.timeout s!"BIND accept on {bound.toText}")))
          (.accept fun
            | .ok peer => .release (welcome target peer)
            | .error e => .release <|
              log .error s!"BIND accept failed: {e.message}"
                (failWith .generalFailure (.io e)))

/-- Refuses a command that is known but not served. -/
def refuse (command : Command) : Dialogue (Except ServiceError Unit) :=
  log .warn s!"{command.text} command not supported"
    (failWith .commandNotSupported (.protocol (.commandNotSupported command.toByte)))

/-- Carries out a request. -/
def perform (policy : Policy) (request : Request) : Dialogue (Except ServiceError Unit) :=
  log .info s!"SOCKS5 {request.command.text} request to {request.address.toText}" <|
    match request.command with
    | .connect => connect policy request.address
    | .bind => if policy.allowBind then bind policy request.address else refuse .bind
    | .udpAssociate => refuse .udpAssociate

/-- Ends the connection of a client whose request could not be read. -/
def rejectRequest : ServiceError → Dialogue (Except ServiceError Unit)
  | .protocol e =>
    match e.reply? with
    | some code => failWith code (.protocol e)
    | none => .done (.error (.protocol e))
  | e => .done (.error e)

/-- Serves one connection up to the open tunnel. -/
def serve (policy : Policy) : Dialogue (Except ServiceError Unit) :=
  (withDeadline policy.handshakeTimeout "greeting" (Negotiation.negotiate policy)).run.bind fun
    | .error e => .done (.error e)
    | .ok method =>
      log .debug s!"Authentication completed with method: {method.name}" <|
        (withDeadline policy.handshakeTimeout "request" Request.read).run.bind fun
          | .error e => rejectRequest e
          | .ok request => perform policy request

end Server

end Socks5
