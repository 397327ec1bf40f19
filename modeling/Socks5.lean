import Socks5.Client.Dial
import Socks5.Main
import Socks5.Proofs.Admission
import Socks5.Proofs.Agreement
import Socks5.Proofs.AuthenticatedAccess
import Socks5.Proofs.Buffer
import Socks5.Proofs.Canonical
import Socks5.Proofs.Codec
import Socks5.Proofs.Conservation
import Socks5.Proofs.Deadline
import Socks5.Proofs.Digits
import Socks5.Proofs.Duplex
import Socks5.Proofs.Exit
import Socks5.Proofs.FailStop
import Socks5.Proofs.Format
import Socks5.Proofs.Frame
import Socks5.Proofs.Grammar
import Socks5.Proofs.Handshake
import Socks5.Proofs.ImmediateScripts
import Socks5.Proofs.Limit
import Socks5.Proofs.Literal
import Socks5.Proofs.Lockstep
import Socks5.Proofs.Login
import Socks5.Proofs.Negotiation
import Socks5.Proofs.ObserverEquivalence
import Socks5.Proofs.Order
import Socks5.Proofs.PasswordExchange
import Socks5.Proofs.ReadablePrefix
import Socks5.Proofs.ReaderCompleteness
import Socks5.Proofs.Reading
import Socks5.Proofs.Relay
import Socks5.Proofs.RelayEnding
import Socks5.Proofs.Roundtrip
import Socks5.Proofs.RunsUnderDeadline
import Socks5.Proofs.Schedule
import Socks5.Proofs.Secrecy
import Socks5.Proofs.Segmentation
import Socks5.Proofs.Selection
import Socks5.Proofs.Serve
import Socks5.Proofs.ServedMessages
import Socks5.Proofs.ServerTurns
import Socks5.Proofs.Streaming
import Socks5.Proofs.Transparency
import Socks5.Proofs.Tunnel
import Socks5.Proofs.Utf8
import Socks5.Proofs.WriteCutoff
import Socks5.Session
