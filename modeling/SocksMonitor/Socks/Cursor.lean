import SocksMonitor.Socks.Message
import SocksMonitor.Socks.Reply

/-!
# Messages of the proxy

Decoders for what a proxy sends. A decoder gets the bytes at hand and gives its result with the
bytes that are left. It takes nothing while its message is incomplete, so it can run again once
more bytes have arrived; it takes the version byte alone if that is wrong.
-/

namespace SocksMonitor.Socks

/-- A reader at the front of the bytes at hand. -/
abbrev Decoder (α : Type) := Bytes → Except Fault α × Bytes

/-- The fixed part of a reply: VER, REP, RSV and ATYP. -/
structure ReplyHeader where
  reply : Reply
  atyp : UInt8
deriving Repr, DecidableEq

namespace Decoder

/-- VER and METHOD: the method that the proxy has selected. -/
def methodSelection : Decoder UInt8
  | ver :: method :: rest =>
    if ver = version then (.ok method, rest) else (.error (.unexpectedVersion ver), method :: rest)
  | bytes => (.error .tooShort, bytes)

/-- VER and STATUS of RFC 1929: whether the proxy accepts the credentials. -/
def userPassReply : Decoder Bool
  | ver :: status :: rest =>
    if ver = userPassVersion then (.ok (status == 0x00), rest)
    else (.error (.unexpectedVersion ver), status :: rest)
  | bytes => (.error .tooShort, bytes)

/-- VER, REP, RSV and ATYP. The reserved byte and the type are taken as they come. -/
def replyHeader : Decoder ReplyHeader
  | ver :: rep :: rsv :: atyp :: rest =>
    if ver = version then (.ok ⟨Reply.ofCode rep, atyp⟩, rest)
    else (.error (.unexpectedVersion ver), rep :: rsv :: atyp :: rest)
  | bytes => (.error .tooShort, bytes)

end Decoder

/-- What follows a reply header: BND.ADDR and BND.PORT. -/
inductive BoundAddress where
  | fixed (bytes : Nat)
  /-- A length byte, and then as many bytes as `boundDomainLength` says. -/
  | lengthPrefixed
deriving Repr, DecidableEq

/-- The form of the bound address for an ATYP code. -/
def boundAddress (atyp : UInt8) : Except Fault BoundAddress :=
  match AddressType.ofCode atyp with
  | .ok .ipv4 => .ok (.fixed (4 + 2))
  | .ok .ipv6 => .ok (.fixed (16 + 2))
  | .ok .domain => .ok .lengthPrefixed
  | .error fault => .error fault

/-- The bytes behind the length byte of a bound host name: the name and the port. -/
def boundDomainLength (length : UInt8) : Except Fault Nat :=
  if length = 0 then .error .emptyBoundDomain else .ok (length.toNat + 2)

end SocksMonitor.Socks
