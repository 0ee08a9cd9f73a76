import SocksMonitor.Text.Quoted

/-!
# Faults of SOCKS5 texts and messages

What can be wrong with an address text, with credentials, or with a message of the proxy. The
wording is in `Fault.message`; which fault arises where is decided by `Socks/Address.lean`,
`Socks/Message.lean` and `Socks/Cursor.lean`.
-/

namespace SocksMonitor.Socks

/-- The cause for which an address, credentials or a message are refused. -/
inductive Fault where
  | missingPort (address : String)
  | tooManyColons (address : String)
  | missingBracket (address : String)
  | invalidPort (port : String)
  | emptyHost
  /-- A host name longer than its length byte can say. -/
  | domainLength (bytes : Nat)
  | credentialTooLong
  | unexpectedVersion (version : UInt8)
  | unknownAddressType (code : UInt8)
  /-- A bound address of type domain whose length byte is zero. -/
  | emptyBoundDomain
  | tooShort
deriving Repr, DecidableEq

namespace Fault

def message : Fault → String
  | missingPort address => "missing port in address " ++ Text.quoted address
  | tooManyColons address => "too many colons in address " ++ Text.quoted address
  | missingBracket address => "missing ']' in address " ++ Text.quoted address
  | invalidPort port => "invalid port " ++ Text.quoted port
  | emptyHost => "empty host"
  | domainLength bytes => "invalid domain length: " ++ Numeral.decimalText bytes
  | credentialTooLong => "username/password too long (max 255 bytes each)"
  | unexpectedVersion version => "unexpected version 0x" ++ Numeral.byteText version
  | unknownAddressType code => "unknown reply ATYP: 0x" ++ Numeral.byteText code
  | emptyBoundDomain => "invalid domain length in reply"
  | tooShort => "message too short"

end Fault

end SocksMonitor.Socks
