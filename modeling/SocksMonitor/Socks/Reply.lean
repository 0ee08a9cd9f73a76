import SocksMonitor.Text.Numeral

/-!
# Reply codes

The REP field of a proxy's reply (RFC 1928, section 6). Codes without a meaning are kept as they
are, so `Reply.code` and `Reply.ofCode` are inverse to each other.
-/

namespace SocksMonitor.Socks

/-- The outcome that a proxy reports for a request. -/
inductive Reply where
  | succeeded
  | generalFailure
  | connectionNotAllowed
  | networkUnreachable
  | hostUnreachable
  | connectionRefused
  | ttlExpired
  | commandNotSupported
  | addressTypeNotSupported
  | unknown (code : UInt8)
deriving Repr, DecidableEq

namespace Reply

def ofCode (code : UInt8) : Reply :=
  match code with
  | 0 => succeeded
  | 1 => generalFailure
  | 2 => connectionNotAllowed
  | 3 => networkUnreachable
  | 4 => hostUnreachable
  | 5 => connectionRefused
  | 6 => ttlExpired
  | 7 => commandNotSupported
  | 8 => addressTypeNotSupported
  | _ => unknown code

def code : Reply → UInt8
  | succeeded => 0
  | generalFailure => 1
  | connectionNotAllowed => 2
  | networkUnreachable => 3
  | hostUnreachable => 4
  | connectionRefused => 5
  | ttlExpired => 6
  | commandNotSupported => 7
  | addressTypeNotSupported => 8
  | unknown code => code

def message : Reply → String
  | succeeded => "succeeded"
  | generalFailure => "general SOCKS server failure"
  | connectionNotAllowed => "connection not allowed by ruleset"
  | networkUnreachable => "network unreachable"
  | hostUnreachable => "host unreachable"
  | connectionRefused => "connection refused by destination host"
  | ttlExpired => "TTL expired"
  | commandNotSupported => "command not supported"
  | addressTypeNotSupported => "address type not supported"
  | unknown code => "unknown reply code 0x" ++ Numeral.byteText code

/-- Every code is kept. -/
theorem code_ofCode (c : UInt8) : (ofCode c).code = c := by
  unfold ofCode
  split <;> rfl

end Reply

end SocksMonitor.Socks
