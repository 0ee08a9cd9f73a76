import SocksMonitor.Net.Endpoint
import SocksMonitor.Text.Blank
import SocksMonitor.Socks.Fault

/-!
# Addresses of a SOCKS5 request

An address is an endpoint or a host name with a port. `Address.read` is the strict `host:port`
reader for proxies and targets: IPv6 literals stand in brackets, the port is a number from 1 to
65535. `Address.encode` writes the ATYP, ADDR and PORT fields of RFC 1928, section 5, in exactly
`Address.encodedLength` bytes.
-/

namespace SocksMonitor.Socks

/-- The ATYP codes of RFC 1928. -/
inductive AddressType where
  | ipv4
  | domain
  | ipv6
deriving Repr, DecidableEq

namespace AddressType

def code : AddressType → UInt8
  | ipv4 => 1
  | domain => 3
  | ipv6 => 4

def ofCode (code : UInt8) : Except Fault AddressType :=
  if code = 1 then .ok ipv4
  else if code = 3 then .ok domain
  else if code = 4 then .ok ipv6
  else .error (.unknownAddressType code)

theorem ofCode_code (t : AddressType) : ofCode t.code = .ok t := by cases t <;> rfl

end AddressType

/-- A destination: an endpoint, or a host name that the proxy is to resolve. -/
inductive Address where
  | socket (endpoint : Net.Endpoint)
  | domain (host : String) (port : UInt16)
deriving DecidableEq

namespace Address

/-- `0.0.0.0:0`, which a client sends with UDP ASSOCIATE while it does not know its own source. -/
def unspecified : Address := socket (.v4 Net.Ipv4.unspecified 0)

def addressType : Address → AddressType
  | socket (.v4 ..) => .ipv4
  | socket (.v6 ..) => .ipv6
  | domain .. => .domain

def isIpv6 (a : Address) : Bool := a.addressType == .ipv6

def port : Address → UInt16
  | socket endpoint => endpoint.port
  | domain _ port => port

/-- `host:port`, with brackets around an IPv6 address. -/
def text : Address → String
  | socket endpoint => String.ofList endpoint.text
  | domain host port => host ++ ":" ++ Numeral.decimalText port.toNat

/-! ## On the wire -/

/-- The largest length that a length byte can say. -/
def maxFieldLength : Nat := 255

def portBytes (port : UInt16) : Bytes := [(port >>> 8).toUInt8, port.toUInt8]

def hostBytes : Address → Bytes
  | socket (.v4 ip _) => ip.octets
  | socket (.v6 ip _ _) => ip.octets
  | domain host _ => UInt8.ofNat (Text.byteLength host) :: Text.utf8 host

/-- ATYP, ADDR and PORT. -/
def encode (a : Address) : Bytes :=
  a.addressType.code :: a.hostBytes ++ portBytes a.port

/-- The number of bytes of ATYP, ADDR and PORT. -/
def encodedLength : Address → Nat
  | socket (.v4 ..) => 1 + 4 + 2
  | socket (.v6 ..) => 1 + 16 + 2
  | domain host _ => 1 + 1 + Text.byteLength host + 2

/-- The length holds for host names of any length, also where the length byte wraps. -/
theorem length_encode (a : Address) : a.encode.length = a.encodedLength := by
  cases a with
  | domain host port => simp [encode, hostBytes, portBytes, encodedLength, Text.byteLength]; omega
  | socket endpoint =>
    cases endpoint <;>
      simp [encode, hostBytes, portBytes, encodedLength, Net.Ipv6.length_octets]

/-! ## Reading -/

/-- The host and port parts. In brackets the host ends at the first `]`; otherwise the last colon
separates them, and the host has neither another colon nor a bracket. -/
def splitHostPort (cs : List Char) : Except Fault (List Char × List Char) :=
  let whole := String.ofList cs
  match cs with
  | '[' :: rest =>
    match Text.splitFirst? ']' rest with
    | none => .error (.missingBracket whole)
    | some (host, ':' :: port) => .ok (host, port)
    | some _ => .error (.missingPort whole)
  | _ =>
    match Text.splitLast? ':' cs with
    | none => .error (.missingPort whole)
    | some (host, port) =>
      if ':' ∈ host then .error (.tooManyColons whole)
      else if '[' ∈ host ∨ ']' ∈ host then .error (.missingBracket whole)
      else .ok (host, port)

/-- A port from 1 to 65535. A plus sign and leading zeros are allowed. -/
def readPort (cs : List Char) : Except Fault UInt16 :=
  match Numeral.readDecimal? (Numeral.dropPlus cs) with
  | some n => if 1 ≤ n ∧ n ≤ 65535 then .ok (UInt16.ofNat n)
    else .error (.invalidPort (String.ofList cs))
  | none => .error (.invalidPort (String.ofList cs))

/-- The endpoint of an IP literal. An IPv4-mapped IPv6 literal stands for its IPv4 address. -/
def readLiteral? (host : List Char) (port : UInt16) : Option Net.Endpoint :=
  match Net.Ipv4.read? host with
  | some ip => some (.v4 ip port)
  | none =>
    match Net.Ipv6.read? host with
    | some ip =>
      match ip.toMapped? with
      | some v4 => some (.v4 v4 port)
      | none => some (.v6 ip 0 port)
    | none => none

/-- The address that a host stands for: an IP literal, or a name of 1 to 255 bytes. -/
def readHost (host : List Char) (port : UInt16) : Except Fault Address :=
  if Text.allBlank host then .error .emptyHost
  else
    match readLiteral? host port with
    | some endpoint => .ok (socket endpoint)
    | none =>
      let name := String.ofList host
      if Text.byteLength name ≤ maxFieldLength then .ok (domain name port)
      else .error (.domainLength (Text.byteLength name))

/-- Reads `host:port`. The port is judged before the host. -/
def read (s : String) : Except Fault Address := do
  let (host, portText) ← splitHostPort s.toList
  let port ← readPort portText
  readHost host port

/-- An IPv6 literal that is read as one carries no IPv4 address. -/
theorem toMapped?_of_readLiteral? {host : List Char} {port port' : UInt16} {ip : Net.Ipv6}
    {scope : UInt32} (h : readLiteral? host port = some (.v6 ip scope port')) :
    ip.toMapped? = none := by
  unfold readLiteral? at h
  split at h
  · cases h
  · split at h
    · split at h
      · cases h
      · next hmapped =>
        cases h
        exact hmapped
    · cases h

theorem readHost_eq_ok_iff {host : List Char} {port : UInt16} {a : Address} :
    readHost host port = .ok a ↔ Text.allBlank host = false ∧
      ((∃ endpoint, readLiteral? host port = some endpoint ∧ a = socket endpoint)
        ∨ (readLiteral? host port = none
          ∧ Text.byteLength (String.ofList host) ≤ maxFieldLength
          ∧ a = domain (String.ofList host) port)) := by
  unfold readHost
  cases hblank : Text.allBlank host with
  | true => simp
  | false =>
      cases hliteral : readLiteral? host port with
      | some endpoint => simp [eq_comm]
      | none =>
          by_cases hlength : Text.byteLength (String.ofList host) ≤ maxFieldLength
          · simp [hlength, eq_comm]
          · simp [hlength]

theorem read_eq_ok_iff {s : String} {a : Address} :
    read s = .ok a ↔ ∃ host portText port, splitHostPort s.toList = .ok (host, portText)
      ∧ readPort portText = .ok port ∧ readHost host port = .ok a := by
  constructor
  · intro h
    unfold read at h
    cases hsplit : splitHostPort s.toList with
    | error fault =>
        rw [hsplit] at h
        cases h
    | ok parts =>
        obtain ⟨host, portText⟩ := parts
        rw [hsplit] at h
        change (readPort portText >>= fun port => readHost host port) = .ok a at h
        cases hport : readPort portText with
        | error fault =>
            rw [hport] at h
            cases h
        | ok port =>
            rw [hport] at h
            exact ⟨host, portText, port, rfl, hport, h⟩
  · rintro ⟨host, portText, port, hsplit, hport, hhost⟩
    rw [read, hsplit]
    change (readPort portText >>= fun port => readHost host port) = .ok a
    rw [hport]
    exact hhost

end Address

end SocksMonitor.Socks
