import SocksMonitor.Socks.Message

/-!
# The server's side of the wire

A reader for what a client sends, written from the message formats of RFC 1928 and RFC 1929 and not
from the encoders: every field is taken off the front of the bytes, and what comes behind it is
handed on. `speech?` reads all that a client says on one connection. A server need not remember
what it has answered in order to read on, since the username/password message has a version byte
of its own.

For each message there is one lemma of the same shape: reading an encoding with any bytes behind
it gives the fields back and leaves exactly those bytes. Lengths are one byte, so these lemmas ask
for fields of at most 255 bytes; `fits_of_read` shows that an address that was read from a text
has no longer ones.
-/

namespace SocksMonitor.Socks

namespace Server

/-! ## Reading -/

/-- Takes so many bytes. -/
def take? (count : Nat) (bytes : Bytes) : Option (Bytes × Bytes) :=
  if count ≤ bytes.length then some (bytes.take count, bytes.drop count) else none

/-- Takes a length byte and as many bytes as it says. -/
def field? : Bytes → Option (Bytes × Bytes)
  | [] => none
  | length :: bytes => take? length.toNat bytes

/-- VER, NMETHODS and METHODS: the methods that the client offers. -/
def methods? : Bytes → Option (Bytes × Bytes)
  | [] => none
  | ver :: bytes => if ver = 0x05 then field? bytes else none

/-- VER, ULEN, UNAME, PLEN and PASSWD: username and password. -/
def credentials? : Bytes → Option ((Bytes × Bytes) × Bytes)
  | [] => none
  | ver :: bytes =>
      if ver = 0x01 then do
        let (username, bytes) ← field? bytes
        let (password, bytes) ← field? bytes
        return ((username, password), bytes)
      else none

/-- The commands of RFC 1928. -/
inductive Command where
  | connect
  | bind
  | udpAssociate
deriving Repr, DecidableEq

def Command.ofByte? (byte : UInt8) : Option Command :=
  if byte = 0x01 then some .connect
  else if byte = 0x02 then some .bind
  else if byte = 0x03 then some .udpAssociate
  else none

/-- Where a client wants to go: for a domain the host is the name without its length byte. -/
structure Destination where
  kind : AddressType
  host : Bytes
  port : Nat
deriving Repr, DecidableEq

/-- ATYP and DST.ADDR. -/
def host? : Bytes → Option ((AddressType × Bytes) × Bytes)
  | [] => none
  | atyp :: bytes =>
      if atyp = 0x01 then (take? 4 bytes).map fun (host, bytes) => ((.ipv4, host), bytes)
      else if atyp = 0x03 then (field? bytes).map fun (host, bytes) => ((.domain, host), bytes)
      else if atyp = 0x04 then (take? 16 bytes).map fun (host, bytes) => ((.ipv6, host), bytes)
      else none

/-- DST.PORT, the high byte first. -/
def port? : Bytes → Option (Nat × Bytes)
  | high :: low :: bytes => some (high.toNat * 256 + low.toNat, bytes)
  | _ => none

/-- ATYP, DST.ADDR and DST.PORT. -/
def destination? (bytes : Bytes) : Option (Destination × Bytes) := do
  let ((kind, host), bytes) ← host? bytes
  let (port, bytes) ← port? bytes
  return (⟨kind, host, port⟩, bytes)

/-- A request, as the server understands it. -/
structure Request where
  command : Command
  destination : Destination
deriving Repr, DecidableEq

/-- VER, CMD, RSV and the destination. -/
def request? : Bytes → Option (Request × Bytes)
  | ver :: cmd :: rsv :: bytes =>
      if ver = 0x05 ∧ rsv = 0x00 then do
        let command ← Command.ofByte? cmd
        let (destination, bytes) ← destination? bytes
        return (⟨command, destination⟩, bytes)
      else none
  | _ => none

/-- Requests up to the end of the bytes. -/
def requests? (bytes : Bytes) : Option (List Request) :=
  if bytes = [] then some []
  else
    match request? bytes with
    | none => none
    | some (request, rest) =>
        -- always so, since a request has a version byte; asked here for the recursion alone
        if rest.length < bytes.length then (requests? rest).map (request :: ·) else none
termination_by bytes.length

/-- All that a client says on a connection. -/
structure Speech where
  methods : Bytes
  /-- Username and password, if the client has sent them. -/
  credentials : Option (Bytes × Bytes)
  requests : List Request
deriving Repr, DecidableEq

/-- The username/password message, if that is what comes next. -/
def negotiation? (bytes : Bytes) : Option (Option (Bytes × Bytes) × Bytes) :=
  if bytes.head? = some 0x01 then (credentials? bytes).map fun (pair, bytes) => (some pair, bytes)
  else some (none, bytes)

/-- Reads all that a client says. No byte may be left over. -/
def speech? (bytes : Bytes) : Option Speech := do
  let (methods, bytes) ← methods? bytes
  let (credentials, bytes) ← negotiation? bytes
  let requests ← requests? bytes
  return ⟨methods, credentials, requests⟩

/-! ## What the server should understand -/

/-- The command behind a client's command. -/
def Command.of : Socks.Command → Command
  | .connect => .connect
  | .udpAssociate => .udpAssociate

/-- The fields of an address: its type, its octets or the bytes of its name, and its port. -/
def Destination.of : Address → Destination
  | .socket (.v4 ip port) => ⟨.ipv4, ip.octets, port.toNat⟩
  | .socket (.v6 ip _ port) => ⟨.ipv6, ip.octets, port.toNat⟩
  | .domain host port => ⟨.domain, Text.utf8 host, port.toNat⟩

/-- Username and password as bytes. -/
def pairOf (c : Credentials) : Bytes × Bytes := (Text.utf8 c.username, Text.utf8 c.password)

end Server

/-- The length byte of a host name can say its length. -/
def Address.Fits : Address → Prop
  | .socket _ => True
  | .domain host _ => Text.byteLength host ≤ Address.maxFieldLength

/-- An address that was read from a text has a length byte that can say its length. -/
theorem fits_of_read {s : String} {a : Address} (h : Address.read s = .ok a) : a.Fits := by
  obtain ⟨host, -, port, -, -, hhost⟩ := Address.read_eq_ok_iff.mp h
  obtain ⟨-, ⟨endpoint, -, rfl⟩ | ⟨-, hlength, rfl⟩⟩ := Address.readHost_eq_ok_iff.mp hhost
  · trivial
  · exact hlength

theorem lengths_of_checkCredentials {c : Credentials} (h : checkCredentials c = .ok ()) :
    Text.byteLength c.username ≤ 255 ∧ Text.byteLength c.password ≤ 255 := by
  unfold checkCredentials at h
  split at h
  · next hlengths => exact hlengths
  · cases h

/-- A length byte says every length up to its limit. -/
theorem toNat_lengthByte {n : Nat} (h : n ≤ 255) : (UInt8.ofNat n).toNat = n := by
  rw [UInt8.toNat_ofNat']
  omega

namespace Server

/-! ## Reading back what was written -/

theorem take?_append {front rest : Bytes} {count : Nat} (hwidth : front.length = count) :
    take? count (front ++ rest) = some (front, rest) := by
  subst hwidth
  simp [take?]

theorem field?_counted {field : Bytes} (hlength : field.length ≤ 255) (rest : Bytes) :
    field? (counted field ++ rest) = some (field, rest) := by
  show take? (UInt8.ofNat field.length).toNat (field ++ rest) = _
  rw [toNat_lengthByte hlength]
  exact take?_append rfl

theorem methods?_greeting (withCredentials : Bool) (rest : Bytes) :
    methods? (greeting withCredentials ++ rest) =
      some (Method.offered withCredentials, rest) := by
  have hlength : (Method.offered withCredentials).length ≤ 255 := by
    cases withCredentials <;> decide
  exact field?_counted hlength rest

theorem credentials?_userPassMessage {c : Credentials} (hfits : checkCredentials c = .ok ())
    (rest : Bytes) : credentials? (userPassMessage c ++ rest) = some (pairOf c, rest) := by
  obtain ⟨husername, hpassword⟩ := lengths_of_checkCredentials hfits
  simp only [userPassMessage, List.cons_append, List.append_assoc, credentials?,
    userPassVersion, if_true, field?_counted husername, Option.bind_eq_bind, Option.bind_some,
    field?_counted hpassword]
  rfl

theorem port?_portBytes (port : UInt16) (rest : Bytes) :
    port? (Address.portBytes port ++ rest) = some (port.toNat, rest) := by
  obtain ⟨hhigh, hlow⟩ := Net.Ipv6.toNat_octets port
  simp only [Address.portBytes, List.cons_append, List.nil_append, port?, hhigh, hlow]
  congr 2
  omega

theorem host?_encode {a : Address} (hfits : a.Fits) (rest : Bytes) :
    host? (a.addressType.code :: (a.hostBytes ++ rest)) =
      some (((Destination.of a).kind, (Destination.of a).host), rest) := by
  cases a with
  | domain host port =>
      have hname : field? (UInt8.ofNat (Text.byteLength host) :: (Text.utf8 host ++ rest)) =
          some (Text.utf8 host, rest) := field?_counted hfits rest
      simp [host?, Address.addressType, AddressType.code, Address.hostBytes, hname,
        Destination.of]
  | socket endpoint =>
      cases endpoint with
      | v4 ip port =>
          have hip : take? 4 (ip.octets ++ rest) = some (ip.octets, rest) := take?_append rfl
          simp [host?, Address.addressType, AddressType.code, Address.hostBytes, hip,
            Destination.of]
      | v6 ip scope port =>
          have hip : take? 16 (ip.octets ++ rest) = some (ip.octets, rest) :=
            take?_append (Net.Ipv6.length_octets ip)
          simp [host?, Address.addressType, AddressType.code, Address.hostBytes, hip,
            Destination.of]

theorem destination?_encode {a : Address} (hfits : a.Fits) (rest : Bytes) :
    destination? (a.encode ++ rest) = some (Destination.of a, rest) := by
  have hport : a.port.toNat = (Destination.of a).port := by
    rcases a with (_ | _) | _ <;> rfl
  simp only [destination?, Address.encode, List.cons_append, List.append_assoc,
    host?_encode hfits, Option.bind_eq_bind, Option.bind_some, port?_portBytes, hport]
  rfl

theorem request?_request (command : Socks.Command) {a : Address} (hfits : a.Fits)
    (rest : Bytes) :
    request? (Socks.request command a ++ rest) =
      some (⟨.of command, Destination.of a⟩, rest) := by
  have hcommand : Command.ofByte? command.code = some (.of command) := by
    cases command <;> rfl
  simp only [Socks.request, List.cons_append, request?, Socks.version, and_self, if_true,
    hcommand, destination?_encode hfits, Option.bind_eq_bind, Option.bind_some]
  rfl

/-- Requests one behind another are read one after another. -/
theorem requests?_flatMap (asked : List (Socks.Command × Address))
    (hfits : ∀ r ∈ asked, r.2.Fits) :
    requests? (asked.flatMap fun r => Socks.request r.1 r.2) =
      some (asked.map fun r => ⟨.of r.1, Destination.of r.2⟩) := by
  induction asked with
  | nil => simp [requests?]
  | cons r asked ih =>
      obtain ⟨hfirst, hothers⟩ := List.forall_mem_cons.mp hfits
      rw [List.flatMap_cons, requests?, if_neg (by simp [Socks.request]),
        request?_request r.1 hfirst]
      have hshorter : (asked.flatMap fun r => Socks.request r.1 r.2).length <
          (Socks.request r.1 r.2 ++ asked.flatMap fun r => Socks.request r.1 r.2).length := by
        rw [List.length_append]
        exact Nat.lt_add_of_pos_left (by simp [Socks.request])
      simp only [if_pos hshorter, ih hothers, Option.map_some, List.map_cons]

theorem negotiation?_userPassMessage {c : Credentials} (hfits : checkCredentials c = .ok ())
    (rest : Bytes) :
    negotiation? (userPassMessage c ++ rest) = some (some (pairOf c), rest) := by
  have hhead : (userPassMessage c ++ rest).head? = some 0x01 := rfl
  rw [negotiation?, if_pos hhead, credentials?_userPassMessage hfits]
  rfl

/-- A request is not taken for credentials. -/
theorem negotiation?_requests (asked : List (Socks.Command × Address)) :
    negotiation? (asked.flatMap fun r => Socks.request r.1 r.2) =
      some (none, asked.flatMap fun r => Socks.request r.1 r.2) := by
  cases asked with
  | nil => rfl
  | cons r asked => rfl

/-- The server understands a greeting, credentials if there are any, and requests. -/
theorem speech?_messages (withCredentials : Bool) (told : Option Credentials)
    (asked : List (Socks.Command × Address))
    (htold : ∀ c, told = some c → checkCredentials c = .ok ()) (hasked : ∀ r ∈ asked, r.2.Fits) :
    speech? (greeting withCredentials ++ (told.elim [] userPassMessage
        ++ asked.flatMap fun r => Socks.request r.1 r.2)) =
      some ⟨Method.offered withCredentials, told.map pairOf,
        asked.map fun r => ⟨.of r.1, Destination.of r.2⟩⟩ := by
  have hnegotiation : negotiation? (told.elim [] userPassMessage
        ++ asked.flatMap fun r => Socks.request r.1 r.2) =
      some (told.map pairOf, asked.flatMap fun r => Socks.request r.1 r.2) := by
    cases told with
    | none => exact negotiation?_requests asked
    | some c => exact negotiation?_userPassMessage (htold c rfl) _
  simp only [speech?, methods?_greeting, hnegotiation, requests?_flatMap asked hasked,
    Option.bind_eq_bind, Option.bind_some]
  rfl

end Server

end SocksMonitor.Socks
