import SocksMonitor.Socks.Address

/-!
# Messages of the client

The four messages that a client sends: the greeting and the request of RFC 1928, and the
username/password message of RFC 1929. Every length is one byte. `checkCredentials` keeps the
credentials below its limit; the greeting and the request need no check.
-/

namespace SocksMonitor.Socks

/-- The version byte of RFC 1928. -/
def version : UInt8 := 0x05

/-- The version byte of RFC 1929. -/
def userPassVersion : UInt8 := 0x01

namespace Method

def noAuth : UInt8 := 0x00

def userPass : UInt8 := 0x02

/-- What a server selects when it accepts none of the offered methods. -/
def noneAcceptable : UInt8 := 0xFF

/-- The methods that a client offers: always "no authentication", and "username and password" if
it has credentials. -/
def offered (withCredentials : Bool) : Bytes :=
  if withCredentials then [noAuth, userPass] else [noAuth]

end Method

structure Credentials where
  username : String
  password : String
deriving Repr, DecidableEq

inductive Command where
  | connect
  | udpAssociate
deriving Repr, DecidableEq

/-- The CMD code of RFC 1928. -/
def Command.code : Command → UInt8
  | .connect => 0x01
  | .udpAssociate => 0x03

def counted (bytes : Bytes) : Bytes := UInt8.ofNat bytes.length :: bytes

/-- VER, NMETHODS, METHODS. -/
def greeting (withCredentials : Bool) : Bytes :=
  version :: counted (Method.offered withCredentials)

def checkCredentials (c : Credentials) : Except Fault Unit :=
  if Text.byteLength c.username ≤ Address.maxFieldLength
      ∧ Text.byteLength c.password ≤ Address.maxFieldLength then .ok ()
  else .error .credentialTooLong

/-- VER, ULEN, UNAME, PLEN, PASSWD. -/
def userPassMessage (c : Credentials) : Bytes :=
  userPassVersion :: counted (Text.utf8 c.username) ++ counted (Text.utf8 c.password)

/-- Appends the username/password message to a buffer, which stays as it is when the credentials
do not fit. -/
def writeUserPass (c : Credentials) (buffer : Bytes) : Except Fault Unit × Bytes :=
  match checkCredentials c with
  | .ok () => (.ok (), buffer ++ userPassMessage c)
  | .error fault => (.error fault, buffer)

/-- VER, CMD, RSV, and the address. -/
def request (command : Command) (address : Address) : Bytes :=
  version :: command.code :: 0x00 :: address.encode

end SocksMonitor.Socks
