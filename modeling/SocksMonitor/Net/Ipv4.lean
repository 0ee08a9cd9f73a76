import SocksMonitor.Text.Utf8
import SocksMonitor.Text.Split
import SocksMonitor.Text.Numeral

/-!
# IPv4 addresses

The dotted text of an address is four decimal parts without leading zeros. `Net/Ipv6.lean` embeds
it in the last two groups of an IPv6 literal.
-/

namespace SocksMonitor.Net

/-- The four octets of an IPv4 address, in network order. -/
structure Ipv4 where
  a : UInt8
  b : UInt8
  c : UInt8
  d : UInt8
deriving Repr, DecidableEq

namespace Ipv4

def unspecified : Ipv4 := ⟨0, 0, 0, 0⟩

def octets (ip : Ipv4) : Bytes := [ip.a, ip.b, ip.c, ip.d]

/-- One part of the dotted text: at most 255, and a zero in front only on its own. -/
def readPart? (cs : List Char) : Option UInt8 :=
  if cs.head? = some '0' && cs.length ≠ 1 then none
  else
    (Numeral.readDecimal? cs).bind fun n => if n < 256 then some (UInt8.ofNat n) else none

def read? (cs : List Char) : Option Ipv4 :=
  match Text.splitAll '.' cs with
  | [p, q, r, s] => do
    let a ← readPart? p
    let b ← readPart? q
    let c ← readPart? r
    let d ← readPart? s
    return ⟨a, b, c, d⟩
  | _ => none

def text (ip : Ipv4) : List Char :=
  Numeral.decimal ip.a.toNat ++ '.' :: Numeral.decimal ip.b.toNat ++
    '.' :: Numeral.decimal ip.c.toNat ++ '.' :: Numeral.decimal ip.d.toNat

@[simp] theorem length_octets (ip : Ipv4) : ip.octets.length = 4 := rfl

end Ipv4

end SocksMonitor.Net
