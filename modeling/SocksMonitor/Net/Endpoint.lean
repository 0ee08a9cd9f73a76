import SocksMonitor.Net.Ipv6

/-!
# Socket endpoints

An IP address with a port, and for IPv6 a scope id. The listen address of the control plane is
written this way. The port here is digits alone and may be zero; the looser and stricter rules for
the addresses of a proxy are in `Socks/Address.lean`.
-/

namespace SocksMonitor.Net

inductive Endpoint where
  | v4 (ip : Ipv4) (port : UInt16)
  | v6 (ip : Ipv6) (scope : UInt32) (port : UInt16)
deriving DecidableEq

namespace Endpoint

def port : Endpoint → UInt16
  | v4 _ port => port
  | v6 _ _ port => port

/-- The endpoint's text. A scope id that is zero is left out. -/
def text : Endpoint → List Char
  | v4 ip port => ip.text ++ ':' :: Numeral.decimal port.toNat
  | v6 ip scope port =>
    let zone := if scope = 0 then [] else '%' :: Numeral.decimal scope.toNat
    '[' :: ip.text ++ zone ++ [']', ':'] ++ Numeral.decimal port.toNat

def readBelow? (limit : Nat) (cs : List Char) : Option Nat :=
  (Numeral.readDecimal? cs).filter (· < limit)

/-- A bracketed IPv6 literal, with an optional `%` and numeric scope id. -/
def readHost6? (cs : List Char) : Option (Ipv6 × UInt32) :=
  match Text.splitFirst? '%' cs with
  | none => (Ipv6.read? cs).map fun ip => (ip, 0)
  | some (literal, zone) => do
    let ip ← Ipv6.read? literal
    let scope ← readBelow? UInt32.size zone
    return (ip, UInt32.ofNat scope)

def read? : List Char → Option Endpoint
  | '[' :: cs => do
    let (host, rest) ← Text.splitFirst? ']' cs
    let (ip, scope) ← readHost6? host
    match rest with
    | ':' :: digits => (readBelow? UInt16.size digits).map fun p => v6 ip scope (UInt16.ofNat p)
    | _ => none
  | cs => do
    let (host, digits) ← Text.splitFirst? ':' cs
    let ip ← Ipv4.read? host
    (readBelow? UInt16.size digits).map fun p => v4 ip (UInt16.ofNat p)

end Endpoint

end SocksMonitor.Net
