import SocksMonitor.Net.Ipv4

/-!
# IPv6 addresses

An address is eight 16-bit groups. Its literal separates them by colons and may write one run of
zero groups as `::` and the last two groups as a dotted IPv4 address. Of the many literals of an
address one is printed: the longest run of two or more zero groups becomes `::`, the first of
several longest ones, and an IPv4-mapped address shows its IPv4 part.
-/

namespace SocksMonitor.Net

/-- The eight groups of an IPv6 address, in network order. -/
structure Ipv6 where
  groups : List UInt16
  length_groups : groups.length = 8
deriving DecidableEq

namespace Ipv6

/-- A group as two octets, the high one first. -/
def groupOctets (g : UInt16) : Bytes := [(g >>> 8).toUInt8, g.toUInt8]

def groupOf (high low : UInt8) : UInt16 := high.toUInt16 <<< 8 ||| low.toUInt16

def octets (ip : Ipv6) : Bytes := ip.groups.flatMap groupOctets

def ofGroups? (groups : List UInt16) : Option Ipv6 :=
  if h : groups.length = 8 then some ⟨groups, h⟩ else none

/-! ## Reading a literal -/

/-- One group of a literal: one to four hexadecimal digits. -/
def readGroup? (cs : List Char) : Option UInt16 :=
  if cs.length ≤ 4 then (Numeral.readHex? cs).map UInt16.ofNat else none

def embed (ip : Ipv4) : List UInt16 := [groupOf ip.a ip.b, groupOf ip.c ip.d]

/-- The groups of the parts between colons. Where `dotted` holds, the last part may be an IPv4
address. -/
def readParts? (dotted : Bool) : List (List Char) → Option (List UInt16)
  | [] => some []
  | [part] =>
    match if dotted then Ipv4.read? part else none with
    | some ip => some (embed ip)
    | none => (readGroup? part).map fun g => [g]
  | part :: parts => do
    let g ← readGroup? part
    let gs ← readParts? dotted parts
    return g :: gs

/-- The groups on one side of `::`; an empty side has none. -/
def readSide? (dotted : Bool) (cs : List Char) : Option (List UInt16) :=
  if cs.isEmpty then some [] else readParts? dotted (Text.splitAll ':' cs)

/-- The parts before and after the first `::`. -/
def splitGap? : List Char → Option (List Char × List Char)
  | ':' :: ':' :: cs => some ([], cs)
  | c :: cs => (splitGap? cs).map fun (a, b) => (c :: a, b)
  | [] => none

/-- The address that a literal stands for. The gap `::` stands for at least one zero group. -/
def read? (cs : List Char) : Option Ipv6 :=
  match splitGap? cs with
  | none => (readParts? true (Text.splitAll ':' cs)).bind ofGroups?
  | some (before, after) => do
    let front ← readSide? false before
    let back ← readSide? true after
    if front.length + back.length ≤ 7 then
      ofGroups? (front ++ List.replicate (8 - front.length - back.length) 0 ++ back)
    else none

/-! ## IPv4-mapped addresses -/

/-- The IPv4 address that an IPv4-mapped address (`::ffff:0:0/96`) carries. -/
def toMapped? (ip : Ipv6) : Option Ipv4 :=
  match ip.groups with
  | [0, 0, 0, 0, 0, 0xFFFF, g, h] =>
    some ⟨(g >>> 8).toUInt8, g.toUInt8, (h >>> 8).toUInt8, h.toUInt8⟩
  | _ => none

/-! ## Printing -/

def zeroRun (groups : List UInt16) : Nat := (groups.takeWhile (· == 0)).length

/-- Start and length of the longest run of zero groups, the first of several longest ones. The
groups begin at index `start`, and `best` is the longest run that begins before it. -/
def longestRun (start : Nat) (best : Nat × Nat) : List UInt16 → Nat × Nat
  | [] => best
  | g :: gs =>
    let run := zeroRun (g :: gs)
    longestRun (start + 1) (if best.2 < run then (start, run) else best) gs

/-- Groups in hexadecimal with colons between them. -/
def groupsText (groups : List UInt16) : List Char :=
  List.intercalate [':'] (groups.map fun g => Numeral.hexadecimal g.toNat)

def text (ip : Ipv6) : List Char :=
  match ip.toMapped? with
  | some v4 => [':', ':', 'f', 'f', 'f', 'f', ':'] ++ v4.text
  | none =>
    let (start, run) := longestRun 0 (0, 0) ip.groups
    if run ≤ 1 then groupsText ip.groups
    else
      groupsText (ip.groups.take start) ++ [':', ':'] ++
        groupsText (ip.groups.drop (start + run))

/-! ## Octets -/

/-- The octets of a word of 16 bits: its quotient and its remainder. -/
theorem toNat_octets (g : UInt16) :
    ((g >>> 8).toUInt8).toNat = g.toNat / 256 ∧ (g.toUInt8).toNat = g.toNat % 256 := by
  have hg := g.toNat_lt
  constructor
  · rw [UInt16.toNat_toUInt8, UInt16.toNat_shiftRight]
    simp only [UInt16.reduceToNat, Nat.reduceMod, Nat.shiftRight_eq_div_pow]
    omega
  · exact UInt16.toNat_toUInt8 g

theorem toNat_groupOf (high low : UInt8) :
    (groupOf high low).toNat = 256 * high.toNat + low.toNat := by
  have hhigh := high.toNat_lt
  have hor := Nat.two_pow_add_eq_or_of_lt low.toNat_lt high.toNat
  have hshift : high.toNat <<< 8 % 65536 = 2 ^ 8 * high.toNat := by
    rw [Nat.shiftLeft_eq]
    omega
  simp only [groupOf, UInt16.toNat_or, UInt16.toNat_shiftLeft, UInt8.toNat_toUInt16,
    UInt16.reduceToNat, Nat.reduceMod, Nat.reducePow]
  rw [hshift, ← hor]

theorem groupOf_octets (g : UInt16) : groupOf (g >>> 8).toUInt8 g.toUInt8 = g := by
  obtain ⟨hhigh, hlow⟩ := toNat_octets g
  apply UInt16.toNat_inj.1
  rw [toNat_groupOf, hhigh, hlow]
  omega

theorem groupOctets_groupOf (high low : UInt8) : groupOctets (groupOf high low) = [high, low] := by
  have hlt := low.toNat_lt
  obtain ⟨hhigh, hlow⟩ := toNat_octets (groupOf high low)
  rw [toNat_groupOf] at hhigh hlow
  have hfirst : ((groupOf high low) >>> 8).toUInt8 = high := UInt8.toNat_inj.1 (by omega)
  have hsecond : (groupOf high low).toUInt8 = low := UInt8.toNat_inj.1 (by omega)
  rw [groupOctets, hfirst, hsecond]

theorem length_octets (ip : Ipv6) : ip.octets.length = 16 := by
  have h : ∀ gs : List UInt16, (gs.flatMap groupOctets).length = 2 * gs.length := by
    intro gs
    induction gs with
    | nil => rfl
    | cons g gs ih => simp [groupOctets, ih]; omega
  rw [octets, h, ip.length_groups]

end Ipv6

end SocksMonitor.Net
