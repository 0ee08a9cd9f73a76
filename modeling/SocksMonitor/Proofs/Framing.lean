import SocksMonitor.Proofs.AddressGrammar
import SocksMonitor.Proofs.ReplyGrammar
import SocksMonitor.Proofs.ServerReader

/-!
# The framing of addresses

ATYP, ADDR and PORT of an address have their widths in four places: `encodedLength` promises them,
`encode` writes them, the client skips them behind a reply (`skipBoundAddress`), and a server takes
them apart (`Server.destination?`). Here all four are brought together. What is written is a
`BoundField`, which is what the client skips, whatever comes behind it.

`encode_framed` is the main statement. A server's reading leaves out the scope id of an IPv6
endpoint, so addresses are told apart by their bytes only if they have none, as all that were read
from a text do (`isUnscoped_of_read`).
-/

namespace SocksMonitor.Socks.Address

open Probing (BoundField Dialogue Interruption skipBoundAddress)

/-- Endpoints, and names whose length byte says their length. An empty name is left out, since no
reply may have one. -/
def IsFramable : Address → Prop
  | socket _ => True
  | domain host _ => 1 ≤ Text.byteLength host ∧ Text.byteLength host ≤ maxFieldLength

variable {a b : Address}

theorem IsFramable.fits (h : a.IsFramable) : a.Fits := by
  cases a with
  | socket endpoint => trivial
  | domain host port => exact h.2

/-! ## The client's side -/

/-- The client would take an encoding for the bound address of a reply. -/
theorem boundField_encode (h : a.IsFramable) :
    BoundField a.addressType.code (a.hostBytes ++ portBytes a.port) := by
  cases a with
  | socket endpoint =>
      cases endpoint with
      | v4 ip port => exact .ipv4 rfl
      | v6 ip scope port =>
          refine .ipv6 ?_
          rw [List.length_append, hostBytes, Net.Ipv6.length_octets]
          rfl
  | domain host port =>
      obtain ⟨hone, hlength⟩ := h
      have hbyte : (UInt8.ofNat (Text.byteLength host)).toNat = Text.byteLength host :=
        toNat_lengthByte hlength
      refine .domain ?_ ?_
      · rwa [hbyte]
      · show (Text.utf8 host ++ portBytes port).length = _
        rw [hbyte, List.length_append]
        rfl

/-- A bound address is taken off the stream in silence, and no byte behind it. -/
theorem run_skipBoundAddress {atyp : UInt8} {field : Bytes} (h : BoundField atyp field)
    (stall : Interruption) (rest : Bytes) :
    (skipBoundAddress atyp).run stall .never (field ++ rest) = ⟨.ok (), [], rest⟩ := by
  obtain ⟨sent, htrace⟩ := (Probing.accepts_skipBoundAddress atyp).trace_word () h rest
  have hsent := Probing.sent_trace_skipBoundAddress atyp (field ++ rest)
  rw [htrace] at hsent
  rw [Dialogue.run_eq_outcome, Dialogue.cutBy_never, htrace, show sent = [] from hsent,
    Probing.Trace.outcome_ok]

/-! ## The server's side -/

/-- An address that has no scope id is known from its fields. -/
theorem destination_injective (ha : a.IsUnscoped) (hb : b.IsUnscoped)
    (h : Server.Destination.of a = Server.Destination.of b) : a = b := by
  rcases a with (⟨ip, port⟩ | ⟨ip, scope, port⟩) | ⟨host, port⟩ <;>
    rcases b with (⟨ip', port'⟩ | ⟨ip', scope', port'⟩) | ⟨host', port'⟩ <;>
    simp only [Server.Destination.of, Server.Destination.mk.injEq, reduceCtorEq, false_and,
      true_and] at h
  · obtain ⟨hip, hport⟩ := h
    obtain rfl := Net.Ipv4.octets_injective hip
    obtain rfl := UInt16.toNat_inj.mp hport
    rfl
  · obtain ⟨hip, hport⟩ := h
    obtain rfl := Net.Ipv6.octets_injective hip
    obtain rfl := UInt16.toNat_inj.mp hport
    obtain rfl : scope = 0 := ha
    obtain rfl : scope' = 0 := hb
    rfl
  · obtain ⟨hhost, hport⟩ := h
    obtain rfl := Text.utf8_injective hhost
    obtain rfl := UInt16.toNat_inj.mp hport
    rfl

/-- Of two encodings only equal ones are one in front of the other. -/
theorem eq_of_encode_append (ha : a.Fits) (hb : b.Fits) (hscope : a.IsUnscoped)
    (hscope' : b.IsUnscoped) {more : Bytes} (hmore : a.encode ++ more = b.encode) : a = b := by
  have hread := Server.destination?_encode hb []
  rw [List.append_nil, ← hmore, Server.destination?_encode ha more] at hread
  obtain ⟨hdestination, -⟩ := Prod.mk.inj (Option.some.inj hread)
  exact destination_injective hscope hscope' hdestination

/-! ## All four together -/

/-- What becomes of an encoding with `rest` behind it. -/
structure Framed (a : Address) (rest : Bytes) : Prop where
  /-- The client skips what follows the first byte, taken for the address type of a reply. -/
  skipped : ∃ atyp field, a.encode = atyp :: field
    ∧ ∀ stall, (skipBoundAddress atyp).run stall .never (field ++ rest) = ⟨.ok (), [], rest⟩
  /-- A server gets address type, host and port. -/
  taken : Server.destination? (a.encode ++ rest) = some (Server.Destination.of a, rest)

theorem framed_of_isFramable (h : a.IsFramable) (rest : Bytes) : Framed a rest where
  skipped := ⟨a.addressType.code, a.hostBytes ++ portBytes a.port, rfl, fun stall =>
    run_skipBoundAddress (boundField_encode h) stall rest⟩
  taken := Server.destination?_encode h.fits rest

/-- **Writer and readers of addresses agree on the framing.** The promised length holds for names
of any length. An address that fits its fields is skipped by the client and taken apart by a server
up to its end, whatever comes behind it. So addresses that were read from texts have encodings of
which none begins another. -/
theorem encode_framed :
    (∀ a : Address, a.encode.length = a.encodedLength)
      ∧ (∀ a : Address, a.IsFramable → ∀ rest, Framed a rest)
      ∧ ∀ s t a b, read s = .ok a → read t = .ok b →
        (a.encode = b.encode → a = b) ∧ (a.encode <+: b.encode → a.encode = b.encode) := by
  refine ⟨length_encode, fun a => framed_of_isFramable, fun s t a b ha hb => ?_⟩
  have hmore {more : Bytes} (h : a.encode ++ more = b.encode) : a = b :=
    eq_of_encode_append (fits_of_read ha) (fits_of_read hb) (isUnscoped_of_read ha)
      (isUnscoped_of_read hb) h
  constructor
  · intro heq
    exact hmore ((List.append_nil _).trans heq)
  · rintro ⟨more, h⟩
    rw [hmore h]

/-- A name whose characters have more than one byte, in front of a byte that is not its own; and the
encoding of a name, which begins no encoding of a longer name. -/
theorem encode_framed_of_names :
    (domain "bücher.example" 443).IsFramable ∧ Framed (domain "bücher.example" 443) [0x05]
      ∧ (domain "bücher.example" 443).encode.length = 19
      ∧ ∃ a b, read "a.b:80" = .ok a ∧ read "a.bc:80" = .ok b
        ∧ (a.encode = b.encode → a = b) ∧ (a.encode <+: b.encode → a.encode = b.encode) := by
  obtain ⟨hlength, hframed, hapart⟩ := encode_framed
  have hfits : (domain "bücher.example" 443).IsFramable := by
    constructor <;> decide +kernel
  have hread : read "a.b:80" = .ok (domain "a.b" 80) := by decide +kernel
  have hread' : read "a.bc:80" = .ok (domain "a.bc" 80) := by decide +kernel
  refine ⟨hfits, hframed _ hfits _, ?_, _, _, hread, hread', hapart _ _ _ _ hread hread'⟩
  rw [hlength]
  decide +kernel

end SocksMonitor.Socks.Address
