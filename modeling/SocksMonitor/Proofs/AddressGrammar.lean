import SocksMonitor.Proofs.Literals
import SocksMonitor.Socks.Address

/-!
# The grammar of addresses

Which texts are read as an address, and as which one. The grammar is stated on the text as a whole:
`Splits` takes it apart into host and port, `SpellsPort` says what a port looks like, and
`Names` which address a host stands for. The reader goes another way (it looks for the first
bracket or the last colon, judges the port before the host, and tries IPv4 before IPv6), so each
of its steps has an iff lemma that leads to the grammar.

`read_exact` is the main statement.
-/

namespace SocksMonitor.Socks.Address

/-! ## The grammar -/

/-- A text and its parts around the colon in front of the port. Brackets enclose a host that may
have colons. -/
inductive Splits : List Char → List Char → List Char → Prop where
  | bracketed {host port : List Char} (hclose : ']' ∉ host) :
      Splits ('[' :: host ++ ']' :: ':' :: port) host port
  | plain {host port : List Char} (hcolon : ':' ∉ host) (hopen : '[' ∉ host)
      (hclose : ']' ∉ host) : Splits (host ++ ':' :: port) host port

/-- A port: decimal digits, as many as there may be, and perhaps a plus sign in front. -/
def SpellsPort (cs : List Char) (port : UInt16) : Prop :=
  ∃ digits, (cs = digits ∨ cs = '+' :: digits) ∧ digits ≠ [] ∧ (∀ c ∈ digits, c.isDigit = true)
    ∧ Nat.ofDigitChars 10 digits 0 = port.toNat ∧ 1 ≤ port.toNat

def IsLiteral (host : List Char) : Prop :=
  (∃ ip : Net.Ipv4, host = ip.text) ∨ ∃ ip : Net.Ipv6, ip.Spells host

/-- The address that a host stands for. An IPv4-mapped IPv6 address is taken as its IPv4
address. -/
inductive Names (host : List Char) (port : UInt16) : Address → Prop where
  | ipv4 {ip : Net.Ipv4} (hliteral : host = ip.text) : Names host port (.socket (.v4 ip port))
  | mapped {ip : Net.Ipv6} {v4 : Net.Ipv4} (hliteral : ip.Spells host) (hmapped : ip.Carries v4) :
      Names host port (.socket (.v4 v4 port))
  | ipv6 {ip : Net.Ipv6} (hliteral : ip.Spells host) (hplain : ∀ v4, ¬ ip.Carries v4) :
      Names host port (.socket (.v6 ip 0 port))
  | domain (hname : ¬ IsLiteral host)
      (hlength : Text.byteLength (String.ofList host) ≤ 255) :
      Names host port (.domain (String.ofList host) port)

/-! ## The parts -/

theorem SpellsPort.colon_not_mem {cs : List Char} {port : UInt16} (h : SpellsPort cs port) :
    ':' ∉ cs := by
  obtain ⟨digits, hcs, -, hdigits, -⟩ := h
  have hcolon : ':' ∉ digits := Text.not_mem_of_kind hdigits rfl
  rcases hcs with rfl | rfl
  · exact hcolon
  · simpa using hcolon

/-- The reader looks for the last colon, which is the only one if the port has none. -/
theorem splitHostPort_eq_ok_iff {cs host port : List Char} (hport : ':' ∉ port) :
    splitHostPort cs = .ok (host, port) ↔ Splits cs host port := by
  constructor
  · intro h
    unfold splitHostPort at h
    split at h
    next rest =>
      split at h
      · cases h
      next hsplit =>
        cases h
        obtain ⟨rfl, hclose⟩ := Text.splitFirst?_eq_some_iff.mp hsplit
        exact .bracketed hclose
      · cases h
    next =>
      split at h
      · cases h
      next hsplit =>
        split at h
        · cases h
        next hcolon =>
        split at h
        · cases h
        next hbrackets =>
        cases h
        obtain ⟨rfl, -⟩ := Text.splitLast?_eq_some_iff.mp hsplit
        exact .plain hcolon (fun h => hbrackets (.inl h)) fun h => hbrackets (.inr h)
  · intro h
    cases h with
    | bracketed hclose =>
        have hsplit : Text.splitFirst? ']' (host ++ ']' :: ':' :: port) =
            some (host, ':' :: port) :=
          Text.splitFirst?_eq_some_iff.mpr ⟨rfl, hclose⟩
        simp [splitHostPort, hsplit]
    | plain hcolon hopen hclose =>
        have hsplit : Text.splitLast? ':' (host ++ ':' :: port) = some (host, port) :=
          Text.splitLast?_eq_some_iff.mpr ⟨rfl, hport⟩
        have hplain : ∀ rest, host ++ ':' :: port ≠ '[' :: rest := by
          intro rest h
          cases host with
          | nil => simp at h
          | cons c host => simp_all
        unfold splitHostPort
        split
        · next h => exact absurd h (hplain _)
        · simp [hsplit, hcolon, hopen, hclose]

theorem readPort_eq_ok_iff {cs : List Char} {port : UInt16} :
    readPort cs = .ok port ↔ SpellsPort cs port := by
  constructor
  · intro h
    unfold readPort at h
    split at h
    next n hread =>
      split at h
      next hbounds =>
        cases h
        obtain ⟨hne, hdigits, hvalue⟩ := Numeral.readDecimal?_eq_some_iff.mp hread
        have hplus : '+' ∉ Numeral.dropPlus cs := Text.not_mem_of_kind hdigits rfl
        have hn : (UInt16.ofNat n).toNat = n := by
          rw [UInt16.toNat_ofNat']
          omega
        refine ⟨_, (Numeral.dropPlus_eq_iff hplus).mp rfl, hne, hdigits, ?_, ?_⟩
        · rw [hvalue, hn]
        · rw [hn]
          exact hbounds.1
      · cases h
    · cases h
  · rintro ⟨digits, hcs, hne, hdigits, hvalue, hport⟩
    have hlt := port.toNat_lt
    have hplus : '+' ∉ digits := Text.not_mem_of_kind hdigits rfl
    have hread : Numeral.readDecimal? (Numeral.dropPlus cs) = some port.toNat := by
      rw [(Numeral.dropPlus_eq_iff hplus).mpr hcs]
      exact Numeral.readDecimal?_eq_some_iff.mpr ⟨hne, hdigits, hvalue⟩
    rw [readPort, hread]
    simp only
    rw [if_pos ⟨hport, by omega⟩, UInt16.ofNat_toNat]

theorem spellsPort_unique {cs : List Char} {port port' : UInt16} (h : SpellsPort cs port)
    (h' : SpellsPort cs port') : port = port' :=
  Except.ok.inj ((readPort_eq_ok_iff.mpr h).symm.trans (readPort_eq_ok_iff.mpr h'))

/-! ## The host -/

theorem readLiteral?_eq_some_iff {host : List Char} {port : UInt16} {endpoint : Net.Endpoint} :
    readLiteral? host port = some endpoint ↔ Names host port (.socket endpoint) := by
  constructor
  · intro h
    unfold readLiteral? at h
    split at h
    next ip hip =>
      cases h
      exact .ipv4 (Net.Ipv4.read?_eq_some_iff.mp hip)
    next =>
      split at h
      next ip hip =>
        have hliteral := Net.Ipv6.read?_eq_some_iff.mp hip
        split at h
        next v4 hmapped =>
          cases h
          exact .mapped hliteral (Net.Ipv6.toMapped?_eq_some_iff.mp hmapped)
        next hplain =>
          cases h
          refine .ipv6 hliteral fun v4 hcarries => ?_
          rw [Net.Ipv6.toMapped?_eq_some_iff.mpr hcarries] at hplain
          cases hplain
      · cases h
  · intro h
    -- an IPv6 literal has colons, so it is not taken for an IPv4 address
    have hno {ip : Net.Ipv6} (hliteral : ip.Spells host) : Net.Ipv4.read? host = none :=
      Option.eq_none_iff_forall_ne_some.mpr fun v4 hv4 =>
        v4.colon_not_mem_text (Net.Ipv4.read?_eq_some_iff.mp hv4 ▸ hliteral.colon_mem)
    cases h with
    | ipv4 hliteral => simp [readLiteral?, Net.Ipv4.read?_eq_some_iff.mpr hliteral]
    | mapped hliteral hmapped =>
        simp [readLiteral?, hno hliteral, Net.Ipv6.read?_eq_some_iff.mpr hliteral,
          Net.Ipv6.toMapped?_eq_some_iff.mpr hmapped]
    | @ipv6 ip hliteral hplain =>
        have hnone : ip.toMapped? = none :=
          Option.eq_none_iff_forall_ne_some.mpr fun v4 hv4 =>
            hplain v4 (Net.Ipv6.toMapped?_eq_some_iff.mp hv4)
        simp [readLiteral?, hno hliteral, Net.Ipv6.read?_eq_some_iff.mpr hliteral, hnone]

theorem isLiteral_iff {host : List Char} (port : UInt16) :
    IsLiteral host ↔ ∃ endpoint, Names host port (.socket endpoint) := by
  constructor
  · rintro (⟨ip, hliteral⟩ | ⟨ip, hliteral⟩)
    · exact ⟨_, .ipv4 hliteral⟩
    · by_cases hmapped : ∃ v4, ip.Carries v4
      · obtain ⟨v4, hmapped⟩ := hmapped
        exact ⟨_, .mapped hliteral hmapped⟩
      · exact ⟨_, .ipv6 hliteral (not_exists.mp hmapped)⟩
  · rintro ⟨endpoint, h⟩
    cases h with
    | ipv4 hliteral => exact .inl ⟨_, hliteral⟩
    | mapped hliteral => exact .inr ⟨_, hliteral⟩
    | ipv6 hliteral => exact .inr ⟨_, hliteral⟩

theorem readLiteral?_eq_none_iff {host : List Char} {port : UInt16} :
    readLiteral? host port = none ↔ ¬ IsLiteral host := by
  rw [isLiteral_iff port, Option.eq_none_iff_forall_ne_some, not_exists]
  exact forall_congr' fun endpoint => not_congr readLiteral?_eq_some_iff

theorem allBlank_eq_false_iff {host : List Char} :
    Text.allBlank host = false ↔ ∃ c ∈ host, Text.isBlank c = false := by
  simp [Text.allBlank]

theorem readHost_eq_ok_iff_names {host : List Char} {port : UInt16} {a : Address} :
    readHost host port = .ok a ↔ (∃ c ∈ host, Text.isBlank c = false) ∧ Names host port a := by
  rw [readHost_eq_ok_iff, allBlank_eq_false_iff, readLiteral?_eq_none_iff]
  refine and_congr_right fun _ => ?_
  constructor
  · rintro (⟨endpoint, hliteral, rfl⟩ | ⟨hname, hlength, rfl⟩)
    · exact readLiteral?_eq_some_iff.mp hliteral
    · exact .domain hname hlength
  · intro h
    cases h with
    | domain hname hlength => exact .inr ⟨hname, hlength, rfl⟩
    | ipv4 hliteral => exact .inl ⟨_, readLiteral?_eq_some_iff.mpr (.ipv4 hliteral), rfl⟩
    | mapped hliteral hmapped =>
        exact .inl ⟨_, readLiteral?_eq_some_iff.mpr (.mapped hliteral hmapped), rfl⟩
    | ipv6 hliteral hplain =>
        exact .inl ⟨_, readLiteral?_eq_some_iff.mpr (.ipv6 hliteral hplain), rfl⟩

theorem names_unique {host : List Char} {port : UInt16} {a a' : Address}
    (hblank : ∃ c ∈ host, Text.isBlank c = false) (h : Names host port a)
    (h' : Names host port a') : a = a' :=
  Except.ok.inj ((readHost_eq_ok_iff_names.mpr ⟨hblank, h⟩).symm.trans
    (readHost_eq_ok_iff_names.mpr ⟨hblank, h'⟩))

/-- A host stands for an address if it is a literal or short enough for a name. -/
theorem exists_names_iff {host : List Char} {port : UInt16} :
    (∃ a, Names host port a) ↔
      IsLiteral host ∨ Text.byteLength (String.ofList host) ≤ 255 := by
  constructor
  · rintro ⟨a, h⟩
    cases a with
    | socket endpoint => exact .inl ((isLiteral_iff port).mpr ⟨endpoint, h⟩)
    | domain name port' =>
        cases h with
        | domain _ hlength => exact .inr hlength
  · intro h
    by_cases hliteral : IsLiteral host
    · obtain ⟨endpoint, hnames⟩ := (isLiteral_iff port).mp hliteral
      exact ⟨_, hnames⟩
    · exact ⟨_, .domain hliteral (h.resolve_left hliteral)⟩

/-! ## The whole text -/

/-- The text is `host:port` with a host that is not blank. -/
def Pairs (s : String) (host : List Char) (port : UInt16) : Prop :=
  ∃ portText, Splits s.toList host portText ∧ SpellsPort portText port
    ∧ ∃ c ∈ host, Text.isBlank c = false

theorem read_eq_ok_iff_names {s : String} {a : Address} :
    read s = .ok a ↔ ∃ host port, Pairs s host port ∧ Names host port a := by
  rw [read_eq_ok_iff]
  constructor
  · rintro ⟨host, portText, port, hsplit, hport, hhost⟩
    have hspells := readPort_eq_ok_iff.mp hport
    obtain ⟨hblank, hnames⟩ := readHost_eq_ok_iff_names.mp hhost
    have hsplits := (splitHostPort_eq_ok_iff hspells.colon_not_mem).mp hsplit
    exact ⟨host, port, ⟨portText, hsplits, hspells, hblank⟩, hnames⟩
  · rintro ⟨host, port, ⟨portText, hsplits, hspells, hblank⟩, hnames⟩
    exact ⟨host, portText, port, (splitHostPort_eq_ok_iff hspells.colon_not_mem).mpr hsplits,
      readPort_eq_ok_iff.mpr hspells, readHost_eq_ok_iff_names.mpr ⟨hblank, hnames⟩⟩

theorem splits_unique {cs host host' portText portText' : List Char} {port port' : UInt16}
    (h : Splits cs host portText) (hport : SpellsPort portText port)
    (h' : Splits cs host' portText') (hport' : SpellsPort portText' port') :
    host = host' ∧ portText = portText' ∧ port = port' := by
  have hread := (splitHostPort_eq_ok_iff hport.colon_not_mem).mpr h
  rw [(splitHostPort_eq_ok_iff hport'.colon_not_mem).mpr h'] at hread
  cases hread
  exact ⟨rfl, rfl, spellsPort_unique hport hport'⟩

theorem pairs_unique {s : String} {host host' : List Char} {port port' : UInt16}
    (h : Pairs s host port) (h' : Pairs s host' port') : host = host' ∧ port = port' := by
  obtain ⟨_, hsplits, hspells, -⟩ := h
  obtain ⟨_, hsplits', hspells', -⟩ := h'
  obtain ⟨hhost, -, hport⟩ := splits_unique hsplits hspells hsplits' hspells'
  exact ⟨hhost, hport⟩

theorem port_of_names {host : List Char} {port : UInt16} {a : Address} (h : Names host port a) :
    a.port = port := by
  cases h <;> rfl

/-- The address has no scope id, which neither the wire nor the text `host:port` has a place for. -/
def IsUnscoped : Address → Prop
  | socket (.v6 _ scope _) => scope = 0
  | _ => True

theorem isUnscoped_of_read {s : String} {a : Address} (h : read s = .ok a) : a.IsUnscoped := by
  obtain ⟨host, port, -, hnames⟩ := read_eq_ok_iff_names.mp h
  cases hnames with
  | ipv6 => rfl
  | _ => trivial

theorem unmapped_of_read {s : String} {ip : Net.Ipv6} {scope : UInt32} {port : UInt16}
    (h : read s = .ok (.socket (.v6 ip scope port))) (v4 : Net.Ipv4) : ¬ ip.Carries v4 := by
  obtain ⟨host, _, -, hnames⟩ := read_eq_ok_iff_names.mp h
  cases hnames with
  | ipv6 _ hplain => exact hplain v4

theorem one_le_port_of_read {s : String} {a : Address} (h : read s = .ok a) :
    1 ≤ a.port.toNat := by
  obtain ⟨host, port, ⟨_, -, ⟨_, -, -, -, -, hport⟩, -⟩, hnames⟩ := read_eq_ok_iff_names.mp h
  rwa [port_of_names hnames]

theorem one_le_byteLength {host : List Char} (hne : host ≠ []) :
    1 ≤ Text.byteLength (String.ofList host) := by
  obtain ⟨c, host, rfl⟩ := List.exists_cons_of_ne_nil hne
  have hbytes := String.utf8EncodeChar_ne_nil (c := c)
  rw [Text.byteLength, Text.utf8_ofList, List.flatMap_cons, List.length_append]
  exact Nat.le_add_right_of_le (List.length_pos_iff.mpr hbytes)

/-- What the reader makes of a text. -/
structure ReadExactly (s : String) : Prop where
  /-- Accepted is `host:port` or `[host]:port` with a literal or a name that is not too long. -/
  accepts : (∃ a, read s = .ok a) ↔
    ∃ host port, Pairs s host port
      ∧ (IsLiteral host ∨ Text.byteLength (String.ofList host) ≤ 255)
  unique : ∀ host portText port host' portText' port',
    Splits s.toList host portText → SpellsPort portText port →
    Splits s.toList host' portText' → SpellsPort portText' port' →
      host = host' ∧ portText = portText' ∧ port = port'
  result : ∀ host port, Pairs s host port → ∀ a, read s = .ok a ↔ Names host port a
  /-- No endpoint that is read carries an IPv4 address in an IPv6 address. -/
  unmapped : ∀ ip scope port, read s = .ok (.socket (.v6 ip scope port)) →
    ∀ v4, ¬ ip.Carries v4
  domain : ∀ host port, read s = .ok (.domain host port) →
    1 ≤ Text.byteLength host ∧ Text.byteLength host ≤ 255 ∧ ¬ IsLiteral host.toList
  port : ∀ a, read s = .ok a → 1 ≤ a.port.toNat

/-- **The reader of addresses accepts exactly its grammar**, and takes a text for the one address
that its host and port stand for. -/
theorem read_exact (s : String) : ReadExactly s where
  accepts := by
    simp only [read_eq_ok_iff_names]
    constructor
    · rintro ⟨a, host, port, hpairs, hnames⟩
      exact ⟨host, port, hpairs, exists_names_iff.mp ⟨a, hnames⟩⟩
    · rintro ⟨host, port, hpairs, hhost⟩
      obtain ⟨a, hnames⟩ := exists_names_iff.mpr hhost
      exact ⟨a, host, port, hpairs, hnames⟩
  unique _ _ _ _ _ _ := splits_unique
  result host port hpairs a := by
    rw [read_eq_ok_iff_names]
    constructor
    · rintro ⟨host', port', hpairs', hnames⟩
      obtain ⟨rfl, rfl⟩ := pairs_unique hpairs hpairs'
      exact hnames
    · exact fun hnames => ⟨host, port, hpairs, hnames⟩
  unmapped _ _ _ hread := unmapped_of_read hread
  domain name port hread := by
    obtain ⟨host, _, ⟨_, -, -, c, hc, -⟩, hnames⟩ := read_eq_ok_iff_names.mp hread
    cases hnames with
    | domain hname hlength =>
        refine ⟨one_le_byteLength (List.ne_nil_of_mem hc), hlength, ?_⟩
        rwa [String.toList_ofList]
  port _ hread := one_le_port_of_read hread

example : (read "[::FFFF:10.0.0.1]:+0080").toOption = some (.socket (.v4 ⟨10, 0, 0, 1⟩ 80)) := by
  decide +kernel

end SocksMonitor.Socks.Address
