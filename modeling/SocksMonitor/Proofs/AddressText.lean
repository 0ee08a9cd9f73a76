import SocksMonitor.Proofs.AddressGrammar

/-!
# Addresses read back from their text

An endpoint is printed with brackets around an IPv6 address, and is always read back. A name is
printed without them, although the reader allows them around any host. So a name that only brackets
can hold, because it has a colon or an opening bracket, is lost in print. No closing bracket is in a
name that was read, and this is why such a text is never taken for another address: to be read as
bracketed it would need one.

`read_text` is the main statement.
-/

namespace SocksMonitor.Socks.Address

/-! ## Endpoints -/

theorem spellsPort_decimal {port : UInt16} (hport : 1 ≤ port.toNat) :
    SpellsPort (Numeral.decimal port.toNat) port := by
  refine ⟨_, .inl rfl, ?_, fun c => Numeral.isDigit_of_mem_decimal, ?_, hport⟩
  · exact Numeral.decimal_ne_nil _
  · exact Nat.ofDigitChars_ten_toDigits

theorem colon_not_mem_decimal (n : Nat) : ':' ∉ Numeral.decimal n :=
  Numeral.not_mem_decimal rfl n

/-- An endpoint, and what it is for the reader, which has no IPv4-mapped addresses. -/
inductive Stands : Net.Endpoint → Net.Endpoint → Prop where
  | v4 (ip : Net.Ipv4) (port : UInt16) : Stands (.v4 ip port) (.v4 ip port)
  | mapped {ip : Net.Ipv6} {v4 : Net.Ipv4} (hmapped : ip.Carries v4) (scope : UInt32)
      (port : UInt16) : Stands (.v6 ip scope port) (.v4 v4 port)
  | v6 {ip : Net.Ipv6} (hplain : ∀ v4, ¬ ip.Carries v4) (scope : UInt32) (port : UInt16) :
      Stands (.v6 ip scope port) (.v6 ip scope port)

theorem pairs_text_v4 (ip : Net.Ipv4) {port : UInt16} (hport : 1 ≤ port.toNat) :
    Pairs (socket (.v4 ip port)).text ip.text port := by
  have hmark {mark : Char} (hhex : Numeral.hexDigit? mark = none) (hdot : mark ≠ '.') :
      mark ∉ ip.text := ip.mark_not_mem_text hhex hdot
  have hdot : '.' ∈ ip.text := by simp [Net.Ipv4.text]
  refine ⟨_, ?_, spellsPort_decimal hport, '.', hdot, rfl⟩
  rw [text, String.toList_ofList]
  exact .plain ip.colon_not_mem_text (hmark rfl (by decide)) (hmark rfl (by decide))

theorem pairs_text_v6 (ip : Net.Ipv6) {port : UInt16} (hport : 1 ≤ port.toNat) :
    Pairs (socket (.v6 ip 0 port)).text ip.text port := by
  have hliteral := ip.spells_text
  have hsplits : Splits ('[' :: ip.text ++ ']' :: ':' :: Numeral.decimal port.toNat) ip.text
      (Numeral.decimal port.toNat) :=
    .bracketed (hliteral.mark_not_mem rfl (by decide) (by decide))
  refine ⟨_, ?_, spellsPort_decimal hport, ':', hliteral.colon_mem, rfl⟩
  simpa [text, Net.Endpoint.text] using hsplits

/-- The text of an endpoint is read as this endpoint. -/
theorem read_text_socket {endpoint endpoint' : Net.Endpoint} (hport : 1 ≤ endpoint.port.toNat)
    (hscope : (socket endpoint).IsUnscoped) (h : Stands endpoint endpoint') :
    read (socket endpoint).text = .ok (socket endpoint') := by
  rw [read_eq_ok_iff_names]
  cases h with
  | v4 ip port => exact ⟨_, _, pairs_text_v4 ip hport, .ipv4 rfl⟩
  | @mapped ip v4 hmapped scope port =>
      obtain rfl : scope = 0 := hscope
      exact ⟨_, _, pairs_text_v6 ip hport, .mapped ip.spells_text hmapped⟩
  | @v6 ip hplain scope port =>
      obtain rfl : scope = 0 := hscope
      exact ⟨_, _, pairs_text_v6 ip hport, .ipv6 ip.spells_text hplain⟩

theorem exists_stands (endpoint : Net.Endpoint) : ∃ endpoint', Stands endpoint endpoint' := by
  cases endpoint with
  | v4 ip port => exact ⟨_, .v4 ip port⟩
  | v6 ip scope port =>
      by_cases hmapped : ∃ v4, ip.Carries v4
      · obtain ⟨v4, hmapped⟩ := hmapped
        exact ⟨_, .mapped hmapped scope port⟩
      · exact ⟨_, .v6 (not_exists.mp hmapped) scope port⟩

/-- An endpoint that was read stands for itself. -/
theorem stands_of_read {s : String} {endpoint : Net.Endpoint}
    (h : read s = .ok (socket endpoint)) : Stands endpoint endpoint := by
  cases endpoint with
  | v4 ip port => exact .v4 ip port
  | v6 ip scope port => exact .v6 (unmapped_of_read h) scope port

/-! ## Names -/

theorem Splits.close_not_mem {cs host portText : List Char} (h : Splits cs host portText) :
    ']' ∉ host := by
  cases h with
  | bracketed hclose => exact hclose
  | plain _ _ hclose => exact hclose

/-- Text that ends in a colon and a port is taken apart there and nowhere else: a bracket in front
would need its partner. -/
theorem splits_iff_of_close_not_mem {host portText host' portText' : List Char}
    (hclose : ']' ∉ host) (hport : ':' ∉ portText) (hport' : ':' ∉ portText') :
    Splits (host ++ ':' :: portText) host' portText' ↔
      (':' ∉ host ∧ '[' ∉ host) ∧ host' = host ∧ portText' = portText := by
  constructor
  · intro h
    generalize hcs : host ++ ':' :: portText = cs at h
    have hlast : Text.splitLast? ':' cs = some (host, portText) :=
      Text.splitLast?_eq_some_iff.mpr ⟨hcs.symm, hport⟩
    cases h with
    | bracketed hinner =>
        have hsplit : Text.splitLast? ':' ('[' :: host' ++ ']' :: ':' :: portText') =
            some ('[' :: host' ++ [']'], portText') :=
          Text.splitLast?_eq_some_iff.mpr ⟨by simp, hport'⟩
        rw [hsplit] at hlast
        obtain ⟨rfl, -⟩ := Prod.mk.inj (Option.some.inj hlast)
        simp at hclose
    | plain hcolon hopen hinner =>
        rw [Text.splitLast?_eq_some_iff.mpr ⟨rfl, hport'⟩] at hlast
        obtain ⟨rfl, rfl⟩ := Prod.mk.inj (Option.some.inj hlast)
        exact ⟨⟨hcolon, hopen⟩, rfl, rfl⟩
  · rintro ⟨⟨hcolon, hopen⟩, rfl, rfl⟩
    exact .plain hcolon hopen hclose

theorem eq_of_names_domain {hostText : List Char} {host : String} {port port' : UInt16}
    (h : Names hostText port (.domain host port')) :
    host = String.ofList hostText ∧ port' = port := by
  cases h
  exact ⟨rfl, rfl⟩

theorem toList_text_domain (host : String) (port : UInt16) :
    (domain host port).text.toList = host.toList ++ ':' :: Numeral.decimal port.toNat := by
  simp [text, Numeral.decimalText]

theorem pairs_text_domain_iff {host host' : List Char} {port port' : UInt16}
    (hclose : ']' ∉ host) (hblank : ∃ c ∈ host, Text.isBlank c = false) (hport : 1 ≤ port.toNat) :
    Pairs (domain (String.ofList host) port).text host' port' ↔
      (':' ∉ host ∧ '[' ∉ host) ∧ host' = host ∧ port' = port := by
  have hcolon := colon_not_mem_decimal port.toNat
  have hspells := spellsPort_decimal hport
  rw [Pairs, toList_text_domain, String.toList_ofList]
  constructor
  · rintro ⟨portText', hsplits', hspells', -⟩
    obtain ⟨hmarks, hhost, rfl⟩ :=
      (splits_iff_of_close_not_mem hclose hcolon hspells'.colon_not_mem).mp hsplits'
    exact ⟨hmarks, hhost, spellsPort_unique hspells' hspells⟩
  · rintro ⟨hmarks, rfl, rfl⟩
    exact ⟨_, (splits_iff_of_close_not_mem hclose hcolon hcolon).mpr ⟨hmarks, rfl, rfl⟩, hspells,
      hblank⟩

/-- A name that was read is read back from its text if it has no marks of its own, and else the
text is no address at all. -/
theorem read_text_domain_iff {s host : String} {port : UInt16} {a : Address}
    (h : read s = .ok (domain host port)) :
    read (domain host port).text = .ok a ↔
      (':' ∉ host.toList ∧ '[' ∉ host.toList) ∧ a = domain host port := by
  obtain ⟨hostText, _, ⟨_, hsplits, hspells, hblank⟩, hnames⟩ := read_eq_ok_iff_names.mp h
  have hport : 1 ≤ port.toNat := one_le_port_of_read h
  obtain ⟨rfl, rfl⟩ := eq_of_names_domain hnames
  rw [read_eq_ok_iff_names, String.toList_ofList]
  simp only [pairs_text_domain_iff hsplits.close_not_mem hblank hport]
  constructor
  · rintro ⟨_, _, ⟨hmarks, rfl, rfl⟩, hnames'⟩
    exact ⟨hmarks, names_unique hblank hnames' hnames⟩
  · rintro ⟨hmarks, rfl⟩
    exact ⟨_, _, ⟨hmarks, rfl, rfl⟩, hnames⟩

/-! ## All addresses -/

/-- The text of the address has no marks but those between its parts. -/
def IsUnmarked : Address → Prop
  | socket _ => True
  | domain host _ => ':' ∉ host.toList ∧ '[' ∉ host.toList ∧ ']' ∉ host.toList

theorem read_text_iff_isUnmarked {s : String} {a : Address} (h : read s = .ok a) :
    read a.text = .ok a ↔ a.IsUnmarked := by
  cases a with
  | socket endpoint =>
      have hport := one_le_port_of_read h
      exact iff_of_true (read_text_socket hport (isUnscoped_of_read h) (stands_of_read h)) trivial
  | domain host port =>
      obtain ⟨hostText, _, ⟨_, hsplits, -⟩, hnames⟩ := read_eq_ok_iff_names.mp h
      obtain ⟨rfl, -⟩ := eq_of_names_domain hnames
      simp [read_text_domain_iff h, IsUnmarked, hsplits.close_not_mem]

/-- A text is read back as no address but the one that it was printed for. -/
theorem eq_of_read_text {s : String} {a a' : Address} (h : read s = .ok a)
    (h' : read a.text = .ok a') : a' = a := by
  cases a with
  | socket endpoint =>
      have hsame := (read_text_iff_isUnmarked h).mpr trivial
      exact Except.ok.inj (h'.symm.trans hsame)
  | domain host port => exact ((read_text_domain_iff h).mp h').2

/-- **Reading back what was printed.** An address that was read from some text is read back from its
own, unless it is a name with a colon or a bracket; the text of such a name is rejected. Every
endpoint with a port and without a scope id is read back as the endpoint that it stands for. -/
theorem read_text :
    (∀ s a, read s = .ok a →
      (read a.text = .ok a ↔ a.IsUnmarked)
        ∧ (¬ a.IsUnmarked → ∃ fault, read a.text = .error fault))
      ∧ ∀ endpoint : Net.Endpoint, 1 ≤ endpoint.port.toNat → (socket endpoint).IsUnscoped →
        ∃ endpoint', Stands endpoint endpoint'
          ∧ read (socket endpoint).text = .ok (socket endpoint') := by
  constructor
  · intro s a h
    refine ⟨read_text_iff_isUnmarked h, fun hmarked => ?_⟩
    cases hread : read a.text with
    | error fault => exact ⟨fault, rfl⟩
    | ok a' =>
        obtain rfl := eq_of_read_text h hread
        exact absurd ((read_text_iff_isUnmarked h).mp hread) hmarked
  · intro endpoint hport hscope
    obtain ⟨endpoint', hstands⟩ := exists_stands endpoint
    exact ⟨endpoint', hstands, read_text_socket hport hscope hstands⟩

/-- A name that only brackets can hold, and an endpoint with an IPv4-mapped address. -/
theorem read_text_of_bracketed_name :
    read "[a:b]:80" = .ok (domain "a:b" 80)
      ∧ (∃ fault, read (domain "a:b" 80).text = .error fault)
      ∧ ∃ endpoint', Stands (.v6 ⟨[0, 0, 0, 0, 0, 0xFFFF, 0x0102, 0x0304], rfl⟩ 0 80) endpoint'
        ∧ read (socket (.v6 ⟨[0, 0, 0, 0, 0, 0xFFFF, 0x0102, 0x0304], rfl⟩ 0 80)).text =
          .ok (socket endpoint') := by
  have hread : read "[a:b]:80" = .ok (domain "a:b" 80) := by decide +kernel
  have hmarked : ¬ (domain "a:b" 80).IsUnmarked := fun h => absurd h.1 (by decide)
  exact ⟨hread, (read_text.1 _ _ hread).2 hmarked, read_text.2 _ (by decide) rfl⟩

end SocksMonitor.Socks.Address
