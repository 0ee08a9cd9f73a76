import SocksMonitor.Proofs.ServerReader

/-!
# Credentials on the wire

Username and password go out in one message with two length bytes, and a length byte is what is
left of a length after truncation. So credentials are looked at before a byte is written: those
with a field of more than 255 bytes leave the buffer as it was, all others get a message from which
a server recovers both fields.

The message has no separator between its fields and no mark at its end. That two pairs never give
one message, and none that begins another, is what the reader's lemma says in other words
(`eq_of_userPassMessage_append`).
-/

namespace SocksMonitor.Socks

variable {c c' : Credentials}

/-- One of the fields has more bytes than its length byte can say. -/
def Credentials.IsOverlong (c : Credentials) : Prop :=
  255 < Text.byteLength c.username ∨ 255 < Text.byteLength c.password

theorem checkCredentials_eq_error_iff :
    checkCredentials c = .error .credentialTooLong ↔ c.IsOverlong := by
  unfold checkCredentials Credentials.IsOverlong Address.maxFieldLength
  split
  · next hfits =>
    have hfits' : ¬ (255 < Text.byteLength c.username ∨ 255 < Text.byteLength c.password) := by
      omega
    exact iff_of_false (by simp) hfits'
  · next hlong => exact iff_of_true rfl (by omega)

theorem checkCredentials_of_not_isOverlong (hfits : ¬ c.IsOverlong) :
    checkCredentials c = .ok () := by
  unfold Credentials.IsOverlong at hfits
  unfold checkCredentials Address.maxFieldLength
  exact if_pos (by omega)

theorem writeUserPass_of_isOverlong (hlong : c.IsOverlong) (buffer : Bytes) :
    writeUserPass c buffer = (.error .credentialTooLong, buffer) := by
  simp only [writeUserPass, checkCredentials_eq_error_iff.mpr hlong]

theorem writeUserPass_of_not_isOverlong (hfits : ¬ c.IsOverlong) (buffer : Bytes) :
    writeUserPass c buffer = (.ok (), buffer ++ userPassMessage c) := by
  simp only [writeUserPass, checkCredentials_of_not_isOverlong hfits]

/-- A message that was written is that of credentials that fit. -/
theorem of_writeUserPass {buffer message : Bytes}
    (hwritten : writeUserPass c buffer = (.ok (), buffer ++ message)) :
    ¬ c.IsOverlong ∧ message = userPassMessage c := by
  have hfits : ¬ c.IsOverlong := by
    intro hlong
    rw [writeUserPass_of_isOverlong hlong] at hwritten
    cases hwritten
  rw [writeUserPass_of_not_isOverlong hfits, Prod.mk.injEq] at hwritten
  exact ⟨hfits, (List.append_cancel_left hwritten.2).symm⟩

theorem length_userPassMessage (c : Credentials) :
    (userPassMessage c).length =
      3 + Text.byteLength c.username + Text.byteLength c.password := by
  simp only [userPassMessage, counted, List.length_append, List.length_cons, Text.byteLength]
  omega

/-- No message begins another one. -/
theorem eq_of_userPassMessage_append (hfits : ¬ c.IsOverlong) (hfits' : ¬ c'.IsOverlong)
    {rest rest' : Bytes} (h : userPassMessage c ++ rest = userPassMessage c' ++ rest') :
    c = c' ∧ rest = rest' := by
  have hread := Server.credentials?_userPassMessage
    (checkCredentials_of_not_isOverlong hfits) rest
  have hread' := Server.credentials?_userPassMessage
    (checkCredentials_of_not_isOverlong hfits') rest'
  rw [h, hread', Option.some.injEq, Prod.mk.injEq] at hread
  obtain ⟨hpair, hrest⟩ := hread
  obtain ⟨username, password⟩ := c
  obtain ⟨username', password'⟩ := c'
  simp only [Server.pairOf, Prod.mk.injEq] at hpair
  obtain rfl := Text.utf8_injective hpair.1
  obtain rfl := Text.utf8_injective hpair.2
  exact ⟨rfl, hrest.symm⟩

/-- What becomes of a buffer to which credentials are written. -/
structure AllOrNothing (c : Credentials) (buffer : Bytes) : Prop where
  refused : (writeUserPass c buffer).1 = .error .credentialTooLong ↔ c.IsOverlong
  accepted : (writeUserPass c buffer).1 = .ok () ↔ ¬ c.IsOverlong
  checked : (writeUserPass c buffer).1 = checkCredentials c
  untouched : c.IsOverlong → (writeUserPass c buffer).2 = buffer
  appended : ¬ c.IsOverlong → ∃ message, (writeUserPass c buffer).2 = buffer ++ message
    ∧ message.length = 3 + Text.byteLength c.username + Text.byteLength c.password
    ∧ ∀ rest, Server.credentials? (message ++ rest) =
      some ((Text.utf8 c.username, Text.utf8 c.password), rest)

theorem allOrNothing (c : Credentials) (buffer : Bytes) : AllOrNothing c buffer := by
  by_cases hlong : c.IsOverlong
  · have hwritten := writeUserPass_of_isOverlong hlong buffer
    refine ⟨?_, ?_, ?_, ?_, fun hfits => absurd hlong hfits⟩
    · simp [hwritten, hlong]
    · simp [hwritten, hlong]
    · rw [hwritten, checkCredentials_eq_error_iff.mpr hlong]
    · intro _
      rw [hwritten]
  · have hchecked := checkCredentials_of_not_isOverlong hlong
    have hwritten := writeUserPass_of_not_isOverlong hlong buffer
    refine ⟨?_, ?_, ?_, fun h => absurd h hlong, fun _ => ?_⟩
    · simp [hwritten, hlong]
    · simp [hwritten, hlong]
    · rw [hwritten, hchecked]
    · exact ⟨userPassMessage c, congrArg Prod.snd hwritten, length_userPassMessage c,
        Server.credentials?_userPassMessage hchecked⟩

/-- **Credentials are written whole or not at all, and never to be taken for others.** Whatever is
in the buffer, it stays if a field has more than 255 bytes, which is just when the check fails;
otherwise a message is put behind it that a server reads to its end, whatever comes after it. Two
pairs that give the same message, or one that begins the other's, are the same pair. -/
theorem credentials_written_whole :
    (∀ c buffer, AllOrNothing c buffer)
      ∧ ∀ c c' buffer buffer' message message',
        writeUserPass c buffer = (.ok (), buffer ++ message) →
        writeUserPass c' buffer' = (.ok (), buffer' ++ message') →
        message <+: message' → c = c' := by
  refine ⟨allOrNothing, ?_⟩
  intro c c' buffer buffer' message message' hwritten hwritten' hbegins
  obtain ⟨hfits, rfl⟩ := of_writeUserPass hwritten
  obtain ⟨hfits', rfl⟩ := of_writeUserPass hwritten'
  obtain ⟨more, hmore⟩ := hbegins
  have happend : userPassMessage c ++ more = userPassMessage c' ++ [] := by
    rw [hmore, List.append_nil]
  exact (eq_of_userPassMessage_append hfits hfits' happend).1

/-- A name of 128 characters that has 256 bytes is refused; pairs that share all their letters have
messages apart. -/
theorem credentials_written_of_long_name :
    let long : Credentials := ⟨String.ofList (List.replicate 128 'é'), ""⟩
    long.IsOverlong ∧ (writeUserPass long [5]).2 = [5]
      ∧ writeUserPass ⟨"ab", "c"⟩ [5] = (.ok (), [5] ++ [1, 2, 97, 98, 1, 99])
      ∧ writeUserPass ⟨"a", "bc"⟩ [] = (.ok (), [] ++ [1, 1, 97, 2, 98, 99])
      ∧ ¬ [1, 2, 97, 98, 1, 99] <+: ([1, 1, 97, 2, 98, 99] : Bytes) := by
  intro long
  obtain ⟨hwhole, hapart⟩ := credentials_written_whole
  have hlong : long.IsOverlong := by
    left
    show 255 < Text.byteLength (String.ofList (List.replicate 128 'é'))
    rw [Text.byteLength, Text.utf8_ofList, List.length_flatMap, List.map_replicate,
      List.sum_replicate_nat]
    decide
  have hwritten : writeUserPass ⟨"ab", "c"⟩ [5] = (.ok (), [5] ++ [1, 2, 97, 98, 1, 99]) := rfl
  have hwritten' : writeUserPass ⟨"a", "bc"⟩ [] = (.ok (), [] ++ [1, 1, 97, 2, 98, 99]) := rfl
  refine ⟨hlong, (hwhole long [5]).untouched hlong, hwritten, hwritten', fun hbegins => ?_⟩
  have hsame := hapart _ _ _ _ _ _ hwritten hwritten' hbegins
  exact absurd hsame (by decide)

end SocksMonitor.Socks
