import SocksMonitor.Socks.Cursor

/-!
# Decoders on a shared cursor

Three decoders read the messages of fixed size that a proxy sends, and may be run one after another
on one cursor. What a decoder takes depends on its result: nothing of an incomplete message, the
version byte alone if it is wrong, and otherwise the whole message. `Form.Decodes` says so in three
cases, without the decoder, and `decode_eq_iff` finds every run of a decoder in one of them.

Bytes behind those that a decoder was run on matter only if its message was incomplete
(`Form.Decodes.append`). So a sequence of decoders may be broken off at an incomplete message and
taken up there when more bytes have come, with the results of a sequence that had all bytes from
the beginning: `decoders_exact_and_resumable`.
-/

namespace SocksMonitor.Socks

/-- The messages of a proxy that have a fixed size. -/
inductive Form where
  | methodSelection
  | userPassReply
  | replyHeader
deriving Repr, DecidableEq

/-- What a message of fixed size tells. -/
inductive Told where
  | method (code : UInt8)
  | verdict (accepted : Bool)
  | header (header : ReplyHeader)
deriving Repr, DecidableEq

namespace Form

def size : Form → Nat
  | methodSelection => 2
  | userPassReply => 2
  | replyHeader => 4

def version : Form → UInt8
  | methodSelection => 0x05
  | userPassReply => 0x01
  | replyHeader => 0x05

def decode : Form → Decoder Told
  | methodSelection, bytes => (Decoder.methodSelection bytes).map (·.map .method) id
  | userPassReply, bytes => (Decoder.userPassReply bytes).map (·.map .verdict) id
  | replyHeader, bytes => (Decoder.replyHeader bytes).map (·.map .header) id

/-! ## One decoder -/

/-- The bytes of a message, and what they tell. -/
inductive Says : Form → Bytes → Told → Prop where
  | methodSelection (method : UInt8) : Says methodSelection [0x05, method] (.method method)
  | userPassReply (status : UInt8) :
      Says userPassReply [0x01, status] (.verdict (status == 0x00))
  | replyHeader (rep reserved atyp : UInt8) :
      Says replyHeader [0x05, rep, reserved, atyp] (.header ⟨Reply.ofCode rep, atyp⟩)

/-- What a decoder may come to on given bytes, with what it leaves of them. -/
inductive Decodes (form : Form) : Bytes → Except Fault Told → Bytes → Prop where
  | short {bytes : Bytes} (hshort : bytes.length < form.size) :
      Decodes form bytes (.error .tooShort) bytes
  | foreign {ver : UInt8} {rest : Bytes} (hsize : form.size ≤ rest.length + 1)
      (hver : ver ≠ form.version) :
      Decodes form (ver :: rest) (.error (.unexpectedVersion ver)) rest
  | whole {message rest : Bytes} {told : Told} (hspoken : form.Says message told) :
      Decodes form (message ++ rest) (.ok told) rest

variable {form : Form} {bytes message rest : Bytes} {told : Told}
  {result : Except Fault Told}

theorem Says.length_eq (hspoken : form.Says message told) : message.length = form.size := by
  cases hspoken <;> rfl

theorem Says.head?_eq (hspoken : form.Says message told) : message.head? = some form.version := by
  cases hspoken <;> rfl

theorem decode_short (hshort : bytes.length < form.size) :
    form.decode bytes = (.error .tooShort, bytes) := by
  cases form with
  | methodSelection | userPassReply =>
      match bytes with
      | [] | [_] => rfl
      | _ :: _ :: _ =>
          simp only [size, List.length_cons] at hshort
          omega
  | replyHeader =>
      match bytes with
      | [] | [_] | [_, _] | [_, _, _] => rfl
      | _ :: _ :: _ :: _ :: _ =>
          simp only [size, List.length_cons] at hshort
          omega

theorem decode_foreign {ver : UInt8} (hsize : form.size ≤ rest.length + 1)
    (hver : ver ≠ form.version) :
    form.decode (ver :: rest) = (.error (.unexpectedVersion ver), rest) := by
  cases form with
  | methodSelection | userPassReply =>
      match rest with
      | [] => simp [size] at hsize
      | _ :: _ =>
          simp only [version] at hver
          simp [decode, Decoder.methodSelection, Decoder.userPassReply, Socks.version,
            userPassVersion, hver, Except.map]
  | replyHeader =>
      match rest with
      | [] | [_] | [_, _] => simp [size] at hsize
      | _ :: _ :: _ :: _ =>
          simp only [version] at hver
          simp [decode, Decoder.replyHeader, Socks.version, hver, Except.map]

theorem decode_whole (hspoken : form.Says message told) (rest : Bytes) :
    form.decode (message ++ rest) = (.ok told, rest) := by
  cases hspoken <;> rfl

/-- Bytes of the right number and version are a message and more. -/
theorem exists_message (hsize : form.size ≤ bytes.length) (hver : bytes.head? = some form.version) :
    ∃ message told rest, form.Says message told ∧ bytes = message ++ rest := by
  cases form with
  | methodSelection =>
      match bytes with
      | [] | [_] => simp [size] at hsize
      | _ :: method :: rest =>
          obtain rfl := Option.some.inj hver
          exact ⟨_, _, rest, .methodSelection method, rfl⟩
  | userPassReply =>
      match bytes with
      | [] | [_] => simp [size] at hsize
      | _ :: status :: rest =>
          obtain rfl := Option.some.inj hver
          exact ⟨_, _, rest, .userPassReply status, rfl⟩
  | replyHeader =>
      match bytes with
      | [] | [_] | [_, _] | [_, _, _] => simp [size] at hsize
      | _ :: rep :: reserved :: atyp :: rest =>
          obtain rfl := Option.some.inj hver
          exact ⟨_, _, rest, .replyHeader rep reserved atyp, rfl⟩

theorem exists_decodes (form : Form) (bytes : Bytes) :
    ∃ result rest, form.Decodes bytes result rest := by
  by_cases hshort : bytes.length < form.size
  · exact ⟨_, _, .short hshort⟩
  have hsize : form.size ≤ bytes.length := Nat.not_lt.mp hshort
  by_cases hver : bytes.head? = some form.version
  · obtain ⟨message, told, rest, hspoken, rfl⟩ := exists_message hsize hver
    exact ⟨_, _, .whole hspoken⟩
  · cases bytes with
    | nil => cases form <;> simp [size] at hsize
    | cons ver rest => exact ⟨_, _, .foreign hsize fun h => hver (congrArg some h)⟩

theorem Decodes.decode_eq (h : form.Decodes bytes result rest) :
    form.decode bytes = (result, rest) := by
  cases h with
  | short hshort => exact decode_short hshort
  | foreign hsize hver => exact decode_foreign hsize hver
  | whole hspoken => exact decode_whole hspoken rest

/-- A decoder comes to what its three cases say, and to nothing else. -/
theorem decode_eq_iff : form.decode bytes = (result, rest) ↔ form.Decodes bytes result rest := by
  refine ⟨fun h => ?_, Decodes.decode_eq⟩
  obtain ⟨result', rest', hdecodes⟩ := exists_decodes form bytes
  rw [hdecodes.decode_eq, Prod.mk.injEq] at h
  obtain ⟨rfl, rfl⟩ := h
  exact hdecodes

theorem decodes_decode (form : Form) (bytes : Bytes) :
    form.Decodes bytes (form.decode bytes).1 (form.decode bytes).2 :=
  decode_eq_iff.mp rfl

/-- Only an incomplete message takes notice of bytes that come later. -/
theorem Decodes.append (h : form.Decodes bytes result rest) (hcomplete : result ≠ .error .tooShort)
    (more : Bytes) : form.Decodes (bytes ++ more) result (rest ++ more) := by
  cases h with
  | short => exact absurd rfl hcomplete
  | foreign hsize hver => exact .foreign (by simp; omega) hver
  | whole hspoken =>
      rw [List.append_assoc]
      exact .whole hspoken

/-! ## Byte by byte -/

/-- Takes one byte off a cursor. An empty one has none to take. -/
def next? : Bytes → Option (UInt8 × Bytes)
  | [] => none
  | byte :: bytes => some (byte, bytes)

/-- The fields behind the version byte. -/
def fields? (form : Form) (bytes : Bytes) : Option (Told × Bytes) :=
  match form with
  | methodSelection => do
    let (method, bytes) ← next? bytes
    return (.method method, bytes)
  | userPassReply => do
    let (status, bytes) ← next? bytes
    return (.verdict (status == 0x00), bytes)
  | replyHeader => do
    let (rep, bytes) ← next? bytes
    let (_, bytes) ← next? bytes
    let (atyp, bytes) ← next? bytes
    return (.header ⟨Reply.ofCode rep, atyp⟩, bytes)

/-- The decoder as a sequence of single takes behind one look at the length of the cursor. It comes
to nothing if it ever takes a byte from an empty cursor. -/
def pull? (form : Form) (bytes : Bytes) : Option (Except Fault Told × Bytes) :=
  if bytes.length < form.size then some (.error .tooShort, bytes)
  else do
    let (ver, bytes) ← next? bytes
    if ver = form.version then
      let (told, bytes) ← form.fields? bytes
      return (.ok told, bytes)
    else return (.error (.unexpectedVersion ver), bytes)

/-- One look at the length is enough: no byte is ever taken from an empty cursor. -/
theorem pull?_eq (form : Form) (bytes : Bytes) : form.pull? bytes = some (form.decode bytes) := by
  obtain ⟨result, rest, hdecodes⟩ := exists_decodes form bytes
  rw [hdecodes.decode_eq]
  cases hdecodes with
  | short hshort => exact if_pos hshort
  | @foreign ver _ hsize hver =>
      have hlong : ¬ (ver :: rest).length < form.size := Nat.not_lt.mpr hsize
      rw [pull?, if_neg hlong]
      simp [next?, hver]
  | @whole message _ _ hspoken =>
      have hlong : ¬ (message ++ rest).length < form.size := by
        rw [List.length_append, hspoken.length_eq]
        omega
      rw [pull?, if_neg hlong]
      cases hspoken <;> rfl

/-! ## Exactness -/

theorem Says.head?_of_take (hspoken : form.Says (bytes.take form.size) told) :
    bytes.head? = some form.version := by
  rw [← List.take_append_drop form.size bytes, List.head?_append, hspoken.head?_eq]
  rfl

theorem Says.take_append (hspoken : form.Says message told) (rest : Bytes) :
    (message ++ rest).take form.size = message ∧ (message ++ rest).drop form.size = rest :=
  ⟨List.take_left' hspoken.length_eq, List.drop_left' hspoken.length_eq⟩

theorem Says.unique {told' : Told} (hspoken : form.Says message told)
    (hspoken' : form.Says message told') : told = told' := by
  cases hspoken <;> cases hspoken' <;> rfl

/-- Which result a decoder gives when, and what it takes then. -/
structure Exact (form : Form) (bytes : Bytes) (result : Except Fault Told) (rest : Bytes) :
    Prop where
  tooShort : result = .error .tooShort ↔ bytes.length < form.size
  rest_of_tooShort : result = .error .tooShort → rest = bytes
  unexpectedVersion : ∀ ver, result = .error (.unexpectedVersion ver) ↔
    form.size ≤ bytes.length ∧ bytes.head? = some ver ∧ ver ≠ form.version
  rest_of_unexpectedVersion : ∀ ver, result = .error (.unexpectedVersion ver) →
    bytes = ver :: rest
  ok : ∀ told, result = .ok told ↔
    form.size ≤ bytes.length ∧ form.Says (bytes.take form.size) told
  rest_of_ok : ∀ told, result = .ok told → rest = bytes.drop form.size
  /-- There is no other result. -/
  exhausted : result = .error .tooShort ∨ (∃ ver, result = .error (.unexpectedVersion ver))
    ∨ ∃ told, result = .ok told

theorem exact_short (hshort : bytes.length < form.size) :
    Exact form bytes (.error .tooShort) bytes := by
  have hsize : ¬ form.size ≤ bytes.length := Nat.not_le.mpr hshort
  constructor <;> simp [hshort, hsize]

theorem exact_foreign {ver : UInt8} (hsize : form.size ≤ rest.length + 1)
    (hver : ver ≠ form.version) :
    Exact form (ver :: rest) (.error (.unexpectedVersion ver)) rest := by
  have hlong : form.size ≤ (ver :: rest).length := hsize
  have hmute : ∀ told, ¬ form.Says ((ver :: rest).take form.size) told :=
    fun told hspoken => hver (Option.some.inj hspoken.head?_of_take)
  constructor
  case unexpectedVersion =>
    intro ver'
    constructor
    · intro h
      cases h
      exact ⟨hlong, rfl, hver⟩
    · intro h
      obtain ⟨-, hhead, -⟩ := h
      rw [Option.some.inj hhead]
  all_goals simp [hsize, hmute]

theorem exact_whole (hspoken : form.Says message told) :
    Exact form (message ++ rest) (.ok told) rest := by
  have hlong : form.size ≤ (message ++ rest).length := by
    rw [List.length_append, hspoken.length_eq]
    omega
  have hhead : (message ++ rest).head? = some form.version := by
    rw [List.head?_append, hspoken.head?_eq]
    rfl
  obtain ⟨htake, hdrop⟩ := hspoken.take_append rest
  constructor
  case unexpectedVersion =>
    intro ver
    rw [hhead]
    refine iff_of_false (by simp) ?_
    intro h
    obtain ⟨-, hver, hne⟩ := h
    exact hne (Option.some.inj hver).symm
  case ok =>
    intro told'
    rw [htake]
    constructor
    · intro h
      cases h
      exact ⟨hlong, hspoken⟩
    · intro h
      rw [hspoken.unique h.2]
  case tooShort => exact iff_of_false (by simp) (Nat.not_lt.mpr hlong)
  case rest_of_ok => exact fun _ _ => hdrop.symm
  all_goals simp

theorem exact_decode (form : Form) (bytes : Bytes) :
    Exact form bytes (form.decode bytes).1 (form.decode bytes).2 := by
  obtain ⟨result, rest, hdecodes⟩ := exists_decodes form bytes
  rw [hdecodes.decode_eq]
  cases hdecodes with
  | short hshort => exact exact_short hshort
  | foreign hsize hver => exact exact_foreign hsize hver
  | whole hspoken => exact exact_whole hspoken

/-! ## Sequences of decoders -/

/-- Runs decoders one after another on one cursor; each result stands with what is left then. -/
def decodeAll : List Form → Bytes → List (Except Fault Told × Bytes)
  | [], _ => []
  | form :: forms, bytes => form.decode bytes :: decodeAll forms (form.decode bytes).2

/-- What a sequence of decoders leaves of a cursor. -/
def cursorAfter (forms : List Form) (bytes : Bytes) : Bytes :=
  forms.foldl (fun bytes form => (form.decode bytes).2) bytes

/-- Every message of the sequence has come in full. -/
def AllComplete (forms : List Form) (bytes : Bytes) : Prop :=
  ∀ step ∈ decodeAll forms bytes, step.1 ≠ .error .tooShort

theorem decodeAll_append (before later : List Form) (bytes : Bytes) :
    decodeAll (before ++ later) bytes =
      decodeAll before bytes ++ decodeAll later (cursorAfter before bytes) := by
  induction before generalizing bytes with
  | nil => rfl
  | cons form before ih => simp only [List.cons_append, decodeAll, ih, cursorAfter, List.foldl_cons]

/-- A sequence with nothing incomplete runs in the same way when more bytes have come. -/
theorem decodeAll_more {forms : List Form} (hcomplete : AllComplete forms bytes) (more : Bytes) :
    decodeAll forms (bytes ++ more) =
        (decodeAll forms bytes).map (fun step => (step.1, step.2 ++ more))
      ∧ cursorAfter forms (bytes ++ more) = cursorAfter forms bytes ++ more := by
  induction forms generalizing bytes with
  | nil => exact ⟨rfl, rfl⟩
  | cons form forms ih =>
      obtain ⟨hfirst, hothers⟩ := List.forall_mem_cons.mp hcomplete
      have hmore := ((decodes_decode form bytes).append hfirst more).decode_eq
      obtain ⟨hsteps, hcursor⟩ := ih hothers
      constructor
      · simp only [decodeAll, hmore, hsteps, List.map_cons]
      · simpa only [cursorAfter, List.foldl_cons, hmore] using hcursor

/-! ## Bytes that arrive by and by -/

def isIncomplete : Except Fault Told → Bool
  | .error .tooShort => true
  | _ => false

/-- Reads messages from bytes that arrive by and by: a decoder whose message is incomplete is run
again when the next bytes have come, on what it has left with these behind. -/
def listen : List Form → Bytes → List Bytes → List (Except Fault Told)
  | [], _, _ => []
  | form :: forms, bytes, arrivals =>
    let (result, rest) := form.decode bytes
    if isIncomplete result then
      match arrivals with
      | [] => []
      | more :: arrivals => listen (form :: forms) (rest ++ more) arrivals
    else result :: listen forms rest arrivals
termination_by forms _ arrivals => forms.length + arrivals.length

theorem isIncomplete_iff : isIncomplete result = true ↔ result = .error .tooShort := by
  unfold isIncomplete
  split
  · exact iff_of_true rfl rfl
  · next hother => exact iff_of_false (by simp) hother

/-- However the bytes arrive, the results up to the first incomplete message are those of decoders
that find all bytes on the cursor. -/
theorem listen_eq (forms : List Form) (bytes : Bytes) (arrivals : List Bytes) :
    listen forms bytes arrivals =
      ((decodeAll forms (bytes ++ arrivals.flatten)).map Prod.fst).takeWhile
        fun result => !isIncomplete result := by
  -- the recursion of `listen`: a wait for bytes leaves the decoders, a result the arrivals
  induction forms, bytes, arrivals using listen.induct with
  | case1 bytes arrivals => simp [listen, decodeAll]
  | case2 form forms bytes result rest hdecode hincomplete =>
      simp [listen, decodeAll, hdecode, hincomplete]
  | case3 form forms bytes result rest hdecode hincomplete more arrivals ih =>
      obtain rfl := isIncomplete_iff.mp hincomplete
      have hrest : rest = bytes := by
        have hexact := exact_decode form bytes
        rw [hdecode] at hexact
        exact hexact.rest_of_tooShort rfl
      subst hrest
      rw [listen, hdecode]
      simp only [hincomplete, if_true, ih, List.flatten_cons, List.append_assoc]
  | case4 form forms bytes arrivals result rest hdecode hcomplete ih =>
      have hlater : form.decode (bytes ++ arrivals.flatten) =
          (result, rest ++ arrivals.flatten) := by
        have hresult : result ≠ .error .tooShort := fun h => hcomplete (isIncomplete_iff.mpr h)
        exact ((decode_eq_iff.mp hdecode).append hresult _).decode_eq
      rw [listen, hdecode]
      simp [hcomplete, ih, decodeAll, hlater]

/-- **Decoders are exact, and can be taken up again where bytes were missing.** Each decoder of a
sequence gives the one result that the bytes in front of it call for, takes what that result allows
and never more than there is. Bytes that come later leave all results in front of the first
incomplete message as they are, with these bytes behind what was left. So decoders that wait for
missing bytes read the same messages as decoders that have all bytes from the beginning. -/
theorem decoders_exact_and_resumable (forms : List Form) (bytes : Bytes) :
    (∀ before form later, forms = before ++ form :: later →
        let cursor := cursorAfter before bytes
        let step := form.decode cursor
        decodeAll forms bytes = decodeAll before bytes ++ step :: decodeAll later step.2
          ∧ Exact form cursor step.1 step.2 ∧ form.pull? cursor = some step)
      ∧ (∀ before later, forms = before ++ later → AllComplete before bytes → ∀ more,
        decodeAll forms (bytes ++ more) =
          (decodeAll before bytes).map (fun step => (step.1, step.2 ++ more))
            ++ decodeAll later (cursorAfter before bytes ++ more))
      ∧ ∀ arrivals, listen forms bytes arrivals =
        ((decodeAll forms (bytes ++ arrivals.flatten)).map Prod.fst).takeWhile
          fun result => !isIncomplete result := by
  refine ⟨?_, ?_, listen_eq forms bytes⟩
  · intro before form later hforms cursor step
    refine ⟨?_, exact_decode form cursor, pull?_eq form cursor⟩
    rw [hforms, decodeAll_append]
    rfl
  · intro before later hforms hcomplete more
    obtain ⟨hsteps, hcursor⟩ := decodeAll_more hcomplete more
    rw [hforms, decodeAll_append, hsteps, hcursor]

/-- A reply whose last byte comes late, behind a selection of a method. -/
theorem header_resumed_after_selection :
    let forms : List Form := [.methodSelection, .replyHeader]
    let bytes : Bytes := [5, 2, 5, 0, 9]
    forms = [.methodSelection] ++ [.replyHeader] ∧ AllComplete [.methodSelection] bytes
      ∧ (replyHeader.decode (cursorAfter [.methodSelection] bytes)).2 = [5, 0, 9]
      ∧ decodeAll forms (bytes ++ [1, 7]) =
        [(.ok (.method 2), [5, 0, 9, 1, 7]), (.ok (.header ⟨.succeeded, 1⟩), [7])]
      ∧ listen forms bytes [[], [1], [7]] = [.ok (.method 2), .ok (.header ⟨.succeeded, 1⟩)] := by
  intro forms bytes
  obtain ⟨hexact, hresumed, hlisten⟩ := decoders_exact_and_resumable forms bytes
  have hcomplete : AllComplete [.methodSelection] bytes := by
    intro step hstep
    obtain rfl := List.mem_singleton.mp hstep
    exact fun h => by cases h
  have hsplit : forms = [.methodSelection] ++ [.replyHeader] := rfl
  obtain ⟨-, hheader, -⟩ := hexact _ _ _ hsplit
  exact ⟨hsplit, hcomplete, hheader.rest_of_tooShort rfl, hresumed _ _ hsplit hcomplete [1, 7],
    hlisten [[], [1], [7]]⟩

end Form
end SocksMonitor.Socks
