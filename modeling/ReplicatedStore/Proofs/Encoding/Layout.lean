import Mathlib.Algebra.Group.Nat.Defs
import Mathlib.Tactic.Common
import ReplicatedStore.Encoding.Layout

/-!
# What is written is read back

`Reads read b a` says that a reader takes exactly the octets `b` off whatever starts with them, and
makes `a` of them.  Readers that are run one after the other read what was written one after the
other (`Reads.bind`), so each part of a layout is proved by itself, and a format is the composition
of its parts.

The one thing that a part must know of its elements is that each takes four octets at least
(`takeAll_putAll`): a count is held against the octets that are left before any element is read.
-/

namespace ReplicatedStore.Layout

/-- The reader takes the octets off the front, and makes `a` of them. -/
def Reads {α : Type} (read : Reader α) (b : Bytes) (a : α) : Prop :=
  ∀ rest, read (b ++ rest) = .ok (a, rest)

/-- The reader reads `a` back from what is written for it. -/
def Undoes {α : Type} (read : Reader α) (put : α → Except FormatError Bytes) (a : α) : Prop :=
  ∀ b, put a = .ok b → Reads read b a

section Reads

variable {α β : Type} {read : Reader α} {b c : Bytes} {a : α}

lemma Reads.pure (a : α) : Reads (Pure.pure a) [] a :=
  fun _ => rfl

lemma Reads.bind (h : Reads read b a) (next : α → Reader β) {x : β} (g : Reads (next a) c x) :
    Reads (read >>= next) (b ++ c) x := by
  intro rest
  show (read (b ++ c ++ rest) >>= fun (r : α × Bytes) => next r.1 r.2) = .ok (x, rest)
  rw [List.append_assoc, h (c ++ rest)]
  exact g rest

/-- What is done with a value once it is read takes no more octets. -/
lemma Reads.map (h : Reads read b a) (f : α → β) :
    Reads (read >>= fun a => Pure.pure (f a)) b (f a) := by
  have hboth := h.bind (fun a => Pure.pure (f a)) (Reads.pure (f a))
  rwa [List.append_nil] at hboth

/-- The same where what is done is a reader that takes none. -/
lemma Reads.andThen (h : Reads read b a) (next : α → Reader β) {x : β} (g : Reads (next a) [] x) :
    Reads (read >>= next) b x := by
  have hboth := h.bind next g
  rwa [List.append_nil] at hboth

/-- What follows does not matter once nothing reads on. -/
lemma Reads.parse_append (h : Reads read b a) (rest : Bytes) : read.parse (b ++ rest) = .ok a := by
  rw [Reader.parse, h rest]
  rfl

lemma Reads.parse (h : Reads read b a) : read.parse b = .ok a := by
  have hall := h.parse_append []
  rwa [List.append_nil] at hall

/-- Octets that were cut out are read without touching those that are left. -/
lemma reads_within (h : read.parse b = .ok a) : Reads (within b read) [] a := by
  intro rest
  rw [within, h]
  rfl

lemma Reads.within (h : Reads read b a) : Reads (Layout.within b read) [] a :=
  reads_within h.parse

end Reads

/-! ## Faults -/

/-- The reader finds the fault in the octets, whatever follows them. -/
def Refuses {α : Type} (read : Reader α) (b : Bytes) (fault : FormatError) : Prop :=
  ∀ rest, read (b ++ rest) = .error fault

section Refuses

variable {α β : Type} {read : Reader α} {b c : Bytes} {a : α} {fault : FormatError}

lemma bind_of_error (h : read b = .error fault) (next : α → Reader β) :
    (read >>= next) b = .error fault := by
  show (read b >>= fun (r : α × Bytes) => next r.1 r.2) = .error fault
  rw [h]
  rfl

lemma bind_of_reads (h : Reads read b a) (next : α → Reader β) (rest : Bytes) :
    (read >>= next) (b ++ rest) = next a rest := by
  show (read (b ++ rest) >>= fun (r : α × Bytes) => next r.1 r.2) = next a rest
  rw [h rest]
  rfl

lemma parse_of_error (h : read b = .error fault) : read.parse b = .error fault := by
  rw [Reader.parse, h]
  rfl

/-- Nobody reads on after a fault. -/
lemma Refuses.bind (h : Refuses read b fault) (next : α → Reader β) (c : Bytes) :
    Refuses (read >>= next) (b ++ c) fault := by
  intro rest
  rw [List.append_assoc]
  exact bind_of_error (h (c ++ rest)) next

/-- The fault may be in what comes after octets that are read. -/
lemma Reads.refuses (h : Reads read b a) {next : α → Reader β} (g : Refuses (next a) c fault) :
    Refuses (read >>= next) (b ++ c) fault := by
  intro rest
  rw [List.append_assoc, bind_of_reads h]
  exact g rest

lemma Refuses.parse_append (h : Refuses read b fault) (rest : Bytes) :
    read.parse (b ++ rest) = .error fault :=
  parse_of_error (h rest)

lemma Refuses.parse (h : Refuses read b fault) : read.parse b = .error fault := by
  have hall := h.parse_append []
  rwa [List.append_nil] at hall

/-- A fault in octets that were cut out is one of what they were cut out of. -/
lemma Refuses.within (h : Refuses read b fault) : Refuses (Layout.within b read) [] fault := by
  intro rest
  rw [Layout.within, h.parse]
  rfl

end Refuses

/-! ## Numbers -/

@[simp] lemma length_littleEndian (width n : Nat) : (littleEndian width n).length = width := by
  induction width generalizing n with
  | zero => rfl
  | succ width ih => rw [littleEndian, List.length_cons, ih]

lemma number_littleEndian {width n : Nat} (h : n < 256 ^ width) :
    number (littleEndian width n) = n := by
  induction width generalizing n with
  | zero =>
    rw [Nat.pow_zero] at h
    show 0 = n
    omega
  | succ width ih =>
    have hrest : n / 256 < 256 ^ width := by
      rw [Nat.pow_succ] at h
      exact Nat.div_lt_of_lt_mul (by rwa [Nat.mul_comm])
    rw [littleEndian, number, ih hrest, UInt8.toNat_ofNat']
    omega

lemma reads_take (b : Bytes) : Reads (take b.length) b b := by
  intro rest
  rw [take, if_neg (by simp), List.take_left, List.drop_left]

lemma reads_takeNumber {width n : Nat} (h : n < 256 ^ width) :
    Reads (takeNumber width) (littleEndian width n) n := by
  have htake := reads_take (littleEndian width n)
  rw [length_littleEndian] at htake
  have hread := htake.map number
  rwa [number_littleEndian h] at hread

lemma reads_takeByte (octet : UInt8) : Reads takeByte [octet] octet :=
  fun _ => rfl

/-! ## Strings of octets -/

lemma putLength_eq_ok {n : Nat} {b : Bytes} (h : putLength n = .ok b) :
    n < 0x100000000 ∧ b = littleEndian 4 n := by
  unfold putLength at h
  split at h
  · rename_i hlt
    exact ⟨hlt, (Except.ok.inj h).symm⟩
  · cases h

lemma bind_eq_ok {α β ε : Type} {x : Except ε α} {f : α → Except ε β} {b : β}
    (h : x >>= f = .ok b) : ∃ a, x = .ok a ∧ f a = .ok b := by
  cases x with
  | error fault => cases h
  | ok a => exact ⟨a, rfl, h⟩

lemma putBytes_eq_ok {data b : Bytes} (h : putBytes data = .ok b) :
    data.length < 0x100000000 ∧ b = littleEndian 4 data.length ++ data := by
  obtain ⟨length, hlength, hb⟩ := bind_eq_ok h
  obtain ⟨hlt, rfl⟩ := putLength_eq_ok hlength
  exact ⟨hlt, (Except.ok.inj hb).symm⟩

lemma reads_takeBytes {data : Bytes} (h : data.length < 0x100000000) :
    Reads takeBytes (littleEndian 4 data.length ++ data) data :=
  (reads_takeNumber h).bind take (reads_take data)

lemma takeBytes_putBytes (data : Bytes) : Undoes takeBytes putBytes data := by
  intro b h
  obtain ⟨hlt, rfl⟩ := putBytes_eq_ok h
  exact reads_takeBytes hlt

lemma takeText_putText (s : String) : Undoes takeText putText s := by
  intro b h
  refine (takeBytes_putBytes (Bytes.ofText s) b h).andThen _ ?_
  rw [Bytes.text?_ofText]
  exact .pure s

/-- A string of octets takes four octets at least. -/
lemma four_le_putBytes {data b : Bytes} (h : putBytes data = .ok b) : 4 ≤ b.length := by
  obtain ⟨-, rfl⟩ := putBytes_eq_ok h
  rw [List.length_append, length_littleEndian]
  omega

/-! ## Sequences -/

section Sequences

variable {α : Type} {read : Reader α} {put : α → Except FormatError Bytes}

lemma takeEach_putEach {items : List α} (h : ∀ a ∈ items, Undoes read put a) {b : Bytes}
    (hput : putEach put items = .ok b) : Reads (takeEach read items.length) b items := by
  induction items generalizing b with
  | nil =>
    cases hput
    exact .pure []
  | cons item rest ih =>
    obtain ⟨first, hfirst, hput⟩ := bind_eq_ok hput
    obtain ⟨others, hothers, hput⟩ := bind_eq_ok hput
    obtain rfl := Except.ok.inj hput
    have hrest := ih (fun a ha => h a (List.mem_cons_of_mem _ ha)) hothers
    exact (h item List.mem_cons_self first hfirst).bind _ (hrest.map (item :: ·))

/-- Elements of four octets at least leave room for their count. -/
lemma length_putEach (hfour : ∀ a b, put a = .ok b → 4 ≤ b.length) {items : List α} {b : Bytes}
    (h : putEach put items = .ok b) : 4 * items.length ≤ b.length := by
  induction items generalizing b with
  | nil => simp
  | cons item rest ih =>
    obtain ⟨first, hfirst, h⟩ := bind_eq_ok h
    obtain ⟨others, hothers, h⟩ := bind_eq_ok h
    obtain rfl := Except.ok.inj h
    have := hfour item first hfirst
    have := ih hothers
    rw [List.length_cons, List.length_append]
    omega

lemma takeAll_putAll {items : List α} (h : ∀ a ∈ items, Undoes read put a)
    (hfour : ∀ a b, put a = .ok b → 4 ≤ b.length) :
    Undoes (takeAll read) (putAll put) items := by
  intro b hput
  obtain ⟨length, hlength, hput⟩ := bind_eq_ok hput
  obtain ⟨hlt, rfl⟩ := putLength_eq_ok hlength
  obtain ⟨each, heach, hput⟩ := bind_eq_ok hput
  obtain rfl := Except.ok.inj hput
  intro rest
  have hroom := length_putEach hfour heach
  -- The count is read while all elements are still there.
  have hcount : takeCount (littleEndian 4 items.length ++ (each ++ rest)) =
      .ok (items.length, each ++ rest) := by
    have hnumber : Reads (takeNumber 4) (littleEndian 4 items.length) items.length :=
      reads_takeNumber hlt
    show (takeNumber 4 (littleEndian 4 items.length ++ (each ++ rest)) >>=
      fun (r : Nat × Bytes) => _) = _
    rw [hnumber (each ++ rest)]
    show (if (each ++ rest).length / 4 < items.length then _ else _ : Reader Nat) (each ++ rest) = _
    rw [if_neg]
    · rfl
    · rw [List.length_append]
      omega
  show (takeCount (littleEndian 4 items.length ++ each ++ rest) >>=
    fun (r : Nat × Bytes) => takeEach read r.1 r.2) = _
  rw [List.append_assoc, hcount]
  exact takeEach_putEach h heach rest

/-- Strings of octets are read back one after the other. -/
lemma takeAll_putBytes (items : List Bytes) :
    Undoes (takeAll takeBytes) (putAll putBytes) items :=
  takeAll_putAll (fun data _ => takeBytes_putBytes data) fun _ _ => four_le_putBytes

end Sequences

/-! ## Blobs -/

/-- The octets of a blob. -/
def blob (payload : Bytes) : Bytes :=
  littleEndian 4 payload.length ++ (payload ++ littleEndian 4 (Checksum.crc32 payload).toNat)

@[simp] lemma length_blob (payload : Bytes) : (blob payload).length = 8 + payload.length := by
  simp [blob]
  omega

lemma putBlob_eq_ok {payload b : Bytes} (h : putBlob payload = .ok b) :
    payload.length < 0x100000000 ∧ b = blob payload := by
  obtain ⟨framed, hframed, h⟩ := bind_eq_ok h
  obtain ⟨hlt, rfl⟩ := putBytes_eq_ok hframed
  rw [← Except.ok.inj h, blob, List.append_assoc]
  exact ⟨hlt, rfl⟩

/-- A blob gives its payload back; the checksum that was written holds. -/
lemma reads_takeBlob {payload : Bytes} (h : payload.length < 0x100000000) :
    Reads takeBlob (blob payload) payload := by
  have hsum : (Checksum.crc32 payload).toNat < 256 ^ 4 := (Checksum.crc32 payload).toNat_lt
  rw [blob, ← List.append_assoc]
  refine (reads_takeBytes h).bind _ ((reads_takeNumber hsum).andThen _ ?_)
  dsimp only
  rw [if_pos UInt32.ofNat_toNat]
  exact .pure payload

lemma takeBlob_putBlob (payload : Bytes) : Undoes takeBlob putBlob payload := by
  intro b h
  obtain ⟨hlt, rfl⟩ := putBlob_eq_ok h
  exact reads_takeBlob hlt

end ReplicatedStore.Layout
