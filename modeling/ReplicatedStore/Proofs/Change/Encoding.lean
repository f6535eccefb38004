import ReplicatedStore.Change.Encoding
import ReplicatedStore.Proofs.Encoding.Layout

/-!
# A change arrives as it was sent

Every change that can be encoded is read back from its encoded form, whatever follows it
(`decode_encode`), as long as its version leaves the highest bit of its word free.
-/

namespace ReplicatedStore.Change

open Layout

/-- Does the version of the change, if it has one, read back as it is? -/
def HasPlainVersion (c : Change) : Prop :=
  ∀ v, c.version = some v → v < 0x8000000000000000

lemma takeVersion_plain {c : Change} (h : c.HasPlainVersion) :
    Reads takeVersion (littleEndian 8 (c.version.getD noVersion)) c.version := by
  cases hversion : c.version with
  | none =>
    refine (reads_takeNumber (by decide)).andThen _ ?_
    rw [Option.getD_none, if_pos rfl]
    exact .pure none
  | some v =>
    have hv := h v hversion
    rw [Option.getD_some]
    refine (reads_takeNumber (by omega)).andThen _ ?_
    rw [if_neg (by rw [noVersion]; omega), if_pos hv]
    exact .pure (some v)

lemma takePayload_putPayload {c : Change} (hplain : c.HasPlainVersion) {b : Bytes}
    (h : c.putPayload = .ok b) : Reads takePayload b c := by
  obtain ⟨db, hdb, h⟩ := bind_eq_ok h
  obtain ⟨command, hcommand, h⟩ := bind_eq_ok h
  obtain ⟨args, hargs, h⟩ := bind_eq_ok h
  obtain rfl := Except.ok.inj h
  have hread : Reads (takeAll takeBytes >>= fun args =>
      Pure.pure (⟨c.db, c.command, args, c.version⟩ : Change)) args c :=
    (takeAll_putBytes c.args args hargs).map _
  rw [List.append_assoc, List.append_assoc]
  exact (takeVersion_plain hplain).bind _ ((takeText_putText c.db db hdb).bind _
    ((takeText_putText c.command command hcommand).bind _ hread))

lemma reads_takeHeader : Reads takeHeader (magic ++ [formatVersion]) () :=
  fun _ => rfl

/-- The encoded form of a change is read as that change. -/
lemma reads_takeChange {c : Change} (hplain : c.HasPlainVersion) {b : Bytes}
    (h : c.encode = .ok b) : Reads takeChange b c := by
  obtain ⟨payload, hpayload, h⟩ := bind_eq_ok h
  obtain ⟨blob, hblob, h⟩ := bind_eq_ok h
  obtain rfl := Except.ok.inj h
  rw [show magic ++ formatVersion :: blob = (magic ++ [formatVersion]) ++ blob by simp]
  refine reads_takeHeader.bind _ ((takeBlob_putBlob payload blob hblob).andThen _ ?_)
  exact (takePayload_putPayload hplain hpayload).within

/-- **A change is read back from its encoded form.** -/
theorem decode_encode {c : Change} (hplain : c.HasPlainVersion) {b : Bytes}
    (h : c.encode = .ok b) : decode b = .ok c :=
  (reads_takeChange hplain h).parse

end ReplicatedStore.Change
