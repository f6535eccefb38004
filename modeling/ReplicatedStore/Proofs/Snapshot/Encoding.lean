import ReplicatedStore.Proofs.Encoding.Layout
import ReplicatedStore.Snapshot.Encoding

/-!
# A snapshot is read back as it was written

Every snapshot that can be encoded is read back from its encoded form (`decode_encode`), where the
ends of its keys must fit in the eight octets that they are given.
-/

open Std (ExtTreeMap ExtTreeSet)

namespace ReplicatedStore.Snapshot

open Layout

/-! ## Maps and sets as lists -/

section Collections

variable {α β : Type} [Ord α] [Std.TransOrd α] [Std.LawfulEqOrd α] [DecidableEq α]

/-- The bindings of a map make up the map. -/
lemma ofList_toList (m : ExtTreeMap α β) : ExtTreeMap.ofList m.toList = m := by
  refine ExtTreeMap.ext_getElem? fun key => ?_
  cases hm : m[key]? with
  | some value =>
    exact ExtTreeMap.getElem?_ofList_of_mem (Std.LawfulEqCmp.compare_eq_iff_eq.mpr rfl)
      ExtTreeMap.distinct_keys_toList (ExtTreeMap.mem_toList_iff_getElem?_eq_some.mpr hm)
  | none =>
    refine ExtTreeMap.getElem?_eq_none fun hmem => ?_
    have hkey : key ∈ m := by simpa using hmem
    rw [ExtTreeMap.mem_iff_isSome_getElem?, hm] at hkey
    cases hkey

/-- The members of a set make up the set. -/
lemma ofList_toList_set (s : ExtTreeSet α) : ExtTreeSet.ofList s.toList = s := by
  refine ExtTreeSet.ext_mem fun member => ?_
  rw [ExtTreeSet.mem_ofList, List.contains_iff_mem, ExtTreeSet.mem_toList]

end Collections

/-! ## Values and deadlines -/

lemma takeValue_putValue (value : Value) : Undoes takeValue putValue value := by
  intro b h
  cases value with
  | string data =>
    obtain ⟨written, hwritten, h⟩ := bind_eq_ok h
    obtain rfl := Except.ok.inj h
    refine (reads_takeByte stringTag).bind _ ?_
    rw [if_pos rfl]
    exact (takeBytes_putBytes data written hwritten).map _
  | list items =>
    obtain ⟨written, hwritten, h⟩ := bind_eq_ok h
    obtain rfl := Except.ok.inj h
    refine (reads_takeByte listTag).bind _ ?_
    rw [if_neg (by decide), if_pos rfl]
    exact (takeAll_putBytes items written hwritten).map _
  | set members =>
    obtain ⟨written, hwritten, h⟩ := bind_eq_ok h
    obtain rfl := Except.ok.inj h
    refine (reads_takeByte setTag).bind _ ?_
    rw [if_neg (by decide), if_neg (by decide), if_pos rfl]
    have hread := (takeAll_putBytes members.toList written hwritten).map fun items =>
      Value.set (ExtTreeSet.ofList items)
    rwa [ofList_toList_set] at hread

lemma takeEntry_putEntry (entry : String × Value) : Undoes takeEntry putEntry entry := by
  intro b h
  obtain ⟨name, hname, h⟩ := bind_eq_ok h
  obtain ⟨written, hwritten, h⟩ := bind_eq_ok h
  obtain rfl := Except.ok.inj h
  exact (takeText_putText entry.1 name hname).bind _
    ((takeValue_putValue entry.2 written hwritten).map _)

/-- An end that fits in its octets is read back. -/
lemma takeDeadline_putDeadline {entry : String × Nat} (hfits : entry.2 < 256 ^ 8) :
    Undoes takeDeadline putDeadline entry := by
  intro b h
  obtain ⟨name, hname, h⟩ := bind_eq_ok h
  obtain rfl := Except.ok.inj h
  exact (takeText_putText entry.1 name hname).bind _ ((reads_takeNumber hfits).map _)

/-! ## Databases -/

/-- What starts with a name takes four octets at least. -/
lemma four_le_named {name written : Bytes} {s : String} (h : putText s = .ok name) :
    4 ≤ (name ++ written).length := by
  have := four_le_putBytes h
  rw [List.length_append]
  omega

lemma four_le_putEntry (entry : String × Value) (b : Bytes) (h : putEntry entry = .ok b) :
    4 ≤ b.length := by
  obtain ⟨name, hname, h⟩ := bind_eq_ok h
  obtain ⟨written, -, h⟩ := bind_eq_ok h
  obtain rfl := Except.ok.inj h
  exact four_le_named hname

lemma four_le_putDeadline (entry : String × Nat) (b : Bytes) (h : putDeadline entry = .ok b) :
    4 ≤ b.length := by
  obtain ⟨name, hname, h⟩ := bind_eq_ok h
  obtain rfl := Except.ok.inj h
  exact four_le_named hname

section Databases

variable {α : Type} {read : Reader (String × α)} {put : String × α → Except FormatError Bytes}

lemma takeDatabase_putDatabase {entry : String × ExtTreeMap String α}
    (h : ∀ binding ∈ entry.2.toList, Undoes read put binding)
    (hfour : ∀ a b, put a = .ok b → 4 ≤ b.length) :
    Undoes (takeDatabase read) (putDatabase put) entry := by
  intro b hput
  obtain ⟨name, hname, hput⟩ := bind_eq_ok hput
  obtain ⟨written, hwritten, hput⟩ := bind_eq_ok hput
  obtain rfl := Except.ok.inj hput
  have hread := (takeAll_putAll h hfour written hwritten).map fun bindings =>
    (entry.1, ExtTreeMap.ofList bindings)
  rw [ofList_toList] at hread
  exact (takeText_putText entry.1 name hname).bind _ hread

lemma four_le_putDatabase (entry : String × ExtTreeMap String α) (b : Bytes)
    (h : putDatabase put entry = .ok b) : 4 ≤ b.length := by
  obtain ⟨name, hname, h⟩ := bind_eq_ok h
  obtain ⟨written, -, h⟩ := bind_eq_ok h
  obtain rfl := Except.ok.inj h
  exact four_le_named hname

/-- A blob of databases is read back. -/
lemma takeDatabases_putBlob {m : ExtTreeMap String (ExtTreeMap String α)}
    (h : ∀ entry ∈ m.toList, ∀ binding ∈ entry.2.toList, Undoes read put binding)
    (hfour : ∀ a b, put a = .ok b → 4 ≤ b.length) {payload : Bytes}
    (hput : putAll (putDatabase put) m.toList = .ok payload) :
    Reads (takeAll (takeDatabase read)) payload m.toList :=
  takeAll_putAll (fun entry hentry => takeDatabase_putDatabase (h entry hentry) hfour)
    four_le_putDatabase payload hput

end Databases

/-! ## Snapshots -/

/-- Do the ends of all keys fit in the octets that they are given? -/
def EndsFit (s : Snapshot) : Prop :=
  ∀ (db : String) keys, s.expires[db]? = some keys →
    ∀ (key : String) deadline, keys[key]? = some deadline → deadline < 256 ^ 8

lemma reads_takeHeader : Reads takeHeader (magic ++ [formatVersion]) () :=
  fun _ => rfl

/-- A snapshot is what its two blobs are read as, whatever stands behind their last elements. -/
lemma reads_takeSnapshot_blobs {values ends : Bytes}
    {databases : List (String × Database)} {deadlines : List (String × ExtTreeMap String Nat)}
    (hvaluesFit : values.length < 0x100000000) (hendsFit : ends.length < 0x100000000)
    (hvalues : (takeAll (takeDatabase takeEntry)).parse values = .ok databases)
    (hends : (takeAll (takeDatabase takeDeadline)).parse ends = .ok deadlines) :
    Reads takeSnapshot ((magic ++ [formatVersion]) ++ (blob values ++ blob ends))
      ⟨ExtTreeMap.ofList databases, ExtTreeMap.ofList deadlines⟩ :=
  reads_takeHeader.bind _ ((reads_takeBlob hvaluesFit).bind _ ((reads_within hvalues).bind _
    ((reads_takeBlob hendsFit).andThen _ ((reads_within hends).map _))))

/-- The encoded form of a snapshot is read as that snapshot. -/
lemma reads_takeSnapshot {s : Snapshot} (hfits : s.EndsFit) {b : Bytes} (h : s.encode = .ok b) :
    Reads takeSnapshot b s := by
  obtain ⟨values, hvalues, h⟩ := bind_eq_ok h
  obtain ⟨expires, hexpires, h⟩ := bind_eq_ok h
  obtain ⟨first, hfirst, h⟩ := bind_eq_ok h
  obtain ⟨second, hsecond, h⟩ := bind_eq_ok h
  obtain ⟨hvaluesFit, rfl⟩ := putBlob_eq_ok hfirst
  obtain ⟨hendsFit, rfl⟩ := putBlob_eq_ok hsecond
  obtain rfl := Except.ok.inj h
  have hreadValues := takeDatabases_putBlob
    (fun _ _ entry _ => takeEntry_putEntry entry) four_le_putEntry hvalues
  have hdeadline : ∀ entry ∈ s.expires.toList, ∀ binding ∈ entry.2.toList,
      Undoes takeDeadline putDeadline binding := by
    intro entry hentry binding hbinding
    refine takeDeadline_putDeadline (hfits entry.1 entry.2 ?_ binding.1 binding.2 ?_)
    · exact ExtTreeMap.mem_toList_iff_getElem?_eq_some.mp hentry
    · exact ExtTreeMap.mem_toList_iff_getElem?_eq_some.mp hbinding
  have hreadExpires := takeDatabases_putBlob hdeadline four_le_putDeadline hexpires
  have hread := reads_takeSnapshot_blobs hvaluesFit hendsFit hreadValues.parse hreadExpires.parse
  rw [ofList_toList, ofList_toList] at hread
  have hbytes : magic ++ formatVersion :: blob values ++ blob expires =
      (magic ++ [formatVersion]) ++ (blob values ++ blob expires) := by simp
  rw [hbytes]
  exact hread

/-- **A snapshot is read back from its encoded form.** -/
theorem decode_encode {s : Snapshot} (hfits : s.EndsFit) {b : Bytes} (h : s.encode = .ok b) :
    decode b = .ok s :=
  (reads_takeSnapshot hfits h).parse

end ReplicatedStore.Snapshot
