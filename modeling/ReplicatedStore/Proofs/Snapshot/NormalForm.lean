import ReplicatedStore.Proofs.Encoding.Backing
import ReplicatedStore.Proofs.Store.Saving

/-!
# Every snapshot that is read can be written

Octets that are read as a snapshot need not be what is written for it: names and members may come
twice and in any order, and octets may stand behind the last element of a blob and behind the second
blob.  What is written instead is read as the same snapshot, and is no longer (`has_normal_form`).

That it can be written at all is a matter of size.  Of bindings with one name a map keeps one, and
of equal members a set keeps one, so a snapshot is never larger than the blobs it was read from, and
those had lengths of 32 bits (`backed_takeSnapshot`).

A store that takes a snapshot lets go of keys whose end has passed and of ends without a key, and it
may have to add the default database.  So it can save what it took whenever there are octets to
spare for an empty database (`Fits.restored`).
-/

open Std (ExtTreeMap ExtTreeSet)

namespace ReplicatedStore.Snapshot

open Layout

/-! ## What is read -/

lemma backed_takeValue : Backed takeValue valueSize (fun _ => True) := by
  refine backed_takeByte.bind fun tag _ => ?_
  split
  · exact backed_takeBytes.map (fun data => by rw [valueSize]; omega) fun _ _ => trivial
  · split
    · exact backed_takeBytes.takeAll.map (fun items => by rw [valueSize]; omega) fun _ _ => trivial
    · split
      · refine backed_takeBytes.takeAll.map (fun members => ?_) fun _ _ => trivial
        have hkept : allSize bytesSize (ExtTreeSet.ofList members).toList ≤
            allSize bytesSize members := allSize_le_of_subperm (subperm_ofList_set members)
        rw [valueSize]
        omega
      · exact backed_fail _

lemma backed_takeEntry : Backed takeEntry entrySize (fun _ => True) :=
  backed_takeText.bind fun name _ =>
    backed_takeValue.map (fun value => by rw [entrySize]; dsimp only; omega) fun _ _ => trivial

lemma backed_takeDeadline : Backed takeDeadline deadlineSize (fun entry => entry.2 < 256 ^ 8) :=
  backed_takeText.bind fun name _ =>
    (backed_takeNumber 8).map (fun deadline => by rw [deadlineSize]; dsimp only; omega)
      fun _ hfits => hfits

section Databases

variable {α : Type} {read : Reader (String × α)} {size : String × α → Nat}
  {sound : String × α → Prop}

/-- All bindings of the databases are sound. -/
def AllSound (sound : String × α → Prop) (entries : List (String × ExtTreeMap String α)) : Prop :=
  ∀ entry ∈ entries, ∀ binding ∈ entry.2.toList, sound binding

lemma backed_takeDatabase (h : Backed read size sound) :
    Backed (takeDatabase read) (databaseSize size)
      (fun entry => ∀ binding ∈ entry.2.toList, sound binding) := by
  refine backed_takeText.bind fun name _ =>
    h.takeAll.map (fun bindings => ?_) fun bindings hall => ?_
  · have hkept : allSize size (ExtTreeMap.ofList bindings).toList ≤ allSize size bindings :=
      allSize_le_of_subperm (subperm_ofList bindings)
    rw [databaseSize]
    dsimp only
    omega
  · exact fun binding hmem => hall binding ((subperm_ofList bindings).subset hmem)

/-- What a blob of databases is read as is no larger than the blob. -/
lemma backed_within_databases (h : Backed read size sound) (payload : Bytes) :
    Backed (within payload (takeAll (takeDatabase read))) (fun _ => 0)
      (fun entries => allSize (databaseSize size) (ExtTreeMap.ofList entries).toList ≤
        payload.length ∧ AllSound sound (ExtTreeMap.ofList entries).toList) := by
  intro b entries rest hread
  obtain ⟨hle, hentries, hall⟩ :=
    (backed_takeDatabase h).takeAll.within payload b entries rest hread
  have hkept := subperm_ofList entries
  exact ⟨hle, Nat.le_trans (allSize_le_of_subperm hkept) hentries,
    fun entry hmem => hall entry (hkept.subset hmem)⟩

end Databases

/-- The size of a snapshot with its mark, its version and what its blobs need. -/
def encodedSize (s : Snapshot) : Nat :=
  21 + s.valuesSize + s.endsSize

lemma backed_takeHeader : Backed takeHeader (fun _ => 5) (fun _ => True) := by
  refine (backed_take magic.length).bind fun mark hmark => ?_
  have hlength : mark.length = 4 := hmark
  split
  · exact backed_fail _
  · refine backed_takeByte.bind fun version _ => ?_
    split
    · exact backed_fail _
    · exact .pure (by omega) trivial

/-- A snapshot that is read fits in the format, and in the octets it was read from. -/
lemma backed_takeSnapshot : Backed takeSnapshot encodedSize Fits := by
  refine backed_takeHeader.bind fun _ _ => backed_takeBlob.bind fun values hvalues =>
    (backed_within_databases backed_takeEntry values).bind fun databases hdatabases =>
      backed_takeBlob.bind fun ends hends =>
        (backed_within_databases backed_takeDeadline ends).bind fun deadlines hdeadlines => ?_
  obtain ⟨hvaluesSize, -⟩ := hdatabases
  obtain ⟨hendsSize, hfit⟩ := hdeadlines
  refine .pure ?_ ⟨Nat.lt_of_le_of_lt hvaluesSize hvalues, Nat.lt_of_le_of_lt hendsSize hends, ?_⟩
  · simp only [encodedSize, valuesSize, endsSize]
    omega
  · intro db keys hkeys key deadline hkey
    exact hfit (db, keys) (ExtTreeMap.mem_toList_iff_getElem?_eq_some.mpr hkeys) (key, deadline)
      (ExtTreeMap.mem_toList_iff_getElem?_eq_some.mpr hkey)

/-! ## What is written instead -/

/-- A snapshot is written in as many octets as its size says. -/
lemma Fits.length_encode {s : Snapshot} (h : s.Fits) {b : Bytes} (hencode : s.encode = .ok b) :
    b.length = s.encodedSize := by
  obtain ⟨values, hvalues, hencode⟩ := bind_eq_ok hencode
  obtain ⟨ends, hends, hencode⟩ := bind_eq_ok hencode
  obtain ⟨first, hfirst, hencode⟩ := bind_eq_ok hencode
  obtain ⟨second, hsecond, hencode⟩ := bind_eq_ok hencode
  obtain ⟨-, rfl⟩ := putBlob_eq_ok hfirst
  obtain ⟨-, rfl⟩ := putBlob_eq_ok hsecond
  obtain ⟨written, hwritten, hvaluesLength⟩ :=
    sized_putDatabases sized_putEntry four_le_entrySize s.values.toList h.values
  obtain rfl : written = values := Except.ok.inj (hwritten.symm.trans hvalues)
  obtain ⟨written', hwritten', hendsLength⟩ :=
    sized_putDatabases sized_putDeadline four_le_deadlineSize s.expires.toList h.ends
  obtain rfl : written' = ends := Except.ok.inj (hwritten'.symm.trans hends)
  rw [← Except.ok.inj hencode, List.length_append, List.length_append, List.length_cons,
    length_blob, length_blob, hvaluesLength, hendsLength]
  simp only [encodedSize, valuesSize, endsSize, magic, List.length_cons, List.length_nil]
  omega

/-- A snapshot that fits is read back from what is written for it. -/
lemma Fits.kept_alone {s : Snapshot} (h : s.Fits) : ∃ b, s.encode = .ok b ∧ decode b = .ok s := by
  obtain ⟨b, hencode, hkept⟩ := h.kept
  have hdecode := hkept []
  rw [List.append_nil] at hdecode
  exact ⟨b, hencode, hdecode⟩

/-! ## What a store makes of it -/

section Restored

variable [Clock] (store : Store) (now wall : Nat) (s : Snapshot)

/-- What a key holds after restoring is what it holds in the snapshot. -/
lemma value?_of_restored {db key : String} {value : Value}
    (h : (store.restore now wall s).value? db key = some value) : s.value? db key = some value := by
  rw [(store.restored now wall s db key).1] at h
  split at h
  · cases h
  · exact h

/-- A key that has a deadline after restoring has an end in the snapshot. -/
lemma end?_of_restored {db key : String} {deadline : Nat}
    (h : (store.restore now wall s).deadline? db key = some deadline) :
    ∃ ending, s.end? db key = some ending := by
  rw [(store.restored now wall s db key).2] at h
  obtain ⟨value, -, h⟩ := Option.bind_eq_some_iff.mp h
  obtain ⟨ending, hending, -⟩ := Option.bind_eq_some_iff.mp h
  exact ⟨ending, hending⟩

/-- The restored databases are those of the snapshot, with fewer keys, and the default one. -/
lemma valuesSize_restored (later wallLater : Nat) :
    ((store.restore now wall s).snapshot later wallLater).valuesSize ≤
      databaseSize entrySize (Store.defaultDatabase, ∅) + s.valuesSize := by
  refine Nat.le_trans (allSize_toList_le fun db keys hkeys => ?_)
    (allSize_insertIfNew_le s.values Store.defaultDatabase ∅)
  have hmem : db ∈ s.values.insertIfNew Store.defaultDatabase ∅ := by
    have hdb := (Store.mem_databases_restore store now wall s db).mp
      (ExtTreeMap.mem_iff_isSome_getElem?.mpr (Option.isSome_iff_exists.mpr ⟨keys, hkeys⟩))
    rw [ExtTreeMap.mem_insertIfNew, Std.compare_eq_iff_eq, eq_comm]
    exact hdb
  obtain ⟨larger, hlarger⟩ :=
    Option.isSome_iff_exists.mp (ExtTreeMap.mem_iff_isSome_getElem?.mp hmem)
  refine ⟨larger, hlarger, Nat.add_le_add_left (allSize_toList_le fun key value hvalue => ?_) _⟩
  have hheld : (store.restore now wall s).value? db key = some value := by
    rw [Store.value?]
    exact Option.bind_eq_some_iff.mpr ⟨keys, hkeys, hvalue⟩
  have hbare : (store.bare s).value? db key = some value :=
    (store.value?_bare s db key).trans (value?_of_restored store now wall s hheld)
  obtain ⟨keys', hkeys', hvalue'⟩ := Option.bind_eq_some_iff.mp hbare
  obtain rfl : keys' = larger := Option.some.inj (hkeys'.symm.trans hlarger)
  exact ⟨value, hvalue', Nat.le_refl _⟩

/-- A database that a snapshot of a store has ends for has one at least. -/
lemma exists_of_expires {a : Store} {later wallLater : Nat} {db : String}
    {keys : ExtTreeMap String Nat}
    (h : (a.snapshot later wallLater).expires[db]? = some keys) :
    ∃ (key : String) (deadline : Nat), keys[key]? = some deadline := by
  simp only [Store.snapshot, ExtTreeMap.getElem?_map, ExtTreeMap.getElem?_filter',
    Option.map_eq_some_iff, Option.filter_eq_some_iff] at h
  obtain ⟨deadlines, ⟨-, hfilled⟩, rfl⟩ := h
  have hsome : ¬ deadlines = ∅ := by
    rintro rfl
    cases hfilled
  obtain ⟨key, hkey⟩ : ∃ key, key ∈ deadlines := by
    by_contra hnone
    exact hsome (ExtTreeMap.eq_empty_iff_forall_not_mem.mpr fun key hkey => hnone ⟨key, hkey⟩)
  refine ⟨key, Store.wallTime later wallLater deadlines[key], ?_⟩
  rw [ExtTreeMap.getElem?_map, ExtTreeMap.getElem?_eq_some_getElem hkey]
  rfl

/-- The restored deadlines are those of keys that have an end in the snapshot. -/
lemma endsSize_restored (later wallLater : Nat) :
    ((store.restore now wall s).snapshot later wallLater).endsSize ≤ s.endsSize := by
  refine allSize_toList_le fun db keys hkeys => ?_
  have hended : ∀ key deadline, keys[key]? = some deadline →
      ∃ ending, s.end? db key = some ending := by
    intro key deadline hkey
    have hend : ((store.restore now wall s).snapshot later wallLater).end? db key =
        some deadline := by
      rw [end?, hkeys, Option.bind_some, hkey]
    rw [Store.end?_snapshot] at hend
    obtain ⟨d, hd, -⟩ := Option.map_eq_some_iff.mp hend
    exact end?_of_restored store now wall s hd
  -- Databases without deadlines are left out, so there is a key to go by.
  obtain ⟨larger, hlarger⟩ : ∃ larger, s.expires[db]? = some larger := by
    obtain ⟨key, deadline, hkey⟩ := exists_of_expires hkeys
    obtain ⟨ending, hending⟩ := hended key deadline hkey
    obtain ⟨larger, hlarger, -⟩ := Option.bind_eq_some_iff.mp hending
    exact ⟨larger, hlarger⟩
  refine ⟨larger, hlarger, Nat.add_le_add_left (allSize_toList_le fun key deadline hkey => ?_) _⟩
  obtain ⟨ending, hending⟩ := hended key deadline hkey
  obtain ⟨keys', hkeys', hending'⟩ := Option.bind_eq_some_iff.mp hending
  obtain rfl : keys' = larger := Option.some.inj (hkeys'.symm.trans hlarger)
  exact ⟨ending, hending', Nat.le_refl _⟩

/-- A snapshot that leaves octets to spare for an empty database fits again after restoring, on
clocks that have not reached the end of the unix time. -/
lemma Fits.restored {s : Snapshot} (h : s.Fits)
    (hroom : databaseSize entrySize (Store.defaultDatabase, ∅) + s.valuesSize < 0x100000000)
    (store : Store) {now later wallLater : Nat} (wall : Nat) (hlater : now ≤ later)
    (hclock : wallLater + Store.longestLife < 2 ^ 64) :
    ((store.restore now wall s).snapshot later wallLater).Fits := by
  refine ⟨?_, ?_, Store.endsFit_snapshot fun db key d hd => ?_⟩
  · exact Nat.lt_of_le_of_lt (valuesSize_restored store now wall s later wallLater) hroom
  · exact Nat.lt_of_le_of_lt (endsSize_restored store now wall s later wallLater) h.ends
  · have hlast := (store.endsBy_restore now wall s).mono (Nat.add_le_add_right hlater _)
    have hleft := Store.wholeMillis_sub_le (hlast db key d hd)
    unfold Store.wallTime
    omega

end Restored

/-! ## The normal form -/

/-- **Whatever is read has a normal form.**  Octets that are read as a snapshot, written by anyone:
the snapshot can be written again, in no more octets, and is read back from these as it is.  So a
store takes the one for the other; and what it has taken it can save, or send on, at any later time,
to be read as it is then.  Only of more than 2^32 octets might there be no room for the default
database, which the store adds. -/
theorem has_normal_form [Clock] {b : Bytes} {s : Snapshot} (h : decode b = .ok s) :
    (∃ normal, s.encode = .ok normal ∧ normal.length ≤ b.length ∧ decode normal = .ok s ∧
      ∀ (store : Store) (now wall version : Nat),
        store.replace now wall version normal = store.replace now wall version b) ∧
    (b.length ≤ 0x100000000 →
      ∀ (store : Store) (now wall version later wallLater : Nat),
        now ≤ later → wallLater + Store.longestLife < 2 ^ 64 →
        ∃ taken saved, store.replace now wall version b = (.ok (), taken) ∧
          taken.dump later wallLater = .ok (version, saved) ∧
          decode saved = .ok (taken.snapshot later wallLater)) := by
  obtain ⟨hsize, hfits⟩ := backed_takeSnapshot.parse_le h
  refine ⟨?_, fun hlength store now wall version later wallLater hlater hclock => ?_⟩
  · obtain ⟨normal, hencode, hdecode⟩ := hfits.kept_alone
    refine ⟨normal, hencode, ?_, hdecode, fun store now wall version => ?_⟩
    · rw [hfits.length_encode hencode]
      exact hsize
    · rw [Store.replace, hdecode, Store.replace, h]
  · have hempty : databaseSize entrySize (Store.defaultDatabase, ∅) = 9 := by decide +kernel
    have hroom : databaseSize entrySize (Store.defaultDatabase, ∅) + s.valuesSize <
        0x100000000 := by
      unfold encodedSize at hsize
      omega
    have hagain := hfits.restored hroom store wall hlater hclock
    obtain ⟨saved, hencode, hdecode⟩ := hagain.kept_alone
    refine ⟨{ store.restore now wall s with revision := version, changed := true }, saved, ?_, ?_,
      hdecode⟩
    · rw [Store.replace, h]
    · show (do return (version, ← ((store.restore now wall s).snapshot later wallLater).encode)) = _
      rw [hencode]
      rfl

/-- A string of octets after its length. -/
def counted (data : Bytes) : Bytes :=
  littleEndian 4 data.length ++ data

/-- A database that comes twice, the second time with a key that comes twice and behind the key that
follows it, and with a set that has a member twice; an octet stands behind the last element. -/
def untidyValues : Bytes :=
  littleEndian 4 2 ++
    counted [0x30] ++ littleEndian 4 1 ++
      counted [0x7A] ++ stringTag :: counted [1] ++
    counted [0x30] ++ littleEndian 4 3 ++
      counted [0x62] ++ setTag :: (littleEndian 4 2 ++ counted [9] ++ counted [9]) ++
      counted [0x61] ++ stringTag :: counted [] ++
      counted [0x61] ++ listTag :: (littleEndian 4 1 ++ counted [2, 3]) ++
    [0xFF]

/-- Two ends for the same key. -/
def untidyEnds : Bytes :=
  littleEndian 4 1 ++
    counted [0x30] ++ littleEndian 4 2 ++
      counted [0x62] ++ littleEndian 8 5000 ++ counted [0x62] ++ littleEndian 8 9000 ++
    [0, 0]

/-- What the blobs are read as. -/
def untidyRead : List (String × Database) × List (String × ExtTreeMap String Nat) :=
  ([("0", ExtTreeMap.ofList [("z", Value.string [1])]),
      ("0", ExtTreeMap.ofList [("b", Value.set ((∅ : Members).insert [9])), ("a", Value.string []),
        ("a", Value.list [[2, 3]])])],
    [("0", ExtTreeMap.ofList [("b", 5000), ("b", 9000)])])

/-- What is left of it. -/
def tidied : Snapshot where
  values := ExtTreeMap.ofList [("0", ExtTreeMap.ofList
    [("a", Value.list [[2, 3]]), ("b", Value.set ((∅ : Members).insert [9]))])]
  expires := ExtTreeMap.ofList [("0", ExtTreeMap.ofList [("b", 9000)])]

theorem has_normal_form_untidy :
    let untidy := (magic ++ [formatVersion]) ++ (blob untidyValues ++ blob untidyEnds) ++ [7]
    decode untidy = .ok tidied ∧ (∃ normal, tidied.encode = .ok normal ∧
        normal.length ≤ untidy.length ∧ decode normal = .ok tidied ∧
        ∀ (store : Store) (now wall version : Nat),
          store.replace now wall version normal = store.replace now wall version untidy) ∧
      ∃ taken saved, (Store.new false).replace 100 8000 7 untidy = (.ok (), taken) ∧
        taken.dump 150 8050 = .ok (7, saved) ∧ decode saved = .ok (taken.snapshot 150 8050) := by
  intro untidy
  have hdecode : decode untidy = .ok tidied := by
    have hvalues : (takeAll (takeDatabase takeEntry)).parse untidyValues = .ok untidyRead.1 := by
      decide +kernel
    have hends : (takeAll (takeDatabase takeDeadline)).parse untidyEnds = .ok untidyRead.2 := by
      decide +kernel
    have hkeys : ExtTreeMap.ofList untidyRead.1 = tidied.values := by decide +kernel
    have hdeadlines : ExtTreeMap.ofList untidyRead.2 = tidied.expires := by decide +kernel
    have hread := reads_takeSnapshot_blobs (by decide) (by decide) hvalues hends
    rw [hkeys, hdeadlines] at hread
    exact hread.parse_append [7]
  obtain ⟨hnormal, hsaved⟩ := has_normal_form hdecode
  exact ⟨hdecode, hnormal, hsaved (by decide +kernel) (Store.new false) 100 8000 7 150 8050
    (by decide) (by decide +kernel)⟩

end ReplicatedStore.Snapshot
