import Mathlib.Algebra.Order.BigOperators.Group.List
import Mathlib.Data.List.Perm.Subperm
import ReplicatedStore.Proofs.Encoding.Damage
import ReplicatedStore.Proofs.Encoding.Size

/-!
# What is read takes up its size

Not everything that is read was written: a count may be followed by elements that are thrown away
again, and there may be octets that nobody looks at.  `Backed read size sound` says what is known
nevertheless.  Whatever the reader makes of octets is sound, and it has taken at least as many of
them as it would need to write that again.  So nothing that was read is too large to be written
(`Backed.parse_le`).

A reader of several parts is backed if its parts are (`Backed.bind`), where the size of the whole
may be less than that of its parts.  It is where elements with the same name are put into a map,
which keeps one of them (`subperm_ofList`).  Maps are compared key by key (`allSize_toList_le`).
-/

open Std (ExtTreeMap ExtTreeSet)

namespace ReplicatedStore.Layout

/-- Whatever the reader makes of octets is sound, and is no larger than the octets it took. -/
def Backed {α : Type} (read : Reader α) (size : α → Nat) (sound : α → Prop) : Prop :=
  ∀ b a rest, read b = .ok (a, rest) → size a + rest.length ≤ b.length ∧ sound a

section Readers

variable {α β : Type} {read : Reader α} {size : α → Nat} {sound : α → Prop}

lemma Backed.pure {a : α} (hsize : size a = 0) (hsound : sound a) :
    Backed (Pure.pure a) size sound := by
  intro b x rest h
  obtain ⟨rfl, rfl⟩ := Prod.mk.inj (Except.ok.inj h)
  exact ⟨by omega, hsound⟩

lemma backed_fail (fault : FormatError) : Backed (fail fault) size sound := by
  intro b a rest h
  cases h

/-- The second part has to come up for what the first one has not paid. -/
lemma Backed.bind (h : Backed read size sound) {next : α → Reader β} {total : β → Nat}
    {whole : β → Prop} (g : ∀ a, sound a → Backed (next a) (fun x => total x - size a) whole) :
    Backed (read >>= next) total whole := by
  intro b x rest hread
  obtain ⟨⟨a, mid⟩, hfirst, hsecond⟩ :=
    bind_eq_ok (show (read b >>= fun (r : α × Bytes) => next r.1 r.2) = .ok (x, rest) from hread)
  obtain ⟨hle, hsound⟩ := h b a mid hfirst
  obtain ⟨hrest, hwhole⟩ := g a hsound mid x rest hsecond
  dsimp only at hrest
  exact ⟨by omega, hwhole⟩

/-- What is done with a value once it is read may make it smaller. -/
lemma Backed.map (h : Backed read size sound) {f : α → β} {total : β → Nat} {whole : β → Prop}
    (hle : ∀ a, total (f a) ≤ size a) (hwhole : ∀ a, sound a → whole (f a)) :
    Backed (read >>= fun a => Pure.pure (f a)) total whole := by
  refine h.bind fun a hsound => .pure ?_ (hwhole a hsound)
  have := hle a
  omega

lemma Backed.mono (h : Backed read size sound) {less : α → Nat} (hle : ∀ a, less a ≤ size a) :
    Backed read less sound := by
  intro b a rest hread
  obtain ⟨hsize, hsound⟩ := h b a rest hread
  have := hle a
  exact ⟨by omega, hsound⟩

/-- What is read off octets is no larger than they are. -/
lemma Backed.parse_le (h : Backed read size sound) {b : Bytes} {a : α}
    (hparse : read.parse b = .ok a) : size a ≤ b.length ∧ sound a := by
  unfold Reader.parse at hparse
  cases hread : read b with
  | error fault =>
    rw [hread] at hparse
    cases hparse
  | ok result =>
    obtain ⟨x, rest⟩ := result
    rw [hread] at hparse
    obtain rfl : x = a := Except.ok.inj hparse
    obtain ⟨hle, hsound⟩ := h b x rest hread
    exact ⟨by omega, hsound⟩

/-- Octets that were cut out are all that stands behind what is read of them. -/
lemma Backed.within (h : Backed read size sound) (payload : Bytes) :
    Backed (Layout.within payload read) (fun _ => 0)
      (fun a => size a ≤ payload.length ∧ sound a) := by
  intro b a rest hread
  unfold Layout.within at hread
  cases hparse : read.parse payload with
  | error fault =>
    rw [hparse] at hread
    cases hread
  | ok x =>
    rw [hparse] at hread
    obtain ⟨rfl, rfl⟩ := Prod.mk.inj (Except.ok.inj hread)
    exact ⟨Nat.le_of_eq (Nat.zero_add _), h.parse_le hparse⟩

end Readers

/-! ## Numbers and strings of octets -/

lemma backed_take (n : Nat) : Backed (take n) List.length (fun b => b.length = n) := by
  intro b a rest h
  unfold take at h
  split at h
  · cases h
  · obtain ⟨rfl, rfl⟩ := Prod.mk.inj (Except.ok.inj h)
    simp only [List.length_take, List.length_drop]
    omega

lemma backed_takeByte : Backed takeByte (fun _ => 1) (fun _ => True) := by
  intro b a rest h
  cases b with
  | nil => cases h
  | cons first others =>
    obtain ⟨rfl, rfl⟩ := Prod.mk.inj (Except.ok.inj h)
    exact ⟨by simp [Nat.add_comm], trivial⟩

lemma backed_takeNumber (width : Nat) :
    Backed (takeNumber width) (fun _ => width) (fun n => n < 256 ^ width) := by
  refine (backed_take width).bind fun b hlength => .pure ?_ ?_
  · omega
  · exact hlength ▸ number_lt b

lemma backed_takeCount : Backed takeCount (fun _ => 4) (fun _ => True) := by
  refine (backed_takeNumber 4).bind fun count _ => ?_
  intro b a rest h
  change (if b.length / 4 < count then fail _ else Pure.pure count : Reader Nat) b = _ at h
  split at h
  · cases h
  · obtain ⟨rfl, rfl⟩ := Prod.mk.inj (Except.ok.inj h)
    exact ⟨Nat.le_of_eq (Nat.zero_add _), trivial⟩

lemma backed_takeBytes : Backed takeBytes bytesSize (fun b => b.length < 0x100000000) := by
  refine (backed_takeNumber 4).bind fun n hn => ?_
  intro b data rest h
  obtain ⟨hle, rfl⟩ := backed_take n b data rest h
  refine ⟨?_, hn⟩
  simp only [bytesSize]
  omega

lemma backed_takeText : Backed takeText textSize (fun _ => True) := by
  refine backed_takeBytes.bind fun b _ => ?_
  cases htext : b.text? with
  | none => exact backed_fail _
  | some s =>
    refine .pure ?_ trivial
    rw [textSize, Bytes.eq_ofText_of_text? htext, Nat.sub_self]

/-! ## Sequences -/

section Sequences

variable {α : Type} {read : Reader α} {size : α → Nat} {sound : α → Prop}

lemma Backed.takeEach (h : Backed read size sound) (n : Nat) :
    Backed (takeEach read n) (eachSize size) (fun l => ∀ a ∈ l, sound a) := by
  induction n with
  | zero => exact .pure rfl (by simp)
  | succ n ih =>
    refine h.bind fun a ha => ih.map (fun rest => ?_) fun rest hrest => ?_
    · rw [eachSize]
      omega
    · exact List.forall_mem_cons.mpr ⟨ha, hrest⟩

lemma Backed.takeAll (h : Backed read size sound) :
    Backed (takeAll read) (allSize size) (fun l => ∀ a ∈ l, sound a) := by
  refine backed_takeCount.bind fun n _ => (h.takeEach n).mono fun l => ?_
  rw [allSize]
  omega

lemma eachSize_eq_sum (l : List α) : eachSize size l = (l.map size).sum := by
  induction l with
  | nil => rfl
  | cons a rest ih => rw [eachSize, ih, List.map_cons, List.sum_cons]

/-- Fewer elements are not larger. -/
lemma eachSize_le_of_subperm {l l' : List α} (h : l.Subperm l') :
    eachSize size l ≤ eachSize size l' := by
  obtain ⟨middle, hmiddle, hsublist⟩ := h
  calc eachSize size l = (l.map size).sum := eachSize_eq_sum l
    _ = (middle.map size).sum := (hmiddle.map size).symm.sum_eq
    _ ≤ (l'.map size).sum := (hsublist.map size).sum_le_sum (fun _ _ => Nat.zero_le _)
    _ = eachSize size l' := (eachSize_eq_sum l').symm

lemma allSize_le_of_subperm {l l' : List α} (h : l.Subperm l') : allSize size l ≤ allSize size l' :=
  Nat.add_le_add_left (eachSize_le_of_subperm h) 4

end Sequences

/-! ## Maps and sets -/

section Collections

variable {α β : Type} [Ord α] [Std.TransOrd α] [Std.LawfulEqOrd α]

lemma nodup_toList (m : ExtTreeMap α β) : m.toList.Nodup := by
  refine ExtTreeMap.distinct_keys_toList.imp fun hdistinct heq => hdistinct ?_
  rw [heq]
  exact Std.ReflCmp.compare_self

/-- A map that has at least as much under every key of another one is no smaller. -/
lemma allSize_toList_le {size : α × β → Nat} {m m' : ExtTreeMap α β}
    (h : ∀ key value, m[key]? = some value →
      ∃ larger, m'[key]? = some larger ∧ size (key, value) ≤ size (key, larger)) :
    allSize size m.toList ≤ allSize size m'.toList := by
  -- What the other map has under the keys of this one.
  let counterpart : α × β → α × β := fun binding => (binding.1, (m'[binding.1]?).getD binding.2)
  have hlarger : ∀ binding ∈ m.toList,
      counterpart binding ∈ m'.toList ∧ size binding ≤ size (counterpart binding) := by
    rintro ⟨key, value⟩ hmem
    obtain ⟨larger, hfound, hle⟩ := h key value (ExtTreeMap.mem_toList_iff_getElem?_eq_some.mp hmem)
    have hsame : counterpart (key, value) = (key, larger) := by
      simp only [counterpart, hfound, Option.getD_some]
    rw [hsame]
    exact ⟨ExtTreeMap.mem_toList_iff_getElem?_eq_some.mpr hfound, hle⟩
  have hkept : (m.toList.map counterpart).Subperm m'.toList := by
    refine List.subperm_of_subset ?_ fun binding hmem => ?_
    · refine List.pairwise_map.mpr (ExtTreeMap.distinct_keys_toList.imp fun hdistinct heq => ?_)
      have hkey := congrArg Prod.fst heq
      exact hdistinct (Std.LawfulEqCmp.compare_eq_iff_eq.mpr hkey)
    · obtain ⟨original, horiginal, rfl⟩ := List.mem_map.mp hmem
      exact (hlarger original horiginal).1
  have hpointwise : eachSize size m.toList ≤ eachSize size (m.toList.map counterpart) := by
    rw [eachSize_eq_sum, eachSize_eq_sum, List.map_map]
    exact List.sum_le_sum fun binding hmem => (hlarger binding hmem).2
  exact Nat.le_trans (Nat.add_le_add_left hpointwise 4) (allSize_le_of_subperm hkept)

/-- What is put into a map takes up its own size at most. -/
lemma allSize_insertIfNew_le {size : α × β → Nat} (m : ExtTreeMap α β) (key : α) (value : β) :
    allSize size (m.insertIfNew key value).toList ≤ size (key, value) + allSize size m.toList := by
  have hkept : (m.insertIfNew key value).toList.Subperm ((key, value) :: m.toList) := by
    refine List.subperm_of_subset (nodup_toList _) fun binding hmem => ?_
    obtain ⟨k, v⟩ := binding
    have hfound := ExtTreeMap.mem_toList_iff_getElem?_eq_some.mp hmem
    rw [ExtTreeMap.getElem?_insertIfNew] at hfound
    split at hfound
    · rename_i hnew
      obtain rfl := Std.LawfulEqCmp.compare_eq_iff_eq.mp hnew.1
      obtain rfl := Option.some.inj hfound
      exact List.mem_cons_self
    · exact List.mem_cons_of_mem _ (ExtTreeMap.mem_toList_iff_getElem?_eq_some.mpr hfound)
  have hle : allSize size (m.insertIfNew key value).toList ≤
      allSize size ((key, value) :: m.toList) := allSize_le_of_subperm hkept
  simp only [allSize, eachSize] at hle ⊢
  omega

variable [BEq α] [LawfulBEq α]

/-- A map of bindings keeps some of them, and none twice. -/
lemma subperm_ofList (l : List (α × β)) : (ExtTreeMap.ofList l).toList.Subperm l := by
  refine List.subperm_of_subset (nodup_toList _) fun binding hmem => ?_
  obtain ⟨key, value⟩ := binding
  have hfound := ExtTreeMap.mem_toList_iff_getElem?_eq_some.mp hmem
  rw [ExtTreeMap.ofList_eq_insertMany_empty, ExtTreeMap.getElem?_insertMany_list,
    ExtTreeMap.getElem?_empty, Option.or_none, List.findSomeRev?_eq_findSome?_reverse] at hfound
  obtain ⟨⟨k, v⟩, hlast, hkey⟩ := List.exists_of_findSome?_eq_some hfound
  dsimp only at hkey
  split at hkey
  · rename_i hsame
    obtain rfl := Std.LawfulEqCmp.compare_eq_iff_eq.mp hsame
    obtain rfl := Option.some.inj hkey
    exact List.mem_reverse.mp hlast
  · cases hkey

/-- So does a set of members. -/
lemma subperm_ofList_set (l : List α) : (ExtTreeSet.ofList l).toList.Subperm l := by
  refine List.subperm_of_subset ?_ fun member hmem => ?_
  · refine ExtTreeSet.distinct_toList.imp fun hdistinct heq => hdistinct ?_
    rw [heq]
    exact Std.ReflCmp.compare_self
  · rw [ExtTreeSet.mem_toList, ExtTreeSet.mem_ofList] at hmem
    simpa using hmem

end Collections

/-! ## Blobs -/

lemma backed_takeBlob :
    Backed takeBlob (fun payload => 8 + payload.length)
      (fun payload => payload.length < 0x100000000) := by
  refine backed_takeBytes.bind fun payload hlength => (backed_takeNumber 4).bind fun sum _ => ?_
  dsimp only
  split
  · refine .pure ?_ hlength
    rw [bytesSize]
    omega
  · exact backed_fail _

end ReplicatedStore.Layout
