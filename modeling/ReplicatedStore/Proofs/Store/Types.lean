import ReplicatedStore.Proofs.Store.Frame

/-!
# Types of keys

An operation puts a value of another type under a key that exists only if it writes the key whatever
is there (`Operation.Retypes`).  Two more write strings without looking at what they replace:
exchanging a string and adding to an integer.  They keep the type of the key where it holds a string
or nothing (`Operation.Guarded`), which is for the caller to see to.

All other operations look themselves.  What they work on must be a list or a set, or the name they
write must be free.
-/

namespace ReplicatedStore

open Store (Edit)

namespace Store

/-- A key that holds one type keeps it under edits that put only values of that type under it. -/
lemma type_valueAfter {edits : List Edit} {d k : String} {type : ValueType}
    (hputs : ∀ value, .put d k value ∈ edits → value.type = type) {old : Option Value}
    (hold : ∀ value, old = some value → value.type = type) {value : Value}
    (h : valueAfter edits d k old = some value) : value.type = type := by
  induction edits generalizing old with
  | nil => exact hold value h
  | cons e rest ih =>
    refine ih (fun value hvalue => hputs value (List.mem_cons_of_mem _ hvalue)) ?_ h
    intro value hvalue
    cases e with
    | put db key put =>
      simp only [Edit.valueAt] at hvalue
      split at hvalue
      · rename_i hkey
        obtain ⟨rfl, rfl⟩ := hkey
        obtain rfl := Option.some.inj hvalue
        exact hputs put List.mem_cons_self
      · exact hold value hvalue
    | discard db key =>
      simp only [Edit.valueAt] at hvalue
      split at hvalue
      · cases hvalue
      · exact hold value hvalue
    | flush db =>
      simp only [Edit.valueAt] at hvalue
      split at hvalue
      · cases hvalue
      · exact hold value hvalue
    | flushAll => cases hvalue
    | ensure db => exact hold value hvalue
    | clear db key => exact hold value hvalue
    | schedule db key life => exact hold value hvalue

lemma typeOf_of_value? {s : Store} {d k : String} {value : Value} (h : s.value? d k = some value) :
    s.typeOf d k = value.type := by
  rw [typeOf, h]
  rfl

/-- A key of any type exists. -/
lemma has_iff_typeOf {s : Store} {d k : String} : s.has d k ↔ s.typeOf d k ≠ .none := by
  rw [has, typeOf]
  cases s.value? d k with
  | none => simp
  | some value => cases value <;> simp [Value.type]

end Store

namespace Operation

/-- Does the operation write the key whatever it holds, and perhaps with another type? -/
def Retypes (db d k : String) : Operation → Prop
  | .set key _ => d = db ∧ k = key
  | .rename _ target | .combineInto _ target _ => d = db ∧ k = target
  | _ => False

/-- Where the operation writes a string without looking, there is a string or nothing. -/
def Guarded (s : Store) (db : String) : Operation → Prop
  | .getSet key _ | .add key _ => s.typeOf db key = .string ∨ s.typeOf db key = .none
  | _ => True

variable {s : Store} {pick : Nat} {db d k : String}

lemma put_of_mem_overwriting {key : String} {value value' : Value}
    (h : .put d k value ∈ overwriting db key value') : d = db ∧ k = key ∧ value = value' := by
  simpa [overwriting] using h

lemma put_of_mem_transferring {source target : String} {value value' : Value}
    (h : .put d k value ∈ transferring db source target value') : d = db ∧ k = target := by
  obtain ⟨hd, hk, -⟩ := put_of_mem_overwriting ((List.mem_cons.mp h).resolve_left nofun)
  exact ⟨hd, hk⟩

/-- A list that is put where a list was found. -/
lemma type_of_put_list {key : String} {found : Option (List Bytes)} {items : List Bytes}
    {value : Value} (hfound : s.list? db key = .ok found) (hkey : s.has d k)
    (h : .put d k value ∈ [Edit.put db key (.list items)]) : value.type = s.typeOf d k := by
  obtain ⟨rfl, rfl, rfl⟩ := Edit.put.inj (List.mem_singleton.mp h)
  exact (type_of_list? hfound hkey).symm

/-- A set that is put where a set was found. -/
lemma type_of_put_set {key : String} {found : Option Members} {members : Members} {value : Value}
    (hfound : s.set? db key = .ok found) (hkey : s.has d k)
    (h : .put d k value ∈ [Edit.put db key (.set members)]) : value.type = s.typeOf d k := by
  obtain ⟨rfl, rfl, rfl⟩ := Edit.put.inj (List.mem_singleton.mp h)
  exact (type_of_set? hfound hkey).symm

lemma type_of_put_erasing {key : String} {found found' : Option Members} {member : Bytes}
    {value : Value} (hfound : s.set? db key = .ok found) (hkey : s.has d k)
    (h : .put d k value ∈ erasing db key found' member) : value.type = s.typeOf d k := by
  cases found' with
  | none => cases h
  | some members => exact type_of_put_set hfound hkey h

/-- A string that is put where there is a string or nothing. -/
lemma type_of_put_string {key : String} {data : Bytes} {value : Value}
    (hfound : s.typeOf db key = .string ∨ s.typeOf db key = .none) (hkey : s.has d k)
    (h : .put d k value ∈ overwriting db key (.string data)) : value.type = s.typeOf d k := by
  obtain ⟨rfl, rfl, rfl⟩ := put_of_mem_overwriting h
  exact (hfound.resolve_right (Store.has_iff_typeOf.mp hkey)).symm

/-- What a guarded operation puts under a key that exists has the type of the key, unless it writes
the key whatever it holds. -/
lemma type_of_put {op recorded : Operation} {edits : List Edit}
    (h : op.outcome s pick db = .made recorded edits) (hguarded : op.Guarded s db)
    (hkey : s.has d k) (hretypes : ¬ op.Retypes db d k) {value : Value}
    (hput : .put d k value ∈ edits) : value.type = s.typeOf d k := by
  cases op <;> simp only [outcome, refusing] at h
  case set key data =>
    cases h
    obtain ⟨hd, hk, -⟩ := put_of_mem_overwriting hput
    exact absurd ⟨hd, hk⟩ hretypes
  case getSet key data =>
    cases h
    exact type_of_put_string hguarded hkey hput
  case setNew key data =>
    cases h
    split at hput
    · cases hput
    · rename_i hfree
      obtain ⟨rfl, rfl, -⟩ := put_of_mem_overwriting hput
      exact absurd hkey hfree
  case add key amount =>
    split at h <;> cases h
    exact type_of_put_string hguarded hkey hput
  case remove keys =>
    cases h
    obtain ⟨key, -, hdiscard⟩ := List.mem_map.mp hput
    cases hdiscard
  case rename source target =>
    split at h
    · cases h
    · split at h <;> cases h
      exact absurd (put_of_mem_transferring hput) hretypes
  case renameNew source target =>
    split at h
    · cases h
      cases hput
    · rename_i hfree
      split at h
      · cases h
      · split at h <;> cases h
        simp only [List.mem_cons, reduceCtorEq, false_or, List.not_mem_nil, or_false] at hput
        obtain ⟨rfl, rfl, -⟩ := Edit.put.inj hput
        exact absurd hkey hfree
  case move key target =>
    split at h
    · cases h
    · split at h <;> cases h
      rename_i hfree
      simp only [List.mem_cons, reduceCtorEq, false_or, List.not_mem_nil, or_false] at hput
      obtain ⟨rfl, rfl, -⟩ := Edit.put.inj hput
      exact absurd hkey hfree
  case expire key seconds =>
    split at h <;> cases h
    split at hput <;> simp at hput
  case flush =>
    cases h
    simp at hput
  case flushAll =>
    cases h
    simp at hput
  case select =>
    cases h
    simp at hput
  case push key item side =>
    split at h <;> cases h
    rename_i found hfound
    exact type_of_put_list hfound hkey hput
  case trim key start stop =>
    split at h
    · cases h
    · rename_i hfound
      split at h <;> cases h
      exact type_of_put_list hfound hkey hput
  case setItem key index item =>
    split at h
    · cases h
    · rename_i hfound
      split at h
      · cases h
      · split at h <;> cases h
        exact type_of_put_list hfound hkey hput
  case removeItems key count item =>
    split at h
    · cases h
    · rename_i hfound
      split at h <;> cases h
      exact type_of_put_list hfound hkey hput
  case pop key side =>
    split at h <;> cases h
    rename_i found hfound
    split at hput
    · exact type_of_put_list hfound hkey hput
    · cases hput
  case addMember key member =>
    split at h <;> cases h
    rename_i found hfound
    exact type_of_put_set hfound hkey hput
  case removeMember key member =>
    split at h <;> cases h
    rename_i found hfound
    exact type_of_put_erasing hfound hkey hput
  case popMember key =>
    split at h
    · cases h
    · rename_i found hfound
      split at h <;> cases h
      · exact type_of_put_erasing hfound hkey hput
      · cases hput
  case moveMember source target member =>
    split at h
    · cases h
    · rename_i hfound
      split at h
      · cases h
      · rename_i hsource
        split at h <;> cases h
        · cases hput
        · rcases List.mem_cons.mp hput with hfirst | hsecond
          · exact type_of_put_set hsource hkey (List.mem_singleton.mpr hfirst)
          · split at hsecond
            · exact type_of_put_set hfound hkey hsecond
            · cases hsecond
  case combineInto algebra target keys =>
    cases h
    obtain ⟨hd, hk, -⟩ := put_of_mem_overwriting hput
    exact absurd ⟨hd, hk⟩ hretypes

/-- **A guarded operation keeps the type of every key**, or takes the key out, unless it writes the
key whatever it holds. -/
theorem type_perform (s : Store) (now pick : Nat) (db : String) {op : Operation}
    (hguarded : op.Guarded s db) {d k : String} (hkey : s.has d k)
    (hretypes : ¬ op.Retypes db d k) {value : Value}
    (h : (op.perform s now pick db).2.value? d k = some value) : value.type = s.typeOf d k := by
  have hheld : ∀ found, s.value? d k = some found → found.type = s.typeOf d k :=
    fun found hfound => (Store.typeOf_of_value? hfound).symm
  rcases perform_cases s now pick db op with
    ⟨fault, edits, hout, hresult⟩ | ⟨recorded, edits, answer, hout, hresult⟩
  · rw [hresult] at h
    have hsame := s.sameContents_of_ensures now (Store.refused_edits hout) d k
    exact hheld value (hsame.1.symm.trans h)
  · rw [hresult, Store.value?_commit, Store.value?_edit] at h
    exact Store.type_valueAfter (fun _ => type_of_put hout hguarded hkey hretypes) hheld h

end Operation

end ReplicatedStore
