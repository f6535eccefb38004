import ReplicatedStore.Proofs.Store.Expiry

/-!
# What an action leaves alone

Every action has a footprint, the keys that it may change (`Action.footprint`): for an operation the
keys that it names in its database, for a seed the keys that it gives values to, and for a pass the
keys that have ended.  Every other key of every database keeps what it holds and when it ends, also
a key of the same name in another database, or one that ends at the same moment
(`Reachable.keeps_to_footprint`).  A pass does take out all of its footprint.

Taking a snapshot in place of the contents is the only action that may change any key.
-/

namespace ReplicatedStore

/-- The edits that an entry of a seed makes. -/
def SeedEntry.edits : SeedEntry → List Store.Edit
  | .select db => [.ensure db]
  | .value db key data => Operation.overwriting db key (.string data)

namespace Store

/-! ## Operations -/

/-- An operation leaves every key alone that is not in its footprint, whether it is refused or
not. -/
lemma perform_frame (s : Store) (now : Nat) (op : Operation) (pick : Nat) (db : String)
    {d k : String} (h : ¬ op.footprint db d k) :
    (op.perform s now pick db).2.value? d k = s.value? d k ∧
      (op.perform s now pick db).2.deadline? d k = s.deadline? d k := by
  rcases Operation.perform_cases s now pick db op with
    ⟨fault, edits, hout, hresult⟩ | ⟨recorded, edits, answer, hout, hresult⟩
  · rw [hresult]
    exact s.sameContents_of_ensures now (refused_edits hout) d k
  · obtain ⟨hvalue, hdeadline⟩ := after_of_not_touches fun e he ht =>
      h (Operation.outcome_touches hout he ht)
    rw [hresult, value?_commit, deadline?_commit, value?_edit, deadline?_edit]
    exact ⟨hvalue _, hdeadline now _⟩

/-! ## Seeds -/

/-- Loading a seed makes the edits of its entries one after the other. -/
lemma sameContents_loadSeed (s : Store) (entries : List SeedEntry) :
    SameContents (s.edit 0 (entries.flatMap SeedEntry.edits)) (s.loadSeed entries) := by
  have hfold : SameContents (s.edit 0 (entries.flatMap SeedEntry.edits))
      (entries.foldl loadEntry s) := by
    induction entries generalizing s with
    | nil => exact .refl s
    | cons entry rest ih =>
      have hentry : SameContents (s.edit 0 entry.edits) (s.loadEntry entry) := by
        cases entry <;> exact fun _ _ => ⟨rfl, rfl⟩
      have happend : s.edit 0 (entry.edits ++ rest.flatMap SeedEntry.edits) =
          (s.edit 0 entry.edits).edit 0 (rest.flatMap SeedEntry.edits) := List.foldl_append
      rw [List.flatMap_cons, happend]
      exact (hentry.edit 0 _).trans (ih (s.loadEntry entry))
  exact hfold

/-- The edits of a seed touch no key but those that it gives values to. -/
lemma seed_not_touches {entries : List SeedEntry} {d k : String}
    (h : ∀ data, SeedEntry.value d k data ∉ entries) :
    ∀ e ∈ entries.flatMap SeedEntry.edits, ¬ e.touches d k := by
  intro e he ht
  obtain ⟨entry, hentry, he⟩ := List.mem_flatMap.mp he
  cases entry with
  | select db =>
    obtain rfl := List.mem_singleton.mp he
    exact ht
  | value db key data =>
    obtain ⟨rfl, rfl⟩ := Operation.touches_overwriting he ht
    exact h data hentry

/-- A seed leaves every key alone that it gives no value to. -/
lemma loadSeed_frame (s : Store) {entries : List SeedEntry} {d k : String}
    (h : ∀ data, SeedEntry.value d k data ∉ entries) :
    (s.loadSeed entries).value? d k = s.value? d k ∧
      (s.loadSeed entries).deadline? d k = s.deadline? d k := by
  obtain ⟨hvalue, hdeadline⟩ := after_of_not_touches (seed_not_touches h)
  have hsame := s.sameContents_loadSeed entries d k
  rw [value?_edit, deadline?_edit, hvalue, hdeadline] at hsame
  exact hsame

/-! ## All actions -/

/-- Does the key belong to those that an action at the time `now` may change? -/
def Action.footprint (now : Nat) (s : Store) (d k : String) : Action → Prop
  | .perform op _ db => op.footprint db d k
  | .expirePass => ∃ t, s.deadline? d k = some t ∧ t ≤ now
  | .loadSeed entries => ∃ data, SeedEntry.value d k data ∈ entries
  | .restore _ _ | .replace _ _ _ => True
  | .ensure _ | .recordOperation | .journalUnversioned _ _ | .takeChanged | .setRecording _
  | .takeJournal | .markSaved _ _ => False

/-- The key is in `t` as it is in `s`. -/
structure SameAt (s t : Store) (d k : String) : Prop where
  /-- It exists in both or in neither. -/
  has : t.has d k = s.has d k
  /-- It holds the same. -/
  value : t.value? d k = s.value? d k
  /-- It ends at the same time, by the table of deadlines. -/
  deadline : t.deadline? d k = s.deadline? d k
  /-- So it does by the agenda. -/
  endings : ∀ time, ⟨time, d, k⟩ ∈ t.agenda.endings ↔ ⟨time, d, k⟩ ∈ s.agenda.endings

/-- In tidy stores the contents of a key are all there is to it. -/
lemma Tidy.sameAt {s t : Store} (hs : s.Tidy) (ht : t.Tidy) {d k : String}
    (h : t.value? d k = s.value? d k ∧ t.deadline? d k = s.deadline? d k) : s.SameAt t d k where
  has := by rw [Store.has, h.1, Store.has]
  value := h.1
  deadline := h.2
  endings := by
    intro time
    have hdeadline : t.agenda.deadline? d k = s.agenda.deadline? d k := h.2
    rw [hs.indexed, ht.indexed, hdeadline]

/-- **Actions keep to their footprint.**  In a reachable store an action leaves every key as it is
that is not in its footprint, and a pass takes out every key that is. -/
theorem Reachable.keeps_to_footprint {s : Store} (h : s.Reachable) (now : Nat) (a : Action)
    (d k : String) :
    (¬ a.footprint now s d k → s.SameAt (a.run now s) d k) ∧
      (Action.expirePass.footprint now s d k →
        (Action.expirePass.run now s).value? d k = none ∧
          (Action.expirePass.run now s).deadline? d k = none) := by
  obtain ⟨hended, hlasting⟩ := expirePass_keys h.tidy now d k
  refine ⟨fun hout => h.tidy.sameAt (h.run now a).tidy ?_, hended⟩
  cases a with
  | perform op pick db => exact s.perform_frame now op pick db hout
  | ensure db => exact ⟨s.value?_ensure db d k, rfl⟩
  | expirePass =>
    refine hlasting fun t ht => ?_
    by_contra hpassed
    exact hout ⟨t, ht, Nat.not_lt.mp hpassed⟩
  | restore wall snapshot => exact absurd trivial hout
  | replace wall version data => exact absurd trivial hout
  | loadSeed entries => exact s.loadSeed_frame fun data hdata => hout ⟨data, hdata⟩
  | journalUnversioned db command =>
    have hdatabases := s.databases_record ⟨db, command, [], none⟩
    have hagenda := s.agenda_record ⟨db, command, [], none⟩
    rw [Action.run, journalUnversioned, value?, deadline?, hdatabases, hagenda]
    exact ⟨rfl, rfl⟩
  | recordOperation => exact ⟨rfl, rfl⟩
  | takeChanged => exact ⟨rfl, rfl⟩
  | setRecording recording => exact ⟨rfl, rfl⟩
  | takeJournal => exact ⟨rfl, rfl⟩
  | markSaved wall mark => exact ⟨rfl, rfl⟩

/-- Two keys of one name, in two databases, that end at one moment: renaming one leaves the other,
and when the moment has come both are taken out. -/
theorem Reachable.keeps_to_footprint_twins :
    let written := ((Action.perform (.set "a" []) 0 "1").run 3
      ((Action.perform (.set "a" []) 0 "0").run 3 (Store.new true)))
    let twins := ((Action.perform (.expire "a" 10) 0 "1").run 3
      ((Action.perform (.expire "a" 10) 0 "0").run 3 written))
    let rename := Action.perform (.rename "a" "b") 0 "0"
    twins.Reachable ∧ ¬ rename.footprint 3 twins "1" "a" ∧
      (rename.run 3 twins).deadline? "1" "a" = some 10003 ∧
      (⟨10003, "1", "a"⟩ : Ending) ∈ (rename.run 3 twins).agenda.endings ∧
      (Action.expirePass.run 10003 twins).value? "1" "a" = none := by
  intro written twins rename
  have htwins : twins.Reachable :=
    ((((Reachable.new true).run 3 _).run 3 _).run 3 _).run 3 _
  have hout : ¬ rename.footprint 3 twins "1" "a" := fun hin => absurd hin.1 (by decide)
  have hdeadline : twins.deadline? "1" "a" = some 10003 := by decide +kernel
  obtain ⟨hsame, -⟩ := htwins.keeps_to_footprint 3 rename "1" "a"
  obtain ⟨-, hended⟩ := htwins.keeps_to_footprint 10003 .expirePass "1" "a"
  refine ⟨htwins, hout, (hsame hout).deadline.trans hdeadline, ?_,
    (hended ⟨10003, hdeadline, Nat.le_refl _⟩).1⟩
  exact ((hsame hout).endings 10003).mpr ((htwins.tidy.indexed _ _ _).mpr hdeadline)

end Store

end ReplicatedStore
