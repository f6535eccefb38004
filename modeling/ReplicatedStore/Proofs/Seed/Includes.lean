import ReplicatedStore.Proofs.Seed.Reading
import ReplicatedStore.Proofs.Store.Seeding

/-!
# Seeds that are read to the end

Which files are read from a first one on is told by the chains of includes that lead to them.  A
file is read to its end when every file at the end of a chain is well formed and no chain is too
long (`Seed.completes_iff`).  Such a seed has one list of entries, in reading order and each for its
database, and filling a store with it leaves the last value of every key (`Seed.load_of_sound`).
-/

namespace ReplicatedStore

namespace Seed

/-- A line of the first file includes the second one. -/
def Includes (d : Directory) (path other : String) : Prop :=
  ∃ text raw file, d.readText path = .ok text ∧ raw ∈ rawLines text ∧ Means raw (.includes file) ∧
    other = join (parent path) file

/-- So many includes, one after another, lead from one file to another. -/
inductive Chain (d : Directory) : Nat → String → String → Prop
  | here (path : String) : Chain d 0 path path
  | step {path next last : String} {n : Nat} (hfirst : Includes d path next)
    (hrest : Chain d n next last) : Chain d (n + 1) path last

/-- The file can be read, and all of its lines have a known form. -/
def WellFormed (d : Directory) (path : String) : Prop :=
  ∃ text, d.readText path = .ok text ∧ ∀ raw ∈ rawLines text, ∃ line, Means raw line

/-- All files that are read from a first one on are well formed, and none is too deep. -/
def Sound (d : Directory) (root : String) : Prop :=
  ∀ n path, Chain d n root path → n ≤ includeDepth ∧ WellFormed d path

variable {d : Directory} {path root : String} {depth : Nat}

lemma Completes.sound {n : Nat} {other : String} (h : Completes d depth path)
    (hchain : Chain d n path other) : depth + n ≤ includeDepth ∧ WellFormed d other := by
  induction hchain generalizing depth with
  | here path =>
    obtain ⟨hdepth, htext, hlines, -⟩ := h
    exact ⟨hdepth, _, htext, hlines⟩
  | step hfirst _ ih =>
    obtain ⟨-, htext, -, hincludes⟩ := h
    obtain ⟨text, raw, file, htext', hmem, hraw, hnext⟩ := hfirst
    obtain rfl := Except.ok.inj (htext.symm.trans htext')
    obtain ⟨hdepth, hformed⟩ := ih (hnext ▸ hincludes raw hmem file hraw)
    exact ⟨by omega, hformed⟩

lemma completes_of_sound (room : Nat) (hroom : room + depth = includeDepth + 1)
    (h : ∀ n other, Chain d n path other → depth + n ≤ includeDepth ∧ WellFormed d other) :
    Completes d depth path := by
  induction room generalizing depth path with
  | zero =>
    obtain ⟨hdepth, -⟩ := h 0 path (.here path)
    omega
  | succ room ih =>
    obtain ⟨hdepth, text, htext, hlines⟩ := h 0 path (.here path)
    refine .intro hdepth htext hlines fun raw hmem file hraw => ih (by omega) ?_
    intro n other hchain
    have hlonger := Chain.step ⟨text, raw, file, htext, hmem, hraw, rfl⟩ hchain
    obtain ⟨hdeeper, hformed⟩ := h (n + 1) other hlonger
    exact ⟨by omega, hformed⟩

/-- A first file is read to its end when all files that it leads to are well formed and none is too
deep, and only then. -/
lemma completes_iff : Completes d 0 root ↔ Sound d root := by
  constructor
  · intro h n path hchain
    obtain ⟨hdepth, hformed⟩ := h.sound hchain
    exact ⟨by omega, hformed⟩
  · intro h
    refine completes_of_sound (includeDepth + 1) rfl fun n other hchain => ?_
    obtain ⟨hdepth, hformed⟩ := h n other hchain
    exact ⟨by omega, hformed⟩

/-- **A sound seed is loaded whole.**  There is one list of entries that its first file says in
database `0`, and this is what loading gives.  A store that is filled with it holds the last value
of every key that it names, and everything else as before. -/
theorem load_of_sound (d : Directory) (root : String) (h : Sound d root) :
    ∃ entries, load d root = .ok entries ∧
      (∀ other, FileSays d root "0" other ↔ other = entries) ∧
      ∀ s : Store, s.Seeded entries (s.loadSeed entries) := by
  have hends := load_ends d root
  cases hload : load d root with
  | error fault =>
    rw [hload] at hends
    exact absurd (completes_iff.mpr h) hends.not_completes
  | ok entries =>
    obtain ⟨-, htold⟩ := load_eq_ok_iff.mp hload
    refine ⟨entries, rfl, fun other => ⟨fun hother => hother.entries_eq htold, ?_⟩, fun s =>
      s.seeded_loadSeed entries⟩
    rintro rfl
    exact htold

/-- Two files: the first selects a database, includes the second twice, and gives a value between;
the second selects another one. -/
def twoFiles : Directory :=
  .ofFiles [
    ("conf/main.txt",
      Bytes.ofText "@select 1\n @include  extra.txt\r\nafter yes\n@include ../conf/extra.txt"),
    ("conf/extra.txt", Bytes.ofText "# values\ninner\t 1 2 \n@select 5\nfive 5\n")]

/-- What the second file says below the first. -/
def extraEntries : List SeedEntry :=
  [.select "1", .value "1" "inner" (Bytes.ofText "1 2"), .select "5",
    .value "5" "five" (Bytes.ofText "5")]

/-- What both files say. -/
def twoFilesEntries : List SeedEntry :=
  [.select "0", .select "1"] ++ extraEntries ++ [.value "1" "after" (Bytes.ofText "yes")] ++
    extraEntries

lemma load_twoFiles : load twoFiles "conf/main.txt" = .ok twoFilesEntries := by
  decide +kernel

theorem load_of_sound_included_twice :
    Sound twoFiles "conf/main.txt" ∧ load twoFiles "conf/main.txt" = .ok twoFilesEntries ∧
      ∃ entries, load twoFiles "conf/main.txt" = .ok entries ∧
        (∀ other, FileSays twoFiles "conf/main.txt" "0" other ↔ other = entries) ∧
        ∀ s : Store, s.Seeded entries (s.loadSeed entries) := by
  have hsound : Sound twoFiles "conf/main.txt" :=
    completes_iff.mp (load_eq_ok_iff.mp load_twoFiles).1
  exact ⟨hsound, load_twoFiles, load_of_sound twoFiles "conf/main.txt" hsound⟩

end Seed

end ReplicatedStore
