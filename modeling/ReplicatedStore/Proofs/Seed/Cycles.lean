import ReplicatedStore.Proofs.Seed.Includes
import ReplicatedStore.Proofs.Seed.Paths

/-!
# Includes come to an end

Files may include each other in any way.  Reading them ends all the same, as no file is read that is
too deep.  Two paths of one file lead to the same files from there (`Seed.Chain.ofSameFile`), so a
chain of includes that comes back to a file can be walked on without end.  A seed with such a cycle
is therefore not read to its end, and what is reported is the first fault in reading order
(`Seed.loading_ends`).
-/

namespace ReplicatedStore

namespace Seed

/-- Both paths lead to one place. -/
def SameFile (d : Directory) (path other : String) : Prop :=
  ∃ names, d.locate path = .ok names ∧ d.locate other = .ok names

/-- No chain of includes comes back to a file that it has passed. -/
def Acyclic (d : Directory) (root : String) : Prop :=
  ∀ m n path other, Chain d m root path → Chain d (n + 1) path other → ¬ SameFile d path other

variable {d : Directory} {root path other : String}

/-! ## One file by two paths -/

lemma SameFile.trans {last : String} (h : SameFile d path other) (hother : SameFile d other last) :
    SameFile d path last := by
  obtain ⟨names, hpath, hnames⟩ := h
  obtain ⟨names', hnames', hlast⟩ := hother
  obtain rfl := Except.ok.inj (hnames.symm.trans hnames')
  exact ⟨names, hpath, hlast⟩

lemma readText_ofSameFile (h : SameFile d path other) : d.readText other = d.readText path := by
  obtain ⟨names, hpath, hother⟩ := h
  rw [Directory.readText, Directory.readText, Directory.read, Directory.read, hpath, hother]

lemma Sound.exists_file {n : Nat} (h : Sound d root) (hchain : Chain d n root path) :
    ∃ names, d.locate path = .ok names ∧ names ∈ d.files := by
  obtain ⟨-, text, htext, -⟩ := h n path hchain
  exact Directory.locate_of_readText htext

/-! ## Chains -/

lemma Chain.append {m n : Nat} {last : String} (h : Chain d m path other)
    (hrest : Chain d n other last) : Chain d (m + n) path last := by
  induction h with
  | here path => exact (Nat.zero_add n).symm ▸ hrest
  | @step path next other m hfirst _ ih => exact Nat.succ_add m n ▸ .step hfirst (ih hrest)

/-- What one path of a file includes, every path of it includes. -/
lemma Includes.ofSameFile (hd : d.Consistent) (hroot : Sound d root) {m m' : Nat}
    {path' next : String} (hpath : Chain d m root path) (hpath' : Chain d m' root path')
    (hsame : SameFile d path path') (h : Includes d path next) :
    ∃ next', Includes d path' next' ∧ SameFile d next next' := by
  obtain ⟨text, raw, file, htext, hmem, hraw, hnext⟩ := h
  have hincludes : Includes d path' (join (parent path') file) :=
    ⟨text, raw, file, (readText_ofSameFile hsame).trans htext, hmem, hraw, rfl⟩
  refine ⟨_, hincludes, ?_⟩
  -- Both included paths can be located, and lead on from the directory of the one file.
  obtain ⟨names, hnames, hfile⟩ := hroot.exists_file hpath
  obtain ⟨names', hnames', hother⟩ := hsame
  obtain rfl := Except.ok.inj (hnames.symm.trans hnames')
  obtain ⟨target, htarget, -⟩ :=
    hroot.exists_file (hpath.append (.step ⟨text, raw, file, htext, hmem, hraw, rfl⟩ (.here _)))
  obtain ⟨target', htarget', -⟩ := hroot.exists_file (hpath'.append (.step hincludes (.here _)))
  have hfollow := follow_of_locate_join hd hnames hfile htarget
  rw [follow_of_locate_join hd hother hfile htarget'] at hfollow
  obtain rfl := Except.ok.inj hfollow
  exact ⟨target', hnext ▸ htarget, htarget'⟩

/-- Where a chain leads from one path of a file, it leads from every path of it. -/
lemma Chain.ofSameFile (hd : d.Consistent) (hroot : Sound d root) {m m' n : Nat}
    {path' last : String} (h : Chain d n path last) (hpath : Chain d m root path)
    (hpath' : Chain d m' root path') (hsame : SameFile d path path') :
    ∃ last', Chain d n path' last' ∧ SameFile d last last' := by
  induction h generalizing path' m m' with
  | here path => exact ⟨path', .here path', hsame⟩
  | step hfirst _ ih =>
    obtain ⟨next', hfirst', hnext⟩ := hfirst.ofSameFile hd hroot hpath hpath' hsame
    obtain ⟨last', hrest', hlast⟩ := ih (hpath.append (.step hfirst (.here _)))
      (hpath'.append (.step hfirst' (.here _))) hnext
    exact ⟨last', .step hfirst' hrest', hlast⟩

/-- A chain that comes back can be walked again. -/
lemma exists_chain_of_cycle (hd : d.Consistent) (hroot : Sound d root) {m n : Nat}
    (hpath : Chain d m root path) (hcycle : Chain d (n + 1) path other)
    (hsame : SameFile d path other) (count : Nat) :
    ∃ last, Chain d (count * (n + 1)) path last ∧ SameFile d path last := by
  induction count with
  | zero =>
    obtain ⟨names, hnames, -⟩ := hsame
    refine ⟨path, ?_, names, hnames, hnames⟩
    rw [Nat.zero_mul]
    exact .here path
  | succ count ih =>
    obtain ⟨last, hchain, hlast⟩ := ih
    obtain ⟨last', hagain, hlast'⟩ :=
      hcycle.ofSameFile hd hroot hpath (hpath.append hchain) hlast
    exact ⟨last', Nat.succ_mul count (n + 1) ▸ hchain.append hagain, hsame.trans hlast'⟩

lemma Sound.acyclic (hd : d.Consistent) (hroot : Sound d root) : Acyclic d root := by
  intro m n path other hpath hcycle hsame
  obtain ⟨last, hchain, -⟩ :=
    exists_chain_of_cycle hd hroot hpath hcycle hsame (includeDepth + 1)
  have hlong := (hroot _ last (hpath.append hchain)).1
  have hgrows : includeDepth + 1 ≤ (includeDepth + 1) * (n + 1) :=
    Nat.le_mul_of_pos_right _ (Nat.succ_pos n)
  omega

/-- **Loading a seed ends.**  The first file is read to its end or has a first fault, and loading
gives the one or the other.  It is read to its end only if no chain of includes from it is longer
than sixteen and none comes back to a file. -/
theorem loading_ends (d : Directory) (root : String) :
    (Completes d 0 root ∨ ∃ fault, FirstFault d 0 root fault) ∧
      (∀ entries, load d root = .ok entries ↔ Completes d 0 root ∧ FileSays d root "0" entries) ∧
      (∀ fault, load d root = .error fault ↔ FirstFault d 0 root fault) ∧
      (Completes d 0 root →
        (∀ n path, Chain d n root path → n ≤ 16) ∧ (d.Consistent → Acyclic d root)) := by
  refine ⟨?_, fun entries => load_eq_ok_iff, fun fault => load_eq_error_iff, fun hcompletes => ?_⟩
  · have hends := load_ends d root
    cases hload : load d root with
    | error fault =>
      rw [hload] at hends
      exact .inr ⟨fault, hends⟩
    | ok entries =>
      rw [hload] at hends
      exact .inl hends.1
  · have hsound := completes_iff.mp hcompletes
    exact ⟨fun n path hchain => (hsound n path hchain).1, fun hd => hsound.acyclic hd⟩

lemma twoFiles_consistent : twoFiles.Consistent := by
  have hall : ∀ names ∈ twoFiles.files.keys, twoFiles.hasDirectory names = false := by
    decide +kernel
  exact fun names hnames => hall names (Std.ExtTreeMap.mem_keys.mpr hnames)

/-- A file that includes two others; the second of these has a line without a blank, below one that
includes the first again. -/
def loneWord : Directory :=
  .ofFiles [
    ("main.txt", Bytes.ofText "@include values.txt\n@include more/lines.txt\n"),
    ("values.txt", Bytes.ofText "key value\n"),
    ("more/lines.txt", Bytes.ofText "@include ../values.txt\n\tlonely \n@drop 1\n")]

theorem loading_ends_either_way :
    (twoFiles.Consistent ∧ Completes twoFiles 0 "conf/main.txt" ∧
      Acyclic twoFiles "conf/main.txt") ∧
      load loneWord "main.txt" = .error (.poorlyFormed "more/lines.txt" 2 "lonely") ∧
        FirstFault loneWord 0 "main.txt" (.poorlyFormed "more/lines.txt" 2 "lonely") := by
  have hfound : load loneWord "main.txt" = .error (.poorlyFormed "more/lines.txt" 2 "lonely") := by
    decide +kernel
  obtain ⟨-, hentries, -, hshape⟩ := loading_ends twoFiles "conf/main.txt"
  have hcompletes := ((hentries _).mp load_twoFiles).1
  obtain ⟨-, -, hfault, -⟩ := loading_ends loneWord "main.txt"
  exact ⟨⟨twoFiles_consistent, hcompletes, (hshape hcompletes).2 twoFiles_consistent⟩, hfound,
    (hfault _).mp hfound⟩

end Seed

end ReplicatedStore
