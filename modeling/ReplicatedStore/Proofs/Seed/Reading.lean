import ReplicatedStore.Proofs.Seed.Line

/-!
# How a seed file is read

What a file says is told without a bound on includes (`Seed.Says`): line after line, what the line
says itself, or what the file says that it includes.  A line counts for the database that was
selected last above it in the same file, so a database that is selected in an included file is
forgotten at its end.

Reading comes to one of two ends, each told as a derivation of its own.  It completes
(`Seed.Completes`) when all lines have a known form and all includes complete, none of them too
deep.  Otherwise there is a first fault (`Seed.FirstFault`), and everything above its line passes.
Loading finds out which (`Seed.loadFile_ends`), and the one or the other alone decides what it gives
(`Seed.load_eq_ok_iff`, `Seed.load_eq_error_iff`).
-/

namespace ReplicatedStore

namespace Seed

/-- The lines of a text as they stand in it. -/
def rawLines (text : String) : List (List Char) :=
  Text.splitOn '\n' text.toList

/-- The database that the line selects. -/
def Line.selects? : Line → Option String
  | .selects db => some db
  | _ => none

/-- The database in force below these lines of a file that was begun in `db`: the one that was
selected last. -/
def inForce (db : String) (above : List Line) : String :=
  (above.filterMap Line.selects?).getLast?.getD db

/-- What the line says of its own while `db` is in force. -/
def Line.own (db : String) : Line → List SeedEntry
  | .selects name => [.select name]
  | .entry key data => [.value db key data]
  | .blank | .includes _ | .unknown => []

/-- These entries are what the lines `below` of the file at `path` say, under the lines `above`,
when the file was begun in the database `db`. -/
inductive Says (d : Directory) :
    String → String → List Line → List (List Char) → List SeedEntry → Prop
  /-- The file ends. -/
  | done {path db : String} {above : List Line} : Says d path db above [] []
  /-- A line counts for the database in force. -/
  | own {path db : String} {above : List Line} {line : Line} {raw : List Char}
    {below : List (List Char)} {entries : List SeedEntry} (hraw : Means raw line)
    (hown : ∀ file, line ≠ .includes file)
    (hbelow : Says d path db (above ++ [line]) below entries) :
    Says d path db above (raw :: below) (line.own (inForce db above) ++ entries)
  /-- What another file says, begun in the database in force, stands in place of the line. -/
  | includes {path db file text : String} {above : List Line} {raw : List Char}
    {below : List (List Char)} {included entries : List SeedEntry}
    (hraw : Means raw (.includes file)) (htext : d.readText (join (parent path) file) = .ok text)
    (hfile : Says d (join (parent path) file) (inForce db above) [] (rawLines text) included)
    (hbelow : Says d path db (above ++ [.includes file]) below entries) :
    Says d path db above (raw :: below) (.select (inForce db above) :: included ++ entries)

/-- These entries are what the file at `path` says when it is begun in the database `db`, which is
named first. -/
def FileSays (d : Directory) (path db : String) (entries : List SeedEntry) : Prop :=
  ∃ text said, d.readText path = .ok text ∧ Says d path db [] (rawLines text) said ∧
    entries = .select db :: said

/-- The file at `path`, so many includes below the first one, is read to its end. -/
inductive Completes (d : Directory) : Nat → String → Prop
  | intro {depth : Nat} {path text : String} (hdepth : depth ≤ includeDepth)
    (htext : d.readText path = .ok text) (hlines : ∀ raw ∈ rawLines text, ∃ line, Means raw line)
    (hincludes : ∀ raw ∈ rawLines text, ∀ file, Means raw (.includes file) →
      Completes d (depth + 1) (join (parent path) file)) :
    Completes d depth path

/-- The line of the file at `path` has a known form, and a file that it includes is read to its
end. -/
structure Passes (d : Directory) (depth : Nat) (path : String) (raw : List Char) : Prop where
  known : ∃ line, Means raw line
  included : ∀ file, Means raw (.includes file) → Completes d (depth + 1) (join (parent path) file)

/-- The fault is the first one in reading order from the start of the file at `path`, so many
includes below the first one. -/
inductive FirstFault (d : Directory) : Nat → String → SeedError → Prop
  /-- The file is not read at all. -/
  | tooDeep {depth : Nat} {path : String} (hdepth : includeDepth < depth) :
    FirstFault d depth path (.tooDeep path)
  /-- The file cannot be read. -/
  | unreadable {depth : Nat} {path : String} {fault : FileError} (hdepth : depth ≤ includeDepth)
    (htext : d.readText path = .error fault) : FirstFault d depth path (.unreadable path fault)
  /-- A line has no known form, and all above it pass. -/
  | poorlyFormed {depth : Nat} {path text : String} {above below : List (List Char)}
    {raw content : List Char} (hdepth : depth ≤ includeDepth) (htext : d.readText path = .ok text)
    (hlines : rawLines text = above ++ raw :: below)
    (habove : ∀ line ∈ above, Passes d depth path line)
    (hraw : ∀ line, ¬ Means raw line) (hcontent : Text.Trimmed raw content) :
    FirstFault d depth path (.poorlyFormed path (above.length + 1) (String.ofList content))
  /-- A line includes a file with the fault, and all above it pass. -/
  | included {depth : Nat} {path text file : String} {above below : List (List Char)}
    {raw : List Char} {fault : SeedError} (hdepth : depth ≤ includeDepth)
    (htext : d.readText path = .ok text) (hlines : rawLines text = above ++ raw :: below)
    (habove : ∀ line ∈ above, Passes d depth path line) (hraw : Means raw (.includes file))
    (hfault : FirstFault d (depth + 1) (join (parent path) file) fault) :
    FirstFault d depth path fault

variable {d : Directory} {path db : String} {depth : Nat}

/-! ## One line of a file -/

@[simp] lemma inForce_nil : inForce db [] = db :=
  rfl

lemma inForce_append (above : List Line) (line : Line) :
    inForce db (above ++ [line]) = line.selects?.getD (inForce db above) := by
  cases hline : line.selects? with
  | none => simp [inForce, List.filterMap_append, hline]
  | some name => simp [inForce, List.filterMap_append, hline]

section Lines

variable {load : String → String → Except SeedError (List SeedEntry)} {raw : List Char}
  {number : Nat} {below : List (List Char)}

/-- A line that includes no file puts its own entries in front, and may select a database. -/
lemma loadLines_own {line : Line} (hraw : Means raw line) (hown : ∀ file, line ≠ .includes file) :
    loadLines load path db number ((raw :: below).map Text.trim) =
      (loadLines load path (line.selects?.getD db) (number + 1) (below.map Text.trim)).map
        (line.own db ++ ·) := by
  obtain ⟨hline, hknown⟩ := means_iff.mp hraw
  rw [List.map_cons, loadLines, hline]
  cases line with
  | blank =>
    dsimp only [Line.selects?, Option.getD_none]
    cases loadLines load path db (number + 1) (below.map Text.trim) <;> rfl
  | includes file => exact absurd rfl (hown file)
  | selects name =>
    dsimp only [Line.selects?, Option.getD_some]
    cases loadLines load path name (number + 1) (below.map Text.trim) <;> rfl
  | entry key data =>
    dsimp only [Line.selects?, Option.getD_none]
    cases loadLines load path db (number + 1) (below.map Text.trim) <;> rfl
  | unknown => exact absurd rfl hknown

/-- A line that includes a file puts in front what is read there. -/
lemma loadLines_includes {file : String} (hraw : Means raw (.includes file)) :
    loadLines load path db number ((raw :: below).map Text.trim) =
      (load (join (parent path) file) db).bind fun included =>
        (loadLines load path db (number + 1) (below.map Text.trim)).map (included ++ ·) := by
  obtain ⟨hline, -⟩ := means_iff.mp hraw
  rw [List.map_cons, loadLines, hline]
  dsimp only
  cases load (join (parent path) file) db with
  | error fault => rfl
  | ok included => cases loadLines load path db (number + 1) (below.map Text.trim) <;> rfl

/-- A line without a known form is a fault. -/
lemma loadLines_unknown (hraw : ∀ line, ¬ Means raw line) :
    loadLines load path db number ((raw :: below).map Text.trim) =
      .error (.poorlyFormed path number (String.ofList (Text.trim raw))) := by
  have hline : Line.ofChars (Text.trim raw) = .unknown := by
    by_contra hknown
    exact hraw _ (means_iff.mpr ⟨rfl, hknown⟩)
  rw [List.map_cons, loadLines, hline]

end Lines

/-! ## The two ends -/

/-- What loading the file at `path` gives, so many includes below the first one: what the file says
when it is read to its end, and the first fault otherwise. -/
def Ends (d : Directory) (depth : Nat) (path db : String) : Except SeedError (List SeedEntry) → Prop
  | .ok entries => Completes d depth path ∧ FileSays d path db entries
  | .error fault => FirstFault d depth path fault

/-- What loading the lines from one on gives, when all above it pass. -/
def LinesEnd (d : Directory) (depth : Nat) (path db : String) (said : List Line)
    (below : List (List Char)) : Except SeedError (List SeedEntry) → Prop
  | .ok entries => (∀ raw ∈ below, Passes d depth path raw) ∧ Says d path db said below entries
  | .error fault => FirstFault d depth path fault

/-- A line of a known form passes when a file that it includes is read to its end. -/
lemma passes_of_means {raw : List Char} {line : Line} (hraw : Means raw line)
    (hfile : ∀ file, line = .includes file → Completes d (depth + 1) (join (parent path) file)) :
    Passes d depth path raw := by
  exact ⟨⟨line, hraw⟩, fun file hincludes => hfile file (means_unique hraw hincludes)⟩

/-- One more line passes above those that end. -/
lemma LinesEnd.above {said : List Line} {line : Line} {raw : List Char} {below : List (List Char)}
    {result : Except SeedError (List SeedEntry)} {put : List SeedEntry → List SeedEntry}
    (h : LinesEnd d depth path db (said ++ [line]) below result) (hraw : Passes d depth path raw)
    (hput : ∀ entries, Says d path db (said ++ [line]) below entries →
      Says d path db said (raw :: below) (put entries)) :
    LinesEnd d depth path db said (raw :: below) (result.map put) := by
  cases result with
  | error fault => exact h
  | ok entries => exact ⟨List.forall_mem_cons.mpr ⟨hraw, h.1⟩, hput entries h.2⟩

/-- Loading line after line ends when loading each included file does. -/
lemma loadLines_ends {load : String → String → Except SeedError (List SeedEntry)}
    (hload : ∀ path db, Ends d (depth + 1) path db (load path db)) (hdepth : depth ≤ includeDepth)
    {text : String} (htext : d.readText path = .ok text) (below above : List (List Char))
    (said : List Line) (hlines : rawLines text = above ++ below)
    (habove : ∀ raw ∈ above, Passes d depth path raw) :
    LinesEnd d depth path db said below
      (loadLines load path (inForce db said) (above.length + 1) (below.map Text.trim)) := by
  induction below generalizing above said with
  | nil => exact ⟨by simp, .done⟩
  | cons raw below ih =>
    -- The lines below end once this one passes.
    have hbelow (line : Line) (hraw : Passes d depth path raw) :
        LinesEnd d depth path db (said ++ [line]) below
          (loadLines load path (line.selects?.getD (inForce db said)) (above.length + 1 + 1)
            (below.map Text.trim)) := by
      have hnext := ih (above ++ [raw]) (said ++ [line]) (by rw [hlines]; simp)
        (by simpa [or_imp, forall_and] using ⟨habove, hraw⟩)
      rw [inForce_append, List.length_append] at hnext
      exact hnext
    by_cases hknown : ∃ line, Means raw line
    · obtain ⟨line, hraw⟩ := hknown
      by_cases hincludes : ∃ file, line = .includes file
      · obtain ⟨file, rfl⟩ := hincludes
        have hfile := hload (join (parent path) file) (inForce db said)
        rw [loadLines_includes hraw]
        cases hincluded : load (join (parent path) file) (inForce db said) with
        | error fault =>
          rw [hincluded] at hfile
          exact .included hdepth htext hlines habove hraw hfile
        | ok included =>
          rw [hincluded] at hfile
          obtain ⟨hcompletes, text', said', htext', hsaid', rfl⟩ := hfile
          have hpasses : Passes d depth path raw := by
            refine passes_of_means hraw fun other hother => ?_
            rw [← Line.includes.inj hother]
            exact hcompletes
          exact (hbelow (.includes file) hpasses).above hpasses fun entries =>
            .includes hraw htext' hsaid'
      · have hown : ∀ file, line ≠ .includes file := fun file heq => hincludes ⟨file, heq⟩
        have hpasses : Passes d depth path raw :=
          passes_of_means hraw fun file hfile => absurd hfile (hown file)
        rw [loadLines_own hraw hown]
        exact (hbelow line hpasses).above hpasses fun entries => .own hraw hown
    · have hraw : ∀ line, ¬ Means raw line := fun line hline => hknown ⟨line, hline⟩
      rw [loadLines_unknown hraw]
      exact .poorlyFormed hdepth htext hlines habove hraw (Text.trimmed_trim raw)

lemma loadFile_of_readText {budget : Nat} {text : String} (h : d.readText path = .ok text) :
    loadFile d (budget + 1) path db =
      (loadLines (loadFile d budget) path db 1 ((rawLines text).map Text.trim)).map
        (.select db :: ·) := by
  rw [loadFile, h]
  show (loadLines _ path db 1 ((rawLines text).map Text.trim) >>= fun said =>
    pure (.select db :: said)) = _
  cases loadLines (loadFile d budget) path db 1 ((rawLines text).map Text.trim) <;> rfl

/-- **Loading ends.** -/
theorem loadFile_ends (budget : Nat) (path db : String)
    (hbudget : budget + depth = includeDepth + 1) :
    Ends d depth path db (loadFile d budget path db) := by
  induction budget generalizing depth path db with
  | zero => exact .tooDeep (by omega)
  | succ budget ih =>
    have hdepth : depth ≤ includeDepth := by omega
    cases htext : d.readText path with
    | error fault =>
      rw [loadFile, htext]
      exact .unreadable hdepth htext
    | ok text =>
      have hlines : LinesEnd d depth path db [] (rawLines text)
          (loadLines (loadFile d budget) path (inForce db []) (0 + 1)
            ((rawLines text).map Text.trim)) :=
        loadLines_ends (fun path db => ih path db (by omega)) hdepth htext (rawLines text) [] [] rfl
          (by simp)
      rw [inForce_nil] at hlines
      rw [loadFile_of_readText htext]
      cases hentries : loadLines (loadFile d budget) path db 1 ((rawLines text).map Text.trim) with
      | error fault =>
        rw [hentries] at hlines
        exact hlines
      | ok entries =>
        rw [hentries] at hlines
        obtain ⟨hpasses, htold⟩ := hlines
        exact ⟨.intro hdepth htext (fun raw hraw => (hpasses raw hraw).known)
          fun raw hraw => (hpasses raw hraw).included, text, entries, htext, htold, rfl⟩

/-! ## No file has two ends -/

lemma Says.entries_eq {said : List Line} {below : List (List Char)} {entries other : List SeedEntry}
    (h : Says d path db said below entries) (hother : Says d path db said below other) :
    entries = other := by
  induction h generalizing other with
  | done =>
    cases hother
    rfl
  | own hraw hown _ ih =>
    cases hother with
    | own hraw' _ hbelow' =>
      obtain rfl := means_unique hraw hraw'
      rw [ih hbelow']
    | includes hraw' _ _ _ => exact absurd (means_unique hraw hraw') (hown _)
  | includes hraw htext _ _ ihfile ihbelow =>
    cases hother with
    | own hraw' hown' _ => exact absurd (means_unique hraw' hraw) (hown' _)
    | includes hraw' htext' hfile' hbelow' =>
      obtain rfl := Line.includes.inj (means_unique hraw hraw')
      obtain rfl := Except.ok.inj (htext.symm.trans htext')
      rw [ihfile hfile', ihbelow hbelow']

lemma FileSays.entries_eq {entries other : List SeedEntry} (h : FileSays d path db entries)
    (hother : FileSays d path db other) : entries = other := by
  obtain ⟨text, said, htext, htold, rfl⟩ := h
  obtain ⟨text', said', htext', htold', rfl⟩ := hother
  obtain rfl := Except.ok.inj (htext.symm.trans htext')
  rw [htold.entries_eq htold']

/-- A file that is read to its end has no fault. -/
lemma FirstFault.not_completes {fault : SeedError} (h : FirstFault d depth path fault) :
    ¬ Completes d depth path := by
  induction h with
  | tooDeep hdeep =>
    rintro ⟨hdepth, -, -, -⟩
    omega
  | unreadable _ htext =>
    rintro ⟨-, htext', -, -⟩
    cases htext.symm.trans htext'
  | poorlyFormed _ htext hlines _ hraw _ =>
    rintro ⟨-, htext', hknown, -⟩
    obtain rfl := Except.ok.inj (htext.symm.trans htext')
    obtain ⟨line, hline⟩ := hknown _ (hlines ▸ List.mem_append_cons_self)
    exact hraw line hline
  | included _ htext hlines _ hraw _ ih =>
    rintro ⟨-, htext', -, hincludes⟩
    obtain rfl := Except.ok.inj (htext.symm.trans htext')
    exact ih (hincludes _ (hlines ▸ List.mem_append_cons_self) _ hraw)

/-- The first line that does not pass stands in one place only. -/
lemma eq_of_first {α : Type} {pass : α → Prop} {above below above' below' : List α} {a a' : α}
    (h : above ++ a :: below = above' ++ a' :: below') (habove : ∀ b ∈ above, pass b)
    (ha : ¬ pass a) (habove' : ∀ b ∈ above', pass b) (ha' : ¬ pass a') :
    above = above' ∧ a = a' := by
  induction above generalizing above' with
  | nil =>
    cases above' with
    | nil => exact ⟨rfl, (List.cons.inj h).1⟩
    | cons b others =>
      rw [(List.cons.inj h).1] at ha
      exact absurd (habove' b List.mem_cons_self) ha
  | cons b others ih =>
    cases above' with
    | nil =>
      rw [← (List.cons.inj h).1] at ha'
      exact absurd (habove b List.mem_cons_self) ha'
    | cons b' others' =>
      obtain ⟨rfl, hrest⟩ := List.cons.inj h
      obtain ⟨rfl, rfl⟩ := ih hrest (fun c hc => habove c (List.mem_cons_of_mem _ hc))
        fun c hc => habove' c (List.mem_cons_of_mem _ hc)
      exact ⟨rfl, rfl⟩

lemma not_passes_of_unknown {raw : List Char} (h : ∀ line, ¬ Means raw line) :
    ¬ Passes d depth path raw := by
  rintro ⟨⟨line, hline⟩, -⟩
  exact h line hline

lemma not_passes_of_fault {raw : List Char} {file : String} {fault : SeedError}
    (hraw : Means raw (.includes file))
    (hfault : FirstFault d (depth + 1) (join (parent path) file) fault) :
    ¬ Passes d depth path raw :=
  fun hpasses => hfault.not_completes (hpasses.included file hraw)

lemma FirstFault.fault_eq {fault other : SeedError} (h : FirstFault d depth path fault)
    (hother : FirstFault d depth path other) : fault = other := by
  induction h generalizing other with
  | tooDeep hdeep =>
    cases hother with
    | tooDeep _ => rfl
    | unreadable hdepth _ | poorlyFormed hdepth _ _ _ _ _ | included hdepth _ _ _ _ _ => omega
  | unreadable hdepth htext =>
    cases hother with
    | tooDeep _ => omega
    | unreadable _ htext' => rw [Except.error.inj (htext.symm.trans htext')]
    | poorlyFormed _ htext' _ _ _ _ | included _ htext' _ _ _ _ =>
      cases htext.symm.trans htext'
  | poorlyFormed hdepth htext hlines habove hraw hcontent =>
    cases hother with
    | tooDeep _ => omega
    | unreadable _ htext' => cases htext.symm.trans htext'
    | poorlyFormed _ htext' hlines' habove' hraw' hcontent' =>
      obtain rfl := Except.ok.inj (htext.symm.trans htext')
      obtain ⟨rfl, rfl⟩ := eq_of_first (hlines.symm.trans hlines') habove
        (not_passes_of_unknown hraw) habove' (not_passes_of_unknown hraw')
      rw [← hcontent.eq_trim, ← hcontent'.eq_trim]
    | included _ htext' hlines' habove' hraw' hfault' =>
      obtain rfl := Except.ok.inj (htext.symm.trans htext')
      obtain ⟨-, rfl⟩ := eq_of_first (hlines.symm.trans hlines') habove
        (not_passes_of_unknown hraw) habove' (not_passes_of_fault hraw' hfault')
      exact absurd hraw' (hraw _)
  | included hdepth htext hlines habove hraw hfault ih =>
    cases hother with
    | tooDeep _ => omega
    | unreadable _ htext' => cases htext.symm.trans htext'
    | poorlyFormed _ htext' hlines' habove' hraw' _ =>
      obtain rfl := Except.ok.inj (htext.symm.trans htext')
      obtain ⟨-, rfl⟩ := eq_of_first (hlines.symm.trans hlines') habove
        (not_passes_of_fault hraw hfault) habove' (not_passes_of_unknown hraw')
      exact absurd hraw (hraw' _)
    | included _ htext' hlines' habove' hraw' hfault' =>
      obtain rfl := Except.ok.inj (htext.symm.trans htext')
      obtain ⟨-, rfl⟩ := eq_of_first (hlines.symm.trans hlines') habove
        (not_passes_of_fault hraw hfault) habove' (not_passes_of_fault hraw' hfault')
      obtain rfl := Line.includes.inj (means_unique hraw hraw')
      exact ih hfault'

/-! ## What loading gives -/

lemma load_ends (d : Directory) (root : String) : Ends d 0 root firstDatabase (load d root) :=
  loadFile_ends (includeDepth + 1) root firstDatabase rfl

/-- **Loading gives entries** exactly when the first file is read to its end, and then those that it
says. -/
theorem load_eq_ok_iff {root : String} {entries : List SeedEntry} :
    load d root = .ok entries ↔ Completes d 0 root ∧ FileSays d root firstDatabase entries := by
  have hends := load_ends d root
  cases hload : load d root with
  | error fault =>
    rw [hload] at hends
    constructor
    · rintro ⟨⟩
    · rintro ⟨hcompletes, -⟩
      exact absurd hcompletes hends.not_completes
  | ok found =>
    rw [hload] at hends
    constructor
    · rintro ⟨⟩
      exact hends
    · rintro ⟨-, htold⟩
      rw [hends.2.entries_eq htold]

/-- **Loading fails** with the first fault. -/
theorem load_eq_error_iff {root : String} {fault : SeedError} :
    load d root = .error fault ↔ FirstFault d 0 root fault := by
  have hends := load_ends d root
  cases hload : load d root with
  | error found =>
    rw [hload] at hends
    constructor
    · rintro ⟨⟩
      exact hends
    · intro hfault
      rw [hends.fault_eq hfault]
  | ok entries =>
    rw [hload] at hends
    constructor
    · rintro ⟨⟩
    · intro hfault
      exact absurd hends.1 hfault.not_completes

end Seed

end ReplicatedStore
