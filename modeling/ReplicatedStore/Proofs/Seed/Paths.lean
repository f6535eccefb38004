import Mathlib.Data.List.TakeWhile
import Mathlib.Tactic.Common
import ReplicatedStore.Proofs.Text.Split
import ReplicatedStore.Seed

/-!
# Where the path of an included file leads

An included file is named from the directory of the including one, by a path that is put together
as text.  Two paths of one file may differ, and so do the paths of the files that it includes; but
where these lead depends on the file alone (`Directory.follow_of_locate_join`).  This rests on what
every file system grants: no file is a directory (`Directory.Consistent`), so that the last segment
of a path to a file is a name and neither `.` nor `..`.
-/

namespace ReplicatedStore

/-! ## Slashes -/

lemma startsWith_slash (path : String) :
    path.startsWith "/" = true ↔ path.toList.head? = some '/' := by
  rw [String.startsWith_string_iff]
  show ['/'] <+: path.toList ↔ _
  cases path.toList with
  | nil => simp
  | cons c rest => simp [eq_comm]

lemma endsWith_slash (path : String) :
    path.endsWith "/" = true ↔ path.toList.getLast? = some '/' := by
  rw [String.endsWith_eq_endsWith_toSlice, String.Slice.endsWith_string_iff, String.copy_toSlice]
  show ['/'] <:+ path.toList ↔ _
  rw [← List.reverse_prefix, List.getLast?_eq_head?_reverse]
  cases path.toList.reverse with
  | nil => simp
  | cons c rest => simp [eq_comm]

namespace Directory

/-- The segments of a path, as lists of characters. -/
def pieces (cs : List Char) : List (List Char) :=
  (Text.splitOn '/' cs).filter (!·.isEmpty)

lemma segments_eq (path : String) : segments path = (pieces path.toList).map String.ofList :=
  rfl

lemma pieces_append_slash (before after : List Char) :
    pieces (before ++ '/' :: after) = pieces before ++ pieces after := by
  rw [pieces, Text.splitOn_append_sep, List.filter_append]
  rfl

lemma pieces_slash (cs : List Char) : pieces (cs ++ ['/']) = pieces cs := by
  rw [pieces_append_slash]
  exact List.append_nil (pieces cs)

lemma pieces_segment {cs : List Char} (hsome : cs ≠ []) (h : '/' ∉ cs) : pieces cs = [cs] := by
  rw [pieces, Text.splitOn_of_not_mem h]
  exact List.filter_eq_self.mpr (by simpa using hsome)

/-! ## Following segments -/

variable {d : Directory} {names target : List String}

/-- Where one segment leads. -/
def turn (names : List String) (segment : String) : List String :=
  if segment = "." then names else if segment = ".." then names.dropLast else names ++ [segment]

lemma follow_cons_eq_ok {segment : String} {rest : List String} :
    d.follow names (segment :: rest) = .ok target ↔
      d.enter names = .ok () ∧ segment.utf8ByteSize ≤ longestName ∧
        d.follow (turn names segment) rest = .ok target := by
  rw [follow]
  cases d.enter names with
  | error fault => exact ⟨nofun, nofun⟩
  | ok _ =>
    show (if longestName < segment.utf8ByteSize then .error .tooLong
      else if segment = "." then d.follow names rest
      else if segment = ".." then d.follow names.dropLast rest
      else d.follow (names ++ [segment]) rest) = .ok target ↔ _
    by_cases hlong : longestName < segment.utf8ByteSize
    · rw [if_pos hlong]
      exact ⟨nofun, fun h => absurd hlong (by omega)⟩
    · rw [if_neg hlong, turn, apply_ite (d.follow · rest), apply_ite (d.follow · rest)]
      exact ⟨fun h => ⟨rfl, by omega, h⟩, fun h => h.2.2⟩

lemma follow_append_eq_ok {segments more : List String} :
    d.follow names (segments ++ more) = .ok target ↔
      ∃ between, d.follow names segments = .ok between ∧ d.follow between more = .ok target := by
  induction segments generalizing names with
  | nil => exact ⟨fun h => ⟨names, rfl, h⟩, fun ⟨_, hhere, h⟩ => Except.ok.inj hhere ▸ h⟩
  | cons segment rest ih =>
    rw [List.cons_append, follow_cons_eq_ok, ih]
    constructor
    · rintro ⟨henter, hlength, between, hrest, hmore⟩
      exact ⟨between, follow_cons_eq_ok.mpr ⟨henter, hlength, hrest⟩, hmore⟩
    · rintro ⟨between, hsegments, hmore⟩
      obtain ⟨henter, hlength, hrest⟩ := follow_cons_eq_ok.mp hsegments
      exact ⟨henter, hlength, between, hrest, hmore⟩

/-- Segments that stay where they are lead nowhere else. -/
lemma follow_dots {count : Nat} (h : d.follow names (List.replicate count ".") = .ok target) :
    target = names := by
  induction count with
  | zero => exact (Except.ok.inj h).symm
  | succ count ih =>
    obtain ⟨-, -, hrest⟩ := follow_cons_eq_ok.mp h
    exact ih hrest

/-! ## Locating a path -/

/-- Where a path starts. -/
def start (d : Directory) (path : String) : List String :=
  if path.startsWith "/" then [] else d.home

lemma locate_eq_ok {path : String} (h : d.locate path = .ok names) :
    d.follow (d.start path) (segments path) = .ok names ∧
      (path.endsWith "/" = true → d.enter names = .ok ()) := by
  rw [locate] at h
  split at h
  · cases h
  dsimp only at h
  split at h
  · cases h
  rw [start]
  cases hfollow : d.follow (if path.startsWith "/" then [] else d.home) (segments path) with
  | error fault =>
    rw [hfollow] at h
    cases h
  | ok found =>
    rw [hfollow] at h
    change (if path.endsWith "/" then d.enter found >>= fun _ => pure found else pure found) =
      .ok names at h
    split at h
    · cases henter : d.enter found with
      | error fault =>
        rw [henter] at h
        cases h
      | ok _ =>
        rw [henter] at h
        obtain rfl := Except.ok.inj h
        exact ⟨rfl, fun _ => henter⟩
    · rename_i hslash
      obtain rfl := Except.ok.inj h
      exact ⟨rfl, fun h => absurd h hslash⟩

/-- A file that can be read as text is found under the names that its path leads to. -/
lemma locate_of_readText {path text : String} (h : d.readText path = .ok text) :
    ∃ names, d.locate path = .ok names ∧ names ∈ d.files := by
  rw [readText] at h
  cases hread : d.read path with
  | error fault =>
    rw [hread] at h
    cases h
  | ok content =>
    rw [Directory.read] at hread
    cases hnames : d.locate path with
    | error fault =>
      rw [hnames] at hread
      cases hread
    | ok names =>
      refine ⟨names, rfl, ?_⟩
      by_contra hnone
      rw [hnames] at hread
      dsimp only [bind, Except.bind] at hread
      rw [Std.ExtTreeMap.getElem?_eq_none hnone] at hread
      cases hread

/-- As in every file system, no file is a directory. -/
def Consistent (d : Directory) : Prop :=
  ∀ names ∈ d.files, d.hasDirectory names = false

lemma hasDirectory_of_enter (h : d.enter names = .ok ()) : d.hasDirectory names = true := by
  rw [enter] at h
  split at h
  · assumption
  · split at h <;> cases h

lemma hasDirectory_iff : d.hasDirectory names = true ↔
    (∃ folder ∈ d.home :: d.folders, names <+: folder) ∨
      ∃ file ∈ d.files, names <+: file ∧ names.length < file.length := by
  simp only [hasDirectory, Bool.or_eq_true, List.any_eq_true, List.isPrefixOf_iff_prefix,
    Bool.and_eq_true, decide_eq_true_eq, Std.ExtTreeMap.mem_keys]

/-- A directory is in directories only. -/
lemma hasDirectory_of_isPrefix {above : List String} (h : above <+: names)
    (hnames : d.hasDirectory names = true) : d.hasDirectory above = true := by
  refine hasDirectory_iff.mpr ?_
  rcases hasDirectory_iff.mp hnames with ⟨folder, hfolder, hnames⟩ | ⟨file, hfile, hnames, hlength⟩
  · exact .inl ⟨folder, hfolder, h.trans hnames⟩
  · exact .inr ⟨file, hfile, h.trans hnames, by have := h.length_le; omega⟩

/-- The last segment of a path to a file is its name, in the directory that is reached before it. -/
lemma follow_of_file (hd : d.Consistent) {from' : List String} {segments : List String}
    {last : String} (hfile : names ∈ d.files)
    (h : d.follow from' (segments ++ [last]) = .ok names) :
    d.follow from' segments = .ok names.dropLast := by
  obtain ⟨between, hbetween, hlast⟩ := follow_append_eq_ok.mp h
  obtain ⟨henter, -, hturn⟩ := follow_cons_eq_ok.mp hlast
  have hdirectory := hasDirectory_of_enter henter
  have hnames : turn between last = names := Except.ok.inj hturn
  have hnot := hd names hfile
  rw [turn] at hnames
  split at hnames
  · rw [← hnames, hdirectory] at hnot
    cases hnot
  split at hnames
  · rw [← hnames, hasDirectory_of_isPrefix between.dropLast_prefix hdirectory] at hnot
    cases hnot
  rw [← hnames, List.dropLast_concat]
  exact hbetween

end Directory

/-! ## The directory of a file -/

namespace Seed

open Directory

lemma bare_isSuffix (cs : List Char) : bare cs <:+ cs := by
  fun_induction bare cs with
  | case1 rest ih => exact ih.trans (List.suffix_cons _ _)
  | case2 rest ih => exact ih.trans ((List.suffix_cons _ _).trans (List.suffix_cons _ _))
  | case3 cs => exact List.suffix_rfl

/-- What is cut off the end of a path stays where it is. -/
lemma pieces_bare (cs : List Char) :
    ∃ count, pieces cs.reverse = pieces (bare cs).reverse ++ List.replicate count ['.'] := by
  fun_induction bare cs with
  | case1 rest ih =>
    obtain ⟨count, hcount⟩ := ih
    refine ⟨count, ?_⟩
    rw [List.reverse_cons, pieces_slash, hcount]
  | case2 rest ih =>
    obtain ⟨count, hcount⟩ := ih
    refine ⟨count + 1, ?_⟩
    have hdot : ('.' :: '/' :: rest).reverse = rest.reverse ++ '/' :: ['.'] := by simp
    rw [hdot, pieces_append_slash, hcount, List.append_assoc, List.replicate_succ']
    rfl
  | case3 cs => exact ⟨0, (List.append_nil _).symm⟩

/-- The directory of a path as characters: what stands before its last segment, without the slashes
and `.` segments at its end. -/
def parentChars (cs : List Char) : List Char :=
  (bare ((cs.reverse.dropWhile (· == '/')).dropWhile (· != '/'))).reverse

lemma parent_eq (path : String) :
    parent path =
      if (String.ofList (parentChars path.toList)).isEmpty && path.startsWith "/" then "/"
      else String.ofList (parentChars path.toList) :=
  rfl

lemma parentChars_isPrefix (cs : List Char) : parentChars cs <+: cs := by
  rw [← List.reverse_suffix, parentChars, List.reverse_reverse]
  exact (bare_isSuffix _).trans ((List.dropWhile_suffix _).trans (List.dropWhile_suffix _))

lemma startsWith_parent (path : String) : (parent path).startsWith "/" = path.startsWith "/" := by
  rw [parent_eq]
  cases hchars : parentChars path.toList with
  | nil =>
    show (if path.startsWith "/" then "/" else "").startsWith "/" = _
    by_cases hslash : path.startsWith "/" = true
    · rw [if_pos hslash, hslash, startsWith_slash]
      rfl
    · rw [if_neg hslash, Bool.eq_false_iff.mpr hslash]
      rfl
  | cons c rest =>
    obtain ⟨after, hafter⟩ := parentChars_isPrefix path.toList
    have hempty : (String.ofList (c :: rest)).isEmpty = false := by
      rw [Bool.eq_false_iff, Ne, String.isEmpty_iff, String.ofList_eq_empty_iff]
      exact List.cons_ne_nil c rest
    rw [hempty, Bool.false_and, if_neg Bool.false_ne_true, Bool.eq_iff_iff, startsWith_slash,
      startsWith_slash, ← hafter, hchars, String.toList_ofList]
    rfl

lemma segments_parent (path : String) :
    segments (parent path) = (pieces (parentChars path.toList)).map String.ofList := by
  rw [parent_eq]
  split
  · rename_i hempty
    obtain ⟨hnone, -⟩ := Bool.and_eq_true_iff.mp hempty
    rw [String.isEmpty_iff, String.ofList_eq_empty_iff] at hnone
    rw [hnone]
    rfl
  · rw [segments_eq, String.toList_ofList]

lemma startsWith_join {directory file : String} (hfile : file.startsWith "/" = false) :
    (join directory file).startsWith "/" = directory.startsWith "/" := by
  rw [join, hfile, Bool.or_false]
  by_cases hempty : directory.isEmpty = true
  · rw [if_pos hempty, hfile, String.isEmpty_iff.mp hempty]
    rfl
  · rw [if_neg hempty, Bool.eq_iff_iff]
    have hsome : directory.toList ≠ [] := fun hnone => hempty (by
      rw [String.isEmpty_iff, ← String.toList_eq_nil_iff]
      exact hnone)
    obtain ⟨c, rest, hchars⟩ := List.exists_cons_of_ne_nil hsome
    split <;> simp only [startsWith_slash, String.toList_append, hchars, List.cons_append,
      List.head?_cons]

lemma segments_join {directory file : String} (hfile : file.startsWith "/" = false) :
    segments (join directory file) = segments directory ++ segments file := by
  rw [join, hfile, Bool.or_false]
  by_cases hempty : directory.isEmpty = true
  · rw [if_pos hempty, String.isEmpty_iff.mp hempty]
    rfl
  · rw [if_neg hempty]
    simp only [segments_eq, ← List.map_append]
    split
    · rename_i hslash
      have hlast := (endsWith_slash directory).mp hslash
      obtain ⟨before, hbefore⟩ := List.getLast?_eq_some_iff.mp hlast
      rw [String.toList_append, hbefore, List.append_assoc, List.singleton_append,
        pieces_append_slash, pieces_slash]
    · rw [String.toList_append, String.toList_append, List.append_assoc]
      show (pieces (directory.toList ++ '/' :: file.toList)).map _ = _
      rw [pieces_append_slash]

/-- Read from its end, a path that does not end with a slash begins with its last segment. -/
lemma pieces_reverse {c : Char} (hc : c ≠ '/') (rest : List Char) :
    pieces (c :: rest).reverse =
      pieces ((c :: rest).dropWhile (· != '/')).reverse ++
        [((c :: rest).takeWhile (· != '/')).reverse] := by
  have hsome : (c :: rest).takeWhile (· != '/') ≠ [] := by
    rw [List.takeWhile_cons_of_pos (by simpa using hc)]
    exact List.cons_ne_nil _ _
  have hnone : '/' ∉ (c :: rest).takeWhile (· != '/') := by
    intro hmem
    simpa using List.mem_takeWhile_imp hmem
  have hsegment : pieces ((c :: rest).takeWhile (· != '/')).reverse =
      [((c :: rest).takeWhile (· != '/')).reverse] :=
    pieces_segment (by simpa using hsome) (by simpa using hnone)
  have hcut : (c :: rest).reverse =
      ((c :: rest).dropWhile (· != '/')).reverse ++
        ((c :: rest).takeWhile (· != '/')).reverse := by
    rw [← List.reverse_append, List.takeWhile_append_dropWhile]
  rw [hcut]
  cases hbefore : (c :: rest).dropWhile (· != '/') with
  | nil => exact hsegment
  | cons b others =>
    have hb : b = '/' := by
      have hnot := List.head?_dropWhile_not (· != '/') (c :: rest)
      rw [hbefore] at hnot
      simpa using hnot
    rw [hb, List.reverse_cons, pieces_slash, List.append_assoc, List.singleton_append,
      pieces_append_slash, hsegment]

/-- A path that does not end with a slash has a last segment, and before it those of its directory,
which may stay where they are. -/
lemma segments_eq_parent {path : String} (hsome : path ≠ "") (hslash : path.endsWith "/" = false) :
    ∃ count last,
      segments path = segments (parent path) ++ List.replicate count "." ++ [last] := by
  have hchars : path.toList.reverse ≠ [] := by
    rw [List.reverse_ne_nil_iff, Ne, String.toList_eq_nil_iff]
    exact hsome
  obtain ⟨c, rest, hback⟩ := List.exists_cons_of_ne_nil hchars
  have hc : c ≠ '/' := by
    rintro rfl
    rw [Bool.eq_false_iff, Ne, endsWith_slash, List.getLast?_eq_head?_reverse, hback] at hslash
    exact hslash rfl
  have hpath : parentChars path.toList = (bare ((c :: rest).dropWhile (· != '/'))).reverse := by
    rw [parentChars, hback, List.dropWhile_cons_of_neg (by simpa using hc)]
  obtain ⟨count, hcount⟩ := pieces_bare ((c :: rest).dropWhile (· != '/'))
  refine ⟨count, String.ofList ((c :: rest).takeWhile (· != '/')).reverse, ?_⟩
  have hpieces := pieces_reverse hc rest
  rw [← hback, List.reverse_reverse, hback] at hpieces
  rw [segments_eq, hpieces, hcount, segments_parent, hpath]
  simp

/-- **Where the path of an included file leads.**  It is followed from the directory that the
including file is in, which is told by the names that lead to that file. -/
lemma follow_of_locate_join {d : Directory} (hd : d.Consistent) {path file : String}
    {names target : List String} (hpath : d.locate path = .ok names) (hfile : names ∈ d.files)
    (hjoin : d.locate (join (parent path) file) = .ok target) :
    d.follow (if file.startsWith "/" then [] else names.dropLast) (segments file) = .ok target := by
  obtain ⟨hfollow, hends⟩ := locate_eq_ok hpath
  obtain ⟨htarget, -⟩ := locate_eq_ok hjoin
  cases habsolute : file.startsWith "/" with
  | true =>
    have hsame : join (parent path) file = file := by
      rw [join, habsolute, Bool.or_true, if_pos rfl]
    rw [hsame, start, habsolute] at htarget
    exact htarget
  | false =>
    have hnot := hd names hfile
    have hslash : path.endsWith "/" = false := by
      rw [Bool.eq_false_iff]
      intro hslash
      rw [hasDirectory_of_enter (hends hslash)] at hnot
      cases hnot
    have hsome : path ≠ "" := by
      rintro rfl
      -- The empty path leads to the working directory.
      have hhome : d.home = names := Except.ok.inj hfollow
      have hdirectory : d.hasDirectory d.home = true :=
        hasDirectory_iff.mpr (.inl ⟨d.home, List.mem_cons_self, List.prefix_rfl⟩)
      rw [← hhome, hdirectory] at hnot
      cases hnot
    obtain ⟨count, last, hsegments⟩ := segments_eq_parent hsome hslash
    rw [hsegments] at hfollow
    obtain ⟨between, hparent, hdots⟩ :=
      follow_append_eq_ok.mp (follow_of_file hd hfile hfollow)
    rw [follow_dots hdots]
    rw [start, startsWith_join habsolute, startsWith_parent, segments_join habsolute] at htarget
    obtain ⟨between', hparent', hrest⟩ := follow_append_eq_ok.mp htarget
    rw [start, hparent'] at hparent
    obtain rfl := Except.ok.inj hparent
    exact hrest

end Seed

end ReplicatedStore
