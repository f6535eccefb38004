import Mathlib.Data.List.TakeWhile
import Mathlib.Tactic.Common
import ReplicatedStore.Proofs.Text.Split
import ReplicatedStore.Seed

/-!
# What a line of a seed file says

A line is read without the white space around it (`Text.Trimmed`).  What it then says is told by its
form (`Seed.Line.Written`): nothing, a directive of two words, or a key, a blank or tab, more white
space, and a value.  Every line says one thing at most, and `Seed.Line.ofChars` finds it
(`Seed.means_iff`); a line that says none is malformed.
-/

namespace ReplicatedStore

/-! ## White space -/

namespace Text

/-- The text stands between white space in the raw one, and neither starts nor ends with any. -/
structure Trimmed (raw text : List Char) : Prop where
  around : ∃ before after, raw = before ++ text ++ after ∧
    (∀ c ∈ before, isBlank c) ∧ ∀ c ∈ after, isBlank c
  first : ∀ c ∈ text.head?, isBlank c = false
  last : ∀ c ∈ text.getLast?, isBlank c = false

lemma head?_dropWhile {α : Type} (p : α → Bool) (l : List α) :
    ∀ a ∈ (l.dropWhile p).head?, p a = false := by
  intro a ha
  have hnot := List.head?_dropWhile_not p l
  rw [Option.mem_def.mp ha] at hnot
  simpa using hnot

lemma dropWhile_append_of_head? {α : Type} {p : α → Bool} {gap l : List α} (hgap : ∀ a ∈ gap, p a)
    (hhead : ∀ a ∈ l.head?, p a = false) : (gap ++ l).dropWhile p = l := by
  rw [List.dropWhile_append_of_pos hgap]
  cases l with
  | nil => rfl
  | cons a rest => exact List.dropWhile_cons_of_neg (by simp [hhead a rfl])

/-- White space is cut off a text up to the first character that is none. -/
lemma eq_append_trimStart (cs : List Char) :
    ∃ gap, cs = gap ++ trimStart cs ∧ ∀ c ∈ gap, isBlank c :=
  ⟨cs.takeWhile isBlank, List.takeWhile_append_dropWhile.symm, fun _ => List.mem_takeWhile_imp⟩

lemma eq_trimEnd_append (cs : List Char) :
    ∃ gap, cs = trimEnd cs ++ gap ∧ ∀ c ∈ gap, isBlank c := by
  obtain ⟨gap, hcut, hblank⟩ := eq_append_trimStart cs.reverse
  refine ⟨gap.reverse, ?_, fun c hc => hblank c (List.mem_reverse.mp hc)⟩
  rw [trimEnd, ← List.reverse_append]
  exact (List.reverse_eq_iff.mp hcut)

lemma trimmed_trim (raw : List Char) : Trimmed raw (trim raw) := by
  obtain ⟨before, hbefore, hblank⟩ := eq_append_trimStart raw
  obtain ⟨after, hafter, hblanks⟩ := eq_trimEnd_append (trimStart raw)
  constructor
  · refine ⟨before, after, ?_, hblank, hblanks⟩
    rw [List.append_assoc, trim, ← hafter]
    exact hbefore
  · -- The first character is still there unless nothing is left.
    intro c hc
    refine head?_dropWhile isBlank raw c ?_
    show c ∈ (trimStart raw).head?
    have hkept : (trimEnd (trimStart raw)).head? = some c := hc
    rw [hafter, List.head?_append, hkept]
    rfl
  · intro c hc
    rw [trim, trimEnd, List.getLast?_reverse] at hc
    exact head?_dropWhile isBlank _ c hc

lemma Trimmed.eq_trim {raw text : List Char} (h : Trimmed raw text) : trim raw = text := by
  obtain ⟨before, after, rfl, hbefore, hafter⟩ := h.around
  cases text with
  | nil =>
    have hall : ∀ c ∈ before ++ [] ++ after, isBlank c := by
      intro c hc
      rw [List.append_nil] at hc
      exact (List.mem_append.mp hc).elim (hbefore c) (hafter c)
    rw [trim, trimStart, List.dropWhile_eq_nil_iff.mpr hall]
    rfl
  | cons c rest =>
    have hstart : trimStart (before ++ c :: rest ++ after) = c :: rest ++ after := by
      rw [List.append_assoc]
      exact dropWhile_append_of_head? hbefore h.first
    rw [trim, hstart, trimEnd, List.reverse_append, dropWhile_append_of_head?, List.reverse_reverse]
    · exact fun d hd => hafter d (List.mem_reverse.mp hd)
    · rw [List.head?_reverse]
      exact h.last

/-! ## Words -/

/-- A word: some characters, none of them white space. -/
structure IsWord (word : List Char) : Prop where
  some : word ≠ []
  unbroken : ∀ c ∈ word, isBlank c = false

lemma IsWord.of_all {word : List Char} (hsome : word ≠ []) (hall : word.all fun c => !isBlank c) :
    IsWord word :=
  ⟨hsome, fun c hc => by simpa using List.all_eq_true.mp hall c hc⟩

/-- What may stand between two words: some white space. -/
structure IsGap (gap : List Char) : Prop where
  some : gap ≠ []
  blank : ∀ c ∈ gap, isBlank c

lemma IsWord.head? {word : List Char} (h : IsWord word) (rest : List Char) :
    ∀ c ∈ (word ++ rest).head?, isBlank c = false := by
  obtain ⟨c, others, rfl⟩ := List.exists_cons_of_ne_nil h.some
  rintro d ⟨⟩
  exact h.unbroken c List.mem_cons_self

lemma IsGap.head? {gap : List Char} (h : IsGap gap) (rest : List Char) :
    ∀ c ∈ (gap ++ rest).head?, isBlank c := by
  obtain ⟨c, others, rfl⟩ := List.exists_cons_of_ne_nil h.some
  rintro d ⟨⟩
  exact h.blank c List.mem_cons_self

lemma wordsFrom_run {run : List Char} (hrun : ∀ c ∈ run, isBlank c = false)
    (word rest : List Char) :
    wordsFrom word (run ++ rest) = wordsFrom (run.reverse ++ word) rest := by
  induction run generalizing word with
  | nil => rfl
  | cons c others ih =>
    rw [List.cons_append, wordsFrom, if_neg (by simp [hrun c List.mem_cons_self]),
      ih fun d hd => hrun d (List.mem_cons_of_mem _ hd)]
    simp

lemma words_gap {gap : List Char} (hgap : ∀ c ∈ gap, isBlank c) (rest : List Char) :
    words (gap ++ rest) = words rest := by
  induction gap with
  | nil => rfl
  | cons c others ih =>
    rw [List.cons_append, words, wordsFrom, if_pos (hgap c List.mem_cons_self)]
    exact ih fun d hd => hgap d (List.mem_cons_of_mem _ hd)

/-- A word is whole when white space follows, or nothing. -/
lemma words_word {word rest : List Char} (h : IsWord word) (hrest : ∀ c ∈ rest.head?, isBlank c) :
    words (word ++ rest) = word :: words rest := by
  have hsome : (word.reverse ++ []).isEmpty = false := by simpa using h.some
  rw [words, wordsFrom_run h.unbroken]
  cases rest with
  | nil =>
    rw [wordsFrom, hsome, if_neg Bool.false_ne_true, List.append_nil, List.reverse_reverse]
    rfl
  | cons c others =>
    rw [wordsFrom, if_pos (hrest c rfl), hsome, if_neg Bool.false_ne_true, List.append_nil,
      List.reverse_reverse, words, wordsFrom, if_pos (hrest c rfl)]
    rfl

/-- The first word of a text that starts with no white space. -/
lemma exists_word {cs : List Char} (hsome : cs ≠ []) (hhead : ∀ c ∈ cs.head?, isBlank c = false) :
    ∃ word rest, cs = word ++ rest ∧ IsWord word ∧ ∀ c ∈ rest.head?, isBlank c := by
  obtain ⟨c, others, rfl⟩ := List.exists_cons_of_ne_nil hsome
  refine ⟨(c :: others).takeWhile (!isBlank ·), (c :: others).dropWhile (!isBlank ·),
    List.takeWhile_append_dropWhile.symm, ⟨?_, ?_⟩, ?_⟩
  · rw [List.takeWhile_cons_of_pos (by simp [hhead c rfl])]
    exact List.cons_ne_nil c _
  · exact fun d hd => by simpa using List.mem_takeWhile_imp hd
  · exact fun d hd => by simpa using head?_dropWhile (!isBlank ·) (c :: others) d hd

/-- Before the first word stands white space, and after it some more, or nothing. -/
lemma eq_of_words_cons {cs word : List Char} {others : List (List Char)}
    (h : words cs = word :: others) :
    ∃ gap rest, cs = gap ++ word ++ rest ∧ (∀ c ∈ gap, isBlank c) ∧ IsWord word ∧
      (∀ c ∈ rest.head?, isBlank c) ∧ words rest = others := by
  obtain ⟨gap, hcut, hgap⟩ := eq_append_trimStart cs
  rw [hcut, words_gap hgap] at h
  have hsome : trimStart cs ≠ [] := by
    intro hnone
    rw [hnone] at h
    cases h
  obtain ⟨first, rest, heq, hfirst, hrest⟩ := exists_word hsome (head?_dropWhile isBlank cs)
  rw [heq, words_word hfirst hrest] at h
  obtain ⟨rfl, hothers⟩ := List.cons.inj h
  refine ⟨gap, rest, ?_, hgap, hfirst, hrest, hothers⟩
  rw [List.append_assoc, ← heq]
  exact hcut

lemma blank_of_words_eq_nil {cs : List Char} (h : words cs = []) : ∀ c ∈ cs, isBlank c := by
  obtain ⟨gap, hcut, hgap⟩ := eq_append_trimStart cs
  rw [hcut, words_gap hgap] at h
  have hnone : trimStart cs = [] := by
    by_contra hsome
    obtain ⟨word, rest, heq, hword, hrest⟩ := exists_word hsome (head?_dropWhile isBlank cs)
    rw [heq, words_word hword hrest] at h
    cases h
  rw [hnone, List.append_nil] at hcut
  rw [hcut]
  exact hgap

/-- A text of two words that neither starts nor ends with white space is the first word, a gap, and
the second. -/
lemma eq_of_words {cs first second : List Char} (hhead : ∀ c ∈ cs.head?, isBlank c = false)
    (hlast : ∀ c ∈ cs.getLast?, isBlank c = false) (h : words cs = [first, second]) :
    IsWord first ∧ IsWord second ∧ ∃ gap, IsGap gap ∧ cs = first ++ gap ++ second := by
  obtain ⟨before, rest, rfl, hbefore, hfirst, hrest, hothers⟩ := eq_of_words_cons h
  obtain ⟨gap, after, rfl, hgap, hsecond, -, hnone⟩ := eq_of_words_cons hothers
  have hstart : before = [] := by
    cases before with
    | nil => rfl
    | cons c others =>
      have hnot := hhead c rfl
      rw [hbefore c List.mem_cons_self] at hnot
      cases hnot
  have hend : after = [] := by
    cases hafter : after.getLast? with
    | none => exact List.getLast?_eq_none_iff.mp hafter
    | some c =>
      have hnot := hlast c (by simp [List.getLast?_append, hafter])
      rw [blank_of_words_eq_nil hnone c (List.mem_of_getLast? hafter)] at hnot
      cases hnot
  -- Without a gap the two words would be one.
  have hbetween : gap ≠ [] := by
    rintro rfl
    obtain ⟨c, others, rfl⟩ := List.exists_cons_of_ne_nil hsecond.some
    have hblank := hrest c rfl
    rw [hsecond.unbroken c List.mem_cons_self] at hblank
    cases hblank
  refine ⟨hfirst, hsecond, gap, ⟨hbetween, hgap⟩, ?_⟩
  rw [hstart, hend, List.append_nil, List.nil_append, List.append_assoc]

lemma words_eq_pair {first gap second : List Char} (hfirst : IsWord first) (hgap : IsGap gap)
    (hsecond : IsWord second) : words (first ++ gap ++ second) = [first, second] := by
  have hlast : words second = [second] := by
    have hwhole : words (second ++ []) = second :: words [] := words_word hsecond (by simp)
    rw [List.append_nil] at hwhole
    exact hwhole
  rw [List.append_assoc, words_word hfirst (hgap.head? second), words_gap hgap.blank, hlast]

end Text

/-! ## The forms of a line -/

namespace Seed

/-- What a line says that is written so. -/
inductive Line.Written : List Char → Line → Prop
  /-- A blank line says nothing. -/
  | empty : Written [] .blank
  /-- A comment says nothing. -/
  | comment (text : List Char) : Written ('#' :: text) .blank
  /-- Another file is named. -/
  | includes {gap file : List Char} (hgap : Text.IsGap gap) (hfile : Text.IsWord file) :
    Written ("@include".toList ++ gap ++ file) (.includes (String.ofList file))
  /-- A database is named. -/
  | selects {gap name : List Char} (hgap : Text.IsGap gap) (hname : Text.IsWord name) :
    Written ("@select".toList ++ gap ++ name) (.selects (String.ofList name))
  /-- A key ends at the first space or tab; its value starts at the next that is not white. -/
  | entry {key gap value : List Char} {sep : Char}
    (hhead : ∀ c ∈ key.head?, c ≠ '#' ∧ c ≠ '@')
    (hkey : ∀ c ∈ key, c ≠ ' ' ∧ c ≠ '\t') (hsep : sep = ' ' ∨ sep = '\t')
    (hgap : ∀ c ∈ gap, Text.isBlank c) (hvalue : ∀ c ∈ value.head?, Text.isBlank c = false) :
    Written (key ++ sep :: (gap ++ value))
      (.entry (String.ofList key) (Bytes.ofText (String.ofList value)))

/-- The line says this, read without the white space around it. -/
def Means (raw : List Char) (line : Line) : Prop :=
  ∃ text, Text.Trimmed raw text ∧ Line.Written text line

lemma isWord_include : Text.IsWord "@include".toList :=
  .of_all (by decide) (by decide)

lemma isWord_select : Text.IsWord "@select".toList :=
  .of_all (by decide) (by decide)

lemma ofChars_directive (rest : List Char) {directive name : List Char}
    (h : Text.words ('@' :: rest) = [directive, name]) :
    Line.ofChars ('@' :: rest) =
      if String.ofList directive = "@include" then .includes (String.ofList name)
      else if String.ofList directive = "@select" then .selects (String.ofList name)
      else .unknown := by
  rw [Line.ofChars, h]
  rfl

/-- A line that is neither blank, a comment nor a directive is cut at its first space or tab. -/
lemma ofChars_plain {c : Char} (hc : c ≠ '#' ∧ c ≠ '@') (rest : List Char) :
    Line.ofChars (c :: rest) =
      match Text.splitFirst? (fun c => c == ' ' || c == '\t') (c :: rest) with
      | some (key, after) =>
        .entry (String.ofList key) (Bytes.ofText (String.ofList (Text.trimStart after)))
      | none => .unknown := by
  rw [Line.ofChars.eq_def]
  split
  · rename_i hnil
    cases hnil
  · rename_i others hmark
    exact absurd (List.cons.inj hmark).1 hc.1
  · rename_i others hmark
    exact absurd (List.cons.inj hmark).1 hc.2
  · rfl

lemma Line.Written.ofChars {text : List Char} {line : Line} (h : Line.Written text line) :
    Line.ofChars text = line := by
  cases h with
  | empty => rfl
  | comment text => rfl
  | includes hgap hfile =>
    exact ofChars_directive _ (Text.words_eq_pair isWord_include hgap hfile)
  | selects hgap hname =>
    exact ofChars_directive _ (Text.words_eq_pair isWord_select hgap hname)
  | @entry key gap value sep hhead hkey hsep hgap hvalue =>
    have hsplit : Text.splitFirst? (fun c => c == ' ' || c == '\t') (key ++ sep :: (gap ++ value)) =
        some (key, gap ++ value) :=
      Text.splitFirst?_eq_some_iff.mpr
        ⟨sep, by simpa using hsep, rfl, fun c hc => by simpa using hkey c hc⟩
    obtain ⟨c, rest, hcut, hc⟩ :
        ∃ c rest, key ++ sep :: (gap ++ value) = c :: rest ∧ c ≠ '#' ∧ c ≠ '@' := by
      cases key with
      | nil => exact ⟨sep, gap ++ value, rfl, by rcases hsep with rfl | rfl <;> decide⟩
      | cons c others => exact ⟨c, others ++ sep :: (gap ++ value), rfl, hhead c rfl⟩
    rw [hcut] at hsplit ⊢
    rw [ofChars_plain hc, hsplit]
    show Line.entry _ (Bytes.ofText (String.ofList (Text.trimStart (gap ++ value)))) = _
    rw [Text.trimStart, Text.dropWhile_append_of_head? hgap hvalue]

/-- A directive has two words, the first of which is one of the two that are known. -/
lemma written_directive {rest : List Char}
    (hlast : ∀ c ∈ ('@' :: rest).getLast?, Text.isBlank c = false)
    (h : Line.ofChars ('@' :: rest) ≠ .unknown) :
    Line.Written ('@' :: rest) (Line.ofChars ('@' :: rest)) := by
  have hhead : ∀ c ∈ ('@' :: rest).head?, Text.isBlank c = false := by
    rintro c ⟨⟩
    decide
  match hwords : Text.words ('@' :: rest) with
  | [] | [_] | _ :: _ :: _ :: _ => exact absurd (by rw [Line.ofChars, hwords]; rfl) h
  | [directive, name] =>
    obtain ⟨hfirst, hsecond, gap, hgap, htext⟩ := Text.eq_of_words hhead hlast hwords
    rw [ofChars_directive rest hwords] at h ⊢
    by_cases hinclude : String.ofList directive = "@include"
    · rw [if_pos hinclude, htext, ← String.toList_ofList (l := directive), hinclude]
      exact .includes hgap hsecond
    · rw [if_neg hinclude] at h ⊢
      by_cases hselect : String.ofList directive = "@select"
      · rw [if_pos hselect, htext, ← String.toList_ofList (l := directive), hselect]
        exact .selects hgap hsecond
      · rw [if_neg hselect] at h
        exact absurd rfl h

lemma written_plain {c : Char} (hc : c ≠ '#' ∧ c ≠ '@') {rest : List Char}
    (h : Line.ofChars (c :: rest) ≠ .unknown) :
    Line.Written (c :: rest) (Line.ofChars (c :: rest)) := by
  rw [ofChars_plain hc] at h ⊢
  cases hsplit : Text.splitFirst? (fun c => c == ' ' || c == '\t') (c :: rest) with
  | none =>
    rw [hsplit] at h
    exact absurd rfl h
  | some parts =>
    obtain ⟨key, after⟩ := parts
    obtain ⟨sep, hsep, hcut, hkey⟩ := Text.splitFirst?_eq_some_iff.mp hsplit
    obtain ⟨gap, hafter, hgap⟩ := Text.eq_append_trimStart after
    have hwritten : Line.Written (key ++ sep :: (gap ++ Text.trimStart after))
        (.entry (String.ofList key) (Bytes.ofText (String.ofList (Text.trimStart after)))) := by
      refine .entry ?_ (fun d hd => by simpa using hkey d hd) (by simpa using hsep) hgap
        (Text.head?_dropWhile Text.isBlank after)
      intro d hd
      obtain ⟨others, rfl⟩ := List.head?_eq_some_iff.mp hd
      rw [← (List.cons.inj hcut).1]
      exact hc
    rw [← hafter, ← hcut] at hwritten
    exact hwritten

lemma written_ofChars {text : List Char} (hlast : ∀ c ∈ text.getLast?, Text.isBlank c = false)
    (h : Line.ofChars text ≠ .unknown) : Line.Written text (Line.ofChars text) := by
  cases text with
  | nil => exact .empty
  | cons c rest =>
    by_cases hcomment : c = '#'
    · rw [hcomment]
      exact .comment rest
    by_cases hdirective : c = '@'
    · rw [hdirective] at h hlast ⊢
      exact written_directive hlast h
    · exact written_plain ⟨hcomment, hdirective⟩ h

/-- **What a line says.**  Of the things that a line may say, it says the one that is read, and a
line that is read as none says none. -/
theorem means_iff {raw : List Char} {line : Line} :
    Means raw line ↔ Line.ofChars (Text.trim raw) = line ∧ line ≠ .unknown := by
  constructor
  · rintro ⟨text, htext, hwritten⟩
    rw [htext.eq_trim]
    refine ⟨hwritten.ofChars, ?_⟩
    rintro rfl
    cases hwritten
  · rintro ⟨rfl, hknown⟩
    have htext := Text.trimmed_trim raw
    exact ⟨Text.trim raw, htext, written_ofChars htext.last hknown⟩

lemma means_unique {raw : List Char} {line other : Line} (h : Means raw line)
    (hother : Means raw other) : line = other :=
  (means_iff.mp h).1.symm.trans (means_iff.mp hother).1

end Seed

end ReplicatedStore
