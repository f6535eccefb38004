import Mathlib.Data.List.Induction
import Mathlib.Data.List.Nodup
import ReplicatedStore.Proofs.Command.Recorded
import ReplicatedStore.Proofs.Text.LowerCase

/-!
# The options of SORT in any order

The options of SORT are written as *groups*, each a keyword and the arguments it takes, with blanks
between them.  `Arranged` says which tokens write a list of groups down.  Reading is exact for this
grammar (`sortOptions_eq_ok_iff`): tokens are accepted when they write some groups down, and then
the groups are applied one after the other.

Applying them one after the other is the same in every order, as long as no two set the same
option, so that the options are those that the groups denote (`Denotes`).  An argument is never
taken for a keyword, whatever its text, because the place of a keyword is told by the arguments
that the keywords before it take (`AtOption`).  Where something else stands there, or a keyword
without its arguments, the request is refused.
-/

namespace ReplicatedStore.Command

/-! ## Keywords -/

/-- The word in small letters. -/
def SortWord.name : SortWord → String
  | .blank => ""
  | .weight => "by"
  | .answer => "get"
  | .part => "limit"
  | .ascending => "asc"
  | .descending => "desc"
  | .alpha => "alpha"

/-- The number of arguments that the word takes. -/
def SortWord.arguments : SortWord → Nat
  | .blank | .ascending | .descending | .alpha => 0
  | .weight | .answer => 1
  | .part => 2

/-- A text is read as the word that it spells. -/
lemma SortWord.ofText?_eq_some_iff {text : String} {word : SortWord} :
    SortWord.ofText? text = some word ↔ Text.IsSpelling word.name text := by
  have hlatin : word.name.toList.all fun c => Text.IsLatinOnly c := by
    cases word <;> decide
  rw [← Text.lowercase_eq_iff hlatin, SortWord.ofText?]
  constructor
  · intro h
    obtain ⟨before, after, htable, -⟩ := List.lookup_eq_some_iff.mp h
    have hnames : ∀ entry ∈ [("", SortWord.blank), ("by", .weight), ("get", .answer),
        ("limit", .part), ("asc", .ascending), ("desc", .descending), ("alpha", .alpha)],
        entry.1 = entry.2.name := by
      decide
    exact hnames (Text.lowercase text, word) (by rw [htable]; simp)
  · intro h
    rw [h]
    cases word <;> decide

/-- A text spells one word at most. -/
lemma SortWord.eq_of_isSpelling {text : String} {word word' : SortWord}
    (h : Text.IsSpelling word.name text) (h' : Text.IsSpelling word'.name text) : word = word' :=
  Option.some.inj ((ofText?_eq_some_iff.mpr h).symm.trans (ofText?_eq_some_iff.mpr h'))

lemma ofText_empty : Bytes.ofText "" = [] := by
  decide

/-- The blank is spelled by no octets, and by these alone. -/
lemma SortWord.blank_iff {text : String} {word : SortWord}
    (h : Text.IsSpelling word.name text) : word = .blank ↔ Bytes.ofText text = [] := by
  constructor
  · rintro rfl
    have hchars : text.toList = [] := List.map_eq_nil_iff.mp h
    rw [String.toList_eq_nil_iff.mp hchars, ofText_empty]
  · intro hempty
    obtain rfl : text = "" := Bytes.ofText_injective (hempty.trans ofText_empty.symm)
    exact SortWord.eq_of_isSpelling h (by decide)

/-! ## Groups -/

/-- A keyword of SORT with its arguments. -/
inductive SortGroup where
  /-- The pattern of weights. -/
  | weight (pattern : String)
  /-- The pattern of answers. -/
  | answer (pattern : String)
  /-- The first place that is answered and the number of places. -/
  | part (start count : Nat)
  /-- Ascending order. -/
  | ascending
  /-- Descending order. -/
  | descending
  /-- Weights compare as octets. -/
  | alpha
  deriving DecidableEq, Repr

/-- What a group sets. -/
inductive SortSlot where
  /-- The pattern of weights. -/
  | weight
  /-- The pattern of answers. -/
  | answer
  /-- The part that is answered. -/
  | part
  /-- Ascending or descending order. -/
  | direction
  /-- The way in which weights compare. -/
  | comparison
  deriving DecidableEq, Repr

namespace SortGroup

/-- The keyword that the group starts with. -/
def word : SortGroup → SortWord
  | weight _ => .weight
  | answer _ => .answer
  | part _ _ => .part
  | ascending => .ascending
  | descending => .descending
  | alpha => .alpha

/-- What the group sets. -/
def slot : SortGroup → SortSlot
  | weight _ => .weight
  | answer _ => .answer
  | part _ _ => .part
  | ascending | descending => .direction
  | alpha => .comparison

/-- Are these the arguments of the group?  A pattern is any text, and a number is any text that
denotes it, the one that is written for it among them (`Decimal.Numeral.ofInt`). -/
def Arguments : SortGroup → List Bytes → Prop
  | weight pattern, given | answer pattern, given => given = [Bytes.ofText pattern]
  | part start count, given =>
    ∃ first second : Decimal.Numeral, first.value = start ∧ second.value = count ∧
      given = [Bytes.ofText first.text, Bytes.ofText second.text]
  | ascending, given | descending, given | alpha, given => given = []

/-- The options with what the group says. -/
def apply (options : SortOptions) : SortGroup → SortOptions
  | weight pattern => { options with weightPattern := some pattern }
  | answer pattern => { options with answerPattern := some pattern }
  | part start count => { options with part := some (start, count) }
  | ascending => { options with descending := false }
  | descending => { options with descending := true }
  | alpha => { options with alpha := true }

/-- A group has as many arguments as its keyword takes. -/
lemma length_arguments {group : SortGroup} {given : List Bytes} (h : group.Arguments given) :
    given.length = group.word.arguments := by
  cases group
  case part start count =>
    obtain ⟨first, second, -, -, rfl⟩ := h
    rfl
  all_goals
    obtain rfl := h
    rfl

end SortGroup

/-- The tokens write the groups down in this order, with blanks anywhere between them. -/
inductive Arranged : List SortGroup → List Bytes → Prop
  /-- No tokens, no groups. -/
  | nil : Arranged [] []
  /-- A blank in front. -/
  | blank {groups : List SortGroup} {tokens : List Bytes} (h : Arranged groups tokens) :
      Arranged groups ([] :: tokens)
  /-- A group in front: its keyword in any letters and its arguments. -/
  | group {group : SortGroup} {groups : List SortGroup} {keyword : String}
      {given tokens : List Bytes} (hkeyword : Text.IsSpelling group.word.name keyword)
      (hgiven : group.Arguments given) (h : Arranged groups tokens) :
      Arranged (group :: groups) (Bytes.ofText keyword :: (given ++ tokens))

/-- The groups denote the options: each is set as a group says, and as it is by default where no
group sets it. -/
structure Denotes (groups : List SortGroup) (options : SortOptions) : Prop where
  /-- The pattern of weights. -/
  weight : ∀ pattern, options.weightPattern = some pattern ↔ .weight pattern ∈ groups
  /-- The pattern of answers. -/
  answer : ∀ pattern, options.answerPattern = some pattern ↔ .answer pattern ∈ groups
  /-- The part that is answered. -/
  part : ∀ start count, options.part = some (start, count) ↔ .part start count ∈ groups
  /-- The order descends only if a group says so. -/
  direction : options.descending = true ↔ .descending ∈ groups
  /-- Weights compare as octets only if a group says so. -/
  comparison : options.alpha = true ↔ .alpha ∈ groups

/-! ## Options that groups denote -/

namespace Denotes

variable {groups : List SortGroup} {options : SortOptions}

/-- Groups denote one choice of options. -/
lemma unique {options' : SortOptions} (h : Denotes groups options)
    (h' : Denotes groups options') : options = options' := by
  obtain ⟨weightPattern, answerPattern, part, descending, alpha⟩ := options
  obtain ⟨weightPattern', answerPattern', part', descending', alpha'⟩ := options'
  obtain rfl : weightPattern = weightPattern' :=
    Option.ext fun pattern => (h.weight pattern).trans (h'.weight pattern).symm
  obtain rfl : answerPattern = answerPattern' :=
    Option.ext fun pattern => (h.answer pattern).trans (h'.answer pattern).symm
  obtain rfl : part = part' :=
    Option.ext fun bounds => (h.part bounds.1 bounds.2).trans (h'.part bounds.1 bounds.2).symm
  obtain rfl : descending = descending' :=
    Bool.eq_iff_iff.mpr (h.direction.trans h'.direction.symm)
  obtain rfl : alpha = alpha' :=
    Bool.eq_iff_iff.mpr (h.comparison.trans h'.comparison.symm)
  rfl

/-- The order of the groups does not matter. -/
lemma perm {groups' : List SortGroup} (h : Denotes groups options) (hperm : groups'.Perm groups) :
    Denotes groups' options where
  weight pattern := (h.weight pattern).trans hperm.mem_iff.symm
  answer pattern := (h.answer pattern).trans hperm.mem_iff.symm
  part start count := (h.part start count).trans hperm.mem_iff.symm
  direction := h.direction.trans hperm.mem_iff.symm
  comparison := h.comparison.trans hperm.mem_iff.symm

/-- Without groups everything is as it is by default. -/
lemma nil : Denotes [] {} where
  weight := by simp
  answer := by simp
  part := by simp
  direction := by simp
  comparison := by simp

/-- One more group sets what no group has set before it. -/
lemma concat {group : SortGroup} (h : Denotes groups options)
    (hfresh : group.slot ∉ groups.map SortGroup.slot) :
    Denotes (groups ++ [group]) (group.apply options) := by
  have hother : ∀ other : SortGroup, other.slot = group.slot → other ∉ groups :=
    fun other hslot hmem => hfresh (hslot ▸ List.mem_map_of_mem hmem)
  cases group
  case weight pattern =>
    have hnone : ∀ pattern, .weight pattern ∉ groups := fun pattern => hother _ rfl
    constructor <;>
      simp [SortGroup.apply, hnone, h.answer, h.part, h.direction, h.comparison, eq_comm]
  case answer pattern =>
    have hnone : ∀ pattern, .answer pattern ∉ groups := fun pattern => hother _ rfl
    constructor <;>
      simp [SortGroup.apply, hnone, h.weight, h.part, h.direction, h.comparison, eq_comm]
  case part start count =>
    have hnone : ∀ start count, .part start count ∉ groups := fun _ _ => hother _ rfl
    constructor <;>
      simp [SortGroup.apply, hnone, h.weight, h.answer, h.direction, h.comparison, eq_comm]
  case ascending =>
    have hnone : .descending ∉ groups := hother _ rfl
    constructor <;> simp [SortGroup.apply, hnone, h.weight, h.answer, h.part, h.comparison]
  case descending =>
    constructor <;> simp [SortGroup.apply, h.weight, h.answer, h.part, h.comparison]
  case alpha =>
    constructor <;> simp [SortGroup.apply, h.weight, h.answer, h.part, h.direction]

/-- Groups that set different things, applied one after the other. -/
lemma foldl (hslots : (groups.map SortGroup.slot).Nodup) :
    Denotes groups (groups.foldl SortGroup.apply {}) := by
  induction groups using List.reverseRecOn with
  | nil => exact nil
  | append_singleton groups group ih =>
    rw [List.map_append, List.map_singleton, ← List.concat_eq_append, List.nodup_concat] at hslots
    rw [List.foldl_concat]
    exact (ih hslots.2).concat hslots.1

end Denotes
/-! ## Reading one option -/

section OneOption

variable {options options' : SortOptions} {tokens rest : List Bytes}

/-- A numeral of a natural number is read as this number. -/
lemma finds_nextCount {a : Decimal.Numeral} {n : Nat} (h : a.value = n) (rest : List Bytes) :
    Finds nextCount (Bytes.ofText a.text :: rest) n rest := by
  refine (finds_numeral a rest).bind ?_
  unfold Finds
  rw [h, if_neg (by omega), Int.toNat_natCast]
  rfl

/-- A number that was read was a numeral that came first. -/
lemma eq_of_nextCount {n : Nat} (h : nextCount.run tokens = .ok (n, rest)) :
    ∃ a : Decimal.Numeral, a.value = n ∧ tokens = Bytes.ofText a.text :: rest := by
  obtain ⟨value, left, hvalue, hrun⟩ := run_bind_eq_ok h
  obtain ⟨a, rfl, rfl⟩ := eq_of_nextInteger hvalue
  split at hrun
  case isTrue => cases hrun
  case isFalse hsign =>
    cases hrun
    exact ⟨a, (Int.toNat_of_nonneg (Int.not_lt.mp hsign)).symm, rfl⟩

/-- The arguments of a group are read behind its keyword, whatever follows them. -/
lemma finds_sortOption {group : SortGroup} {given : List Bytes} (h : group.Arguments given)
    (options : SortOptions) (rest : List Bytes) :
    Finds (sortOption options group.word) (given ++ rest) (group.apply options) rest := by
  cases group
  case weight pattern =>
    obtain rfl := h
    exact (finds_nextText pattern rest).map _
  case answer pattern =>
    obtain rfl := h
    exact (finds_nextText pattern rest).map _
  case part start count =>
    obtain ⟨first, second, hfirst, hsecond, rfl⟩ := h
    exact (finds_nextCount hfirst _).bind ((finds_nextCount hsecond rest).map _)
  case ascending | descending | alpha =>
    obtain rfl := h
    exact .pure _ _

/-- What is read behind a keyword are the arguments of a group. -/
lemma group_of_sortOption {word : SortWord} (hword : word ≠ .blank)
    (h : (sortOption options word).run tokens = .ok (options', rest)) :
    ∃ group given, SortGroup.word group = word ∧ group.Arguments given ∧
      tokens = given ++ rest ∧ options' = group.apply options := by
  cases word
  case blank => exact absurd rfl hword
  case weight =>
    obtain ⟨pattern, others, rfl, hpure⟩ := run_nextText_eq_ok h
    cases hpure
    exact ⟨.weight pattern, _, rfl, rfl, rfl, rfl⟩
  case answer =>
    obtain ⟨pattern, others, rfl, hpure⟩ := run_nextText_eq_ok h
    cases hpure
    exact ⟨.answer pattern, _, rfl, rfl, rfl, rfl⟩
  case part =>
    obtain ⟨start, left, hstart, hrun⟩ := run_bind_eq_ok h
    obtain ⟨count, left', hcount, hpure⟩ := run_bind_eq_ok hrun
    cases hpure
    obtain ⟨first, hfirst, rfl⟩ := eq_of_nextCount hstart
    obtain ⟨second, hsecond, rfl⟩ := eq_of_nextCount hcount
    exact ⟨.part start count, _, rfl, ⟨first, second, hfirst, hsecond, rfl⟩, rfl, rfl⟩
  case ascending =>
    cases h
    exact ⟨.ascending, [], rfl, rfl, rfl, rfl⟩
  case descending =>
    cases h
    exact ⟨.descending, [], rfl, rfl, rfl, rfl⟩
  case alpha =>
    cases h
    exact ⟨.alpha, [], rfl, rfl, rfl, rfl⟩

end OneOption

/-! ## Reading all options -/

section AllOptions

variable {options options' : SortOptions} {tokens rest : List Bytes} {budget : Nat}

/-- A keyword is taken, and its arguments are read behind it. -/
lemma run_sortOptions_cons {keyword : String} {word : SortWord}
    (h : Text.IsSpelling word.name keyword) (budget : Nat) (options : SortOptions)
    (tokens : List Bytes) :
    (sortOptions (budget + 1) options).run (Bytes.ofText keyword :: tokens) =
      (sortOption options word >>= sortOptions budget).run tokens := by
  have htext : nextText.run (Bytes.ofText keyword :: tokens) = .ok (keyword, tokens) :=
    finds_nextText keyword tokens
  have hword := SortWord.ofText?_eq_some_iff.mpr h
  rw [sortOptions, StateT.run_bind, StateT.run_get, pure_bind, if_neg (by simp), StateT.run_bind,
    htext]
  dsimp only [bind, Except.bind]
  rw [hword]

/-- Where reading goes on, there is a keyword. -/
lemma keyword_of_sortOptions {token : Bytes}
    (h : (sortOptions (budget + 1) options).run (token :: tokens) = .ok (options', rest)) :
    ∃ (keyword : String) (word : SortWord),
      token = Bytes.ofText keyword ∧ Text.IsSpelling word.name keyword := by
  rw [sortOptions, StateT.run_bind, StateT.run_get, pure_bind, if_neg (by simp)] at h
  obtain ⟨keyword, others, htoken, hrun⟩ := run_nextText_eq_ok h
  cases hword : SortWord.ofText? keyword with
  | none =>
    rw [hword] at hrun
    cases hrun
  | some word =>
    exact ⟨keyword, word, (List.cons_eq_cons.mp htoken).1, SortWord.ofText?_eq_some_iff.mp hword⟩

/-- **Tokens that write groups down are read**, and the groups are applied one after the other. -/
lemma finds_sortOptions {groups : List SortGroup} (h : Arranged groups tokens)
    (options : SortOptions) (hbudget : tokens.length ≤ budget) :
    Finds (sortOptions budget options) tokens (groups.foldl SortGroup.apply options) [] := by
  induction h generalizing budget options with
  | nil => cases budget <;> exact .pure _ _
  | blank _ ih =>
    cases budget with
    | zero => cases hbudget
    | succ budget =>
      have hblank : Text.IsSpelling SortWord.blank.name "" := by decide
      rw [Finds, ← ofText_empty, run_sortOptions_cons hblank]
      exact ih options (Nat.le_of_succ_le_succ hbudget)
  | group hkeyword hgiven _ ih =>
    cases budget with
    | zero => cases hbudget
    | succ budget =>
      rw [List.length_cons, List.length_append] at hbudget
      rw [Finds, run_sortOptions_cons hkeyword]
      exact (finds_sortOption hgiven options _).bind (ih _ (by omega))

/-- **Only tokens that write groups down are read.** -/
lemma arranged_of_sortOptions (hbudget : tokens.length ≤ budget)
    (h : (sortOptions budget options).run tokens = .ok (options', rest)) :
    ∃ groups, Arranged groups tokens := by
  induction budget generalizing tokens options with
  | zero =>
    obtain rfl := List.length_eq_zero_iff.mp (Nat.le_zero.mp hbudget)
    exact ⟨[], .nil⟩
  | succ budget ih =>
    cases tokens with
    | nil => exact ⟨[], .nil⟩
    | cons token tokens =>
      rw [List.length_cons] at hbudget
      obtain ⟨keyword, word, rfl, hkeyword⟩ := keyword_of_sortOptions h
      rw [run_sortOptions_cons hkeyword] at h
      obtain ⟨between, left, hone, hall⟩ := run_bind_eq_ok h
      by_cases hblank : word = .blank
      · subst hblank
        cases hone
        obtain ⟨groups, harranged⟩ := ih (by omega) hall
        rw [(SortWord.blank_iff hkeyword).mp rfl]
        exact ⟨groups, harranged.blank⟩
      · obtain ⟨group, given, rfl, hgiven, rfl, -⟩ := group_of_sortOption hblank hone
        rw [List.length_append] at hbudget
        obtain ⟨groups, harranged⟩ := ih (by omega) hall
        exact ⟨group :: groups, harranged.group hkeyword hgiven⟩

end AllOptions

/-! ## Places of keywords -/

/-- Reading `tokens` comes to `rest` for the next keyword: behind each keyword before it, as many
arguments are passed over as the keyword takes, whatever they are. -/
inductive AtOption : List Bytes → List Bytes → Prop
  /-- The next keyword stands in front. -/
  | here {tokens : List Bytes} : AtOption tokens tokens
  /-- A keyword and its arguments, or a blank, are passed over. -/
  | past {keyword : String} {word : SortWord} {given tokens rest : List Bytes}
      (hkeyword : Text.IsSpelling word.name keyword) (hgiven : given.length = word.arguments)
      (h : AtOption tokens rest) : AtOption (Bytes.ofText keyword :: (given ++ tokens)) rest

/-- The first token is neither a keyword nor a blank. -/
def Stray : List Bytes → Prop
  | [] => False
  | token :: _ =>
    ∀ (word : SortWord) (keyword : String), Text.IsSpelling word.name keyword →
      token ≠ Bytes.ofText keyword

/-- The first token is a keyword, and no arguments for it follow: there are too few tokens, or they
are not the texts and the numbers that it takes. -/
def CutShort (tokens : List Bytes) : Prop :=
  ∃ (keyword : String) (word : SortWord) (args : List Bytes),
    tokens = Bytes.ofText keyword :: args ∧ Text.IsSpelling word.name keyword ∧ word ≠ .blank ∧
      ∀ (group : SortGroup) (given rest : List Bytes),
        group.word = word → group.Arguments given → args ≠ given ++ rest

/-- Fewer tokens than a keyword takes are not its arguments. -/
lemma cutShort_of_length_lt {keyword : String} {word : SortWord} {args : List Bytes}
    (hkeyword : Text.IsSpelling word.name keyword) (h : args.length < word.arguments) :
    CutShort (Bytes.ofText keyword :: args) := by
  refine ⟨keyword, word, args, rfl, hkeyword, ?_, ?_⟩
  · rintro rfl
    exact Nat.not_lt_zero _ h
  · rintro group given rest rfl hgiven rfl
    have hlength := SortGroup.length_arguments hgiven
    rw [List.length_append] at h
    omega

namespace Arranged

variable {groups : List SortGroup} {tokens rest args : List Bytes} {keyword : String}
  {word : SortWord}

/-- Tokens that start with a keyword write a group down that starts with it. -/
lemma of_keyword (h : Arranged groups (Bytes.ofText keyword :: args))
    (hkeyword : Text.IsSpelling word.name keyword) :
    (word = .blank ∧ Arranged groups args) ∨
      ∃ (group : SortGroup) (groups' : List SortGroup) (given more : List Bytes),
        group.word = word ∧ group.Arguments given ∧ args = given ++ more ∧
          Arranged groups' more := by
  generalize htokens : Bytes.ofText keyword :: args = tokens at h
  cases h with
  | nil => cases htokens
  | blank h =>
    obtain ⟨htoken, rfl⟩ := List.cons_eq_cons.mp htokens
    exact .inl ⟨(SortWord.blank_iff hkeyword).mpr htoken, h⟩
  | @group group groups' keyword' given more hkeyword' hgiven h =>
    obtain ⟨htoken, rfl⟩ := List.cons_eq_cons.mp htokens
    obtain rfl := Bytes.ofText_injective htoken
    exact .inr ⟨group, groups', given, more, SortWord.eq_of_isSpelling hkeyword' hkeyword, hgiven,
      rfl, h⟩

/-- Behind what is passed over, groups are written down as well. -/
lemma of_atOption (h : Arranged groups tokens) (hplace : AtOption tokens rest) :
    ∃ groups', Arranged groups' rest := by
  induction hplace generalizing groups with
  | here => exact ⟨groups, h⟩
  | past hkeyword hlength _ ih =>
    rcases h.of_keyword hkeyword with ⟨rfl, hmore⟩ | ⟨group, groups', given, more, rfl, hgiven,
      hsplit, hmore⟩
    · obtain rfl := List.length_eq_zero_iff.mp hlength
      exact ih hmore
    · obtain ⟨rfl, rfl⟩ := List.append_inj hsplit
        (hlength.trans (SortGroup.length_arguments hgiven).symm)
      exact ih hmore

/-- Groups are never written down with a stray token in front. -/
lemma not_stray (h : Arranged groups tokens) : ¬ Stray tokens := by
  intro hstray
  cases h with
  | nil => exact hstray
  | blank _ => exact hstray .blank "" (by decide) ofText_empty.symm
  | group hkeyword _ _ => exact hstray _ _ hkeyword rfl

/-- Groups are never written down with a keyword in front that is cut short. -/
lemma not_cutShort (h : Arranged groups tokens) : ¬ CutShort tokens := by
  rintro ⟨keyword, word, args, rfl, hkeyword, hblank, hnone⟩
  rcases h.of_keyword hkeyword with ⟨hword, -⟩ | ⟨group, groups', given, more, hword, hgiven,
    hargs, -⟩
  · exact hblank hword
  · exact hnone group given more hword hgiven hargs

end Arranged

/-! ## Requests -/

/-- A request to sort, in any letters, is read as far as its options are. -/
lemma ofRequest_sort {name : String} (hname : Text.IsSpelling Verb.sort.name name) (key : String)
    (tokens : List Bytes) :
    ofRequest (Request.of name (Bytes.ofText key :: tokens)) =
      ((sortOptions tokens.length {}).run tokens).map fun found => .ask (.sort key found.1) := by
  have hlatin : Verb.sort.name.toList.all fun c => Text.IsLatinOnly c := by
    decide
  have hkey : nextText.run (Bytes.ofText key :: tokens) = .ok (key, tokens) :=
    finds_nextText key tokens
  rw [ofRequest, Request.of, (Text.lowercase_eq_iff hlatin name).mpr hname]
  dsimp only
  rw [Verb.ofName?_name]
  dsimp only
  rw [ofArguments, readArguments, readSort, StateT.run'_eq, StateT.run_bind, hkey]
  change (fun found => found.1) <$> (sortOptions tokens.length {} >>= fun options =>
    pure (Command.ask (.sort key options))).run tokens = _
  rw [StateT.run_bind]
  cases (sortOptions tokens.length {}).run tokens <;> rfl

/-- **The options of SORT come in any order.**  The command and its keywords are written in any
letters, and the key and the patterns are any texts.

* Groups that set different things denote one choice of options.  However they are put in order, and
  with blanks wherever they may stand, the tokens that write them down are read as just these
  options.
* Tokens are refused when a token where a keyword must stand is neither a keyword nor a blank, or is
  a keyword whose arguments are not all there. -/
theorem sort_options_in_any_order {name : String} (hname : Text.IsSpelling Verb.sort.name name)
    (key : String) :
    (∀ groups : List SortGroup, (groups.map SortGroup.slot).Nodup →
      ∃ options, Denotes groups options ∧
        ∀ (arranged : List SortGroup) (tokens : List Bytes),
          arranged.Perm groups → Arranged arranged tokens →
            ofRequest (Request.of name (Bytes.ofText key :: tokens)) =
              .ok (.ask (.sort key options))) ∧
    (∀ tokens rest : List Bytes, AtOption tokens rest → Stray rest ∨ CutShort rest →
      ∃ fault, ofRequest (Request.of name (Bytes.ofText key :: tokens)) = .error fault) := by
  refine ⟨fun groups hslots => ⟨_, Denotes.foldl hslots, ?_⟩, ?_⟩
  · intro arranged tokens hperm harranged
    have hslots' := (hperm.map SortGroup.slot).nodup_iff.mpr hslots
    have hsame := ((Denotes.foldl hslots).perm hperm).unique (Denotes.foldl hslots')
    have hread : (sortOptions tokens.length {}).run tokens = _ :=
      finds_sortOptions harranged {} (Nat.le_refl _)
    rw [ofRequest_sort hname, hread, hsame]
    rfl
  · intro tokens rest hplace hbad
    rw [ofRequest_sort hname]
    cases hread : (sortOptions tokens.length {}).run tokens with
    | error fault => exact ⟨fault, rfl⟩
    | ok found =>
      obtain ⟨groups, harranged⟩ := arranged_of_sortOptions (Nat.le_refl _) hread
      obtain ⟨groups', hrest⟩ := harranged.of_atOption hplace
      exact (hbad.elim hrest.not_stray hrest.not_cutShort).elim

/-- A pattern that looks like a keyword is one, among groups out of their usual order, and a part
that is cut short is refused behind it. -/
theorem sort_options_in_any_order_likeKeywords :
    ofRequest (Request.of "Sort" (Bytes.ofText "by" :: [Bytes.ofText "Desc", [],
      Bytes.ofText "lImIt", Bytes.ofText "+1", Bytes.ofText "02", Bytes.ofText "BY",
      Bytes.ofText "LIMIT"])) =
        .ok (.ask (.sort "by" ⟨some "LIMIT", none, some (1, 2), true, false⟩)) ∧
    ∃ fault, ofRequest (Request.of "Sort" (Bytes.ofText "by" :: [Bytes.ofText "BY",
      Bytes.ofText "LIMIT", [], Bytes.ofText "limit", Bytes.ofText "1"])) = .error fault := by
  have hby : Text.IsSpelling (SortGroup.weight "LIMIT").word.name "BY" := by decide
  have hlimit : Text.IsSpelling (SortGroup.part 1 2).word.name "lImIt" := by decide
  have hdesc : Text.IsSpelling SortGroup.descending.word.name "Desc" := by decide
  have hweight : (SortGroup.weight "LIMIT").Arguments [Bytes.ofText "LIMIT"] := rfl
  have hpart : (SortGroup.part 1 2).Arguments [Bytes.ofText "+1", Bytes.ofText "02"] :=
    ⟨⟨"+1", 1, by decide⟩, ⟨"02", 2, by decide⟩, rfl, rfl, rfl⟩
  have hdescending : SortGroup.descending.Arguments [] := rfl
  have harranged :=
    Arranged.group hdesc hdescending (.blank (.group hlimit hpart (.group hby hweight .nil)))
  have hdenotes : Denotes [.weight "LIMIT", .part 1 2, .descending]
      ⟨some "LIMIT", none, some (1, 2), true, false⟩ := by
    constructor <;> simp [eq_comm]
  have hshort : CutShort [Bytes.ofText "limit", Bytes.ofText "1"] := by
    have hkeyword : Text.IsSpelling SortWord.part.name "limit" := by decide
    exact cutShort_of_length_lt hkeyword (by decide)
  have hplace : AtOption (Bytes.ofText "BY" :: ([Bytes.ofText "LIMIT"] ++ ([] :: [Bytes.ofText
      "limit", Bytes.ofText "1"]))) [Bytes.ofText "limit", Bytes.ofText "1"] := by
    have hblank : Text.IsSpelling SortWord.blank.name "" := by decide
    exact .past hby rfl (.past hblank (List.length_nil) .here)
  obtain ⟨hread, hrefuse⟩ :=
    sort_options_in_any_order (by decide : Text.IsSpelling Verb.sort.name "Sort") "by"
  refine ⟨?_, hrefuse _ _ hplace (.inr hshort)⟩
  obtain ⟨options, hoptions, hall⟩ := hread [.weight "LIMIT", .part 1 2, .descending] (by decide)
  rw [hdenotes.unique hoptions]
  exact hall _ _ (by decide) harranged

end ReplicatedStore.Command
