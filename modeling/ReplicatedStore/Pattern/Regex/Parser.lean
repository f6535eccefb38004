import ReplicatedStore.Pattern.Regex.Syntax
import ReplicatedStore.Text.Blank
import ReplicatedStore.Text.Hexadecimal
import ReplicatedStore.Text.Property.Recent

/-!
# Reading regular expressions

Reading goes once through the characters.  All functions take the characters that are left and
answer those left behind what they read, or nothing when the expression is broken; `verbose` tells
whether white space and comments are skipped, which the flag of that name turns on and off on the
way.
-/

namespace ReplicatedStore.Regex

/-! ## White space -/

/-- The characters behind white space and comments, where a comment is open already if
`inComment`. -/
def dropBlank (inComment : Bool) : List Char → List Char
  | [] => []
  | c :: rest =>
    if inComment then dropBlank (c != '\n') rest
    else if Text.isBlank c then dropBlank false rest
    else if c = '#' then dropBlank true rest
    else c :: rest

/-- Skips white space and comments when they say nothing. -/
def skip (verbose : Bool) (cs : List Char) : List Char :=
  if verbose then dropBlank false cs else cs

/-- The first character behind white space and comment marks. -/
def headBehindBlank (inComment : Bool) : List Char → Option Char
  | [] => none
  | c :: rest =>
    if Text.isBlank c then headBehindBlank inComment rest
    else if c = '#' ∧ !inComment then headBehindBlank true rest
    else some c

/-- The next character that says something, without moving there. -/
def peek (verbose : Bool) (cs : List Char) : Option Char :=
  if verbose then headBehindBlank false cs <|> cs.head? else cs.head?

/-! ## Numbers -/

/-- The largest number that a repetition may name. -/
def largestCount : Nat := 0xFFFFFFFF

/-- Takes the digits of a decimal number after those that gave `value`. -/
def takeDigits (verbose : Bool) : Nat → Option Nat → List Char → Option Nat × List Char
  | 0, value, cs => (value, cs)
  | _ + 1, value, [] => (value, [])
  | budget + 1, value, c :: rest =>
    if '0' ≤ c ∧ c ≤ '9' then
      let next := value.getD 0 * 10 + (c.toNat - '0'.toNat)
      takeDigits verbose budget (some next) (skip verbose rest)
    else (value, c :: rest)

/-- Takes a decimal number with white space around it; there may be none. -/
def takeCount (verbose : Bool) (cs : List Char) : Option Nat × List Char :=
  let start := cs.dropWhile Text.isBlank
  let (value, rest) := takeDigits verbose start.length none start
  (value, skip verbose (rest.dropWhile Text.isBlank))

/-! ## Escapes -/

/-- What an escape stands for. -/
inductive Escape where
  /-- A character. -/
  | literal (literal : Literal)
  /-- A place. -/
  | assertion (a : Assertion)
  /-- A class with a letter. -/
  | letter (negated : Bool) (kind : LetterClass)
  /-- The characters with a property. -/
  | property (negated : Bool) (name : PropertyName)

/-- Takes exactly so many digits in base sixteen after those that gave `value`. -/
def takeHexDigits (verbose : Bool) : Nat → Nat → List Char → Option (Nat × List Char)
  | 0, value, cs => some (value, cs)
  | count + 1, value, cs =>
    match cs with
    | [] => none
    | c :: rest =>
      match Text.hexValue? c with
      | none => none
      | some d => takeHexDigits verbose count (value * 16 + d) (skip verbose rest)

/-- Takes digits in base sixteen up to a closing brace; there must be one. -/
def takeHexBraced (verbose : Bool) : Nat → Option Nat → List Char → Option (Nat × List Char)
  | 0, _, _ => none
  | _ + 1, _, [] => none
  | budget + 1, value, c :: rest =>
    if c = '}' then value.map fun n => (n, skip verbose rest)
    else
      match Text.hexValue? c with
      | none => none
      | some d => takeHexBraced verbose budget (some (value.getD 0 * 16 + d)) (skip verbose rest)

/-- Takes a character written by its code point after the letter that announces `digits` digits. -/
def takeCodePoint (verbose : Bool) (digits : Nat) (cs : List Char) : Option (Literal × List Char) :=
  match skip verbose cs with
  | '{' :: rest =>
    let start := skip verbose rest
    match takeHexBraced verbose (start.length + 1) none start with
    | none => none
    | some (n, rest) => (Text.charOf? n).map fun c => (⟨c, false⟩, rest)
  | cs =>
    match takeHexDigits verbose digits 0 cs with
    | none => none
    | some (n, rest) => (Text.charOf? n).map fun c => (⟨c, digits == 2⟩, rest)

/-- Cuts at the first place where the mark stands. -/
def splitAtMark? (mark : List Char) : List Char → Option (List Char × List Char)
  | [] => none
  | c :: rest =>
    if mark.isPrefixOf (c :: rest) then some ([], (c :: rest).drop mark.length)
    else (splitAtMark? mark rest).map fun (before, after) => (c :: before, after)

/-- The property between braces: whether it is negated there, and its name. -/
def propertyOf (inside : List Char) : Bool × PropertyName :=
  let valued (parts : List Char × List Char) : PropertyName :=
    .valued (String.ofList parts.1) (String.ofList parts.2)
  match splitAtMark? ['!', '='] inside, splitAtMark? [':'] inside, splitAtMark? ['='] inside with
  | some parts, _, _ => (true, valued parts)
  | none, some parts, _ => (false, valued parts)
  | none, none, some parts => (false, valued parts)
  | none, none, none => (false, .plain (String.ofList inside))

/-- Takes the characters up to a closing brace. -/
def takeBraced (verbose : Bool) : Nat → List Char → Option (List Char × List Char)
  | 0, _ => none
  | budget + 1, cs =>
    match skip verbose cs with
    | [] => none
    | '}' :: rest => some ([], rest)
    | c :: rest => (takeBraced verbose budget rest).map fun (inside, rest) => (c :: inside, rest)

/-- Takes the name of a property: one letter, or what stands between braces. -/
def takeProperty (verbose negated : Bool) (cs : List Char) : Option (Escape × List Char) :=
  match skip verbose cs with
  | [] => none
  | '{' :: rest =>
    (takeBraced verbose (rest.length + 1) rest).map fun (inside, rest) =>
      let (inverted, name) := propertyOf inside
      (.property (negated != inverted) name, rest)
  | c :: rest =>
    if c = '\\' then none else some (.property negated (.plain (String.singleton c)), rest)

/-- May the character stand in the name of a word boundary? -/
def isBoundaryNameChar (c : Char) : Bool :=
  c.isAlpha || c == '-'

/-- Takes the name of a word boundary. -/
def takeBoundaryName (verbose : Bool) : Nat → List Char → List Char × List Char
  | 0, cs => ([], cs)
  | _ + 1, [] => ([], [])
  | budget + 1, c :: rest =>
    if isBoundaryNameChar c then
      let (name, rest) := takeBoundaryName verbose budget (skip verbose rest)
      (c :: name, rest)
    else ([], c :: rest)

/-- The word boundary of a name. -/
def boundaryOfName (name : String) : Option Assertion :=
  if name = "start" then some .wordStart
  else if name = "end" then some .wordEnd
  else if name = "start-half" then some .wordStartHalf
  else if name = "end-half" then some .wordEndHalf
  else none

/-- Takes the rest of a word boundary: its name in braces, if what follows is not a repetition. -/
def takeBoundary (verbose : Bool) (cs : List Char) : Option (Assertion × List Char) :=
  match cs with
  | '{' :: inside =>
    match skip verbose inside with
    | [] => none
    | c :: rest =>
      if isBoundaryNameChar c then
        let (name, rest) := takeBoundaryName verbose (c :: rest).length (c :: rest)
        match rest with
        | '}' :: rest => (boundaryOfName (String.ofList name)).map fun a => (a, rest)
        | _ => none
      else some (.wordBoundary, cs)
  | _ => some (.wordBoundary, cs)

/-- Does the character mean something of its own in expressions, or is it another one of ASCII that
is neither letter nor digit?  A backslash makes it stand for itself. -/
def isEscapable (c : Char) : Bool :=
  c.toNat < 0x80 && !c.isAlphanum && c != '<' && c != '>'

/-- The control character that a letter stands for behind a backslash. -/
def controlOf? (c : Char) : Option Char :=
  if c = 'a' then some '\x07'
  else if c = 'f' then some '\x0C'
  else if c = 't' then some '\t'
  else if c = 'n' then some '\n'
  else if c = 'r' then some '\r'
  else if c = 'v' then some '\x0B'
  else none

/-- The class that a letter stands for behind a backslash. -/
def letterClassOf? (c : Char) : Option (Bool × LetterClass) :=
  if c = 'd' then some (false, .digit)
  else if c = 's' then some (false, .space)
  else if c = 'w' then some (false, .word)
  else if c = 'D' then some (true, .digit)
  else if c = 'S' then some (true, .space)
  else if c = 'W' then some (true, .word)
  else none

/-- The place that a character stands for behind a backslash, where nothing else belongs to it. -/
def placeOf? (c : Char) : Option Assertion :=
  if c = 'A' then some .textStart
  else if c = 'z' then some .textEnd
  else if c = 'B' then some .notWordBoundary
  else if c = '<' then some .wordStart
  else if c = '>' then some .wordEnd
  else none

/-- Takes what follows a backslash. -/
def takeEscape (verbose : Bool) : List Char → Option (Escape × List Char)
  | [] => none
  | c :: rest =>
    if c = 'x' then (takeCodePoint verbose 2 rest).map fun (l, rest) => (.literal l, rest)
    else if c = 'u' then (takeCodePoint verbose 4 rest).map fun (l, rest) => (.literal l, rest)
    else if c = 'U' then (takeCodePoint verbose 8 rest).map fun (l, rest) => (.literal l, rest)
    else if c = 'p' then takeProperty verbose false rest
    else if c = 'P' then takeProperty verbose true rest
    else if c = 'b' then (takeBoundary verbose rest).map fun (a, rest) => (.assertion a, rest)
    else if isEscapable c then some (.literal ⟨c, false⟩, rest)
    else
      match letterClassOf? c, controlOf? c, placeOf? c with
      | some (negated, kind), _, _ => some (.letter negated kind, rest)
      | none, some control, _ => some (.literal ⟨control, false⟩, rest)
      | none, none, some a => some (.assertion a, rest)
      | none, none, none => none

/-! ## Classes in brackets -/

/-- The class of a name. -/
def namedClassOf? (name : String) : Option NamedClass :=
  [("alnum", NamedClass.alnum), ("alpha", .alpha), ("ascii", .ascii), ("blank", .blank),
    ("cntrl", .cntrl), ("digit", .digit), ("graph", .graph), ("lower", .lower), ("print", .print),
    ("punct", .punct), ("space", .space), ("upper", .upper), ("word", .word),
    ("xdigit", .xdigit)].lookup name

/-- Takes the name of a class and the colon and bracket after it. -/
def takeClassName (negated : Bool) (cs : List Char) : Option (ClassSet × List Char) :=
  match cs.dropWhile (· ≠ ':') with
  | ':' :: ']' :: after =>
    (namedClassOf? (String.ofList (cs.takeWhile (· ≠ ':')))).map fun kind =>
      (.named negated kind, after)
  | _ => none

/-- Takes a named class after its opening bracket, if there is one. -/
def takeNamedClass? (cs : List Char) : Option (ClassSet × List Char) :=
  match cs with
  | ':' :: '^' :: rest => takeClassName true rest
  | ':' :: rest => takeClassName false rest
  | _ => none

/-- Takes one character or class of letters inside brackets. -/
def takeClassItem (verbose : Bool) : List Char → Option (Escape × List Char)
  | [] => none
  | c :: rest =>
    if c = '\\' then takeEscape verbose rest else some (.literal ⟨c, false⟩, rest)

/-- Takes one character, range or class of letters inside brackets.  A hyphen makes no range before
a closing bracket or another hyphen. -/
def takeClassRange (verbose : Bool) (cs : List Char) : Option (ClassSet × List Char) :=
  match takeClassItem verbose cs with
  | none => none
  | some (item, rest) =>
    let single (rest : List Char) : Option (ClassSet × List Char) :=
      match item with
      | .literal literal => some (.one literal, rest)
      | .letter negated kind => some (.letter negated kind, rest)
      | .property negated name => some (.property negated name, rest)
      | .assertion _ => none
    match skip verbose rest with
    | [] => none
    | '-' :: after =>
      if peek verbose after = some ']' ∨ peek verbose after = some '-' then single ('-' :: after)
      else
        match takeClassItem verbose (skip verbose after), item with
        | some (.literal high, rest), .literal low =>
          if low.char ≤ high.char then some (.range low high, rest) else none
        | _, _ => none
    | rest => single rest

/-- Takes the hyphens at the start of brackets, which stand for themselves. -/
def takeHyphens (verbose : Bool) : Nat → List Char → List ClassSet × List Char
  | 0, cs => ([], cs)
  | budget + 1, cs =>
    match cs with
    | '-' :: rest =>
      let (hyphens, rest) := takeHyphens verbose budget (skip verbose rest)
      (.one ⟨'-', false⟩ :: hyphens, rest)
    | cs => ([], cs)

/-- Takes the hyphens or the closing bracket at the start of brackets, which stand for
themselves. -/
def takeClassEdge (verbose : Bool) (cs : List Char) : List ClassSet × List Char :=
  match takeHyphens verbose cs.length cs with
  | ([], ']' :: rest) => ([.one ⟨']', false⟩], skip verbose rest)
  | (hyphens, rest) => (hyphens, rest)

/-- Takes what belongs to the opening of brackets: whether the class is negated, and what stands for
itself at its start. -/
def takeClassStart (verbose : Bool) (cs : List Char) : Bool × List ClassSet × List Char :=
  match skip verbose cs with
  | '^' :: rest => (true, takeClassEdge verbose (skip verbose rest))
  | rest => (false, takeClassEdge verbose rest)

/-- The operation that the characters start with. -/
def takeClassOp? : List Char → Option (ClassOp × List Char)
  | '&' :: '&' :: rest => some (.intersection, rest)
  | '-' :: '-' :: rest => some (.difference, rest)
  | '~' :: '~' :: rest => some (.symmetricDifference, rest)
  | _ => none

/-- Puts what came before an operation together with what follows it. -/
def joinOp (pending : Option (ClassOp × ClassSet)) (parts : List ClassSet) : ClassSet :=
  let right := ClassSet.ofParts parts.reverse
  match pending with
  | none => right
  | some (kind, left) => .op kind left right

/-- Takes the inside of brackets up to the closing one: `parts` are those read since the last
operation, the last one first, and `pending` the operation with what came before it. -/
def takeClassBody (verbose : Bool) :
    Nat → Option (ClassOp × ClassSet) → List ClassSet → List Char → Option (ClassSet × List Char)
  | 0, _, _, _ => none
  | budget + 1, pending, parts, cs =>
    match skip verbose cs with
    | [] => none
    | c :: rest =>
      if c = ']' then some (joinOp pending parts, rest)
      else if c = '[' then
        match takeNamedClass? rest with
        | some (named, rest) => takeClassBody verbose budget pending (named :: parts) rest
        | none =>
          let (negated, start, rest) := takeClassStart verbose rest
          match takeClassBody verbose budget none start.reverse rest with
          | none => none
          | some (inner, rest) =>
            takeClassBody verbose budget pending (.bracketed negated inner :: parts) rest
      else
        match takeClassOp? (c :: rest) with
        | some (kind, rest) =>
          takeClassBody verbose budget (some (kind, joinOp pending parts)) [] rest
        | none =>
          match takeClassRange verbose (c :: rest) with
          | none => none
          | some (part, rest) => takeClassBody verbose budget pending (part :: parts) rest

/-- Takes a class after its opening bracket. -/
def takeBracketed (verbose : Bool) (cs : List Char) : Option (Written × List Char) :=
  let (negated, start, rest) := takeClassStart verbose cs
  (takeClassBody verbose (rest.length + 1) none start.reverse rest).map fun (set, rest) =>
    (.bracketed negated set, rest)

/-! ## Groups -/

/-- The flag of a letter. -/
def flagOf? (c : Char) : Option Flag :=
  if c = 'i' then some .anyCase
  else if c = 'm' then some .multiLine
  else if c = 's' then some .dotAll
  else if c = 'U' then some .swapGreed
  else if c = 'u' then some .unicode
  else if c = 'R' then some .returns
  else if c = 'x' then some .verbose
  else none

/-- Takes flags up to the colon or parenthesis after them: whether a hyphen came last, the changes,
and what is left.  No flag and no hyphen may come twice, and a hyphen must turn something off. -/
def takeFlags (negating dangling : Bool) (changes : FlagChanges) :
    List Char → Option (FlagChanges × List Char)
  | [] => none
  | c :: rest =>
    if c = ':' ∨ c = ')' then if dangling then none else some (changes, c :: rest)
    else if c = '-' then if negating then none else takeFlags true true changes rest
    else
      match flagOf? c with
      | none => none
      | some flag =>
        if (changes.setting? flag).isSome then none
        else takeFlags negating false (changes ++ [(flag, !negating)]) rest

/-- May the character stand in the name of a group, at its start if `first`? -/
def isGroupNameChar (first : Bool) (c : Char) : Bool :=
  if first then c == '_' || Text.Property.alphabeticInNames.has c
  else
    c == '_' || c == '.' || c == '[' || c == ']' || Text.Property.alphabeticInNames.has c ||
      Text.Property.numbersInNames.has c

/-- Takes the name of a group and the bracket after it. -/
def takeGroupName (cs : List Char) : Option (List Char × List Char) :=
  match cs.takeWhile (· ≠ '>'), cs.dropWhile (· ≠ '>') with
  | c :: name, _ :: rest =>
    if isGroupNameChar true c && name.all (isGroupNameChar false) then some (c :: name, rest)
    else none
  | _, _ => none

/-- What an opening parenthesis starts. -/
inductive Opening where
  /-- A group, which may have a name or flags of its own; its place in the text may be noted. -/
  | group (isNoted : Bool) (name : Option (List Char)) (changes : FlagChanges)
  /-- Nothing but flags for the group around it. -/
  | flags (changes : FlagChanges)

/-- Takes the opening of a group with a name. -/
def takeNamedOpening (cs : List Char) : Option (Opening × List Char) :=
  (takeGroupName cs).map fun (name, rest) => (.group true (some name) [], rest)

/-- Takes the opening of a group with flags of its own, or flags that stand for themselves. -/
def takeFlagOpening (cs : List Char) : Option (Opening × List Char) :=
  match takeFlags false false [] cs with
  | none => none
  | some (_, []) => none
  | some (changes, c :: rest) =>
    if c = ':' then some (.group false none changes, rest)
    else if changes.isEmpty then none
    else some (.flags changes, rest)

/-- Takes what belongs to an opening parenthesis.  Groups that look around are refused, for they
start with neither a name nor a flag. -/
def takeOpening (cs : List Char) : Option (Opening × List Char) :=
  match cs with
  | '?' :: 'P' :: '<' :: rest => takeNamedOpening rest
  | '?' :: '<' :: rest => takeNamedOpening rest
  | '?' :: rest => takeFlagOpening rest
  | rest => some (.group true none [], rest)

/-! ## Repetitions -/

/-- May the expression be repeated?  Flags may not. -/
def isRepeatable : Written → Bool
  | .flags _ => false
  | _ => true

/-- Skips the mark that makes a repetition prefer few rounds. -/
def skipLazy (cs : List Char) : List Char :=
  match cs with
  | '?' :: rest => rest
  | cs => cs

/-- Takes the most rounds of a repetition after the comma, if there is a most, and the closing
brace. -/
def takeMost (verbose : Bool) (least : Nat) (cs : List Char) : Option (Option Nat × List Char) :=
  match skip verbose cs with
  | '}' :: rest => some (none, rest)
  | cs =>
    match takeCount verbose cs with
    | (some most, '}' :: rest) =>
      if least ≤ most ∧ most ≤ largestCount then some (some most, rest) else none
    | _ => none

/-- Takes the counts of a repetition after its opening brace: the least and the most rounds. -/
def takeCounts (verbose : Bool) (cs : List Char) : Option ((Nat × Option Nat) × List Char) :=
  match skip verbose cs with
  | [] => none
  | cs =>
    match takeCount verbose cs with
    | (some least, '}' :: rest) =>
      if least ≤ largestCount then some ((least, some least), skipLazy (skip verbose rest))
      else none
    | (some least, ',' :: rest) =>
      if largestCount < least then none
      else
        (takeMost verbose least rest).map fun (most, rest) =>
          ((least, most), skipLazy (skip verbose rest))
    | _ => none

/-- The items with the last one repeated, if it may be. -/
def repeatLast (counts : Nat × Option Nat) (items : List Written) : Option (List Written) :=
  match items with
  | [] => none
  | item :: items =>
    if isRepeatable item then some (.times item counts.1 counts.2 :: items) else none

/-- Takes a repetition of the last item, if one starts here.  The outer option is empty when there
is none, the inner one when it is broken. -/
def takeRepetition? (verbose : Bool) (items : List Written) (cs : List Char) :
    Option (Option (List Written × List Char)) :=
  match cs with
  | '?' :: rest => some ((repeatLast (0, some 1) items).map (·, skipLazy rest))
  | '*' :: rest => some ((repeatLast (0, none) items).map (·, skipLazy rest))
  | '+' :: rest => some ((repeatLast (1, none) items).map (·, skipLazy rest))
  | '{' :: rest =>
    some ((takeCounts verbose rest).bind fun (counts, rest) =>
      (repeatLast counts items).map (·, rest))
  | _ => none

/-! ## Expressions -/

/-- Takes one item that is neither a group nor a repetition. -/
def takeItem (verbose : Bool) : List Char → Option (Written × List Char)
  | [] => none
  | c :: rest =>
    if c = '[' then takeBracketed verbose rest
    else if c = '.' then some (.dot, rest)
    else if c = '^' then some (.assertion .start, rest)
    else if c = '$' then some (.assertion .stop, rest)
    else if c = '\\' then
      (takeEscape verbose rest).map fun (escape, rest) =>
        match escape with
        | .literal literal => (.literal literal, rest)
        | .assertion a => (.assertion a, rest)
        | .letter negated kind => (.letter negated kind, rest)
        | .property negated name => (.property negated name, rest)
    else some (.literal ⟨c, false⟩, rest)

/-- What has been read of a group, and the names that groups have so far. -/
structure Progress where
  /-- The items since the last bar, the last one first. -/
  items : List Written
  /-- The branches before it, the last one first. -/
  branches : List Written
  /-- The names of groups. -/
  names : List (List Char)

/-- The expression that was read. -/
def Progress.written (p : Progress) : Written :=
  Written.ofBranches (Written.ofItems p.items.reverse :: p.branches).reverse

/-- Reads a group up to its closing parenthesis, which is left, or to the end: the expression, the
names of groups, and what is left. -/
def takeGroup (verbose : Bool) :
    Nat → Progress → List Char → Option (Written × List (List Char) × List Char)
  | 0, _, _ => none
  | budget + 1, p, cs =>
    match skip verbose cs with
    | [] => some (p.written, p.names, [])
    | c :: rest =>
      if c = ')' then some (p.written, p.names, ')' :: rest)
      else if c = '|' then
        takeGroup verbose budget ⟨[], Written.ofItems p.items.reverse :: p.branches, p.names⟩ rest
      else if c = '(' then
        match takeOpening (skip verbose rest) with
        | none => none
        | some (.flags changes, rest) =>
          takeGroup ((changes.setting? .verbose).getD verbose) budget
            { p with items := .flags changes :: p.items } rest
        | some (.group isNoted name changes, rest) =>
          if name.any p.names.contains then none
          else
            let names := name.toList ++ p.names
            let inside := (changes.setting? .verbose).getD verbose
            match takeGroup inside budget ⟨[], [], names⟩ rest with
            | some (inner, names, ')' :: rest) =>
              takeGroup verbose budget
                { p with items := .group isNoted changes inner :: p.items, names } rest
            | _ => none
      else
        match takeRepetition? verbose p.items (c :: rest) with
        | some none => none
        | some (some (items, rest)) => takeGroup verbose budget { p with items } rest
        | none =>
          match takeItem verbose (c :: rest) with
          | none => none
          | some (item, rest) => takeGroup verbose budget { p with items := item :: p.items } rest

/-- Reads a whole expression. -/
def Written.parse (cs : List Char) : Option Written :=
  match takeGroup false (cs.length + 1) ⟨[], [], []⟩ cs with
  | some (written, _, []) => if written.depth ≤ deepestNesting then some written else none
  | _ => none

end ReplicatedStore.Regex
