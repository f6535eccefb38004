import ReplicatedStore.Text.Bytes

/-!
# Glob patterns

A glob pattern describes names by octets: `?` is any octet but a slash, `*` any octets without a
slash, `**` as a whole part between slashes any octets, `[...]` one octet of a class, `{a,b}` one of
several options, and a backslash makes the next octet stand for itself.  Each `!` in front turns the
answer round.

The matcher walks pattern and name together.  A star is first taken as no octets; when what follows
does not match, the walk goes back to the last star and takes one octet more with it.  In braces
every option is tried and the one that reaches farthest in the name is kept.  A pattern with a
broken class, escape or brace matches nothing, once the walk gets to see that it is broken.
-/

namespace ReplicatedStore.Glob

/-! ## Parts of patterns -/

/-- The octet that stands for an escaped one. -/
def escaped (b : UInt8) : UInt8 :=
  if b = 0x61 then 0x61
  else if b = 0x62 then 0x08
  else if b = 0x6E then 0x0A
  else if b = 0x72 then 0x0D
  else if b = 0x74 then 0x09
  else b

/-- Takes an octet of a pattern, escaped or not. -/
def takeOctet : Bytes → Option (UInt8 × Bytes)
  | [] => none
  | b :: rest =>
    if b = 0x5C then
      match rest with
      | [] => none
      | c :: rest => some (escaped c, rest)
    else some (b, rest)

/-- Takes one range of a class: the lowest and highest octet.  A hyphen before the end of the class
stands for itself. -/
def takeRange (pattern : Bytes) : Option ((UInt8 × UInt8) × Bytes) :=
  match takeOctet pattern with
  | none => none
  | some (low, rest) =>
    match rest with
    | b :: c :: more =>
      if b = 0x2D ∧ c ≠ 0x5D then
        (takeOctet (c :: more)).map fun (high, rest) => ((low, high), rest)
      else some ((low, low), b :: c :: more)
    | rest => some ((low, low), rest)

theorem length_takeOctet {pattern rest : Bytes} {b : UInt8}
    (h : takeOctet pattern = some (b, rest)) : rest.length < pattern.length := by
  unfold takeOctet at h
  grind

theorem length_takeRange {pattern rest : Bytes} {range : UInt8 × UInt8}
    (h : takeRange pattern = some (range, rest)) : rest.length < pattern.length := by
  unfold takeRange at h
  split at h
  · cases h
  · rename_i hlow
    have := length_takeOctet hlow
    split at h
    · split at h
      · obtain ⟨_, hhigh, heq⟩ := Option.map_eq_some_iff.1 h
        cases heq
        have := length_takeOctet hhigh
        simp only [List.length_cons] at *
        omega
      · cases h
        exact this
    · cases h
      exact this

/-- Takes the ranges of a class up to its end and answers whether the octet `c` is in one of them.
The end mark stands for itself when it comes first. -/
def takeRanges (c : UInt8) (first found : Bool) (pattern : Bytes) : Option (Bool × Bytes) :=
  if pattern.head? = some 0x5D ∧ !first then some (found, pattern.tail)
  else
    match h : takeRange pattern with
    | none => none
    | some ((low, high), rest) =>
      have := length_takeRange h
      takeRanges c false (found || (low ≤ c && c ≤ high)) rest
termination_by pattern.length

/-- Takes a class after its opening mark and answers whether the octet `c` is in it. -/
def takeClass (c : UInt8) (pattern : Bytes) : Option (Bool × Bytes) :=
  match pattern with
  | [] => none
  | b :: rest =>
    if b = 0x5E ∨ b = 0x21 then
      (takeRanges c true false rest).map fun (found, rest) => (!found, rest)
    else takeRanges c true false (b :: rest)

/-- Skips further parts that are double stars, which say nothing new after one. -/
def skipDoubleStars : Bytes → Bytes
  | 0x2F :: 0x2A :: 0x2A :: rest => skipDoubleStars rest
  | pattern => pattern

theorem length_skipDoubleStars (pattern : Bytes) :
    (skipDoubleStars pattern).length ≤ pattern.length := by
  fun_induction skipDoubleStars pattern <;> grind

/-- Where a search through braces ends. -/
inductive BraceEnd where
  /-- After the comma before the next option. -/
  | nextOption
  /-- After the closing brace. -/
  | closed
  deriving DecidableEq, Repr

/-- Looks for the end of an option, or of the braces if `whole`, where `depth` braces are open
inside and `inClass` tells whether a class is open. -/
def skipBraces (whole : Bool) (depth : Nat) (inClass : Bool) (pattern : Bytes) :
    Option (BraceEnd × Bytes) :=
  match pattern with
  | [] => none
  | b :: rest =>
    if b = 0x7B ∧ !inClass then skipBraces whole (depth + 1) inClass rest
    else if b = 0x7D ∧ !inClass then
      match depth with
      | 0 => some (.closed, rest)
      | depth + 1 => skipBraces whole depth inClass rest
    else if b = 0x2C ∧ !whole ∧ depth = 0 ∧ !inClass then some (.nextOption, rest)
    else if b = 0x5B ∧ !inClass then skipBraces whole depth true rest
    else if b = 0x2A ∧ rest.head? = some 0x2A ∧ !inClass then
      have := length_skipDoubleStars rest.tail
      skipBraces whole depth inClass (skipDoubleStars rest.tail)
    else if b = 0x5D then skipBraces whole depth false rest
    else if b = 0x5C then skipBraces whole depth inClass rest.tail
    else skipBraces whole depth inClass rest
termination_by pattern.length
decreasing_by all_goals simp_all only [List.length_cons, List.length_tail]; omega

/-! ## The walk -/

/-- A place in the pattern with a place in the name. -/
structure Mark where
  /-- How many octets of the pattern come before. -/
  pattern : Nat
  /-- How many octets of the name come before. -/
  name : Nat
  deriving DecidableEq, Repr

/-- How far the walk is and where it can go back to. -/
structure Cursor where
  /-- How many octets of the pattern are passed. -/
  pattern : Nat
  /-- How many octets of the name are passed. -/
  name : Nat
  /-- The last star, with the place in the name after one octet more; not set while that is zero. -/
  star : Mark
  /-- The last double star in the same form. -/
  doubleStar : Mark
  deriving DecidableEq, Repr

/-- The walk as a whole. -/
structure Walk where
  /-- How far it is. -/
  here : Cursor
  /-- How far it was at each opening brace that is not closed yet, the innermost first. -/
  braces : List Cursor
  /-- The farthest place in the name that an option reached. -/
  longest : Nat
  deriving DecidableEq, Repr

/-- A pattern with a name that it is held against. -/
structure Subject where
  /-- The pattern. -/
  pattern : Bytes
  /-- The name. -/
  name : Bytes

/-- What one step of the walk comes to. -/
inductive Step where
  /-- The walk goes on. -/
  | advance (walk : Walk)
  /-- The pattern does not go on like the name. -/
  | mismatch (walk : Walk)
  /-- The pattern is broken. -/
  | broken

/-- No star yet. -/
def Mark.unset : Mark := ⟨0, 0⟩

/-- How deep braces may be nested. -/
def deepestBraces : Nat := 10

namespace Walk

/-- The walk at other places. -/
def moveTo (w : Walk) (pattern name : Nat) : Walk :=
  { w with here := { w.here with pattern, name } }

/-- The walk without the last double star. -/
def forgetDoubleStar (w : Walk) : Walk :=
  { w with here := { w.here with doubleStar := { w.here.doubleStar with name := 0 } } }

/-- The walk at the end of an option, which may have reached farther than those before it. -/
def endOption (w : Walk) : Walk :=
  { w with longest := max w.longest w.here.name }

/-- Enters braces. -/
def enter (w : Walk) : Walk :=
  { w with
    here := ⟨w.here.pattern + 1, w.here.name, Mark.unset, Mark.unset⟩
    braces := w.here :: w.braces }

/-- Leaves braces with the option that reached farthest. -/
def leave (w : Walk) : Walk :=
  match w.braces with
  | [] => w
  | saved :: others =>
    { here := { saved with pattern := w.here.pattern, name := w.longest }
      braces := others
      longest := if others.isEmpty then 0 else w.longest }

/-- Tries the next option from where the braces were entered. -/
def restart (w : Walk) (pattern : Nat) : Walk :=
  match w.braces with
  | [] => w
  | saved :: _ => w.moveTo pattern saved.name

end Walk

namespace Subject

/-- The place in the pattern at which `rest` starts. -/
def placeOf (s : Subject) (rest : Bytes) : Nat :=
  s.pattern.length - rest.length

/-- Is the star part of the pattern that ends at `place` a whole part between slashes? -/
def isWholePart (s : Subject) (place : Nat) : Bool :=
  (place < 3 || s.pattern[place - 3]? = some 0x2F) && s.pattern[place]? = some 0x2F

/-- Is the place in the name at the start of a part? -/
def atPartStart (s : Subject) (place : Nat) : Bool :=
  place == 0 || (place < s.name.length && s.name[place - 1]? = some 0x2F)

/-- Takes a star at the place of the cursor, which `rest` follows: the cursor behind it, with
nothing of the name taken. -/
def passStar (s : Subject) (c : Cursor) (rest : Bytes) : Cursor :=
  if rest.head? = some 0x2A then
    let next := s.placeOf (skipDoubleStars rest.tail)
    let star : Mark := ⟨next - 2, c.name + 1⟩
    if next = s.pattern.length then { c with pattern := next, star, doubleStar := star }
    else if s.isWholePart next then
      { c with
        pattern := if s.atPartStart c.name then next + 1 else next
        star
        doubleStar := star }
    else { c with pattern := next, star }
  else { c with pattern := c.pattern + 1, star := ⟨c.pattern, c.name + 1⟩ }

/-- A star does not go over a slash: there the walk goes back to the last double star or gives the
star up. -/
def stopAtSlash (s : Subject) (c : Cursor) : Cursor :=
  if c.doubleStar.name ≠ c.star.name ∧ s.name[c.name]? = some 0x2F then
    if 0 < c.doubleStar.name ∧ c.name + 1 < s.name.length then
      { c with
        pattern := c.doubleStar.pattern
        star := { c.star with pattern := c.doubleStar.pattern } }
    else { c with star := { c.star with name := 0 } }
  else c

/-- Takes a star, and skips the other options when it ends one. -/
def takeStar (s : Subject) (w : Walk) (rest : Bytes) : Step :=
  let c := s.stopAtSlash (s.passStar w.here rest)
  let after := s.pattern.drop c.pattern
  if !w.braces.isEmpty ∧ (after.head? = some 0x2C ∨ after.head? = some 0x7D) then
    match skipBraces true 0 false after with
    | none => .broken
    | some (_, rest) => .advance { w with here := { c with pattern := s.placeOf rest } }
  else .advance { w with here := c }

/-- Takes a class that should hold the octet `c` of the name. -/
def takeClassAt (s : Subject) (w : Walk) (c : UInt8) (rest : Bytes) : Step :=
  match takeClass c rest with
  | none => .broken
  | some (found, rest) =>
    if found then .advance (w.moveTo (s.placeOf rest) (w.here.name + 1))
    else .mismatch (w.moveTo (s.placeOf rest) w.here.name)

/-- Takes an octet of the pattern that should be the octet `c` of the name.  When it follows a
closing brace that a star ran over, the braces are left here. -/
def takeLiteral (s : Subject) (w : Walk) (c : UInt8) (pattern : Bytes) : Step :=
  match takeOctet pattern with
  | none => .broken
  | some (b, rest) =>
    let place := s.placeOf rest - 1
    if b = c then
      let left :=
        if !w.braces.isEmpty ∧ 0 < place ∧ s.pattern[place - 1]? = some 0x7D then
          { w with longest := w.here.name }.leave
        else w
      let moved := left.moveTo (place + 1) (left.here.name + 1)
      .advance (if b = 0x2F then moved else moved.forgetDoubleStar)
    else .mismatch (w.moveTo place w.here.name)

/-- One step of the walk. -/
def step (s : Subject) (w : Walk) : Step :=
  match s.pattern.drop w.here.pattern with
  | [] => .mismatch w
  | b :: rest =>
    if b = 0x2A then s.takeStar w rest
    else if b = 0x7D ∧ !w.braces.isEmpty then
      .advance (w.endOption.moveTo (w.here.pattern + 1) w.here.name).leave
    else if b = 0x2C ∧ !w.braces.isEmpty then
      let next := w.endOption.restart (w.here.pattern + 1)
      .advance { next with here := { next.here with star := Mark.unset, doubleStar := Mark.unset } }
    else
      match s.name[w.here.name]? with
      | none => .mismatch w
      | some c =>
        if b = 0x3F then
          if c = 0x2F then .mismatch w
          else .advance (w.moveTo (w.here.pattern + 1) (w.here.name + 1))
        else if b = 0x5B then s.takeClassAt w c rest
        else if b = 0x7B then
          if w.braces.length < deepestBraces then .advance w.enter else .broken
        else s.takeLiteral w c (b :: rest)

/-- Goes back to the last star, to take one octet more with it. -/
def backToStar? (s : Subject) (w : Walk) : Option Walk :=
  let star := w.here.star
  if 0 < star.name ∧ star.name ≤ s.name.length then some (w.moveTo star.pattern star.name) else none

/-- Goes on after a mismatch: from the last star, else with the next option, else without the
braces, with the option that reached farthest or from the last star before them. -/
def recover (s : Subject) (w : Walk) : Step :=
  match s.backToStar? w, w.braces with
  | some back, _ => .advance back
  | none, [] => .mismatch w
  | none, saved :: others =>
    match skipBraces false 0 false (s.pattern.drop w.here.pattern) with
    | none => .broken
    | some (.nextOption, rest) => .advance (w.restart (s.placeOf rest))
    | some (.closed, rest) =>
      if 0 < w.longest then .advance (w.moveTo (s.placeOf rest) w.here.name).leave
      else
        let outside := { w with here := saved, braces := others }
        match s.backToStar? outside with
        | some back => .advance back
        | none => .mismatch outside

/-- Are pattern and name both passed? -/
def isAtEnd (s : Subject) (w : Walk) : Bool :=
  s.pattern.length ≤ w.here.pattern && s.name.length ≤ w.here.name

/-- How a walk ends. -/
inductive Outcome where
  /-- The pattern matches the name. -/
  | matched
  /-- It does not. -/
  | unmatched
  /-- It is broken. -/
  | broken
  deriving DecidableEq, Repr

/-- Walks to the end, in at most `budget` steps. -/
def walk (s : Subject) : Nat → Walk → Outcome
  | 0, _ => .unmatched
  | budget + 1, w =>
    if s.isAtEnd w then .matched
    else
      match s.step w with
      | .advance next => walk s budget next
      | .broken => .broken
      | .mismatch stuck =>
        match s.recover stuck with
        | .advance next => walk s budget next
        | .mismatch _ => .unmatched
        | .broken => .broken

/-- More steps than a walk takes: stars go back at most once for each place in pattern and name,
inside each of the braces that can be open and outside of them. -/
def budget (s : Subject) : Nat :=
  let places := (s.pattern.length + 2) * (s.name.length + 2)
  (places * places * places) <<< deepestBraces

end Subject

/-- Does the pattern match the name? -/
def isMatch (pattern name : Bytes) : Bool :=
  let marks := (pattern.takeWhile (· == 0x21)).length
  let subject : Subject := ⟨pattern, name⟩
  match subject.walk subject.budget ⟨⟨marks, 0, Mark.unset, Mark.unset⟩, [], 0⟩ with
  | .matched => marks % 2 == 0
  | .unmatched => marks % 2 == 1
  | .broken => false

end ReplicatedStore.Glob
