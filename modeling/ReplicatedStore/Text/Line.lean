import ReplicatedStore.Text.Bytes

/-!
# Lines

Lines on a connection end in a carriage return and a line feed.  `splitLine?` cuts the first line
off; it finds the first line end, however the octets go on after it (`splitLine?_append`).
-/

namespace ReplicatedStore.Bytes

/-- The end of a line: carriage return, line feed. -/
def lineEnd : Bytes := [13, 10]

/-- The place of the first line end, where `place` octets were passed already. -/
def lineEndFrom (place : Nat) : Bytes → Option Nat
  | [] => none
  | b :: rest =>
    if b = 13 ∧ rest.head? = some 10 then some place else lineEndFrom (place + 1) rest

/-- The place of the first line end. -/
def lineEnd? (b : Bytes) : Option Nat :=
  lineEndFrom 0 b

/-- The first line without its end, and what comes after it. -/
def splitLine? (b : Bytes) : Option (Bytes × Bytes) :=
  (lineEnd? b).map fun place => (b.take place, b.drop (place + 2))

/-- Does a line end stand anywhere among the octets? -/
def hasLineEnd (b : Bytes) : Bool :=
  (lineEnd? b).isSome

theorem lineEndFrom_eq_map (place : Nat) (b : Bytes) :
    lineEndFrom place b = (lineEnd? b).map (place + ·) := by
  unfold lineEnd?
  suffices h : ∀ p q, lineEndFrom (p + q) b = (lineEndFrom q b).map (p + ·) from h place 0
  induction b with
  | nil => intros; rfl
  | cons c rest ih =>
    intro p q
    simp only [lineEndFrom]
    split
    · rfl
    · exact ih p (q + 1)

theorem lineEnd?_cons (c : UInt8) (rest : Bytes) :
    lineEnd? (c :: rest) =
      if c = 13 ∧ rest.head? = some 10 then some 0 else (lineEnd? rest).map (· + 1) := by
  rw [lineEnd?, lineEndFrom]
  split
  · rfl
  · rw [lineEndFrom_eq_map]
    congr 1
    funext n
    omega

@[simp] theorem splitLine?_nil : splitLine? [] = none := rfl

theorem splitLine?_cons (c : UInt8) (rest : Bytes) :
    splitLine? (c :: rest) =
      if c = 13 ∧ rest.head? = some 10 then some ([], rest.tail)
      else (splitLine? rest).map fun (line, after) => (c :: line, after) := by
  unfold splitLine?
  rw [lineEnd?_cons]
  split
  · cases rest <;> rfl
  · cases lineEnd? rest <;> rfl

/-- A line is cut off at its end, unless a line end comes earlier: inside the line, or made of a
carriage return at its end and the line feed after it, which cannot be. -/
theorem splitLine?_append {line : Bytes} (h : hasLineEnd line = false) (after : Bytes) :
    splitLine? (line ++ lineEnd ++ after) = some (line, after) := by
  induction line with
  | nil => rfl
  | cons c rest ih =>
    simp only [hasLineEnd, lineEnd?_cons] at h
    by_cases hc : c = 13 ∧ rest.head? = some 10
    · simp [hc] at h
    · rw [if_neg hc] at h
      have hr : hasLineEnd rest = false := by simpa [hasLineEnd] using h
      have hne : ¬(c = 13 ∧ (rest ++ lineEnd ++ after).head? = some 10) := by
        intro ⟨h1, h2⟩
        cases rest with
        | nil => simp [lineEnd] at h2
        | cons d rest => exact hc ⟨h1, by simpa using h2⟩
      rw [List.cons_append, List.cons_append, splitLine?_cons, if_neg hne, ih hr]
      rfl

end ReplicatedStore.Bytes
