/-!
# Cutting at separators

`splitOn` cuts a list at every occurrence of a separator, so that joining the pieces with the
separator gives the list back; `splitFirst?` and `splitLast?` cut once.
-/

namespace ReplicatedStore.Text

variable {α : Type} [DecidableEq α]

/-- Puts an element in front of the first piece. -/
def consFirst (a : α) : List (List α) → List (List α)
  | [] => [[a]]
  | piece :: pieces => (a :: piece) :: pieces

/-- The pieces between the separators: one more than there are separators. -/
def splitOn (sep : α) : List α → List (List α)
  | [] => [[]]
  | a :: rest => if a = sep then [] :: splitOn sep rest else consFirst a (splitOn sep rest)

/-- What stands before and after the first element that `isSep` picks. -/
def splitFirst? (isSep : α → Bool) : List α → Option (List α × List α)
  | [] => none
  | a :: rest =>
    if isSep a then some ([], rest)
    else (splitFirst? isSep rest).map fun (before, after) => (a :: before, after)

/-- What stands before and after the last separator. -/
def splitLast? (sep : α) (l : List α) : Option (List α × List α) :=
  (splitFirst? (· == sep) l.reverse).map fun (after, before) => (before.reverse, after.reverse)

theorem splitOn_ne_nil (sep : α) (l : List α) : splitOn sep l ≠ [] := by
  cases l with
  | nil => simp [splitOn]
  | cons a rest =>
    simp only [splitOn]
    split
    · simp
    · cases splitOn sep rest <;> simp [consFirst]

end ReplicatedStore.Text
