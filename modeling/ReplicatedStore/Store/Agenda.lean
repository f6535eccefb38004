import Std.Data.ExtTreeMap
import Std.Data.ExtTreeSet

/-!
# When keys end

A key may have a deadline, after which it is removed.  The deadlines are kept twice: by database and
key, to look one up, and in one agenda in the order in which they come, to find those that have
passed.  `Agenda.set` and `Agenda.clear` change both together.  Times are milliseconds of a clock
that never goes back.
-/

open Std (ExtTreeMap ExtTreeSet)

namespace ReplicatedStore

/-- The end of one key. -/
structure Ending where
  /-- When the key is removed. -/
  deadline : Nat
  /-- The database of the key. -/
  db : String
  /-- The key. -/
  key : String
  deriving DecidableEq, Repr

namespace Ending

/-- Endings come by deadline, then database, then key. -/
def order : Ending → Ending → Ordering :=
  compareLex (compareOn Ending.deadline) (compareLex (compareOn Ending.db) (compareOn Ending.key))

instance : Std.TransCmp order :=
  inferInstanceAs (Std.TransCmp (compareLex _ _))

instance : Std.LawfulEqCmp order where
  compare_self := by intro a; simp [order, compareLex, compareOn]
  eq_of_compare := by
    intro a b h
    simp only [order, compareLex, compareOn, Ordering.then_eq_eq,
      Std.LawfulEqOrd.compare_eq_iff_eq] at h
    obtain ⟨h₁, h₂, h₃⟩ := h
    cases a; cases b; simp_all

end Ending

/-- The deadlines of the keys of a store. -/
structure Agenda where
  /-- The deadline of each key that has one, by database. -/
  deadlines : ExtTreeMap String (ExtTreeMap String Nat)
  /-- The same deadlines in the order in which they come. -/
  endings : ExtTreeSet Ending Ending.order

namespace Agenda

/-- The agenda without deadlines. -/
def empty : Agenda := ⟨∅, ∅⟩

/-- The deadline of a key. -/
def deadline? (a : Agenda) (db key : String) : Option Nat :=
  a.deadlines[db]?.bind (·[key]?)

/-- Takes away the deadline of a key. -/
def clear (a : Agenda) (db key : String) : Agenda :=
  match a.deadline? db key with
  | none => a
  | some deadline =>
    { deadlines := a.deadlines.modify db (·.erase key)
      endings := a.endings.erase ⟨deadline, db, key⟩ }

/-- Gives a key a deadline in place of the one it had. -/
def set (a : Agenda) (db key : String) (deadline : Nat) : Agenda :=
  let cleared := a.clear db key
  { deadlines := cleared.deadlines.alter db fun keys => some ((keys.getD ∅).insert key deadline)
    endings := cleared.endings.insert ⟨deadline, db, key⟩ }

/-- Takes away all deadlines of a database. -/
def clearDatabase (a : Agenda) (db : String) : Agenda :=
  { deadlines := a.deadlines.erase db
    endings := a.endings.filter fun ending => ending.db != db }

/-- The endings whose deadline is not after `now`, in their order. -/
def due (a : Agenda) (now : Nat) : List Ending :=
  a.endings.toList.takeWhile fun ending => ending.deadline ≤ now

/-- The first deadline that is still to come. -/
def next? (a : Agenda) : Option Nat :=
  a.endings.min?.map Ending.deadline

end Agenda

end ReplicatedStore
