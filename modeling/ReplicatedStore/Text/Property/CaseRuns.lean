import ReplicatedStore.Text.CharSet

/-!
# Case mappings as tables of runs

A case mapping moves long runs of characters by one fixed distance: every character of the run, or
every second one where capital and small letters alternate.
-/

namespace ReplicatedStore.Text.Property

/-- Every `step`-th code point from `first` to `last` maps to the one `shift` further. -/
structure CaseRun where
  /-- The first code point that is mapped. -/
  first : Nat
  /-- The last code point that is mapped. -/
  last : Nat
  /-- The distance between two mapped code points. -/
  step : Nat
  /-- The distance from a code point to its image. -/
  shift : Int

namespace CaseRun

/-- Does the run map this code point? -/
def covers (r : CaseRun) (n : Nat) : Bool :=
  r.first ≤ n && n ≤ r.last && (n - r.first) % r.step == 0

/-- The image of a code point that the run maps. -/
def image? (r : CaseRun) (n : Nat) : Option Nat :=
  if r.covers n then some (n + r.shift).toNat else none

/-- The code point that the run maps to `n`, if it does. -/
def preimage? (r : CaseRun) (n : Nat) : Option Nat :=
  let m := (n - r.shift).toNat
  if r.covers m && (m + r.shift).toNat == n then some m else none

/-- The code points that the run maps, in ascending order. -/
def domain (r : CaseRun) : List Nat :=
  List.range' r.first ((r.last - r.first) / r.step + 1) r.step

/-- The code points that the run maps, each with its image. -/
def pairs (r : CaseRun) : List (Nat × Nat) :=
  r.domain.map fun n => (n, (n + r.shift).toNat)

end CaseRun

/-- The characters that runs in ascending order map. -/
def charsOfRuns (runs : Array CaseRun) : CharSet :=
  .ofCodes (runs.toList.flatMap CaseRun.domain)

end ReplicatedStore.Text.Property
