import ReplicatedStore.Proofs.Command.Recorded

/-!
# What a command says of its request

Some commands can only come from certain verbs, and hold what certain arguments say
(`Command.AskedBy`): those that write a key whatever it holds, those that write a string where there
is a string or nothing, recorded changes and copies of a store, a password that is shown, and
sorting.  That the reading of arguments keeps to this is proved once, by going through all verbs
(`Command.askedBy_of_run`), so that what is checked for a verb and an argument holds of the command
that runs.
-/

namespace ReplicatedStore.Command

/-- Is the command one that the verb asks for with the arguments?  Commands of which nothing has to
be known pass. -/
def AskedBy (v : Verb) (args : List Bytes) : Command → Prop
  | .edit (.set key _) => v = .set ∧ args.head? = some (Bytes.ofText key)
  | .edit (.rename _ target) => v = .rename ∧ args[1]? = some (Bytes.ofText target)
  | .edit (.combineInto _ target _) =>
    (v = .intersectInto ∨ v = .uniteInto ∨ v = .subtractInto) ∧
      args.head? = some (Bytes.ofText target)
  | .edit (.getSet key _) | .edit (.add key _) | .edit (.setNew key _) | .decrement key _ =>
    v.descriptor.demand = .stringOrNone ∧ args.head? = some (Bytes.ofText key)
  | .ask (.sort _ _) => v = .sort
  | .auth password => v = .auth ∧ args.head? = some (Bytes.ofText password)
  | .replay _ => v = .replay
  | .replaceAll _ _ => v = .replaceAll
  | _ => True

/-- **What is read for a verb is asked for by it.** -/
lemma askedBy_of_run {v : Verb} {args rest : List Bytes} {command : Command}
    (h : (readArguments v).run args = .ok (command, rest)) : command.AskedBy v args := by
  have hinto : ∀ {algebra : Store.SetAlgebra},
      v = .intersectInto ∨ v = .uniteInto ∨ v = .subtractInto →
      (readCombineInto algebra).run args = .ok (command, rest) → command.AskedBy v args := by
    intro algebra hv hrun
    obtain ⟨target, others, rfl, hkeys⟩ := run_nextText_eq_ok hrun
    obtain ⟨keys, left, -, hpure⟩ := run_bind_eq_ok hkeys
    cases hpure
    exact ⟨hv, rfl⟩
  have hattach : ∀ name, Yields (readAttach name) (AskedBy v args) :=
    yields_readAttach fun _ => trivial
  cases v
  case set | getSet | setNew | incrementBy | decrementBy =>
    obtain ⟨key, others, rfl, hnext⟩ := run_nextText_eq_ok h
    obtain ⟨found, left, -, hpure⟩ := run_bind_eq_ok hnext
    cases hpure
    exact ⟨rfl, rfl⟩
  case increment | decrement | auth =>
    obtain ⟨text, others, rfl, hpure⟩ := run_nextText_eq_ok h
    cases hpure
    exact ⟨rfl, rfl⟩
  case rename =>
    obtain ⟨source, others, rfl, hnext⟩ := run_nextText_eq_ok h
    obtain ⟨target, left, rfl, hpure⟩ := run_nextText_eq_ok hnext
    cases hpure
    exact ⟨rfl, rfl⟩
  case intersectInto => exact hinto (.inl rfl) h
  case uniteInto => exact hinto (.inr (.inl rfl)) h
  case subtractInto => exact hinto (.inr (.inr rfl)) h
  case attach => exact hattach _ _ _ _ h
  case attachSubordinate => exact hattach _ _ _ _ h
  -- Of the others no argument has to be known, so that any arguments will do.
  all_goals
    refine (?_ : Yields (readArguments _) (AskedBy _ args)) args command rest h
    first
      | exact .pure trivial
      | exact .after _ fun _ => .pure trivial
      | exact .after _ fun _ => .after _ fun _ => .pure trivial
      | exact .after _ fun _ => .after _ fun _ => .after _ fun _ => .pure trivial
      | exact .after _ fun _ => .pure rfl
      | exact .after _ fun _ => .after _ fun _ => .pure rfl
      | exact .after _ fun _ => .after _ fun _ => .after _ fun _ => .pure rfl

/-- What is read from a request is asked for by the verb that the request names. -/
lemma askedBy_of_ofRequest {r : Request} {command : Command} (h : ofRequest r = .ok command) :
    ∃ v, Verb.ofName? r.name = some v ∧ command.AskedBy v r.args := by
  unfold ofRequest at h
  split at h
  · rename_i v hverb
    obtain ⟨rest, hrun⟩ := run_of_ofArguments h
    exact ⟨v, hverb, askedBy_of_run hrun⟩
  · cases h

end ReplicatedStore.Command
