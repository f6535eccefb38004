import ReplicatedStore.Proofs.Command.Asked
import ReplicatedStore.Proofs.Node.Errors
import ReplicatedStore.Proofs.Store.Types

/-!
# Types of keys, as clients find them

A client's request changes the type of a key only if it is one of those that write a key whatever it
holds (`Node.types_are_stable`).  Operations that write strings without looking are let through only
where the first argument of the request names a string or nothing, by the table of demands.  So the
proof has to see that the key that is checked is the key that is written: the check reads the first
argument as it arrives, and the command the text that it is (`Command.askedBy_of_run`).
-/

namespace ReplicatedStore

/-! ## Commands that write strings, and others -/

namespace Command

/-- May the command write another type under the key? -/
def Retypes (db d k : String) : Command → Prop
  | .edit op => op.Retypes db d k
  | _ => False

/-- Where the command writes a string without looking, there is a string or nothing.  It is neither
a recorded change nor a copy of a store, which may write anything. -/
def Guarded (s : Store) (db : String) : Command → Prop
  | .edit op => op.Guarded s db
  | .decrement key _ => s.typeOf db key = .string ∨ s.typeOf db key = .none
  | .replay _ | .replaceAll _ _ => False
  | _ => True

/-- The key under which the command writes a string, if it writes one where there is a string or
nothing only. -/
def stringKey? : Command → Option String
  | .edit (.getSet key _) | .edit (.add key _) | .edit (.setNew key _) | .decrement key _ =>
    some key
  | _ => none

end Command

/-- The verbs that write strings where there is a string or nothing. -/
def Verb.stringWriters : List Verb :=
  [.increment, .incrementBy, .decrement, .decrementBy, .getSet, .setNew]

namespace Command

lemma yields_stringKey {v : Verb} (h : v ∈ Verb.stringWriters) :
    Yields (readArguments v) fun command => ∃ key, command.stringKey? = some key := by
  simp only [Verb.stringWriters, List.mem_cons, List.not_mem_nil, or_false] at h
  rcases h with rfl | rfl | rfl | rfl | rfl | rfl
  all_goals
    first
      | exact .after _ fun key => .pure ⟨key, rfl⟩
      | exact .after _ fun key => .after _ fun _ => .pure ⟨key, rfl⟩

end Command

/-- Does the request write the key whatever it holds?  It is SET on the key, RENAME with the key as
the new name, or SINTERSTORE, SUNIONSTORE or SDIFFSTORE with the key as destination. -/
def Request.Rewrites (r : Request) (key : String) : Prop :=
  (r.name = Verb.set.name ∧ r.args.head? = some (Bytes.ofText key)) ∨
  (r.name = Verb.rename.name ∧ r.args[1]? = some (Bytes.ofText key)) ∨
  ((r.name = Verb.intersectInto.name ∨ r.name = Verb.uniteInto.name ∨
    r.name = Verb.subtractInto.name) ∧ r.args.head? = some (Bytes.ofText key))

/-- A command that may write another type under a key was asked for by such a request. -/
lemma Command.AskedBy.rewrites {r : Request} {v : Verb} {command : Command} {db d k : String}
    (h : command.AskedBy v r.args) (hname : v.name = r.name) (hretypes : command.Retypes db d k) :
    d = db ∧ r.Rewrites k := by
  cases command with
  | edit op =>
    cases op
    case set key data =>
      obtain ⟨rfl, hargs⟩ := h
      obtain ⟨rfl, rfl⟩ := hretypes
      exact ⟨rfl, .inl ⟨hname.symm, hargs⟩⟩
    case rename source target =>
      obtain ⟨rfl, hargs⟩ := h
      obtain ⟨rfl, rfl⟩ := hretypes
      exact ⟨rfl, .inr (.inl ⟨hname.symm, hargs⟩)⟩
    case combineInto algebra target keys =>
      obtain ⟨hv, hargs⟩ := h
      obtain ⟨rfl, rfl⟩ := hretypes
      refine ⟨rfl, .inr (.inr ⟨?_, hargs⟩)⟩
      rw [← hname]
      exact hv.imp (congrArg _) (.imp (congrArg _) (congrArg _))
    all_goals exact hretypes.elim
  | _ => exact hretypes.elim

namespace Node

/-! ## Commands -/

section Commands

variable (n : Node) (around : Surroundings) (session : Session) {d k : String}

/-- A guarded command keeps the type of every key that stays, unless it writes the key whatever it
holds. -/
lemma type_run {command : Command} (hguarded : command.Guarded n.store session.db)
    (hkey : n.store.has d k) (hretypes : ¬ command.Retypes session.db d k) {value : Value}
    (h : (n.run around session command).node.store.value? d k = some value) :
    value.type = n.store.typeOf d k := by
  have hsame : n.store.SameContents (n.run around session command).node.store →
      value.type = n.store.typeOf d k := by
    intro hcontents
    rw [(hcontents d k).1] at h
    exact (Store.typeOf_of_value? h).symm
  cases command with
  | edit op => exact op.type_perform n.store _ _ _ hguarded hkey hretypes h
  | decrement key amount =>
    simp only [run, runOwn] at h hsame
    have hadds : (Operation.add key (-amount)).Guarded n.store session.db := hguarded
    split at h
    · exact Operation.type_perform n.store around.now around.pick _ hadds hkey id h
    · exact (Store.typeOf_of_value? h).symm
  | select db =>
    refine hsame ?_
    simp only [run, runOwn, select, store_withStore]
    split
    · exact (n.store.untouched_ensure db).contents.trans (Store.sameContents_commit _ _ _ _)
    · exact (n.store.untouched_ensure db).contents
  | replay envelope => exact hguarded.elim
  | replaceAll version data => exact hguarded.elim
  | _ =>
    refine hsame (Store.Untouched.contents ?_)
    exact n.untouched_run around session trivial

/-- Writing a string where there is a string or nothing leaves every list and every set alone. -/
lemma value_run_of_stringKey {command : Command} {key : String}
    (hkey : command.stringKey? = some key)
    (hfound : n.store.typeOf session.db key = .string ∨ n.store.typeOf session.db key = .none)
    (hheld : n.store.typeOf d k = .list ∨ n.store.typeOf d k = .set) :
    (n.run around session command).node.store.value? d k = n.store.value? d k := by
  have hother : ¬ (d = session.db ∧ k = key) := by
    rintro ⟨rfl, rfl⟩
    rcases hfound with hfound | hfound <;> rw [hfound] at hheld <;> simp at hheld
  cases command with
  | edit op =>
    have hframe : ¬ op.footprint session.db d k := by
      cases op <;> cases hkey <;> exact hother
    exact (n.store.perform_frame around.now op around.pick session.db hframe).1
  | decrement key' amount =>
    obtain rfl := Option.some.inj hkey
    simp only [run, runOwn]
    split
    · exact (n.store.perform_frame around.now (.add key' (-amount)) around.pick session.db hother).1
    · rfl
  | _ => cases hkey

end Commands

/-! ## Requests -/

variable {n : Node} {session : Session} {r : Request} {command : Command}

/-- Where a command that passed the checks writes a string, there is a string or nothing, unless it
writes the key whatever it holds. -/
lemma typeOf_of_check {v : Verb} {key : String} (hasked : command.AskedBy v r.args)
    (hkey : command.stringKey? = some key)
    (hdemand : n.checkDemand session v.descriptor.demand r.args = .ok ()) :
    n.store.typeOf session.db key = .string ∨ n.store.typeOf session.db key = .none := by
  obtain ⟨hkind, hargs⟩ :
      v.descriptor.demand = .stringOrNone ∧ r.args.head? = some (Bytes.ofText key) := by
    cases command with
    | edit op => cases op <;> cases hkey <;> exact hasked
    | decrement key' amount =>
      cases hkey
      exact hasked
    | _ => cases hkey
  have hmet := checkDemand_eq_ok.mp hdemand (Bytes.ofText key) hargs
  rw [hkind, Bytes.lossyText_ofText] at hmet
  exact hmet

/-- A command that passed the checks is guarded, unless it is a recorded change or a copy. -/
lemma guarded_of_check {v : Verb} (hasked : command.AskedBy v r.args)
    (hdemand : n.checkDemand session v.descriptor.demand r.args = .ok ())
    (hreplay : v ≠ .replay) (hreplace : v ≠ .replaceAll) :
    command.Guarded n.store session.db := by
  cases command with
  | edit op =>
    cases op
    case getSet key data => exact typeOf_of_check hasked rfl hdemand
    case add key amount => exact typeOf_of_check hasked rfl hdemand
    all_goals exact trivial
  | decrement key amount => exact typeOf_of_check hasked rfl hdemand
  | replay envelope => exact hreplay hasked
  | replaceAll version data => exact hreplace hasked
  | _ => exact trivial

section Dispatch

variable (around : Surroundings) (session) {db key : String}

/-- Only requests that write a key whatever it holds change its type. -/
lemma rewrites_of_retyped (hreplay : r.name ≠ Verb.replay.name)
    (hreplace : r.name ≠ Verb.replaceAll.name) (hbefore : n.store.has db key)
    (hafter : (n.dispatch around session r).2.1.store.has db key)
    (htype : (n.dispatch around session r).2.1.store.typeOf db key ≠ n.store.typeOf db key) :
    db = session.db ∧ r.Rewrites key := by
  obtain ⟨value, hvalue⟩ := (Store.has_iff _ db key).mp hafter
  rw [Store.typeOf_of_value? hvalue] at htype
  rcases n.untouched_or_ran around session r with
    huntouched | ⟨v, command, rest, hpassed, hnamed, hrun, -, hleft⟩
  · rw [(huntouched.contents db key).1] at hvalue
    exact absurd (Store.typeOf_of_value? hvalue).symm htype
  · have hname := Verb.name_of_ofName? hnamed
    obtain ⟨-, -, hdemand⟩ := passes_of_check hpassed hnamed
    have hasked := Command.askedBy_of_run hrun
    have hguarded := guarded_of_check hasked hdemand
      (fun hv => hreplay (by rw [← hname, hv])) (fun hv => hreplace (by rw [← hname, hv]))
    by_contra hrewrites
    have hretypes : ¬ command.Retypes session.db db key :=
      fun hretypes => hrewrites (hasked.rewrites hname hretypes)
    rw [hleft] at hvalue
    exact htype ((n.withStore n.store.recordOperation).type_run around session hguarded hbefore
      hretypes hvalue)

/-- Requests that write strings overwrite no list and no set. -/
lemma value_of_stringWriter (hwriter : r.name ∈ Verb.stringWriters.map Verb.name)
    (hheld : n.store.typeOf db key = .list ∨ n.store.typeOf db key = .set) :
    (n.dispatch around session r).2.1.store.value? db key = n.store.value? db key := by
  rcases n.untouched_or_ran around session r with
    huntouched | ⟨v, command, rest, hpassed, hnamed, hrun, -, hleft⟩
  · exact (huntouched.contents db key).1
  · obtain ⟨-, -, hdemand⟩ := passes_of_check hpassed hnamed
    obtain ⟨w, hw, hwname⟩ := List.mem_map.mp hwriter
    obtain rfl : w = v := by
      rwa [← hwname, Verb.ofName?_name, Option.some_inj] at hnamed
    obtain ⟨written, hwritten⟩ := Command.yields_stringKey hw _ _ _ hrun
    have hfound := typeOf_of_check (Command.askedBy_of_run hrun) hwritten hdemand
    rw [hleft]
    exact (n.withStore n.store.recordOperation).value_run_of_stringKey around session hwritten
      hfound hheld

end Dispatch

/-- **Types of keys are stable.**  After a client's request other than DO and REPLACEDB:

* a key of another type than before belongs to the database of the session, and the request is one
  that writes it whatever it holds;
* INCR, INCRBY, DECR, DECRBY, GETSET and SETNX have overwritten no list and no set;
* an error means that nothing was overwritten. -/
theorem types_are_stable (n : Node) (around : Surroundings) (session : Session) (r : Request)
    (hreplay : r.name ≠ Verb.replay.name) (hreplace : r.name ≠ Verb.replaceAll.name) :
    let left := (n.dispatch around session r).2.1.store
    (∀ db key, n.store.has db key → left.has db key →
      left.typeOf db key ≠ n.store.typeOf db key → db = session.db ∧ r.Rewrites key) ∧
    (r.name ∈ Verb.stringWriters.map Verb.name → ∀ db key,
      n.store.typeOf db key = .list ∨ n.store.typeOf db key = .set →
      left.value? db key = n.store.value? db key) ∧
    ((∃ message, (n.dispatch around session r).1 = .error message) → ∀ db key,
      left.value? db key = n.store.value? db key) := by
  refine ⟨?_, ?_, ?_⟩
  · intro db key hbefore hafter htype
    exact rewrites_of_retyped session around hreplay hreplace hbefore hafter htype
  · intro hwriter db key hheld
    exact value_of_stringWriter session around hwriter hheld
  · rintro ⟨message, herror⟩ db key
    exact ((n.untouched_of_error around session herror).contents db key).1

/-- An authority that holds a list. -/
def listing : Node :=
  let empty := new { Config.default with authority := true } (Directory.empty []) 0
  empty.withStore (empty.store.push "0" "l" [] .head).2

/-- Exchanging the list for a string is refused; writing a string over it is not, and is what the
request says that it does. -/
theorem types_are_stable_listing :
    let exchange : Request := ⟨"getset", [Bytes.ofText "l", []]⟩
    let write : Request := ⟨"set", [Bytes.ofText "l", []]⟩
    (listing.dispatch .alone (Session.new true) exchange).2.1.store.value? "0" "l" =
        some (.list [[]]) ∧
      (listing.dispatch .alone (Session.new true) write).2.1.store.typeOf "0" "l" = .string ∧
      write.Rewrites "l" := by
  intro exchange write
  have hheld : listing.store.value? "0" "l" = some (.list [[]]) := by decide +kernel
  have hlist : listing.store.typeOf "0" "l" = .list := Store.typeOf_of_value? hheld
  have hwritten :
      (listing.dispatch .alone (Session.new true) write).2.1.store.typeOf "0" "l" = .string := by
    decide +kernel
  obtain ⟨-, hkept, -⟩ :=
    types_are_stable listing .alone (Session.new true) exchange (by decide) (by decide)
  obtain ⟨hretyped, -, -⟩ :=
    types_are_stable listing .alone (Session.new true) write (by decide) (by decide)
  have hrewrites := hretyped "0" "l" (Store.has_iff_typeOf.mpr (by rw [hlist]; decide))
    (Store.has_iff_typeOf.mpr (by rw [hwritten]; decide)) (by rw [hwritten, hlist]; decide)
  exact ⟨(hkept (by decide) "0" "l" (.inl hlist)).trans hheld, hwritten, hrewrites.2⟩

end Node

end ReplicatedStore
