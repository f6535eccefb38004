import ReplicatedStore.Proofs.Store.Edit
import ReplicatedStore.Store.Operation

/-!
# How operations end

`Operation.outcome` says once what an operation can do to a store: it is refused, after it may have
made a database exist, or it makes a list of edits and commits one change.  Everything later files
say about operations is derived from `perform_outcome`, which proves that this is what
`Operation.perform` does.

The change that is committed is an operation again, the *recorded* one, written as a command
(`Operation.command`, `Operation.arguments`).  It is not always the operation itself: an exchanged
string is recorded as a written one, and a member that was picked as the removal of that member.
-/

open Std (ExtTreeMap ExtTreeSet)

namespace ReplicatedStore

open Store (Edit)

namespace Operation

/-! ## Operations as commands -/

/-- The command that an operation is recorded as. -/
def command : Operation → String
  | .set _ _ => "set"
  | .getSet _ _ => "getset"
  | .setNew _ _ => "setnx"
  | .add _ _ => "incrby"
  | .remove _ => "del"
  | .rename _ _ => "rename"
  | .renameNew _ _ => "renamenx"
  | .move _ _ => "move"
  | .expire _ _ => "expire"
  | .flush => "flushdb"
  | .flushAll => "flushall"
  | .select => "select"
  | .push _ _ .head => "lpush"
  | .push _ _ .tail => "rpush"
  | .trim _ _ _ => "ltrim"
  | .setItem _ _ _ => "lset"
  | .removeItems _ _ _ => "lrem"
  | .pop _ .head => "lpop"
  | .pop _ .tail => "rpop"
  | .addMember _ _ => "sadd"
  | .removeMember _ _ => "srem"
  | .popMember _ => "spop"
  | .moveMember _ _ _ => "smove"
  | .combineInto op _ _ => op.storeCommand

/-- The arguments that an operation on the database `db` is recorded with. -/
def arguments (db : String) : Operation → List Bytes
  | .set key data | .getSet key data | .setNew key data => [Bytes.ofText key, data]
  | .add key amount => [Bytes.ofText key, Bytes.ofText (Decimal.ofInt amount)]
  | .remove keys => keys.map Bytes.ofText
  | .rename source target | .renameNew source target =>
    [Bytes.ofText source, Bytes.ofText target]
  | .move key target => [Bytes.ofText key, Bytes.ofText target]
  | .expire key seconds => [Bytes.ofText key, Bytes.ofText (Decimal.ofInt seconds)]
  | .flush | .flushAll => []
  | .select => [Bytes.ofText db]
  | .push key item _ => [Bytes.ofText key, item]
  | .trim key start stop =>
    [Bytes.ofText key, Bytes.ofText (Decimal.ofInt start), Bytes.ofText (Decimal.ofInt stop)]
  | .setItem key index item => [Bytes.ofText key, Bytes.ofText (Decimal.ofInt index), item]
  | .removeItems key count item => [Bytes.ofText key, Bytes.ofText (Decimal.ofInt count), item]
  | .pop key _ | .popMember key => [Bytes.ofText key]
  | .addMember key member | .removeMember key member => [Bytes.ofText key, member]
  | .moveMember source target member => [Bytes.ofText source, Bytes.ofText target, member]
  | .combineInto _ target keys => (target :: keys).map Bytes.ofText

/-- The change that an operation on a database is recorded as. -/
def toChange (op : Operation) (db : String) (version : Nat) : Change :=
  ⟨db, op.command, op.arguments db, some version⟩

/-! ## Outcomes -/

/-- How an operation ends. -/
inductive Outcome where
  /-- It is refused, and leaves the edits. -/
  | refused (fault : StoreError) (edits : List Edit)
  /-- It makes the edits and commits the recorded operation. -/
  | made (recorded : Operation) (edits : List Edit)

/-- The edits that write a string, or any other value, over whatever a key held. -/
def overwriting (db key : String) (value : Value) : List Edit :=
  [.clear db key, .put db key value]

/-- The edits that put the value of one key under another. -/
def transferring (db source target : String) (value : Value) : List Edit :=
  .discard db source :: overwriting db target value

/-- The edits that take a member out of the set that was found. -/
def erasing (db key : String) (found : Option Members) (member : Bytes) : List Edit :=
  match found with
  | some members => [.put db key (.set (members.erase member))]
  | none => []

/-- The list after an item was added at one end. -/
def lengthened (item : Bytes) (items : List Bytes) : ListEnd → List Bytes
  | .head => item :: items
  | .tail => items ++ [item]

/-- The list after the item at one end was taken off. -/
def shortened (items : List Bytes) : ListEnd → List Bytes
  | .head => items.tail
  | .tail => items.dropLast

/-- What a set holds once the member moved to it from `source`, where `members` was found: a set
that is source and target at once has lost the member already. -/
def joined (s : Store) (db source target : String) (members : Members) (member : Bytes) : Members :=
  (if source = target then members.erase member
    else ((s.set? db target).toOption.join).getD ∅).insert member

/-- How a refusal ends an operation. -/
def refusing {α : Type} (result : Except StoreError α) (go : α → Outcome) : Outcome :=
  match result with
  | .error fault => .refused fault []
  | .ok a => go a

/-- How the operation on a database ends, where `pick` picks a member. -/
def outcome (s : Store) (pick : Nat) (db : String) (op : Operation) : Outcome :=
  match op with
  | .set key data | .getSet key data =>
    .made (.set key data) (overwriting db key (.string data))
  | .setNew key data =>
    .made op (if s.has db key then [] else overwriting db key (.string data))
  | .add key amount =>
    let sum := s.counter db key + amount
    if Decimal.fitsSigned64 sum then
      .made op (overwriting db key (.string (Bytes.ofText (Decimal.ofInt sum))))
    else .refused .notAnInteger []
  | .remove keys => .made op (keys.map (.discard db))
  | .rename source target =>
    if source = target then .refused .sameName []
    else match s.value? db source with
      | none => .refused (.missing source) [.ensure db]
      | some value => .made op (transferring db source target value)
  | .renameNew source target =>
    if s.has db target then .made op []
    else if source = target then .refused .sameName []
    else match s.value? db source with
      | none => .refused (.missing source) [.ensure db]
      | some value => .made op [.discard db source, .put db target value]
  | .move key target =>
    match s.value? db key with
    | none => .refused (.notKnown key db) [.ensure target]
    | some value =>
      if s.has target key then .refused (.alreadyExists key target) [.ensure target]
      else .made op [.ensure target, .discard db key, .put target key value]
  | .expire key seconds =>
    if s.has db key then
      .made op (if (s.deadline? db key).isSome then []
        else [.schedule db key (seconds.toNat * 1000)])
    else .refused .noSuchKey []
  | .flush => .made op [.flush db]
  | .flushAll => .made op [.flushAll]
  | .select => .made op [.ensure db]
  | .push key item side =>
    refusing (s.list? db key) fun found =>
      .made op [.put db key (.list (lengthened item (found.getD []) side))]
  | .trim key start stop =>
    refusing (s.list? db key) fun
      | none => .refused .noSuchKey []
      | some items => .made op [.put db key (.list (Store.slice items start stop))]
  | .setItem key index item =>
    refusing (s.list? db key) fun
      | none => .refused .noSuchKey []
      | some items =>
        match ListIndex.position? items.length index with
        | none => .refused .indexOutOfRange []
        | some i => .made op [.put db key (.list (items.set i item))]
  | .removeItems key count item =>
    refusing (s.list? db key) fun
      | none => .refused .noSuchKey []
      | some items => .made op [.put db key (.list (Store.eraseCounted item count items))]
  | .pop key side =>
    refusing (s.list? db key) fun found =>
      .made op (match found with
        | some items => [.put db key (.list (shortened items side))]
        | none => [])
  | .addMember key member =>
    refusing (s.set? db key) fun found =>
      .made op [.put db key (.set ((found.getD ∅).insert member))]
  | .removeMember key member =>
    refusing (s.set? db key) fun found => .made op (erasing db key found member)
  | .popMember key =>
    refusing (s.set? db key) fun found =>
      let candidates := (found.getD ∅).toList
      match candidates[pick % candidates.length]? with
      | some member => .made (.removeMember key member) (erasing db key found member)
      | none => .made op []
  | .moveMember source target member =>
    refusing (s.set? db target) fun _ =>
      refusing (s.set? db source) fun
        | none => .made op []
        | some members =>
          .made op (.put db source (.set (members.erase member)) ::
            if members.contains member then
              [.put db target (.set (joined s db source target members member))]
            else [])
  | .combineInto algebra target keys =>
    .made op (overwriting db target (.set (s.combine algebra db keys)))

/-- The set at `target` once a member was taken out of the set at `source`. -/
lemma set?_put_set (s : Store) (db source target : String) (members : Members) :
    (s.put db source (.set members)).set? db target =
      if source = target then .ok (some members) else s.set? db target := by
  simp only [Store.set?, Store.value?_put]
  by_cases h : source = target
  · simp [h]
  · simp [h, Ne.symm h]

variable [Clock]

/-- What an outcome says of the answer of an operation and the store it leaves. -/
def Outcome.Ends (s : Store) (now : Nat) (db : String) (result : Attempt Answer) : Outcome → Prop
  | .refused fault edits => result = (.error fault, s.edit now edits)
  | .made recorded edits =>
    ∃ answer, result =
      (.ok answer, (s.edit now edits).commit db recorded.command (recorded.arguments db))

variable (s : Store) (now pick : Nat) (db : String)

/-! ## Operations end as their outcome says -/

-- Every lemma of this part opens both; their equations are derived once, here.
attribute [local simp] outcome perform

lemma discardAll_eq (keys : List String) :
    (s.discardAll db keys).2 = s.edit now (keys.map (.discard db)) := by
  induction keys generalizing s with
  | nil => rfl
  | cons key rest ih => exact ih _

lemma rename_ends (source target : String) :
    ((rename source target).outcome s pick db).Ends s now db
      ((rename source target).perform s now pick db) := by
  simp only [outcome, perform, maybe, Store.rename]
  split
  · rfl
  · cases s.value? db source with
    | none => rfl
    | some value => exact ⟨_, rfl⟩

lemma renameNew_ends (source target : String) :
    ((renameNew source target).outcome s pick db).Ends s now db
      ((renameNew source target).perform s now pick db) := by
  simp only [outcome, perform, maybe, Store.renameNew]
  split
  · exact ⟨_, rfl⟩
  · split
    · rfl
    · cases s.value? db source with
      | none => rfl
      | some value => exact ⟨_, rfl⟩

lemma move_ends (key target : String) :
    ((move key target).outcome s pick db).Ends s now db
      ((move key target).perform s now pick db) := by
  have hready : (s.ensure target).has target key = s.has target key := by simp [Store.has]
  simp only [outcome, perform, maybe, Store.move, hready]
  cases s.value? db key with
  | none => rfl
  | some value =>
    dsimp only
    split
    · rfl
    · exact ⟨_, rfl⟩

lemma expire_ends (key : String) (seconds : Int) :
    ((expire key seconds).outcome s pick db).Ends s now db
      ((expire key seconds).perform s now pick db) := by
  simp only [outcome, perform, maybe, Store.expire]
  split
  · refine ⟨.done, ?_⟩
    split <;> rfl
  · rfl

lemma push_ends (key : String) (item : Bytes) (side : ListEnd) :
    ((push key item side).outcome s pick db).Ends s now db
      ((push key item side).perform s now pick db) := by
  simp only [outcome, perform, maybe, Store.push]
  cases s.list? db key with
  | error fault => rfl
  | ok found => cases side <;> exact ⟨_, rfl⟩

lemma setItem_ends (key : String) (index : Int) (item : Bytes) :
    ((setItem key index item).outcome s pick db).Ends s now db
      ((setItem key index item).perform s now pick db) := by
  simp only [outcome, perform, maybe, Store.setItem]
  rcases s.list? db key with fault | _ | items
  · rfl
  · rfl
  · dsimp only [refusing]
    cases ListIndex.position? items.length index with
    | none => rfl
    | some i => exact ⟨_, rfl⟩

lemma pop_ends (key : String) (side : ListEnd) :
    ((pop key side).outcome s pick db).Ends s now db ((pop key side).perform s now pick db) := by
  simp only [outcome, perform, maybe, Store.pop]
  rcases s.list? db key with fault | _ | items
  · rfl
  all_goals cases side <;> exact ⟨_, rfl⟩

lemma popMember_ends (key : String) :
    ((popMember key).outcome s pick db).Ends s now db
      ((popMember key).perform s now pick db) := by
  simp only [outcome, perform, maybe, Store.popMember]
  cases s.set? db key with
  | error fault => rfl
  | ok found =>
    dsimp only [refusing]
    cases (found.getD ∅).toList[pick % (found.getD ∅).toList.length]? with
    | none => exact ⟨_, rfl⟩
    | some member => cases found <;> exact ⟨_, rfl⟩

lemma moveMember_ends (source target : String) (member : Bytes) :
    ((moveMember source target member).outcome s pick db).Ends s now db
      ((moveMember source target member).perform s now pick db) := by
  simp only [outcome, perform, maybe, Store.moveMember]
  cases htarget : s.set? db target with
  | error fault => rfl
  | ok held =>
    rcases s.set? db source with fault | _ | members
    · rfl
    · exact ⟨_, rfl⟩
    · refine ⟨.flag (members.contains member), ?_⟩
      cases hmoved : members.contains member with
      | false =>
        simp [Store.foundContains, Store.eraseMember, hmoved, Except.map, command, arguments,
          Edit.apply]
      | true =>
        simp only [Store.foundContains, Store.eraseMember, hmoved, if_true, set?_put_set, joined,
          htarget]
        split <;> rfl

/-- **What an operation does.**  It ends as its outcome says: refused, with nothing committed, or
made, with the one change that its outcome names committed after the edits. -/
theorem perform_outcome (op : Operation) :
    (op.outcome s pick db).Ends s now db (op.perform s now pick db) := by
  cases op with
  | set key data => exact ⟨_, rfl⟩
  | getSet key data => exact ⟨_, rfl⟩
  | setNew key data =>
    simp only [outcome, perform, always, Store.setNew]
    cases h : s.has db key <;> exact ⟨_, rfl⟩
  | add key amount =>
    simp only [outcome, perform, maybe, Store.add]
    split
    · exact ⟨_, rfl⟩
    · rfl
  | remove keys =>
    simp only [outcome, perform, always, Store.remove, discardAll_eq s now]
    exact ⟨_, rfl⟩
  | rename source target => exact rename_ends s now pick db source target
  | renameNew source target => exact renameNew_ends s now pick db source target
  | move key target => exact move_ends s now pick db key target
  | expire key seconds => exact expire_ends s now pick db key seconds
  | flush => exact ⟨_, rfl⟩
  | flushAll => exact ⟨_, rfl⟩
  | select => exact ⟨_, rfl⟩
  | push key item side => exact push_ends s now pick db key item side
  | trim key start stop =>
    simp only [outcome, perform, maybe, Store.trim]
    rcases s.list? db key with fault | _ | items
    · rfl
    · rfl
    · exact ⟨_, rfl⟩
  | setItem key index item => exact setItem_ends s now pick db key index item
  | removeItems key count item =>
    simp only [outcome, perform, maybe, Store.removeItems]
    rcases s.list? db key with fault | _ | items
    · rfl
    · rfl
    · exact ⟨_, rfl⟩
  | pop key side => exact pop_ends s now pick db key side
  | addMember key member =>
    simp only [outcome, perform, maybe, Store.addMember]
    cases s.set? db key with
    | error fault => rfl
    | ok found => exact ⟨_, rfl⟩
  | removeMember key member =>
    simp only [outcome, perform, maybe, Store.removeMember]
    cases s.set? db key with
    | error fault => rfl
    | ok found => cases found <;> exact ⟨_, rfl⟩
  | popMember key => exact popMember_ends s now pick db key
  | moveMember source target member => exact moveMember_ends s now pick db source target member
  | combineInto algebra target keys => exact ⟨_, rfl⟩

/-- The two ways in which an operation ends. -/
lemma perform_cases (op : Operation) :
    (∃ fault edits, op.outcome s pick db = .refused fault edits ∧
      op.perform s now pick db = (.error fault, s.edit now edits)) ∨
    ∃ recorded edits answer, op.outcome s pick db = .made recorded edits ∧
      op.perform s now pick db =
        (.ok answer, (s.edit now edits).commit db recorded.command (recorded.arguments db)) := by
  have hends := perform_outcome s now pick db op
  cases hout : op.outcome s pick db with
  | refused fault edits =>
    rw [hout] at hends
    exact .inl ⟨fault, edits, rfl, hends⟩
  | made recorded edits =>
    rw [hout] at hends
    obtain ⟨answer, hresult⟩ := hends
    exact .inr ⟨recorded, edits, answer, rfl, hresult⟩

/-- An operation that succeeds makes the edits of its outcome and commits one change. -/
lemma made_of_ok {s t : Store} {now pick : Nat} {db : String} {op : Operation} {answer : Answer}
    (h : op.perform s now pick db = (.ok answer, t)) :
    ∃ recorded edits, op.outcome s pick db = .made recorded edits ∧
      t = (s.edit now edits).commit db recorded.command (recorded.arguments db) := by
  rcases perform_cases s now pick db op with
    ⟨fault, edits, -, hresult⟩ | ⟨recorded, edits, answer', hout, hresult⟩
  · rw [hresult] at h
    cases congrArg Prod.fst h
  · rw [hresult] at h
    exact ⟨recorded, edits, hout, (congrArg Prod.snd h).symm⟩

end Operation

end ReplicatedStore
