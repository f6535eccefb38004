import ReplicatedStore.Command.Parser
import ReplicatedStore.Proofs.Store.Footprint
import ReplicatedStore.Proofs.Text.Decimal

/-!
# Recorded commands are read back

A replica reads the command and the arguments that a change was recorded with, as it reads any
request.  `ofRequest_recorded` says that it finds the operation that was recorded, as long as the
operation is *recordable*: its integers have 64 bits, and it names a key where one must be named.

Everything that clients can ask for is recordable, because it was read from a request itself
(`yields_isChange`), and an operation is recorded as a recordable one (`recordable_recorded`).
-/

namespace ReplicatedStore

namespace Operation

/-- Can the arguments of the operation be read back? -/
def Recordable : Operation → Prop
  | .add _ amount => Decimal.fitsSigned64 amount
  | .expire _ seconds => Decimal.fitsSigned64 seconds
  | .trim _ start stop => Decimal.fitsSigned64 start ∧ Decimal.fitsSigned64 stop
  | .setItem _ index _ => Decimal.fitsSigned64 index
  | .removeItems _ count _ => Decimal.fitsSigned64 count
  | .remove keys | .combineInto _ _ keys => keys ≠ []
  | _ => True

/-- The command that the operation on a database is read back as. -/
def toCommand (db : String) : Operation → Command
  | .select => .select db
  | op => .edit op

/-- The verb that the operation is recorded with. -/
def verb : Operation → Verb
  | .set _ _ => .set
  | .getSet _ _ => .getSet
  | .setNew _ _ => .setNew
  | .add _ _ => .incrementBy
  | .remove _ => .remove
  | .rename _ _ => .rename
  | .renameNew _ _ => .renameNew
  | .move _ _ => .move
  | .expire _ _ => .expire
  | .flush => .flush
  | .flushAll => .flushAll
  | .select => .select
  | .push _ _ .head => .pushHead
  | .push _ _ .tail => .pushTail
  | .trim _ _ _ => .trim
  | .setItem _ _ _ => .setItem
  | .removeItems _ _ _ => .removeItems
  | .pop _ .head => .popHead
  | .pop _ .tail => .popTail
  | .addMember _ _ => .addMember
  | .removeMember _ _ => .removeMember
  | .popMember _ => .popMember
  | .moveMember _ _ _ => .moveMember
  | .combineInto .intersection _ _ => .intersectInto
  | .combineInto .union _ _ => .uniteInto
  | .combineInto .difference _ _ => .subtractInto

lemma name_verb (op : Operation) : op.verb.name = op.command := by
  cases op
  case push key item side => cases side <;> rfl
  case pop key side => cases side <;> rfl
  case combineInto algebra target keys => cases algebra <;> rfl
  all_goals rfl

/-- Replicas run every recorded operation. -/
lemma isReplayable_verb (op : Operation) : op.verb.isReplayable := by
  cases op
  case push key item side => cases side <;> rfl
  case pop key side => cases side <;> rfl
  case combineInto algebra target keys => cases algebra <;> rfl
  all_goals rfl

end Operation

namespace Verb

/-- A verb is found by its name. -/
lemma ofName?_name (v : Verb) : ofName? v.name = some v := by
  cases v <;> rfl

/-- The names of verbs are in small letters. -/
lemma lowercase_name (v : Verb) : Text.lowercase v.name = v.name := by
  cases v <;> decide +kernel

end Verb

namespace Command

/-! ## Reading what was written -/

/-- The reading finds `a` in the arguments and leaves the rest. -/
def Finds {α : Type} (reading : Reading α) (args : List Bytes) (a : α) (rest : List Bytes) :
    Prop :=
  reading.run args = .ok (a, rest)

section Finds

variable {α β : Type} {args rest rest' : List Bytes}

lemma Finds.pure (a : α) (args : List Bytes) : Finds (Pure.pure a) args a args := rfl

lemma Finds.bind {reading : Reading α} {a : α} (h : Finds reading args a rest)
    {next : α → Reading β} {b : β} (hnext : Finds (next a) rest b rest') :
    Finds (reading >>= next) args b rest' := by
  unfold Finds at h hnext ⊢
  rw [StateT.run_bind, h]
  exact hnext

/-- What comes last is handed over as it is. -/
lemma Finds.map {reading : Reading α} {a : α} (h : Finds reading args a rest) (f : α → β) :
    Finds (do return f (← reading)) args (f a) rest :=
  h.bind (.pure _ _)

lemma finds_nextData (arg : Bytes) (rest : List Bytes) : Finds nextData (arg :: rest) arg rest :=
  rfl

lemma textOf_ofText (text : String) : textOf (Bytes.ofText text) = .ok text := by
  rw [textOf, Bytes.text?_ofText]

lemma finds_nextText (text : String) (rest : List Bytes) :
    Finds nextText (Bytes.ofText text :: rest) text rest := by
  refine (finds_nextData _ rest).bind ?_
  unfold Finds
  rw [textOf_ofText]
  rfl

lemma integerOf_numeral (a : Decimal.Numeral) : integerOf a.text = .ok a.value := by
  rw [integerOf, a.reads]

lemma integerOf_ofInt {i : Int} (h : Decimal.fitsSigned64 i) :
    integerOf (Decimal.ofInt i) = .ok i :=
  integerOf_numeral (.ofInt h)

lemma finds_numeral (a : Decimal.Numeral) (rest : List Bytes) :
    Finds nextInteger (Bytes.ofText a.text :: rest) a.value rest := by
  refine (finds_nextText _ rest).bind ?_
  unfold Finds
  rw [integerOf_numeral a]
  rfl

lemma finds_nextInteger {i : Int} (h : Decimal.fitsSigned64 i) (rest : List Bytes) :
    Finds nextInteger (Bytes.ofText (Decimal.ofInt i) :: rest) i rest :=
  finds_numeral (.ofInt h) rest

lemma finds_nextExpiration {i : Int} (h : Decimal.fitsSigned64 i) (rest : List Bytes) :
    Finds nextExpiration (Bytes.ofText (Decimal.ofInt i) :: rest) i rest := by
  refine (finds_nextText _ rest).bind ?_
  unfold Finds
  rw [integerOf_ofInt h]
  rfl

lemma mapM_textOf (texts : List String) :
    (texts.map Bytes.ofText).mapM (fun arg => (liftM (textOf arg) : Reading String)) =
      Pure.pure texts := by
  induction texts with
  | nil => rfl
  | cons text rest ih =>
    rw [List.map_cons, List.mapM_cons, ih, textOf_ofText]
    rfl

lemma finds_remainingTexts (first : String) (others : List String) :
    Finds remainingTexts ((first :: others).map Bytes.ofText) (first :: others) [] := by
  refine (finds_nextText first _).bind ?_
  unfold Finds
  simp only [StateT.run_bind, StateT.run_get, pure_bind, mapM_textOf]
  rfl

end Finds

/-- What the reading finds is the command of the verb. -/
lemma Finds.ofArguments {v : Verb} {args rest : List Bytes} {command : Command}
    (h : Finds (readArguments v) args command rest) : ofArguments v args = .ok command := by
  unfold Finds at h
  rw [Command.ofArguments, StateT.run'_eq, h]
  rfl

/-- The arguments that an operation is recorded with are read back. -/
lemma finds_recorded {op : Operation} (h : op.Recordable) (db : String) :
    ∃ rest, Finds (readArguments op.verb) (op.arguments db) (op.toCommand db) rest := by
  cases op
  case set key data => exact ⟨_, (finds_nextText key _).bind ((finds_nextData data []).map _)⟩
  case getSet key data => exact ⟨_, (finds_nextText key _).bind ((finds_nextData data []).map _)⟩
  case setNew key data => exact ⟨_, (finds_nextText key _).bind ((finds_nextData data []).map _)⟩
  case add key amount => exact ⟨_, (finds_nextText key _).bind ((finds_nextInteger h []).map _)⟩
  case remove keys =>
    obtain ⟨first, others, rfl⟩ := List.exists_cons_of_ne_nil h
    exact ⟨_, (finds_remainingTexts first others).map _⟩
  case rename source target =>
    exact ⟨_, (finds_nextText source _).bind ((finds_nextText target []).map _)⟩
  case renameNew source target =>
    exact ⟨_, (finds_nextText source _).bind ((finds_nextText target []).map _)⟩
  case move key target =>
    exact ⟨_, (finds_nextText key _).bind ((finds_nextText target []).map _)⟩
  case expire key seconds =>
    exact ⟨_, (finds_nextText key _).bind ((finds_nextExpiration h []).map _)⟩
  case flush => exact ⟨_, .pure _ _⟩
  case flushAll => exact ⟨_, .pure _ _⟩
  case select => exact ⟨_, (finds_nextText db []).map _⟩
  case push key item side =>
    cases side <;> exact ⟨_, (finds_nextText key _).bind ((finds_nextData item []).map _)⟩
  case trim key start stop =>
    exact ⟨_, (finds_nextText key _).bind
      ((finds_nextInteger h.1 _).bind ((finds_nextInteger h.2 []).map _))⟩
  case setItem key index item =>
    exact ⟨_, (finds_nextText key _).bind
      ((finds_nextInteger h _).bind ((finds_nextData item []).map _))⟩
  case removeItems key count item =>
    exact ⟨_, (finds_nextText key _).bind
      ((finds_nextInteger h _).bind ((finds_nextData item []).map _))⟩
  case pop key side => cases side <;> exact ⟨_, (finds_nextText key []).map _⟩
  case addMember key member =>
    exact ⟨_, (finds_nextText key _).bind ((finds_nextData member []).map _)⟩
  case removeMember key member =>
    exact ⟨_, (finds_nextText key _).bind ((finds_nextData member []).map _)⟩
  case popMember key => exact ⟨_, (finds_nextText key []).map _⟩
  case moveMember source target member =>
    exact ⟨_, (finds_nextText source _).bind
      ((finds_nextText target _).bind ((finds_nextData member []).map _))⟩
  case combineInto algebra target keys =>
    obtain ⟨first, others, rfl⟩ := List.exists_cons_of_ne_nil h
    cases algebra <;>
      exact ⟨_, (finds_nextText target _).bind ((finds_remainingTexts first others).map _)⟩

/-- **A recorded operation is read back** from the command and the arguments it is recorded with. -/
theorem ofRequest_recorded {op : Operation} (h : op.Recordable) (db : String) :
    ofRequest (Request.of op.command (op.arguments db)) = .ok (op.toCommand db) := by
  obtain ⟨rest, hfinds⟩ := finds_recorded h db
  rw [ofRequest, Request.of, ← op.name_verb, Verb.lowercase_name]
  dsimp only
  rw [Verb.ofName?_name]
  exact hfinds.ofArguments

/-! ## What was found, told from the arguments -/

section Found

variable {α β : Type} {args rest : List Bytes}

/-- A reading in two parts, taken apart. -/
lemma run_bind_eq_ok {reading : Reading α} {next : α → Reading β} {b : β}
    (h : (reading >>= next).run args = .ok (b, rest)) :
    ∃ a left, reading.run args = .ok (a, left) ∧ (next a).run left = .ok (b, rest) := by
  rw [StateT.run_bind] at h
  cases hfirst : reading.run args with
  | error fault =>
    rw [hfirst] at h
    cases h
  | ok found =>
    rw [hfirst] at h
    exact ⟨found.1, found.2, rfl, h⟩

/-- A text that was read was the first argument. -/
lemma eq_of_nextText {text : String} (h : nextText.run args = .ok (text, rest)) :
    args = Bytes.ofText text :: rest := by
  obtain ⟨first, others, hfirst, htextOf⟩ := run_bind_eq_ok h
  cases args with
  | nil => cases hfirst
  | cons arg tail =>
    cases hfirst
    unfold textOf at htextOf
    cases htext : first.text? with
    | none =>
      rw [htext] at htextOf
      cases htextOf
    | some found =>
      rw [htext] at htextOf
      cases htextOf
      rw [Bytes.eq_ofText_of_text? htext]

/-- What is read after a text, which was the first argument. -/
lemma run_nextText_eq_ok {next : String → Reading α} {a : α}
    (h : (nextText >>= next).run args = .ok (a, rest)) :
    ∃ text others, args = Bytes.ofText text :: others ∧
      (next text).run others = .ok (a, rest) := by
  obtain ⟨text, others, htext, hrun⟩ := run_bind_eq_ok h
  exact ⟨text, others, eq_of_nextText htext, hrun⟩

/-- A text that denotes an integer is a numeral. -/
lemma read?_of_integerOf {text : String} {i : Int} (h : integerOf text = .ok i) :
    Decimal.read? Decimal.signed64 (Bytes.ofText text) = some i := by
  unfold integerOf at h
  cases hread : Decimal.read? Decimal.signed64 (Bytes.ofText text) with
  | none =>
    rw [hread] at h
    cases h
  | some value =>
    rw [hread] at h
    cases h
    rfl

lemma fits_of_integerOf {text : String} {i : Int} (h : integerOf text = .ok i) :
    Decimal.fitsSigned64 i :=
  Decimal.fitsSigned64_of_read? (read?_of_integerOf h)

/-- An integer that was read was a numeral that came first. -/
lemma eq_of_nextInteger {i : Int} (h : nextInteger.run args = .ok (i, rest)) :
    ∃ a : Decimal.Numeral, a.value = i ∧ args = Bytes.ofText a.text :: rest := by
  obtain ⟨text, others, rfl, hrun⟩ := run_nextText_eq_ok h
  cases hread : integerOf text with
  | error fault =>
    rw [hread] at hrun
    cases hrun
  | ok value =>
    rw [hread] at hrun
    cases hrun
    exact ⟨⟨text, i, read?_of_integerOf hread⟩, rfl, rfl⟩

end Found

/-! ## What requests ask for -/

/-- Whatever the reading finds, in any arguments, has the property. -/
def Yields {α : Type} (reading : Reading α) (p : α → Prop) : Prop :=
  ∀ args a rest, reading.run args = .ok (a, rest) → p a

section Yields

variable {α β : Type}

lemma Yields.pure {p : α → Prop} {a : α} (h : p a) : Yields (Pure.pure a) p := by
  intro args a' rest hrun
  cases hrun
  exact h

lemma Yields.bind {reading : Reading α} {p : α → Prop} (h : Yields reading p)
    {next : α → Reading β} {q : β → Prop} (hnext : ∀ a, p a → Yields (next a) q) :
    Yields (reading >>= next) q := by
  intro args b rest hrun
  obtain ⟨a, left, hfirst, hsecond⟩ := run_bind_eq_ok hrun
  exact hnext a (h args a left hfirst) left b rest hsecond

/-- What comes first may be anything. -/
lemma Yields.after (reading : Reading α) {next : α → Reading β} {q : β → Prop}
    (hnext : ∀ a, Yields (next a) q) : Yields (reading >>= next) q :=
  Yields.bind (fun _ _ _ _ => trivial : Yields reading fun _ => True) fun a _ => hnext a

lemma Yields.map {reading : Reading α} {p : α → Prop} (h : Yields reading p) {f : α → β}
    {q : β → Prop} (hf : ∀ a, p a → q (f a)) : Yields (do return f (← reading)) q :=
  h.bind fun a ha => .pure (hf a ha)

lemma yields_nextInteger : Yields nextInteger fun i => Decimal.fitsSigned64 i := by
  intro args i rest hrun
  obtain ⟨a, rfl, -⟩ := eq_of_nextInteger hrun
  exact a.fits

lemma yields_nextExpiration : Yields nextExpiration fun i => Decimal.fitsSigned64 i := by
  refine .after nextText fun text => ?_
  intro args i rest hrun
  cases hread : integerOf text with
  | error fault =>
    rw [hread] at hrun
    cases hrun
  | ok value =>
    rw [hread] at hrun
    cases hrun
    exact fits_of_integerOf hread

lemma yields_remainingTexts : Yields remainingTexts fun texts => texts ≠ [] :=
  .after nextText fun _ => .after _ fun _ => .after _ fun _ => .after _ fun _ =>
    .pure (List.cons_ne_nil _ _)

/-- An address is read as a command to attach the replica that listens there. -/
lemma yields_readAttach {p : Command → Prop} (h : ∀ replica, p (.attach replica)) (name : String) :
    Yields (readAttach name) p := by
  refine .after nextText fun address => ?_
  intro args command rest hrun
  cases hread : Address.ofText? address with
  | none =>
    rw [hread] at hrun
    cases hrun
  | some replica =>
    rw [hread] at hrun
    cases hrun
    exact h replica

end Yields

/-- Is it a change that clients can ask for, on a database of the store? -/
def IsChange (s : Store) (db : String) : Command → Prop
  | .edit op => op.Recordable ∧ op.Suited s db
  | .decrement _ _ | .select _ => True
  | _ => False

end Command

/-- Does the verb ask for a change?  Going to another database is one. -/
def Verb.asksChange (v : Verb) : Bool :=
  v.descriptor.access == .write || v == .select

namespace Command

/-- Whatever is read for a verb that asks for a change is one. -/
lemma yields_isChange {v : Verb} (hv : v.asksChange) (hv' : v ≠ .setNew) (s : Store)
    (db : String) : Yields (readArguments v) (IsChange s db) := by
  cases v
  case set => exact .after _ fun _ => .after _ fun _ => .pure ⟨trivial, trivial⟩
  case setNew => exact absurd rfl hv'
  case getSet => exact .after _ fun _ => .after _ fun _ => .pure ⟨trivial, trivial⟩
  case increment => exact .after _ fun _ => .pure ⟨rfl, trivial⟩
  case incrementBy =>
    exact .after _ fun _ => yields_nextInteger.map fun _ hfits => ⟨hfits, trivial⟩
  case decrement => exact .after _ fun _ => .pure ⟨rfl, trivial⟩
  case decrementBy => exact .after _ fun _ => .after _ fun _ => .pure trivial
  case remove => exact yields_remainingTexts.map fun _ hkeys => ⟨hkeys, trivial⟩
  case removeList => exact yields_remainingTexts.map fun _ hkeys => ⟨hkeys, trivial⟩
  case rename => exact .after _ fun _ => .after _ fun _ => .pure ⟨trivial, trivial⟩
  case renameNew => exact .after _ fun _ => .after _ fun _ => .pure ⟨trivial, trivial⟩
  case move => exact .after _ fun _ => .after _ fun _ => .pure ⟨trivial, trivial⟩
  case expire =>
    exact .after _ fun _ => yields_nextExpiration.map fun _ hfits => ⟨hfits, trivial⟩
  case pushHead => exact .after _ fun _ => .after _ fun _ => .pure ⟨trivial, trivial⟩
  case pushTail => exact .after _ fun _ => .after _ fun _ => .pure ⟨trivial, trivial⟩
  case trim =>
    exact .after _ fun _ => yields_nextInteger.bind fun _ hstart =>
      yields_nextInteger.map fun _ hstop => ⟨⟨hstart, hstop⟩, trivial⟩
  case setItem =>
    exact .after _ fun _ => yields_nextInteger.bind fun _ hindex =>
      .after _ fun _ => .pure ⟨hindex, trivial⟩
  case removeItems =>
    exact .after _ fun _ => yields_nextInteger.bind fun _ hcount =>
      .after _ fun _ => .pure ⟨hcount, trivial⟩
  case popHead => exact .after _ fun _ => .pure ⟨trivial, trivial⟩
  case popTail => exact .after _ fun _ => .pure ⟨trivial, trivial⟩
  case addMember => exact .after _ fun _ => .after _ fun _ => .pure ⟨trivial, trivial⟩
  case removeMember => exact .after _ fun _ => .after _ fun _ => .pure ⟨trivial, trivial⟩
  case intersectInto =>
    exact .after _ fun _ => yields_remainingTexts.map fun _ hkeys => ⟨hkeys, trivial⟩
  case uniteInto =>
    exact .after _ fun _ => yields_remainingTexts.map fun _ hkeys => ⟨hkeys, trivial⟩
  case subtractInto =>
    exact .after _ fun _ => yields_remainingTexts.map fun _ hkeys => ⟨hkeys, trivial⟩
  case popMember => exact .after _ fun _ => .pure ⟨trivial, trivial⟩
  case moveMember =>
    exact .after _ fun _ => .after _ fun _ => .after _ fun _ => .pure ⟨trivial, trivial⟩
  case select => exact .after _ fun _ => .pure trivial
  case flush => exact .pure ⟨trivial, trivial⟩
  case flushAll => exact .pure ⟨trivial, trivial⟩
  all_goals cases hv

/-- A command comes out of the reading of its verb. -/
lemma run_of_ofArguments {v : Verb} {args : List Bytes} {command : Command}
    (h : ofArguments v args = .ok command) :
    ∃ rest, (readArguments v).run args = .ok (command, rest) := by
  rw [ofArguments, StateT.run'_eq] at h
  cases hrun : (readArguments v).run args with
  | error fault =>
    rw [hrun] at h
    cases h
  | ok found =>
    rw [hrun] at h
    obtain rfl : found.1 = command := Except.ok.inj h
    exact ⟨found.2, rfl⟩

/-- The key that is written only if it does not exist is the first argument. -/
lemma setNew_of_ofArguments {args : List Bytes} {command : Command}
    (h : ofArguments .setNew args = .ok command) :
    ∃ key data rest, args = Bytes.ofText key :: rest ∧ command = .edit (.setNew key data) := by
  obtain ⟨left, hrun⟩ := run_of_ofArguments h
  obtain ⟨key, others, hargs, hrun⟩ := run_nextText_eq_ok hrun
  obtain ⟨data, others', hdata, hrun⟩ := run_bind_eq_ok hrun
  cases hrun
  exact ⟨key, data, others, hargs, rfl⟩

end Command

namespace Operation

/-- An operation that can be read is recorded as one that can be read. -/
lemma recordable_recorded {op recorded : Operation} {s : Store} {pick : Nat} {db : String}
    {edits : List Store.Edit} (h : op.outcome s pick db = .made recorded edits)
    (hop : op.Recordable) : recorded.Recordable := by
  cases op <;> simp only [outcome, refusing] at h
  all_goals repeat' split at h
  all_goals cases h
  all_goals exact hop

/-- It is recorded as one that is as suited to the store. -/
lemma suited_recorded {op recorded : Operation} {s : Store} {pick : Nat} {db : String}
    {edits : List Store.Edit} (h : op.outcome s pick db = .made recorded edits)
    (hop : op.Suited s db) : recorded.Suited s db := by
  cases op <;> simp only [outcome, refusing] at h
  all_goals repeat' split at h
  all_goals cases h
  all_goals exact hop

end Operation

end ReplicatedStore
