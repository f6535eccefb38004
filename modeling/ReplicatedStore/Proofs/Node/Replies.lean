import ReplicatedStore.Proofs.Command.Asked
import ReplicatedStore.Proofs.Command.Quoted
import ReplicatedStore.Proofs.Node.Served
import ReplicatedStore.Proofs.Reply.RoundTrip

/-!
# One request, one reply on the wire

Whatever a node answers is read back from its octets as it is, unless it is an error whose message
contains a line end (`Node.reply_survives`).  Such a message quotes a text with a line end in it, so
it takes a request that has one in its name or in an argument; SORT alone also quotes what the store
holds.
-/

namespace ReplicatedStore

open Text (IsLine isLine_quote)

/-! ## What queries and operations answer -/

lemma Decimal.fitsSigned64_asSigned64 (n : Nat) : fitsSigned64 (asSigned64 n) := by
  have hword : n % 0x10000000000000000 < 0x10000000000000000 := Nat.mod_lt _ (by decide)
  unfold asSigned64
  dsimp only
  simp only [fitsSigned64, Bool.and_eq_true, decide_eq_true_eq]
  split
  · omega
  · omega

namespace Reply

lemma sendable_ok : ok.Sendable := by
  show IsLine "OK"
  decide

lemma sendable_ofOption (data : Option Bytes) : (ofOption data).Sendable := by
  cases data <;> trivial

lemma sendable_ofBool (b : Bool) : (ofBool b).Sendable := by
  cases b <;> rfl

lemma sendable_count (n : Nat) : (count n).Sendable :=
  Decimal.fitsSigned64_asSigned64 n

lemma sendable_array {α : Type} {f : α → Reply} (hf : ∀ a, (f a).Sendable) (items : List α) :
    (array (items.map f)).Sendable := by
  rw [Sendable, sendableAll_iff]
  intro item hitem
  obtain ⟨a, -, rfl⟩ := List.mem_map.mp hitem
  exact hf a

lemma sendable_bulks (items : List Bytes) : (bulks items).Sendable :=
  sendable_array (f := .bulk) (fun _ => trivial) items

end Reply

open Reply

lemma ValueType.isLine_name (type : ValueType) : IsLine type.name := by
  cases type <;> decide

lemma Store.fitsSigned64_timeToLive (s : Store) (now : Nat) (db key : String) :
    Decimal.fitsSigned64 (s.timeToLive now db key) := by
  unfold Store.timeToLive
  split
  · exact Decimal.fitsSigned64_asSigned64 _
  · rfl

lemma Query.sendable_answer {q : Query} {s : Store} {now pick : Nat} {db : String} {reply : Reply}
    (h : q.answer s now pick db = .ok reply) : reply.Sendable := by
  cases q with
  | get key =>
    cases h
    exact sendable_ofOption _
  | getMany keys =>
    cases h
    exact sendable_array (fun _ => sendable_ofOption _) _
  | has key =>
    cases h
    exact sendable_ofBool _
  | keysLike pattern =>
    cases h
    trivial
  | keysMatching pattern =>
    obtain ⟨names, -, rfl⟩ := Decimal.map_eq_ok h
    trivial
  | type key =>
    cases h
    exact (s.typeOf db key).isLine_name
  | timeToLive key =>
    cases h
    exact s.fitsSigned64_timeToLive now db key
  | randomKey =>
    cases h
    exact sendable_ofOption _
  | sort key options =>
    obtain ⟨found, -, rfl⟩ := Decimal.map_eq_ok h
    exact sendable_array (fun _ => sendable_ofOption _) _
  | listLength key =>
    obtain ⟨n, -, rfl⟩ := Decimal.map_eq_ok h
    exact sendable_count n
  | listRange key start stop =>
    obtain ⟨items, -, rfl⟩ := Decimal.map_eq_ok h
    exact sendable_bulks items
  | itemAt key index =>
    obtain ⟨item, -, rfl⟩ := Decimal.map_eq_ok h
    exact sendable_ofOption item
  | memberCount key =>
    obtain ⟨n, -, rfl⟩ := Decimal.map_eq_ok h
    exact sendable_count n
  | isMember key member =>
    obtain ⟨b, -, rfl⟩ := Decimal.map_eq_ok h
    exact sendable_ofBool b
  | members key =>
    obtain ⟨items, -, rfl⟩ := Decimal.map_eq_ok h
    exact sendable_bulks items
  | combine op keys =>
    cases h
    exact sendable_bulks _
  | size =>
    cases h
    exact sendable_count _

lemma Store.list?_error {s : Store} {db key : String} {fault : StoreError}
    (h : s.list? db key = .error fault) : fault = .wrongType := by
  unfold Store.list? at h
  split at h <;> cases h
  rfl

lemma Store.set?_error {s : Store} {db key : String} {fault : StoreError}
    (h : s.set? db key = .error fault) : fault = .wrongType := by
  unfold Store.set? at h
  split at h <;> cases h
  rfl

/-- What fails in the end failed at the start, where nothing else can. -/
lemma error_of_map {α β γ : Type} {x : Except StoreError α} {f : α → β} {g : β → γ}
    {fault : StoreError} (h : (x >>= fun a => pure (f a)).map g = .error fault) :
    x = .error fault := by
  cases x with
  | error found => exact congrArg Except.error (Except.error.inj h)
  | ok a => cases h

/-- A query that is refused quotes nothing, or the pattern that was given. -/
lemma Query.quoted_answer {q : Query} {s : Store} {now pick : Nat} {db : String}
    {fault : StoreError} (h : q.answer s now pick db = .error fault)
    (hsort : ∀ key options, q ≠ .sort key options) : ∀ t ∈ fault.quoted, t ∈ q.quoted := by
  have hwrongType : fault = .wrongType → ∀ t ∈ fault.quoted, t ∈ q.quoted := by
    rintro rfl t ht
    cases ht
  cases q
  case keysMatching pattern =>
    simp only [answer, Store.keysMatching] at h
    split at h <;> cases h
    exact fun t ht => ht
  case sort key options => exact absurd rfl (hsort key options)
  case listLength | listRange | itemAt =>
    exact hwrongType (Store.list?_error (error_of_map h))
  case memberCount | isMember | members =>
    exact hwrongType (Store.set?_error (error_of_map h))
  all_goals cases h

namespace Operation

/-- An operation that reads a value of one type is refused where there is another, or later. -/
lemma refused_of_refusing {α : Type} {x : Except StoreError α} {go : α → Outcome}
    {fault : StoreError} {edits : List Store.Edit} (h : refusing x go = .refused fault edits) :
    x = .error fault ∨ ∃ a, x = .ok a ∧ go a = .refused fault edits := by
  cases x with
  | error found =>
    cases h
    exact .inl rfl
  | ok a => exact .inr ⟨a, rfl, h⟩

/-- An operation that is refused quotes nothing, or the key it should have renamed. -/
lemma quoted_refused {op : Operation} {s : Store} {pick : Nat} {db : String}
    {fault : StoreError} {edits : List Store.Edit} (h : op.outcome s pick db = .refused fault edits)
    (hmove : ∀ key target, op ≠ .move key target) : ∀ t ∈ fault.quoted, t ∈ op.quoted := by
  have hnothing : fault.quoted = [] → ∀ t ∈ fault.quoted, t ∈ op.quoted := by
    intro hnone t ht
    rw [hnone] at ht
    cases ht
  have hlist : ∀ key, s.list? db key = .error fault → ∀ t ∈ fault.quoted, t ∈ op.quoted := by
    intro key hfault
    rw [Store.list?_error hfault] at hnothing ⊢
    exact hnothing rfl
  have hset : ∀ key, s.set? db key = .error fault → ∀ t ∈ fault.quoted, t ∈ op.quoted := by
    intro key hfault
    rw [Store.set?_error hfault] at hnothing ⊢
    exact hnothing rfl
  cases op <;> simp only [outcome] at h
  case move key target => exact absurd rfl (hmove key target)
  case add key amount =>
    split at h <;> cases h
    exact hnothing rfl
  case expire key seconds =>
    split at h <;> cases h
    exact hnothing rfl
  case rename source target =>
    split at h
    · cases h
      exact hnothing rfl
    · split at h <;> cases h
      exact fun t ht => ht
  case renameNew source target =>
    split at h
    · cases h
    · split at h
      · cases h
        exact hnothing rfl
      · split at h <;> cases h
        exact fun t ht => ht
  case push key item side =>
    rcases refused_of_refusing h with hfault | ⟨found, -, hgo⟩
    · exact hlist key hfault
    · cases hgo
  case pop key side =>
    rcases refused_of_refusing h with hfault | ⟨found, -, hgo⟩
    · exact hlist key hfault
    · cases hgo
  case trim key start stop | removeItems key count item =>
    rcases refused_of_refusing h with hfault | ⟨found, -, hgo⟩
    · exact hlist key hfault
    · split at hgo <;> cases hgo
      exact hnothing rfl
  case setItem key index item =>
    rcases refused_of_refusing h with hfault | ⟨found, -, hgo⟩
    · exact hlist key hfault
    · split at hgo
      · cases hgo
        exact hnothing rfl
      · split at hgo <;> cases hgo
        exact hnothing rfl
  case addMember key member | removeMember key member =>
    rcases refused_of_refusing h with hfault | ⟨found, -, hgo⟩
    · exact hset key hfault
    · cases hgo
  case popMember key =>
    rcases refused_of_refusing h with hfault | ⟨found, -, hgo⟩
    · exact hset key hfault
    · split at hgo <;> cases hgo
  case moveMember source target member =>
    rcases refused_of_refusing h with hfault | ⟨held, -, hgo⟩
    · exact hset target hfault
    · rcases refused_of_refusing hgo with hfault | ⟨found, -, hlast⟩
      · exact hset source hfault
      · split at hlast <;> cases hlast
  all_goals cases h

/-- The number that an operation answers has 64 bits. -/
lemma fitsSigned64_of_perform {op : Operation} {s left : Store} {now pick : Nat} {db : String}
    {value : Int} (h : op.perform s now pick db = (.ok (.number value), left)) :
    Decimal.fitsSigned64 value := by
  have hresult : (op.perform s now pick db).1 = .ok (.number value) := congrArg Prod.fst h
  cases op <;> simp only [perform, always, maybe] at hresult
  case add key amount =>
    obtain ⟨sum, hsum, heq⟩ := Decimal.map_eq_ok hresult
    obtain rfl : sum = value := by simpa using heq
    unfold Store.add at hsum
    dsimp only at hsum
    split at hsum
    · rename_i hfits
      cases hsum
      exact hfits
    · cases hsum
  all_goals first
    | cases hresult
    | exact absurd (Decimal.map_eq_ok hresult) (by simp)

/-- What is answered for an operation that was carried out. -/
lemma sendable_reply {op : Operation} {s left : Store} {now pick : Nat} {db : String}
    {answer : Answer} (h : op.perform s now pick db = (.ok answer, left)) :
    (op.reply answer).Sendable := by
  cases answer with
  | done => cases op <;> first | exact sendable_ok | exact rfl
  | flag value => exact sendable_ofBool value
  | count n => exact sendable_count n
  | number value => exact fitsSigned64_of_perform h
  | data found => exact sendable_ofOption found

end Operation

/-! ## What commands answer -/

namespace Command

/-- Does the command sort? -/
def IsSort : Command → Prop
  | .ask (.sort _ _) => True
  | _ => False

/-- Only a request for SORT is read as a command that sorts. -/
lemma name_of_isSort {r : Request} {command : Command} (h : ofRequest r = .ok command)
    (hsort : command.IsSort) : r.name = Verb.sort.name := by
  obtain ⟨v, hverb, hasked⟩ := askedBy_of_ofRequest h
  cases command with
  | ask q =>
    cases q with
    | sort key options =>
      obtain rfl : v = .sort := hasked
      exact (Verb.name_of_ofName? hverb).symm
    | _ => exact hsort.elim
  | _ => exact hsort.elim

end Command

namespace Node

/-- The answer to a command is a reply that can be sent, or a refusal that is one line if what the
command quotes is. -/
def Speaks (command : Command) : Except Refusal Reply → Prop
  | .ok reply => reply.Sendable
  | .error refusal =>
    ¬ command.IsSort → (∀ t ∈ command.quoted, IsLine t) → IsLine refusal.message

variable (n : Node) (around : Surroundings) (session : Session)

lemma speaks_store {command : Command} {fault : StoreError}
    (h : ∀ t ∈ fault.quoted, t ∈ command.quoted) : Speaks command (.error (.store fault)) :=
  fun _ hquoted => StoreError.isLine_message fun t ht => hquoted t (h t ht)

lemma speaks_edit (op : Operation) : Speaks (.edit op) (n.edit around session op).answer := by
  unfold edit
  rcases Operation.perform_cases n.store around.now around.pick session.db op with
    ⟨fault, edits, hout, hresult⟩ | ⟨recorded, edits, answer, -, hresult⟩
  · rw [hresult]
    show Speaks (.edit op) (op.refuse fault)
    have hquoted := Operation.quoted_refused hout
    cases op
    case move key target => exact (rfl : Decimal.fitsSigned64 0)
    case add key amount =>
      refine StoreError.isLine_message fun t ht => ?_
      cases hquoted (fun _ _ => Operation.noConfusion) t ht
    all_goals exact speaks_store (hquoted fun _ _ => Operation.noConfusion)
  · rw [hresult]
    exact Operation.sendable_reply hresult

lemma speaks_ask (q : Query) :
    Speaks (.ask q) ((q.answer n.store around.now around.pick session.db).mapError .store) := by
  cases hanswer : q.answer n.store around.now around.pick session.db with
  | ok reply => exact Query.sendable_answer hanswer
  | error fault =>
    intro hsort
    refine speaks_store (Query.quoted_answer hanswer ?_) hsort
    rintro key options rfl
    exact hsort trivial

lemma speaks_replaceAll (version : Nat) (data : Bytes) :
    Speaks (.replaceAll version data) (n.replaceAll around session version data).answer := by
  unfold replaceAll Store.replace
  cases Snapshot.decode data with
  | error fault => exact fun _ _ => StoreError.isLine_message fun t ht => by cases ht
  | ok snapshot => exact sendable_ok

lemma speaks_runOwn (command : Command) :
    Speaks command (n.runOwn around session command).answer := by
  cases command with
  | edit op => exact n.speaks_edit around session op
  | decrement key amount =>
    have hedit := n.speaks_edit around session (.add key (-amount))
    simp only [runOwn]
    split
    · cases hanswer : (n.edit around session (.add key (-amount))).answer with
      | ok reply =>
        rw [hanswer] at hedit
        exact hedit
      | error refusal =>
        rw [hanswer] at hedit
        exact fun _ hquoted => hedit id hquoted
    · refine fun _ _ => CommandError.isLine_message fun t ht => ?_
      rw [List.mem_singleton.mp ht]
      exact (Decimal.plain_ofInt amount).isLine
  | ask q => exact n.speaks_ask around session q
  | select db => exact sendable_ok
  | ping =>
    have hpong : IsLine "PONG" := by decide
    exact hpong
  | auth password =>
    have hwrong : IsLine "authentication password incorrect" := by decide
    simp only [runOwn, authenticate]
    split
    · exact sendable_ok
    · exact hwrong
  | info => trivial
  | save =>
    simp only [runOwn, saveNow]
    split
    · rename_i fault left hsave
      exact fun _ _ => fault.isPlain_message.isLine
    · exact sendable_ok
  | saveLater => exact sendable_ok
  | lastSave => exact Decimal.fitsSigned64_asSigned64 _
  | shutdown => exact sendable_ok
  | quit => exact sendable_ok
  | version => exact Decimal.fitsSigned64_asSigned64 _
  | attach replica =>
    intro _ hquoted
    have hhost : IsLine replica.host := hquoted replica.host (List.mem_singleton_self _)
    have haddress : IsLine replica.toText :=
      (hhost.before (by decide)).before (Decimal.plain_ofNat replica.port)
    have hname : IsLine Verb.attach.name := by decide
    refine CommandError.isLine_message fun t ht => ?_
    simp only [CommandError.quoted, List.mem_cons, List.not_mem_nil, or_false] at ht
    rcases ht with rfl | rfl
    · exact hname
    · exact haddress
  | replay envelope => exact sendable_ok
  | replaceAll version data => exact n.speaks_replaceAll around session version data

lemma speaks_run (command : Command) : Speaks command (n.run around session command).answer := by
  cases command with
  | replay envelope =>
    simp only [run, replay]
    cases Change.decode envelope with
    | error fault => exact fun _ _ => fault.isPlain_message.isLine
    | ok c =>
      dsimp only
      cases hcheck : n.checkVersion c with
      | ok _ => exact sendable_ok
      | error refusal =>
        have hmismatch : IsLine "version mismatch" := by decide
        unfold checkVersion at hcheck
        split at hcheck
        · split at hcheck
          · cases hcheck
          · cases hcheck
            exact fun _ _ => hmismatch
        · cases hcheck
  | _ => exact n.speaks_runOwn around session _

/-! ## What requests are answered -/

section Requests

variable {n session} {r : Request}

lemma quoted_checkArity {d : Descriptor} {refusal : Refusal}
    (h : checkArity d r = .error refusal) : refusal.quoted = [r.name] := by
  unfold checkArity at h
  split at h
  · cases h
  · split at h <;> cases h
    rfl

lemma quoted_checkAccess {access : Access} {refusal : Refusal}
    (h : n.checkAccess session access = .error refusal) : refusal.quoted = [] := by
  unfold checkAccess at h
  split at h
  · split at h
    · cases h
      rfl
    · split at h <;> cases h
      rfl
  · cases h

lemma quoted_checkDemand {demand : Demand} {args : List Bytes} {refusal : Refusal}
    (h : n.checkDemand session demand args = .error refusal) : refusal.quoted = [] := by
  unfold checkDemand at h
  cases hhead : args.head? with
  | none =>
    rw [hhead] at h
    cases h
  | some key =>
    rw [hhead] at h
    dsimp only at h
    generalize n.store.typeOf session.db key.lossyText = found at h
    cases demand <;> cases found <;> cases h <;> rfl

/-- What is refused before it runs quotes the name of the command at most. -/
lemma quoted_check {refusal : Refusal} (h : n.check session r = .error refusal) :
    ∀ t ∈ refusal.quoted, t = r.name := by
  unfold check at h
  split at h
  · cases h
    simp [Refusal.quoted]
  · cases hverb : Verb.ofName? r.name with
    | none =>
      rw [hverb] at h
      cases h
      simp [Refusal.quoted, CommandError.quoted]
    | some v =>
      rw [hverb] at h
      dsimp only [bind, Except.bind] at h
      cases harity : checkArity v.descriptor r with
      | error _ =>
        rw [harity] at h
        cases h
        simp [quoted_checkArity harity]
      | ok _ =>
        rw [harity] at h
        cases haccess : n.checkAccess session v.descriptor.access with
        | error _ =>
          rw [haccess] at h
          cases h
          simp [quoted_checkAccess haccess]
        | ok _ =>
          rw [haccess] at h
          simp [quoted_checkDemand h]

end Requests

/-- What a node answers: a reply that can be sent, or an error, whose message is one line if nothing
in the request has a line end and it does not sort. -/
def Answers (r : Request) (reply : Reply) : Prop :=
  reply.Sendable ∨ ∃ message, reply = .error message ∧
    (IsLine r.name → (∀ arg ∈ r.args, Bytes.hasLineEnd arg = false) → r.name ≠ Verb.sort.name →
      IsLine message)

lemma answers_serveAttach {r : Request} {replica : Address}
    (hread : Command.ofRequest r = .ok (.attach replica)) :
    Answers r (n.serveAttach around session replica).1 := by
  have hmessage : ∀ message, (n.attach around replica).1 = .error message →
      message = attachMessage replica := by
    intro message hfailed
    unfold attach at hfailed
    split at hfailed
    · cases hfailed
    · cases htakes : around.takesCopy replica
      · rw [htakes] at hfailed
        dsimp only at hfailed
        split at hfailed <;> cases hfailed <;> rfl
      · rw [htakes] at hfailed
        dsimp only at hfailed
        split at hfailed <;> cases hfailed
        rfl
  unfold serveAttach
  split
  · exact .inl sendable_ok
  · rename_i message left hattach
    refine .inr ⟨message, rfl, fun hname hargs _ => ?_⟩
    rw [hmessage message (by rw [hattach])]
    have hquoted := Command.quoted_of_ofRequest hname hargs
    rw [hread] at hquoted
    have hhost : IsLine replica.host := hquoted replica.host (List.mem_singleton_self _)
    have hbefore : IsLine ("Couldn't connect to server at ip '" ++ replica.host ++ "' port '") :=
      isLine_quote hhost (by decide) (by decide)
    exact (hbefore.before (Decimal.plain_ofNat replica.port)).before (by decide)

/-- The answer to a command that was read from a request. -/
lemma answers_of_speaks {r : Request} {command : Command}
    (hread : Command.ofRequest r = .ok command) {answer : Except Refusal Reply}
    (h : Speaks command answer) : Answers r (replyOf answer) := by
  cases answer with
  | ok reply => exact .inl h
  | error refusal =>
    refine .inr ⟨refusal.message, rfl, fun hname hargs hsort => ?_⟩
    have hquoted := Command.quoted_of_ofRequest hname hargs
    rw [hread] at hquoted
    exact h (fun hsorts => hsort (Command.name_of_isSort hread hsorts)) hquoted

lemma answers_execute (r : Request) : Answers r (n.execute around session r).1 := by
  unfold execute
  cases hread : Command.ofRequest r with
  | error fault =>
    refine .inr ⟨fault.message, rfl, fun hname hargs _ => ?_⟩
    have hquoted := Command.quoted_of_ofRequest hname hargs
    rw [hread] at hquoted
    exact CommandError.isLine_message hquoted
  | ok command =>
    have hran := (n.withStore n.store.recordOperation).speaks_run around session command
    cases command with
    | attach replica => exact answers_serveAttach _ around session hread
    | _ => exact answers_of_speaks hread hran

lemma answers_dispatch (r : Request) : Answers r (n.dispatch around session r).1 := by
  unfold dispatch
  cases hcheck : n.check session r with
  | error refusal =>
    refine .inr ⟨refusal.message, rfl, fun hname _ _ => Refusal.isLine_message fun t ht => ?_⟩
    rw [quoted_check hcheck t ht]
    exact hname
  | ok _ => exact n.answers_execute around session r

/-- **Every reply but an error with a line end in its message survives the wire.**  The message of
an error has one only if the request has, or sorts. -/
theorem reply_survives (n : Node) (around : Surroundings) (session : Session) (r : Request)
    (hlength : (n.dispatch around session r).1.encode.length < 2 ^ 63) :
    ((n.dispatch around session r).1.Survives ↔
      ∀ message, (n.dispatch around session r).1 = .error message → IsLine message) ∧
    (IsLine r.name → (∀ arg ∈ r.args, Bytes.hasLineEnd arg = false) → r.name ≠ Verb.sort.name →
      (n.dispatch around session r).1.Survives) := by
  have hanswers := n.answers_dispatch around session r
  generalize (n.dispatch around session r).1 = reply at hanswers hlength
  have hsurvives : (∀ message, reply = .error message → IsLine message) → reply.Survives := by
    intro hlines
    refine survives_of_sendable ?_ hlength
    rcases hanswers with hsendable | ⟨message, rfl, -⟩
    · exact hsendable
    · exact hlines message rfl
  refine ⟨⟨fun h message herror => ?_, hsurvives⟩, fun hname hargs hsort => hsurvives ?_⟩
  · by_contra hbroken
    rw [herror] at h
    exact not_survives_error hbroken h
  · rintro message rfl
    rcases hanswers with hsendable | ⟨message', herror, hline⟩
    · exact hsendable
    · obtain rfl := Reply.error.inj herror
      exact hline hname hargs hsort

/-- A stored value that looks like another reply is read back as the value it is. -/
theorem reply_survives_stored :
    let value : Bytes := Bytes.ofText "a\r\n+OK\r\n"
    let n := (Node.new Config.default (Directory.empty []) 0).withStore
      ((Store.new false).set "0" "k" value)
    (n.dispatch .alone (Session.new true) ⟨"get", [Bytes.ofText "k"]⟩).1 = .bulk value ∧
      (Reply.bulk value).Survives := by
  intro value n
  have hreply : (n.dispatch .alone (Session.new true) ⟨"get", [Bytes.ofText "k"]⟩).1 =
      .bulk value := by
    rfl
  obtain ⟨-, hsurvives⟩ := n.reply_survives .alone (Session.new true) ⟨"get", [Bytes.ofText "k"]⟩
    (by rw [hreply]; decide)
  rw [hreply] at hsurvives
  exact ⟨hreply, hsurvives (by decide) (by decide) (by decide)⟩

/-- A number that is none is quoted as it came, and ends the reply early. -/
theorem not_reply_survives_quoting :
    ¬ ∀ (n : Node) (around : Surroundings) (session : Session) (r : Request),
      (n.dispatch around session r).1.Survives := by
  intro hall
  let n := Node.new { Config.default with authority := true } (Directory.empty []) 0
  let r : Request := ⟨"incrby", [Bytes.ofText "k", Bytes.ofText "x\r\n+OK"]⟩
  have hreply : (n.dispatch .alone (Session.new true) r).1 =
      .error "'x\r\n+OK' is not an integer value" := by
    rfl
  have hsurvives := hall n .alone (Session.new true) r
  rw [hreply] at hsurvives
  exact not_survives_error (by decide) hsurvives

end Node

end ReplicatedStore
