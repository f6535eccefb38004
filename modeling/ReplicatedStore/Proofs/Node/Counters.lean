import ReplicatedStore.Proofs.Node.WriteGate

/-!
# Counters

A key that holds a string, or nothing, is a counter: it counts as the integer that its text denotes,
white space around it left out, and as zero if it denotes none.  Four commands add to it.  Each is
either *accepted*, and then the exact sum is the reply and the canonical text under the key, or
refused, and then nothing happens to the data (`Node.Tallied`).  It is accepted exactly if the
amount and the sum are integers of 64 bits; only taking away the least integer has an amount that
is none.

What is written must be read back as the same integer by the next command
(`Store.counter_of_value`).  So the counter after any such requests is the one before them plus the
amounts of those that were accepted (`Node.counter_serveAll`), and taking away what was added gives
back the counter (`Node.counts_exactly`).
-/

namespace ReplicatedStore

/-! ## Texts that are integers -/

namespace Text

/-- There is nothing to leave out where nothing is blank. -/
lemma trim_of_not_blank {cs : List Char} (h : ∀ c ∈ cs, isBlank c = false) : trim cs = cs := by
  have hstays : ∀ ds : List Char, (∀ d ∈ ds, isBlank d = false) → ds.dropWhile isBlank = ds := by
    intro ds hds
    cases ds with
    | nil => rfl
    | cons d rest => rw [List.dropWhile_cons_of_neg (by simp [hds d List.mem_cons_self])]
  have hreverse : ∀ c ∈ cs.reverse, isBlank c = false := by
    intro c hc
    exact h c (List.mem_reverse.mp hc)
  rw [trim, trimStart, trimEnd, hstays cs h, hstays cs.reverse hreverse, List.reverse_reverse]

lemma isBlank_of_isDigit {c : Char} (h : c.isDigit) : isBlank c = false := by
  have hrange := Decimal.toNat_of_isDigit h
  simp only [isBlank, Bool.or_eq_false_iff, Bool.and_eq_false_iff, decide_eq_false_iff_not,
    beq_eq_false_iff_ne]
  omega

end Text

/-- No character of a written integer is blank. -/
lemma Decimal.isBlank_of_mem_ofInt {i : Int} {c : Char} (h : c ∈ (ofInt i).toList) :
    Text.isBlank c = false := by
  cases i with
  | ofNat n =>
    rw [ofInt, ofNat, String.toList_ofList] at h
    exact Text.isBlank_of_isDigit (isDigit_toDigits n c h)
  | negSucc n =>
    rw [ofInt, String.toList_append, List.mem_append] at h
    rcases h with hsign | hdigit
    · obtain rfl : c = '-' := by simpa using hsign
      decide
    · rw [ofNat, String.toList_ofList] at hdigit
      exact Text.isBlank_of_isDigit (isDigit_toDigits (n + 1) c hdigit)

namespace Store

variable {s : Store} {db key : String}

/-- What is written for an integer denotes it. -/
lemma integer?_ofInt {i : Int} (h : Decimal.fitsSigned64 i) :
    integer? (Bytes.ofText (Decimal.ofInt i)) = some i := by
  have htrim : Text.trim (Decimal.ofInt i).toList = (Decimal.ofInt i).toList :=
    Text.trim_of_not_blank fun c hc => Decimal.isBlank_of_mem_ofInt hc
  rw [integer?, Bytes.text?_ofText, Option.bind_some, htrim, String.ofList_toList,
    Decimal.read?_ofInt h]

lemma counter_of_value {i : Int} (h : Decimal.fitsSigned64 i)
    (hvalue : s.value? db key = some (.string (Bytes.ofText (Decimal.ofInt i)))) :
    s.counter db key = i := by
  have hget : s.get? db key = some (Bytes.ofText (Decimal.ofInt i)) := by rw [get?, hvalue]
  rw [counter, hget, Option.bind_some, integer?_ofInt h, Option.getD_some]

lemma fitsSigned64_counter (s : Store) (db key : String) :
    Decimal.fitsSigned64 (s.counter db key) := by
  unfold counter
  cases hread : (s.get? db key).bind integer? with
  | none => decide
  | some i =>
    obtain ⟨data, -, hdata⟩ := Option.bind_eq_some_iff.mp hread
    obtain ⟨text, -, htext⟩ := Option.bind_eq_some_iff.mp hdata
    exact Decimal.fitsSigned64_of_read? htext

lemma counter_congr_value {t : Store} (h : t.value? db key = s.value? db key) :
    t.counter db key = s.counter db key := by
  rw [counter, counter, get?, get?, h]

/-- A sum of 64 bits is written, and the key no longer ends. -/
lemma add_of_fits {amount : Int} (h : Decimal.fitsSigned64 (s.counter db key + amount)) :
    ∃ left, s.add db key amount = (.ok (s.counter db key + amount), left) ∧
      left.value? db key =
        some (.string (Bytes.ofText (Decimal.ofInt (s.counter db key + amount)))) ∧
      left.deadline? db key = none := by
  refine ⟨_, if_pos h, ?_, ?_⟩
  · rw [value?_commit, write, value?_put, if_pos ⟨rfl, rfl⟩]
  · rw [deadline?_commit, write, deadline?_put, deadline?_clearDeadline, if_pos ⟨rfl, rfl⟩]

end Store

/-! ## Requests that count -/

/-- A request to add to a counter. -/
inductive Counting where
  /-- Add one. -/
  | increment
  /-- Take away one. -/
  | decrement
  /-- Add what a text denotes. -/
  | incrementBy (amount : Decimal.Numeral)
  /-- Take away what a text denotes. -/
  | decrementBy (amount : Decimal.Numeral)

namespace Counting

/-- The verb that the request names. -/
def verb : Counting → Verb
  | .increment => .increment
  | .decrement => .decrement
  | .incrementBy _ => .incrementBy
  | .decrementBy _ => .decrementBy

/-- The request for a key. -/
def request (key : String) : Counting → Request
  | .increment => ⟨Verb.increment.name, [Bytes.ofText key]⟩
  | .decrement => ⟨Verb.decrement.name, [Bytes.ofText key]⟩
  | .incrementBy amount => ⟨Verb.incrementBy.name, [Bytes.ofText key, Bytes.ofText amount.text]⟩
  | .decrementBy amount => ⟨Verb.decrementBy.name, [Bytes.ofText key, Bytes.ofText amount.text]⟩

/-- What is added, which is negative where something is taken away. -/
def amount : Counting → Int
  | .increment => 1
  | .decrement => -1
  | .incrementBy amount => amount.value
  | .decrementBy amount => -amount.value

/-- The command that the request is. -/
def command (key : String) : Counting → Command
  | .increment => .edit (.add key 1)
  | .decrement => .edit (.add key (-1))
  | .incrementBy amount => .edit (.add key amount.value)
  | .decrementBy amount => .decrement key amount.value

/-- Is the request accepted where the counter has the value?  The amount and the sum must be
integers of 64 bits. -/
def Accepts (step : Counting) (number : Int) : Prop :=
  Decimal.fitsSigned64 step.amount ∧ Decimal.fitsSigned64 (number + step.amount)

/-- What the request counts for when it is answered so: its amount if the reply is an integer. -/
def countedBy (step : Counting) : Reply → Int
  | .integer _ => step.amount
  | _ => 0

lemma named_request (step : Counting) (key : String) :
    Verb.ofName? (step.request key).name = some step.verb := by
  cases step <;> exact Verb.ofName?_name _

lemma ofRequest_request (step : Counting) (key : String) :
    Command.ofRequest (step.request key) = .ok (step.command key) := by
  have hfinds : Command.Finds (Command.readArguments step.verb) (step.request key).args
      (step.command key) [] := by
    cases step with
    | increment => exact (Command.finds_nextText key []).map _
    | decrement => exact (Command.finds_nextText key []).map _
    | incrementBy a =>
      exact (Command.finds_nextText key _).bind ((Command.finds_numeral a []).map _)
    | decrementBy a =>
      exact (Command.finds_nextText key _).bind ((Command.finds_numeral a []).map _)
  rw [Command.ofRequest, step.named_request key]
  exact hfinds.ofArguments

/-- Only taking away the least integer has an amount that is not one of 64 bits. -/
lemma fits_amount_iff (step : Counting) :
    Decimal.fitsSigned64 step.amount ↔
      ∀ a, step = .decrementBy a → a.value ≠ -0x8000000000000000 := by
  cases step with
  | decrementBy a =>
    have hrange : -0x8000000000000000 ≤ a.value ∧ a.value < 0x8000000000000000 := by
      simpa [Decimal.fitsSigned64] using a.fits
    have hfits : Decimal.fitsSigned64 (-a.value) ↔ a.value ≠ -0x8000000000000000 := by
      simp only [Decimal.fitsSigned64, Bool.and_eq_true, decide_eq_true_eq]
      omega
    simpa [amount] using hfits
  | incrementBy a => simp [amount, a.fits]
  | _ => simp [amount, Decimal.fitsSigned64]

end Counting

/-- May the client of the session change the database? -/
structure Session.MayWrite (session : Session) (db : String) : Prop where
  onDatabase : session.db = db
  authenticated : session.authenticated
  remaining : ¬ session.closing

/-- Is the reply an integer? -/
def Reply.IsInteger (reply : Reply) : Prop :=
  ∃ i, reply = .integer i

namespace Node

/-- Does the node serve those who count on the key?  It is the authority, it stays, and the key
holds a string or nothing. -/
structure Counts (n : Node) (db key : String) : Prop where
  authority : n.config.authority
  staying : ¬ n.halting
  holds : n.store.typeOf db key = .string ∨ n.store.typeOf db key = .none

/-- What a counting request leaves, and its reply.  Accepted, it gives the exact sum, as the reply
and as a text under the key, which no longer ends; refused, it is answered by an error and leaves
all data untouched. -/
structure Tallied (n : Node) (db key : String) (step : Counting) (reply : Reply) (left : Node) :
    Prop where
  accepted : step.Accepts (n.store.counter db key) →
    reply = .integer (n.store.counter db key + step.amount) ∧
      left.store.value? db key =
        some (.string (Bytes.ofText (Decimal.ofInt (n.store.counter db key + step.amount)))) ∧
      left.store.deadline? db key = none
  refused : ¬ step.Accepts (n.store.counter db key) →
    (∃ message, reply = .error message) ∧ n.store.Untouched left.store

/-! ## One request -/

lemma halting_saveIfDue (n : Node) : n.saveIfDue.halting = n.halting := by
  unfold saveIfDue
  split <;> rfl

section Step

variable {n : Node} {db key : String} {session : Session} {step : Counting}

lemma Counts.admits (hn : n.Counts db key) (hsession : session.MayWrite db) (step : Counting) :
    n.Admits session (step.request key) step.verb := by
  have hdemand : ∀ arg, (step.request key).args.head? = some arg →
      step.verb.descriptor.demand.Met (n.store.typeOf session.db arg.lossyText) := by
    have hholds : n.store.typeOf session.db (Bytes.ofText key).lossyText = .string ∨
        n.store.typeOf session.db (Bytes.ofText key).lossyText = .none := by
      rw [Bytes.lossyText_ofText, hsession.onDatabase]
      exact hn.holds
    intro arg harg
    cases step <;> obtain rfl := Option.some.inj harg <;> exact hholds
  have harity : ∀ k, step.verb.descriptor.arity = some k → (step.request key).args.length = k := by
    intro k hk
    cases step <;> exact Option.some.inj hk
  have hwrites : step.verb.descriptor.access = .write := by cases step <;> rfl
  exact ⟨step.named_request key, hwrites, hn.authority, hn.staying, hsession.authenticated,
    hsession.remaining, harity, hdemand⟩

/-- The request runs as its command. -/
lemma dispatch_counting (hn : n.Counts db key) (hsession : session.MayWrite db)
    (around : Surroundings) (step : Counting) :
    let ran := (n.withStore n.store.recordOperation).run around session (step.command key)
    (n.dispatch around session (step.request key)).1 = replyOf ran.answer ∧
      (n.dispatch around session (step.request key)).2.1 = ran.node.saveIfDue := by
  have hcheck := (hn.admits hsession step).check
  have hread := step.ofRequest_request key
  obtain ⟨after, hanswered, -⟩ := n.answered_dispatch around session (step.request key)
  generalize (n.dispatch around session (step.request key)).1 = reply,
    (n.dispatch around session (step.request key)).2.1 = left at hanswered
  cases hanswered with
  | refused stopped =>
    rw [hcheck] at stopped
    cases stopped
  | misread passed read =>
    rw [hread] at read
    cases read
  | attached passed read =>
    rw [hread] at read
    cases step <;> cases read
  | ran passed read =>
    rw [hread] at read
    obtain rfl := Except.ok.inj read
    exact ⟨rfl, rfl⟩

/-- An amount of 64 bits is added. -/
lemma run_counting_of_fits (h : Decimal.fitsSigned64 step.amount) (n : Node)
    (around : Surroundings) (session : Session) (key : String) :
    n.run around session (step.command key) = n.edit around session (.add key step.amount) := by
  cases step with
  | decrementBy a => exact if_pos h
  | _ => rfl

/-- An accepted request writes the sum. -/
lemma run_accepted (n : Node) (around : Surroundings) (session : Session)
    (h : step.Accepts (n.store.counter session.db key)) :
    ∃ left, n.run around session (step.command key) =
        ⟨.ok (.integer (n.store.counter session.db key + step.amount)), n.withStore left,
          session⟩ ∧
      left.value? session.db key = some (.string
        (Bytes.ofText (Decimal.ofInt (n.store.counter session.db key + step.amount)))) ∧
      left.deadline? session.db key = none := by
  obtain ⟨left, hadd, hvalue, hdeadline⟩ := Store.add_of_fits h.2
  refine ⟨left, ?_, hvalue, hdeadline⟩
  rw [run_counting_of_fits h.1, edit, Operation.perform, Operation.maybe, hadd]
  rfl

/-- Any other leaves the node as it is: the store refuses the sum, or the amount cannot be turned
round. -/
lemma run_refused (n : Node) (around : Surroundings) (session : Session)
    (h : ¬ step.Accepts (n.store.counter session.db key)) :
    ∃ answer message, n.run around session (step.command key) = ⟨answer, n, session⟩ ∧
      replyOf answer = .error message := by
  by_cases hamount : Decimal.fitsSigned64 step.amount
  · have hsum : ¬ Decimal.fitsSigned64 (n.store.counter session.db key + step.amount) :=
      fun hsum => h ⟨hamount, hsum⟩
    have hadd : n.store.add session.db key step.amount = (.error .notAnInteger, n.store) :=
      if_neg hsum
    refine ⟨.ok (.error StoreError.notAnInteger.message), _, ?_, rfl⟩
    rw [run_counting_of_fits hamount, edit, Operation.perform, Operation.maybe, hadd]
    rfl
  · cases step with
    | increment => exact absurd (by decide) hamount
    | decrement => exact absurd (by decide) hamount
    | incrementBy a => exact absurd a.fits hamount
    | decrementBy a => exact ⟨_, _, if_neg hamount, rfl⟩

/-- **One counting request** is accepted with the exact sum, or refused without a trace. -/
lemma tallied_dispatch (hn : n.Counts db key) (hsession : session.MayWrite db)
    (around : Surroundings) (step : Counting) :
    n.Tallied db key step (n.dispatch around session (step.request key)).1
      (n.dispatch around session (step.request key)).2.1 := by
  obtain ⟨hreply, hleft⟩ := dispatch_counting hn hsession around step
  obtain rfl := hsession.onDatabase
  rw [hreply, hleft]
  constructor
  · intro haccepts
    obtain ⟨left, hrun, hvalue, hdeadline⟩ :=
      (n.withStore n.store.recordOperation).run_accepted around session haccepts
    rw [hrun, store_saveIfDue]
    exact ⟨rfl, hvalue, hdeadline⟩
  · intro hrefused
    obtain ⟨answer, message, hrun, hanswer⟩ :=
      (n.withStore n.store.recordOperation).run_refused around session hrefused
    rw [hrun, store_saveIfDue]
    exact ⟨⟨message, hanswer⟩, n.store.untouched_recordOperation⟩

/-- The counter after a request, and whether it was answered by an integer. -/
lemma Tallied.counter {reply : Reply} {left : Node} (h : n.Tallied db key step reply left) :
    (reply = .integer (n.store.counter db key + step.amount) ∧
        left.store.counter db key = n.store.counter db key + step.amount) ∨
      ((∃ message, reply = .error message) ∧
        left.store.counter db key = n.store.counter db key) := by
  by_cases haccepts : step.Accepts (n.store.counter db key)
  · obtain ⟨hreply, hvalue, -⟩ := h.accepted haccepts
    exact .inl ⟨hreply, Store.counter_of_value haccepts.2 hvalue⟩
  · obtain ⟨hreply, huntouched⟩ := h.refused haccepts
    exact .inr ⟨hreply, Store.counter_congr_value (huntouched.contents db key).1⟩

/-- The key goes on being a counter. -/
lemma Counts.dispatch (hn : n.Counts db key) (hsession : session.MayWrite db)
    (around : Surroundings) (step : Counting) :
    (n.dispatch around session (step.request key)).2.1.Counts db key := by
  have htallied := tallied_dispatch hn hsession around step
  obtain ⟨-, hleft⟩ := dispatch_counting hn hsession around step
  refine ⟨?_, ?_, ?_⟩
  · rw [config_dispatch]
    exact hn.authority
  · obtain rfl := hsession.onDatabase
    rw [hleft, halting_saveIfDue]
    by_cases haccepts : step.Accepts (n.store.counter session.db key)
    · obtain ⟨left, hrun, -⟩ :=
        (n.withStore n.store.recordOperation).run_accepted around session haccepts
      rw [hrun]
      exact hn.staying
    · obtain ⟨answer, message, hrun, -⟩ :=
        (n.withStore n.store.recordOperation).run_refused around session haccepts
      rw [hrun]
      exact hn.staying
  · by_cases haccepts : step.Accepts (n.store.counter db key)
    · obtain ⟨-, hvalue, -⟩ := htallied.accepted haccepts
      left
      rw [Store.typeOf, hvalue]
      rfl
    · obtain ⟨-, huntouched⟩ := htallied.refused haccepts
      rw [Store.typeOf, (huntouched.contents db key).1]
      exact hn.holds

end Step

/-! ## Any number of requests -/

/-- The requests on the key. -/
def countingOn (key : String) (steps : List (Surroundings × Session × Counting)) :
    List (Surroundings × Session × Request) :=
  steps.map fun x => (x.1, x.2.1, x.2.2.request key)

/-- The amounts of the requests that are answered by an integer, added up. -/
def acceptedSum (n : Node) (key : String) : List (Surroundings × Session × Counting) → Int
  | [] => 0
  | (around, session, step) :: rest =>
    let served := n.dispatch around session (step.request key)
    step.countedBy served.1 + served.2.1.acceptedSum key rest

/-- The counter after the requests is the one before them and what was accepted. -/
lemma Counts.serveAll {n : Node} {db key : String} (hn : n.Counts db key)
    {steps : List (Surroundings × Session × Counting)} (hsteps : ∀ x ∈ steps, x.2.1.MayWrite db) :
    (n.serveAll (countingOn key steps)).Counts db key ∧
      (n.serveAll (countingOn key steps)).store.counter db key =
        n.store.counter db key + n.acceptedSum key steps := by
  induction steps generalizing n with
  | nil => exact ⟨hn, (Int.add_zero _).symm⟩
  | cons x rest ih =>
    obtain ⟨around, session, step⟩ := x
    have hsession : session.MayWrite db := hsteps _ List.mem_cons_self
    obtain ⟨hcounts, hcounter⟩ := ih (hn.dispatch hsession around step)
      fun y hy => hsteps y (List.mem_cons_of_mem _ hy)
    refine ⟨hcounts, hcounter.trans ?_⟩
    rcases (tallied_dispatch hn hsession around step).counter with
      ⟨hreply, hnext⟩ | ⟨⟨message, hreply⟩, hnext⟩
    · simp only [hnext, acceptedSum, hreply, Counting.countedBy]
      omega
    · simp only [hnext, acceptedSum, hreply, Counting.countedBy]
      omega

/-- **Counters are exact.**  On a node that serves those who count on a key, let any clients make
any such requests, one after the other:

* the counter is then the one before them and the amounts of those that were answered by an integer,
  and an integer of 64 bits;
* the next request is accepted with the exact sum, or refused without a trace, and refused it is
  exactly if the sum is no integer of 64 bits or the least integer is to be taken away;
* an amount that is added and taken away again, both being accepted, leaves the counter as it
  was. -/
theorem counts_exactly {n : Node} {db key : String} (hn : n.Counts db key)
    (steps : List (Surroundings × Session × Counting)) (hsteps : ∀ x ∈ steps, x.2.1.MayWrite db) :
    let reached := n.serveAll (countingOn key steps)
    let number := reached.store.counter db key
    (number = n.store.counter db key + n.acceptedSum key steps ∧ Decimal.fitsSigned64 number) ∧
    (∀ around session step, session.MayWrite db →
      reached.Tallied db key step (reached.dispatch around session (step.request key)).1
        (reached.dispatch around session (step.request key)).2.1) ∧
    (∀ step : Counting, step.Accepts number ↔ Decimal.fitsSigned64 (number + step.amount) ∧
      ∀ a, step = .decrementBy a → a.value ≠ -0x8000000000000000) ∧
    ∀ around session around' session' (a b : Decimal.Numeral), session.MayWrite db →
      session'.MayWrite db → a.value = b.value →
      let added := reached.dispatch around session ((Counting.incrementBy a).request key)
      let taken := added.2.1.dispatch around' session' ((Counting.decrementBy b).request key)
      added.1.IsInteger → taken.1.IsInteger → taken.2.1.store.counter db key = number := by
  intro reached number
  obtain ⟨hreached, hnumber⟩ := hn.serveAll hsteps
  refine ⟨⟨hnumber, Store.fitsSigned64_counter _ db key⟩, ?_, ?_, ?_⟩
  · intro around session step hsession
    exact tallied_dispatch hreached hsession around step
  · intro step
    rw [Counting.Accepts, step.fits_amount_iff, and_comm]
  · intro around session around' session' a b hsession hsession' hsame added taken hadded htaken
    have hcounts := hreached.dispatch hsession around (.incrementBy a)
    have hadd := (tallied_dispatch hreached hsession around (.incrementBy a)).counter
    have htake := (tallied_dispatch hcounts hsession' around' (.decrementBy b)).counter
    obtain ⟨i, hi⟩ := hadded
    obtain ⟨j, hj⟩ := htaken
    rcases hadd with ⟨-, hadd⟩ | ⟨⟨message, herror⟩, -⟩
    · rcases htake with ⟨-, htake⟩ | ⟨⟨message, herror⟩, -⟩
      · have hback : number + a.value + -b.value = number := by omega
        exact (htake.trans (congrArg (· + _) hadd)).trans hback
      · rw [herror] at hj
        cases hj
    · rw [herror] at hi
      cases hi

/-- An authority with a counter just below the largest integer, which is written with blanks around
it and ends. -/
def nearlyFull : Node :=
  let empty := new { Config.default with authority := true } (Directory.empty []) 0
  let written := empty.store.set "0" "n" (Bytes.ofText " 9223372036854775806 ")
  empty.withStore (written.expire 0 "0" "n" 60).2

/-- Of two requests to add one, the second is refused, and so is taking away the least integer. -/
theorem counts_exactly_nearlyFull :
    let steps : List (Surroundings × Session × Counting) :=
      List.replicate 2 (.alone, Session.new true, .increment)
    let least : Decimal.Numeral :=
      .ofInt (show Decimal.fitsSigned64 (-0x8000000000000000) by decide)
    let reached := nearlyFull.serveAll (countingOn "n" steps)
    nearlyFull.Counts "0" "n" ∧ (∀ x ∈ steps, x.2.1.MayWrite "0") ∧
      nearlyFull.store.counter "0" "n" = 9223372036854775806 ∧
      reached.store.counter "0" "n" = 9223372036854775807 ∧
      ∃ message, (reached.dispatch .alone (Session.new true)
        ((Counting.decrementBy least).request "n")).1 = .error message := by
  intro steps least reached
  have hcounts : nearlyFull.Counts "0" "n" := ⟨rfl, by decide, .inl (by decide +kernel)⟩
  have hclient : (Session.new true).MayWrite "0" := ⟨rfl, rfl, by decide⟩
  have hsteps : ∀ x ∈ steps, x.2.1.MayWrite "0" := by
    intro x hx
    rw [List.eq_of_mem_replicate hx]
    exact hclient
  have hbefore : nearlyFull.store.counter "0" "n" = 9223372036854775806 := by decide +kernel
  have hsum : nearlyFull.acceptedSum "n" steps = 1 := by decide +kernel
  obtain ⟨⟨hnumber, -⟩, htallied, haccepts, -⟩ := counts_exactly hcounts steps hsteps
  have hleast : ¬ (Counting.decrementBy least).Accepts (reached.store.counter "0" "n") := by
    intro h
    exact ((haccepts _).mp h).2 least rfl rfl
  refine ⟨hcounts, hsteps, hbefore, ?_, ?_⟩
  · rw [hnumber, hbefore, hsum]
    rfl
  · exact ((htallied .alone _ _ hclient).refused hleast).1

end Node

end ReplicatedStore
