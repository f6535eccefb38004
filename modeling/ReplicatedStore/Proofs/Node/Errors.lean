import ReplicatedStore.Proofs.Node.WriteGate
import ReplicatedStore.Proofs.Store.Refusal

/-!
# What an error means

An error that a node answers means that nothing happened to the data: every key holds what it held
and ends when it ended, and no change was counted or recorded (`Node.error_leaves_data`).  Errors
come from the checks, from arguments that cannot be read, from refused operations, from encoded data
that does not decode, and from attaching a replica that does not answer; commands that touch the
data do it after all of these.

Some things that go wrong are no error.  A key that cannot be moved is answered by a zero, and a
recorded change whose turn it is by an acknowledgement, whatever becomes of it.

An error is not without any effect.  It may leave a database without keys behind
(`Operation.opens?`), the command is counted, and attaching a replica may cut its old link.
-/

namespace ReplicatedStore

namespace Operation

/-- A refused operation leaves the data alone. -/
lemma untouched_refused {s : Store} {pick : Nat} {db : String} {op : Operation}
    {fault : StoreError} {edits : List Store.Edit} (now : Nat)
    (h : op.outcome s pick db = .refused fault edits) : s.Untouched (s.edit now edits) := by
  rw [edit_refused now h]
  cases op.opens? db fault with
  | none => exact .refl s
  | some opening => exact s.untouched_ensure opening

/-- What was carried out is not answered by an error. -/
lemma reply_ne_error (op : Operation) (answer : Answer) (message : String) :
    op.reply answer ≠ .error message := by
  cases answer with
  | done => cases op <;> exact Reply.noConfusion
  | data found => cases found <;> exact Reply.noConfusion
  | _ => exact Reply.noConfusion

end Operation

namespace Node

variable (n : Node) (around : Surroundings) (session : Session) {message : String}

/-! ## Commands -/

lemma untouched_edit_error {op : Operation}
    (h : replyOf (n.edit around session op).answer = .error message) :
    n.store.Untouched (n.edit around session op).node.store := by
  unfold edit at h ⊢
  rcases Operation.perform_cases n.store around.now around.pick session.db op with
    ⟨fault, edits, hout, hresult⟩ | ⟨recorded, edits, answer, -, hresult⟩
  · rw [hresult]
    exact Operation.untouched_refused around.now hout
  · rw [hresult] at h
    exact absurd h (op.reply_ne_error answer message)

lemma untouched_replaceAll_error {version : Nat} {data : Bytes}
    (h : replyOf (n.replaceAll around session version data).answer = .error message) :
    n.store.Untouched (n.replaceAll around session version data).node.store := by
  unfold replaceAll at h ⊢
  split
  · rename_i store hreplace
    rw [hreplace] at h
    cases h
  · rename_i fault store hreplace
    rw [Store.replace_refused hreplace]
    exact .refl _

/-- A recorded change is answered by an error only if it was not its turn. -/
lemma untouched_replay_error {envelope : Bytes}
    (h : replyOf (n.replay around session envelope).answer = .error message) :
    n.store.Untouched (n.replay around session envelope).node.store := by
  unfold replay at h ⊢
  cases hread : Change.decode envelope with
  | error fault => exact .refl _
  | ok c =>
    rw [hread] at h
    dsimp only at h ⊢
    cases hcheck : n.checkVersion c with
    | error refusal => exact .refl _
    | ok _ =>
      rw [hcheck] at h
      cases h

/-- A command that is answered by an error leaves the data alone. -/
lemma untouched_run_error {command : Command}
    (h : replyOf (n.run around session command).answer = .error message) :
    n.store.Untouched (n.run around session command).node.store := by
  cases command with
  | edit op => exact n.untouched_edit_error around session h
  | decrement key amount =>
    simp only [run, runOwn] at h ⊢
    split
    · rename_i hfits
      rw [if_pos hfits] at h
      exact n.untouched_edit_error around session h
    · exact .refl _
  | select db => cases h
  | replay envelope => exact n.untouched_replay_error around session h
  | replaceAll version data => exact n.untouched_replaceAll_error around session h
  -- All others leave the data alone, whatever their answer.
  | _ => exact n.untouched_run around session trivial

/-! ## Requests -/

/-- A request that is answered by an error leaves the data alone. -/
lemma untouched_of_error {r : Request} (h : (n.dispatch around session r).1 = .error message) :
    n.store.Untouched (n.dispatch around session r).2.1.store := by
  rcases n.untouched_or_ran around session r with
    huntouched | ⟨v, command, rest, -, -, -, hreply, hleft⟩
  · exact huntouched
  · rw [hreply] at h
    rw [hleft]
    exact n.store.untouched_recordOperation.trans
      ((n.withStore n.store.recordOperation).untouched_run_error around session h)

end Node

end ReplicatedStore
