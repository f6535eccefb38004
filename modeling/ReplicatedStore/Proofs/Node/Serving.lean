import ReplicatedStore.Proofs.Node.Served
import ReplicatedStore.Proofs.Store.Step

/-!
# What a client's request does to the store of a node

A client's request for a change, or to go to another database, is one step of the store of the node
that serves it (`Node.dispatch_advances`), whatever it says and whatever the session is: a request
that is refused, at whatever point, leaves everything as it is, and one that is carried out is
recorded as an operation that can be read back.
-/

namespace ReplicatedStore

/-- Does the request ask for a change? -/
def Request.asksChange (r : Request) : Bool :=
  match Verb.ofName? r.name with
  | some v => v.asksChange
  | none => false

namespace Node

/-- A request for a change that passes the checks is read as one. -/
lemma isChange_of_check {n : Node} {session : Session} {r : Request} {command : Command}
    (hasks : r.asksChange) (hcheck : n.check session r = .ok ())
    (hcommand : Command.ofRequest r = .ok command) :
    command.IsChange n.store session.db := by
  obtain ⟨v, hverb, -, -, hdemand⟩ := verb_of_check hcheck
  rw [Request.asksChange, hverb] at hasks
  rw [Command.ofRequest, hverb] at hcommand
  by_cases hnew : v = .setNew
  · subst hnew
    obtain ⟨key, data, rest, hargs, rfl⟩ := Command.setNew_of_ofArguments hcommand
    rw [hargs] at hdemand
    have hmet := checkDemand_eq_ok.mp hdemand (Bytes.ofText key) rfl
    rw [Bytes.lossyText_ofText] at hmet
    exact ⟨trivial, hmet.symm⟩
  · obtain ⟨rest, hrun⟩ := Command.run_of_ofArguments hcommand
    exact Command.yields_isChange hasks hnew n.store session.db r.args command rest hrun

/-- A store is taken one step, for which it accounts. -/
def Advances (now : Nat) (s t : Store) : Prop :=
  t.authority = s.authority ∧ ∃ changes, Store.Step now s t changes ∧ s.Commits changes t

/-- Nothing happens where neither contents nor counters of changes move. -/
lemma Advances.quiet {now : Nat} {s t : Store} (hcontents : s.SameContents t)
    (hversion : t.revision = s.revision) (hjournal : t.journal = s.journal)
    (hauthority : t.authority = s.authority) : Advances now s t :=
  ⟨hauthority, [], .quiet hcontents hversion, .of_eq hversion hjournal⟩

/-- One step is progress. -/
lemma Advances.progress {now : Nat} {s t : Store} (h : Advances now s t) :
    Store.Progress now s t := by
  obtain ⟨hauthority, changes, hstep, hcommits⟩ := h
  exact ⟨hauthority, changes, hstep.trail (Nat.le_refl now), hcommits⟩

lemma Advances.perform (s : Store) (now : Nat) (op : Operation) (pick : Nat) (db : String)
    (hrecordable : op.Recordable) (hsuited : op.Suited s db) :
    Advances now s (op.perform s now pick db).2 :=
  ⟨s.authority_perform now op pick db, _, s.perform_step now op pick db hrecordable hsuited,
    s.perform_commits now op pick db⟩

/-- A change that runs takes the store one step. -/
lemma run_advances (n : Node) (around : Surroundings) (session : Session) {command : Command}
    (h : command.IsChange n.store session.db) :
    Advances around.now n.store (n.run around session command).node.store := by
  cases command with
  | edit op => exact .perform n.store around.now op around.pick session.db h.1 h.2
  | decrement key amount =>
    simp only [run, runOwn]
    split
    · rename_i hfits
      exact .perform n.store around.now (.add key (-amount)) around.pick session.db hfits trivial
    · exact .quiet (.refl _) rfl rfl rfl
  | select db =>
    simp only [run, runOwn, select, store_withStore]
    split
    · exact .perform n.store around.now .select around.pick db trivial trivial
    · exact .quiet (fun d k => ⟨n.store.value?_ensure db d k, rfl⟩) rfl rfl rfl
  | _ => exact h.elim

/-- Counting a command before a step is part of the step. -/
lemma Advances.recordOperation {now : Nat} {s t : Store} (h : Advances now s.recordOperation t) :
    Advances now s t := by
  obtain ⟨hauthority, changes, hstep, hcommits⟩ := h
  exact ⟨hauthority, changes, .of_same (t := s.recordOperation) (.refl s) rfl hstep,
    ⟨hcommits.revision_le, hcommits.versions, hcommits.recording, hcommits.pending⟩⟩

/-- **A client's request for a change is one step of the store**, and the store accounts for it. -/
theorem dispatch_advances (n : Node) (around : Surroundings) (session : Session) {r : Request}
    (hasks : r.asksChange) :
    Advances around.now n.store (n.dispatch around session r).2.1.store := by
  have hserved := n.served_dispatch around session r
  generalize (n.dispatch around session r).2.1 = after at hserved
  cases hserved with
  | refused => exact .quiet (.refl _) rfl rfl rfl
  | misread => exact .quiet (.refl _) rfl rfl rfl
  | attached passed read => exact (isChange_of_check hasks passed read).elim
  | ran passed read =>
    have hran := (n.withStore n.store.recordOperation).run_advances around session
      (isChange_of_check hasks passed read)
    rw [store_saveIfDue]
    exact hran.recordOperation

end Node

end ReplicatedStore
