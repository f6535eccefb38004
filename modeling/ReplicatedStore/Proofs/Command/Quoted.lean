import ReplicatedStore.Node.Basic
import ReplicatedStore.Proofs.Command.Recorded
import ReplicatedStore.Proofs.Text.Line
import ReplicatedStore.Proofs.Text.Split

/-!
# What messages quote

Many messages quote a text of the request they answer.  `quoted` names these texts, for every fault
and for every command, and a message is one line if what it quotes is (`isLine_message`).  Reading
the arguments of a request keeps to them: of arguments without a line end it makes a command, or a
fault, that quotes no line end (`Command.quoted_of_ofRequest`).
-/

namespace ReplicatedStore

open Text (IsLine IsPlain isLine_quote)

/-! ## Faults -/

/-- The texts that the message about the fault quotes. -/
def CommandError.quoted : CommandError → List String
  | .unknownCommand name | .wrongArity name _ _ => [name]
  | .invalidArgument command argument => [command, argument]
  | .notInteger text | .invalidExpiration text => [text]
  | .notText | .missingArgument => []

/-- The texts that the message about the fault quotes. -/
def StoreError.quoted : StoreError → List String
  | .missing key => [key]
  | .notKnown key db | .alreadyExists key db => [key, db]
  | .invalidPattern pattern => [pattern]
  | .sort (.missingWeight key) => [key]
  | .sort (.notNumber weight) => [weight.lossyText]
  | .noSuchKey | .wrongType | .sameName | .notAnInteger | .indexOutOfRange | .versionMismatch _ _
  | .snapshot _ => []

/-- The texts that the message about the refusal quotes. -/
def Refusal.quoted : Refusal → List String
  | .command fault => fault.quoted
  | .store fault => fault.quoted
  | .notAuthenticated | .readOnly | .shuttingDown | .format _ => []

lemma CommandError.isLine_message {fault : CommandError} (h : ∀ t ∈ fault.quoted, IsLine t) :
    IsLine fault.message := by
  cases fault with
  | unknownCommand name =>
    exact isLine_quote (h name (by simp [quoted])) (by decide) (by decide)
  | wrongArity name expected actual =>
    have hname : IsLine ("poorly formed command " ++ name ++ " - missing arguments. Expected ") :=
      isLine_quote (h name (by simp [quoted])) (by decide) (by decide)
    exact ((hname.before (Decimal.plain_ofNat expected)).before (by decide)).before
      (Decimal.plain_ofNat actual)
  | invalidArgument command argument =>
    have hcommand : IsLine command := h command (by simp [quoted])
    have hargument : IsLine ("invalid argument '" ++ argument) :=
      (h argument (by simp [quoted])).after (by decide)
    exact hargument.join hcommand (by decide) (by decide)
  | notInteger text => exact isLine_quote (h text (by simp [quoted])) (by decide) (by decide)
  | invalidExpiration text =>
    exact isLine_quote (h text (by simp [quoted])) (by decide) (by decide)
  | notText => decide
  | missingArgument => decide

lemma DataFault.isPlain_message (fault : DataFault) : IsPlain fault.message := by
  cases fault with
  | countTooLarge count remaining =>
    have hcount : IsPlain ("count " ++ Decimal.ofNat count) :=
      IsPlain.append (by decide) (Decimal.plain_ofNat count)
    have hboth := (hcount.append (b := " exceeds the remaining ") (by decide)).append
      (Decimal.plain_ofNat remaining)
    exact hboth.append (by decide)
  | nameNotText => decide
  | negativeVersion version => exact IsPlain.append (by decide) (Decimal.plain_ofInt version)

lemma FormatError.isPlain_message (fault : FormatError) : IsPlain fault.message := by
  cases fault with
  | unexpectedEnd => decide
  | badMagic => decide
  | unsupportedVersion version => exact IsPlain.append (by decide) (Decimal.plain_ofNat _)
  | checksumMismatch expected actual =>
    have hexpected : IsPlain ("crc32 mismatch (expected " ++ hexWord expected) :=
      IsPlain.append (by decide) (plain_hexWord expected)
    exact ((hexpected.append (b := ", got ") (by decide)).append (plain_hexWord actual)).append
      (by decide)
  | unknownTag tag => exact IsPlain.append (by decide) (Decimal.plain_ofNat _)
  | invalidData fault => exact IsPlain.append (by decide) fault.isPlain_message
  | tooLong length =>
    have hlength : IsPlain ("length " ++ Decimal.ofNat length) :=
      IsPlain.append (by decide) (Decimal.plain_ofNat length)
    exact hlength.append (by decide)
  | file fault => cases fault <;> decide

lemma StoreError.isLine_message {fault : StoreError} (h : ∀ t ∈ fault.quoted, IsLine t) :
    IsLine fault.message := by
  cases fault with
  | missing key => exact (h key (by simp [quoted])).before (by decide)
  | notKnown key db =>
    exact (h key (by simp [quoted])).join (h db (by simp [quoted])) (by decide) (by decide)
  | alreadyExists key db =>
    exact (h key (by simp [quoted])).join (h db (by simp [quoted])) (by decide) (by decide)
  | invalidPattern pattern =>
    exact isLine_quote (h pattern (by simp [quoted])) (by decide) (by decide)
  | sort fault =>
    cases fault with
    | missingWeight key => exact isLine_quote (h key (by simp [quoted])) (by decide) (by decide)
    | notNumber weight =>
      exact isLine_quote (h weight.lossyText (by simp [quoted])) (by decide) (by decide)
  | snapshot fault => exact isLine_quote fault.isPlain_message.isLine (by decide) (by decide)
  | noSuchKey => decide
  | wrongType => decide
  | sameName => decide
  | notAnInteger => decide
  | indexOutOfRange => decide
  | versionMismatch expected actual =>
    have hmessage : IsLine "version mismatch" := by decide
    exact hmessage

lemma Refusal.isLine_message {refusal : Refusal} (h : ∀ t ∈ refusal.quoted, IsLine t) :
    IsLine refusal.message := by
  cases refusal with
  | command fault => exact CommandError.isLine_message h
  | store fault => exact StoreError.isLine_message h
  | format fault => exact fault.isPlain_message.isLine
  | notAuthenticated => decide
  | readOnly => decide
  | shuttingDown => decide

/-! ## Commands -/

/-- The texts of the operation that are quoted when it is refused. -/
def Operation.quoted : Operation → List String
  | .rename source _ | .renameNew source _ => [source]
  | _ => []

/-- The texts of the query that are quoted when it is refused, SORT apart, which quotes what the
store holds. -/
def Query.quoted : Query → List String
  | .keysMatching pattern => [pattern]
  | _ => []

namespace Command

/-- The texts of the command that are quoted when it is refused. -/
def quoted : Command → List String
  | .edit op => op.quoted
  | .ask q => q.quoted
  | .attach replica => [replica.host]
  | _ => []

/-- Read from arguments without line ends, what is found has the property, what is left is without
line ends, and a fault quotes none. -/
def Keeps {α : Type} (reading : Reading α) (p : α → Prop) : Prop :=
  ∀ args, (∀ arg ∈ args, Bytes.hasLineEnd arg = false) →
    match reading.run args with
    | .ok (a, rest) => p a ∧ ∀ arg ∈ rest, Bytes.hasLineEnd arg = false
    | .error fault => ∀ t ∈ fault.quoted, IsLine t

section Keeps

variable {α β : Type} {reading : Reading α} {p : α → Prop} {q : β → Prop}

lemma Keeps.pure {a : α} (h : p a) : Keeps (Pure.pure a) p :=
  fun _ hargs => ⟨h, hargs⟩

lemma Keeps.throw {fault : CommandError} (h : ∀ t ∈ fault.quoted, IsLine t) :
    Keeps (MonadExcept.throw fault : Reading α) p :=
  fun _ _ => h

lemma Keeps.bind (h : Keeps reading p) {next : α → Reading β}
    (hnext : ∀ a, p a → Keeps (next a) q) : Keeps (reading >>= next) q := by
  intro args hargs
  have hfirst := h args hargs
  rw [StateT.run_bind]
  cases hrun : reading.run args with
  | error fault =>
    rw [hrun] at hfirst
    exact hfirst
  | ok found =>
    rw [hrun] at hfirst
    exact hnext found.1 hfirst.1 found.2 hfirst.2

lemma Keeps.map (h : Keeps reading p) {f : α → β} (hf : ∀ a, p a → q (f a)) :
    Keeps (do return f (← reading)) q :=
  h.bind fun a ha => .pure (hf a ha)

end Keeps

lemma keeps_get : Keeps get fun args => ∀ arg ∈ args, Bytes.hasLineEnd arg = false :=
  fun _ hargs => ⟨hargs, hargs⟩

lemma keeps_nextData : Keeps nextData fun arg => Bytes.hasLineEnd arg = false := by
  intro args hargs
  cases args with
  | nil =>
    intro t ht
    cases ht
  | cons arg rest =>
    exact ⟨hargs arg List.mem_cons_self, fun b hb => hargs b (List.mem_cons_of_mem _ hb)⟩

/-- An argument without a line end is a text without one, or no text. -/
lemma keeps_textOf {arg : Bytes} (h : Bytes.hasLineEnd arg = false) :
    Keeps (liftM (textOf arg)) IsLine := by
  intro args hargs
  unfold textOf
  cases htext : arg.text? with
  | none =>
    intro t ht
    cases ht
  | some text =>
    rw [Bytes.eq_ofText_of_text? htext] at h
    exact ⟨h, hargs⟩

lemma keeps_nextText : Keeps nextText IsLine :=
  keeps_nextData.bind fun _ harg => keeps_textOf harg

lemma keeps_integerOf {text : String} (h : IsLine text) :
    Keeps (liftM (integerOf text)) fun _ => True := by
  intro args hargs
  unfold integerOf
  cases Decimal.read? Decimal.signed64 (Bytes.ofText text) with
  | none =>
    intro t ht
    rw [List.mem_singleton.mp ht]
    exact h
  | some value => exact ⟨trivial, hargs⟩

lemma keeps_nextInteger : Keeps nextInteger fun _ => True :=
  keeps_nextText.bind fun _ htext => keeps_integerOf htext

lemma keeps_nextExpiration : Keeps nextExpiration fun _ => True := by
  refine keeps_nextText.bind fun text htext => ?_
  cases integerOf text with
  | ok seconds => exact .pure trivial
  | error fault => exact .throw (by simpa [CommandError.quoted] using htext)

lemma keeps_nextVersion : Keeps nextVersion fun _ => True := by
  refine keeps_nextText.bind fun text htext => ?_
  cases Decimal.read? Decimal.unsigned64 (Bytes.ofText text) with
  | some number => exact .pure trivial
  | none => exact .throw (by simpa [CommandError.quoted] using htext)

lemma keeps_nextCount : Keeps nextCount fun _ => True := by
  refine keeps_nextInteger.bind fun value _ => ?_
  split
  · exact .throw (by simpa [CommandError.quoted] using (Decimal.plain_ofInt value).isLine)
  · exact .pure trivial

lemma keeps_mapM_textOf {args : List Bytes} (h : ∀ arg ∈ args, Bytes.hasLineEnd arg = false) :
    Keeps (args.mapM fun arg => (liftM (textOf arg) : Reading String)) fun _ => True := by
  induction args with
  | nil => exact .pure trivial
  | cons arg rest ih =>
    rw [List.mapM_cons]
    exact (keeps_textOf (h arg List.mem_cons_self)).bind fun _ _ =>
      (ih fun b hb => h b (List.mem_cons_of_mem _ hb)).bind fun _ _ => .pure trivial

lemma keeps_remainingTexts : Keeps remainingTexts fun _ => True := by
  refine keeps_nextText.bind fun _ _ => keeps_get.bind fun args hargs => ?_
  refine (keeps_mapM_textOf hargs).bind fun _ _ => ?_
  have hset : Keeps (set ([] : List Bytes)) fun _ => True := by
    intro _ _
    refine ⟨trivial, ?_⟩
    intro arg harg
    cases harg
  exact hset.bind fun _ _ => .pure trivial

lemma keeps_sortOption (options : SortOptions) (word : SortWord) :
    Keeps (sortOption options word) fun _ => True := by
  cases word with
  | weight => exact keeps_nextText.map fun _ _ => trivial
  | answer => exact keeps_nextText.map fun _ _ => trivial
  | part => exact keeps_nextCount.bind fun _ _ => keeps_nextCount.map fun _ _ => trivial
  | blank => exact .pure trivial
  | ascending => exact .pure trivial
  | descending => exact .pure trivial
  | alpha => exact .pure trivial

lemma keeps_sortOptions (budget : Nat) (options : SortOptions) :
    Keeps (sortOptions budget options) fun _ => True := by
  induction budget generalizing options with
  | zero => exact .pure trivial
  | succ budget ih =>
    refine keeps_get.bind fun args _ => ?_
    split
    · exact .pure trivial
    · refine keeps_nextText.bind fun text htext => ?_
      split
      · have hsort : IsLine "sort" := by decide
        exact .throw (by simpa [CommandError.quoted] using ⟨hsort, htext⟩)
      · exact (keeps_sortOption options _).bind fun options _ => ih options

/-- The host of an address is a part of its text. -/
lemma isLine_host {text : String} {replica : Address} (h : IsLine text)
    (hread : Address.ofText? text = some replica) : IsLine replica.host := by
  unfold Address.ofText? at hread
  cases hsplit : Text.splitLast? ':' text.toList with
  | none =>
    rw [hsplit] at hread
    cases hread
  | some parts =>
    obtain ⟨host, port⟩ := parts
    rw [hsplit] at hread
    obtain ⟨number, -, rfl⟩ := Option.map_eq_some_iff.mp hread
    have htext : text = String.ofList host ++ (":" ++ String.ofList port) := by
      have hlist := Text.eq_of_splitLast? hsplit
      apply String.toList_injective
      simp [hlist]
    show IsLine (Address.hostOf host)
    unfold Address.hostOf
    split
    · decide
    · rw [htext] at h
      exact h.of_append

lemma keeps_readAttach {name : String} (hname : IsPlain name) :
    Keeps (readAttach name) fun command => ∀ t ∈ command.quoted, IsLine t := by
  refine keeps_nextText.bind fun address haddress => ?_
  split
  · rename_i replica hread
    refine .pure ?_
    intro t ht
    rw [List.mem_singleton.mp ht]
    exact isLine_host haddress hread
  · exact .throw (by simpa [CommandError.quoted] using ⟨hname.isLine, haddress⟩)

/-- The arguments of any command. -/
lemma keeps_readArguments (v : Verb) :
    Keeps (readArguments v) fun command => ∀ t ∈ command.quoted, IsLine t := by
  have hnone : ∀ command : Command, command.quoted = [] → ∀ t ∈ command.quoted, IsLine t := by
    intro command h t ht
    rw [h] at ht
    cases ht
  have hkey : ∀ make : String → Command, (∀ key, (make key).quoted = []) →
      Keeps (do return make (← nextText)) fun command => ∀ t ∈ command.quoted, IsLine t :=
    fun make hmake => keeps_nextText.map fun key _ => hnone (make key) (hmake key)
  have hkeys : ∀ make : List String → Command, (∀ keys, (make keys).quoted = []) →
      Keeps (do return make (← remainingTexts)) fun command => ∀ t ∈ command.quoted, IsLine t :=
    fun make hmake => keeps_remainingTexts.map fun keys _ => hnone (make keys) (hmake keys)
  have hdata : ∀ make : Bytes → Command, (∀ data, (make data).quoted = []) →
      Keeps (do return make (← nextData)) fun command => ∀ t ∈ command.quoted, IsLine t :=
    fun make hmake => keeps_nextData.map fun data _ => hnone (make data) (hmake data)
  have hinteger : ∀ make : Int → Command, (∀ i, (make i).quoted = []) →
      Keeps (do return make (← nextInteger)) fun command => ∀ t ∈ command.quoted, IsLine t :=
    fun make hmake => keeps_nextInteger.map fun i _ => hnone (make i) (hmake i)
  cases v
  case get | has | keys | type | timeToLive | increment | decrement | listLength | popHead
      | popTail | memberCount | members | popMember | select | auth => exact hkey _ fun _ => rfl
  case getMany | remove | removeList | intersect | unite | subtract => exact hkeys _ fun _ => rfl
  case set | setNew | getSet | pushHead | pushTail | addMember | isMember | removeMember =>
    exact keeps_nextText.bind fun _ _ => hdata _ fun _ => rfl
  case incrementBy | decrementBy | itemAt =>
    exact keeps_nextText.bind fun _ _ => hinteger _ fun _ => rfl
  case intersectInto | uniteInto | subtractInto =>
    exact keeps_nextText.bind fun _ _ => hkeys _ fun _ => rfl
  case move => exact keeps_nextText.bind fun _ _ => hkey _ fun _ => rfl
  case moveMember =>
    exact keeps_nextText.bind fun _ _ => keeps_nextText.bind fun _ _ => hdata _ fun _ => rfl
  case listRange | trim =>
    exact keeps_nextText.bind fun _ _ => keeps_nextInteger.bind fun _ _ => hinteger _ fun _ => rfl
  case setItem | removeItems =>
    exact keeps_nextText.bind fun _ _ => keeps_nextInteger.bind fun _ _ => hdata _ fun _ => rfl
  case replay => exact hdata _ fun _ => rfl
  case replaceAll => exact keeps_nextVersion.bind fun _ _ => hdata _ fun _ => rfl
  case expire =>
    exact keeps_nextText.bind fun _ _ => keeps_nextExpiration.map fun _ _ => hnone _ rfl
  case sort =>
    exact keeps_nextText.bind fun _ _ => keeps_get.bind fun _ _ =>
      (keeps_sortOptions _ _).map fun _ _ => hnone _ rfl
  -- The others quote what they were given.
  case matching =>
    refine keeps_nextText.map fun pattern hpattern => ?_
    simpa [quoted, Query.quoted] using hpattern
  case rename | renameNew =>
    refine keeps_nextText.bind fun source hsource => keeps_nextText.map fun _ _ => ?_
    simpa [quoted, Operation.quoted] using hsource
  case attach | attachSubordinate => exact keeps_readAttach (by decide)
  all_goals exact .pure (hnone _ rfl)

/-- **A request without line ends is read as a command, or refused, without any.** -/
theorem quoted_of_ofRequest {r : Request} (hname : IsLine r.name)
    (hargs : ∀ arg ∈ r.args, Bytes.hasLineEnd arg = false) :
    match ofRequest r with
    | .ok command => ∀ t ∈ command.quoted, IsLine t
    | .error fault => ∀ t ∈ fault.quoted, IsLine t := by
  unfold ofRequest
  cases Verb.ofName? r.name with
  | none =>
    intro t ht
    rw [List.mem_singleton.mp ht]
    exact hname
  | some v =>
    have hkeeps := keeps_readArguments v r.args hargs
    show match ofArguments v r.args with
      | .ok command => ∀ t ∈ command.quoted, IsLine t
      | .error fault => ∀ t ∈ fault.quoted, IsLine t
    rw [ofArguments, StateT.run'_eq]
    cases hrun : (readArguments v).run r.args with
    | error fault =>
      rw [hrun] at hkeeps
      exact hkeeps
    | ok found =>
      rw [hrun] at hkeeps
      exact hkeeps.1

end Command

end ReplicatedStore
