import CommonsMQ.Lib.Operation
import CommonsMQ.Listener.Handoff
import CommonsMQ.RequestReply.Steps
import CommonsMQ.Sender.Steps

/-! # Correlation identifiers

Three operations put the message that a creator has left behind, and each reads its
`CorrelationID` on its own. They are compared here as operations that emit what they
put; of the three, only the fixed-queue flow rejects a text that is not an identifier.
-/

namespace CommonsMQ

open Interleave Memory Operation

/-! ## The three operations -/

/-- How an operation ended; `none` is a panic. -/
abbrev Ending (β : Type) := Option (Except GoError β)

def FlowOutcome.progress {π : Type} : FlowOutcome π → Progress π (Ending (Message Bytes))
  | .running pc => .running pc
  | .returned result => .ended (some result)
  | .panicked => .ended none

def PutOutcome.progress (attempt : PutAttempt) :
    PutOutcome → Progress (PutAttempt × PutPc) (Ending String)
  | .running pc => .running (attempt, pc)
  | .returned result => .ended (some result)
  | .panicked => .ended none

/-- `put` with a creator. Other sends run in between, so that each step finds a sender of
    its own. -/
def putOperation (queueName : String) (span : Option SpanContext) :
    PutAttempt × PutPc → Sender × SendAnswer →
      Option (List Queued × Progress (PutAttempt × PutPc) (Ending String)) :=
  fun (attempt, pc) (s, answer) =>
    (put s queueName true span attempt pc answer).map fun (s', attempt', out) =>
      (s'.queues.drop s.queues.length, out.progress attempt')

def tempOperation (spec : RequestSpec) :
    TempPc → RRAnswer → Option (List Queued × Progress TempPc (Ending (Message Bytes))) :=
  fun pc answer =>
    (requestReplyViaTempQueue spec pc answer).map fun (put, out) => (put.toList, out.progress)

def fixedOperation (spec : RequestSpec) (replyQueue : String) :
    FixedPc → RRAnswer → Option (List Queued × Progress FixedPc (Ending (Message Bytes))) :=
  fun pc answer => (requestReplyViaFixedQueue spec replyQueue pc answer).map
    fun (put, out) => (put.toList, out.progress)

/-! ## Encoding or rejecting -/

/-- `id` has the bytes that `correlationID` is the hex of, and then zeros. -/
def Encodes (correlationID : String) (id : MsgId) : Prop :=
  ∃ bytes, Hex.Spells correlationID bytes ∧ bytes.length ≤ idLength ∧
    id.bytes = bytes ++ List.replicate (idLength - bytes.length) 0

/-- The hex of at most `idLength` bytes. -/
def IsIdentifier (correlationID : String) : Prop :=
  ∃ bytes, Hex.Spells correlationID bytes ∧ bytes.length ≤ idLength

section Property

variable {σ α β : Type} (step : σ → α → Option (List Queued × Progress σ (Ending β)))

/-- After the creator's return in `first`, all that the operation puts is stamped with the
    identifier, and if it ends without having put anything, then with an error. -/
structure EncodesOrRejects (correlationID : String) (at_creator : σ) (first : α) : Prop where
  goesOn : (step at_creator first).isSome = true
  encoded : ∀ rest puts p, exec step (.running at_creator) (first :: rest) = some (puts, p) →
    ∀ queued ∈ puts, Encodes correlationID queued.md.correlId
  rejected : ∀ rest result, exec step (.running at_creator) (first :: rest) =
    some ([], .ended result) → ∃ err, result = some (.error err)

/-- Some run of the operation puts `queued`. -/
def Puts (at_creator : σ) (first : α) (queued : Queued) : Prop :=
  ∃ rest puts p, exec step (.running at_creator) (first :: rest) = some (puts, p) ∧ queued ∈ puts

end Property

/-! ## One stamp for all that is put -/

inductive Stage where
  | asking
  | stamping (id : MsgId)
  | stamped

/-- What a step may put and where it may go: from the creator's return on, there is one
    identifier ahead until a message is put. -/
inductive StampStep {σ β : Type} (stage : σ → Stage) :
    Stage → List Queued → Progress σ (Ending β) → Prop where
  | early {out p} : StampStep stage .asking out p
  | moved {id s} : stage s = .stamping id → StampStep stage (.stamping id) [] (.running s)
  | failed {id err} : StampStep stage (.stamping id) [] (.ended (some (.error err)))
  | put {id queued s} : queued.md.correlId = id → stage s = .stamped →
      StampStep stage (.stamping id) [queued] (.running s)
  | putEnded {id queued result} : queued.md.correlId = id →
      StampStep stage (.stamping id) [queued] (.ended result)
  | ended {result} : StampStep stage .stamped [] (.ended result)

/-- Nothing was put while `id` is ahead, and then only messages stamped with `id`. -/
def Stamped {σ β : Type} (stage : σ → Stage) (id : MsgId) (puts : List Queued) :
    Progress σ (Ending β) → Prop
  | .running s => stage s = .stamping id ∧ puts = [] ∨
      stage s = .stamped ∧ puts ≠ [] ∧ ∀ queued ∈ puts, queued.md.correlId = id
  | .ended result => (puts = [] → ∃ err, result = some (.error err)) ∧
      ∀ queued ∈ puts, queued.md.correlId = id

section Stamps

variable {σ α β : Type} {step : σ → α → Option (List Queued × Progress σ (Ending β))}
  {stage : σ → Stage} {id : MsgId}

theorem Stamped.next {before out : List Queued} {s : σ} {p : Progress σ (Ending β)}
    (stamped : Stamped (β := β) stage id before (.running s))
    (step : StampStep stage (stage s) out p) : Stamped stage id (before ++ out) p := by
  generalize here : stage s = current at step
  simp only [Stamped, here] at stamped
  cases step with
  | early =>
      obtain ⟨own, -⟩ | ⟨own, -⟩ := stamped <;> cases own
  | moved same =>
      obtain ⟨own, rfl⟩ | ⟨own, -⟩ := stamped
      · cases own
        exact .inl ⟨same, rfl⟩
      · cases own
  | failed =>
      obtain ⟨own, rfl⟩ | ⟨own, -⟩ := stamped
      · exact ⟨fun _ => ⟨_, rfl⟩, by simp⟩
      · cases own
  | put same done =>
      obtain ⟨own, rfl⟩ | ⟨own, -⟩ := stamped
      · cases own
        exact .inr ⟨done, by simp, by simpa using same⟩
      · cases own
  | putEnded same =>
      obtain ⟨own, rfl⟩ | ⟨own, -⟩ := stamped
      · cases own
        exact ⟨by simp, by simpa using same⟩
      · cases own
  | ended =>
      obtain ⟨own, -⟩ | ⟨-, some, all⟩ := stamped
      · cases own
      · rw [List.append_nil]
        exact ⟨fun none => absurd none some, all⟩

theorem Stamped.run (steps : ∀ s a out p, step s a = some (out, p) →
      StampStep stage (stage s) out p)
    {puts more : List Queued} {p q : Progress σ (Ending β)} {answers : List α}
    (stamped : Stamped stage id puts p) (run : exec step p answers = some (more, q)) :
    Stamped stage id (puts ++ more) q := by
  refine exec_invariant ?_ stamped run
  intro before s a out p inv stepped
  exact Stamped.next inv (steps s a out p stepped)

theorem Stamped.correlId {puts : List Queued} {p : Progress σ (Ending β)}
    (stamped : Stamped stage id puts p) : ∀ queued ∈ puts, queued.md.correlId = id := by
  cases p with
  | ended => exact stamped.2
  | running =>
      obtain ⟨-, rfl⟩ | ⟨-, -, all⟩ := stamped
      · simp
      · exact all

variable {at_creator s : σ} {first : α} {correlationID : String}

theorem Stamped.after_creator {rest : List α} {puts : List Queued} {q : Progress σ (Ending β)}
    (run : exec step (.running at_creator) (first :: rest) = some (puts, q))
    (steps : ∀ s a out p, step s a = some (out, p) → StampStep stage (stage s) out p)
    (returned : step at_creator first = some ([], .running s)) (ahead : stage s = .stamping id) :
    Stamped stage id puts q := by
  obtain ⟨out, p, more, stepped, onward, rfl⟩ := exec_cons run
  obtain ⟨rfl, rfl⟩ := Prod.mk.inj (Option.some.inj (returned.symm.trans stepped))
  have start : Stamped (β := β) stage id [] (.running s) := .inl ⟨ahead, rfl⟩
  exact start.run steps onward

theorem Puts.correlId {queued : Queued} (put : Puts step at_creator first queued)
    (steps : ∀ s a out p, step s a = some (out, p) → StampStep stage (stage s) out p)
    (returned : step at_creator first = some ([], .running s)) (ahead : stage s = .stamping id) :
    queued.md.correlId = id := by
  obtain ⟨rest, puts, p, run, member⟩ := put
  exact (Stamped.after_creator run steps returned ahead).correlId queued member

theorem encodesOrRejects_iff (steps : ∀ s a out p, step s a = some (out, p) →
      StampStep stage (stage s) out p)
    (returned : step at_creator first = some ([], .running s)) (ahead : stage s = .stamping id)
    (accepts : ∃ queued, Puts step at_creator first queued) :
    EncodesOrRejects step correlationID at_creator first ↔ Encodes correlationID id := by
  constructor
  · intro kept
    obtain ⟨queued, put⟩ := accepts
    rw [← put.correlId steps returned ahead]
    obtain ⟨rest, puts, p, run, member⟩ := put
    exact kept.encoded rest puts p run queued member
  · intro encodes
    refine ⟨by simp [returned], ?_, ?_⟩
    · intro rest puts p run queued member
      have put : Puts step at_creator first queued := ⟨rest, puts, p, run, member⟩
      rw [put.correlId steps returned ahead]
      exact encodes
    · intro rest result run
      exact (Stamped.after_creator run steps returned ahead).1 rfl

end Stamps

def putStage : PutAttempt × PutPc → Stage
  | (_, .openQueue) | (_, .runCreator) => .asking
  | (_, .mqput msg) => .stamping (correlIdOf msg.correlationID)

theorem putOperation_stamps {queueName span} {pos : PutAttempt × PutPc} {a out p}
    (stepped : putOperation queueName span pos a = some (out, p)) :
    StampStep putStage (putStage pos) out p := by
  obtain ⟨attempt, pc⟩ := pos
  obtain ⟨s, answer⟩ := a
  obtain ⟨⟨s', attempt', outcome⟩, moved, same⟩ := Option.map_eq_some_iff.mp stepped
  obtain ⟨rfl, rfl⟩ := Prod.mk.inj same
  cases put_step moved with
  | opened | openFailed | noCreator | created | creatorFailed | panicked => exact .early
  | putOk | putUncertain =>
      simp only [Sender.landed, List.drop_left]
      exact .putEnded rfl
  | putFailed =>
      rw [List.drop_length]
      exact .failed

def tempStage : TempPc → Stage
  | .openReply | .runCreator _ => .asking
  | .openRequest _ msg | .mqput _ msg => .stamping (correlIdOf msg.correlationID)
  | .get _ _ => .stamped

def fixedStage : FixedPc → Stage
  | .generate | .runCreator _ => .asking
  | .openReply key _ | .openRequest key _ | .mqput key _ => .stamping key
  | .get _ _ => .stamped

theorem fixedOperation_stamps {spec replyQueue} {pc : FixedPc} {a out p}
    (stepped : fixedOperation spec replyQueue pc a = some (out, p)) :
    StampStep fixedStage (fixedStage pc) out p := by
  obtain ⟨⟨put, outcome⟩, moved, same⟩ := Option.map_eq_some_iff.mp stepped
  obtain ⟨rfl, rfl⟩ := Prod.mk.inj same
  cases requestReplyViaFixedQueue_step moved with
  | @failed pc _ _ early =>
      cases pc with
      | generate | runCreator => exact .early
      | openReply | openRequest => exact .failed
      | mqput | get => cases early
  | panicked | generated | created => exact .early
  | openedReply | openedRequest => exact .moved rfl
  | put => exact .put rfl rfl
  | @putFailed _ _ _ landed =>
      cases landed with
      | none => exact .failed
      | some id => exact .putEnded rfl
  | got | getFailed => exact .ended

theorem tempOperation_stamps {spec} {pc : TempPc} {a out p}
    (stepped : tempOperation spec pc a = some (out, p)) :
    StampStep tempStage (tempStage pc) out p := by
  obtain ⟨⟨put, outcome⟩, moved, same⟩ := Option.map_eq_some_iff.mp stepped
  obtain ⟨rfl, rfl⟩ := Prod.mk.inj same
  cases requestReplyViaTempQueue_step moved with
  | @failed pc _ _ early =>
      cases pc with
      | openReply | runCreator => exact .early
      | openRequest => exact .failed
      | mqput | get => cases early
  | panicked | openedReply | created => exact .early
  | openedRequest => exact .moved rfl
  | put => exact .put rfl rfl
  | @putFailed _ _ _ landed =>
      cases landed with
      | none => exact .failed
      | some id => exact .putEnded rfl
  | got | getFailed => exact .ended

/-! ## Reading the identifier -/

theorem zero_copy_bytes {bytes : Bytes} (fits : bytes.length ≤ idLength) :
    (MsgId.zero.copy bytes).bytes = bytes ++ List.replicate (idLength - bytes.length) 0 := by
  simp [MsgId.copy, MsgId.zero, List.take_of_length_le fits]

theorem Encodes.isIdentifier {correlationID : String} {id : MsgId}
    (encodes : Encodes correlationID id) : IsIdentifier correlationID := by
  obtain ⟨bytes, spells, fits, -⟩ := encodes
  exact ⟨bytes, spells, fits⟩

/-- A text that is an identifier is read the same way on all three paths. -/
theorem IsIdentifier.read {correlationID : String} (valid : IsIdentifier correlationID)
    (given : correlationID ≠ "") (generated : MsgId) :
    Encodes correlationID (correlIdOf correlationID) ∧
      correlationKey generated correlationID = .ok (correlIdOf correlationID) := by
  obtain ⟨bytes, spells, fits⟩ := valid
  have decoded := Hex.decodeString_eq_some_iff.mpr spells
  have read : correlIdOf correlationID = MsgId.zero.copy bytes := by
    simp only [correlIdOf, given, decoded, fits, if_true, if_false]
  have key : correlationKey generated correlationID = .ok (MsgId.zero.copy bytes) := by
    simp only [correlationKey, given, decoded, Nat.not_lt.mpr fits, if_false]
  rw [read]
  exact ⟨⟨bytes, spells, fits, zero_copy_bytes fits⟩, key⟩

/-- The fixed-queue flow rejects any other text. -/
theorem correlationKey_rejects {correlationID : String} (given : correlationID ≠ "")
    (invalid : ¬IsIdentifier correlationID) (generated : MsgId) :
    correlationKey generated correlationID = .error (invalidCorrelationID correlationID) := by
  unfold correlationKey
  rw [if_neg given]
  split
  · rfl
  · rename_i bytes decoded
    rw [if_pos]
    by_contra fits
    exact invalid ⟨bytes, Hex.decodeString_eq_some_iff.mp decoded, Nat.not_lt.mp fits⟩

@[simp] theorem injectToMessage_correlationID {β : Type} (p : Propagator)
    (ctx : Option SpanContext) (msg : Message β) :
    (injectToMessage p ctx msg).correlationID = msg.correlationID := rfl

/-! ## The three operations compared -/

/-- One call of each operation, with its creator about to return. -/
structure ThreeCalls where
  queueName : String
  span : Option SpanContext
  attempt : PutAttempt
  sender : Sender
  tempSpec : RequestSpec
  tempCreator : tempSpec.hasCreator = true
  tempQueue : String
  fixedSpec : RequestSpec
  fixedCreator : fixedSpec.hasCreator = true
  replyQueue : String
  generated : MsgId

namespace ThreeCalls

variable (calls : ThreeCalls) (msg : Message Bytes)

def PutKeeps : Prop :=
  EncodesOrRejects (putOperation calls.queueName calls.span) msg.correlationID
    (calls.attempt, .runCreator) (calls.sender, .created (.ok msg))

def TempKeeps : Prop :=
  EncodesOrRejects (tempOperation calls.tempSpec) msg.correlationID
    (.runCreator calls.tempQueue) (.created (.ok msg))

def FixedKeeps : Prop :=
  EncodesOrRejects (fixedOperation calls.fixedSpec calls.replyQueue) msg.correlationID
    (.runCreator calls.generated) (.created (.ok msg))

def PutPuts : Queued → Prop :=
  Puts (putOperation calls.queueName calls.span) (calls.attempt, .runCreator)
    (calls.sender, .created (.ok msg))

def TempPuts : Queued → Prop :=
  Puts (tempOperation calls.tempSpec) (.runCreator calls.tempQueue) (.created (.ok msg))

def FixedPuts : Queued → Prop :=
  Puts (fixedOperation calls.fixedSpec calls.replyQueue) (.runCreator calls.generated)
    (.created (.ok msg))

/-- All three encode the identifier or reject it, and they accept it alike. -/
structure KeepCorrelationID : Prop where
  put : calls.PutKeeps msg
  temp : calls.TempKeeps msg
  fixed : calls.FixedKeeps msg
  putAlike : (∃ queued, calls.PutPuts msg queued) ↔ ∃ queued, calls.FixedPuts msg queued
  tempAlike : (∃ queued, calls.TempPuts msg queued) ↔ ∃ queued, calls.FixedPuts msg queued

variable {calls msg}

theorem put_returned : putOperation calls.queueName calls.span (calls.attempt, .runCreator)
    (calls.sender, .created (.ok msg)) = some ([], .running
      ({ calls.attempt with given := calls.attempt.given ++ [(calls.sender.nextMsg, .fresh)] },
        .mqput (injectToMessage calls.sender.cfg.propagator calls.span msg))) := by
  simp [putOperation, CommonsMQ.put, PutOutcome.progress]

theorem temp_returned : tempOperation calls.tempSpec (.runCreator calls.tempQueue)
    (.created (.ok msg)) = some ([], .running (.openRequest calls.tempQueue
      (injectToMessage calls.tempSpec.cfg.propagator calls.tempSpec.span msg))) := by
  simp [tempOperation, requestReplyViaTempQueue, wrappedCreator, calls.tempCreator,
    FlowOutcome.progress]

theorem putOperation_putOk {queueName span attempt} {s : Sender} {msg : Message Bytes} {id : MsgId} :
    putOperation queueName span (attempt, .mqput msg) (s, .putOk id) =
      some ([⟨queueName, { putDescriptor s.cfg msg with msgId := id }, msg.body⟩],
        .ended (some (.ok id.hex))) := by
  simp [putOperation, CommonsMQ.put, Sender.landed, PutOutcome.progress]

variable (calls msg) in
theorem put_puts : ∃ queued, calls.PutPuts msg queued :=
  ⟨_, [(calls.sender, .putOk .zero)], _, _,
    exec_step put_returned (exec_step putOperation_putOk rfl), List.mem_singleton_self _⟩

variable (calls msg) in
theorem temp_puts : ∃ queued, calls.TempPuts msg queued :=
  ⟨_, [.opened none, .putOk .zero], _, _,
    exec_step temp_returned (exec_step rfl (exec_step rfl rfl)), List.mem_singleton_self _⟩

theorem correlId_of_put {queued : Queued} (put : calls.PutPuts msg queued) :
    queued.md.correlId = correlIdOf msg.correlationID :=
  Puts.correlId put (fun _ _ _ _ => putOperation_stamps) put_returned rfl

theorem correlId_of_temp {queued : Queued} (put : calls.TempPuts msg queued) :
    queued.md.correlId = correlIdOf msg.correlationID :=
  Puts.correlId put (fun _ _ _ _ => tempOperation_stamps) temp_returned rfl

theorem putKeeps_iff :
    calls.PutKeeps msg ↔ Encodes msg.correlationID (correlIdOf msg.correlationID) :=
  encodesOrRejects_iff (fun _ _ _ _ => putOperation_stamps) put_returned rfl (put_puts calls msg)

theorem tempKeeps_iff :
    calls.TempKeeps msg ↔ Encodes msg.correlationID (correlIdOf msg.correlationID) :=
  encodesOrRejects_iff (fun _ _ _ _ => tempOperation_stamps) temp_returned rfl
    (temp_puts calls msg)

theorem fixed_returned {key : MsgId}
    (settled : correlationKey calls.generated msg.correlationID = .ok key) :
    fixedOperation calls.fixedSpec calls.replyQueue (.runCreator calls.generated)
      (.created (.ok msg)) = some ([], .running (.openReply key
        (injectToMessage calls.fixedSpec.cfg.propagator calls.fixedSpec.span msg))) := by
  simp [fixedOperation, requestReplyViaFixedQueue, wrappedCreator, calls.fixedCreator, settled,
    FlowOutcome.progress]

theorem fixed_refused {err : GoError}
    (settled : correlationKey calls.generated msg.correlationID = .error err) :
    fixedOperation calls.fixedSpec calls.replyQueue (.runCreator calls.generated)
      (.created (.ok msg)) = some ([], .ended (some (.error err))) := by
  simp [fixedOperation, requestReplyViaFixedQueue, wrappedCreator, calls.fixedCreator, settled,
    FlowOutcome.progress]

theorem fixedPuts_of_settled {key : MsgId}
    (settled : correlationKey calls.generated msg.correlationID = .ok key) :
    ∃ queued, calls.FixedPuts msg queued :=
  ⟨_, [.opened none, .opened none, .putOk .zero], _, _,
    exec_step (fixed_returned settled) (exec_step rfl (exec_step rfl (exec_step rfl rfl))),
    List.mem_singleton_self _⟩

theorem correlId_of_fixed {key : MsgId} {queued : Queued}
    (settled : correlationKey calls.generated msg.correlationID = .ok key)
    (put : calls.FixedPuts msg queued) : queued.md.correlId = key :=
  Puts.correlId put (fun _ _ _ _ => fixedOperation_stamps) (fixed_returned settled) rfl

/-- A refused call has returned: no answer is taken any more. -/
theorem fixed_refused_run {err : GoError} {rest puts p}
    (settled : correlationKey calls.generated msg.correlationID = .error err)
    (run : exec (fixedOperation calls.fixedSpec calls.replyQueue)
      (.running (.runCreator calls.generated)) (.created (.ok msg) :: rest) = some (puts, p)) :
    puts = [] ∧ p = .ended (some (.error err)) := by
  obtain ⟨out, p', more, stepped, onward, rfl⟩ := exec_cons run
  obtain ⟨rfl, rfl⟩ := Prod.mk.inj (Option.some.inj ((fixed_refused settled).symm.trans stepped))
  cases rest with
  | nil =>
      obtain ⟨rfl, rfl⟩ := Prod.mk.inj (Option.some.inj onward)
      exact ⟨rfl, rfl⟩
  | cons => cases onward

theorem fixedKeeps (given : msg.correlationID ≠ "") : calls.FixedKeeps msg := by
  by_cases valid : IsIdentifier msg.correlationID
  · obtain ⟨encodes, settled⟩ := valid.read given calls.generated
    have keeps : calls.FixedKeeps msg ↔ Encodes msg.correlationID _ :=
      encodesOrRejects_iff (fun _ _ _ _ => fixedOperation_stamps) (fixed_returned settled) rfl
        (fixedPuts_of_settled settled)
    exact keeps.mpr encodes
  · have settled := correlationKey_rejects given valid calls.generated
    refine ⟨by simp [fixed_refused settled], ?_, ?_⟩
    · intro rest puts p run queued member
      rw [(fixed_refused_run settled run).1] at member
      cases member
    · intro rest result run
      cases (fixed_refused_run settled run).2
      exact ⟨_, rfl⟩

theorem fixedPuts_iff (given : msg.correlationID ≠ "") :
    (∃ queued, calls.FixedPuts msg queued) ↔ IsIdentifier msg.correlationID := by
  constructor
  · rintro ⟨queued, rest, puts, p, run, member⟩
    exact ((fixedKeeps given).encoded rest puts p run queued member).isIdentifier
  · intro valid
    exact fixedPuts_of_settled (valid.read given calls.generated).2

theorem keepCorrelationID_iff (given : msg.correlationID ≠ "") :
    calls.KeepCorrelationID msg ↔ IsIdentifier msg.correlationID := by
  constructor
  · intro kept
    exact (putKeeps_iff.mp kept.put).isIdentifier
  · intro valid
    have encodes := (valid.read given calls.generated).1
    have accepted : ∃ queued, calls.FixedPuts msg queued := (fixedPuts_iff given).mpr valid
    exact ⟨putKeeps_iff.mpr encodes, tempKeeps_iff.mpr encodes, fixedKeeps given,
      iff_of_true (put_puts calls msg) accepted, iff_of_true (temp_puts calls msg) accepted⟩

/-- What is put for the hex of a whole identifier carries that identifier. -/
theorem correlId_of_hex {id : MsgId} (given : msg.correlationID = id.hex) {queued : Queued}
    (put : calls.PutPuts msg queued ∨ calls.TempPuts msg queued ∨ calls.FixedPuts msg queued) :
    queued.md.correlId = id := by
  have read : correlIdOf msg.correlationID = id := by rw [given, correlIdOf_hex]
  rcases put with put | put | put
  · exact (correlId_of_put put).trans read
  · exact (correlId_of_temp put).trans read
  · have nonempty : msg.correlationID ≠ "" := by
      rw [given]
      exact id.hex_ne_empty
    have valid := (fixedPuts_iff nonempty).mp ⟨queued, put⟩
    have settled := (valid.read nonempty calls.generated).2
    exact (correlId_of_fixed settled put).trans read

end ThreeCalls

/-- A consumer shows the `CorrelId` of each message it received as hex. -/
theorem Holds.correlationID {l : Listener} {written : List Nat} {k : Consumer}
    (holds : Holds l written k) {n : Nat} {md : MQMD} {data : Bytes} {shown : Message Slice}
    (removed : k.removed[n]? = some (md, data)) (handed : k.messages[n]? = some shown) :
    shown.correlationID = md.correlId.hex := by
  have same := congrArg (·[n]?) holds.delivered
  have inside : n < (k.messages.map l.seen).length := by
    rw [List.length_map]
    exact (List.getElem?_eq_some_iff.mp handed).1
  simp only [List.getElem?_append_left inside, List.getElem?_map, removed, handed,
    Option.map_some, Option.some.injEq] at same
  exact congrArg Message.correlationID same

/-- All three paths encode a correlation ID or reject it, and accept the same, exactly if
    it is the hex of at most `idLength` bytes; the fixed-queue flow does so in any case.
    The hex of a whole identifier is what a listener shows. -/
theorem correlationID_kept_iff (calls : ThreeCalls) (msg : Message Bytes) :
    (msg.correlationID ≠ "" →
      (calls.KeepCorrelationID msg ↔ IsIdentifier msg.correlationID) ∧ calls.FixedKeeps msg) ∧
    ∀ id : MsgId, msg.correlationID = id.hex → ∀ queued,
      calls.PutPuts msg queued ∨ calls.TempPuts msg queued ∨ calls.FixedPuts msg queued →
      ∀ client queueName opts ms (c : ListenerConfig) (i : Nat) k (n : Nat) md data shown,
        listenerProgram.exec ⟨newListener client queueName opts, []⟩ ms = some c →
        c.threads[i]? = some (.consumer k) → k.removed[n]? = some (md, data) →
        md.correlId = queued.md.correlId → k.messages[n]? = some shown →
        shown.correlationID = id.hex := by
  constructor
  · intro given
    exact ⟨ThreeCalls.keepCorrelationID_iff given, ThreeCalls.fixedKeeps given⟩
  · intro id given queued put client queueName opts ms c i k n md data shown run found removed
      carried handed
    have fresh : BodyInv ⟨newListener client queueName opts, []⟩ :=
      ⟨List.nodup_nil, by simp [buffers], by simp⟩
    have holds := (fresh.run run).holds k (List.mem_of_getElem? found)
    rw [holds.correlationID removed handed, carried, ThreeCalls.correlId_of_hex given put]

/-- Calls on queues `ORDERS` and `QUOTES`, with nothing out of the ordinary. -/
def ordinaryCalls : ThreeCalls where
  queueName := "ORDERS"
  span := none
  attempt := {}
  sender := newSender .minimal "ORDERS" []
  tempSpec := ⟨ClientConfig.minimal.cfg, "QUOTES", 1000000, true, none⟩
  tempCreator := rfl
  tempQueue := "AMQ.1"
  fixedSpec := ⟨ClientConfig.minimal.cfg, "QUOTES", 1000000, true, none⟩
  fixedCreator := rfl
  replyQueue := "REPLIES"
  generated := .zero

/-- A listener receives one message whose `CorrelId` is `id`. -/
def receivesStamped (id : MsgId) : List ListenerMove :=
  [.call (.start none none), .act 0 .go, .act 0 .go, .act 0 .go, .act 1 .go, .act 1 .go,
    .act 1 (.loop .check), .act 1 (.loop (.dialed (.ok 7))), .act 1 .go, .act 1 .go,
    .act 1 (.opened none), .act 1 .go, .act 1 (.got { correlId := id } [1]), .act 1 .go]

/-- The message that a creator leaves behind after it has set the correlation ID. -/
def Message.correlated (correlationID : String) : Message Bytes :=
  { Message.fresh with correlationID := correlationID }

/-- An identifier without zeros. -/
def markedId : MsgId := ⟨List.replicate idLength 0xab, by simp⟩

theorem correlationID_kept_marked :
    ordinaryCalls.KeepCorrelationID (.correlated markedId.hex) ∧
    ∃ c k shown, listenerProgram.exec ⟨newListener .minimal "ORDERS" [.withListenerConcurrency 1],
        []⟩ (receivesStamped markedId) = some c ∧ c.threads[1]? = some (.consumer k) ∧
      k.messages[0]? = some shown ∧ shown.correlationID = markedId.hex := by
  obtain ⟨kept, shows⟩ := correlationID_kept_iff ordinaryCalls (.correlated markedId.hex)
  have valid : IsIdentifier markedId.hex :=
    ⟨markedId.bytes, Hex.decodeString_eq_some_iff.mp markedId.decode_hex, markedId.size.le⟩
  obtain ⟨queued, put⟩ := ordinaryCalls.put_puts (.correlated markedId.hex)
  obtain ⟨c, k, shown, run, found, removed, handed⟩ : ∃ c k shown,
      listenerProgram.exec ⟨newListener .minimal "ORDERS" [.withListenerConcurrency 1], []⟩
        (receivesStamped markedId) = some c ∧ c.threads[1]? = some (.consumer k) ∧
      k.removed[0]? = some ({ correlId := markedId }, [1]) ∧ k.messages[0]? = some shown :=
    ⟨_, _, _, rfl, rfl, rfl, rfl⟩
  have carried : markedId = queued.md.correlId :=
    (ThreeCalls.correlId_of_hex rfl (.inl put)).symm
  exact ⟨(kept markedId.hex_ne_empty).1.mpr valid, c, k, shown, run, found, handed,
    shows markedId rfl queued (.inl put) _ _ _ _ c 1 k 0 _ _ shown run found removed carried handed⟩

/-- A text that is not hex: two of the operations put the message without any identifier,
    and the third rejects it. -/
theorem text_dropped_silently :
    (∃ queued, ordinaryCalls.PutPuts (.correlated "order-1") queued ∧
      queued.md.correlId = .zero) ∧
    (∃ queued, ordinaryCalls.TempPuts (.correlated "order-1") queued ∧
      queued.md.correlId = .zero) ∧
    exec (fixedOperation ordinaryCalls.fixedSpec "REPLIES") (.running (.runCreator .zero))
      [.created (.ok (.correlated "order-1"))] =
        some ([], .ended (some (.error (invalidCorrelationID "order-1")))) ∧
    ¬ordinaryCalls.KeepCorrelationID (.correlated "order-1") := by
  have unread : correlIdOf "order-1" = .zero := by decide
  have none : Hex.decodeString "order-1" = none := by decide
  have refused : correlationKey ordinaryCalls.generated
      (Message.correlated "order-1").correlationID =
        .error (invalidCorrelationID "order-1") := rfl
  refine ⟨?_, ?_, ?_, ?_⟩
  · obtain ⟨queued, put⟩ := ordinaryCalls.put_puts (.correlated "order-1")
    exact ⟨queued, put, (ThreeCalls.correlId_of_put put).trans unread⟩
  · obtain ⟨queued, put⟩ := ordinaryCalls.temp_puts (.correlated "order-1")
    exact ⟨queued, put, (ThreeCalls.correlId_of_temp put).trans unread⟩
  · exact exec_step (ThreeCalls.fixed_refused refused) rfl
  · intro kept
    obtain ⟨bytes, spells, -⟩ := (ThreeCalls.putKeeps_iff.mp kept.put).isIdentifier
    have read := Hex.decodeString_eq_some_iff.mpr spells
    exact Option.some_ne_none bytes (read.symm.trans none)

end CommonsMQ
