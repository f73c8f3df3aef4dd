import CommonsMQ.RequestReply.Timeout

/-! # A context that is cancelled during a request

The context is looked at once, at the entry. A call that is past this check runs on as
if nothing had happened, whatever it is doing, and its caller gets what comes out of it.
-/

namespace CommonsMQ

open Interleave

/-- The call is running and has no reply yet. -/
def RRPc.awaitsReply : RRPc → Bool
  | .checkCtx | .checkClosed | .dial | .markDialFailed _ | .fixed _ | .temp _ => true
  | .record (.error _) | .closeConn (some (.error _)) => true
  | .record (.ok _) | .closeConn (some (.ok _)) | .closeConn none | .returned _ | .panicked => false

/-- The error that a call is going to return. -/
def RRPc.failure : RRPc → Option GoError
  | .markDialFailed err | .record (.error err) | .closeConn (some (.error err)) => some err
  | _ => none

/-- Some run from `c` ends with thread `i` returning `result`. -/
def CanReturn (c : RRConfig) (i : Nat) (result : Except GoError (Message Bytes)) : Prop :=
  ∃ ms c' call, requestReplyProgram.exec c ms = some c' ∧ c'.threads[i]? = some (.call call) ∧
    call.pc = .returned result

/-- When its context is cancelled now, thread `i` returns the error of the context and
    nothing else. -/
structure ObeysCancel (c : RRConfig) (i : Nat) (e : CtxErr) : Prop where
  returns : ∀ c₁, requestReplyProgram.next c (.act i (.cancel e)) = some c₁ →
    ∃ result, CanReturn c₁ i result
  matched : ∀ c₁ result, requestReplyProgram.next c (.act i (.cancel e)) = some c₁ →
    CanReturn c₁ i result → ∃ err, result = .error err ∧ err.isContext e = true

theorem next_cancel {c : RRConfig} {i : Nat} {call : RRCall} (e : CtxErr)
    (found : c.threads[i]? = some (.call call)) :
    requestReplyProgram.next c (.act i (.cancel e)) =
      some ⟨c.shared, c.threads.set i (.call { call with ctx := some (call.ctx.getD e) })⟩ := by
  simp [Program.next, found, requestReplyProgram, RRThread.step]

/-! ## What a call may return -/

section Returning

variable {c c' : RRConfig} {i : Nat} {call call' : RRCall} {answer : RRAnswer}
  {result : Except GoError (Message Bytes)}

/-- A step that thread `i` can take by itself. -/
theorem exists_own_step {r : RequestReplyClient} (found : c.threads[i]? = some (.call call))
    (stepped : requestReplyWithCreator c.shared call answer = some (r, call'))
    (running : ∀ e, answer ≠ .cancel e) :
    ∃ c', requestReplyProgram.next c (.act i answer) = some c' ∧
      c'.threads[i]? = some (.call call') := by
  have inside : i < c.threads.length := (List.getElem?_eq_some_iff.mp found).1
  refine ⟨⟨r, c.threads.set i (.call call')⟩, ?_, List.getElem?_set_self inside⟩
  rw [next_request found running, stepped, Option.map_some]

namespace CanReturn

theorem cons {m : RRMove} (moved : requestReplyProgram.next c m = some c')
    (later : CanReturn c' i result) : CanReturn c i result := by
  obtain ⟨ms, last, call, run, at_i, returned⟩ := later
  refine ⟨m :: ms, last, call, ?_, at_i, returned⟩
  rw [Program.exec, moved]
  exact run

theorem of_returned (found : c.threads[i]? = some (.call call))
    (at_pc : call.pc = .returned result) : CanReturn c i result :=
  ⟨[], c, call, rfl, found, at_pc⟩

theorem of_closing (found : c.threads[i]? = some (.call call))
    (at_pc : call.pc = .closeConn (some result)) : CanReturn c i result := by
  have stepped : requestReplyWithCreator c.shared call (.disced none) =
      some ({ c.shared with live := unlive c.shared.live call.conn },
        { call with conn := (call.conn.close c.shared.cfg none).1, pc := .returned result }) := by
    simp only [requestReplyWithCreator, at_pc]
    rfl
  obtain ⟨c', moved, at_i⟩ := exists_own_step found stepped (by simp)
  exact cons moved (of_returned at_i rfl)

theorem of_recording (found : c.threads[i]? = some (.call call))
    (at_pc : call.pc = .record result) : CanReturn c i result := by
  have stepped : requestReplyWithCreator c.shared call .go =
      some (c.shared.recordResult result, { call with pc := .closeConn (some result) }) := by
    simp only [requestReplyWithCreator, at_pc]
  obtain ⟨c', moved, at_i⟩ := exists_own_step found stepped (by simp)
  exact cons moved (of_closing at_i rfl)

theorem of_marking {err : GoError} (found : c.threads[i]? = some (.call call))
    (at_pc : call.pc = .markDialFailed err) : CanReturn c i (.error err) := by
  have stepped : requestReplyWithCreator c.shared call .go =
      some (c.shared.recordState .failed (some err),
        { call with pc := .returned (.error err) }) := by
    simp only [requestReplyWithCreator, at_pc]
  obtain ⟨c', moved, at_i⟩ := exists_own_step found stepped (by simp)
  exact cons moved (of_returned at_i rfl)

theorem of_failure {err : GoError} (found : c.threads[i]? = some (.call call))
    (settled : call.pc.failure = some err) : CanReturn c i (.error err) := by
  cases at_pc : call.pc with
  | markDialFailed =>
      rw [at_pc] at settled
      cases settled
      exact of_marking found at_pc
  | record failed =>
      cases failed with
      | ok => simp [at_pc, RRPc.failure] at settled
      | error =>
          rw [at_pc] at settled
          cases settled
          exact of_recording found at_pc
  | closeConn failed =>
      rcases failed with _ | _ | _
      · simp [at_pc, RRPc.failure] at settled
      · rw [at_pc] at settled
        cases settled
        exact of_closing found at_pc
      · simp [at_pc, RRPc.failure] at settled
  | checkCtx | checkClosed | dial | fixed | temp | returned | panicked =>
      simp [at_pc, RRPc.failure] at settled

end CanReturn

/-! ## What a cancelled call may still return -/

/-- Thread `i` may return an error that has nothing to do with a context. -/
def CanFail (c : RRConfig) (i : Nat) : Prop :=
  ∃ err : GoError, (∀ e, err.isContext e = false) ∧ CanReturn c i (.error err)

/-- An answer of the queue manager that has nothing to do with a context. -/
def broken : GoError := .mqReturn ⟨2, 2009, "MQRC_CONNECTION_BROKEN"⟩

theorem flowFailure_broken (what : String) (e : CtxErr) :
    (flowFailure what broken).isContext e = false := rfl

namespace CanFail

theorem cons {m : RRMove} (moved : requestReplyProgram.next c m = some c')
    (later : CanFail c' i) : CanFail c i := by
  obtain ⟨err, foreign, returns⟩ := later
  exact ⟨err, foreign, returns.cons moved⟩

section Flows

variable {put : Option Queued}

theorem of_fixed_step {pc : FixedPc} {out : FlowOutcome FixedPc} (answer : RRAnswer)
    (found : c.threads[i]? = some (.call call)) (at_pc : call.pc = .fixed pc)
    (stepped : requestReplyViaFixedQueue (call.spec c.shared) c.shared.replyQueue pc answer =
      some (put, out)) (running : ∀ e, answer ≠ .cancel e)
    (onward : ∀ c' : RRConfig, c'.threads[i]? = some (.call { call with pc := out.next .fixed }) →
      CanFail c' i) : CanFail c i := by
  have moved : requestReplyWithCreator c.shared call answer =
      some ({ c.shared with requests := c.shared.requests ++ put.toList },
        { call with pc := out.next .fixed }) := by
    simp only [requestReplyWithCreator, at_pc, stepped]
  obtain ⟨c', next, at_i⟩ := exists_own_step found moved running
  exact cons next (onward c' at_i)

theorem of_temp_step {pc : TempPc} {out : FlowOutcome TempPc} (answer : RRAnswer)
    (found : c.threads[i]? = some (.call call)) (at_pc : call.pc = .temp pc)
    (stepped : requestReplyViaTempQueue (call.spec c.shared) pc answer = some (put, out))
    (running : ∀ e, answer ≠ .cancel e)
    (onward : ∀ c' : RRConfig, c'.threads[i]? = some (.call { call with pc := out.next .temp }) →
      CanFail c' i) : CanFail c i := by
  have moved : requestReplyWithCreator c.shared call answer =
      some ({ c.shared with requests := c.shared.requests ++ put.toList },
        { call with pc := out.next .temp }) := by
    simp only [requestReplyWithCreator, at_pc, stepped]
  obtain ⟨c', next, at_i⟩ := exists_own_step found moved running
  exact cons next (onward c' at_i)

theorem of_recording {err : GoError} (foreign : ∀ e, err.isContext e = false)
    (found : c.threads[i]? = some (.call { call with pc := .record (.error err) })) :
    CanFail c i :=
  ⟨err, foreign, CanReturn.of_recording found rfl⟩

/-- The generated key is used if nobody sets another. -/
theorem correlationKey_hex (generated : MsgId) :
    correlationKey generated generated.hex = .ok generated := by
  simp only [correlationKey, generated.hex_ne_empty, if_false, generated.decode_hex,
    generated.size, lt_irrefl, MsgId.copy_bytes]

theorem of_fixed_opening {key : MsgId} {msg : Message Bytes}
    (found : c.threads[i]? = some (.call call)) (at_pc : call.pc = .fixed (.openReply key msg)) :
    CanFail c i :=
  of_fixed_step (.opened (some broken)) found at_pc rfl (by simp)
    fun _ => of_recording (flowFailure_broken _)

theorem of_fixed {pc : FixedPc} (found : c.threads[i]? = some (.call call))
    (at_pc : call.pc = .fixed pc) : CanFail c i := by
  cases pc with
  | generate =>
      exact of_fixed_step (.random (.error broken)) found at_pc rfl (by simp)
        fun _ => of_recording fun _ => rfl
  | runCreator generated =>
      cases creator : call.hasCreator with
      | true =>
          have stepped : requestReplyViaFixedQueue (call.spec c.shared) c.shared.replyQueue
              (.runCreator generated) (.created (.error broken)) =
                some (none, .returned (.error (creatorFailure broken))) := by
            simp [requestReplyViaFixedQueue, wrappedCreator, RRCall.spec, creator]
          exact of_fixed_step _ found at_pc stepped (by simp) fun _ => of_recording fun _ => rfl
      | false =>
          have stepped : requestReplyViaFixedQueue (call.spec c.shared) c.shared.replyQueue
              (.runCreator generated) .go = some (none, .running (.openReply generated
                (injectToMessage c.shared.cfg.propagator call.span
                  { correlationID := generated.hex, replyToQueue := c.shared.replyQueue, body := []
                    userProperties := some ∅ }))) := by
            simp [requestReplyViaFixedQueue, wrappedCreator, RRCall.spec, creator,
              injectToMessage, correlationKey_hex]
          exact of_fixed_step _ found at_pc stepped (by simp)
            fun _ at_i => of_fixed_opening at_i rfl
  | openReply => exact of_fixed_opening found at_pc
  | openRequest =>
      exact of_fixed_step (.opened (some broken)) found at_pc rfl (by simp)
        fun _ => of_recording (flowFailure_broken _)
  | mqput =>
      exact of_fixed_step (.putFailed broken none) found at_pc rfl (by simp)
        fun _ => of_recording (flowFailure_broken _)
  | get =>
      exact of_fixed_step (.getFailed broken) found at_pc rfl (by simp)
        fun _ => of_recording (flowFailure_broken _)

theorem of_temp_opening {replyQueue : String} {msg : Message Bytes}
    (found : c.threads[i]? = some (.call call))
    (at_pc : call.pc = .temp (.openRequest replyQueue msg)) : CanFail c i :=
  of_temp_step (.opened (some broken)) found at_pc rfl (by simp)
    fun _ => of_recording (flowFailure_broken _)

theorem of_temp {pc : TempPc} (found : c.threads[i]? = some (.call call))
    (at_pc : call.pc = .temp pc) : CanFail c i := by
  cases pc with
  | openReply =>
      exact of_temp_step (.opened (some broken)) found at_pc rfl (by simp)
        fun _ => of_recording (flowFailure_broken _)
  | runCreator replyQueue =>
      cases creator : call.hasCreator with
      | true =>
          have stepped : requestReplyViaTempQueue (call.spec c.shared) (.runCreator replyQueue)
              (.created (.error broken)) =
                some (none, .returned (.error (creatorFailure broken))) := by
            simp [requestReplyViaTempQueue, wrappedCreator, RRCall.spec, creator]
          exact of_temp_step _ found at_pc stepped (by simp) fun _ => of_recording fun _ => rfl
      | false =>
          have stepped : requestReplyViaTempQueue (call.spec c.shared) (.runCreator replyQueue)
              .go = some (none, .running (.openRequest replyQueue
                (injectToMessage c.shared.cfg.propagator call.span
                  { replyToQueue := replyQueue, body := [], userProperties := some ∅ }))) := by
            simp [requestReplyViaTempQueue, wrappedCreator, RRCall.spec, creator]
          exact of_temp_step _ found at_pc stepped (by simp) fun _ at_i => of_temp_opening at_i rfl
  | openRequest => exact of_temp_opening found at_pc
  | mqput =>
      exact of_temp_step (.putFailed broken none) found at_pc rfl (by simp)
        fun _ => of_recording (flowFailure_broken _)
  | get =>
      exact of_temp_step (.getFailed broken) found at_pc rfl (by simp)
        fun _ => of_recording (flowFailure_broken _)

end Flows

theorem of_dialing (found : c.threads[i]? = some (.call call)) (at_pc : call.pc = .dial) :
    CanFail c i := by
  obtain ⟨c₁, err, dialed, foreign⟩ : ∃ c₁ err,
      Connection.new.dial c.shared.cfg (.error broken) = (c₁, some err) ∧
        ∀ e, err.isContext e = false := ⟨_, _, rfl, fun _ => rfl⟩
  have stepped : requestReplyWithCreator c.shared call (.dialed (.error broken)) =
      some (c.shared, { call with pc := .markDialFailed err }) := by
    simp only [requestReplyWithCreator, at_pc, dialed]
  obtain ⟨c', moved, at_i⟩ := exists_own_step found stepped (by simp)
  exact cons moved ⟨err, foreign, CanReturn.of_marking at_i rfl⟩

theorem of_checking (found : c.threads[i]? = some (.call call)) (at_pc : call.pc = .checkClosed) :
    CanFail c i := by
  cases closed : c.shared.closed with
  | true =>
      have stepped : requestReplyWithCreator c.shared call .go =
          some (c.shared, { call with pc := .returned (.error ErrClientClosed) }) := by
        simp [requestReplyWithCreator, at_pc, closed]
      obtain ⟨c', moved, at_i⟩ := exists_own_step found stepped (by simp)
      exact cons moved ⟨_, fun _ => rfl, CanReturn.of_returned at_i rfl⟩
  | false =>
      have stepped : requestReplyWithCreator c.shared call .go =
          some (c.shared, { call with pc := .dial }) := by
        simp [requestReplyWithCreator, at_pc, closed]
      obtain ⟨c', moved, at_i⟩ := exists_own_step found stepped (by simp)
      exact cons moved (of_dialing at_i rfl)

/-- So it is wherever a call has passed the check and nothing is settled. -/
theorem of_unsettled (found : c.threads[i]? = some (.call call))
    (running : call.pc.awaitsReply = true) (passed : call.pc ≠ .checkCtx)
    (unsettled : call.pc.failure = none) : CanFail c i := by
  cases at_pc : call.pc with
  | checkCtx => exact absurd at_pc passed
  | checkClosed => exact of_checking found at_pc
  | dial => exact of_dialing found at_pc
  | fixed => exact of_fixed found at_pc
  | temp => exact of_temp found at_pc
  | markDialFailed => simp [at_pc, RRPc.failure] at unsettled
  | record result =>
      cases result <;> simp [at_pc, RRPc.failure, RRPc.awaitsReply] at unsettled running
  | closeConn result =>
      rcases result with _ | _ | _ <;>
        simp [at_pc, RRPc.failure, RRPc.awaitsReply] at unsettled running
  | returned | panicked => simp [at_pc, RRPc.awaitsReply] at running

end CanFail

/-! ## What a cancelled call must return -/

/-- The call is going to return `err`, or has done so. -/
def RRThread.Settled (err : GoError) : RRThread → Prop
  | .call running => running.pc.failure = some err ∨ running.pc = .returned (.error err)
  | .probe _ | .close _ => False

/-- The context is done, and the call has not come past the check. -/
def RRThread.Stopped (e : CtxErr) : RRThread → Prop
  | .call running => running.ctx = some e ∧
      (running.pc = .checkCtx ∨ running.pc = .returned (.error (.context e)))
  | .probe _ | .close _ => False

theorem RequestStep.settled {r r' : RequestReplyClient} {pc : RRPc} {err : GoError}
    (step : RequestStep r call pc answer r' call')
    (before : pc.failure = some err ∨ pc = .returned (.error err)) :
    call'.pc.failure = some err ∨ call'.pc = .returned (.error err) := by
  cases step with
  | markDialFailed =>
      simp only [RRPc.failure, Option.some.injEq, reduceCtorEq, or_false] at before
      exact .inr (by rw [before])
  | @recorded result =>
      cases result with
      | ok => simp [RRPc.failure] at before
      | error => simpa [RRPc.failure] using before
  | @closed result =>
      cases result with
      | ok => simp [RRPc.failure] at before
      | error => simpa [RRPc.failure] using before
  | done | live | refused | passed | dialFailed | dialed | fixed | temp | unwound =>
      simp [RRPc.failure] at before

theorem RRStep.settled {r r' : RequestReplyClient} {t t' : RRThread} {err : GoError}
    (step : RRStep r t answer r' t') (before : t.Settled err) : t'.Settled err := by
  cases step with
  | cancelled => exact before
  | called inner => exact (requestReplyWithCreator_step inner).settled before
  | probed | closed => exact before.elim

theorem requestReplyWithCreator_stopped {r r' : RequestReplyClient} {e : CtxErr}
    (stepped : requestReplyWithCreator r call answer = some (r', call'))
    (before : (RRThread.call call).Stopped e) : (RRThread.call call').Stopped e := by
  obtain ⟨done, at_pc | at_pc⟩ := before
  · simp only [requestReplyWithCreator, at_pc] at stepped
    cases answer with
    | go =>
        simp only [done, Option.some.injEq, Prod.mk.injEq] at stepped
        obtain ⟨rfl, rfl⟩ := stepped
        exact ⟨rfl, .inr rfl⟩
    | _ => cases stepped
  · simp [requestReplyWithCreator, at_pc] at stepped

theorem RRStep.stopped {r r' : RequestReplyClient} {t t' : RRThread} {e : CtxErr}
    (step : RRStep r t answer r' t') (before : t.Stopped e) : t'.Stopped e := by
  cases step with
  | cancelled =>
      obtain ⟨done, at_pc⟩ := before
      exact ⟨by simp [done], at_pc⟩
  | called inner => exact requestReplyWithCreator_stopped inner before
  | probed | closed => exact before.elim

theorem CanReturn.of_settled {t : RRThread} {err : GoError} (returns : CanReturn c i result)
    (found : c.threads[i]? = some t) (settled : t.Settled err) : result = .error err := by
  obtain ⟨ms, c', call, run, at_i, returned⟩ := returns
  obtain ⟨t', at_i', settled'⟩ := Program.exec_thread
    (fun _ _ _ _ _ _ before stepped => (requestReplyProgram_step stepped).1.settled before)
    ⟨t, found, settled⟩ run
  obtain rfl := Option.some.inj (at_i.symm.trans at_i')
  simpa [RRThread.Settled, returned, RRPc.failure] using settled'

theorem CanReturn.of_stopped {t : RRThread} {e : CtxErr} (returns : CanReturn c i result)
    (found : c.threads[i]? = some t) (stopped : t.Stopped e) : result = .error (.context e) := by
  obtain ⟨ms, c', call, run, at_i, returned⟩ := returns
  obtain ⟨t', at_i', stopped'⟩ := Program.exec_thread
    (fun _ _ _ _ _ _ before stepped => (requestReplyProgram_step stepped).1.stopped before)
    ⟨t, found, stopped⟩ run
  obtain rfl := Option.some.inj (at_i.symm.trans at_i')
  simpa [RRThread.Stopped, returned] using stopped'.2

end Returning

/-! ## Every point of a call -/

section Cancelling

variable {c c₁ : RRConfig} {i : Nat} {call : RRCall} {e : CtxErr}

/-- Cancelling a call changes nothing but its context. -/
theorem cancelled_at (found : c.threads[i]? = some (.call call))
    (cancelled : requestReplyProgram.next c (.act i (.cancel e)) = some c₁) :
    c₁.threads[i]? = some (.call { call with ctx := some (call.ctx.getD e) }) := by
  have inside : i < c.threads.length := (List.getElem?_eq_some_iff.mp found).1
  obtain rfl := Option.some.inj ((next_cancel e found).symm.trans cancelled)
  exact List.getElem?_set_self inside

theorem ObeysCancel.of_checkCtx (found : c.threads[i]? = some (.call call))
    (live : call.ctx = none) (at_pc : call.pc = .checkCtx) : ObeysCancel c i e := by
  have stops : ∀ c₁, requestReplyProgram.next c (.act i (.cancel e)) = some c₁ →
      ∃ call₁ : RRCall, c₁.threads[i]? = some (.call call₁) ∧ call₁.ctx = some e ∧
        call₁.pc = .checkCtx := fun c₁ cancelled =>
    ⟨_, cancelled_at found cancelled, by simp [live], at_pc⟩
  constructor
  · intro c₁ cancelled
    obtain ⟨call₁, found₁, done, at_pc₁⟩ := stops c₁ cancelled
    have stepped : requestReplyWithCreator c₁.shared call₁ .go =
        some (c₁.shared, { call₁ with pc := .returned (.error (.context e)) }) := by
      simp only [requestReplyWithCreator, at_pc₁, done]
    obtain ⟨c', moved, at_i⟩ := exists_own_step found₁ stepped (by simp)
    exact ⟨_, (CanReturn.of_returned at_i rfl).cons moved⟩
  · intro c₁ result cancelled returns
    obtain ⟨call₁, found₁, done, at_pc₁⟩ := stops c₁ cancelled
    exact ⟨_, returns.of_stopped found₁ ⟨done, .inl at_pc₁⟩, by simp [GoError.isContext]⟩

theorem ObeysCancel.of_failure {err : GoError} (found : c.threads[i]? = some (.call call))
    (settled : call.pc.failure = some err) (matched : err.isContext e = true) :
    ObeysCancel c i e := by
  constructor
  · intro c₁ cancelled
    exact ⟨_, CanReturn.of_failure (cancelled_at found cancelled) settled⟩
  · intro c₁ result cancelled returns
    exact ⟨err, returns.of_settled (cancelled_at found cancelled) (.inl settled), matched⟩

/-- A request whose context is cancelled returns the error of the context exactly if it has
    not come past the check at its entry, or is already returning an error that matches. -/
theorem cancel_obeyed_iff (found : c.threads[i]? = some (.call call)) (live : call.ctx = none)
    (running : call.pc.awaitsReply = true) : ObeysCancel c i e ↔
      call.pc = .checkCtx ∨ ∃ err, call.pc.failure = some err ∧ err.isContext e = true := by
  constructor
  · intro obeys
    by_cases at_entry : call.pc = .checkCtx
    · exact .inl at_entry
    have cancelled := next_cancel e found
    have found₁ := cancelled_at found cancelled
    cases settled : call.pc.failure with
    | none =>
        obtain ⟨err, foreign, returns⟩ :=
          CanFail.of_unsettled found₁ running at_entry settled
        obtain ⟨_, same, matched⟩ := obeys.matched _ _ cancelled returns
        cases same
        simp [foreign e] at matched
    | some err =>
        obtain ⟨_, same, matched⟩ :=
          obeys.matched _ _ cancelled (CanReturn.of_failure found₁ settled)
        cases same
        exact .inr ⟨err, rfl, matched⟩
  · rintro (at_entry | ⟨err, settled, matched⟩)
    · exact .of_checkCtx found live at_entry
    · exact .of_failure found settled matched

end Cancelling

theorem cancel_obeyed_at_entry : ∃ c call, c.threads[0]? = some (.call call) ∧ call.ctx = none ∧
    requestReplyProgram.exec ⟨newRequestReplyClient .minimal "QUOTES" [], []⟩
      [.call (.requestReply none 1000000000 true none)] = some c ∧ ObeysCancel c 0 .canceled := by
  obtain ⟨c, call, run, found, live, at_pc⟩ : ∃ c call,
      requestReplyProgram.exec ⟨newRequestReplyClient .minimal "QUOTES" [], []⟩
        [.call (.requestReply none 1000000000 true none)] = some c ∧
      c.threads[0]? = some (.call call) ∧ call.ctx = none ∧ call.pc = .checkCtx :=
    ⟨_, _, rfl, rfl, rfl, rfl⟩
  exact ⟨c, call, found, live, run,
    (cancel_obeyed_iff found live (by rw [at_pc]; rfl)).mpr (.inl at_pc)⟩

/-- The context is cancelled while `MQGET` waits; the reply comes, and the call returns it. -/
theorem cancelled_call_returns_reply : ∃ c c₁ c' call call' msg,
    RequestReplyMode.temporaryQueue.Reaches c ∧ c.threads[0]? = some (.call call) ∧
    call.ctx = none ∧ call.pc.wait = some 1000 ∧
    requestReplyProgram.next c (.act 0 (.cancel .canceled)) = some c₁ ∧
    requestReplyProgram.exec c₁ [.act 0 (.got {} [1]), .act 0 .go, .act 0 (.disced none)] =
      some c' ∧
    c'.threads[0]? = some (.call call') ∧ call'.ctx = some .canceled ∧
    call'.pc = .returned (.ok msg) ∧ ¬ObeysCancel c 0 .canceled := by
  have opened := RequestReplyMode.temporaryQueue.exec_opens 1000000000
  obtain ⟨c, c₁, c', call, call', msg, waiting, found, live, waits, cancelled, run, found',
      done, returned⟩ : ∃ (c c₁ c' : RRConfig) (call call' : RRCall) (msg : Message Bytes),
      requestReplyProgram.exec (RequestReplyMode.temporaryQueue.inFlow 1000000000
        RequestReplyMode.temporaryQueue.opening) RequestReplyMode.puts = some c ∧
      c.threads[0]? = some (.call call) ∧ call.ctx = none ∧
      call.pc.wait = some (waitInterval 1000000000) ∧
      requestReplyProgram.next c (.act 0 (.cancel .canceled)) = some c₁ ∧
      requestReplyProgram.exec c₁ [.act 0 (.got {} [1]), .act 0 .go, .act 0 (.disced none)] =
        some c' ∧
      c'.threads[0]? = some (.call call') ∧ call'.ctx = some .canceled ∧
      call'.pc = .returned (.ok msg) :=
    ⟨_, _, _, _, _, _, rfl, rfl, rfl, rfl, rfl, rfl, rfl, rfl, rfl⟩
  refine ⟨c, c₁, c', call, call', msg, ⟨_, _, _, _, _, Program.exec_trans opened waiting⟩, found,
    live, waits, cancelled, run, found', done, returned, ?_⟩
  intro obeys
  obtain ⟨err, same, -⟩ := obeys.matched c₁ _ cancelled ⟨_, c', call', run, found', returned⟩
  cases same

end CommonsMQ
