import CommonsMQ.CreatorErrors
import CommonsMQ.RequestReply.Cancellation

/-! # Under which error a failed connection is reported

Only the two retry loops put `ErrConnectionFailed` around the error they end with. A
component is also marked failed when a put that is made again loses its connection, when
a request cannot dial, and when a request loses its connection; what is returned there is
the error of the MQI call.
-/

namespace CommonsMQ

open Interleave

/-! ## Errors that carry another -/

theorem is_wrap (target : Sentinel) (text : String) (e : GoError) :
    (GoError.wrap text [e]).is target = e.is target := by
  simp [GoError.is, GoError.isList]

theorem sanitizeError_of_lost {e : GoError} (lost : isConnectionError e = true) :
    sanitizeError e = e := by
  unfold isConnectionError at lost
  unfold sanitizeError
  split at lost
  · cases lost
  · rename_i found
    rw [found]

theorem isConnectionError_of_empty {e : GoError} (empty : isEmptyQueueError e = true) :
    isConnectionError e = false := by
  unfold isEmptyQueueError at empty
  unfold isConnectionError
  split at empty
  · cases empty
  · rename_i ret found
    have code : ret.mqrc = noMsgAvailable := by simpa using empty
    simp only [code]
    decide

/-- `err` is a connection error exactly if `e` is, and then has the same sentinels. -/
structure Carries (err e : GoError) : Prop where
  lost : isConnectionError err = isConnectionError e
  same : isConnectionError e = true → ∀ target, err.is target = e.is target

theorem Carries.wrap (text : String) (e : GoError) : Carries (.wrap text [e]) e :=
  ⟨isConnectionError_wrap text e, fun _ target => is_wrap target text e⟩

theorem Carries.sanitized (text : String) (e : GoError) :
    Carries (.wrap text [sanitizeError e]) e := by
  constructor
  · rw [isConnectionError_wrap, isConnectionError_sanitize]
  · intro lost target
    rw [is_wrap, sanitizeError_of_lost lost]

/-! ## Sends -/

/-- The error that a call into the binding or the creator ends with. -/
def SendAnswer.failure : SendAnswer → Option GoError
  | .opened (some err) | .created (.error err) | .putFailed err _ => some err
  | _ => none

/-- The error with which a send is going to mark the sender failed. -/
def SendPc.committed : SendPc → Option GoError
  | .acquire (.unreserve err) | .acquire (.markDialFailed err) => some err
  | .closeConn _ why | .uncreate _ why | .uncount why | .markDiscarded why =>
      if why.failed then some why.err else none
  | _ => none

/-- While its context is live, a send marks the sender failed only under
    `ErrConnectionFailed`. -/
def SendCall.Reported (call : SendCall) : Prop :=
  call.ctx = none → ∀ err, call.pc.committed = some err → err.is .connectionFailed = true

/-- A put that is made again does not lose its connection, or its error says that the
    connection failed. -/
def SendCall.AnsweredWell (call : SendCall) (answer : SendAnswer) : Prop :=
  ∀ conn pc e, call.pc = .put conn true pc → call.ctx = none → answer.failure = some e →
    isConnectionError e = true → e.is .connectionFailed = true

section Put

variable {s s' : Sender} {queueName : String} {span : Option SpanContext}
  {attempt attempt' : PutAttempt} {pc : PutPc} {answer : SendAnswer}

/-- `put` returns an error when it is given one. -/
theorem PutStep.failure {out : PutOutcome}
    (step : PutStep s queueName span attempt pc answer s' attempt' out) :
    (∃ e err, answer.failure = some e ∧ out = .returned (.error err) ∧ Carries err e) ∨
      answer.failure = none ∧ ∀ err, out ≠ .returned (.error err) := by
  cases step with
  | openFailed | putFailed | putUncertain => exact .inl ⟨_, _, rfl, rfl, .sanitized _ _⟩
  | creatorFailed => exact .inl ⟨_, _, rfl, rfl, .wrap _ _⟩
  | opened | noCreator | created | panicked | putOk => exact .inr ⟨rfl, nofun⟩

end Put

section Send

variable {s s' : Sender} {call call' : SendCall} {answer : SendAnswer}

/-- Where the send is not in `put`, the answer does not matter. -/
theorem SendCall.answeredWell_of_outside (outside : ∀ conn retry pc, call.pc ≠ .put conn retry pc) :
    call.AnsweredWell answer :=
  fun conn pc _ here => absurd here (outside conn true pc)

/-- Nor does it where it is no failure. -/
theorem SendCall.answeredWell_of_fine (fine : answer.failure = none) :
    call.AnsweredWell answer := by
  intro conn pc e _ _ failing
  cases fine.symm.trans failing

theorem SendCall.reported_of_uncommitted (uncommitted : call.pc.committed = none) :
    call.Reported := by
  intro _ err committed
  rw [uncommitted] at committed
  cases committed

/-- An acquisition that fails to dial ends under `ErrConnectionFailed`, or with the error of
    its context. -/
theorem AcquireStep.reported {ctx : Option CtxErr} {pc pc' : AcquirePc}
    (step : AcquireStep s ctx answer pc s' (.inl pc')) (live : ctx = none)
    (before : ∀ err, (SendPc.acquire pc).committed = some err → err.is .connectionFailed = true) :
    ∀ err, (SendPc.acquire pc').committed = some err → err.is .connectionFailed = true := by
  intro err committed
  cases step with
  | unreserve => exact before err committed
  | dialFailed failed =>
      cases committed
      cases newConnectionWithRetry_step failed with
      | cancelled done | interrupted done => cases live.symm.trans done
      | exhausted _ sentinel => exact sentinel
  | look | take | miss | reserve | full | retry | dialed | countActive | receive => cases committed

theorem afterPut_committed (conn : ConnId) (retry : Bool) (result : Except GoError String)
    (err : GoError) : (afterPut conn retry result).committed = some err ↔
      retry = true ∧ result = .error err ∧ isConnectionError err = true := by
  cases result with
  | ok => simp [afterPut, SendPc.committed]
  | error failure =>
      cases retry with
      | true =>
          simp only [afterPut, SendPc.committed, if_true]
          grind
      | false =>
          simp only [afterPut, Bool.false_eq_true, if_false, false_and]
          split <;> simp [SendPc.committed]

/-- The retry's put commits the send to the error it was given. -/
theorem SendCall.reported_afterPut_iff {conn : ConnId} {retry : Bool} {pc : PutPc}
    {e err : GoError} (here : call.pc = .put conn retry pc) (failing : answer.failure = some e)
    (carries : Carries err e) (context : call'.ctx = call.ctx)
    (after : call'.pc = afterPut conn retry (.error err)) :
    call'.Reported ↔ call.AnsweredWell answer := by
  unfold SendCall.Reported
  rw [context, after]
  constructor
  · intro reported conn' pc' e' here' live failing' lost
    cases here.symm.trans here'
    cases failing.symm.trans failing'
    have committed :=
      (afterPut_committed conn true _ err).mpr ⟨rfl, rfl, carries.lost.trans lost⟩
    have sentinel := reported live err committed
    rwa [carries.same lost] at sentinel
  · intro well live err' committed
    obtain ⟨rfl, same, lost⟩ := (afterPut_committed conn retry (.error err) err').mp committed
    cases same
    rw [carries.lost] at lost
    rw [carries.same lost]
    exact well conn pc e here live failing lost

/-- A step of a send leaves it reported exactly if the answer is fine. -/
theorem SendStep.reported_iff (step : SendStep s call answer s' call') (before : call.Reported) :
    call'.Reported ↔ call.AnsweredWell answer := by
  cases step with
  | putting here inner | putPanicked here inner =>
      obtain ⟨e, err, -, same, -⟩ | ⟨fine, -⟩ := inner.failure
      · cases same
      · exact iff_of_true (SendCall.reported_of_uncommitted rfl)
          (SendCall.answeredWell_of_fine fine)
  | @putReturned conn retry pc s' attempt result here inner =>
      obtain ⟨e, err, failing, same, carries⟩ | ⟨fine, good⟩ := inner.failure
      · cases same
        exact SendCall.reported_afterPut_iff here failing carries rfl rfl
      · refine iff_of_true ?_ (SendCall.answeredWell_of_fine fine)
        intro live err committed
        obtain ⟨-, rfl, -⟩ := (afterPut_committed conn retry result err).mp committed
        exact absurd rfl (good err)
  | acquiring here inner =>
      refine iff_of_true ?_ (SendCall.answeredWell_of_outside (by simp [here]))
      intro live
      have committed := before live
      rw [here] at committed
      exact inner.reported live committed
  | reconnectFailed here _ failed _ =>
      refine iff_of_true ?_ (SendCall.answeredWell_of_outside (by simp [here]))
      intro live err committed
      cases committed
      cases Connection.reconnect_step failed with
      | cancelled done | interrupted done => cases (live : call.ctx = none).symm.trans done
      | exhausted _ sentinel => exact sentinel
  | closeConn here | uncreate here | uncount here =>
      refine iff_of_true ?_ (SendCall.answeredWell_of_outside (by simp [here]))
      intro live err committed
      apply before live err
      rw [here]
      exact committed
  | noDestination here | resolved here | rejected here | admitted here | acquireFailed here
    | acquired here | markReconnecting here | reconnecting here | reconnected here
    | markReconnected here | markDiscarded here | markSent here | release here | finish here
    | unwound here =>
      exact iff_of_true (SendCall.reported_of_uncommitted rfl)
        (SendCall.answeredWell_of_outside (by simp [here]))

/-- Every send is reported as far as it has come. -/
def SendsReported (c : SenderConfig) : Prop :=
  ∀ t ∈ c.threads, ∀ call, t = .send call → call.Reported

/-- The answer of a move is fine for the send that gets it. -/
def SendsAnsweredWell (c : SenderConfig) : SenderMove → Prop
  | .call _ => True
  | .act i answer => ∀ call, c.threads[i]? = some (.send call) → call.AnsweredWell answer

theorem sendsReported_next_iff {c c' : SenderConfig} {m : SenderMove} (before : SendsReported c)
    (moved : senderProgram.next c m = some c') : SendsReported c' ↔ SendsAnsweredWell c m := by
  obtain ⟨r, rfl, rfl⟩ | ⟨i, answer, t, s, t', rfl, found, step, rfl⟩ := sender_cases moved
  · refine iff_of_true (Program.forall_threads_call before ?_) trivial
    intro call made
    cases r with
    | send =>
        cases made
        exact SendCall.reported_of_uncommitted rfl
    | health | close => cases made
  · constructor
    · intro after call at_i
      obtain rfl := Option.some.inj (found.symm.trans at_i)
      cases step with
      | cancel => exact fun _ _ _ _ _ failing => by cases failing
      | send inner =>
          have reported := before _ (List.mem_of_getElem? found) call rfl
          exact (inner.reported_iff reported).mp
            (after _ (Program.mem_threads_set_self found _) _ rfl)
    · intro well
      apply Program.forall_threads_set
      · rintro call' rfl
        cases step with
        | cancel => exact fun live => by cases live
        | send inner =>
            have reported := before _ (List.mem_of_getElem? found) _ rfl
            exact (inner.reported_iff reported).mpr (well _ found)
      · intro j u _ at_j
        exact before u (List.mem_of_getElem? at_j)

/-- A send whose next step marks the sender failed with this error. -/
def SendPc.marksFailed : SendPc → Option GoError
  | .acquire (.markDialFailed err) => some err
  | .markDiscarded why => if why.failed then some why.err else none
  | _ => none

/-- The send is about to return this error. -/
def SendPc.Returning (err : GoError) (pc : SendPc) : Prop :=
  pc = .finish (.error err) ∨ pc = .returned (.error err)

theorem SendStep.marks {err : GoError} (step : SendStep s call answer s' call')
    (live : call.ctx = none) (marks : call.pc.marksFailed = some err) :
    s'.state = .failed ∧ s'.lastErr = some err ∧ call'.pc.Returning err := by
  cases step with
  | acquireFailed here inner =>
      rw [here] at marks
      cases inner with
      | markDialFailed =>
          cases marks
          simp [live, Sender.setState, SendPc.Returning]
      | cancelled | giveUp => cases marks
  | acquiring here inner =>
      rw [here] at marks
      cases inner <;> cases marks
  | acquired here inner =>
      rw [here] at marks
      cases inner
      cases marks
  | @markDiscarded why here =>
      rw [here, SendPc.marksFailed] at marks
      split at marks
      · rename_i failed
        cases marks
        simp [failed, Sender.setState, SendPc.Returning]
      · cases marks
  | noDestination here | resolved here | rejected here | admitted here | putting here
    | putReturned here | putPanicked here | markReconnecting here | reconnecting here
    | reconnected here | reconnectFailed here | markReconnected here | closeConn here
    | uncreate here | uncount here | markSent here | release here | finish here | unwound here =>
      rw [here] at marks
      cases marks

/-- No other step of a send makes the sender failed. -/
theorem SendStep.failed_by (step : SendStep s call answer s' call') (was : s.state ≠ .failed)
    (now : s'.state = .failed) : ∃ err, call.pc.marksFailed = some err := by
  cases step with
  | acquiring here inner =>
      cases inner with
      | dialed _ added =>
          obtain ⟨live, -, rfl⟩ := Sender.addConn_cases added
          exact absurd now was
      | look | take | miss | reserve | full | retry | dialFailed | unreserve | countActive
        | receive => exact absurd now was
  | acquireFailed here inner =>
      cases inner with
      | cancelled | giveUp => exact absurd now was
      | markDialFailed => exact ⟨_, by rw [here]; rfl⟩
  | acquired here inner =>
      cases inner
      cases now
  | putting here inner | putReturned here inner | putPanicked here inner =>
      cases inner <;> exact absurd now was
  | markReconnecting here _ set =>
      obtain ⟨old, live, -, -, rfl⟩ := Sender.setConn_cases set
      cases now
  | reconnecting here _ _ set | reconnected here _ _ set | reconnectFailed here _ _ set
    | closeConn here _ set =>
      obtain ⟨old, live, -, -, rfl⟩ := Sender.setConn_cases set
      exact absurd now was
  | markReconnected | markSent => cases now
  | @markDiscarded why here =>
      cases failed : why.failed with
      | true => exact ⟨why.err, by rw [here]; simp [SendPc.marksFailed, failed]⟩
      | false =>
          simp only [failed, Bool.false_eq_true, if_false] at now
          exact absurd now was
  | noDestination | resolved | rejected | admitted | uncreate | uncount | release | finish
    | unwound => exact absurd now was

theorem SendStep.returning {err : GoError} (step : SendStep s call answer s' call')
    (before : call.pc.Returning err) : call'.pc.Returning err := by
  cases step with
  | finish here =>
      rcases before with before | before
      · cases here.symm.trans before
        exact .inr rfl
      · cases here.symm.trans before
  | noDestination here | resolved here | rejected here | admitted here | acquiring here
    | acquireFailed here | acquired here | putting here | putReturned here | putPanicked here
    | markReconnecting here | reconnecting here | reconnected here | reconnectFailed here
    | markReconnected here | closeConn here | uncreate here | uncount here | markDiscarded here
    | markSent here | release here | unwound here =>
      simp [SendPc.Returning, here] at before

theorem SendPc.committed_of_marksFailed {pc : SendPc} {err : GoError}
    (marks : pc.marksFailed = some err) : pc.committed = some err := by
  unfold marksFailed at marks
  split at marks
  · exact marks
  · exact marks
  · cases marks

end Send

def SenderThread.Returning (err : GoError) : SenderThread → Prop
  | .send call => call.pc.Returning err
  | .probe _ | .close _ => False

theorem ThreadStep.returning {s s' : Sender} {t t' : SenderThread} {answer : SendAnswer}
    {err : GoError} (step : ThreadStep s t answer s' t') (before : t.Returning err) :
    t'.Returning err := by
  cases step with
  | cancel => exact before
  | send inner => exact inner.returning before
  | probe | close => exact before.elim

/-- From where a send marks the sender failed it returns that error and nothing else. -/
theorem send_returns_marked {c c₁ c' : SenderConfig} {i : Nat} {call call' : SendCall}
    {answer : SendAnswer} {ms : List SenderMove} {err : GoError} {result : Except GoError String}
    (found : c.threads[i]? = some (.send call)) (live : call.ctx = none)
    (marks : call.pc.marksFailed = some err) (running : ∀ e, answer ≠ .cancel e)
    (moved : senderProgram.next c (.act i answer) = some c₁)
    (run : senderProgram.exec c₁ ms = some c') (at_i : c'.threads[i]? = some (.send call'))
    (returned : call'.pc = .returned result) :
    c₁.shared.state = .failed ∧ result = .error err := by
  rw [next_send found running] at moved
  obtain ⟨⟨s₁, call₁⟩, stepped, rfl⟩ := Option.map_eq_some_iff.mp moved
  have inside : i < c.threads.length := (List.getElem?_eq_some_iff.mp found).1
  obtain ⟨failed, -, returning⟩ := (sendWithCreator_step stepped).marks live marks
  obtain ⟨t, at_i', returning'⟩ := Program.exec_thread
    (fun _ _ _ _ _ _ before stepped => (senderProgram_step stepped).1.returning before)
    ⟨.send call₁, List.getElem?_set_self inside, returning⟩ run
  obtain rfl := Option.some.inj (at_i.symm.trans at_i')
  refine ⟨failed, ?_⟩
  simpa [SenderThread.Returning, SendPc.Returning, returned] using returning'

/-! ## Requests -/

/-- The error that a call into the binding or the creator ends with, in a flow. -/
def RRAnswer.failure : RRAnswer → Option GoError
  | .random (.error err) | .opened (some err) | .created (.error err) | .putFailed err _
  | .getFailed err => some err
  | _ => none

/-- A request whose next step marks the client failed with this error. -/
def RRPc.marksFailed : RRPc → Option GoError
  | .markDialFailed err => some err
  | .record (.error err) =>
      if err.is .timeout ∨ isConnectionError err = false then none else some err
  | _ => none

/-- While its context is live, a request marks the client failed only under
    `ErrConnectionFailed`. -/
def RRCall.Reported (call : RRCall) : Prop :=
  call.ctx = none → ∀ err, call.pc.marksFailed = some err → err.is .connectionFailed = true

/-- In one of the two flows. -/
def RRPc.inFlow : RRPc → Bool
  | .fixed _ | .temp _ => true
  | _ => false

/-- The dial does not fail and the flow does not lose its connection, or the error says that
    the connection failed. -/
structure RRCall.AnsweredWell (call : RRCall) (answer : RRAnswer) : Prop where
  dial : call.ctx = none → call.pc = .dial → ∀ e, answer = .dialed (.error e) →
    (sanitizeError e).is .connectionFailed = true
  flow : call.ctx = none → call.pc.inFlow = true → ∀ e, answer.failure = some e →
    isConnectionError e = true → e.is .timeout = false → e.is .connectionFailed = true

/-- How a flow answers to an answer: with an error that carries the one it was given, or
    with none that concerns the connection. -/
def FlowAnswers {π : Type} (answer : RRAnswer) (out : FlowOutcome π) : Prop :=
  (∃ e err, answer.failure = some e ∧ out = .returned (.error err) ∧ Carries err e) ∨
    (∀ e, answer.failure = some e → isConnectionError e = false) ∧
      ∀ err, out = .returned (.error err) → isConnectionError err = false

section Flows

variable {π : Type} {answer : RRAnswer}

theorem FlowAnswers.of_running {pc : π} (fine : answer.failure = none) :
    FlowAnswers answer (.running pc) :=
  .inr ⟨by simp [fine], nofun⟩

theorem wrappedCreator_answers {spec prepared out}
    (h : wrappedCreator spec prepared answer = some out) : FlowAnswers answer out := by
  unfold wrappedCreator at h
  split at h
  · split at h
    · split at h <;> cases h
      · exact .of_running rfl
      · exact .inl ⟨_, _, rfl, rfl, .wrap _ _⟩
    · cases h
  · split at h <;> cases h
    exact .of_running rfl
  · split at h <;> cases h
    exact .inr ⟨nofun, nofun⟩
  · cases h

/-- Where no error comes out, none that concerns the connection went in. -/
theorem FlowAnswers.quiet {out : FlowOutcome π} (answers : FlowAnswers answer out)
    (fine : ∀ err, out ≠ .returned (.error err)) :
    ∀ e, answer.failure = some e → isConnectionError e = false := by
  rcases answers with ⟨e, err, -, same, -⟩ | ⟨quiet, -⟩
  · exact absurd same (fine err)
  · exact quiet

theorem FlowAnswers.returned {π' : Type} {result : Except GoError (Message Bytes)}
    (answers : FlowAnswers answer (.returned result : FlowOutcome π)) :
    FlowAnswers answer (.returned result : FlowOutcome π') := by
  rcases answers with ⟨e, err, failing, same, carries⟩ | ⟨quiet, fine⟩
  · cases same
    exact .inl ⟨e, err, failing, rfl, carries⟩
  · refine .inr ⟨quiet, ?_⟩
    rintro err ⟨⟩
    exact fine err rfl

theorem correlationKey_error {generated : MsgId} {correlationID : String} {err : GoError}
    (rejected : correlationKey generated correlationID = .error err) :
    isConnectionError err = false := by
  unfold correlationKey at rejected
  split at rejected
  · cases rejected
  · split at rejected
    · cases rejected
      rfl
    · split at rejected <;> cases rejected
      rfl

/-- `MQGET` fails: an empty queue is a timeout, and nothing that concerns the connection. -/
theorem FlowAnswers.getFailed (what : String) (err : GoError) :
    FlowAnswers (.getFailed err) (.returned (.error
      (if isEmptyQueueError err then ErrTimeout else flowFailure what err)) : FlowOutcome π) := by
  split
  · rename_i empty
    refine .inr ⟨?_, ?_⟩
    · rintro e ⟨⟩
      exact isConnectionError_of_empty empty
    · rintro e ⟨⟩
      rfl
  · exact .inl ⟨_, _, rfl, rfl, .sanitized _ _⟩

theorem requestReplyViaFixedQueue_answers {spec replyQueue pc put out}
    (h : requestReplyViaFixedQueue spec replyQueue pc answer = some (put, out)) :
    FlowAnswers answer out := by
  unfold requestReplyViaFixedQueue at h
  split at h
  case h_3 =>
      dsimp only at h
      split at h
      · cases h
      · rename_i creator
        cases h
        exact .inr ⟨(wrappedCreator_answers creator).quiet nofun, nofun⟩
      · rename_i creator
        cases h
        exact (wrappedCreator_answers creator).returned
      · rename_i creator
        have quiet := (wrappedCreator_answers creator).quiet nofun
        split at h
        · rename_i rejected
          cases h
          refine .inr ⟨quiet, ?_⟩
          rintro err ⟨⟩
          exact correlationKey_error rejected
        · cases h
          exact .inr ⟨quiet, nofun⟩
  case h_10 =>
      split at h <;> cases h
      exact .inr ⟨nofun, nofun⟩
  case h_11 =>
      cases h
      exact .getFailed _ _
  case h_12 => cases h
  all_goals
    cases h
    first
      | exact .of_running rfl
      | exact .inl ⟨_, _, rfl, rfl, .sanitized _ _⟩
      | exact .inl ⟨_, _, rfl, rfl, .wrap _ _⟩

theorem requestReplyViaTempQueue_answers {spec pc put out}
    (h : requestReplyViaTempQueue spec pc answer = some (put, out)) : FlowAnswers answer out := by
  unfold requestReplyViaTempQueue at h
  split at h
  case h_3 =>
      dsimp only at h
      split at h
      · cases h
      · rename_i creator
        cases h
        exact .inr ⟨(wrappedCreator_answers creator).quiet nofun, nofun⟩
      · rename_i creator
        cases h
        exact (wrappedCreator_answers creator).returned
      · rename_i creator
        cases h
        exact .inr ⟨(wrappedCreator_answers creator).quiet nofun, nofun⟩
  case h_8 =>
      split at h <;> cases h
      exact .inr ⟨nofun, nofun⟩
  case h_9 =>
      cases h
      exact .getFailed _ _
  case h_10 => cases h
  all_goals
    cases h
    first
      | exact .of_running rfl
      | exact .inl ⟨_, _, rfl, rfl, .sanitized _ _⟩

end Flows

section Request

variable {r r' : RequestReplyClient} {call call' : RRCall} {answer : RRAnswer} {pc : RRPc}

theorem RRCall.reported_of_unmarked (unmarked : call.pc.marksFailed = none) : call.Reported := by
  intro _ err marks
  rw [unmarked] at marks
  cases marks

theorem RRPc.record_marksFailed_iff {failure err : GoError} :
    (RRPc.record (.error failure)).marksFailed = some err ↔
      failure = err ∧ err.is .timeout = false ∧ isConnectionError err = true := by
  simp only [marksFailed]
  grind

theorem RRCall.answeredWell_of_outside (notDialing : call.pc ≠ .dial)
    (outside : call.pc.inFlow = false) : call.AnsweredWell answer := by
  constructor
  · intro _ dialing
    exact absurd dialing notDialing
  · intro _ inside
    cases outside.symm.trans inside

/-- A step of a flow leaves the request reported exactly if the answer is fine. -/
theorem FlowAnswers.reported_iff {π : Type} {inside : π → RRPc} {out : FlowOutcome π}
    (answers : FlowAnswers answer out) (flow : call.pc.inFlow = true)
    (unmarked : ∀ pc, (inside pc).marksFailed = none) :
    { call with pc := out.next inside }.Reported ↔ call.AnsweredWell answer := by
  have notDialing : call.pc ≠ .dial := by
    intro dialing
    simp [dialing, RRPc.inFlow] at flow
  rcases answers with ⟨e, err, failing, rfl, carries⟩ | ⟨quiet, fine⟩
  · constructor
    · intro after
      refine ⟨fun _ dialing => absurd dialing notDialing, ?_⟩
      intro live _ e' failing' lost early
      cases failing.symm.trans failing'
      have marks : (RRPc.record (.error err)).marksFailed = some err :=
        RRPc.record_marksFailed_iff.mpr ⟨rfl, (carries.same lost _).trans early,
          carries.lost.trans lost⟩
      have sentinel := after live err marks
      rwa [carries.same lost] at sentinel
    · intro well live err' marks
      obtain ⟨rfl, early, lost⟩ := RRPc.record_marksFailed_iff.mp marks
      rw [carries.lost] at lost
      rw [carries.same lost] at early ⊢
      exact well.flow live flow e failing lost early
  · refine iff_of_true ?_ ⟨fun _ dialing => absurd dialing notDialing, ?_⟩
    · cases out with
      | running next => exact RRCall.reported_of_unmarked (unmarked next)
      | panicked => exact RRCall.reported_of_unmarked rfl
      | returned result =>
          cases result with
          | ok => exact RRCall.reported_of_unmarked rfl
          | error failure =>
              intro _ err marks
              obtain ⟨rfl, -, lost⟩ := RRPc.record_marksFailed_iff.mp marks
              rw [fine _ rfl] at lost
              cases lost
    · intro _ _ e failing lost
      rw [quiet e failing] at lost
      cases lost

theorem RequestStep.reported_iff (step : RequestStep r call pc answer r' call')
    (here : call.pc = pc) : call'.Reported ↔ call.AnsweredWell answer := by
  cases step with
  | dialFailed failed =>
      rename_i dialing c err
      cases dialing with
      | ok => cases failed
      | error e =>
          cases failed
          constructor
          · intro after
            refine ⟨?_, fun _ flow => by simp [here, RRPc.inFlow] at flow⟩
            rintro live _ e' ⟨⟩
            have sentinel := after live _ rfl
            rwa [is_wrap] at sentinel
          · rintro well live err ⟨⟩
            rw [is_wrap]
            exact well.dial live here e rfl
  | dialed connected =>
      rename_i dialing c live
      refine iff_of_true (RRCall.reported_of_unmarked ?_) ⟨?_, ?_⟩
      · simp only [RequestReplyClient.flow]
        split <;> rfl
      · rintro _ _ e ⟨⟩
        cases connected
      · intro _ flow
        simp [here, RRPc.inFlow] at flow
  | fixed stepped =>
      exact (requestReplyViaFixedQueue_answers stepped).reported_iff (by simp [here, RRPc.inFlow])
        fun _ => rfl
  | temp stepped =>
      exact (requestReplyViaTempQueue_answers stepped).reported_iff (by simp [here, RRPc.inFlow])
        fun _ => rfl
  | done | live | refused | passed | markDialFailed | recorded | closed | unwound =>
      exact iff_of_true (RRCall.reported_of_unmarked rfl)
        (RRCall.answeredWell_of_outside (by simp [here]) (by simp [here, RRPc.inFlow]))

def RequestsReported (c : RRConfig) : Prop :=
  ∀ t ∈ c.threads, ∀ call, t = .call call → call.Reported

def RequestsAnsweredWell (c : RRConfig) : RRMove → Prop
  | .call _ => True
  | .act i answer => ∀ call, c.threads[i]? = some (.call call) → call.AnsweredWell answer

theorem requestsReported_next_iff {c c' : RRConfig} {m : RRMove} (before : RequestsReported c)
    (moved : requestReplyProgram.next c m = some c') :
    RequestsReported c' ↔ RequestsAnsweredWell c m := by
  obtain ⟨r, rfl, rfl⟩ | ⟨i, answer, t, s, t', started, rfl, found, stepped, rfl⟩ :=
    Program.next_cases moved
  · refine iff_of_true (Program.forall_threads_call before ?_) trivial
    intro call made
    cases r with
    | requestReply =>
        cases made
        exact RRCall.reported_of_unmarked rfl
    | health | close => cases made
  · obtain ⟨step, rfl⟩ := requestReplyProgram_step stepped
    rw [List.append_nil]
    constructor
    · intro after call at_i
      obtain rfl := Option.some.inj (found.symm.trans at_i)
      cases step with
      | cancelled => exact ⟨nofun, nofun⟩
      | called inner =>
          exact ((requestReplyWithCreator_step inner).reported_iff rfl).mp
            (after _ (Program.mem_threads_set_self found _) _ rfl)
    · intro well
      apply Program.forall_threads_set
      · rintro call' rfl
        cases step with
        | cancelled => exact fun live => by cases live
        | called inner =>
            exact ((requestReplyWithCreator_step inner).reported_iff rfl).mpr (well _ found)
      · intro j u _ at_j
        exact before u (List.mem_of_getElem? at_j)

theorem RequestStep.marks {err : GoError} (step : RequestStep r call pc answer r' call')
    (marks : pc.marksFailed = some err) :
    r'.state = .failed ∧ (RRThread.call call').Settled err := by
  cases step with
  | markDialFailed =>
      cases marks
      exact ⟨rfl, .inr rfl⟩
  | @recorded result =>
      cases result with
      | ok => cases marks
      | error failure =>
          obtain ⟨rfl, early, lost⟩ := RRPc.record_marksFailed_iff.mp marks
          refine ⟨?_, .inl rfl⟩
          simp [RequestReplyClient.recordResult, RequestReplyClient.recordState, early, lost]
  | done | live | refused | passed | dialFailed | dialed | fixed | temp | closed | unwound =>
      cases marks

/-- No other step of a request makes the client failed. -/
theorem RequestStep.failed_by (step : RequestStep r call pc answer r' call')
    (was : r.state ≠ .failed) (now : r'.state = .failed) : ∃ err, pc.marksFailed = some err := by
  cases step with
  | markDialFailed => exact ⟨_, rfl⟩
  | @recorded result =>
      cases result with
      | ok => cases now
      | error failure =>
          simp only [RequestReplyClient.recordResult] at now
          split at now
          · cases now
          · rename_i lost
            exact ⟨failure, if_neg lost⟩
  | done | live | refused | passed | dialFailed | dialed | fixed | temp | closed | unwound =>
      exact absurd now was

/-- From where a request marks the client failed it returns that error and nothing else. -/
theorem request_returns_marked {c c₁ : RRConfig} {i : Nat} {err : GoError}
    {result : Except GoError (Message Bytes)} (found : c.threads[i]? = some (.call call))
    (marks : call.pc.marksFailed = some err) (running : ∀ e, answer ≠ .cancel e)
    (moved : requestReplyProgram.next c (.act i answer) = some c₁)
    (returns : CanReturn c₁ i result) : c₁.shared.state = .failed ∧ result = .error err := by
  rw [next_request found running] at moved
  obtain ⟨⟨r₁, call₁⟩, stepped, rfl⟩ := Option.map_eq_some_iff.mp moved
  have inside : i < c.threads.length := (List.getElem?_eq_some_iff.mp found).1
  obtain ⟨failed, settled⟩ := (requestReplyWithCreator_step stepped).marks marks
  exact ⟨failed, returns.of_settled (List.getElem?_set_self inside) settled⟩

end Request

/-! ## Every run -/

/-- When send `i` records a failure next, it returns an error under `ErrConnectionFailed`. -/
structure SendFailsUnderSentinel (c : SenderConfig) (i : Nat) (call : SendCall) : Prop where
  marked : ∀ answer c₁, senderProgram.next c (.act i answer) = some c₁ →
    c.shared.state ≠ .failed → c₁.shared.state = .failed → ∃ err, call.pc.marksFailed = some err
  reported : ∀ answer c₁ err, (∀ e, answer ≠ .cancel e) →
    senderProgram.next c (.act i answer) = some c₁ → call.pc.marksFailed = some err →
    ∀ ms c' call' result, senderProgram.exec c₁ ms = some c' →
      c'.threads[i]? = some (.send call') → call'.pc = .returned result →
      c₁.shared.state = .failed ∧ result = .error err ∧ err.is .connectionFailed = true

/-- When request `i` records a failure next, it returns an error under
    `ErrConnectionFailed`. -/
structure RequestFailsUnderSentinel (c : RRConfig) (i : Nat) (call : RRCall) : Prop where
  marked : ∀ answer c₁, requestReplyProgram.next c (.act i answer) = some c₁ →
    c.shared.state ≠ .failed → c₁.shared.state = .failed → ∃ err, call.pc.marksFailed = some err
  reported : ∀ answer c₁ err, (∀ e, answer ≠ .cancel e) →
    requestReplyProgram.next c (.act i answer) = some c₁ → call.pc.marksFailed = some err →
    ∀ result, CanReturn c₁ i result →
      c₁.shared.state = .failed ∧ result = .error err ∧ err.is .connectionFailed = true

theorem SendsReported.underSentinel {c : SenderConfig} {i : Nat} {call : SendCall}
    (reported : SendsReported c) (found : c.threads[i]? = some (.send call))
    (live : call.ctx = none) : SendFailsUnderSentinel c i call := by
  constructor
  · intro answer c₁ moved was now
    obtain ⟨other, -⟩ | ⟨a, t', started, same, stepped, -⟩ := Program.next_at found moved
    · exact absurd rfl (other answer)
    · generalize c₁.shared = s₁ at stepped now
      cases (senderProgram_step stepped).1 with
      | cancel => exact absurd now was
      | send inner => exact inner.failed_by was now
  · intro answer c₁ err running moved marks ms c' call' result run at_i returned
    obtain ⟨failed, same⟩ :=
      send_returns_marked found live marks running moved run at_i returned
    have sentinel := reported _ (List.mem_of_getElem? found) call rfl live err
      (SendPc.committed_of_marksFailed marks)
    exact ⟨failed, same, sentinel⟩

theorem RequestsReported.underSentinel {c : RRConfig} {i : Nat} {call : RRCall}
    (reported : RequestsReported c) (found : c.threads[i]? = some (.call call))
    (live : call.ctx = none) : RequestFailsUnderSentinel c i call := by
  constructor
  · intro answer c₁ moved was now
    obtain ⟨other, -⟩ | ⟨a, t', started, same, stepped, -⟩ := Program.next_at found moved
    · exact absurd rfl (other answer)
    · generalize c₁.shared = r₁ at stepped now
      cases (requestReplyProgram_step stepped).1 with
      | cancelled => exact absurd now was
      | called inner => exact (requestReplyWithCreator_step inner).failed_by was now
  · intro answer c₁ err running moved marks result returns
    obtain ⟨failed, same⟩ := request_returns_marked found marks running moved returns
    exact ⟨failed, same, reported _ (List.mem_of_getElem? found) call rfl live err marks⟩

/-- In a run whose moves are all answered well, every send and every request that records a
    failure while its context is live returns an error under `ErrConnectionFailed`. The
    moves are answered well exactly if in no state a call with a live context is going to
    record a failure under another error. -/
theorem failures_under_sentinel (client : ClientConfig) :
    (∀ queue opts ms c, senderProgram.exec ⟨newSender client queue opts, []⟩ ms = some c →
      senderProgram.Meets SendsAnsweredWell ⟨newSender client queue opts, []⟩ ms →
      ∀ i call, c.threads[i]? = some (.send call) → call.ctx = none →
        SendFailsUnderSentinel c i call) ∧
    (∀ mode requestQueue replyQueue opts ms c,
      requestReplyProgram.exec
        ⟨RequestReplyMode.newClient mode client requestQueue replyQueue opts, []⟩ ms = some c →
      requestReplyProgram.Meets RequestsAnsweredWell
        ⟨RequestReplyMode.newClient mode client requestQueue replyQueue opts, []⟩ ms →
      ∀ i call, c.threads[i]? = some (.call call) → call.ctx = none →
        RequestFailsUnderSentinel c i call) ∧
    (∀ queue opts ms, senderProgram.Always SendsReported ⟨newSender client queue opts, []⟩ ms ↔
      senderProgram.Meets SendsAnsweredWell ⟨newSender client queue opts, []⟩ ms) ∧
    ∀ mode requestQueue replyQueue opts ms,
      requestReplyProgram.Always RequestsReported
        ⟨RequestReplyMode.newClient mode client requestQueue replyQueue opts, []⟩ ms ↔
      requestReplyProgram.Meets RequestsAnsweredWell
        ⟨RequestReplyMode.newClient mode client requestQueue replyQueue opts, []⟩ ms := by
  have noSend : ∀ s : Sender, SendsReported ⟨s, []⟩ := fun s t member => by cases member
  have noRequest : ∀ r : RequestReplyClient, RequestsReported ⟨r, []⟩ :=
    fun r t member => by cases member
  refine ⟨?_, ?_, ?_, ?_⟩
  · intro queue opts ms c run well i call found live
    have reported := Program.exec_invariant
      (fun _ _ _ before allowed moved => (sendsReported_next_iff before moved).mpr allowed)
      (noSend _) well run
    exact reported.underSentinel found live
  · intro mode requestQueue replyQueue opts ms c run well i call found live
    have reported := Program.exec_invariant
      (fun _ _ _ before allowed moved => (requestsReported_next_iff before moved).mpr allowed)
      (noRequest _) well run
    exact reported.underSentinel found live
  · intro queue opts ms
    exact Program.always_iff_meets_of_next
      (fun _ _ _ before moved => sendsReported_next_iff before moved) ms (noSend _)
  · intro mode requestQueue replyQueue opts ms
    exact Program.always_iff_meets_of_next
      (fun _ _ _ before moved => requestsReported_next_iff before moved) ms (noRequest _)

/-- Like `minimal`, with one attempt to dial. -/
def ClientConfig.impatient : ClientConfig where
  cfg := Config.applyDefaults
    { queueManagerName := "QM1", connectionName := "localhost(1414)", channelName := "APP"
      maxRetries := 1 }
  defaulted := ⟨_, rfl⟩
  valid := (Config.complaints_applyDefaults _).mpr
    ⟨by decide, by decide, by decide, by decide⟩

/-- Call `i`, which finds no connection, fails to dial one. -/
def failsToDial (i : Nat) : List SenderMove :=
  List.replicate 5 (.act i .go) ++
    [.act i (.loop .check), .act i (.loop (.dialed (.error broken))), .act i .go]

/-- The only attempt to dial fails, and the send records that under `ErrConnectionFailed`. -/
theorem failures_under_sentinel_one_attempt : ∃ c c₁ call err,
    senderProgram.exec ⟨newSender .impatient "ORDERS" [], []⟩
      (.call (.send "" none false none) :: failsToDial 0) = some c ∧
    c.threads[0]? = some (.send call) ∧ call.ctx = none ∧ call.pc.marksFailed = some err ∧
    senderProgram.next c (.act 0 .go) = some c₁ ∧ c₁.shared.state = .failed ∧
    SendFailsUnderSentinel c 0 call := by
  obtain ⟨c, c₁, call, err, run, found, live, marks, moved, failed⟩ : ∃ c c₁ call err,
      senderProgram.exec ⟨newSender .impatient "ORDERS" [], []⟩
        (.call (.send "" none false none) :: failsToDial 0) = some c ∧
      c.threads[0]? = some (.send call) ∧ call.ctx = none ∧ call.pc.marksFailed = some err ∧
      senderProgram.next c (.act 0 .go) = some c₁ ∧ c₁.shared.state = .failed :=
    ⟨_, _, _, _, rfl, rfl, rfl, rfl, rfl, rfl⟩
  have well : senderProgram.Meets SendsAnsweredWell ⟨newSender .impatient "ORDERS" [], []⟩
      (.call (.send "" none false none) :: failsToDial 0) := by
    apply Program.meets_of_all
    simp [failsToDial, SendsAnsweredWell, SendCall.AnsweredWell, SendAnswer.failure]
  exact ⟨c, c₁, call, err, run, found, live, marks, moved, failed,
    (failures_under_sentinel .impatient).1 _ _ _ c run well 0 call found live⟩

/-- The connection of call `i` is lost under the put, and so is the one that `Reconnect`
    dials for the second put. -/
def losesTwoConnections (i : Nat) : List SenderMove :=
  [.act i (.opened none), .act i .go, .act i (.putFailed broken none), .act i .go,
    .act i (.loop .check), .act i (.loop (.dialed (.ok 8))), .act i .go,
    .act i (.opened none), .act i .go, .act i (.putFailed broken none), .act i (.disced none)] ++
    List.replicate 4 (.act i .go)

/-- The error that a send with a live context has returned. -/
def SenderThread.returnedError : SenderThread → Option GoError
  | .send call =>
      match call.ctx, call.pc with
      | none, .returned (.error err) => some err
      | _, _ => none
  | _ => none

/-- A send whose put fails twice and a request that cannot dial mark their components failed
    and return an error that is not under `ErrConnectionFailed`. -/
theorem failures_without_sentinel :
    (∃ c err, senderProgram.exec ⟨newSender .minimal "ORDERS" [], []⟩
        (.call (.send "" none false none) :: acquiresByDial 0 7 ++ losesTwoConnections 0) =
          some c ∧
      c.shared.state = .failed ∧ c.threads[0]?.bind SenderThread.returnedError = some err ∧
      err.is .connectionFailed = false) ∧
    ∃ c call err, requestReplyProgram.exec ⟨newRequestReplyClient .minimal "QUOTES" [], []⟩
        [.call (.requestReply none 1000000000 true none), .act 0 .go, .act 0 .go,
          .act 0 (.dialed (.error broken)), .act 0 .go] = some c ∧
      c.shared.state = .failed ∧ c.threads[0]? = some (.call call) ∧ call.ctx = none ∧
      call.pc = .returned (.error err) ∧ err.is .connectionFailed = false := by
  constructor
  · have sent : (senderProgram.exec ⟨newSender .minimal "ORDERS" [], []⟩
        (.call (.send "" none false none) :: acquiresByDial 0 7 ++ losesTwoConnections 0)).map
        (fun c => (c.shared.state, (c.threads[0]?.bind SenderThread.returnedError).map
          (·.is .connectionFailed))) = some (.failed, some false) := by
      decide +kernel
    obtain ⟨c, run, both⟩ := Option.map_eq_some_iff.mp sent
    obtain ⟨failed, answered⟩ := Prod.mk.inj both
    obtain ⟨err, returned, foreign⟩ := Option.map_eq_some_iff.mp answered
    exact ⟨c, err, run, failed, returned, foreign⟩
  · refine ⟨_, _, _, rfl, rfl, rfl, rfl, rfl, ?_⟩
    rfl

end CommonsMQ
