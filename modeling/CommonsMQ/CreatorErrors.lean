import CommonsMQ.Sender.Delivery
import CommonsMQ.RequestReply.Steps

/-! # Errors that a creator returns

A creator's error is wrapped and travels on as the error of `put` or of the flow, where
it is classified like one of the binding: whatever return code it wraps is taken for the
connection's own.
-/

namespace CommonsMQ

open Interleave BoundedPool

/-! ## Sends -/

/-- A send that goes on with `err`, gives `conn` back and returns; the steps left. -/
inductive HandingBack (conn : ConnId) (err : GoError) : SendPc → Nat → Prop where
  | release : HandingBack conn err (.release conn (.error err)) 2
  | finish : HandingBack conn err (.finish (.error err)) 1
  | returned : HandingBack conn err (.returned (.error err)) 0

/-- A send whose creator was called once and returned `e`, without a reconnect. -/
def SenderThread.Refused (conn : ConnId) (e : GoError) (left : Nat) : SenderThread → Prop
  | .send call => HandingBack conn (creatorFailure e) call.pc left ∧ call.given.length = 1 ∧
      call.reconnects = []
  | .probe _ | .close _ => False

/-- Send `i` gives `conn` back and returns the error of its creator, and leaves the
    sender's state alone. -/
structure ReturnsRefusal (conn : ConnId) (e : GoError) (i : Nat) (c : SenderConfig) : Prop where
  goesOn : ∃ left t, c.threads[i]? = some t ∧ t.Refused conn e left ∧
    (left = 0 ∨ ∃ c' t', senderProgram.next c (.act i .go) = some c' ∧
      c'.threads[i]? = some t' ∧ t'.Refused conn e (left - 1) ∧
      (left = 2 → c'.shared.pool = c.shared.pool ++ [conn]))
  quiet : ∀ a c', senderProgram.next c (.act i a) = some c' →
    c'.shared.state = c.shared.state ∧ c'.shared.lastErr = c.shared.lastErr

/-- However the run goes on after the creator of send `i` has returned `e`. -/
def KeepsCreatorError (c : SenderConfig) (i : Nat) (conn : ConnId) (e : GoError) : Prop :=
  ∃ c₁, senderProgram.next c (.act i (.created (.error e))) = some c₁ ∧
    c₁.shared.state = c.shared.state ∧
    ∀ ms c', senderProgram.exec c₁ ms = some c' → ReturnsRefusal conn e i c'

section Send

variable {s s' : Sender} {call call' : SendCall} {a : SendAnswer} {conn : ConnId} {e err : GoError}
  {left : Nat}

theorem SendStep.handingBack (step : SendStep s call a s' call')
    (back : HandingBack conn err call.pc left) :
    (∃ left', HandingBack conn err call'.pc left') ∧ call'.given = call.given ∧
      call'.reconnects = call.reconnects ∧ s'.state = s.state ∧ s'.lastErr = s.lastErr := by
  cases step with
  | release here =>
      rw [here] at back
      cases back
      exact ⟨⟨1, .finish⟩, rfl, rfl, rfl, rfl⟩
  | finish here =>
      rw [here] at back
      cases back
      exact ⟨⟨0, .returned⟩, rfl, rfl, rfl, rfl⟩
  | noDestination here | resolved here | rejected here | admitted here | acquiring here
  | acquireFailed here | acquired here | putting here | putReturned here | putPanicked here
  | markReconnecting here | reconnecting here | reconnected here | reconnectFailed here
  | markReconnected here | closeConn here | uncreate here | uncount here | markDiscarded here
  | markSent here | unwound here =>
      rw [here] at back
      cases back

theorem ThreadStep.refused {t t' : SenderThread} (step : ThreadStep s t a s' t')
    (refused : t.Refused conn e left) :
    (∃ left', t'.Refused conn e left') ∧ s'.state = s.state ∧ s'.lastErr = s.lastErr := by
  cases step with
  | cancel => exact ⟨⟨left, refused⟩, rfl, rfl⟩
  | send inner =>
      obtain ⟨back, once, never⟩ := refused
      obtain ⟨⟨left', back'⟩, given, reconnects, state, lastErr⟩ := inner.handingBack back
      exact ⟨⟨left', back', by rw [given, once], by rw [reconnects, never]⟩, state, lastErr⟩
  | probe | close => cases refused

/-- Nothing keeps a refused send from its next step: a place in the pool is free. -/
theorem PoolInv.refused_step {c : SenderConfig} {t : SenderThread} {i : Nat} (inv : PoolInv c)
    (found : c.threads[i]? = some t) (refused : t.Refused conn e left) :
    left = 0 ∨ ∃ c' t', senderProgram.next c (.act i .go) = some c' ∧ c'.threads[i]? = some t' ∧
      t'.Refused conn e (left - 1) ∧ (left = 2 → c'.shared.pool = c.shared.pool ++ [conn]) := by
  have inside : i < c.threads.length := (List.getElem?_eq_some_iff.mp found).1
  cases t with
  | probe | close => cases refused
  | send call =>
      obtain ⟨back, once, never⟩ := refused
      generalize here : call.pc = pc at back
      cases back with
      | returned => exact .inl rfl
      | finish =>
          refine .inr ⟨⟨{ c.shared with wg := c.shared.wg - 1 }, c.threads.set i (.send
            { call with pc := .returned (.error (creatorFailure e)) })⟩, _, ?_,
            List.getElem?_set_self inside, ⟨.returned, once, never⟩, by simp⟩
          rw [next_send found (by simp)]
          simp [sendWithCreator, here]
      | release =>
          have held : HeldBy c conn i := ⟨_, found, by simp [SenderThread.share, here, SendPc.share]⟩
          have room := inv.room held
          refine .inr ⟨⟨{ c.shared with pool := c.shared.pool ++ [conn] }, c.threads.set i (.send
            { call with pc := .finish (.error (creatorFailure e)) })⟩, _, ?_,
            List.getElem?_set_self inside, ⟨.finish, once, never⟩, fun _ => rfl⟩
          rw [next_send found (by simp)]
          simp [sendWithCreator, here, room]

theorem PoolInv.returnsRefusal {c : SenderConfig} {t : SenderThread} {i : Nat} (inv : PoolInv c)
    (found : c.threads[i]? = some t) (refused : t.Refused conn e left) :
    ReturnsRefusal conn e i c := by
  refine ⟨⟨left, t, found, refused, inv.refused_step found refused⟩, fun a c' moved => ?_⟩
  obtain ⟨other, -⟩ | ⟨b, t', started, same, stepped, -⟩ := Program.next_at found moved
  · exact absurd rfl (other a)
  · cases same
    exact ((senderProgram_step stepped).1.refused refused).2

theorem SenderThread.Refused.run {c c' : SenderConfig} {ms : List SenderMove} {t : SenderThread}
    {i : Nat} (refused : t.Refused conn e left) (found : c.threads[i]? = some t)
    (run : senderProgram.exec c ms = some c') :
    ∃ t' left', c'.threads[i]? = some t' ∧ t'.Refused conn e left' := by
  have stays : ∀ s t a s' t' started, (∃ left, SenderThread.Refused conn e left t) →
      senderProgram.step s t a = some (s', t', started) →
      ∃ left, SenderThread.Refused conn e left t' := by
    rintro s t a s' t' started ⟨left, refused⟩ stepped
    exact ((senderProgram_step stepped).1.refused refused).1
  obtain ⟨t', at_i, left', refused'⟩ := Program.exec_thread stays ⟨t, found, left, refused⟩ run
  exact ⟨t', left', at_i, refused'⟩

/-- A call whose creator, given message `n`, has returned `e`. -/
def SendCall.refusedBy (call : SendCall) (conn : ConnId) (retry : Bool) (n : Nat) (e : GoError) :
    SendCall :=
  { call with
    pc := afterPut conn retry (.error (creatorFailure e))
    current := {}
    attempts := call.attempts ++ [({ call.current with
      given := call.current.given ++ [(n, .fresh)] }, .error (creatorFailure e))] }

theorem next_created {c : SenderConfig} {i : Nat} {retry : Bool}
    (found : c.threads[i]? = some (.send call)) (creator : call.hasCreator = true)
    (here : call.pc = .put conn retry .runCreator) :
    senderProgram.next c (.act i (.created (.error e))) =
      some ⟨{ c.shared with nextMsg := c.shared.nextMsg + 1 },
        c.threads.set i (.send (call.refusedBy conn retry c.shared.nextMsg e))⟩ := by
  rw [next_send found (by simp)]
  simp [sendWithCreator, here, put, creator, SendCall.refusedBy]

theorem isConnectionError_creatorFailure (e : GoError) :
    isConnectionError (creatorFailure e) = isConnectionError e := by
  simp [creatorFailure]

/-- Any other way than handing the connection back starts from a connection error, or from
    the second attempt. -/
theorem HandingBack.of_refusedBy {retry : Bool} {n : Nat}
    (back : HandingBack conn err (call.refusedBy conn retry n e).pc left) :
    retry = false ∧ isConnectionError e = false := by
  simp only [SendCall.refusedBy, afterPut, isConnectionError_creatorFailure] at back
  cases retry with
  | true => cases back
  | false =>
      cases lost : isConnectionError e with
      | false => exact ⟨rfl, rfl⟩
      | true =>
          simp only [lost, Bool.false_eq_true, if_true, if_false] at back
          cases back

/-- In the first attempt the creator has not been called before. -/
theorem SendCall.Trace.refused {clean : Prop} (trace : call.Trace clean)
    (here : call.pc = .put conn false .runCreator) (kept : isConnectionError e = false) (n : Nat) :
    SenderThread.Refused conn e 2 (.send (call.refusedBy conn false n e)) := by
  unfold SendCall.Trace at trace
  rw [here] at trace
  obtain ⟨attempts, reconnects, current⟩ := trace
  refine ⟨?_, ?_, reconnects⟩
  · simp only [SendCall.refusedBy, afterPut, isConnectionError_creatorFailure, kept,
      Bool.false_eq_true, if_false]
    exact .release
  · simp only [PutAttempt.Running] at current
    simp [SendCall.refusedBy, SendCall.given, SendCall.tries, attempts, current]

theorem keepsCreatorError_iff {c : SenderConfig} {i : Nat} {retry : Bool} (inv : PoolInv c)
    (records : DeliveryInv False c) (found : c.threads[i]? = some (.send call))
    (creator : call.hasCreator = true) (here : call.pc = .put conn retry .runCreator) :
    KeepsCreatorError c i conn e ↔ retry = false ∧ isConnectionError e = false := by
  have inside : i < c.threads.length := (List.getElem?_eq_some_iff.mp found).1
  have moved := next_created (e := e) found creator here
  constructor
  · rintro ⟨c₁, moved', -, keeps⟩
    obtain rfl := Option.some.inj (moved.symm.trans moved')
    obtain ⟨left, t, at_i, refused, -⟩ := (keeps [] _ rfl).goesOn
    obtain rfl := Option.some.inj ((List.getElem?_set_self inside).symm.trans at_i)
    exact refused.1.of_refusedBy
  · rintro ⟨rfl, kept⟩
    have trace := records.traces _ (List.mem_of_getElem? found) call rfl
    have refused := trace.refused here kept c.shared.nextMsg
    refine ⟨_, moved, rfl, fun ms c' run => ?_⟩
    obtain ⟨t, left, at_i, refused⟩ := refused.run (List.getElem?_set_self inside) run
    have pool : PoolInv c' := Program.exec_invariant (fun _ _ _ inv _ moved => inv.next moved)
      (inv.next moved) (Program.meets_true ms) run
    exact pool.returnsRefusal at_i refused

end Send

/-! ## Requests -/

/-- A request that has `err` to record, closes its connection and returns; the steps left. -/
inductive Reporting (err : GoError) : RRPc → Nat → Prop where
  | record : Reporting err (.record (.error err)) 2
  | closeConn : Reporting err (.closeConn (some (.error err))) 1
  | returned : Reporting err (.returned (.error err)) 0

def RRThread.Refused (e : GoError) (left : Nat) : RRThread → Prop
  | .call running => Reporting (creatorFailure e) running.pc left
  | .probe _ | .close _ => False

/-- Request `i` returns the error of its creator, and does not record a failure. -/
structure RRReturnsRefusal (e : GoError) (i : Nat) (c : RRConfig) : Prop where
  goesOn : ∃ left t, c.threads[i]? = some t ∧ t.Refused e left ∧
    (left = 0 ∨ ∃ a c' t', requestReplyProgram.next c (.act i a) = some c' ∧
      c'.threads[i]? = some t' ∧ t'.Refused e (left - 1) ∧
      (left = 2 → c'.shared.state ≠ .failed))
  quiet : ∀ a c', requestReplyProgram.next c (.act i a) = some c' →
    c'.shared.state = .failed → c.shared.state = .failed

/-- However the run goes on after the creator of request `i` has returned `e`. -/
def RRKeepsCreatorError (c : RRConfig) (i : Nat) (e : GoError) : Prop :=
  ∃ c₁, requestReplyProgram.next c (.act i (.created (.error e))) = some c₁ ∧
    c₁.shared.state = c.shared.state ∧
    ∀ ms c', requestReplyProgram.exec c₁ ms = some c' → RRReturnsRefusal e i c'

/-- Where a request calls its creator. -/
def RRPc.atCreator : RRPc → Bool
  | .fixed (.runCreator _) | .temp (.runCreator _) => true
  | _ => false

section Request

variable {r r' : RequestReplyClient} {call call' : RRCall} {a : RRAnswer} {e err : GoError}
  {left : Nat}

theorem creatorFailure_is_timeout (e : GoError) :
    (creatorFailure e).is .timeout = e.is .timeout := by
  simp [creatorFailure, GoError.is, GoError.isList]

theorem RequestReplyClient.recordResult_state (r : RequestReplyClient) (e : GoError) :
    (r.recordResult (.error (creatorFailure e))).state = .failed ↔
      isConnectionError e = true ∧ e.is .timeout = false := by
  simp only [recordResult, isConnectionError_creatorFailure, creatorFailure_is_timeout]
  split
  · simp only [recordState, reduceCtorEq, false_iff]
    grind
  · simp only [recordState, true_iff]
    grind

theorem RequestStep.reporting {pc : RRPc} (step : RequestStep r call pc a r' call')
    (reporting : Reporting (creatorFailure e) pc left) :
    (∃ left', Reporting (creatorFailure e) call'.pc left') ∧
      (r'.state = .failed →
        r.state = .failed ∨ isConnectionError e = true ∧ e.is .timeout = false) := by
  cases step with
  | recorded =>
      cases reporting
      exact ⟨⟨1, .closeConn⟩, fun failed => .inr ((r.recordResult_state e).mp failed)⟩
  | closed =>
      cases reporting
      exact ⟨⟨0, .returned⟩, .inl⟩
  | done | live | refused | passed | dialFailed | dialed | markDialFailed | fixed | temp
  | unwound => cases reporting

theorem RRStep.refused {t t' : RRThread} (step : RRStep r t a r' t') (refused : t.Refused e left) :
    (∃ left', t'.Refused e left') ∧
      (r'.state = .failed →
        r.state = .failed ∨ isConnectionError e = true ∧ e.is .timeout = false) := by
  cases step with
  | cancelled => exact ⟨⟨left, refused⟩, .inl⟩
  | called inner => exact (requestReplyWithCreator_step inner).reporting refused
  | probed | closed => cases refused

theorem RRThread.Refused.unique {t : RRThread} {left' : Nat} (first : t.Refused e left)
    (second : t.Refused e left') : left = left' := by
  cases t with
  | call running =>
      have reporting : Reporting (creatorFailure e) running.pc left := first
      have again : Reporting (creatorFailure e) running.pc left' := second
      generalize running.pc = pc at reporting again
      cases reporting <;> cases again <;> rfl
  | probe | close => cases first

theorem RRStep.records {t t' : RRThread} (step : RRStep r t a r' t') (before : t.Refused e 2)
    (after : t'.Refused e 1) : r' = r.recordResult (.error (creatorFailure e)) := by
  cases step with
  | cancelled => cases before.unique after
  | @called call answer r' call' inner =>
      have reporting : Reporting (creatorFailure e) call.pc 2 := before
      have step := requestReplyWithCreator_step inner
      generalize call.pc = pc at reporting step
      cases reporting
      cases step
      rfl
  | probed | closed => cases before

/-- A refused request can always go on; recording the error is the first of its steps. -/
theorem RRThread.Refused.next {c : RRConfig} {t : RRThread} {i : Nat} (refused : t.Refused e left)
    (found : c.threads[i]? = some t) :
    left = 0 ∨ ∃ a c' t', requestReplyProgram.next c (.act i a) = some c' ∧
      c'.threads[i]? = some t' ∧ t'.Refused e (left - 1) ∧
      (left = 2 → c'.shared = c.shared.recordResult (.error (creatorFailure e))) := by
  have inside : i < c.threads.length := (List.getElem?_eq_some_iff.mp found).1
  cases t with
  | probe | close => cases refused
  | call running =>
      have reporting : Reporting (creatorFailure e) running.pc left := refused
      generalize here : running.pc = pc at reporting
      cases reporting with
      | returned => exact .inl rfl
      | closeConn =>
          refine .inr ⟨.disced none, ⟨{ c.shared with live := unlive c.shared.live running.conn },
            c.threads.set i (.call { running with
              conn := (running.conn.close c.shared.cfg none).1
              pc := .returned (.error (creatorFailure e)) })⟩, _, ?_,
            List.getElem?_set_self inside, .returned, by simp⟩
          rw [next_request found (by simp)]
          simp [requestReplyWithCreator, here, relive, Connection.close]
      | record =>
          refine .inr ⟨.go, ⟨c.shared.recordResult (.error (creatorFailure e)),
            c.threads.set i (.call { running with
              pc := .closeConn (some (.error (creatorFailure e))) })⟩, _, ?_,
            List.getElem?_set_self inside, .closeConn, fun _ => rfl⟩
          rw [next_request found (by simp)]
          simp [requestReplyWithCreator, here]

theorem RRThread.Refused.returns {c : RRConfig} {t : RRThread} {i : Nat}
    (refused : t.Refused e left) (found : c.threads[i]? = some t)
    (kept : isConnectionError e = false ∨ e.is .timeout = true) : RRReturnsRefusal e i c := by
  have fine : ¬(isConnectionError e = true ∧ e.is .timeout = false) := by
    rintro ⟨lost, late⟩
    simp [lost, late] at kept
  refine ⟨⟨left, t, found, refused, ?_⟩, fun a c' moved failed => ?_⟩
  · obtain done | ⟨a, c', t', moved, at_i, fewer, recorded⟩ := refused.next found
    · exact .inl done
    · refine .inr ⟨a, c', t', moved, at_i, fewer, fun two failed => ?_⟩
      rw [recorded two] at failed
      exact fine ((c.shared.recordResult_state e).mp failed)
  · obtain ⟨other, -⟩ | ⟨b, t', started, same, stepped, -⟩ := Program.next_at found moved
    · exact absurd rfl (other a)
    · cases same
      exact (((requestReplyProgram_step stepped).1.refused refused).2 failed).resolve_right fine

theorem RRThread.Refused.run {c c' : RRConfig} {ms : List RRMove} {t : RRThread} {i : Nat}
    (refused : t.Refused e left) (found : c.threads[i]? = some t)
    (run : requestReplyProgram.exec c ms = some c') :
    ∃ t' left', c'.threads[i]? = some t' ∧ t'.Refused e left' := by
  have stays : ∀ s t a s' t' started, (∃ left, RRThread.Refused e left t) →
      requestReplyProgram.step s t a = some (s', t', started) →
      ∃ left, RRThread.Refused e left t' := by
    rintro s t a s' t' started ⟨left, refused⟩ stepped
    exact ((requestReplyProgram_step stepped).1.refused refused).1
  obtain ⟨t', at_i, left', refused'⟩ := Program.exec_thread stays ⟨t, found, left, refused⟩ run
  exact ⟨t', left', at_i, refused'⟩

theorem next_requestCreated {c : RRConfig} {i : Nat} (found : c.threads[i]? = some (.call call))
    (creator : call.hasCreator = true) (here : call.pc.atCreator = true) :
    requestReplyProgram.next c (.act i (.created (.error e))) =
      some ⟨c.shared, c.threads.set i (.call { call with
        pc := .record (.error (creatorFailure e)) })⟩ := by
  rw [next_request found (by simp)]
  unfold RRPc.atCreator at here
  split at here
  · rename_i key at_creator
    simp [requestReplyWithCreator, at_creator, requestReplyViaFixedQueue, wrappedCreator,
      RRCall.spec, creator, FlowOutcome.next]
  · rename_i queue at_creator
    simp [requestReplyWithCreator, at_creator, requestReplyViaTempQueue, wrappedCreator,
      RRCall.spec, creator, FlowOutcome.next]
  · cases here

theorem rrKeepsCreatorError_iff {c : RRConfig} {i : Nat}
    (found : c.threads[i]? = some (.call call)) (creator : call.hasCreator = true)
    (here : call.pc.atCreator = true) :
    RRKeepsCreatorError c i e ↔ isConnectionError e = false ∨ e.is .timeout = true := by
  have inside : i < c.threads.length := (List.getElem?_eq_some_iff.mp found).1
  have moved := next_requestCreated (e := e) found creator here
  have reports : RRThread.Refused e 2 (.call { call with
      pc := .record (.error (creatorFailure e)) }) := Reporting.record
  constructor
  · rintro ⟨c₁, moved', -, keeps⟩
    obtain rfl := Option.some.inj (moved.symm.trans moved')
    obtain ⟨left, t, at_i, refused, more⟩ := (keeps [] _ rfl).goesOn
    obtain rfl := Option.some.inj ((List.getElem?_set_self inside).symm.trans at_i)
    obtain rfl : left = 2 := refused.unique reports
    obtain done | ⟨a, c', t', onward, at_i', fewer, fine⟩ := more
    · cases done
    obtain ⟨other, -⟩ | ⟨b, u, started, same, stepped, at_u⟩ := Program.next_at at_i onward
    · exact absurd rfl (other a)
    cases same
    obtain rfl := Option.some.inj (at_u.symm.trans at_i')
    have recorded := (requestReplyProgram_step stepped).1.records reports fewer
    have failed := fine rfl
    rw [recorded, ne_eq, RequestReplyClient.recordResult_state] at failed
    grind
  · intro kept
    refine ⟨_, moved, rfl, fun ms c' run => ?_⟩
    obtain ⟨t, left, at_i, refused⟩ := reports.run (List.getElem?_set_self inside) run
    exact refused.returns at_i kept

end Request

/-- A creator's error is kept apart from those of the connection exactly if the first
    return code it wraps, if any, is not one of a broken connection. A request also keeps
    a timeout apart, and a send has to be in the first of its attempts. -/
theorem creatorError_kept_iff (client : ClientConfig) :
    (∀ destinationQueue opts past c i call conn retry e,
      senderProgram.exec ⟨newSender client destinationQueue opts, []⟩ past = some c →
      c.threads[i]? = some (.send call) → call.hasCreator = true →
      call.pc = .put conn retry .runCreator →
      (KeepsCreatorError c i conn e ↔ retry = false ∧ isConnectionError e = false)) ∧
    (∀ (c : RRConfig) i call e, c.threads[i]? = some (.call call) → call.hasCreator = true →
      call.pc.atCreator = true →
      (RRKeepsCreatorError c i e ↔ isConnectionError e = false ∨ e.is .timeout = true)) := by
  refine ⟨?_, fun c i call e found creator here => rrKeepsCreatorError_iff found creator here⟩
  intro destinationQueue opts past c i call conn retry e run found creator here
  have fresh := newSender_fresh client destinationQueue opts
  have records : DeliveryInv False c := DeliveryInv.run fresh False.elim run
  exact keepsCreatorError_iff (PoolInv.run fresh run) records found creator here

/-- Send `0` connects and calls its creator. -/
def sendCallsCreator : List SenderMove :=
  .call (.send "" none true none) :: acquiresByDial 0 7 ++ [.act 0 (.opened none)]

/-- Request `0` connects, opens its reply queue and calls its creator. -/
def requestCallsCreator : List RRMove :=
  [.call (.requestReply none 1000000 true none), .act 0 .go, .act 0 .go,
    .act 0 (.dialed (.ok 7)), .act 0 (.openedDynamic "AMQ.1")]

theorem creatorError_kept_plain :
    (∃ c, senderProgram.exec ⟨newSender .minimal "ORDERS" [], []⟩ sendCallsCreator = some c ∧
      KeepsCreatorError c 0 0 (.plain "no order")) ∧
    (∃ c, requestReplyProgram.exec ⟨newRequestReplyClient .minimal "QUOTES" [], []⟩
        requestCallsCreator = some c ∧
      RRKeepsCreatorError c 0 (.plain "no order")) := by
  obtain ⟨sends, requests⟩ := creatorError_kept_iff .minimal
  constructor
  · obtain ⟨c, call, run, found, creator, here⟩ : ∃ c call,
        senderProgram.exec ⟨newSender .minimal "ORDERS" [], []⟩ sendCallsCreator = some c ∧
          c.threads[0]? = some (.send call) ∧ call.hasCreator = true ∧
          call.pc = .put 0 false .runCreator := ⟨_, _, rfl, rfl, rfl, rfl⟩
    exact ⟨c, run, (sends _ _ _ c 0 call 0 false _ run found creator here).mpr ⟨rfl, rfl⟩⟩
  · obtain ⟨c, call, run, found, creator, here⟩ : ∃ c call,
        requestReplyProgram.exec ⟨newRequestReplyClient .minimal "QUOTES" [], []⟩
          requestCallsCreator = some c ∧
          c.threads[0]? = some (.call call) ∧ call.hasCreator = true ∧
          call.pc.atCreator = true := ⟨_, _, rfl, rfl, rfl, rfl⟩
    exact ⟨c, run, (requests c 0 call _ found creator here).mpr (.inl rfl)⟩

/-- The creator looks up an order over a connection of its own, which is broken. -/
def lookupFailed : GoError :=
  .wrap "order lookup: MQRC_CONNECTION_BROKEN" [.mqReturn ⟨2, 2009, "MQRC_CONNECTION_BROKEN"⟩]

/-- The connection of the send is sound all along. It is replaced and then closed, the
    creator is called twice, and both components report a failed connection. -/
theorem lookup_taken_for_connection :
    (∃ c call, senderProgram.exec ⟨newSender .minimal "ORDERS" [], []⟩
        (sendCallsCreator ++ [.act 0 (.created (.error lookupFailed)), .act 0 .go,
          .act 0 (.loop .check), .act 0 (.loop (.dialed (.ok 8))), .act 0 .go,
          .act 0 (.opened none), .act 0 (.created (.error lookupFailed)),
          .act 0 (.disced none)] ++ List.replicate 4 (.act 0 .go)) = some c ∧
      c.threads = [.send call] ∧ call.pc = .returned (.error (creatorFailure lookupFailed)) ∧
      call.given.length = 2 ∧ call.reconnects = [none] ∧
      c.shared.pool = [] ∧ c.shared.live = [] ∧ c.shared.state = .failed) ∧
    (∃ c call, requestReplyProgram.exec ⟨newRequestReplyClient .minimal "QUOTES" [], []⟩
        (requestCallsCreator ++ [.act 0 (.created (.error lookupFailed)), .act 0 .go,
          .act 0 (.disced none)]) = some c ∧
      c.threads = [.call call] ∧ call.pc = .returned (.error (creatorFailure lookupFailed)) ∧
      c.shared.state = .failed) :=
  ⟨⟨_, _, rfl, rfl, rfl, rfl, rfl, rfl, rfl, rfl⟩, ⟨_, _, rfl, rfl, rfl, rfl⟩⟩

end CommonsMQ
