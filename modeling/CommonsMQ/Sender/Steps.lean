import CommonsMQ.Sender.Model

/-! # What a step of a sender thread can do

One relation per source function, with a constructor for each way its step can
go, and one theorem per function that the step does nothing else. The invariants
of the sender are proved over these relations and never unfold the functions.
-/

namespace CommonsMQ

inductive AcquireStep (s : Sender) (ctx : Option CtxErr) (answer : SendAnswer) :
    AcquirePc → Sender → AcquirePc ⊕ Except GoError ConnId → Prop where
  | look : ctx = none → AcquireStep s ctx answer .checkCtx s (.inl .poll)
  | cancelled {e} : ctx = some e →
      AcquireStep s ctx answer .checkCtx s (.inr (.error (.context e)))
  | take {conn rest} : s.pool = conn :: rest →
      AcquireStep s ctx answer .poll { s with pool := rest } (.inl (.markConnected conn))
  | miss : s.pool = [] → AcquireStep s ctx answer .poll s (.inl .reserve)
  | reserve : s.created < s.maxConns →
      AcquireStep s ctx answer .reserve { s with created := s.created + 1 }
        (.inl (.dialing (.head 0)))
  | full : ¬s.created < s.maxConns → AcquireStep s ctx answer .reserve s (.inl .await)
  | retry {pc loop pc'} : newConnectionWithRetry s.cfg ctx pc loop = some (.inl pc') →
      AcquireStep s ctx answer (.dialing pc) s (.inl (.dialing pc'))
  | dialFailed {pc loop err} :
      newConnectionWithRetry s.cfg ctx pc loop = some (.inr (.error err)) →
      AcquireStep s ctx answer (.dialing pc) s (.inl (.unreserve err))
  | dialed {pc loop c s'} : newConnectionWithRetry s.cfg ctx pc loop = some (.inr (.ok c)) →
      s.addConn c = some s' →
      AcquireStep s ctx answer (.dialing pc) s' (.inl (.countActive s.conns.length))
  | unreserve {err} : answer = .go → AcquireStep s ctx answer (.unreserve err)
      { s with created := s.created - 1 } (.inl (.markDialFailed err))
  | markDialFailed {err} : AcquireStep s ctx answer (.markDialFailed err)
      (if ctx.isNone then s.setState .failed (some err) else s) (.inr (.error err))
  | countActive {conn} : AcquireStep s ctx answer (.countActive conn)
      { s with activeConns := s.activeConns + 1 } (.inl (.markConnected conn))
  | receive {conn rest} : s.pool = conn :: rest →
      AcquireStep s ctx answer .await { s with pool := rest } (.inl (.markConnected conn))
  | giveUp {e} : ctx = some e → AcquireStep s ctx answer .await s (.inr (.error (.context e)))
  | markConnected {conn} : AcquireStep s ctx answer (.markConnected conn)
      (s.setState .connected none) (.inr (.ok conn))

theorem acquireConn_step {s s' : Sender} {ctx pc answer out}
    (h : acquireConn s ctx pc answer = some (s', out)) : AcquireStep s ctx answer pc s' out := by
  unfold acquireConn at h
  split at h
  · split at h <;> obtain ⟨rfl, rfl⟩ := h
    · exact .cancelled rfl
    · exact .look rfl
  · split at h <;> obtain ⟨rfl, rfl⟩ := h
    · exact .take ‹_›
    · exact .miss ‹_›
  · split at h <;> obtain ⟨rfl, rfl⟩ := h
    · exact .reserve ‹_›
    · exact .full ‹_›
  · split at h
    · cases h
    · obtain ⟨rfl, rfl⟩ := h
      exact .retry ‹_›
    · obtain ⟨rfl, rfl⟩ := h
      exact .dialFailed ‹_›
    · obtain ⟨added, found, same⟩ := Option.map_eq_some_iff.mp h
      obtain ⟨rfl, rfl⟩ := same
      exact .dialed ‹_› found
  · obtain ⟨rfl, rfl⟩ := h
    exact .unreserve rfl
  · obtain ⟨rfl, rfl⟩ := h
    exact .markDialFailed
  · obtain ⟨rfl, rfl⟩ := h
    exact .countActive
  · split at h
    · obtain ⟨rfl, rfl⟩ := h
      exact .receive ‹_›
    · cases h
  · obtain ⟨e, done, same⟩ := Option.map_eq_some_iff.mp h
    obtain ⟨rfl, rfl⟩ := same
    exact .giveUp done
  · obtain ⟨rfl, rfl⟩ := h
    exact .markConnected
  · cases h

inductive PutStep (s : Sender) (queueName : String) (span : Option SpanContext)
    (attempt : PutAttempt) : PutPc → SendAnswer → Sender → PutAttempt → PutOutcome → Prop where
  | opened : PutStep s queueName span attempt .openQueue (.opened none) s attempt
      (.running .runCreator)
  | openFailed {err} : PutStep s queueName span attempt .openQueue (.opened (some err)) s attempt
      (.returned (.error (openFailure queueName err)))
  | noCreator : PutStep s queueName span attempt .runCreator .go
      { s with nextMsg := s.nextMsg + 1 } attempt
      (.running (.mqput (injectToMessage s.cfg.propagator span .fresh)))
  | created {msg} : PutStep s queueName span attempt .runCreator (.created (.ok msg))
      { s with nextMsg := s.nextMsg + 1 }
      { attempt with given := attempt.given ++ [(s.nextMsg, .fresh)] }
      (.running (.mqput (injectToMessage s.cfg.propagator span msg)))
  | creatorFailed {err} : PutStep s queueName span attempt .runCreator (.created (.error err))
      { s with nextMsg := s.nextMsg + 1 }
      { attempt with given := attempt.given ++ [(s.nextMsg, .fresh)] }
      (.returned (.error (creatorFailure err)))
  | panicked : PutStep s queueName span attempt .runCreator .panics
      { s with nextMsg := s.nextMsg + 1 }
      { attempt with given := attempt.given ++ [(s.nextMsg, .fresh)] } .panicked
  | putOk {msg id} : PutStep s queueName span attempt (.mqput msg) (.putOk id)
      (s.landed queueName msg id)
      { attempt with puts := attempt.puts ++ [.ok id], landed := attempt.landed + 1 }
      (.returned (.ok id.hex))
  | putFailed {msg err} : PutStep s queueName span attempt (.mqput msg) (.putFailed err none) s
      { attempt with puts := attempt.puts ++ [.error err] }
      (.returned (.error (putFailure queueName err)))
  | putUncertain {msg err id} :
      PutStep s queueName span attempt (.mqput msg) (.putFailed err (some id))
      (s.landed queueName msg id)
      { attempt with puts := attempt.puts ++ [.error err], landed := attempt.landed + 1 }
      (.returned (.error (putFailure queueName err)))

theorem put_step {s s' : Sender} {queueName hasCreator span attempt pc answer attempt' out}
    (h : put s queueName hasCreator span attempt pc answer = some (s', attempt', out)) :
    PutStep s queueName span attempt pc answer s' attempt' out := by
  unfold put at h
  split at h
  · obtain ⟨rfl, rfl, rfl⟩ := h
    exact .opened
  · obtain ⟨rfl, rfl, rfl⟩ := h
    exact .openFailed
  · split at h
    · cases h
    · obtain ⟨rfl, rfl, rfl⟩ := h
      exact .noCreator
  · split at h
    · split at h <;> obtain ⟨rfl, rfl, rfl⟩ := h
      · exact .created
      · exact .creatorFailed
    · cases h
  · split at h
    · obtain ⟨rfl, rfl, rfl⟩ := h
      exact .panicked
    · cases h
  · obtain ⟨rfl, rfl, rfl⟩ := h
    exact .putOk
  · split at h <;> obtain ⟨rfl, rfl, rfl⟩ := h
    · exact .putFailed
    · exact .putUncertain
  · cases h

inductive SendStep (s : Sender) (call : SendCall) (answer : SendAnswer) :
    Sender → SendCall → Prop where
  | noDestination : call.pc = .resolve → s.destination call.destination = "" →
      SendStep s call answer s { call with pc := .returned (.error noDestination) }
  | resolved : call.pc = .resolve → s.destination call.destination ≠ "" →
      SendStep s call answer s
        { call with destination := s.destination call.destination, pc := .enter }
  | rejected : call.pc = .enter → s.closed = true →
      SendStep s call answer s { call with pc := .returned (.error ErrClientClosed) }
  | admitted : call.pc = .enter → s.closed = false →
      SendStep s call answer { s with wg := s.wg + 1 } { call with pc := .acquire .checkCtx }
  | acquiring {pc s' pc'} : call.pc = .acquire pc → AcquireStep s call.ctx answer pc s' (.inl pc') →
      SendStep s call answer s' { call with pc := .acquire pc' }
  | acquireFailed {pc s' err} : call.pc = .acquire pc →
      AcquireStep s call.ctx answer pc s' (.inr (.error err)) →
      SendStep s call answer s' { call with pc := .finish (.error err) }
  | acquired {pc s' conn} : call.pc = .acquire pc →
      AcquireStep s call.ctx answer pc s' (.inr (.ok conn)) →
      SendStep s call answer s' { call with pc := .put conn false .openQueue }
  | putting {conn retry pc s' attempt pc'} : call.pc = .put conn retry pc →
      PutStep s call.destination call.span call.current pc answer s' attempt (.running pc') →
      SendStep s call answer s' { call with pc := .put conn retry pc', current := attempt }
  | putReturned {conn retry pc s' attempt result} : call.pc = .put conn retry pc →
      PutStep s call.destination call.span call.current pc answer s' attempt (.returned result) →
      SendStep s call answer s' { call with
        pc := afterPut conn retry result, current := {}
        attempts := call.attempts ++ [(attempt, result)] }
  | putPanicked {conn retry pc s' attempt} : call.pc = .put conn retry pc →
      PutStep s call.destination call.span call.current pc answer s' attempt .panicked →
      SendStep s call answer { s' with gone := conn :: s'.gone, writtenOff := s'.writtenOff + 1 }
        { call with pc := .unwinding, current := attempt }
  | markReconnecting {conn err c s'} : call.pc = .markReconnecting conn err →
      s.conns[conn]? = some c →
      (s.setState .reconnecting (some err)).setConn conn { c with state := .reconnecting } =
        some s' →
      SendStep s call answer s' { call with pc := .reconnect conn (.head 0) }
  | reconnecting {conn pc loop c c' pc' s'} : call.pc = .reconnect conn pc →
      s.conns[conn]? = some c → c.reconnect s.cfg call.ctx pc loop = some (c', .inl pc') →
      s.setConn conn c' = some s' →
      SendStep s call answer s' { call with pc := .reconnect conn pc' }
  | reconnected {conn pc loop c c' s'} : call.pc = .reconnect conn pc →
      s.conns[conn]? = some c → c.reconnect s.cfg call.ctx pc loop = some (c', .inr none) →
      s.setConn conn c' = some s' →
      SendStep s call answer s' { call with
        pc := .markReconnected conn, reconnects := call.reconnects ++ [none] }
  | reconnectFailed {conn pc loop c c' err s'} : call.pc = .reconnect conn pc →
      s.conns[conn]? = some c → c.reconnect s.cfg call.ctx pc loop = some (c', .inr (some err)) →
      s.setConn conn c' = some s' →
      SendStep s call answer s' { call with
        pc := .closeConn conn ⟨err, true⟩, reconnects := call.reconnects ++ [some err] }
  | markReconnected {conn} : call.pc = .markReconnected conn →
      SendStep s call answer (s.setState .connected none)
        { call with pc := .put conn true .openQueue }
  | closeConn {conn why err c s'} : call.pc = .closeConn conn why → s.conns[conn]? = some c →
      s.setConn conn (c.close s.cfg err).1 = some s' →
      SendStep s call answer s' { call with pc := .uncreate conn why }
  | uncreate {conn why} : call.pc = .uncreate conn why → answer = .go →
      SendStep s call answer { s with created := s.created - 1, gone := conn :: s.gone }
        { call with pc := .uncount why }
  | uncount {why} : call.pc = .uncount why →
      SendStep s call answer { s with activeConns := s.activeConns - 1 }
        { call with pc := .markDiscarded why }
  | markDiscarded {why} : call.pc = .markDiscarded why →
      SendStep s call answer (if why.failed then s.setState .failed (some why.err) else s)
        { call with pc := .finish (.error why.err) }
  | markSent {conn msgID} : call.pc = .markSent conn msgID →
      SendStep s call answer (s.setState .connected none)
        { call with pc := .release conn (.ok msgID) }
  | release {conn result} : call.pc = .release conn result → s.pool.length < s.poolCap →
      SendStep s call answer { s with pool := s.pool ++ [conn] }
        { call with pc := .finish result }
  | finish {result} : call.pc = .finish result →
      SendStep s call answer { s with wg := s.wg - 1 } { call with pc := .returned result }
  | unwound : call.pc = .unwinding →
      SendStep s call answer { s with wg := s.wg - 1 } { call with pc := .panicked }

theorem sendWithCreator_step {s s' : Sender} {call call' : SendCall} {answer}
    (h : sendWithCreator s call answer = some (s', call')) : SendStep s call answer s' call' := by
  unfold sendWithCreator at h
  split at h
  · split at h <;> obtain ⟨rfl, rfl⟩ := h
    · exact .noDestination ‹_› ‹_›
    · exact .resolved ‹_› ‹_›
  · split at h <;> obtain ⟨rfl, rfl⟩ := h
    · exact .rejected ‹_› ‹_›
    · exact .admitted ‹_› (Bool.eq_false_iff.mpr ‹_›)
  · split at h
    · cases h
    · obtain ⟨rfl, rfl⟩ := h
      exact .acquiring ‹_› (acquireConn_step ‹_›)
    · obtain ⟨rfl, rfl⟩ := h
      exact .acquireFailed ‹_› (acquireConn_step ‹_›)
    · obtain ⟨rfl, rfl⟩ := h
      exact .acquired ‹_› (acquireConn_step ‹_›)
  · split at h
    · cases h
    · obtain ⟨rfl, rfl⟩ := h
      exact .putting ‹_› (put_step ‹_›)
    · obtain ⟨rfl, rfl⟩ := h
      exact .putReturned ‹_› (put_step ‹_›)
    · obtain ⟨rfl, rfl⟩ := h
      exact .putPanicked ‹_› (put_step ‹_›)
  · split at h
    · cases h
    · obtain ⟨changed, set, same⟩ := Option.map_eq_some_iff.mp h
      obtain ⟨rfl, rfl⟩ := same
      exact .markReconnecting ‹_› ‹_› set
  · split at h
    · cases h
    · split at h
      · cases h
      · obtain ⟨changed, set, same⟩ := Option.map_eq_some_iff.mp h
        obtain ⟨rfl, rfl⟩ := same
        exact .reconnecting ‹_› ‹_› ‹_› set
      · obtain ⟨changed, set, same⟩ := Option.map_eq_some_iff.mp h
        obtain ⟨rfl, rfl⟩ := same
        exact .reconnected ‹_› ‹_› ‹_› set
      · obtain ⟨changed, set, same⟩ := Option.map_eq_some_iff.mp h
        obtain ⟨rfl, rfl⟩ := same
        exact .reconnectFailed ‹_› ‹_› ‹_› set
  · obtain ⟨rfl, rfl⟩ := h
    exact .markReconnected ‹_›
  · split at h
    · cases h
    · obtain ⟨changed, set, same⟩ := Option.map_eq_some_iff.mp h
      obtain ⟨rfl, rfl⟩ := same
      exact .closeConn ‹_› ‹_› set
  · obtain ⟨rfl, rfl⟩ := h
    exact .uncreate ‹_› rfl
  · obtain ⟨rfl, rfl⟩ := h
    exact .uncount ‹_›
  · obtain ⟨rfl, rfl⟩ := h
    exact .markDiscarded ‹_›
  · obtain ⟨rfl, rfl⟩ := h
    exact .markSent ‹_›
  · split at h
    · obtain ⟨rfl, rfl⟩ := h
      exact .release ‹_› ‹_›
    · cases h
  · obtain ⟨rfl, rfl⟩ := h
    exact .finish ‹_›
  · obtain ⟨rfl, rfl⟩ := h
    exact .unwound ‹_›
  · cases h

inductive ProbeStep (s : Sender) : ProbePc → Sender → ProbePc → Prop where
  | answered {details} :
      senderHealthProber s .snapshot .go = some (s, .returned details) →
      ProbeStep s .snapshot s (.returned details)
  | inUse : s.closed = false → s.state ≠ .reconnecting → s.state ≠ .failed → s.created ≠ 0 →
      ProbeStep s .snapshot s (.lockPool s.state)
  | lockPool {state} : s.poolMu = false →
      ProbeStep s (.lockPool state) { s with poolMu := true } (.peek state)
  | take {state conn rest} : s.pool = conn :: rest →
      ProbeStep s (.peek state) { s with pool := rest } (.putBack conn)
  | empty {state details} : s.pool = [] →
      senderHealthProber s (.peek state) .go =
        some ({ s with poolMu := false }, .returned details) →
      ProbeStep s (.peek state) { s with poolMu := false } (.returned details)
  | putBack {conn details} : s.pool.length < s.poolCap →
      senderHealthProber s (.putBack conn) .go =
        some ({ s with pool := s.pool ++ [conn], poolMu := false }, .returned details) →
      ProbeStep s (.putBack conn) { s with pool := s.pool ++ [conn], poolMu := false }
        (.returned details)

theorem senderHealthProber_step {s s' : Sender} {pc pc' answer}
    (h : senderHealthProber s pc answer = some (s', pc')) : ProbeStep s pc s' pc' := by
  have whole := h
  unfold senderHealthProber at h
  split at h
  · simp only at h
    split at h
    · obtain ⟨rfl, rfl⟩ := h
      exact .answered whole
    · rename_i opened
      split at h
      · obtain ⟨rfl, rfl⟩ := h
        exact .answered whole
      · obtain ⟨rfl, rfl⟩ := h
        exact .answered whole
      · rename_i notReconnecting notFailed
        split at h
        · split at h <;> obtain ⟨rfl, rfl⟩ := h <;> exact .answered whole
        · obtain ⟨rfl, rfl⟩ := h
          exact .inUse (Bool.eq_false_iff.mpr opened) notReconnecting notFailed ‹_›
  · split at h
    · cases h
    · obtain ⟨rfl, rfl⟩ := h
      exact .lockPool (Bool.eq_false_iff.mpr ‹_›)
  · split at h
    · obtain ⟨rfl, rfl⟩ := h
      exact .take ‹_›
    · simp only at h
      split at h <;> obtain ⟨rfl, rfl⟩ := h <;> exact .empty ‹_› whole
  · split at h
    · cases h
    · simp only at h
      split at h
      · split at h <;> obtain ⟨rfl, rfl⟩ := h <;> exact .putBack ‹_› whole
      · cases h
  · cases h

inductive CloseStep (s : Sender) : ClosePc → Sender → ClosePc → Prop where
  | repeated : s.closed = true → CloseStep s .begin s .repeated
  | begin : s.closed = false →
      CloseStep s .begin { s with closed := true, state := .stopped, lastErr := none }
        (.await s.created)
  | awaited {created} : s.wg = 0 → CloseStep s (.await created) s (.lockPool created)
  | lockPool {created} : s.poolMu = false →
      CloseStep s (.lockPool created) { s with poolMu := true } (.drain created.toNat [])
  | take {left errs conn rest} : s.pool = conn :: rest →
      CloseStep s (.drain (left + 1) errs) { s with pool := rest } (.closing left conn errs)
  | skip {left errs} : s.pool = [] → CloseStep s (.drain (left + 1) errs) s (.drain left errs)
  | closing {left conn errs err c s'} : s.conns[conn]? = some c →
      s.setConn conn (c.close s.cfg err).1 = some s' →
      CloseStep s (.closing left conn errs)
        { s' with gone := conn :: s'.gone, writtenOff := s'.writtenOff + 1 }
        (.drain left (errs ++ (c.close s.cfg err).2.toList))
  | done {errs} : CloseStep s (.drain 0 errs) { s with poolMu := false }
      (.returned (joinErrors errs))

theorem closeSender_step {s s' : Sender} {pc pc' answer}
    (h : closeSender s pc answer = some (s', pc')) : CloseStep s pc s' pc' := by
  unfold closeSender at h
  split at h
  · split at h <;> obtain ⟨rfl, rfl⟩ := h
    · exact .repeated ‹_›
    · exact .begin (Bool.eq_false_iff.mpr ‹_›)
  · split at h
    · obtain ⟨rfl, rfl⟩ := h
      exact .awaited ‹_›
    · cases h
  · split at h
    · cases h
    · obtain ⟨rfl, rfl⟩ := h
      exact .lockPool (Bool.eq_false_iff.mpr ‹_›)
  · obtain ⟨rfl, rfl⟩ := h
    exact .done
  · split at h <;> obtain ⟨rfl, rfl⟩ := h
    · exact .take ‹_›
    · exact .skip ‹_›
  · split at h
    · cases h
    · obtain ⟨changed, set, same⟩ := Option.map_eq_some_iff.mp h
      obtain ⟨rfl, rfl⟩ := same
      exact .closing ‹_› set
  · cases h

inductive ThreadStep (s : Sender) : SenderThread → SendAnswer → Sender → SenderThread → Prop where
  | cancel {call e} : ThreadStep s (.send call) (.cancel e) s
      (.send { call with ctx := some (call.ctx.getD e) })
  | send {call answer s' call'} : SendStep s call answer s' call' →
      ThreadStep s (.send call) answer s' (.send call')
  | probe {pc answer s' pc'} : ProbeStep s pc s' pc' →
      ThreadStep s (.probe pc) answer s' (.probe pc')
  | close {pc answer s' pc'} : CloseStep s pc s' pc' →
      ThreadStep s (.close pc) answer s' (.close pc')

theorem SenderThread.step_cases {s s' : Sender} {t t' : SenderThread} {answer}
    (h : t.step s answer = some (s', t')) : ThreadStep s t answer s' t' := by
  unfold step at h
  split at h
  · obtain ⟨rfl, rfl⟩ := h
    exact .cancel
  · obtain ⟨⟨r, call'⟩, moved, same⟩ := Option.map_eq_some_iff.mp h
    obtain ⟨rfl, rfl⟩ := same
    exact .send (sendWithCreator_step moved)
  · obtain ⟨⟨r, pc'⟩, moved, same⟩ := Option.map_eq_some_iff.mp h
    obtain ⟨rfl, rfl⟩ := same
    exact .probe (senderHealthProber_step moved)
  · obtain ⟨⟨r, pc'⟩, moved, same⟩ := Option.map_eq_some_iff.mp h
    obtain ⟨rfl, rfl⟩ := same
    exact .close (closeSender_step moved)

theorem senderProgram_step {s s' : Sender} {t t' : SenderThread} {answer started}
    (h : senderProgram.step s t answer = some (s', t', started)) :
    ThreadStep s t answer s' t' ∧ started = [] := by
  obtain ⟨⟨r, u⟩, moved, same⟩ := Option.map_eq_some_iff.mp h
  obtain ⟨rfl, rfl, rfl⟩ := same
  exact ⟨SenderThread.step_cases moved, rfl⟩

/-- A move of the whole sender is a new call, or one step of one thread. -/
theorem sender_cases {c c' : SenderConfig} {m : SenderMove}
    (h : senderProgram.next c m = some c') :
    (∃ r, m = .call r ∧ c' = ⟨c.shared, c.threads ++ [senderProgram.start r]⟩) ∨
    (∃ i answer t s t', m = .act i answer ∧ c.threads[i]? = some t ∧
      ThreadStep c.shared t answer s t' ∧ c' = ⟨s, c.threads.set i t'⟩) := by
  obtain called | ⟨i, a, t, s, t', started, rfl, found, stepped, rfl⟩ :=
    Interleave.Program.next_cases h
  · exact .inl called
  · obtain ⟨step, rfl⟩ := senderProgram_step stepped
    exact .inr ⟨i, a, t, s, t', rfl, found, step, by rw [List.append_nil]⟩

/-- The thread of a send stays the thread of a send. -/
theorem send_run {c c' : SenderConfig} {ms : List SenderMove} {i : Nat} {call : SendCall}
    (found : c.threads[i]? = some (.send call)) (run : senderProgram.exec c ms = some c') :
    ∃ call', c'.threads[i]? = some (.send call') := by
  have own : ∀ s t a s' t' started, (∃ call, t = SenderThread.send call) →
      senderProgram.step s t a = some (s', t', started) → ∃ call, t' = .send call := by
    rintro s _ a s' t' started ⟨call, rfl⟩ stepped
    cases (senderProgram_step stepped).1 with
    | cancel | send => exact ⟨_, rfl⟩
  obtain ⟨_, at_i, call', rfl⟩ := Interleave.Program.exec_thread own ⟨_, found, call, rfl⟩ run
  exact ⟨call', at_i⟩

/-- A step of a send, unless its context is cancelled. -/
theorem next_send {c : SenderConfig} {i : Nat} {call : SendCall} {a : SendAnswer}
    (found : c.threads[i]? = some (.send call)) (running : ∀ e, a ≠ .cancel e) :
    senderProgram.next c (.act i a) = (sendWithCreator c.shared call a).map
      fun r => ⟨r.1, c.threads.set i (.send r.2)⟩ := by
  have own : SenderThread.step c.shared (.send call) a =
      (sendWithCreator c.shared call a).map fun r => (r.1, .send r.2) := by
    cases a with
    | cancel e => exact absurd rfl (running e)
    | _ => rfl
  simp only [Interleave.Program.next, found, senderProgram, own]
  cases sendWithCreator c.shared call a with
  | none => rfl
  | some r => simp

end CommonsMQ
