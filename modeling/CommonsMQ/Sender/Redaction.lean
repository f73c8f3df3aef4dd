import CommonsMQ.Redaction
import CommonsMQ.Sender.Model

/-! # Credentials and the Sender

Of what the binding answers, a sender keeps the plain error in a connection's
`lastError` and nowhere else; every other error that it stores or returns was
sanitized on the way. -/

namespace CommonsMQ

open Interleave

def Sender.redact (s : Sender) : Sender :=
  { s with cfg := s.cfg.redact, conns := s.conns.map Connection.redact }

def SendAnswer.redact : SendAnswer → SendAnswer
  | .loop answer => .loop answer.redact
  | .opened err => .opened (err.map GoError.redact)
  | .putFailed err landed => .putFailed err.redact landed
  | .disced err => .disced (err.map GoError.redact)
  | answer => answer

def PutAttempt.redact (attempt : PutAttempt) : PutAttempt :=
  { attempt with puts := attempt.puts.map (Except.mapError GoError.redact) }

def SendCall.redact (call : SendCall) : SendCall :=
  { call with
    current := call.current.redact
    attempts := call.attempts.map fun entry => (entry.1.redact, entry.2) }

def SenderThread.redact : SenderThread → SenderThread
  | .send call => .send call.redact
  | .probe pc => .probe pc
  | .close pc => .close pc

theorem SenderOption.apply_redact (s : Sender) (opt : SenderOption) :
    opt.apply s.redact = (opt.apply s).redact := by
  obtain ⟨n⟩ := opt
  by_cases positive : 1 ≤ n <;> simp [SenderOption.apply, Sender.redact, positive]

theorem redact_newSender (client : ClientConfig) (queue : String) (opts : List SenderOption) :
    (newSender client queue opts).redact = newSender client.redact queue opts :=
  (List.foldl_hom Sender.redact SenderOption.apply_redact).symm

namespace Sender

theorem redact_conns (s : Sender) (id : ConnId) :
    s.redact.conns[id]? = s.conns[id]?.map Connection.redact := List.getElem?_map ..

theorem redact_addConn (s : Sender) (c : Connection) :
    s.redact.addConn c.redact = (s.addConn c).map redact := by
  have fresh : relive s.live .new c.redact = relive s.live .new c := rfl
  cases changed : relive s.live .new c with
  | none => simp [addConn, redact, fresh, changed]
  | some live => simp [addConn, redact, fresh, changed]

theorem redact_setConn (s : Sender) (id : ConnId) (c : Connection) :
    s.redact.setConn id c.redact = (s.setConn id c).map redact := by
  simp only [setConn, redact_conns]
  cases s.conns[id]? with
  | none => rfl
  | some old =>
      have same : relive s.redact.live old.redact c.redact = relive s.live old c := rfl
      simp only [Option.map_some, same]
      cases relive s.live old c with
      | none => rfl
      | some live => simp [redact, List.map_set]

end Sender

theorem acquireConn_redact (s : Sender) (ctx : Option CtxErr) (pc : AcquirePc)
    (answer : SendAnswer) :
    acquireConn s.redact ctx pc answer.redact =
      (acquireConn s ctx pc answer).map fun r => (r.1.redact, r.2) := by
  cases pc <;> cases answer <;> try rfl
  case checkCtx.go => cases ctx <;> rfl
  case poll.go =>
      cases found : s.pool <;> simp [acquireConn, SendAnswer.redact, Sender.redact, found]
  case reserve.go =>
      by_cases room : s.created < s.maxConns <;>
        simp [acquireConn, SendAnswer.redact, Sender.redact, room]
  case dialing.loop pc answer =>
      have dialed := newConnectionWithRetry_redact s.cfg ctx pc answer
      change newConnectionWithRetry s.redact.cfg ctx pc answer.redact = _ at dialed
      simp only [acquireConn, SendAnswer.redact, dialed]
      rcases newConnectionWithRetry s.cfg ctx pc answer with _ | pc' | err | c
      · rfl
      · rfl
      · rfl
      · simp only [Option.map_some, Sum.map_inr, Except.map, s.redact_addConn]
        cases s.addConn c with
        | none => rfl
        | some s' => simp [Sender.redact]
  case markDialFailed.go err => cases ctx <;> rfl
  case await.receive =>
      cases found : s.pool <;> simp [acquireConn, SendAnswer.redact, Sender.redact, found]
  case await.giveUp => cases ctx <;> rfl

theorem put_redact (s : Sender) (queueName : String) (hasCreator : Bool)
    (span : Option SpanContext) (attempt : PutAttempt) (pc : PutPc) (answer : SendAnswer) :
    put s.redact queueName hasCreator span attempt.redact pc answer.redact =
      (put s queueName hasCreator span attempt pc answer).map
        fun r => (r.1.redact, r.2.1.redact, r.2.2) := by
  cases pc <;> cases answer <;> try rfl
  case openQueue.opened err =>
      cases err with
      | none => rfl
      | some err => simp [put, SendAnswer.redact, openFailure]
  case runCreator.go => cases hasCreator <;> rfl
  case runCreator.created result =>
      cases hasCreator with
      | false => rfl
      | true => cases result <;> rfl
  case runCreator.panics => cases hasCreator <;> rfl
  case mqput.putOk msg id =>
      simp only [put, SendAnswer.redact, PutAttempt.redact, Option.map_some, List.map_append,
        List.map_cons, List.map_nil]
      rfl
  case mqput.putFailed msg err landed =>
      cases landed with
      | none => simp [put, SendAnswer.redact, PutAttempt.redact, Except.mapError, putFailure]
      | some id =>
          simp only [put, SendAnswer.redact, PutAttempt.redact, putFailure, sanitizeError_redact,
            Option.map_some, List.map_append, List.map_cons, List.map_nil]
          rfl

theorem sendWithCreator_redact (s : Sender) (call : SendCall) (answer : SendAnswer) :
    sendWithCreator s.redact call.redact answer.redact =
      (sendWithCreator s call answer).map fun r => (r.1.redact, r.2.redact) := by
  obtain ⟨destination, ctx, hasCreator, span, pc, current, attempts, reconnects⟩ := call
  cases pc
  case acquire pc =>
      simp only [sendWithCreator, SendCall.redact, acquireConn_redact]
      rcases acquireConn s ctx pc answer with _ | ⟨s', pc' | err | conn⟩ <;> rfl
  case put conn retry pc =>
      simp only [sendWithCreator, SendCall.redact, put_redact]
      rcases put s destination hasCreator span current pc answer with
        _ | ⟨s', attempt, pc' | result | _⟩
      · rfl
      · rfl
      · simp only [Option.map_some, List.map_append, List.map_cons, List.map_nil]
        rfl
      · rfl
  all_goals cases answer <;> try rfl
  case resolve.go =>
      have same : s.redact.destination destination = s.destination destination := rfl
      simp only [sendWithCreator, SendCall.redact, SendAnswer.redact, same]
      split <;> rfl
  case enter.go =>
      cases refused : s.closed <;>
        simp [sendWithCreator, SendCall.redact, SendAnswer.redact, Sender.redact, refused]
  case markReconnecting.go conn err =>
      simp only [sendWithCreator, SendCall.redact, SendAnswer.redact, Sender.redact_conns]
      cases s.conns[conn]? with
      | none => rfl
      | some c =>
          have set : (s.redact.setState .reconnecting (some err)).setConn conn
              { c.redact with state := .reconnecting } = _ :=
            (s.setState .reconnecting (some err)).redact_setConn conn { c with state := .reconnecting }
          simp only [Option.map_some]
          rw [set, Option.map_map, Option.map_map]
          rfl
  case reconnect.loop conn pc answer =>
      simp only [sendWithCreator, SendCall.redact, SendAnswer.redact, Sender.redact_conns]
      cases s.conns[conn]? with
      | none => rfl
      | some c =>
          have dialed := c.reconnect_redact s.cfg ctx pc answer
          change c.redact.reconnect s.redact.cfg ctx pc answer.redact = _ at dialed
          simp only [Option.map_some, dialed]
          rcases c.reconnect s.cfg ctx pc answer with _ | ⟨c', pc' | _ | err⟩
          · rfl
          all_goals
            simp only [Option.map_some, s.redact_setConn, Option.map_map]
            rfl
  case closeConn.disced conn why err =>
      simp only [sendWithCreator, SendCall.redact, SendAnswer.redact, Sender.redact_conns]
      cases s.conns[conn]? with
      | none => rfl
      | some c =>
          have closed := c.close_redact s.cfg err
          change c.redact.close s.redact.cfg _ = _ at closed
          simp only [Option.map_some, closed, s.redact_setConn, Option.map_map]
          rfl
  case markDiscarded.go why => rcases why with ⟨err, _ | _⟩ <;> rfl
  case release.go conn result =>
      by_cases room : s.pool.length < s.poolCap <;>
        simp [sendWithCreator, SendCall.redact, SendAnswer.redact, Sender.redact, room]

theorem senderHealthProber_redact (s : Sender) (pc : ProbePc) (answer : SendAnswer) :
    senderHealthProber s.redact pc answer.redact =
      (senderHealthProber s pc answer).map fun r => (r.1.redact, r.2) := by
  cases pc <;> cases answer <;> try rfl
  case snapshot.go =>
      obtain ⟨cfg, queue, maxConns, poolCap, pool, poolMu, created, closed, state, lastErr⟩ := s
      cases closed with
      | true => rfl
      | false =>
          cases state <;> try rfl
          all_goals
            by_cases none : created = 0 <;> cases lastErr <;>
              simp [senderHealthProber, SendAnswer.redact, Sender.redact, none, Config.redact]
  case lockPool.go state =>
      cases locked : s.poolMu <;>
        simp [senderHealthProber, SendAnswer.redact, Sender.redact, locked]
  case peek.go state =>
      cases found : s.pool <;>
        simp [senderHealthProber, SendAnswer.redact, Sender.redact, found, Config.redact]
  case putBack.go conn =>
      simp only [senderHealthProber, SendAnswer.redact, Sender.redact_conns]
      cases s.conns[conn]? with
      | none => rfl
      | some c =>
          by_cases room : s.pool.length < s.poolCap <;>
            simp [Sender.redact, Connection.redact, room, Config.redact]

theorem closeSender_redact (s : Sender) (pc : ClosePc) (answer : SendAnswer) :
    closeSender s.redact pc answer.redact =
      (closeSender s pc answer).map fun r => (r.1.redact, r.2) := by
  cases pc
  case drain left errs =>
      cases left <;> cases answer <;> try rfl
      case succ.go left =>
          cases found : s.pool <;> simp [closeSender, SendAnswer.redact, Sender.redact, found]
  all_goals cases answer <;> try rfl
  case begin.go =>
      cases closed : s.closed <;> simp [closeSender, SendAnswer.redact, Sender.redact, closed]
  case await.go created =>
      by_cases idle : s.wg = 0 <;> simp [closeSender, SendAnswer.redact, Sender.redact, idle]
  case lockPool.go created =>
      cases locked : s.poolMu <;> simp [closeSender, SendAnswer.redact, Sender.redact, locked]
  case closing.disced left conn errs err =>
      simp only [closeSender, SendAnswer.redact, Sender.redact_conns]
      cases s.conns[conn]? with
      | none => rfl
      | some c =>
          have closed := c.close_redact s.cfg err
          change c.redact.close s.redact.cfg _ = _ at closed
          simp only [Option.map_some, closed, s.redact_setConn, Option.map_map]
          rfl

theorem SenderThread.step_redact (s : Sender) (t : SenderThread) (answer : SendAnswer) :
    t.redact.step s.redact answer.redact =
      (t.step s answer).map fun r => (r.1.redact, r.2.redact) := by
  cases t with
  | send call =>
      have sent := sendWithCreator_redact s call answer
      cases answer with
      | cancel e => rfl
      | _ =>
          simp only [SendAnswer.redact] at sent
          simp only [redact, SendAnswer.redact, SenderThread.step, sent, Option.map_map]
          rfl
  | probe pc =>
      simp only [redact, SenderThread.step, senderHealthProber_redact, Option.map_map]
      rfl
  | close pc =>
      simp only [redact, SenderThread.step, closeSender_redact, Option.map_map]
      rfl

/-- What a sender does, as far as it can depend on credentials. -/
def senderRedaction : Projection senderProgram where
  memory := Sender.redact
  thread := SenderThread.redact
  answer := SendAnswer.redact
  ok _ := True
  ok_answer _ := Iff.rfl
  start r := by cases r <;> rfl
  step s t a _ := by
    simp only [senderProgram, SenderThread.step_redact, Option.map_map]
    rfl

/-- The error texts and the reasons that a call has returned. -/
def SenderThread.texts : SenderThread → List String
  | .send call =>
      match call.pc with
      | .returned (.error err) => [err.text]
      | _ => []
  | .probe (.returned details) => details.map ConnectionStatus.reason
  | .close (.returned err) => err.toList.map GoError.text
  | .probe _ | .close _ => []

theorem SenderThread.texts_redact (t : SenderThread) : t.redact.texts = t.texts := by
  cases t <;> rfl

end CommonsMQ
