import CommonsMQ.Lib.BoundedPool
import CommonsMQ.Sender.Steps

/-! # The Sender refines the bounded pool

Each thread is mapped to its share of the pool, each step to one step of
`BoundedPool`. Whatever the interleaving, the pool's invariant therefore holds of
the sender.
-/

namespace CommonsMQ

open Interleave BoundedPool

def Sender.view (s : Sender) : Pool ConnId where
  capacity := s.poolCap
  created := s.created
  idle := s.pool
  gone := s.gone
  known := List.range s.conns.length
  writtenOff := s.writtenOff

def AcquirePc.share : AcquirePc → Share ConnId
  | .dialing _ | .unreserve _ => .slot
  | .countActive conn | .markConnected conn => .holds conn
  | .checkCtx | .poll | .reserve | .markDialFailed _ | .await => .nothing

def SendPc.share : SendPc → Share ConnId
  | .acquire pc => pc.share
  | .put conn _ _ | .markReconnecting conn _ | .reconnect conn _ | .markReconnected conn
  | .closeConn conn _ | .uncreate conn _ | .markSent conn _ | .release conn _ => .holds conn
  | .resolve | .enter | .uncount _ | .markDiscarded _ | .finish _ | .returned _ | .unwinding
  | .panicked => .nothing

def SenderThread.share : SenderThread → Share ConnId
  | .send call => call.pc.share
  | .probe (.putBack conn) => .holds conn
  | .close (.closing _ conn _) => .holds conn
  | .probe _ | .close _ => .nothing

/-- The share with which `acquireConn` goes on or returns. -/
def acquireShare : AcquirePc ⊕ Except GoError ConnId → Share ConnId
  | .inl pc => pc.share
  | .inr (.ok conn) => .holds conn
  | .inr (.error _) => .nothing

namespace Sender

/-- What `NewSender` fixed is still as it was. -/
structure SameSettings (s s' : Sender) : Prop where
  cfg : s'.cfg = s.cfg
  queue : s'.queue = s.queue
  maxConns : s'.maxConns = s.maxConns
  poolCap : s'.poolCap = s.poolCap

theorem addConn_cases {s s' : Sender} {c : Connection} (h : s.addConn c = some s') :
    ∃ live, relive s.live .new c = some live ∧
      s' = { s with conns := s.conns ++ [c], live := live } := by
  obtain ⟨live, changed, rfl⟩ := Option.map_eq_some_iff.mp h
  exact ⟨live, changed, rfl⟩

theorem setConn_cases {s s' : Sender} {id : ConnId} {c' : Connection}
    (h : s.setConn id c' = some s') :
    ∃ c live, s.conns[id]? = some c ∧ relive s.live c c' = some live ∧
      s' = { s with conns := s.conns.set id c', live := live } := by
  unfold setConn at h
  split at h
  · cases h
  · obtain ⟨live, changed, rfl⟩ := Option.map_eq_some_iff.mp h
    exact ⟨_, live, ‹_›, changed, rfl⟩

theorem setConn_view {s s' : Sender} {id : ConnId} {c : Connection}
    (h : s.setConn id c = some s') : s'.view = s.view := by
  obtain ⟨old, live, -, -, rfl⟩ := setConn_cases h
  simp [view]

theorem addConn_view {s s' : Sender} {c : Connection} (h : s.addConn c = some s') :
    s'.view = { s.view with known := s.view.known ++ [s.conns.length] } := by
  obtain ⟨live, -, rfl⟩ := addConn_cases h
  simp [view, List.range_succ]

end Sender

section Refinement

variable {s s' : Sender}

theorem AcquireStep.refines {ctx answer pc out} (capacity : s.maxConns = s.poolCap)
    (step : AcquireStep s ctx answer pc s' out) : Step s.view pc.share s'.view (acquireShare out) := by
  cases step with
  | look | cancelled | miss | full | retry | dialFailed | giveUp => exact .stay _
  | take idle | receive idle => exact .take idle
  | reserve room => exact .reserve (capacity ▸ room)
  | dialed _ added =>
      rw [Sender.addConn_view added]
      exact .fill (by simp [Sender.view])
  | unreserve => exact .forfeit
  | markDialFailed =>
      split
      · exact .stay _
      · exact .stay _
  | countActive | markConnected => exact .stay _

/-- `put` touches neither the pool nor a connection. -/
theorem PutStep.frame {queueName span attempt pc answer attempt' out}
    (step : PutStep s queueName span attempt pc answer s' attempt' out) :
    ∃ queues nextMsg, s' = { s with queues := queues, nextMsg := nextMsg } := by
  cases step <;> exact ⟨_, _, rfl⟩

theorem afterPut_share (conn : ConnId) (retry : Bool) (result : Except GoError String) :
    (afterPut conn retry result).share = .holds conn := by
  unfold afterPut
  split
  · rfl
  · split
    · rfl
    · split <;> rfl

theorem SendStep.refines {call call' answer} (capacity : s.maxConns = s.poolCap)
    (step : SendStep s call answer s' call') :
    Step s.view call.pc.share s'.view call'.pc.share := by
  cases step with
  | noDestination here | resolved here | rejected here | admitted here =>
      rw [here]
      exact .stay _
  | acquiring here inner | acquireFailed here inner | acquired here inner =>
      rw [here]
      exact inner.refines capacity
  | putting here inner =>
      obtain ⟨queues, nextMsg, rfl⟩ := inner.frame
      rw [here]
      exact .stay _
  | putReturned here inner =>
      obtain ⟨queues, nextMsg, rfl⟩ := inner.frame
      rw [here, afterPut_share]
      exact .stay _
  | putPanicked here inner =>
      obtain ⟨queues, nextMsg, rfl⟩ := inner.frame
      rw [here]
      exact .writeOff
  | markReconnecting here _ set | reconnecting here _ _ set | reconnected here _ _ set
  | reconnectFailed here _ _ set | closeConn here _ set =>
      rw [here, Sender.setConn_view set]
      exact .stay _
  | markReconnected here | uncount here | markSent here | finish here | unwound here =>
      rw [here]
      exact .stay _
  | markDiscarded here =>
      rw [here]
      split
      · exact .stay _
      · exact .stay _
  | uncreate here =>
      rw [here]
      exact .discard
  | release here =>
      rw [here]
      exact .giveBack

theorem ThreadStep.refines {t t' answer} (capacity : s.maxConns = s.poolCap)
    (step : ThreadStep s t answer s' t') : Step s.view t.share s'.view t'.share := by
  cases step with
  | cancel => exact .stay _
  | send inner => exact inner.refines capacity
  | probe inner =>
      cases inner with
      | answered | inUse | lockPool | empty => exact .stay _
      | take idle => exact .take idle
      | putBack => exact .giveBack
  | close inner =>
      cases inner with
      | repeated | begin | awaited | lockPool | skip | done => exact .stay _
      | take idle => exact .take idle
      | closing _ set =>
          obtain ⟨old, live, -, -, rfl⟩ := Sender.setConn_cases set
          simpa only [Sender.view, List.length_set, SenderThread.share] using
            Step.writeOff (p := s.view)

theorem AcquireStep.settings {ctx answer pc out} (step : AcquireStep s ctx answer pc s' out) :
    s.SameSettings s' := by
  cases step with
  | dialed _ added =>
      obtain ⟨live, -, rfl⟩ := Sender.addConn_cases added
      exact ⟨rfl, rfl, rfl, rfl⟩
  | markDialFailed =>
      split
      · exact ⟨rfl, rfl, rfl, rfl⟩
      · exact ⟨rfl, rfl, rfl, rfl⟩
  | _ => exact ⟨rfl, rfl, rfl, rfl⟩

theorem ThreadStep.settings {t t' answer} (step : ThreadStep s t answer s' t') :
    s.SameSettings s' := by
  cases step with
  | cancel => exact ⟨rfl, rfl, rfl, rfl⟩
  | send inner =>
      cases inner with
      | acquiring _ inner | acquireFailed _ inner | acquired _ inner => exact inner.settings
      | putting _ inner | putReturned _ inner | putPanicked _ inner =>
          obtain ⟨queues, nextMsg, rfl⟩ := inner.frame
          exact ⟨rfl, rfl, rfl, rfl⟩
      | markReconnecting _ _ set | reconnecting _ _ _ set | reconnected _ _ _ set
      | reconnectFailed _ _ _ set | closeConn _ _ set =>
          obtain ⟨old, live, -, -, rfl⟩ := Sender.setConn_cases set
          exact ⟨rfl, rfl, rfl, rfl⟩
      | markDiscarded =>
          split
          · exact ⟨rfl, rfl, rfl, rfl⟩
          · exact ⟨rfl, rfl, rfl, rfl⟩
      | _ => exact ⟨rfl, rfl, rfl, rfl⟩
  | probe inner => cases inner <;> exact ⟨rfl, rfl, rfl, rfl⟩
  | close inner =>
      cases inner with
      | closing _ set =>
          obtain ⟨old, live, -, -, rfl⟩ := Sender.setConn_cases set
          exact ⟨rfl, rfl, rfl, rfl⟩
      | _ => exact ⟨rfl, rfl, rfl, rfl⟩

theorem sender_settings {c c' : SenderConfig} {ms : List SenderMove}
    (run : senderProgram.exec c ms = some c') : c.shared.SameSettings c'.shared := by
  have keep : ∀ d m d', c.shared.SameSettings d.shared → True →
      senderProgram.next d m = some d' → c.shared.SameSettings d'.shared := by
    intro d m d' same _ moved
    obtain ⟨r, -, rfl⟩ | ⟨i, answer, t, s, t', -, found, step, rfl⟩ := sender_cases moved
    · exact same
    · have step := step.settings
      exact ⟨step.cfg.trans same.cfg, step.queue.trans same.queue,
        step.maxConns.trans same.maxConns, step.poolCap.trans same.poolCap⟩
  exact Program.exec_invariant keep ⟨rfl, rfl, rfl, rfl⟩ (Program.meets_true ms) run

end Refinement

end CommonsMQ
