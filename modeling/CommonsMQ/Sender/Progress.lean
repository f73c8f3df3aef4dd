import CommonsMQ.Lib.Progress
import CommonsMQ.Sender.Closing
import CommonsMQ.Sender.Wakeup

/-! # The threads of a sender come to an end

Every step brings a thread nearer to its end, the retry loops included: a loop of `n` dials
makes three steps for each, and a call of Send runs two of them at most. Once its context is
done a loop ends at its next head. The blocking `select` of `acquireConn` is the only place
where a call can be kept from going on for good; the locks and `wg.Wait()` are always given
way by somebody who can still make a step.
-/

namespace CommonsMQ

open Interleave

/-! ## The countdown of a call -/

section Ranks

variable (rank : LoopRank)

def AcquirePc.left : AcquirePc → Nat
  | .markConnected _ => rank.start + 13
  | .countActive _ | .await => rank.start + 14
  | .dialing pc => rank.start + 14 + rank.left pc
  | .markDialFailed _ => 2
  | .unreserve _ => 3
  | .reserve => 2 * rank.start + 14
  | .poll => 2 * rank.start + 15
  | .checkCtx => 2 * rank.start + 16

def PutPc.left : PutPc → Nat
  | .openQueue => 3
  | .runCreator => 2
  | .mqput _ => 1

/-- How many steps a call can still make. -/
def SendPc.left : SendPc → Nat
  | .resolve => 2 * rank.start + 18
  | .enter => 2 * rank.start + 17
  | .acquire pc => pc.left rank
  | .put _ false pc => rank.start + 9 + pc.left
  | .put _ true pc => 5 + pc.left
  | .markReconnecting _ _ => rank.start + 9
  | .reconnect _ pc => 9 + rank.left pc
  | .markReconnected _ => 9
  | .closeConn _ _ => 5
  | .uncreate _ _ => 4
  | .uncount _ | .markSent _ _ => 3
  | .markDiscarded _ | .release _ _ => 2
  | .finish _ | .unwinding => 1
  | .returned _ | .panicked => 0

end Ranks

section Steps

variable {rank : LoopRank} {s s' : Sender} {answer : SendAnswer}

theorem AcquireStep.left {ctx : Option CtxErr} {pc pc'}
    (step : AcquireStep s ctx answer pc s' (.inl pc')) (counts : rank.Counts s.cfg.attempts ctx) :
    pc'.left rank < pc.left rank := by
  have head := rank.head
  cases step with
  | retry looped => exact Nat.add_lt_add_left (counts _ _ _ (newConnectionWithRetry_step looped)) _
  | dialFailed =>
      simp only [AcquirePc.left]
      omega
  | @dialed loopPc =>
      have := rank.positive loopPc
      simp only [AcquirePc.left]
      omega
  | look | take | miss | reserve | full | unreserve | countActive | receive =>
      simp only [AcquirePc.left]
      omega

theorem PutStep.left {queueName span attempt pc pc' attempt'}
    (step : PutStep s queueName span attempt pc answer s' attempt' (.running pc')) :
    pc'.left < pc.left := by
  cases step <;> simp [PutPc.left]

theorem PutPc.left_pos (pc : PutPc) : 1 ≤ pc.left := by
  cases pc <;> simp [left]

theorem afterPut_left (conn : ConnId) (retry : Bool) (result : Except GoError String) :
    (afterPut conn retry result).left rank ≤ if retry then 5 else rank.start + 9 := by
  cases result with
  | ok =>
      simp only [afterPut, SendPc.left]
      split <;> omega
  | error =>
      simp only [afterPut]
      split
      · simp [SendPc.left]
      · split <;> simp [SendPc.left]

theorem SendStep.left {call call' : SendCall} (step : SendStep s call answer s' call')
    (counts : rank.Counts s.cfg.attempts call.ctx) : call'.pc.left rank < call.pc.left rank := by
  have head := rank.head
  cases step with
  | acquiring here inner =>
      rw [here]
      exact inner.left counts
  | acquireFailed here inner =>
      rw [here]
      cases inner with
      | cancelled | markDialFailed | giveUp =>
          simp only [SendPc.left, AcquirePc.left]
          omega
  | acquired here inner =>
      rw [here]
      cases inner
      simp only [SendPc.left, AcquirePc.left, PutPc.left]
      omega
  | @putting conn retry pc _ _ pc' here inner =>
      rw [here]
      cases retry <;> exact Nat.add_lt_add_left inner.left _
  | @putReturned conn retry pc _ _ result here inner =>
      have := pc.left_pos
      refine lt_of_le_of_lt (afterPut_left conn retry result) ?_
      rw [here]
      cases retry <;> simp only [SendPc.left, Bool.false_eq_true, if_false, if_true] <;> omega
  | @putPanicked conn retry pc _ _ here =>
      have := pc.left_pos
      rw [here]
      cases retry <;> simp only [SendPc.left] <;> omega
  | reconnecting here _ looped =>
      rw [here]
      exact Nat.add_lt_add_left (counts _ _ _ (Connection.reconnect_step looped)) _
  | @reconnected conn pc _ _ _ _ here | @reconnectFailed conn pc _ _ _ _ _ here =>
      have := rank.positive pc
      rw [here]
      simp only [SendPc.left]
      omega
  | noDestination here | resolved here | rejected here | admitted here | markReconnecting here
  | markReconnected here | closeConn here | uncreate here | uncount here | markDiscarded here
  | markSent here | release here | finish here | unwound here =>
      rw [here]
      simp only [SendPc.left, AcquirePc.left, PutPc.left]
      omega

theorem SendStep.ctx {call call' : SendCall} (step : SendStep s call answer s' call') :
    call'.ctx = call.ctx := by
  cases step <;> rfl

end Steps

def SendAnswer.isCancel : SendAnswer → Bool
  | .cancel _ => true
  | _ => false

def ProbePc.left : ProbePc → Nat
  | .snapshot => 4
  | .lockPool _ => 3
  | .peek _ => 2
  | .putBack _ => 1
  | .returned _ => 0

/-- A call of `close` takes at most two steps for each of the `m` connections. -/
def ClosePc.left (m : Int) : ClosePc → Nat
  | .begin => 2 * m.toNat + 4
  | .await created => 2 * created.toNat + 3
  | .lockPool created => 2 * created.toNat + 2
  | .closing left _ _ => 2 * left + 2
  | .drain left _ => 2 * left + 1
  | .returned _ | .repeated => 0

theorem ProbeStep.left {s s' : Sender} {pc pc'} (step : ProbeStep s pc s' pc') :
    pc'.left < pc.left := by
  cases step <;> simp [ProbePc.left]

theorem CloseStep.left {s s' : Sender} {m : Int} {pc pc'} (step : CloseStep s pc s' pc')
    (bounded : s.created ≤ m) : pc'.left m < pc.left m := by
  cases step <;> simp only [ClosePc.left] <;> omega

def SenderThread.left (rank : LoopRank) (m : Int) : SenderThread → Nat
  | .send call => call.pc.left rank
  | .probe pc => pc.left
  | .close pc => pc.left m

theorem ThreadStep.left {s s' : Sender} {t t' answer} {rank : LoopRank} {m : Int}
    (step : ThreadStep s t answer s' t')
    (counts : ∀ call, t = .send call → rank.Counts s.cfg.attempts call.ctx)
    (bounded : s.created ≤ m) :
    t'.left rank m < t.left rank m ∨ answer.isCancel = true ∧ t'.left rank m = t.left rank m := by
  cases step with
  | cancel => exact .inr ⟨rfl, rfl⟩
  | send inner => exact .inl (inner.left (counts _ rfl))
  | probe inner => exact .inl inner.left
  | close inner => exact .inl (inner.left bounded)

theorem PoolInv.created_le {c : SenderConfig} (inv : PoolInv c) :
    c.shared.created ≤ c.shared.maxConns := by
  rw [inv.capacity]
  exact inv.sound.bounded

/-- A call of Send has a context that satisfies `when`, a call of `close` no more steps left
    than it starts with. -/
def SenderThread.Counted (when : Option CtxErr → Prop) (m : Int) : SenderThread → Prop
  | .send call => when call.ctx
  | .probe _ => True
  | .close pc => pc.left m ≤ ClosePc.left m .begin

/-- The steps of the threads of a sender with room for `m` connections and loops of at most
    `n` dials, for calls of Send whose context satisfies `when`. -/
def senderCountdown (n : Nat) (m : Int) (rank : LoopRank) (when : Option CtxErr → Prop)
    (cancelled : ∀ ctx e, when ctx → when (some (ctx.getD e)))
    (counts : ∀ ctx, when ctx → rank.Counts n ctx) : Countdown senderProgram where
  Fixed c := (c.shared.cfg.attempts = n ∧ c.shared.maxConns = m) ∧ PoolInv c
  Counted := SenderThread.Counted when m
  idle := SendAnswer.isCancel
  left := SenderThread.left rank m
  stays moved fixed := by
    refine ⟨?_, fixed.2.next moved⟩
    obtain ⟨r, -, rfl⟩ | ⟨i, answer, t, s, t', -, -, step, rfl⟩ := sender_cases moved
    · exact fixed.1
    · rw [step.settings.cfg, step.settings.maxConns]
      exact fixed.1
  kept stepped fixed counted := by
    cases (senderProgram_step stepped).1 with
    | cancel => exact cancelled _ _ counted
    | send inner => rwa [SenderThread.Counted, inner.ctx]
    | probe => trivial
    | close inner => exact (inner.left (fixed.1.2 ▸ fixed.2.created_le)).le.trans counted
  idles stepped fixed counted _ := by
    obtain ⟨⟨rfl, rfl⟩, inv⟩ := fixed
    obtain less | ⟨-, same⟩ := (senderProgram_step stepped).1.left
      (fun call same => counts _ (by cases same; exact counted)) inv.created_le
    · exact less.le
    · exact same.le
  counts stepped fixed counted running := by
    obtain ⟨⟨rfl, rfl⟩, inv⟩ := fixed
    obtain less | ⟨idle, -⟩ := (senderProgram_step stepped).1.left
      (fun call same => counts _ (by cases same; exact counted)) inv.created_le
    · exact less
    · rw [idle] at running
      cases running

/-! ## Threads that can go on -/

section Enabled

variable {c : SenderConfig} {s : Sender} {call : SendCall} {conn : ConnId} {i : Nat}

def SenderThread.Over : SenderThread → Prop
  | .send call => (∃ result, call.pc = .returned result) ∨ call.pc = .panicked
  | .probe pc => ∃ details, pc = .returned details
  | .close pc => (∃ err, pc = .returned err) ∨ pc = .repeated

/-- Thread `i` can make a step of its own. -/
def SenderCanStep (c : SenderConfig) (i : Nat) : Prop :=
  senderProgram.CanStep SendAnswer.isCancel c i

theorem SenderCanStep.of_step {t : SenderThread} (answer : SendAnswer)
    (found : c.threads[i]? = some t) (own : answer.isCancel = false)
    (enabled : (t.step c.shared answer).isSome) : SenderCanStep c i := by
  refine Program.CanStep.of_step found own ?_
  simpa [senderProgram] using enabled

theorem SenderCanStep.send (answer : SendAnswer) (found : c.threads[i]? = some (.send call))
    (own : answer.isCancel = false) (enabled : (sendWithCreator c.shared call answer).isSome) :
    SenderCanStep c i := by
  refine .of_step answer found own ?_
  cases answer with
  | cancel => cases own
  | _ => simpa [SenderThread.step] using enabled

theorem SenderCanStep.acquire {pc : AcquirePc} (answer : SendAnswer)
    (found : c.threads[i]? = some (.send call)) (here : call.pc = .acquire pc)
    (own : answer.isCancel = false) (enabled : (acquireConn c.shared call.ctx pc answer).isSome) :
    SenderCanStep c i := by
  refine .send answer found own ?_
  simp only [sendWithCreator, here]
  obtain ⟨⟨s', out⟩, moved⟩ := Option.isSome_iff_exists.mp enabled
  rw [moved]
  obtain pc' | err | conn := out <;> rfl

theorem canStep_acquire {pc : AcquirePc} (found : c.threads[i]? = some (.send call))
    (here : call.pc = .acquire pc)
    (free : (SenderThread.send call).Waits → c.shared.pool ≠ []) : SenderCanStep c i := by
  cases pc with
  | checkCtx =>
      refine .acquire .go found here rfl ?_
      cases ctx : call.ctx <;> simp [acquireConn]
  | poll =>
      refine .acquire .go found here rfl ?_
      cases pool : c.shared.pool <;> simp [acquireConn, pool]
  | reserve =>
      refine .acquire .go found here rfl ?_
      simp only [acquireConn]
      split <;> rfl
  | dialing pc =>
      obtain ⟨answer, out, looped, failed⟩ :=
        newConnectionWithRetry_goesOn c.shared.cfg call.ctx pc
      refine .acquire (.loop answer) found here rfl ?_
      simp only [acquireConn, looped]
      obtain pc' | err | x := out
      · rfl
      · rfl
      · exact absurd rfl (failed x)
  | await =>
      cases ctx : call.ctx with
      | some e =>
          refine .acquire .giveUp found here rfl ?_
          simp [acquireConn, ctx]
      | none =>
          refine .acquire .receive found here rfl ?_
          cases pool : c.shared.pool with
          | nil => exact absurd pool (free ⟨here, ctx⟩)
          | cons => simp [acquireConn, pool]
  | unreserve | markDialFailed | countActive | markConnected =>
      exact .acquire .go found here rfl rfl

theorem canStep_put {retry : Bool} {pc : PutPc} (found : c.threads[i]? = some (.send call))
    (here : call.pc = .put conn retry pc) : SenderCanStep c i := by
  cases pc with
  | openQueue =>
      refine .send (.opened none) found rfl ?_
      simp [sendWithCreator, here, put]
  | runCreator =>
      cases creator : call.hasCreator with
      | false =>
          refine .send .go found rfl ?_
          simp [sendWithCreator, here, put, creator]
      | true =>
          refine .send .panics found rfl ?_
          simp [sendWithCreator, here, put, creator]
  | mqput =>
      refine .send (.putOk .zero) found rfl ?_
      simp [sendWithCreator, here, put]

theorem setConn_isSome {x x' : Connection} (handles : s.Handles)
    (found : s.conns[conn]? = some x) (same : x'.handle = none ∨ x'.handle = x.handle) :
    (s.setConn conn x').isSome := by
  simp only [Sender.setConn, found, Option.isSome_map]
  exact relive_isSome handles.distinct same

theorem PoolInv.conn_of_held (inv : PoolInv c) (held : HeldBy c conn i) :
    ∃ x, c.shared.conns[conn]? = some x := by
  have known := inv.sound.known_of_held held.share
  simp only [Sender.view, List.mem_range] at known
  exact ⟨_, List.getElem?_eq_getElem known⟩

theorem canStep_reconnect {pc : LoopPc} (inv : PoolInv c)
    (found : c.threads[i]? = some (.send call)) (here : call.pc = .reconnect conn pc) :
    SenderCanStep c i := by
  obtain ⟨x, atConn⟩ := inv.conn_of_held ⟨_, found, congrArg SendPc.share here⟩
  obtain ⟨answer, x', out, looped, same⟩ := x.reconnect_goesOn c.shared.cfg call.ctx pc
  have set := setConn_isSome inv.handles atConn same
  refine .send (.loop answer) found rfl ?_
  simp only [sendWithCreator, here, atConn, looped]
  obtain pc' | none | err := out <;> simp [set]

/-- A call that has not ended can go on, except where it waits for a connection to come
    back to the pool. -/
theorem canStep_send (inv : PoolInv c) (found : c.threads[i]? = some (.send call))
    (running : ¬(SenderThread.send call).Over)
    (free : (SenderThread.send call).Waits → c.shared.pool ≠ []) : SenderCanStep c i := by
  have going : (sendWithCreator c.shared call .go).isSome → SenderCanStep c i := .send .go found rfl
  cases here : call.pc with
  | acquire pc => exact canStep_acquire found here free
  | put conn retry pc => exact canStep_put found here
  | reconnect conn pc => exact canStep_reconnect inv found here
  | resolve | enter =>
      refine going ?_
      simp only [sendWithCreator, here]
      split <;> rfl
  | markReconnecting conn err =>
      obtain ⟨x, atConn⟩ := inv.conn_of_held ⟨_, found, congrArg SendPc.share here⟩
      refine going ?_
      simp only [sendWithCreator, here, atConn, Option.isSome_map]
      exact setConn_isSome (s := c.shared.setState .reconnecting (some err))
        ⟨inv.handles.placed, inv.handles.distinct⟩ atConn (.inr rfl)
  | closeConn conn why =>
      obtain ⟨x, atConn⟩ := inv.conn_of_held ⟨_, found, congrArg SendPc.share here⟩
      refine .send (.disced none) found rfl ?_
      simp only [sendWithCreator, here, atConn, Option.isSome_map]
      exact setConn_isSome inv.handles atConn (.inl rfl)
  | release conn result =>
      have room := inv.room ⟨_, found, congrArg SendPc.share here⟩
      exact going (by simp [sendWithCreator, here, room])
  | markReconnected | uncreate | uncount | markDiscarded | markSent | finish | unwinding =>
      exact going (by simp [sendWithCreator, here])
  | returned result => exact absurd (.inl ⟨result, here⟩) running
  | panicked => exact absurd (.inr here) running

/-- Inside a section that `poolMu` guards nothing blocks. -/
theorem canStep_inPool {t : SenderThread} (inv : PoolInv c) (found : c.threads[i]? = some t)
    (inside : t.inPool ≠ 0) : SenderCanStep c i := by
  unfold SenderThread.inPool at inside
  split at inside
  · refine .of_step .go found rfl ?_
    cases pool : c.shared.pool <;> simp [SenderThread.step, senderHealthProber, pool]
  · rename_i conn
    have held : HeldBy c conn i := ⟨_, found, rfl⟩
    obtain ⟨x, atConn⟩ := inv.conn_of_held held
    refine .of_step .go found rfl ?_
    simp [SenderThread.step, senderHealthProber, atConn, inv.room held]
  · rename_i left errs
    refine .of_step .go found rfl ?_
    cases left with
    | zero => rfl
    | succ => cases pool : c.shared.pool <;> simp [SenderThread.step, closeSender, pool]
  · rename_i left conn errs
    obtain ⟨x, atConn⟩ := inv.conn_of_held ⟨_, found, rfl⟩
    refine .of_step (.disced none) found rfl ?_
    simp only [SenderThread.step, closeSender, atConn, Option.isSome_map]
    exact setConn_isSome inv.handles atConn (.inl rfl)
  · exact absurd rfl inside

/-- Somebody who keeps the lock from the others can go on. -/
theorem GuardInv.canStep_of_locked (inv : GuardInv c) (locked : c.shared.poolMu = true) :
    ∃ j, SenderCanStep c j := by
  have counted := inv.lock
  rw [locked, flag_true] at counted
  obtain ⟨u, member, inside⟩ := exists_of_tally_pos (by rw [← counted]; exact one_pos)
  obtain ⟨j, at_j⟩ := List.mem_iff_getElem?.mp member
  exact ⟨j, canStep_inPool inv.pool at_j inside.ne'⟩

theorem canStep_of_share {t : SenderThread} (inv : PoolInv c) (found : c.threads[i]? = some t)
    (busy : t.isHolding = true ∨ t.isDialing = true) : SenderCanStep c i := by
  have shares : t.share ≠ .nothing := by
    intro nothing
    simp [SenderThread.isHolding, SenderThread.isDialing, nothing] at busy
  cases t with
  | send call =>
      refine canStep_send inv found ?_ fun waits => absurd waits.share shares
      rintro (⟨result, here⟩ | here) <;> exact shares (congrArg SendPc.share here)
  | probe pc =>
      refine canStep_inPool inv found ?_
      cases pc <;> simp_all [SenderThread.share, SenderThread.inPool]
  | close pc =>
      refine canStep_inPool inv found ?_
      cases pc <;> simp_all [SenderThread.share, SenderThread.inPool]

/-- Nothing but two kinds of waiting can stop all threads. -/
theorem GuardInv.stuck_cases {t : SenderThread} (inv : GuardInv c)
    (stuck : ∀ j, ¬SenderCanStep c j) (found : c.threads[i]? = some t) :
    t.Over ∨ t.Waits ∧ c.shared.pool = [] ∨
      ∃ created, t = .close (.await created) ∧ c.shared.wg ≠ 0 := by
  have unlocked : c.shared.poolMu = false := by
    cases locked : c.shared.poolMu with
    | true =>
        obtain ⟨j, canStep⟩ := inv.canStep_of_locked locked
        exact absurd canStep (stuck j)
    | false => rfl
  have going : (t.step c.shared .go).isSome → SenderCanStep c i := .of_step .go found rfl
  by_cases running : t.Over
  · exact .inl running
  refine .inr ?_
  cases t with
  | send call =>
      by_contra free
      push Not at free
      exact stuck i (canStep_send inv.pool found running free.1)
  | probe pc =>
      refine absurd ?_ (stuck i)
      cases pc with
      | snapshot =>
          refine going ?_
          simp only [SenderThread.step, senderHealthProber, Option.isSome_map]
          repeat' split
          all_goals rfl
      | lockPool state =>
          exact going (by simp [SenderThread.step, senderHealthProber, unlocked])
      | peek | putBack => exact canStep_inPool inv.pool found one_ne_zero
      | returned details => exact absurd ⟨details, rfl⟩ running
  | close pc =>
      cases pc with
      | await created =>
          refine .inr ⟨created, rfl, fun waited => stuck i (going ?_)⟩
          simp [SenderThread.step, closeSender, waited]
      | begin =>
          refine absurd (going ?_) (stuck i)
          simp only [SenderThread.step, closeSender, Option.isSome_map]
          split <;> rfl
      | lockPool created =>
          exact absurd (going (by simp [SenderThread.step, closeSender, unlocked])) (stuck i)
      | drain | closing => exact absurd (canStep_inPool inv.pool found one_ne_zero) (stuck i)
      | returned err => exact absurd (.inl ⟨err, rfl⟩) running
      | repeated => exact absurd (.inr rfl) running

theorem SenderThread.Over.inFlight {t : SenderThread} (ended : t.Over) : t.inFlight = 0 := by
  cases t with
  | send call =>
      rcases ended with ⟨result, here⟩ | here <;>
        simp [SenderThread.inFlight, SendPc.inFlight, here]
  | probe | close => rfl

/-- If nobody can go on, some call waits for a connection: `close` waits for such calls. -/
theorem GuardInv.exists_waits {t : SenderThread} (inv : GuardInv c)
    (stuck : ∀ j, ¬SenderCanStep c j) (found : c.threads[i]? = some t) (running : ¬t.Over) :
    c.shared.pool = [] ∧ ∃ (j : Nat) (u : SenderThread), c.threads[j]? = some u ∧ u.Waits := by
  obtain ended | ⟨waits, empty⟩ | ⟨created, rfl, inFlight⟩ := inv.stuck_cases stuck found
  · exact absurd ended running
  · exact ⟨empty, i, t, found, waits⟩
  · have nonneg := tally_nonneg SenderThread.inFlight_nonneg c.threads
    rw [inv.wg] at inFlight
    obtain ⟨u, member, counted⟩ := exists_of_tally_pos (lt_of_le_of_ne nonneg inFlight.symm)
    obtain ⟨j, at_j⟩ := List.mem_iff_getElem?.mp member
    obtain ended | ⟨waits, empty⟩ | ⟨_, rfl, _⟩ := inv.stuck_cases stuck at_j
    · exact absurd ended.inFlight counted.ne'
    · exact ⟨empty, j, u, at_j, waits⟩
    · exact absurd counted (lt_irrefl 0)

/-- While the waiters are served, a thread that has not ended can go on or waits for one
    that can. -/
theorem GuardInv.canStep {t : SenderThread} (inv : GuardInv c) (served : NoLostWakeup c)
    (found : c.threads[i]? = some t) (running : ¬t.Over) : ∃ j, SenderCanStep c j := by
  by_contra stuck
  push Not at stuck
  obtain ⟨empty, j, u, at_j, waits⟩ := inv.exists_waits stuck found running
  obtain idle | ⟨k, v, -, at_k, busy⟩ := served j u at_j waits
  · exact idle empty
  · exact stuck k (canStep_of_share inv.pool at_k busy)

/-! ## When close waits for good -/

/-- The sender is closed, no connection is idle, and whoever has not ended waits: the sends
    for a connection, `close` for the sends. -/
structure Deadlocked (c : SenderConfig) : Prop where
  closed : c.shared.closed = true
  empty : c.shared.pool = []
  inFlight : c.shared.wg ≠ 0
  waits : ∀ t ∈ c.threads, t.Over ∨ t.Waits ∨ ∃ created, t = .close (.await created)

theorem GuardInv.deadlocked {pc : ClosePc} (inv : GuardInv c) (stuck : ∀ j, ¬SenderCanStep c j)
    (found : c.threads[i]? = some (.close pc)) (running : ¬(SenderThread.close pc).Over) :
    Deadlocked c := by
  obtain ended | ⟨waits, -⟩ | ⟨created, same, inFlight⟩ := inv.stuck_cases stuck found
  · exact absurd ended running
  · exact waits.elim
  refine ⟨?_, (inv.exists_waits stuck found running).1, inFlight, fun t member => ?_⟩
  · cases same
    have counted : 1 ≤ tally SenderThread.firstClose c.threads :=
      le_tally SenderThread.firstClose_nonneg (List.mem_of_getElem? found)
    rw [← inv.closed] at counted
    cases closed : c.shared.closed with
    | true => rfl
    | false => simp [closed] at counted
  · obtain ⟨j, at_j⟩ := List.mem_iff_getElem?.mp member
    obtain ended | ⟨waits, -⟩ | ⟨created, same, -⟩ := inv.stuck_cases stuck at_j
    · exact .inl ended
    · exact .inr (.inl waits)
    · exact .inr (.inr ⟨created, same⟩)

theorem SendStep.not_over {s' : Sender} {call' : SendCall} {answer : SendAnswer}
    (step : SendStep s call answer s' call') : ¬(SenderThread.send call).Over := by
  rintro (⟨result, ended⟩ | ended)
  · cases step <;> simp_all
  · cases step <;> simp_all

theorem SendStep.served {s' : Sender} {call' : SendCall} {answer : SendAnswer}
    (step : SendStep s call answer s' call') (waits : (SenderThread.send call).Waits) :
    s.pool ≠ [] := by
  obtain ⟨awaits, live⟩ := waits
  intro empty
  cases step with
  | acquiring here inner =>
      obtain rfl := SendPc.acquire.inj (awaits.symm.trans here)
      cases inner with
      | receive found => simp [empty] at found
  | acquireFailed here inner =>
      obtain rfl := SendPc.acquire.inj (awaits.symm.trans here)
      cases inner with
      | giveUp done => simp [live] at done
  | acquired here inner =>
      obtain rfl := SendPc.acquire.inj (awaits.symm.trans here)
      cases inner
  | _ => simp_all

/-- What those threads do that come later: they are turned away, or look at an empty pool. -/
def SenderThread.Idle : SenderThread → Prop
  | .send call => (SenderThread.send call).Over ∨ (SenderThread.send call).Waits ∨
      call.pc = .resolve ∨ call.pc = .enter
  | .probe pc => ∀ conn, pc ≠ .putBack conn
  | .close pc => (SenderThread.close pc).Over ∨ pc = .begin ∨ ∃ created, pc = .await created

/-- A deadlock with those who came later. -/
structure Hung (c : SenderConfig) : Prop where
  closed : c.shared.closed = true
  empty : c.shared.pool = []
  inFlight : c.shared.wg ≠ 0
  idle : ∀ t ∈ c.threads, t.Idle

theorem Deadlocked.hung (dead : Deadlocked c) : Hung c := by
  refine ⟨dead.closed, dead.empty, dead.inFlight, fun t member => ?_⟩
  have waits := dead.waits t member
  cases t with
  | send call =>
      obtain ended | waits | ⟨_, same⟩ := waits
      · exact .inl ended
      · exact .inr (.inl waits)
      · cases same
  | probe pc =>
      obtain ⟨details, rfl⟩ | waits | ⟨_, same⟩ := waits
      · exact nofun
      · exact waits.elim
      · cases same
  | close pc =>
      obtain ended | waits | ⟨created, same⟩ := waits
      · exact .inl ended
      · exact waits.elim
      · cases same
        exact .inr (.inr ⟨created, rfl⟩)

/-- Idle threads leave everything as it is, and `close` waiting. -/
theorem ThreadStep.idle {s' : Sender} {t t' : SenderThread} {answer : SendAnswer}
    (step : ThreadStep s t answer s' t') (own : answer.isCancel = false) (closed : s.closed = true)
    (empty : s.pool = []) (inFlight : s.wg ≠ 0) (idle : t.Idle) :
    (s'.closed = s.closed ∧ s'.pool = s.pool ∧ s'.wg = s.wg) ∧ t'.Idle ∧
      ∀ created, t ≠ .close (.await created) := by
  cases step with
  | cancel => cases own
  | send inner =>
      refine ⟨?_, ?_, nofun⟩
      all_goals obtain ended | waits | here | here := idle
      · exact absurd ended inner.not_over
      · exact absurd empty (inner.served waits)
      · cases inner <;> simp_all
      · cases inner <;> simp_all
      · exact absurd ended inner.not_over
      · exact absurd empty (inner.served waits)
      · cases inner <;> simp_all [SenderThread.Idle, SenderThread.Over]
      · cases inner <;> simp_all [SenderThread.Idle, SenderThread.Over]
  | probe inner =>
      cases inner with
      | take found => simp [empty] at found
      | putBack => exact absurd rfl (idle _)
      | answered | inUse | lockPool | empty => exact ⟨⟨rfl, rfl, rfl⟩, nofun, nofun⟩
  | close inner =>
      obtain (⟨err, rfl⟩ | rfl) | rfl | ⟨created, rfl⟩ := idle
      · cases inner
      · cases inner
      · cases inner with
        | repeated => exact ⟨⟨rfl, rfl, rfl⟩, .inl (.inr rfl), nofun⟩
        | begin opened => simp [closed] at opened
      · cases inner with
        | awaited none => exact absurd none inFlight

/-- Until some context is done, `close` waits. -/
theorem Hung.next {c' : SenderConfig} {m : SenderMove} (hung : Hung c)
    (own : ∀ j e, m ≠ .act j (.cancel e)) (moved : senderProgram.next c m = some c') :
    Hung c' ∧ ∀ created, c.threads[i]? = some (.close (.await created)) →
      c'.threads[i]? = some (.close (.await created)) := by
  obtain ⟨r, -, rfl⟩ | ⟨j, answer, t, s, t', rfl, found, step, rfl⟩ := sender_cases moved
  · refine ⟨⟨hung.closed, hung.empty, hung.inFlight, ?_⟩, fun created at_i => ?_⟩
    · refine Program.forall_threads_call hung.idle ?_
      cases r with
      | send => exact .inr (.inr (.inl rfl))
      | health => exact nofun
      | close => exact .inr (.inl rfl)
    · exact (List.getElem?_append_left (List.getElem?_eq_some_iff.mp at_i).1).trans at_i
  · have running : answer.isCancel = false := by
      cases answer with
      | cancel e => exact absurd rfl (own j e)
      | _ => rfl
    obtain ⟨⟨closed, empty, inFlight⟩, idle, elsewhere⟩ := step.idle running hung.closed hung.empty
      hung.inFlight (hung.idle t (List.mem_of_getElem? found))
    refine ⟨⟨closed.trans hung.closed, empty.trans hung.empty, inFlight ▸ hung.inFlight, ?_⟩, ?_⟩
    · exact Program.forall_threads_set idle fun k u _ at_k =>
        hung.idle u (List.mem_of_getElem? at_k)
    · intro created at_i
      have different : j ≠ i := by
        rintro rfl
        exact elsewhere created (Option.some.inj (found.symm.trans at_i))
      simpa [List.getElem?_set_ne different] using at_i

end Enabled

/-! ## Every call ends -/

/-- The most steps that a thread makes. -/
def SenderThread.mostSteps (n : Nat) (m : Int) : SenderThread → Nat
  | .send _ => 18 + 6 * n
  | .probe _ => 4
  | .close _ => 4 + 2 * m.toNat

theorem ThreadStep.mostSteps {s s' : Sender} {t t' answer} (step : ThreadStep s t answer s' t')
    (n : Nat) (m : Int) : t'.mostSteps n m = t.mostSteps n m := by
  cases step <;> rfl

theorem Config.attempts_pos (cfg : Config) : 1 ≤ cfg.attempts := by
  unfold attempts
  split <;> omega

/-- The steps of all calls. -/
def callCountdown (n : Nat) (m : Int) : Countdown senderProgram :=
  senderCountdown n m (LoopRank.full n) (fun _ => True) (fun _ _ _ => trivial)
    fun ctx _ => LoopRank.full_counts n ctx

theorem SendPc.left_full {n : Nat} (positive : 1 ≤ n) (pc : SendPc) :
    pc.left (LoopRank.full n) ≤ 18 + 6 * n := by
  cases pc with
  | acquire pc =>
      cases pc with
      | dialing pc => cases pc <;> simp only [left, AcquirePc.left, LoopRank.full] <;> omega
      | _ =>
          simp only [left, AcquirePc.left, LoopRank.full]
          omega
  | put conn retry pc =>
      cases retry <;> cases pc <;> simp only [left, PutPc.left, LoopRank.full] <;> omega
  | reconnect conn pc => cases pc <;> simp only [left, LoopRank.full] <;> omega
  | _ =>
      simp only [left, LoopRank.full]
      omega

theorem callCountdown_small {n : Nat} {m : Int} (positive : 1 ≤ n) (t : SenderThread)
    (counted : (callCountdown n m).Counted t) :
    (callCountdown n m).left t ≤ t.mostSteps n m := by
  cases t with
  | send call => exact call.pc.left_full positive
  | probe pc =>
      cases pc <;>
        simp [callCountdown, senderCountdown, SenderThread.left, ProbePc.left,
          SenderThread.mostSteps]
  | close pc => exact le_of_le_of_eq counted (Nat.add_comm _ _)

/-- However the threads of a sender take turns, none makes more than a fixed number of steps;
    and unless a waiting call was left behind, one of them can go on until all have ended. -/
theorem sender_completes (client : ClientConfig) (destinationQueue : String)
    (opts : List SenderOption) (ms : List SenderMove) (c : SenderConfig)
    (run : senderProgram.exec ⟨newSender client destinationQueue opts, []⟩ ms = some c) :
    (∀ (i : Nat) t, c.threads[i]? = some t →
      stepsOf SendAnswer.isCancel i ms ≤
        t.mostSteps (newSender client destinationQueue opts).cfg.attempts
          (newSender client destinationQueue opts).maxConns) ∧
    (NoLostWakeup c → (∀ t ∈ c.threads, t.Over) ∨ ∃ i, SenderCanStep c i) := by
  have fresh := newSender_fresh client destinationQueue opts
  constructor
  · intro i t found
    refine (callCountdown _ _).steps_le_bound (fun r => ?_) ?_ ?_
      ⟨⟨rfl, rfl⟩, .start fresh⟩ (by simp) run found
    · cases r <;> simp [senderProgram, callCountdown, senderCountdown, SenderThread.Counted]
    · intro s t a s' t' started stepped
      obtain ⟨step, rfl⟩ := senderProgram_step stepped
      exact ⟨step.mostSteps _ _, by simp⟩
    · exact callCountdown_small (Config.attempts_pos _)
  · intro served
    by_contra stuck
    push Not at stuck
    obtain ⟨⟨t, member, running⟩, still⟩ := stuck
    obtain ⟨i, found⟩ := List.mem_iff_getElem?.mp member
    obtain ⟨j, canStep⟩ := ((GuardInv.start fresh).run run).canStep served found running
    exact still j canStep

/-- One call takes the only slot of a sender, a second one waits for it. -/
def oneWaits : List SenderMove :=
  [.call (.send "" none true none), .call (.send "" none true none)] ++
    acquiresByDial 0 7 ++ List.replicate 5 (.act 1 .go)

theorem sender_completes_oneWaits :
    ∃ c, senderProgram.exec ⟨newSender .minimal "ORDERS" [.withSenderConcurrency 1], []⟩ oneWaits =
        some c ∧
      stepsOf SendAnswer.isCancel 0 oneWaits = 9 ∧ NoLostWakeup c ∧
      ((∀ t ∈ c.threads, t.Over) ∨ ∃ i, SenderCanStep c i) := by
  have run : ∃ c t u, senderProgram.exec
      ⟨newSender .minimal "ORDERS" [.withSenderConcurrency 1], []⟩ oneWaits = some c ∧
      c.threads = [t, u] ∧ t.isHolding = true := ⟨_, _, _, rfl, rfl, rfl⟩
  obtain ⟨c, t, u, run, threads, holding⟩ := run
  have served : NoLostWakeup c := by
    intro i waiter found waits
    refine .inr ⟨0, t, ?_, by rw [threads]; rfl, .inl holding⟩
    rintro rfl
    obtain rfl : t = waiter := by simpa [threads] using found
    simp [SenderThread.isHolding, waits.share] at holding
  exact ⟨c, run, rfl, served,
    (sender_completes .minimal "ORDERS" [.withSenderConcurrency 1] oneWaits c run).2 served⟩

/-- The steps of the calls whose context is done. -/
def doneCountdown (n : Nat) (m : Int) : Countdown senderProgram :=
  senderCountdown n m LoopRank.done (fun ctx => ctx.isSome) (fun _ _ _ => rfl)
    fun _ ended => LoopRank.done_counts ended

theorem SendPc.left_done (pc : SendPc) : pc.left LoopRank.done ≤ 22 := by
  cases pc with
  | acquire pc =>
      cases pc with
      | dialing pc => cases pc <;> simp [left, AcquirePc.left, LoopRank.done]
      | _ => simp [left, AcquirePc.left, LoopRank.done]
  | put conn retry pc => cases retry <;> cases pc <;> simp [left, PutPc.left, LoopRank.done]
  | reconnect conn pc => cases pc <;> simp [left, LoopRank.done]
  | _ => simp [left, LoopRank.done]

/-! ## Dials of a call that is to end -/

/-- Any answer but that of `MQCONNX`. -/
def SendAnswer.isNoDial : SendAnswer → Bool
  | .loop (.dialed _) => false
  | _ => true

/-- The call waits for `MQCONNX`. -/
def SendPc.atDial : SendPc → Bool
  | .acquire (.dialing (.dial _)) | .reconnect _ (.dial _) => true
  | _ => false

section Dials

variable {s s' : Sender} {call call' : SendCall} {answer : SendAnswer}

theorem sendWithCreator_dialed {result : Except GoError Handle}
    (moved : sendWithCreator s call (.loop (.dialed result)) = some (s', call')) :
    call.pc.atDial = true := by
  cases here : call.pc with
  | acquire pc =>
      cases pc with
      | dialing pc =>
          cases pc with
          | dial => rfl
          | head | wait =>
              simp [sendWithCreator, here, acquireConn, newConnectionWithRetry] at moved
      | _ => simp [sendWithCreator, here, acquireConn] at moved
  | reconnect conn pc =>
      cases pc with
      | dial => rfl
      | head | wait =>
          simp only [sendWithCreator, here, Connection.reconnect] at moved
          split at moved <;> cases moved
  | put conn retry pc => cases pc <;> simp [sendWithCreator, here, put] at moved
  | _ => simp [sendWithCreator, here] at moved

/-- A loop that finds its context done begins no dial. -/
theorem LoopStep.not_dial {n k : Nat} {ctx : Option CtxErr} {pc : LoopPc} {answer : LoopAnswer}
    (ended : ctx.isSome) : ¬LoopStep n ctx pc answer (.inl (.dial k)) := by
  intro step
  cases step with
  | checked live => simp [live] at ended

theorem SendStep.not_atDial (step : SendStep s call answer s' call') (ended : call.ctx.isSome) :
    call'.pc.atDial = false := by
  cases step with
  | @acquiring _ _ pc' _ inner =>
      cases inner with
      | @retry _ _ loopPc looped =>
          cases loopPc with
          | dial => exact absurd (newConnectionWithRetry_step looped) (LoopStep.not_dial ended)
          | head | wait => rfl
      | _ => rfl
  | @reconnecting _ _ _ _ _ loopPc _ _ _ looped =>
      cases loopPc with
      | dial => exact absurd (Connection.reconnect_step looped) (LoopStep.not_dial ended)
      | head | wait => rfl
  | @putReturned conn retry _ _ _ result =>
      cases result with
      | ok => rfl
      | error err =>
          simp only [afterPut]
          split
          · rfl
          · split <;> rfl
  | _ => rfl

end Dials

/-- The dials that are left to a call whose context is done. -/
def dialCountdown : Countdown senderProgram where
  Fixed _ := True
  Counted t := ∃ call, t = .send call ∧ call.ctx.isSome
  idle := SendAnswer.isNoDial
  left
    | .send call => if call.pc.atDial then 1 else 0
    | .probe _ | .close _ => 0
  stays _ _ := trivial
  kept stepped _ counted := by
    obtain ⟨call, rfl, ended⟩ := counted
    cases (senderProgram_step stepped).1 with
    | cancel => exact ⟨_, rfl, rfl⟩
    | send inner => exact ⟨_, rfl, inner.ctx ▸ ended⟩
  idles stepped _ counted _ := by
    obtain ⟨call, rfl, ended⟩ := counted
    cases (senderProgram_step stepped).1 with
    | cancel => exact le_rfl
    | send inner => simp [inner.not_atDial ended]
  counts {_ _ a _ _ _} stepped _ counted dials := by
    obtain ⟨call, rfl, ended⟩ := counted
    obtain ⟨result, rfl⟩ : ∃ result, a = .loop (.dialed result) := by
      unfold SendAnswer.isNoDial at dials
      split at dials
      · exact ⟨_, rfl⟩
      · cases dials
    have own := (senderProgram_step stepped).1
    obtain ⟨⟨r, t⟩, ran, same⟩ := Option.map_eq_some_iff.mp stepped
    obtain ⟨⟨r', call'⟩, moved, same'⟩ := Option.map_eq_some_iff.mp ran
    cases same
    cases same'
    cases own with
    | send inner => simp [inner.not_atDial ended, sendWithCreator_dialed moved]

/-- A call whose context is done is kept from nothing: it can always go on, and after at
    most 22 steps of its own, one dial among them at most, it has ended, even if it had been
    left behind. -/
theorem cancelled_send_ends (client : ClientConfig) (destinationQueue : String)
    (opts : List SenderOption) (ms rest : List SenderMove) (mid c : SenderConfig)
    (run : senderProgram.exec ⟨newSender client destinationQueue opts, []⟩ ms = some mid)
    (goesOn : senderProgram.exec mid rest = some c) (i : Nat) (call : SendCall)
    (found : mid.threads[i]? = some (.send call)) (ended : call.ctx.isSome) :
    ∃ call', c.threads[i]? = some (.send call') ∧ stepsOf SendAnswer.isCancel i rest ≤ 22 ∧
      stepsOf SendAnswer.isNoDial i rest ≤ 1 ∧
      ((SenderThread.send call').Over ∨ SenderCanStep c i) := by
  have fresh := newSender_fresh client destinationQueue opts
  have inv := PoolInv.run fresh run
  have counted : (doneCountdown mid.shared.cfg.attempts mid.shared.maxConns).Counted
      (.send call) := ended
  obtain ⟨t, at_i, counted, steps⟩ :=
    (doneCountdown mid.shared.cfg.attempts mid.shared.maxConns).steps_le ⟨⟨rfl, rfl⟩, inv⟩ found
      counted goesOn
  obtain ⟨call', at_i'⟩ := send_run found goesOn
  obtain rfl : t = .send call' := by simpa [at_i] using at_i'
  have small := call.pc.left_done
  obtain ⟨u, -, -, dials⟩ := dialCountdown.steps_le trivial found ⟨call, rfl, ended⟩ goesOn
  have one : dialCountdown.left (.send call) ≤ 1 := by
    simp only [dialCountdown]
    split <;> decide
  refine ⟨call', at_i, ?_, ?_, ?_⟩
  · exact (Nat.le_add_right _ _).trans (steps.trans small)
  · exact (Nat.le_add_right _ _).trans (dials.trans one)
  · by_contra stuck
    push Not at stuck
    have after := PoolInv.run fresh (Program.exec_trans run goesOn)
    refine stuck.2 (canStep_send after at_i stuck.1 fun waits => ?_)
    have done : call'.ctx.isSome := counted
    simp [waits.2] at done

/-- The call that `abandonedDial` leaves behind, with its context cancelled. -/
theorem cancelled_send_ends_leftBehind :
    ∃ mid c call, senderProgram.exec
        ⟨newSender .minimal "ORDERS" [.withSenderConcurrency 1], []⟩
        (abandonedDial ++ [.act 1 (.cancel .deadlineExceeded)]) = some mid ∧
      senderProgram.exec mid [.act 1 .giveUp] = some c ∧
      mid.threads[1]? = some (.send call) ∧ call.ctx.isSome ∧
      ∃ call', c.threads[1]? = some (.send call') ∧
        stepsOf SendAnswer.isCancel 1 ([.act 1 .giveUp] : List SenderMove) ≤ 22 ∧
        stepsOf SendAnswer.isNoDial 1 ([.act 1 .giveUp] : List SenderMove) ≤ 1 ∧
        ((SenderThread.send call').Over ∨ SenderCanStep c 1) :=
  ⟨_, _, _, rfl, rfl, rfl, rfl, cancelled_send_ends .minimal "ORDERS" [.withSenderConcurrency 1]
    (abandonedDial ++ [.act 1 (.cancel .deadlineExceeded)]) [.act 1 .giveUp] _ _ rfl rfl 1 _ rfl
    rfl⟩

end CommonsMQ
