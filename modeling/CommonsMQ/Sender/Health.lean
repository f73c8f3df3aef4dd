import CommonsMQ.Sender.Closing

/-! # What a Sender's health probe reports

A probe reads the recorded state, the number of slots and the pool. The first two
change at other moments than the connections do: a slot is counted before its
dial, and for a short time after its connection was closed. `alive_iff` says
exactly in which states the answer "alive" has no connection behind it.
-/

namespace CommonsMQ

open Interleave BoundedPool

/-- The probe from `pc` on, with no other thread in between. -/
def Sender.probeFrom : Nat → Sender → ProbePc → Option (List ConnectionStatus)
  | _, _, .returned details => some details
  | 0, _, _ => none
  | left + 1, s, pc =>
      match senderHealthProber s pc .go with
      | none => none
      | some (s', pc') => probeFrom left s' pc'

/-- The whole probe as one step: the section under `mu` that takes the snapshot, and at once
    the one under `poolMu` that looks into the pool; `none` if it has to wait for the latter. -/
def Sender.probe (s : Sender) : Option (List ConnectionStatus) := s.probeFrom 4 .snapshot

def Sender.entry (s : Sender) (alive : Bool) (reason : String) : ConnectionStatus :=
  ⟨s.cfg.queueManagerName, alive, reason, "sender " ++ quote s.queue⟩

theorem Sender.probeFrom_run {c : SenderConfig} {i left : Nat} {pc : ProbePc}
    {details : List ConnectionStatus} (found : c.threads[i]? = some (.probe pc))
    (answered : c.shared.probeFrom left pc = some details) : ∃ n ≤ left, ∃ c',
      senderProgram.exec c (List.replicate n (.act i .go)) = some c' ∧
      c'.threads[i]? = some (.probe (.returned details)) := by
  induction left generalizing c pc with
  | zero =>
      cases pc with
      | returned => exact ⟨0, le_rfl, c, rfl, by simpa [probeFrom, found] using answered⟩
      | snapshot | lockPool | peek | putBack => cases answered
  | succ left ih =>
      have goesOn : ∀ s' pc', senderHealthProber c.shared pc .go = some (s', pc') →
          s'.probeFrom left pc' = some details → ∃ n ≤ left + 1, ∃ c',
            senderProgram.exec c (List.replicate n (.act i .go)) = some c' ∧
            c'.threads[i]? = some (.probe (.returned details)) := by
        intro s' pc' stepped later
        have moved : senderProgram.next c (.act i .go) =
            some ⟨s', c.threads.set i (.probe pc')⟩ := by
          simp [Program.next, found, senderProgram, SenderThread.step, stepped]
        have at_i : (c.threads.set i (.probe pc'))[i]? = some (.probe pc') :=
          List.getElem?_set_self (List.getElem?_eq_some_iff.mp found).1
        obtain ⟨n, few, c', run, returned⟩ :=
          ih (c := ⟨s', c.threads.set i (.probe pc')⟩) at_i later
        refine ⟨n + 1, Nat.succ_le_succ few, c', ?_, returned⟩
        rw [List.replicate_succ, Program.exec, moved]
        exact run
      cases pc with
      | returned => exact ⟨0, Nat.zero_le _, c, rfl, by simpa [probeFrom, found] using answered⟩
      | snapshot | lockPool | peek | putBack =>
          simp only [probeFrom] at answered
          split at answered
          · cases answered
          · exact goesOn _ _ ‹_› answered

/-- With nobody in between, a probe thread comes to this answer by steps of its own. -/
theorem Sender.probe_run {c : SenderConfig} {i : Nat} {details : List ConnectionStatus}
    (found : c.threads[i]? = some (.probe .snapshot)) (answered : c.shared.probe = some details) :
    ∃ n ≤ 4, ∃ c', senderProgram.exec c (List.replicate n (.act i .go)) = some c' ∧
      c'.threads[i]? = some (.probe (.returned details)) :=
  probeFrom_run found answered

/-- The answers of the probe, each with the reason for it. -/
inductive ProbeReport (s : Sender) : List ConnectionStatus → Prop where
  | closed : s.closed = true → ProbeReport s [s.entry false "sender is closed"]
  | reconnecting : s.closed = false → s.state = .reconnecting →
      ProbeReport s [s.entry false (connectionStateReason .reconnecting)]
  | failed : s.closed = false → s.state = .failed →
      ProbeReport s [s.entry false
        (connectionStateReason .failed ++ (s.lastErr.map fun err => ": " ++ err.text).getD "")]
  | broken {err} : s.closed = false → s.state ≠ .reconnecting → s.state ≠ .failed →
      s.lastErr = some err →
      ProbeReport s [s.entry false ("no live connections" ++ (": " ++ err.text))]
  | idle : s.closed = false → s.state ≠ .reconnecting → s.state ≠ .failed → s.created = 0 →
      s.lastErr = none → ProbeReport s []
  | pooled {conn c} : s.closed = false → s.state ≠ .reconnecting → s.state ≠ .failed →
      conn ∈ s.pool → s.conns[conn]? = some c →
      ProbeReport s [if c.state = .connected then s.entry true ""
        else s.entry false (connectionStateReason c.state)]
  | inUse : s.closed = false → s.poolMu = false → s.created ≠ 0 → s.pool = [] →
      s.state = .connected ∨ s.state = .unknown → ProbeReport s [s.entry true ""]
  | stopped : s.closed = false → s.state = .stopped →
      ProbeReport s [s.entry false (connectionStateReason .stopped)]

section Probe

variable {s : Sender} {details : List ConnectionStatus}

theorem Sender.probeFrom_next {s' : Sender} {pc pc' : ProbePc} {left : Nat}
    (moved : senderHealthProber s pc .go = some (s', pc')) :
    s.probeFrom (left + 1) pc = s'.probeFrom left pc' := by
  cases pc with
  | returned => simp [senderHealthProber] at moved
  | snapshot | lockPool | peek | putBack => simp only [probeFrom, moved]

/-- The probe past its snapshot, with the pool locked. -/
theorem Sender.probe_locked (opened : s.closed = false) (notReconnecting : s.state ≠ .reconnecting)
    (notFailed : s.state ≠ .failed) (some : s.created ≠ 0) :
    s.probe = if s.poolMu then none
      else ({ s with poolMu := true } : Sender).probeFrom 2 (.peek s.state) := by
  have snapshot : senderHealthProber s .snapshot .go = .some (s, .lockPool s.state) := by
    unfold senderHealthProber
    cases state : s.state <;> simp_all
  rw [probe, probeFrom_next snapshot]
  by_cases busy : s.poolMu
  · simp [probeFrom, senderHealthProber, busy]
  · have locked : senderHealthProber s (.lockPool s.state) .go =
        .some ({ s with poolMu := true }, .peek s.state) := by
      simp [senderHealthProber, busy]
    rw [if_neg busy, probeFrom_next locked]

/-- The snapshot alone may be enough for an answer. -/
theorem Sender.probe_early (early : ¬(s.closed = false ∧ s.state ≠ .reconnecting ∧
    s.state ≠ .failed ∧ s.created ≠ 0)) : s.probe.isSome := by
  have answered : ∃ details, senderHealthProber s .snapshot .go = some (s, .returned details) := by
    unfold senderHealthProber
    simp only
    split
    · exact ⟨_, rfl⟩
    · split
      · exact ⟨_, rfl⟩
      · exact ⟨_, rfl⟩
      · split
        · split <;> exact ⟨_, rfl⟩
        · simp_all
  obtain ⟨details, answered⟩ := answered
  rw [probe, probeFrom_next answered]
  rfl

theorem Sender.probe_empty (opened : s.closed = false) (unlocked : s.poolMu = false)
    (some : s.created ≠ 0) (empty : s.pool = [])
    (state : s.state = .connected ∨ s.state = .unknown) :
    s.probe = .some [s.entry true ""] := by
  rw [probe_locked opened (by rcases state with h | h <;> simp [h])
    (by rcases state with h | h <;> simp [h]) some]
  simp [probeFrom, senderHealthProber, unlocked, empty, state, entry]

theorem Sender.probe_report (reported : s.probe = some details) : ProbeReport s details := by
  by_cases closed : s.closed
  · obtain rfl : [s.entry false "sender is closed"] = details := by
      simpa [probe, probeFrom, senderHealthProber, closed, entry] using reported
    exact .closed closed
  have opened := Bool.eq_false_iff.mpr closed
  by_cases reconnecting : s.state = .reconnecting
  · obtain rfl : [s.entry false (connectionStateReason .reconnecting)] = details := by
      simpa [probe, probeFrom, senderHealthProber, opened, reconnecting, entry] using reported
    exact .reconnecting opened reconnecting
  by_cases failed : s.state = .failed
  · obtain rfl : [s.entry false (connectionStateReason .failed ++
        (s.lastErr.map fun err => ": " ++ err.text).getD "")] = details := by
      simpa [probe, probeFrom, senderHealthProber, opened, failed, entry] using reported
    exact .failed opened failed
  by_cases none : s.created = 0
  · cases err : s.lastErr with
    | none =>
        obtain rfl : [] = details := by
          cases state : s.state <;>
            simp_all [probe, probeFrom, senderHealthProber]
        exact .idle opened reconnecting failed none err
    | some e =>
        obtain rfl : [s.entry false ("no live connections" ++ (": " ++ e.text))] = details := by
          cases state : s.state <;>
            simp_all [probe, probeFrom, senderHealthProber, entry]
        exact .broken opened reconnecting failed err
  rw [probe_locked opened reconnecting failed none] at reported
  split at reported
  · cases reported
  rename_i unlocked
  cases pool : s.pool with
  | nil =>
      by_cases live : s.state = .connected ∨ s.state = .unknown
      · obtain rfl : [s.entry true ""] = details := by
          simpa [probeFrom, senderHealthProber, pool, live, entry] using reported
        exact .inUse opened (Bool.eq_false_iff.mpr unlocked) none pool live
      · have stopped : s.state = .stopped := by
          cases state : s.state <;> simp_all
        obtain rfl : [s.entry false (connectionStateReason .stopped)] = details := by
          simpa [probeFrom, senderHealthProber, pool, stopped, entry] using reported
        exact .stopped opened stopped
  | cons conn rest =>
      cases found : s.conns[conn]? with
      | none => simp [probeFrom, senderHealthProber, pool, found] at reported
      | some c =>
          by_cases room : rest.length < s.poolCap
          · have answer : [if c.state = .connected then s.entry true ""
                else s.entry false (connectionStateReason c.state)] = details := by
              by_cases connected : c.state = .connected <;>
                simpa [probeFrom, senderHealthProber, pool, found, room, connected, entry]
                  using reported
            exact answer ▸ .pooled opened reconnecting failed (pool ▸ List.mem_cons_self) found
          · simp [probeFrom, senderHealthProber, pool, found, room] at reported

end Probe

/-! ## The recorded state -/

/-- How a step can change the recorded state and error. -/
inductive StateChange (s s' : Sender) : Prop where
  | kept : s'.state = s.state → s'.lastErr = s.lastErr → s'.closed = s.closed → StateChange s s'
  | connected : s'.state = .connected → s'.lastErr = none → s'.closed = s.closed →
      StateChange s s'
  | broken : s'.state = .reconnecting ∨ s'.state = .failed → s'.closed = s.closed →
      StateChange s s'
  | stopped : s'.state = .stopped → s'.lastErr = none → s'.closed = true → StateChange s s'

section Recorded

variable {s s' : Sender} {t t' : SenderThread} {answer : SendAnswer}

theorem AcquireStep.stateChange {ctx pc out} (step : AcquireStep s ctx answer pc s' out) :
    StateChange s s' := by
  cases step with
  | dialed _ added =>
      obtain ⟨live, -, rfl⟩ := Sender.addConn_cases added
      exact .kept rfl rfl rfl
  | markDialFailed =>
      split
      · exact .broken (.inr rfl) rfl
      · exact .kept rfl rfl rfl
  | markConnected => exact .connected rfl rfl rfl
  | _ => exact .kept rfl rfl rfl

theorem ThreadStep.stateChange (step : ThreadStep s t answer s' t') : StateChange s s' := by
  cases step with
  | cancel => exact .kept rfl rfl rfl
  | send inner =>
      cases inner with
      | acquiring _ inner | acquireFailed _ inner | acquired _ inner => exact inner.stateChange
      | putting _ inner | putReturned _ inner | putPanicked _ inner =>
          obtain ⟨queues, nextMsg, rfl⟩ := inner.frame
          exact .kept rfl rfl rfl
      | markReconnecting _ _ set =>
          obtain ⟨old, live, -, -, rfl⟩ := Sender.setConn_cases set
          exact .broken (.inl rfl) rfl
      | reconnecting _ _ _ set | reconnected _ _ _ set | reconnectFailed _ _ _ set
      | closeConn _ _ set =>
          obtain ⟨old, live, -, -, rfl⟩ := Sender.setConn_cases set
          exact .kept rfl rfl rfl
      | markReconnected | markSent => exact .connected rfl rfl rfl
      | markDiscarded =>
          split
          · exact .broken (.inr rfl) rfl
          · exact .kept rfl rfl rfl
      | _ => exact .kept rfl rfl rfl
  | probe inner => cases inner <;> exact .kept rfl rfl rfl
  | close inner =>
      cases inner with
      | begin => exact .stopped rfl rfl rfl
      | closing _ set =>
          obtain ⟨old, live, -, -, rfl⟩ := Sender.setConn_cases set
          exact .kept rfl rfl rfl
      | _ => exact .kept rfl rfl rfl

/-- What the recorded state says about the recorded error and about `closed`. -/
structure Sender.Recorded (s : Sender) : Prop where
  explained : s.lastErr.isSome → s.state = .reconnecting ∨ s.state = .failed
  running : s.closed = false → s.state ≠ .stopped

theorem StateChange.recorded (change : StateChange s s') (before : s.Recorded) : s'.Recorded := by
  cases change with
  | kept state err closed =>
      constructor
      · rw [state, err]
        exact before.explained
      · rw [state, closed]
        exact before.running
  | connected state err => exact ⟨by simp [err], by simp [state]⟩
  | broken state => exact ⟨fun _ => state, by rcases state with state | state <;> simp [state]⟩
  | stopped _ err closed => exact ⟨by simp [err], by simp [closed]⟩

theorem StateChange.unknown (change : StateChange s s') (unknown : s'.state = .unknown) :
    s.state = .unknown := by
  cases change with
  | kept state => rw [← state, unknown]
  | connected state | stopped state => simp [state] at unknown
  | broken state => rcases state with state | state <;> simp [state] at unknown

/-- The thread works with a connection that its sender has recorded as connected. -/
def SendPc.seen : SendPc → Bool
  | .put _ _ _ | .markReconnecting _ _ | .reconnect _ _ | .markReconnected _ | .closeConn _ _
  | .uncreate _ _ | .markSent _ _ | .release _ _ => true
  | _ => false

def SenderThread.seen : SenderThread → Bool
  | .send call => call.pc.seen
  | .probe (.putBack _) | .close (.closing _ _ _) => true
  | .probe _ | .close _ => false

theorem ThreadStep.unseen (step : ThreadStep s t answer s' t') (empty : s.pool = [])
    (unseen : t.seen = false) (unknown : s'.state = .unknown) :
    s'.pool = [] ∧ t'.seen = false := by
  cases step with
  | cancel => exact ⟨empty, unseen⟩
  | send inner =>
      cases inner with
      | acquiring _ inner =>
          cases inner with
          | take found | receive found => simp [empty] at found
          | dialed _ added =>
              obtain ⟨live, -, rfl⟩ := Sender.addConn_cases added
              exact ⟨empty, rfl⟩
          | _ => exact ⟨empty, rfl⟩
      | acquireFailed _ inner =>
          cases inner with
          | markDialFailed =>
              split
              · exact ⟨empty, rfl⟩
              · exact ⟨empty, rfl⟩
          | _ => exact ⟨empty, rfl⟩
      | acquired _ inner =>
          cases inner with
          | markConnected => cases unknown
      | noDestination | resolved | rejected | admitted | uncount | finish | unwound =>
          exact ⟨empty, rfl⟩
      | markDiscarded =>
          split
          · exact ⟨empty, rfl⟩
          · exact ⟨empty, rfl⟩
      | putting here | putReturned here | putPanicked here | markReconnecting here
      | reconnecting here | reconnected here | reconnectFailed here | markReconnected here
      | closeConn here | uncreate here | markSent here | release here =>
          simp [SenderThread.seen, here, SendPc.seen] at unseen
  | probe inner =>
      cases inner with
      | take found => simp [empty] at found
      | putBack => cases unseen
      | _ => exact ⟨empty, rfl⟩
  | close inner =>
      cases inner with
      | take found => simp [empty] at found
      | closing => cases unseen
      | _ => exact ⟨empty, rfl⟩

/-- The send is to record `StateConnected` or `StateFailed` after a reconnect. -/
def SendPc.settling : SendPc → Bool
  | .reconnect _ _ | .markReconnected _ => true
  | .closeConn _ why | .uncreate _ why | .uncount why | .markDiscarded why => why.failed
  | _ => false

def SenderThread.settling : SenderThread → Bool
  | .send call => call.pc.settling
  | .probe _ | .close _ => false

theorem SenderThread.inFlight_of_settling {t : SenderThread} (settling : t.settling = true) :
    t.inFlight = 1 := by
  cases t with
  | send call =>
      simp only [SenderThread.settling, SendPc.settling] at settling
      simp only [SenderThread.inFlight, SendPc.inFlight]
      split at settling <;> simp_all
  | probe | close => cases settling

theorem AcquireStep.not_reconnecting {ctx pc out} (step : AcquireStep s ctx answer pc s' out)
    (reconnecting : s'.state = .reconnecting) : s.state = .reconnecting := by
  cases step with
  | dialed _ added =>
      obtain ⟨live, -, rfl⟩ := Sender.addConn_cases added
      exact reconnecting
  | markDialFailed =>
      split at reconnecting
      · cases reconnecting
      · exact reconnecting
  | markConnected => cases reconnecting
  | _ => exact reconnecting

/-- `StateReconnecting` is recorded by a send that will record another state. -/
theorem ThreadStep.settling (step : ThreadStep s t answer s' t')
    (reconnecting : s'.state = .reconnecting) :
    t'.settling = true ∨ s.state = .reconnecting ∧ (t.settling = true → t'.settling = true) := by
  cases step with
  | cancel => exact .inr ⟨reconnecting, id⟩
  | send inner =>
      cases inner with
      | noDestination here | resolved here | rejected here | admitted here | release here
      | finish here | unwound here =>
          exact .inr ⟨reconnecting, by simp [SenderThread.settling, here, SendPc.settling]⟩
      | acquiring here inner | acquireFailed here inner | acquired here inner =>
          exact .inr ⟨inner.not_reconnecting reconnecting,
            by simp [SenderThread.settling, here, SendPc.settling]⟩
      | putting here inner | putReturned here inner | putPanicked here inner =>
          obtain ⟨queues, nextMsg, rfl⟩ := inner.frame
          exact .inr ⟨reconnecting, by simp [SenderThread.settling, here, SendPc.settling]⟩
      | markReconnecting | reconnecting | reconnected | reconnectFailed => exact .inl rfl
      | closeConn here _ set =>
          obtain ⟨old, live, -, -, rfl⟩ := Sender.setConn_cases set
          exact .inr ⟨reconnecting, by simp [SenderThread.settling, here, SendPc.settling]⟩
      | uncreate here | uncount here =>
          exact .inr ⟨reconnecting, by simp [SenderThread.settling, here, SendPc.settling]⟩
      | markDiscarded here =>
          split at reconnecting
          · cases reconnecting
          · exact .inr ⟨reconnecting, by simp_all [SenderThread.settling, SendPc.settling]⟩
      | markReconnected | markSent => cases reconnecting
  | probe inner => exact .inr ⟨by cases inner <;> exact reconnecting, by simp [SenderThread.settling]⟩
  | close inner =>
      refine .inr ⟨?_, by simp [SenderThread.settling]⟩
      cases inner with
      | begin => cases reconnecting
      | closing _ set =>
          obtain ⟨old, live, -, -, rfl⟩ := Sender.setConn_cases set
          exact reconnecting
      | _ => exact reconnecting

end Recorded

/-- Until a connection was dialed nothing works with one, and the pool is empty. -/
def Unseen (c : SenderConfig) : Prop :=
  c.shared.state = .unknown → c.shared.pool = [] ∧ ∀ t ∈ c.threads, t.seen = false

theorem Unseen.next {c c' : SenderConfig} {m : SenderMove} (inv : Unseen c)
    (moved : senderProgram.next c m = some c') : Unseen c' := by
  obtain ⟨r, -, rfl⟩ | ⟨i, answer, t, s, t', -, found, step, rfl⟩ := sender_cases moved
  · intro unknown
    obtain ⟨empty, unseen⟩ := inv unknown
    exact ⟨empty, Program.forall_threads_call unseen (by cases r <;> rfl)⟩
  · intro unknown
    obtain ⟨empty, unseen⟩ := inv (step.stateChange.unknown unknown)
    obtain ⟨empty', own⟩ := step.unseen empty (unseen t (List.mem_of_getElem? found)) unknown
    refine ⟨empty', Program.forall_threads_set own ?_⟩
    intro j u _ at_j
    exact unseen u (List.mem_of_getElem? at_j)

theorem Unseen.run {c c' : SenderConfig} {ms : List SenderMove} (inv : Unseen c)
    (run : senderProgram.exec c ms = some c') : Unseen c' :=
  Program.exec_invariant (fun _ _ _ inv _ moved => inv.next moved) inv
    (Program.meets_true ms) run

/-- What the health of a sender rests on, whatever was called on it. -/
structure HealthInv (c : SenderConfig) : Prop extends GuardInv c where
  recorded : c.shared.Recorded
  settling : c.shared.state = .reconnecting → ∃ t ∈ c.threads, t.settling = true

namespace HealthInv

variable {c c' : SenderConfig}

theorem start {s : Sender} (fresh : s.Fresh) (unknown : s.state = .unknown)
    (noError : s.lastErr = none) : HealthInv ⟨s, []⟩ where
  toGuardInv := .start fresh
  recorded := ⟨by simp [noError], by simp [unknown]⟩
  settling := by simp [unknown]

theorem next {m : SenderMove} (inv : HealthInv c) (moved : senderProgram.next c m = some c') :
    HealthInv c' := by
  have guarded := inv.toGuardInv.next moved
  obtain ⟨r, -, rfl⟩ | ⟨i, answer, t, s, t', -, found, step, rfl⟩ := sender_cases moved
  · refine ⟨guarded, inv.recorded, fun reconnecting => ?_⟩
    obtain ⟨t, member, settling⟩ := inv.settling reconnecting
    exact ⟨t, List.mem_append_left _ member, settling⟩
  · refine ⟨guarded, step.stateChange.recorded inv.recorded, fun reconnecting => ?_⟩
    obtain settling | ⟨before, own⟩ := step.settling reconnecting
    · exact ⟨t', Program.mem_threads_set_self found t', settling⟩
    · have there : ∃ u ∈ c.threads.set i t' ++ [], u.settling = true :=
        Program.exists_threads_act found own (inv.settling before)
      simpa only [List.append_nil] using there

theorem run {ms : List SenderMove} (inv : HealthInv c)
    (run : senderProgram.exec c ms = some c') : HealthInv c' :=
  Program.exec_invariant (fun _ _ _ inv _ moved => inv.next moved) inv
    (Program.meets_true ms) run

/-- While the sender is open, only a probe can be inside the pool. -/
theorem unlocked (inv : HealthInv c) (opened : c.shared.closed = false)
    (outside : ∀ pc, .probe pc ∈ c.threads → SenderThread.inPool (.probe pc) = 0) :
    c.shared.poolMu = false := by
  by_contra locked
  have held := inv.lock
  rw [Bool.eq_true_of_not_eq_false locked, flag_true] at held
  obtain ⟨t, member, inside⟩ := exists_of_tally_pos (held ▸ Int.one_pos)
  have notFirst : t.firstClose ≠ 1 := fun first => by
    simp [inv.closed_of_first member first] at opened
  cases t with
  | send => simp [SenderThread.inPool] at inside
  | probe pc => simp [outside pc member] at inside
  | close pc => cases pc <;> simp [SenderThread.inPool, SenderThread.firstClose] at inside notFirst

/-- The probe is answered at once unless another one is inside the pool. -/
theorem probe_isSome (inv : HealthInv c)
    (outside : ∀ pc, .probe pc ∈ c.threads → SenderThread.inPool (.probe pc) = 0) :
    c.shared.probe.isSome := by
  by_cases late : c.shared.closed = false ∧ c.shared.state ≠ .reconnecting ∧
      c.shared.state ≠ .failed ∧ c.shared.created ≠ 0
  · obtain ⟨opened, notReconnecting, notFailed, some⟩ := late
    rw [Sender.probe_locked opened notReconnecting notFailed some, inv.unlocked opened outside]
    cases pool : c.shared.pool with
    | nil =>
        by_cases live : c.shared.state = .connected ∨ c.shared.state = .unknown <;>
          simp [Sender.probeFrom, senderHealthProber, live]
    | cons conn rest =>
        obtain ⟨x, found, state⟩ := inv.pool.idle conn (pool ▸ List.mem_cons_self)
        have room : rest.length < c.shared.poolCap := by
          have balance := inv.pool.sound.balance
          have bounded := inv.pool.sound.bounded
          have off := inv.pool.sound.writtenOff_nonneg
          have shares := tally_nonneg Share.weight_nonneg (c.threads.map SenderThread.share)
          simp only [Sender.view, pool, List.length_cons] at balance bounded off
          omega
        simp [Sender.probeFrom, senderHealthProber, found, room, state]
  · exact Sender.probe_early late

end HealthInv

/-! ## Alive only with a connection -/

/-- The slot of this thread has no connection, or not any more: the thread still
    dials in it, or has closed the connection and not yet given the slot up. -/
def SenderThread.isUnbacked (t : SenderThread) : Bool := t.isDialing || t.discards.isSome

/-- Some connection was dialed and neither closed nor discarded since. -/
def HasConnection (c : SenderConfig) : Prop :=
  ∃ conn < c.shared.conns.length, conn ∉ c.shared.gone ∧
    ∀ t ∈ c.threads, t.discards ≠ some conn

/-- What an entry with `Alive` set stands for. -/
structure AliveMeansConnected (c : SenderConfig) : Prop where
  connected : ∀ details, c.shared.probe = some details → (∃ e ∈ details, e.alive = true) →
    HasConnection c
  unknown : c.shared.state = .unknown → ∀ details, c.shared.probe = some details →
    ∀ e ∈ details, e.alive = false

/-- The probe finds slots in use and an empty pool, and takes all their
    connections for checked out and working, although the state is unknown yet or
    no slot has a connection. -/
def TakenForWorking (c : SenderConfig) : Prop :=
  c.shared.poolMu = false ∧ c.shared.created ≠ 0 ∧ c.shared.pool = [] ∧
    (c.shared.state = .unknown ∨ c.shared.state = .connected ∧
      c.shared.created = c.threads.countP SenderThread.isUnbacked)

section Alive

variable {c : SenderConfig}

theorem countP_unbacked (threads : List SenderThread) :
    threads.countP SenderThread.isHolding + threads.countP SenderThread.isDialing =
      threads.countP SenderThread.isUnbacked +
        threads.countP fun t => t.isHolding && t.discards.isNone := by
  induction threads with
  | nil => rfl
  | cons t rest ih =>
      simp only [List.countP_cons]
      have holds : t.discards.isSome → t.isHolding = true ∧ t.isDialing = false := by
        intro some
        obtain ⟨conn, discards⟩ := Option.isSome_iff_exists.mp some
        have share := SenderThread.share_of_discards discards
        simp [SenderThread.isHolding, SenderThread.isDialing, share]
      have apart : t.isDialing = true → t.isHolding = false := by
        unfold SenderThread.isDialing SenderThread.isHolding
        cases t.share <;> simp
      cases discards : t.discards with
      | some conn =>
          obtain ⟨holding, dialing⟩ := holds (by simp [discards])
          simp [SenderThread.isUnbacked, discards, holding, dialing]
          omega
      | none =>
          cases dialing : t.isDialing with
          | true =>
              simp [SenderThread.isUnbacked, discards, dialing, apart dialing]
              omega
          | false =>
              simp [SenderThread.isUnbacked, discards, dialing]
              omega

/-- With an empty pool, a connection in service is one that a thread works with. -/
theorem ShutInv.hasConnection_iff (inv : ShutInv c) (empty : c.shared.pool = []) :
    HasConnection c ↔ ∃ t ∈ c.threads, (t.isHolding && t.discards.isNone) = true := by
  constructor
  · rintro ⟨conn, known, notGone, unclosed⟩
    by_contra none
    push Not at none
    refine notGone (inv.pool.sound.gone_of_known ?_ ?_ ?_)
    · simpa [Sender.view] using known
    · simp [Sender.view, empty]
    · intro u member holds
      obtain ⟨t, inside, rfl⟩ := List.mem_map.mp member
      have spent := none t inside
      simp only [SenderThread.isHolding, holds, Bool.true_and] at spent
      obtain ⟨other, discards⟩ := Option.ne_none_iff_exists'.mp (by simpa using spent)
      obtain rfl : other = conn := by
        have same := SenderThread.share_of_discards discards
        rw [holds] at same
        exact (Share.holds.inj same).symm
      exact unclosed t inside discards
  · rintro ⟨t, inside, working⟩
    simp only [Bool.and_eq_true, SenderThread.isHolding] at working
    obtain ⟨holding, kept⟩ := working
    cases share : t.share with
    | nothing | slot => simp [share] at holding
    | holds conn =>
        obtain ⟨i, at_i⟩ := List.mem_iff_getElem?.mp inside
        have held : HeldBy c conn i := ⟨t, at_i, share⟩
        refine ⟨conn, ?_, (inv.pool.sound.held held.share).2, ?_⟩
        · simpa [Sender.view] using inv.pool.sound.known_of_held held.share
        · intro u member discards
          obtain ⟨j, at_j⟩ := List.mem_iff_getElem?.mp member
          obtain rfl := inv.pool.exclusive held ⟨u, at_j, SenderThread.share_of_discards discards⟩
          obtain rfl : t = u := Option.some.inj (at_i.symm.trans at_j)
          simp [discards] at kept

/-- A connection in the pool is in service. -/
theorem ShutInv.hasConnection_of_pool {conn : ConnId} (inv : ShutInv c)
    (idle : conn ∈ c.shared.pool) : HasConnection c := by
  refine ⟨conn, (inv.pool.idle conn idle).inside, ?_, ?_⟩
  · intro gone
    have once := inv.pool.sound.count_le_one conn
    have shared := tally_nonneg (Share.has_nonneg conn) (c.threads.map SenderThread.share)
    have first := List.count_pos_iff.mpr idle
    have second := List.count_pos_iff.mpr gone
    simp only [Sender.view] at once
    omega
  · intro t member discards
    obtain ⟨i, at_i⟩ := List.mem_iff_getElem?.mp member
    have held : HeldBy c conn i := ⟨t, at_i, SenderThread.share_of_discards discards⟩
    exact (inv.pool.sound.held held.share).1 idle

theorem ShutInv.counted (inv : ShutInv c) (opened : c.shared.closed = false) :
    c.shared.created = c.shared.pool.length + c.threads.countP SenderThread.isUnbacked +
      c.threads.countP fun t => t.isHolding && t.discards.isNone := by
  have undrained : c.shared.writtenOff = 0 := by
    apply inv.undrained
    intro t member drains
    have first := SenderThread.firstClose_pastWait drains.pastWait
    simp [inv.closed_of_first member first] at opened
  have balance := inv.pool.sound.balance
  have split := countP_unbacked c.threads
  rw [tally_weight_eq] at balance
  simp only [Sender.view, undrained] at balance
  omega

end Alive

/-- The probe is taken as one step, with no other thread between its two sections
    (`Sender.probe_run`). It has no answer while `poolMu` is taken, which is why the
    states in which it errs have it free. -/
theorem alive_iff (client : ClientConfig) (destinationQueue : String) (opts : List SenderOption)
    (ms : List SenderMove) (c : SenderConfig) (returning : ∀ i, .act i .panics ∉ ms)
    (run : senderProgram.exec ⟨newSender client destinationQueue opts, []⟩ ms = some c)
    (opened : c.shared.closed = false) : AliveMeansConnected c ↔ ¬TakenForWorking c := by
  have fresh := newSender_fresh client destinationQueue opts
  have inv : ShutInv c := (ShutInv.start fresh).run returning run
  have unseen : Unseen c := Unseen.run (fun _ => ⟨fresh.pool, by simp⟩) run
  have counted := inv.counted opened
  constructor
  · rintro means ⟨unlocked, some, empty, unbacked⟩
    rcases unbacked with unknown | ⟨connected, all⟩
    · have alive := Sender.probe_empty opened unlocked some empty (.inr unknown)
      have dead := means.unknown unknown _ alive _ (List.mem_singleton.mpr rfl)
      cases dead
    · have alive := Sender.probe_empty opened unlocked some empty (.inl connected)
      have backed := means.connected _ alive ⟨_, List.mem_singleton.mpr rfl, rfl⟩
      have working := List.countP_pos_iff.mpr ((inv.hasConnection_iff empty).mp backed)
      omega
  · intro working
    constructor
    · intro details reported alive
      cases Sender.probe_report reported with
      | closed | reconnecting | failed | broken | stopped => simp [Sender.entry] at alive
      | idle => simp at alive
      | pooled _ _ _ idle => exact inv.hasConnection_of_pool idle
      | inUse _ unlocked some empty state =>
          rcases state with connected | unknown
          · have backed : c.shared.created ≠ c.threads.countP SenderThread.isUnbacked := fun all =>
              working ⟨unlocked, some, empty, .inr ⟨connected, all⟩⟩
            have holds : 0 < c.threads.countP fun t => t.isHolding && t.discards.isNone := by
              rw [empty, List.length_nil] at counted
              omega
            exact (inv.hasConnection_iff empty).mpr (List.countP_pos_iff.mp holds)
          · exact absurd ⟨unlocked, some, empty, .inl unknown⟩ working
    · intro unknown details reported
      cases Sender.probe_report reported with
      | closed | reconnecting | failed | broken | stopped => simp [Sender.entry]
      | idle => simp
      | pooled _ _ _ idle => simp [(unseen unknown).1] at idle
      | inUse _ unlocked some empty => exact absurd ⟨unlocked, some, empty, .inl unknown⟩ working

/-- A sender with one connection in use. -/
theorem alive_iff_in_use :
    ∃ c, senderProgram.exec ⟨newSender .minimal "ORDERS" [], []⟩
        (.call (.send "" none true none) :: acquiresByDial 0 7) = some c ∧
      c.shared.probe = some [c.shared.entry true ""] ∧
      (AliveMeansConnected c ↔ ¬TakenForWorking c) :=
  ⟨_, rfl, rfl, alive_iff .minimal "ORDERS" []
    (.call (.send "" none true none) :: acquiresByDial 0 7) _ (by simp [acquiresByDial]) rfl rfl⟩

/-- The first send has counted its slot and is about to dial: no connection was
    ever made, the state is unknown, and the probe answers "alive". -/
theorem alive_while_first_dial :
    ∃ c, senderProgram.exec ⟨newSender .minimal "ORDERS" [], []⟩
        (.call (.send "" none true none) :: List.replicate 5 (.act 0 .go)) = some c ∧
      c.shared.closed = false ∧ c.shared.state = .unknown ∧ c.shared.conns = [] ∧
      c.shared.probe = some [c.shared.entry true ""] ∧ ¬AliveMeansConnected c := by
  refine ⟨_, rfl, rfl, rfl, rfl, rfl, fun means => ?_⟩
  have dead := means.unknown rfl _ rfl _ (List.mem_singleton.mpr rfl)
  cases dead

end CommonsMQ
