import CommonsMQ.Sender.Invariant

/-! # Waiting for a pooled connection

A call that finds every slot taken waits for a connection to come back through
the channel. A slot can also be freed by decrementing `created`, and that wakes
nobody: when the last slot goes this way the waiter is left behind, although it
could now dial for itself. The run theorem says that this is the only way.
-/

namespace CommonsMQ

open Interleave BoundedPool

/-- Blocked in the last `select` of `acquireConn`, the context not done. -/
def SenderThread.Waits : SenderThread → Prop
  | .send call => call.pc = .acquire .await ∧ call.ctx = none
  | .probe _ | .close _ => False

/-- About to execute one of the three `s.created--`. -/
def SenderThread.GivesUpSlot : SenderThread → Prop
  | .send call =>
      (∃ err, call.pc = .acquire (.unreserve err)) ∨ ∃ conn why, call.pc = .uncreate conn why
  | .probe _ | .close _ => False

/-- Somebody can still serve the waiters: a connection is idle, or another thread
    holds one or is making one. -/
def NoLostWakeup (c : SenderConfig) : Prop :=
  ∀ (i : Nat) (t : SenderThread), c.threads[i]? = some t → t.Waits →
    c.shared.pool ≠ [] ∨
      ∃ (j : Nat) (u : SenderThread), j ≠ i ∧ c.threads[j]? = some u ∧ (u.isHolding = true ∨ u.isDialing = true)

/-- No slot is given up that is the only one while a call waits. -/
def SparesLastSlot (c : SenderConfig) (m : SenderMove) : Prop :=
  ∀ (i : Nat) (t : SenderThread), m = .act i .go → c.threads[i]? = some t → t.GivesUpSlot →
    1 < c.shared.created ∨ ∀ u ∈ c.threads, ¬u.Waits

section Slots

variable {s s' : Sender} {t t' : SenderThread} {answer : SendAnswer}

theorem SenderThread.Waits.share (waits : t.Waits) : t.share = .nothing := by
  cases t with
  | send call => exact congrArg SendPc.share waits.1
  | probe | close => exact waits.elim

/-- What a step does to the slots and to the waiting threads. -/
inductive SlotStep (s : Sender) (t : SenderThread) (answer : SendAnswer) (s' : Sender)
    (t' : SenderThread) : Prop where
  | givenUp : t.GivesUpSlot → answer = .go → s'.created = s.created - 1 → ¬t'.Waits →
      SlotStep s t answer s' t'
  | kept : ¬(t.GivesUpSlot ∧ answer = .go) → s.created ≤ s'.created →
      (t'.Waits → t.Waits ∨ s.maxConns ≤ s'.created) → SlotStep s t answer s' t'

theorem SendStep.slots {call call' : SendCall} (step : SendStep s call answer s' call') :
    SlotStep s (.send call) answer s' (.send call') := by
  -- every other position than the two of `GivesUpSlot`, to somewhere that is not the wait
  have elsewhere : ∀ {pc pc'}, call.pc = pc → call'.pc = pc' →
      (∀ err, pc ≠ .acquire (.unreserve err)) → (∀ conn why, pc ≠ .uncreate conn why) →
      pc' ≠ .acquire .await → s.created ≤ s'.created →
      SlotStep s (.send call) answer s' (.send call') := by
    rintro pc pc' rfl rfl notUnreserve notUncreate notAwait le
    refine .kept ?_ le fun waits => absurd waits.1 notAwait
    rintro ⟨⟨err, here⟩ | ⟨conn, why, here⟩, -⟩
    · exact notUnreserve err here
    · exact notUncreate conn why here
  cases step with
  | acquiring here inner =>
      cases inner with
      | unreserve go => exact .givenUp (.inl ⟨_, here⟩) go rfl (by simp [SenderThread.Waits])
      | full taken =>
          refine .kept ?_ le_rfl fun _ => .inr (not_lt.mp taken)
          simp [SenderThread.GivesUpSlot, here]
      | dialed _ added =>
          obtain ⟨live, -, rfl⟩ := Sender.addConn_cases added
          exact elsewhere here rfl (by simp) (by simp) (by simp) le_rfl
      | reserve =>
          exact elsewhere here rfl (by simp) (by simp) (by simp) (by simp only; omega)
      | _ => exact elsewhere here rfl (by simp) (by simp) (by simp) le_rfl
  | acquireFailed here inner =>
      cases inner with
      | markDialFailed =>
          refine elsewhere here rfl (by simp) (by simp) (by simp) ?_
          split <;> exact le_rfl
      | _ => exact elsewhere here rfl (by simp) (by simp) (by simp) le_rfl
  | acquired here inner =>
      cases inner
      exact elsewhere here rfl (by simp) (by simp) (by simp) le_rfl
  | putting here inner | putPanicked here inner =>
      obtain ⟨queues, nextMsg, rfl⟩ := inner.frame
      exact elsewhere here rfl (by simp) (by simp) (by simp) le_rfl
  | putReturned here inner =>
      obtain ⟨queues, nextMsg, rfl⟩ := inner.frame
      refine elsewhere here rfl (by simp) (by simp) ?_ le_rfl
      intro waiting
      have clash := (afterPut_share _ _ _).symm.trans (congrArg SendPc.share waiting)
      cases clash
  | markReconnecting here _ set | reconnecting here _ _ set | reconnected here _ _ set
  | reconnectFailed here _ _ set | closeConn here _ set =>
      obtain ⟨old, live, -, -, rfl⟩ := Sender.setConn_cases set
      exact elsewhere here rfl (by simp) (by simp) (by simp) le_rfl
  | uncreate here go => exact .givenUp (.inr ⟨_, _, here⟩) go rfl (by simp [SenderThread.Waits])
  | markDiscarded here =>
      refine elsewhere here rfl (by simp) (by simp) (by simp) ?_
      split <;> exact le_rfl
  | noDestination here | resolved here | rejected here | admitted here | markReconnected here
  | uncount here | markSent here | release here | finish here | unwound here =>
      exact elsewhere here rfl (by simp) (by simp) (by simp) le_rfl

theorem ThreadStep.slots (step : ThreadStep s t answer s' t') : SlotStep s t answer s' t' := by
  cases step with
  | cancel =>
      refine .kept (by simp) le_rfl fun waits => ?_
      exact absurd waits.2 (by simp)
  | send inner => exact inner.slots
  | probe inner =>
      refine .kept (by simp [SenderThread.GivesUpSlot]) ?_ fun waits => waits.elim
      cases inner <;> exact le_rfl
  | close inner =>
      refine .kept (by simp [SenderThread.GivesUpSlot]) ?_ fun waits => waits.elim
      cases inner with
      | closing _ set =>
          obtain ⟨old, live, -, -, rfl⟩ := Sender.setConn_cases set
          exact le_rfl
      | _ => exact le_rfl

end Slots

/-- While only sends and probes run, the waiters are served as long as any slot
    is counted. -/
theorem noLostWakeup_iff {c : SenderConfig} (inv : PoolInv c) (service : InService c) :
    NoLostWakeup c ↔ ((∃ t ∈ c.threads, t.Waits) → 1 ≤ c.shared.created) := by
  have balance := inv.sound.balance
  rw [tally_weight_eq] at balance
  simp only [Sender.view, service.exact_count] at balance
  constructor
  · rintro served ⟨t, member, waits⟩
    obtain ⟨i, found⟩ := List.mem_iff_getElem?.mp member
    rcases served i t found waits with idle | ⟨j, u, -, at_j, busy⟩
    · have := List.length_pos_iff.mpr idle
      omega
    · have member := List.mem_of_getElem? at_j
      rcases busy with holding | dialing
      · have := List.countP_pos_iff.mpr ⟨u, member, holding⟩
        omega
      · have := List.countP_pos_iff.mpr ⟨u, member, dialing⟩
        omega
  · intro counted i t found waits
    have slots := counted ⟨t, List.mem_of_getElem? found, waits⟩
    by_cases empty : c.shared.pool = []
    · right
      have busy : ∃ u ∈ c.threads, u.isHolding = true ∨ u.isDialing = true := by
        rw [empty, List.length_nil] at balance
        rcases (by omega : 0 < c.threads.countP SenderThread.isHolding ∨
            0 < c.threads.countP SenderThread.isDialing) with holding | dialing
        · obtain ⟨u, member, holds⟩ := List.countP_pos_iff.mp holding
          exact ⟨u, member, .inl holds⟩
        · obtain ⟨u, member, dials⟩ := List.countP_pos_iff.mp dialing
          exact ⟨u, member, .inr dials⟩
      obtain ⟨u, member, busy⟩ := busy
      obtain ⟨j, at_j⟩ := List.mem_iff_getElem?.mp member
      refine ⟨j, u, ?_, at_j, busy⟩
      rintro rfl
      obtain rfl : t = u := by simpa [found] using at_j
      simp [SenderThread.isHolding, SenderThread.isDialing, waits.share] at busy
    · exact .inl empty

theorem not_start_waits (r : SenderRequest) : ¬(senderProgram.start r).Waits := by
  cases r <;> simp [senderProgram, SenderThread.Waits]

/-- One move loses a wake-up exactly if it gives up the last slot under a waiter. -/
theorem NoLostWakeup.next_iff {c c' : SenderConfig} {m : SenderMove} (inv : PoolInv c)
    (service : InService c) (allowed : m ≠ .call .close ∧ ∀ i, m ≠ .act i .panics)
    (served : NoLostWakeup c) (moved : senderProgram.next c m = some c') :
    NoLostWakeup c' ↔ SparesLastSlot c m := by
  rw [noLostWakeup_iff (inv.next moved) (service.next allowed moved)]
  rw [noLostWakeup_iff inv service] at served
  obtain ⟨r, rfl, rfl⟩ | ⟨i, answer, t, s, t', rfl, found, step, rfl⟩ := sender_cases moved
  · refine iff_of_true ?_ (by simp [SparesLastSlot])
    rintro ⟨t, member, waits⟩
    rcases List.mem_append.mp member with old | new
    · exact served ⟨t, old, waits⟩
    · obtain rfl := List.mem_singleton.mp new
      exact absurd waits (not_start_waits r)
  · have slots := step.slots
    cases slots with
    | givenUp givesUp go less notWaits =>
        subst go
        have idle : ¬t.Waits := by
          intro waits
          rcases t with call | pc | pc
          · rcases givesUp with ⟨err, here⟩ | ⟨conn, why, here⟩ <;> simp [waits.1] at here
          · exact givesUp
          · exact givesUp
        have waiters : (∃ u ∈ c.threads.set i t', u.Waits) ↔ ∃ u ∈ c.threads, u.Waits := by
          constructor
          · rintro ⟨u, member, waits⟩
            obtain rfl | ⟨j, -, at_j⟩ := Program.mem_threads_set member
            · exact absurd waits notWaits
            · exact ⟨u, List.mem_of_getElem? at_j, waits⟩
          · rintro ⟨u, member, waits⟩
            obtain ⟨j, at_j⟩ := List.mem_iff_getElem?.mp member
            refine ⟨u, Program.mem_threads_set_of_ne ?_ at_j, waits⟩
            rintro rfl
            obtain rfl : t = u := by simpa [found] using at_j
            exact idle waits
        simp only [waiters, less]
        constructor
        · intro slots j u same at_j _
          by_cases waiting : ∃ u ∈ c.threads, u.Waits
          · have := slots waiting
            exact .inl (by omega)
          · exact .inr (by simpa using waiting)
        · rintro spares ⟨u, member, waits⟩
          rcases spares i t rfl found givesUp with more | none
          · omega
          · exact absurd waits (none u member)
    | kept notGivenUp more waiters =>
        refine iff_of_true ?_ ?_
        · rintro ⟨u, member, waits⟩
          have positive := inv.positive
          obtain rfl | ⟨j, -, at_j⟩ := Program.mem_threads_set member
          · rcases waiters waits with before | full
            · have := served ⟨t, List.mem_of_getElem? found, before⟩
              simp only
              omega
            · simp only
              omega
          · have := served ⟨u, List.mem_of_getElem? at_j, waits⟩
            simp only
            omega
        · intro j u same at_j givesUp
          obtain ⟨rfl, rfl⟩ : i = j ∧ answer = .go := by simpa using same
          obtain rfl : t = u := by simpa [found] using at_j
          exact absurd ⟨givesUp, rfl⟩ notGivenUp

/-- A run keeps every waiter served exactly if it never gives up the last slot
    under a waiting call. -/
theorem noLostWakeup_iff_sparesLastSlot (client : ClientConfig) (destinationQueue : String)
    (opts : List SenderOption) (ms : List SenderMove) (noClose : .call .close ∉ ms)
    (returning : ∀ i, .act i .panics ∉ ms) :
    senderProgram.Always NoLostWakeup ⟨newSender client destinationQueue opts, []⟩ ms ↔
      senderProgram.Meets SparesLastSlot ⟨newSender client destinationQueue opts, []⟩ ms := by
  have fresh := newSender_fresh client destinationQueue opts
  have keep : ∀ c m c', PoolInv c ∧ InService c →
      (m ≠ .call .close ∧ ∀ i, m ≠ .act i .panics) → senderProgram.next c m = some c' →
      PoolInv c' ∧ InService c' :=
    fun c m c' inv allowed moved => ⟨inv.1.next moved, inv.2.next allowed moved⟩
  have exactly : ∀ c m c', PoolInv c ∧ InService c → NoLostWakeup c →
      (m ≠ .call .close ∧ ∀ i, m ≠ .act i .panics) → senderProgram.next c m = some c' →
      (NoLostWakeup c' ↔ SparesLastSlot c m) :=
    fun c m c' inv served allowed moved => served.next_iff inv.1 inv.2 allowed moved
  refine Program.always_iff_meets keep exactly
    ⟨.start fresh, ⟨by simp, fresh.writtenOff⟩⟩ (by simp [NoLostWakeup]) ?_
  intro m member
  exact ⟨fun same => noClose (same ▸ member), fun i same => returning i (same ▸ member)⟩

/-- Two calls on a sender with one slot: the first reserves it, the second finds it
    taken and waits, then the context of the first ends before its dial. -/
def abandonedDial : List SenderMove :=
  [.call (.send "" none true none), .call (.send "" none true none)] ++
    List.replicate 5 (.act 0 .go) ++ List.replicate 5 (.act 1 .go) ++
    [.act 0 (.cancel .canceled), .act 0 (.loop .check)] ++ List.replicate 3 (.act 0 .go)

theorem noLostWakeup_iff_sparesLastSlot_abandonedDial :
    .call .close ∉ abandonedDial ∧ (∀ i, .act i .panics ∉ abandonedDial) ∧
      (senderProgram.Always NoLostWakeup
          ⟨newSender .minimal "ORDERS" [.withSenderConcurrency 1], []⟩ abandonedDial ↔
        senderProgram.Meets SparesLastSlot
          ⟨newSender .minimal "ORDERS" [.withSenderConcurrency 1], []⟩ abandonedDial) :=
  ⟨by simp [abandonedDial], by simp [abandonedDial],
    noLostWakeup_iff_sparesLastSlot .minimal "ORDERS" [.withSenderConcurrency 1] abandonedDial
      (by simp [abandonedDial]) (by simp [abandonedDial])⟩

/-- How the two calls stand afterwards. -/
theorem abandonedDial_ends :
    ∃ c, senderProgram.exec ⟨newSender .minimal "ORDERS" [.withSenderConcurrency 1], []⟩
        abandonedDial = some c ∧
      c.threads =
        [.send ⟨"ORDERS", some .canceled, true, none, .returned (.error (.context .canceled)),
            {}, [], []⟩,
          .send ⟨"ORDERS", none, true, none, .acquire .await, {}, [], []⟩] ∧
      c.shared.pool = [] ∧ c.shared.created = 0 ∧ c.shared.maxConns = 1 :=
  ⟨_, rfl, rfl, rfl, rfl, rfl⟩

/-- The second call stays blocked although nobody uses the slot any more, and no
    thread can take another step unless the waiter's own context ends. -/
theorem abandonedDial_loses_wakeup :
    ∃ c, senderProgram.exec ⟨newSender .minimal "ORDERS" [.withSenderConcurrency 1], []⟩
        abandonedDial = some c ∧
      c.shared.created < c.shared.maxConns ∧ ¬NoLostWakeup c ∧
      ∀ i answer, (∀ e, answer ≠ .cancel e) → senderProgram.next c (.act i answer) = none := by
  obtain ⟨c, run, threads, pool, created, maxConns⟩ := abandonedDial_ends
  have waiter : c.threads[1]? =
      some (.send ⟨"ORDERS", none, true, none, .acquire .await, {}, [], []⟩) := by rw [threads]; rfl
  refine ⟨c, run, by omega, ?_, ?_⟩
  · intro served
    rcases served 1 _ waiter ⟨rfl, rfl⟩ with idle | ⟨j, u, other, at_j, busy⟩
    · exact idle pool
    · rw [threads] at at_j
      match j, other, at_j with
      | 0, _, at_j =>
          cases at_j
          rcases busy with holding | dialing
          · cases holding
          · cases dialing
      | 1, other, _ => exact other rfl
  · intro i answer notCancel
    match i with
    | 0 =>
        simp only [Program.next, threads, List.getElem?_cons_zero]
        cases answer with
        | cancel e => exact absurd rfl (notCancel e)
        | _ => rfl
    | 1 =>
        simp only [Program.next, waiter]
        cases answer with
        | cancel e => exact absurd rfl (notCancel e)
        | receive => simp [senderProgram, SenderThread.step, sendWithCreator, acquireConn, pool]
        | _ => rfl
    | i + 2 => simp [Program.next, threads]

end CommonsMQ
