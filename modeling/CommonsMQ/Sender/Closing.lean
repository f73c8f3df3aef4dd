import CommonsMQ.Sender.Invariant

/-! # A Sender that may be closed

Three resources are guarded by counting: `wg` counts the admitted sends, `poolMu`
has at most one owner, and `closed` is set by one call of `close` only. With the
pool's books they say what is left when that call comes back from `wg.Wait()`.
-/

namespace CommonsMQ

open Interleave BoundedPool

/-! ## Who is admitted, who has the lock, who closes -/

/-- Between `wg.Add(1)` and `wg.Done()`. -/
def SendPc.inFlight : SendPc → ℤ
  | .resolve | .enter | .returned _ | .panicked => 0
  | _ => 1

theorem SendPc.inFlight_nonneg (pc : SendPc) : 0 ≤ pc.inFlight := by
  cases pc <;> simp [inFlight]

theorem SendPc.weight_le (pc : SendPc) : pc.share.weight ≤ pc.inFlight := by
  cases pc with
  | acquire pc => cases pc <;> simp [share, AcquirePc.share, Share.weight, inFlight]
  | _ => simp [share, Share.weight, inFlight]

namespace SenderThread

def inFlight : SenderThread → ℤ
  | .send call => call.pc.inFlight
  | .probe _ | .close _ => 0

/-- Inside a section that `poolMu` guards. -/
def inPool : SenderThread → ℤ
  | .probe (.peek _) | .probe (.putBack _) | .close (.drain _ _) | .close (.closing _ _ _) => 1
  | _ => 0

/-- The call of `close` that found `closed` unset. -/
def firstClose : SenderThread → ℤ
  | .close .begin | .close .repeated => 0
  | .close _ => 1
  | _ => 0

/-- That call, once its `wg.Wait()` has returned. -/
def PastWait : SenderThread → Prop
  | .close (.lockPool _) | .close (.drain _ _) | .close (.closing _ _ _)
  | .close (.returned _) => True
  | _ => False

theorem inFlight_nonneg (t : SenderThread) : 0 ≤ t.inFlight := by
  cases t with
  | send call => exact call.pc.inFlight_nonneg
  | probe | close => exact le_rfl

theorem inPool_nonneg (t : SenderThread) : 0 ≤ t.inPool := by
  unfold inPool
  split <;> omega

theorem firstClose_nonneg (t : SenderThread) : 0 ≤ t.firstClose := by
  unfold firstClose
  split <;> omega

theorem firstClose_pastWait {t : SenderThread} (past : t.PastWait) : t.firstClose = 1 := by
  unfold PastWait at past
  split at past <;> first | rfl | exact past.elim

/-- A share of the pool is held only by an admitted send or under the lock. -/
theorem weight_le (t : SenderThread) : t.share.weight ≤ t.inFlight + t.inPool := by
  cases t with
  | send call => simpa [share, inFlight, inPool] using call.pc.weight_le
  | probe pc => cases pc <;> simp [share, Share.weight, inFlight, inPool]
  | close pc => cases pc <;> simp [share, Share.weight, inFlight, inPool]

/-- What that bound leaves over. -/
def spare (t : SenderThread) : ℤ := t.inFlight + t.inPool - t.share.weight

theorem spare_nonneg (t : SenderThread) : 0 ≤ t.spare := by
  have := t.weight_le
  unfold spare
  omega

theorem tally_spare (threads : List SenderThread) :
    tally Share.weight (threads.map share) + tally spare threads =
      tally inFlight threads + tally inPool threads := by
  induction threads with
  | nil => rfl
  | cons head rest ih =>
      simp only [List.map_cons, tally_cons, spare]
      omega

end SenderThread

section Roles

variable {s s' : Sender} {t t' : SenderThread} {answer : SendAnswer}

theorem AcquireStep.frame {ctx pc out} (step : AcquireStep s ctx answer pc s' out) :
    s'.wg = s.wg ∧ s'.closed = s.closed ∧ s'.poolMu = s.poolMu ∧ s'.gone = s.gone := by
  cases step with
  | dialed _ added =>
      obtain ⟨live, -, rfl⟩ := Sender.addConn_cases added
      exact ⟨rfl, rfl, rfl, rfl⟩
  | markDialFailed => split <;> exact ⟨rfl, rfl, rfl, rfl⟩
  | _ => exact ⟨rfl, rfl, rfl, rfl⟩

theorem afterPut_inFlight (conn : ConnId) (retry : Bool) (result : Except GoError String) :
    (afterPut conn retry result).inFlight = 1 := by
  unfold afterPut
  split
  · rfl
  · split
    · rfl
    · split <;> rfl

/-- A send keeps `closed` and `poolMu`, and is counted in `wg` while in flight. -/
theorem SendStep.counted {call call' : SendCall} (step : SendStep s call answer s' call') :
    s'.closed = s.closed ∧ s'.poolMu = s.poolMu ∧
      s'.wg - s.wg = call'.pc.inFlight - call.pc.inFlight := by
  cases step with
  | acquiring here inner | acquireFailed here inner | acquired here inner =>
      obtain ⟨wg, closed, poolMu, -⟩ := inner.frame
      refine ⟨closed, poolMu, ?_⟩
      rw [here, wg, sub_self]
      rfl
  | putting here inner | putPanicked here inner =>
      obtain ⟨queues, nextMsg, rfl⟩ := inner.frame
      refine ⟨rfl, rfl, ?_⟩
      rw [here, sub_self]
      rfl
  | putReturned here inner =>
      obtain ⟨queues, nextMsg, rfl⟩ := inner.frame
      refine ⟨rfl, rfl, ?_⟩
      rw [here, sub_self, afterPut_inFlight]
      rfl
  | markReconnecting here _ set | reconnecting here _ _ set | reconnected here _ _ set
  | reconnectFailed here _ _ set | closeConn here _ set =>
      obtain ⟨old, live, -, -, rfl⟩ := Sender.setConn_cases set
      refine ⟨rfl, rfl, ?_⟩
      rw [here]
      simp [SendPc.inFlight, Sender.setState]
  | markDiscarded here =>
      rw [here]
      split <;> exact ⟨rfl, rfl, by simp [SendPc.inFlight, Sender.setState]⟩
  | noDestination here | resolved here | rejected here | admitted here | markReconnected here
  | uncount here | markSent here | release here | finish here | unwound here | uncreate here =>
      refine ⟨rfl, rfl, ?_⟩
      rw [here]
      simp [SendPc.inFlight, Sender.setState]

theorem ThreadStep.wg (step : ThreadStep s t answer s' t') :
    s'.wg - s.wg = t'.inFlight - t.inFlight := by
  cases step with
  | cancel => simp [SenderThread.inFlight]
  | send inner => exact inner.counted.2.2
  | probe inner => cases inner <;> simp [SenderThread.inFlight]
  | close inner =>
      cases inner with
      | closing _ set =>
          obtain ⟨old, live, -, -, rfl⟩ := Sender.setConn_cases set
          simp [SenderThread.inFlight]
      | _ => simp [SenderThread.inFlight]

theorem ThreadStep.closed (step : ThreadStep s t answer s' t') :
    flag s'.closed - flag s.closed = t'.firstClose - t.firstClose := by
  cases step with
  | cancel => simp [SenderThread.firstClose]
  | send inner => simp [inner.counted.1, SenderThread.firstClose]
  | probe inner => cases inner <;> simp [SenderThread.firstClose]
  | close inner =>
      cases inner with
      | closing _ set =>
          obtain ⟨old, live, -, -, rfl⟩ := Sender.setConn_cases set
          simp [SenderThread.firstClose]
      | begin opened => simp [SenderThread.firstClose, flag, opened]
      | _ => simp [SenderThread.firstClose]

/-- Taking and releasing `poolMu`. -/
inductive LockStep (s : Sender) (t : SenderThread) (s' : Sender) (t' : SenderThread) : Prop where
  | kept : s'.poolMu = s.poolMu → t'.inPool = t.inPool → LockStep s t s' t'
  | taken : s.poolMu = false → s'.poolMu = true → t.inPool = 0 → t'.inPool = 1 →
      LockStep s t s' t'
  | released : s'.poolMu = false → t.inPool = 1 → t'.inPool = 0 → LockStep s t s' t'

theorem ThreadStep.lock (step : ThreadStep s t answer s' t') : LockStep s t s' t' := by
  cases step with
  | cancel => exact .kept rfl rfl
  | send inner => exact .kept inner.counted.2.1 rfl
  | probe inner =>
      cases inner with
      | answered | inUse | take => exact .kept rfl rfl
      | lockPool free => exact .taken free rfl rfl rfl
      | empty | putBack => exact .released rfl rfl rfl
  | close inner =>
      cases inner with
      | lockPool free => exact .taken free rfl rfl rfl
      | done => exact .released rfl rfl rfl
      | closing _ set =>
          obtain ⟨old, live, -, -, rfl⟩ := Sender.setConn_cases set
          exact .kept rfl rfl
      | _ => exact .kept rfl rfl

/-- `poolMu` is set exactly while one thread is inside. -/
theorem ThreadStep.keeps_lock {threads : List SenderThread} {i : Nat}
    (step : ThreadStep s t answer s' t') (found : threads[i]? = some t)
    (before : flag s.poolMu = tally SenderThread.inPool threads) :
    flag s'.poolMu = tally SenderThread.inPool (threads.set i t') := by
  have own := le_tally SenderThread.inPool_nonneg (List.mem_of_getElem? found)
  rw [tally_set _ found]
  cases step.lock with
  | kept mu same =>
      rw [mu]
      omega
  | taken free mu out inside =>
      rw [free, flag_false] at before
      rw [mu, flag_true]
      omega
  | released mu inside out =>
      have held : s.poolMu = true := flag_of_tally before SenderThread.inPool_nonneg
        (List.mem_of_getElem? found) inside
      rw [held, flag_true] at before
      rw [mu, flag_false]
      omega

/-- The connection was given back to the queue manager. -/
def Sender.Released (s : Sender) (conn : ConnId) : Prop :=
  ∃ c, s.conns[conn]? = some c ∧ c.handle = none

theorem Sender.Released.congr {conn : ConnId} (same : s'.conns[conn]? = s.conns[conn]?)
    (released : s.Released conn) : s'.Released conn := by
  obtain ⟨c, found, none⟩ := released
  exact ⟨c, same.trans found, none⟩

theorem Sender.Released.inside {conn : ConnId} (released : s.Released conn) :
    conn < s.conns.length := by
  obtain ⟨c, found, -⟩ := released
  exact (List.getElem?_eq_some_iff.mp found).1

/-- The connection that a send has closed and not yet uncounted. -/
def SenderThread.discards : SenderThread → Option ConnId
  | .send call =>
      match call.pc with
      | .uncreate conn _ => some conn
      | _ => none
  | _ => none

theorem SenderThread.share_of_discards {conn : ConnId} (discards : t.discards = some conn) :
    t.share = .holds conn := by
  unfold SenderThread.discards at discards
  split at discards
  · split at discards
    · cases discards
      exact congrArg SendPc.share ‹_›
    · cases discards
  · cases discards

/-- `close` has begun to empty the pool. -/
def SenderThread.Drains : SenderThread → Prop
  | .close (.drain _ _) | .close (.closing _ _ _) | .close (.returned _) => True
  | _ => False

theorem SenderThread.Drains.pastWait (drains : t.Drains) : t.PastWait := by
  unfold SenderThread.Drains at drains
  split at drains
  · trivial
  · trivial
  · trivial
  · exact drains.elim

theorem ThreadStep.drains (step : ThreadStep s t answer s' t') (drains : t.Drains) : t'.Drains := by
  cases step with
  | cancel | send | probe => exact drains.elim
  | close inner =>
      cases inner with
      | repeated | begin | awaited | lockPool => exact drains.elim
      | take | skip | closing | done => trivial

theorem ThreadStep.writtenOff_undrained (step : ThreadStep s t answer s' t')
    (returns : answer ≠ .panics) (idle : ¬t.Drains) : s'.writtenOff = s.writtenOff := by
  cases step with
  | close inner =>
      cases inner with
      | repeated | begin | awaited | lockPool => rfl
      | take | skip | closing | done => exact absurd trivial idle
  | cancel => rfl
  | send inner => exact (ThreadStep.writtenOff (.send inner) returns (by simp)).1
  | probe inner => cases inner <;> rfl

theorem ThreadStep.into_discard {conn : ConnId} (step : ThreadStep s t answer s' t')
    (discards : t'.discards = some conn) :
    (t.discards = some conn ∧ s'.conns = s.conns) ∨ s'.Released conn := by
  cases step with
  | cancel => exact .inl ⟨discards, rfl⟩
  | send inner =>
      cases inner with
      | closeConn _ _ set =>
          cases discards
          exact .inr ⟨_, Sender.setConn_self set, rfl⟩
      | putReturned =>
          simp only [SenderThread.discards] at discards
          split at discards
          · rename_i after
            unfold afterPut at after
            repeat' split at after
            all_goals cases after
          · cases discards
      | _ => cases discards
  | probe | close => cases discards

theorem ThreadStep.into_gone {conn : ConnId} (step : ThreadStep s t answer s' t')
    (returns : answer ≠ .panics) (gone : conn ∈ s'.gone) :
    conn ∈ s.gone ∨ (t.discards = some conn ∧ s'.conns = s.conns) ∨ s'.Released conn := by
  cases step with
  | cancel => exact .inl gone
  | send inner =>
      cases inner with
      | acquiring _ inner | acquireFailed _ inner | acquired _ inner =>
          exact .inl (inner.frame.2.2.2 ▸ gone)
      | putting _ inner | putReturned _ inner =>
          obtain ⟨queues, nextMsg, rfl⟩ := inner.frame
          exact .inl gone
      | putPanicked _ inner =>
          cases inner
          exact absurd rfl returns
      | markReconnecting _ _ set | reconnecting _ _ _ set | reconnected _ _ _ set
      | reconnectFailed _ _ _ set | closeConn _ _ set =>
          obtain ⟨old, live, -, -, rfl⟩ := Sender.setConn_cases set
          exact .inl gone
      | uncreate here =>
          rcases List.mem_cons.mp gone with rfl | old
          · exact .inr (.inl ⟨by simp [SenderThread.discards, here], rfl⟩)
          · exact .inl old
      | markDiscarded => exact .inl (by split at gone <;> exact gone)
      | _ => exact .inl gone
  | probe inner => exact .inl (by cases inner <;> exact gone)
  | close inner =>
      cases inner with
      | closing _ set =>
          rcases List.mem_cons.mp gone with rfl | old
          · have released := Sender.setConn_self set
            exact .inr (.inr ⟨_, released, rfl⟩)
          · obtain ⟨_, _, -, -, rfl⟩ := Sender.setConn_cases set
            exact .inl old
      | _ => exact .inl gone

theorem SendStep.stays_outside {call call' : SendCall} (step : SendStep s call answer s' call')
    (closed : s.closed = true) (outside : call.pc.inFlight = 0) : call'.pc.inFlight = 0 := by
  cases step with
  | noDestination | resolved | rejected => rfl
  | admitted _ opened => simp [closed] at opened
  | finish | unwound => rfl
  | acquiring here | acquireFailed here | acquired here | putting here | putReturned here
  | putPanicked here | markReconnecting here | reconnecting here | reconnected here
  | reconnectFailed here | markReconnected here | closeConn here | uncreate here | uncount here
  | markDiscarded here | markSent here | release here =>
      rw [here] at outside
      cases outside

/-- Once `closed` is set, nobody is admitted. -/
theorem ThreadStep.stays_outside (step : ThreadStep s t answer s' t') (closed : s.closed = true)
    (outside : t.inFlight = 0) : t'.inFlight = 0 := by
  cases step with
  | cancel => exact outside
  | send inner => exact inner.stays_outside closed outside
  | probe | close => rfl

end Roles

/-! ## The invariant of a sender that may be closed -/

/-- The three resources, whatever was called on the sender. -/
structure GuardInv (c : SenderConfig) : Prop where
  pool : PoolInv c
  wg : c.shared.wg = tally SenderThread.inFlight c.threads
  lock : flag c.shared.poolMu = tally SenderThread.inPool c.threads
  closed : flag c.shared.closed = tally SenderThread.firstClose c.threads
  quiet : ∀ t ∈ c.threads, t.PastWait → c.shared.wg = 0

structure ShutInv (c : SenderConfig) : Prop extends GuardInv c where
  snapshot : ∀ t ∈ c.threads, ∀ n, t = .close (.await n) ∨ t = .close (.lockPool n) → 0 ≤ n
  undrained : (∀ t ∈ c.threads, ¬t.Drains) → c.shared.writtenOff = 0
  discarded : ∀ t ∈ c.threads, ∀ conn, t.discards = some conn → c.shared.Released conn
  gone : ∀ conn ∈ c.shared.gone, c.shared.Released conn

theorem GuardInv.start {s : Sender} (fresh : s.Fresh) : GuardInv ⟨s, []⟩ where
  pool := .start fresh
  wg := by simp [fresh.wg]
  lock := by simp [fresh.unlocked]
  closed := by simp [fresh.opened]
  quiet := by simp

theorem ShutInv.start {s : Sender} (fresh : s.Fresh) : ShutInv ⟨s, []⟩ where
  toGuardInv := .start fresh
  snapshot := by simp
  undrained := fun _ => fresh.writtenOff
  discarded := by simp
  gone := by simp [fresh.gone]

section Keeps

variable {c : SenderConfig} {s : Sender} {t t' : SenderThread} {answer : SendAnswer} {i : Nat}

theorem GuardInv.call (inv : GuardInv c) (r : SenderRequest) :
    GuardInv ⟨c.shared, c.threads ++ [senderProgram.start r]⟩ := by
  refine ⟨inv.pool.next (m := .call r) rfl, ?_, ?_, ?_, ?_⟩
  · rw [tally_append, inv.wg]
    cases r <;> simp [senderProgram, SenderThread.inFlight, SendPc.inFlight]
  · rw [tally_append, inv.lock]
    cases r <;> simp [senderProgram, SenderThread.inPool]
  · rw [tally_append, inv.closed]
    cases r <;> simp [senderProgram, SenderThread.firstClose]
  · refine Program.forall_threads_call inv.quiet ?_
    cases r <;> exact fun past => past.elim

theorem ShutInv.call (inv : ShutInv c) (r : SenderRequest) :
    ShutInv ⟨c.shared, c.threads ++ [senderProgram.start r]⟩ := by
  refine ⟨inv.toGuardInv.call r, ?_, ?_, ?_, inv.gone⟩
  · refine Program.forall_threads_call inv.snapshot ?_
    cases r <;> simp [senderProgram]
  · intro idle
    exact inv.undrained fun t member => idle t (List.mem_append_left _ member)
  · refine Program.forall_threads_call inv.discarded ?_
    cases r <;> simp [senderProgram, SenderThread.discards]

theorem GuardInv.outside (inv : GuardInv c) (waited : c.shared.wg = 0) (member : t ∈ c.threads) :
    t.inFlight = 0 := by
  have below := le_tally SenderThread.inFlight_nonneg member
  have nonneg := t.inFlight_nonneg
  rw [← inv.wg, waited] at below
  omega

theorem GuardInv.closed_of_first (inv : GuardInv c) (member : t ∈ c.threads)
    (first : t.firstClose = 1) : c.shared.closed = true :=
  flag_of_tally inv.closed SenderThread.firstClose_nonneg member first

theorem ThreadStep.pastWait {s' : Sender} (step : ThreadStep s t answer s' t')
    (past : t'.PastWait) : t.PastWait ∨ s.wg = 0 ∧ s'.wg = 0 := by
  cases step with
  | cancel | send | probe => exact past.elim
  | close inner =>
      cases inner with
      | repeated | begin => exact past.elim
      | awaited waited => exact .inr ⟨waited, waited⟩
      | lockPool | take | skip | closing | done => exact .inl trivial

theorem ThreadStep.snapshot {s' : Sender} (step : ThreadStep s t answer s' t')
    (nonneg : 0 ≤ s.created)
    (before : ∀ n, t = .close (.await n) ∨ t = .close (.lockPool n) → 0 ≤ n) :
    ∀ n, t' = .close (.await n) ∨ t' = .close (.lockPool n) → 0 ≤ n := by
  intro n after
  cases step with
  | cancel | send | probe => simp at after
  | close inner =>
      cases inner with
      | begin =>
          obtain rfl : s.created = n := by simpa using after
          exact nonneg
      | awaited =>
          obtain rfl := by simpa using after
          exact before _ (.inl rfl)
      | repeated | lockPool | take | skip | closing | done => simp at after

theorem GuardInv.act (inv : GuardInv c) (found : c.threads[i]? = some t)
    (step : ThreadStep c.shared t answer s t') (pool : PoolInv ⟨s, c.threads.set i t'⟩) :
    GuardInv ⟨s, c.threads.set i t'⟩ := by
  have member := List.mem_of_getElem? found
  refine ⟨pool, ?_, step.keeps_lock found inv.lock, ?_, ?_⟩
  · have moved := step.wg
    have before := inv.wg
    rw [tally_set _ found]
    simp only
    omega
  · have moved := step.closed
    have before := inv.closed
    rw [tally_set _ found]
    simp only
    omega
  · -- the last admitted send may leave, but nobody comes in any more
    have stays : ∀ u ∈ c.threads, u.PastWait → s.wg = 0 := by
      intro u old past
      have waited := inv.quiet u old past
      have closed := inv.closed_of_first old (SenderThread.firstClose_pastWait past)
      have outside := inv.outside waited member
      have moved := step.wg
      rw [step.stays_outside closed outside] at moved
      omega
    apply Program.forall_threads_set
    · intro past
      rcases step.pastWait past with before | ⟨-, waited⟩
      · exact stays t member before
      · exact waited
    · intro j u _ at_j
      exact stays u (List.mem_of_getElem? at_j)

theorem ShutInv.act (inv : ShutInv c) (found : c.threads[i]? = some t)
    (returns : answer ≠ .panics) (step : ThreadStep c.shared t answer s t')
    (pool : PoolInv ⟨s, c.threads.set i t'⟩) : ShutInv ⟨s, c.threads.set i t'⟩ := by
  have member := List.mem_of_getElem? found
  refine ⟨inv.toGuardInv.act found step pool, ?_, ?_, ?_, ?_⟩
  · apply Program.forall_threads_set
    · exact step.snapshot inv.pool.sound.created_nonneg (inv.snapshot t member)
    · intro j u _ at_j
      exact inv.snapshot u (List.mem_of_getElem? at_j)
  · intro idle
    have before : ∀ u ∈ c.threads, ¬u.Drains := by
      intro u old drains
      obtain ⟨j, at_j⟩ := List.mem_iff_getElem?.mp old
      by_cases same : j = i
      · subst same
        obtain rfl : t = u := by simpa [found] using at_j
        exact idle t' (Program.mem_threads_set_self found t') (step.drains drains)
      · exact idle u (Program.mem_threads_set_of_ne same at_j) drains
    rw [step.writtenOff_undrained returns (before t member)]
    exact inv.undrained before
  · apply Program.forall_threads_set
    · intro conn discards
      obtain ⟨before, same⟩ | released := step.into_discard discards
      · exact (inv.discarded t member conn before).congr (by rw [same])
      · exact released
    · intro j u different at_j conn discards
      have released := inv.discarded u (List.mem_of_getElem? at_j) conn discards
      have holds := SenderThread.share_of_discards discards
      refine released.congr (step.conns_other released.inside fun same => different ?_)
      exact inv.pool.exclusive ⟨t, found, same⟩ ⟨u, at_j, holds⟩
  · intro conn gone
    obtain old | ⟨discards, same⟩ | released := step.into_gone returns gone
    · have released := inv.gone conn old
      refine released.congr (step.conns_other released.inside fun same => ?_)
      exact (inv.pool.sound.held (HeldBy.share ⟨t, found, same⟩)).2 old
    · exact (inv.discarded t member conn discards).congr (by rw [same])
    · exact released

theorem GuardInv.next {c' : SenderConfig} {m : SenderMove} (inv : GuardInv c)
    (moved : senderProgram.next c m = some c') : GuardInv c' := by
  have pool := inv.pool.next moved
  obtain ⟨r, -, rfl⟩ | ⟨i, answer, t, s, t', rfl, found, step, rfl⟩ := sender_cases moved
  · exact inv.call r
  · exact inv.act found step pool

theorem GuardInv.run {c c' : SenderConfig} {ms : List SenderMove} (inv : GuardInv c)
    (run : senderProgram.exec c ms = some c') : GuardInv c' :=
  Program.exec_invariant (fun _ _ _ inv _ moved => inv.next moved) inv
    (Program.meets_true ms) run

theorem ShutInv.next {c' : SenderConfig} {m : SenderMove} (inv : ShutInv c)
    (returning : ∀ i, m ≠ .act i .panics) (moved : senderProgram.next c m = some c') :
    ShutInv c' := by
  have pool := inv.pool.next moved
  obtain ⟨r, -, rfl⟩ | ⟨i, answer, t, s, t', rfl, found, step, rfl⟩ := sender_cases moved
  · exact inv.call r
  · have returns : answer ≠ .panics := by
      rintro rfl
      exact returning i rfl
    exact inv.act found returns step pool

theorem ShutInv.run {c c' : SenderConfig} {ms : List SenderMove} (inv : ShutInv c)
    (returning : ∀ i, .act i .panics ∉ ms) (run : senderProgram.exec c ms = some c') :
    ShutInv c' := by
  have keep : ∀ c m c', ShutInv c → (∀ i, m ≠ .act i .panics) →
      senderProgram.next c m = some c' → ShutInv c' :=
    fun _ _ _ inv allowed moved => inv.next allowed moved
  refine Program.exec_invariant keep inv (Program.meets_of_forall ?_) run
  intro m member i same
  exact returning i (same ▸ member)

end Keeps

end CommonsMQ
