import CommonsMQ.Sender.Closing

/-! # The gauge of active connections

A send counts a connection when it has dialed it and uncounts it when it has thrown it
away. `close` closes idle connections and uncounts none of them. While no send and no
`close` runs, the gauge is therefore off by exactly the connections that `close` closed.
-/

namespace CommonsMQ

open Interleave BoundedPool

/-! ## Which connections a run closes -/

inductive Closer where
  /-- A send throws its connection away. -/
  | discard
  /-- `Sender.close` empties the pool. -/
  | shutdown
  deriving Repr, DecidableEq

/-- The connection on which the thread is about to call `Close`. -/
def SenderThread.closes : SenderThread → Option (Closer × ConnId)
  | .send call =>
      match call.pc with
      | .closeConn conn _ => some (.discard, conn)
      | _ => none
  | .close (.closing _ conn _) => some (.shutdown, conn)
  | _ => none

/-- The call of `Close` that the answer is for. -/
def SenderThread.closesNow (t : SenderThread) : SendAnswer → List (Closer × ConnId)
  | .disced _ => t.closes.toList
  | _ => []

def closings (c : SenderConfig) : SenderMove → List (Closer × ConnId)
  | .act i answer => (c.threads[i]?.map (·.closesNow answer)).getD []
  | .call _ => []

/-- The calls of `Close` in a run from `c`. -/
def closedIn (c : SenderConfig) (ms : List SenderMove) : List (Closer × ConnId) :=
  senderProgram.trail closings c ms

/-- Connections that were dialed, and not closed in the run `ms` from `start` to `c`. -/
def openConns (start : SenderConfig) (ms : List SenderMove) (c : SenderConfig) : Nat :=
  (List.range c.shared.conns.length).countP fun conn =>
    decide (conn ∉ (closedIn start ms).map Prod.snd)

/-- Neither a send nor a `close` in progress. -/
def SenderThread.atRest : SenderThread → Bool
  | .send call =>
      match call.pc with
      | .returned _ => true
      | _ => false
  | .close .repeated | .close (.returned _) | .probe _ => true
  | .close _ => false

def SenderAtRest (c : SenderConfig) : Prop := ∀ t ∈ c.threads, t.atRest = true

/-! ## The books -/

/-- Whether a send has closed `conn` and not yet put it among the gone ones. -/
def SendPc.closing (conn : ConnId) : SendPc → ℤ
  | .uncreate conn' _ => if conn' = conn then 1 else 0
  | _ => 0

def SenderThread.closing (conn : ConnId) : SenderThread → ℤ
  | .send call => call.pc.closing conn
  | .probe _ | .close _ => 0

/-- What a send is still to add to the gauge. -/
def SendPc.uncounted : SendPc → ℤ
  | .acquire (.countActive _) => 1
  | .uncount _ => -1
  | _ => 0

def SenderThread.uncounted : SenderThread → ℤ
  | .send call => call.pc.uncounted
  | .probe _ | .close _ => 0

/-- By how much the gauge is below the connections in service and the written off ones. -/
def Sender.lag (s : Sender) : ℤ :=
  s.conns.length - s.gone.length + s.writtenOff - s.activeConns

section Steps

variable {s s' : Sender} {t t' : SenderThread} {answer : SendAnswer}

@[simp] theorem Sender.lag_setState (s : Sender) (state : ConnectionState) (err : Option GoError) :
    (s.setState state err).lag = s.lag := rfl

theorem Sender.lag_setConn {id : ConnId} {c : Connection} (set : s.setConn id c = some s') :
    s'.lag = s.lag := by
  obtain ⟨old, live, -, -, rfl⟩ := setConn_cases set
  simp [lag]

theorem PutStep.lag {queueName span attempt pc attempt' out}
    (step : PutStep s queueName span attempt pc answer s' attempt' out) : s'.lag = s.lag := by
  obtain ⟨queues, nextMsg, rfl⟩ := step.frame
  rfl

theorem afterPut_uncounted (conn : ConnId) (retry : Bool) (result : Except GoError String) :
    (afterPut conn retry result).uncounted = 0 := by
  unfold afterPut
  repeat' split
  all_goals rfl

theorem afterPut_closing (k conn : ConnId) (retry : Bool) (result : Except GoError String) :
    (afterPut conn retry result).closing k = 0 := by
  unfold afterPut
  repeat' split
  all_goals rfl

/-- An acquisition that dials leaves the count to its next step. -/
theorem AcquireStep.lag {ctx : Option CtxErr} {pc : AcquirePc}
    {out : AcquirePc ⊕ Except GoError ConnId} (step : AcquireStep s ctx answer pc s' out) :
    s'.lag - s.lag =
      (match out with
        | .inl pc' => (SendPc.acquire pc').uncounted
        | .inr _ => 0) - (SendPc.acquire pc).uncounted := by
  cases step with
  | dialed _ added =>
      obtain ⟨live, -, rfl⟩ := Sender.addConn_cases added
      simp only [Sender.lag, SendPc.uncounted, List.length_append, List.length_singleton]
      push_cast
      omega
  | markDialFailed => split <;> simp [SendPc.uncounted]
  | countActive =>
      simp only [Sender.lag, SendPc.uncounted]
      omega
  | markConnected => simp [SendPc.uncounted]
  | _ => simp [Sender.lag, SendPc.uncounted]

theorem SendStep.lag {call call' : SendCall} (step : SendStep s call answer s' call') :
    s'.lag - s.lag = call'.pc.uncounted - call.pc.uncounted := by
  cases step with
  | acquiring here inner | acquireFailed here inner | acquired here inner =>
      rw [here]
      exact inner.lag
  | putting here inner =>
      rw [here, inner.lag]
      simp [SendPc.uncounted]
  | putReturned here inner =>
      rw [here, inner.lag, afterPut_uncounted]
      simp [SendPc.uncounted]
  | putPanicked here inner =>
      have same := inner.lag
      simp only [Sender.lag, SendPc.uncounted, here, List.length_cons] at same ⊢
      push_cast
      omega
  | markReconnecting here _ set | reconnecting here _ _ set | reconnected here _ _ set
  | reconnectFailed here _ _ set | closeConn here _ set =>
      simp [here, Sender.lag_setConn set, SendPc.uncounted]
  | markDiscarded here => split <;> simp [here, SendPc.uncounted]
  | uncreate here | uncount here =>
      simp only [Sender.lag, SendPc.uncounted, here, List.length_cons]
      push_cast
      omega
  | noDestination here | resolved here | rejected here | markReconnected here | markSent here =>
      simp [here, SendPc.uncounted]
  | admitted here | release here | finish here | unwound here =>
      simp [here, SendPc.uncounted, Sender.lag]

/-- The gauge lags behind by what the threads are still to add. -/
theorem ThreadStep.lag (step : ThreadStep s t answer s' t') :
    s'.lag - s.lag = t'.uncounted - t.uncounted := by
  cases step with
  | cancel => simp [SenderThread.uncounted]
  | send inner => exact inner.lag
  | probe inner => cases inner <;> simp [SenderThread.uncounted, Sender.lag]
  | close inner =>
      cases inner with
      | closing _ set =>
          have same := Sender.lag_setConn set
          simp only [Sender.lag, SenderThread.uncounted, List.length_cons] at same ⊢
          push_cast
          omega
      | _ => simp [SenderThread.uncounted, Sender.lag]

theorem sendWithCreator_closes {call call' : SendCall} {conn : ConnId} {why : Discard}
    (here : call.pc = .closeConn conn why)
    (h : sendWithCreator s call answer = some (s', call')) :
    (∃ err, answer = .disced err) ∧ s'.gone = s.gone ∧ s'.writtenOff = s.writtenOff ∧
      call'.pc = .uncreate conn why := by
  cases answer with
  | disced err =>
      simp only [sendWithCreator, here] at h
      split at h
      · cases h
      · obtain ⟨s₁, set, same⟩ := Option.map_eq_some_iff.mp h
        obtain ⟨rfl, rfl⟩ := same
        obtain ⟨old, live, -, -, rfl⟩ := Sender.setConn_cases set
        exact ⟨⟨err, rfl⟩, rfl, rfl, rfl⟩
  | _ => simp [sendWithCreator, here] at h

theorem closeSender_closes {left : Nat} {conn : ConnId} {errs : List GoError} {pc' : ClosePc}
    (h : closeSender s (.closing left conn errs) answer = some (s', pc')) :
    (∃ err, answer = .disced err) ∧ s'.gone = conn :: s.gone ∧
      s'.writtenOff = s.writtenOff + 1 := by
  cases answer with
  | disced err =>
      simp only [closeSender] at h
      split at h
      · cases h
      · obtain ⟨s₁, set, same⟩ := Option.map_eq_some_iff.mp h
        obtain ⟨rfl, rfl⟩ := same
        obtain ⟨old, live, -, -, rfl⟩ := Sender.setConn_cases set
        exact ⟨⟨err, rfl⟩, rfl, rfl⟩
  | _ => simp [closeSender] at h

theorem SenderThread.closes_send {call : SendCall} {pair : Closer × ConnId}
    (closes : (SenderThread.send call).closes = some pair) :
    ∃ conn why, call.pc = .closeConn conn why := by
  simp only [SenderThread.closes] at closes
  split at closes
  · exact ⟨_, _, ‹_›⟩
  · cases closes

theorem SenderThread.closes_closeConn {call : SendCall} {conn : ConnId} {why : Discard}
    (here : call.pc = .closeConn conn why) :
    (SenderThread.send call).closes = some (.discard, conn) := by
  simp only [SenderThread.closes, here]

theorem SenderThread.closes_close {pc : ClosePc} {pair : Closer × ConnId}
    (closes : (SenderThread.close pc).closes = some pair) :
    ∃ left conn errs, pc = .closing left conn errs := by
  cases pc with
  | closing left conn errs => exact ⟨left, conn, errs, rfl⟩
  | _ => cases closes

/-- A step that closes nothing moves a connection from the hands of a send to the gone ones
    at most. -/
theorem ThreadStep.closes_nothing (step : ThreadStep s t answer s' t')
    (returns : answer ≠ .panics) (idle : t.closes = none) :
    (∀ k, (s'.gone.count k : ℤ) + t'.closing k = s.gone.count k + t.closing k) ∧
      s'.writtenOff = s.writtenOff := by
  cases step with
  | cancel => exact ⟨fun _ => rfl, rfl⟩
  | probe inner => cases inner <;> exact ⟨fun _ => rfl, rfl⟩
  | close inner =>
      cases inner with
      | closing => cases idle
      | _ => exact ⟨fun _ => rfl, rfl⟩
  | send inner =>
      refine ⟨fun k => ?_, (ThreadStep.writtenOff (.send inner) returns (by simp)).1⟩
      simp only [SenderThread.closing]
      cases inner with
      | closeConn here => simp [SenderThread.closes, here] at idle
      | acquiring here inner | acquireFailed here inner | acquired here inner =>
          rw [here, inner.frame.2.2.2]
          rfl
      | putting here inner =>
          obtain ⟨queues, nextMsg, rfl⟩ := inner.frame
          rw [here]
          rfl
      | putReturned here inner =>
          obtain ⟨queues, nextMsg, rfl⟩ := inner.frame
          rw [here, afterPut_closing]
          rfl
      | putPanicked here inner =>
          cases inner
          exact absurd rfl returns
      | markReconnecting here _ set | reconnecting here _ _ set | reconnected here _ _ set
      | reconnectFailed here _ _ set =>
          obtain ⟨old, live, -, -, rfl⟩ := Sender.setConn_cases set
          rw [here]
          rfl
      | @uncreate conn why here =>
          rw [here]
          simp only [SendPc.closing, List.count_cons, beq_iff_eq]
          split <;> simp
      | markDiscarded here =>
          rw [here]
          split <;> rfl
      | noDestination here | resolved here | rejected here | admitted here
      | markReconnected here | uncount here | markSent here | release here | finish here
      | unwound here =>
          rw [here]
          rfl

/-- What a step does to the gone connections and to the written off slots. -/
theorem SenderThread.step_closings (h : t.step s answer = some (s', t'))
    (returns : answer ≠ .panics) :
    (∀ k, (((t.closesNow answer).map Prod.snd).count k : ℤ) =
      s'.gone.count k + t'.closing k - (s.gone.count k + t.closing k)) ∧
    s'.writtenOff - s.writtenOff = (t.closesNow answer).countP (·.1 = .shutdown) := by
  cases closes : t.closes with
  | none =>
      obtain ⟨places, same⟩ := (SenderThread.step_cases h).closes_nothing returns closes
      have nothing : t.closesNow answer = [] := by
        cases answer <;> simp [closesNow, closes]
      rw [nothing]
      refine ⟨fun k => ?_, by simp [same]⟩
      have place := places k
      simp only [List.map_nil, List.count_nil]
      push_cast
      omega
  | some pair =>
      cases t with
      | probe => cases closes
      | send call =>
          obtain ⟨conn, why, here⟩ := closes_send closes
          cases answer with
          | cancel e =>
              cases h
              simp [closesNow, closing]
          | disced err =>
              obtain ⟨⟨s₁, call₁⟩, sent, same⟩ := Option.map_eq_some_iff.mp h
              obtain ⟨rfl, rfl⟩ := same
              obtain ⟨-, gone, writtenOff, next⟩ := sendWithCreator_closes here sent
              simp [closesNow, closes_closeConn here, closing, next, here, gone, writtenOff,
                SendPc.closing, List.count_singleton]
          | _ => simp [step, sendWithCreator, here] at h
      | close pc =>
          obtain ⟨left, conn, errs, rfl⟩ := closes_close closes
          obtain ⟨⟨s₁, pc₁⟩, closed, same⟩ := Option.map_eq_some_iff.mp h
          obtain ⟨rfl, rfl⟩ := same
          obtain ⟨⟨err, rfl⟩, gone, writtenOff⟩ := closeSender_closes closed
          simp [closesNow, SenderThread.closes, closing, gone, writtenOff, List.count_cons]

end Steps

/-- What the calls of `Close` so far have done to the books. -/
structure ClosedBooks (past : List (Closer × ConnId)) (c : SenderConfig) : Prop where
  placed : ∀ k, ((past.map Prod.snd).count k : ℤ) =
    c.shared.gone.count k + tally (SenderThread.closing k) c.threads
  shutdowns : c.shared.writtenOff = past.countP (·.1 = .shutdown)
  lag : c.shared.lag = tally SenderThread.uncounted c.threads

theorem ClosedBooks.next {past : List (Closer × ConnId)} {c c' : SenderConfig} {m : SenderMove}
    (books : ClosedBooks past c) (returns : ∀ i, m ≠ .act i .panics)
    (moved : senderProgram.next c m = some c') : ClosedBooks (past ++ closings c m) c' := by
  obtain ⟨r, rfl, rfl⟩ | ⟨i, a, t, s, t', started, rfl, found, stepped, rfl⟩ :=
    Program.next_cases moved
  · have idle : ∀ k, (senderProgram.start r).closing k = 0 ∧
        (senderProgram.start r).uncounted = 0 := by
      intro k
      cases r <;> exact ⟨rfl, rfl⟩
    refine ⟨fun k => ?_, by simpa [closings] using books.shutdowns, ?_⟩
    · simp [closings, books.placed k, (idle k).1]
    · simp [books.lag, (idle 0).2]
  · obtain ⟨⟨s₁, t₁⟩, own, same⟩ := Option.map_eq_some_iff.mp stepped
    obtain ⟨rfl, rfl, rfl⟩ := same
    have now : closings c (.act i a) = t.closesNow a := by simp [closings, found]
    obtain ⟨places, slots⟩ := SenderThread.step_closings own fun same => returns i (same ▸ rfl)
    have lags := (SenderThread.step_cases own).lag
    rw [now, List.append_nil]
    refine ⟨fun k => ?_, ?_, ?_⟩
    · have place := places k
      have before := books.placed k
      rw [List.map_append, List.count_append, tally_set _ found]
      push_cast
      omega
    · have before := books.shutdowns
      rw [List.countP_append]
      push_cast
      omega
    · have before := books.lag
      rw [tally_set _ found]
      simp only
      omega

theorem ClosedBooks.run {s : Sender} {ms : List SenderMove} {c : SenderConfig} (fresh : s.Fresh)
    (unused : s.activeConns = 0) (returning : ∀ i, .act i .panics ∉ ms)
    (run : senderProgram.exec ⟨s, []⟩ ms = some c) :
    ClosedBooks (closedIn ⟨s, []⟩ ms) c := by
  have keep : ∀ past c m c', ClosedBooks past c → (∀ i, m ≠ .act i .panics) →
      senderProgram.next c m = some c' → ClosedBooks (past ++ closings c m) c' :=
    fun _ _ _ _ books returns moved => books.next returns moved
  have start : ClosedBooks [] ⟨s, []⟩ :=
    ⟨by simp [fresh.gone], by simp [fresh.writtenOff],
      by simp [Sender.lag, fresh.conns, fresh.gone, fresh.writtenOff, unused]⟩
  exact Program.exec_trail keep start (fun m member i same => returning i (same ▸ member)) run

/-! ## At rest -/

section AtRest

variable {c : SenderConfig}

theorem SenderAtRest.counted (rest : SenderAtRest c) :
    tally SenderThread.uncounted c.threads = 0 ∧
      ∀ k, tally (SenderThread.closing k) c.threads = 0 := by
  refine ⟨tally_eq_zero fun t member => ?_, fun k => tally_eq_zero fun t member => ?_⟩
  all_goals
    have done := rest t member
    cases t with
    | send call =>
        simp only [SenderThread.atRest] at done
        split at done
        · rename_i here
          simp [SenderThread.uncounted, SendPc.uncounted, SenderThread.closing, SendPc.closing,
            here]
        · cases done
    | probe | close => rfl

/-- The gone connections are distinct members of the table. -/
theorem PoolInv.gone_nodup (inv : PoolInv c) : c.shared.gone.Nodup := by
  rw [List.nodup_iff_count_le_one]
  intro k
  have once := inv.sound.count_le_one k
  have shared := tally_nonneg (Share.has_nonneg k) (c.threads.map SenderThread.share)
  simp only [Sender.view] at once
  omega

theorem PoolInv.gone_inside (inv : PoolInv c) {conn : ConnId} (gone : conn ∈ c.shared.gone) :
    conn < c.shared.conns.length := by
  have place := inv.sound.placed conn
  have shared := tally_nonneg (Share.has_nonneg conn) (c.threads.map SenderThread.share)
  have one := List.count_pos_iff.mpr gone
  simp only [Sender.view] at place
  have known : conn ∈ List.range c.shared.conns.length := List.count_pos_iff.mp (by omega)
  exact List.mem_range.mp known

/-- Of `n` numbers all but those in a list without repetitions are outside it. -/
theorem countP_range_not_mem {l : List Nat} {n : Nat} (distinct : l.Nodup)
    (inside : ∀ k ∈ l, k < n) : (List.range n).countP (fun k => decide (k ∉ l)) + l.length = n := by
  have members : (List.range n).countP (fun k => decide (k ∈ l)) = l.length := by
    rw [List.countP_eq_length_filter]
    apply List.Perm.length_eq
    rw [List.perm_ext_iff_of_nodup (List.nodup_range.filter _) distinct]
    intro k
    simp only [List.mem_filter, List.mem_range, decide_eq_true_eq]
    exact ⟨fun both => both.2, fun member => ⟨inside k member, member⟩⟩
  have split := List.length_eq_countP_add_countP (fun k => decide (k ∈ l)) (l := List.range n)
  simp only [List.length_range, decide_eq_true_eq] at split
  omega

end AtRest

theorem newSender_activeConns (client : ClientConfig) (destinationQueue : String)
    (opts : List SenderOption) : (newSender client destinationQueue opts).activeConns = 0 := by
  have folds : ∀ (opts : List SenderOption) (s : Sender), s.activeConns = 0 →
      (opts.foldl SenderOption.apply s).activeConns = 0 := by
    intro opts
    induction opts with
    | nil => exact fun s unused => unused
    | cons opt rest ih =>
        intro s unused
        refine ih _ ?_
        cases opt with
        | withSenderConcurrency n =>
            simp only [SenderOption.apply]
            split <;> exact unused
  exact folds opts _ rfl

/-- While no send and no `close` runs, the gauge shows the connections that are open exactly
    if `close` has closed none. It is never negative. -/
theorem gauge_counts_open_iff (client : ClientConfig) (destinationQueue : String)
    (opts : List SenderOption) (ms : List SenderMove) (c : SenderConfig)
    (returning : ∀ i, .act i .panics ∉ ms)
    (run : senderProgram.exec ⟨newSender client destinationQueue opts, []⟩ ms = some c)
    (rest : SenderAtRest c) :
    (c.shared.activeConns = openConns ⟨newSender client destinationQueue opts, []⟩ ms c ↔
      ∀ conn, (.shutdown, conn) ∉ closedIn ⟨newSender client destinationQueue opts, []⟩ ms) ∧
    0 ≤ c.shared.activeConns := by
  have fresh := newSender_fresh client destinationQueue opts
  have inv := PoolInv.run fresh run
  have books := ClosedBooks.run fresh (newSender_activeConns client destinationQueue opts)
    returning run
  obtain ⟨nothing, placed⟩ := rest.counted
  have same : ∀ k, k ∈ (closedIn ⟨newSender client destinationQueue opts, []⟩ ms).map Prod.snd ↔
      k ∈ c.shared.gone := by
    intro k
    have place := books.placed k
    rw [placed k] at place
    rw [← List.count_pos_iff, ← List.count_pos_iff]
    omega
  have remaining : openConns ⟨newSender client destinationQueue opts, []⟩ ms c +
      c.shared.gone.length = c.shared.conns.length := by
    simp only [openConns, same]
    exact countP_range_not_mem inv.gone_nodup fun k gone => inv.gone_inside gone
  have lag := books.lag
  have shutdowns := books.shutdowns
  rw [nothing, Sender.lag] at lag
  refine ⟨?_, by omega⟩
  have none : (closedIn ⟨newSender client destinationQueue opts, []⟩ ms).countP
      (·.1 = .shutdown) = 0 ↔
      ∀ conn, (.shutdown, conn) ∉ closedIn ⟨newSender client destinationQueue opts, []⟩ ms := by
    rw [List.countP_eq_zero]
    constructor
    · intro other conn member
      exact other _ member (by simp)
    · rintro other ⟨who, conn⟩ member shutdown
      obtain rfl : who = .shutdown := by simpa using shutdown
      exact other conn member
  rw [← none]
  omega

/-- A send dials, puts its message and hands the connection to the pool. -/
def sendsOnce : List SenderMove :=
  .call (.send "" none false none) :: acquiresByDial 0 7 ++ putsAndReturns 0

theorem gauge_counts_open_after_send : ∃ c,
    senderProgram.exec ⟨newSender .minimal "ORDERS" [], []⟩ sendsOnce = some c ∧
    c.shared.activeConns = 1 ∧
    c.shared.activeConns = openConns ⟨newSender .minimal "ORDERS" [], []⟩ sendsOnce c := by
  have ran : (senderProgram.exec ⟨newSender .minimal "ORDERS" [], []⟩ sendsOnce).map
      (fun c => (c.threads.all SenderThread.atRest, c.shared.activeConns)) = some (true, 1) := by
    decide +kernel
  have unclosed : closedIn ⟨newSender .minimal "ORDERS" [], []⟩ sendsOnce = [] := by
    decide +kernel
  obtain ⟨c, run, seen⟩ := Option.map_eq_some_iff.mp ran
  simp only [Prod.mk.injEq, List.all_eq_true] at seen
  obtain ⟨rest, one⟩ := seen
  refine ⟨c, run, one, ((gauge_counts_open_iff .minimal "ORDERS" [] _ c ?_ run rest).1).mpr ?_⟩
  · simp [sendsOnce, acquiresByDial, putsAndReturns]
  · simp [unclosed]

/-- `close` is called when the only send has returned, and closes its connection. -/
def sendsAndCloses : List SenderMove :=
  sendsOnce ++ .call .close :: List.replicate 4 (.act 1 .go) ++
    [.act 1 (.disced none), .act 1 .go]

/-- No connection is left, and the gauge still shows one. -/
theorem gauge_stays_after_close : ∃ c,
    senderProgram.exec ⟨newSender .minimal "ORDERS" [], []⟩ sendsAndCloses = some c ∧
    SenderAtRest c ∧ c.shared.live = [] ∧ c.shared.activeConns = 1 ∧
    openConns ⟨newSender .minimal "ORDERS" [], []⟩ sendsAndCloses c = 0 := by
  have ran : (senderProgram.exec ⟨newSender .minimal "ORDERS" [], []⟩ sendsAndCloses).map
      (fun c => (c.threads.all SenderThread.atRest, c.shared.live, c.shared.activeConns,
        openConns ⟨newSender .minimal "ORDERS" [], []⟩ sendsAndCloses c)) =
      some (true, [], 1, 0) := by
    decide +kernel
  obtain ⟨c, run, seen⟩ := Option.map_eq_some_iff.mp ran
  simp only [Prod.mk.injEq, List.all_eq_true] at seen
  obtain ⟨rest, live, gauge, none⟩ := seen
  exact ⟨c, run, rest, live, gauge, none⟩

end CommonsMQ
