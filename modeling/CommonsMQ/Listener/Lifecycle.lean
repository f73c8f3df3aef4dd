import CommonsMQ.Listener.Protocol

/-! # What becomes of the consumers

`runConsumer` has many exits, and its deferred function records each of them in
three places: the slot of the consumer, the error callback and the value that
`Start` joins. The position of a consumer determines what it has recorded so far.
-/

namespace CommonsMQ

open Interleave

namespace ConsumerPc

/-- The state in the slot, where the position determines it. -/
def state : ConsumerPc → Option ConnectionState
  | .dialing _ | .dialFailed _ | .markConnected | .reconnect _ | .reconnectFailed _
  | .markReconnected => some .reconnecting
  | .loopTop | .consume _ | .loopReturned _ | .markReconnecting => some .connected
  | .wgDone none | .exited none => some .stopped
  | .finalCallback _ | .sendErr _ | .wgDone (some _) | .exited (some _) => some .failed
  | .entry | .markDialing | .closeConn _ | .markFinal _ => none

/-- The error that the slot and the callback have been told. -/
def failure : ConsumerPc → Option GoError
  | .finalCallback err | .sendErr err => some err
  | .wgDone ret | .exited ret => ret
  | _ => none

/-- The error that the consumer is going to return. -/
def verdict : ConsumerPc → Option GoError
  | .closeConn ret | .markFinal ret => ret
  | pc => pc.failure

/-- The error that `Start` has been sent. -/
def sent : ConsumerPc → Option GoError
  | .wgDone ret | .exited ret => ret
  | _ => none

end ConsumerPc

/-- The runs of the error callback without a message. -/
def Consumer.finalReports (k : Consumer) : List GoError :=
  k.reports.filterMap fun
    | (none, err) => some err
    | (some _, _) => none

def ListenerThread.sent : ListenerThread → Option GoError
  | .consumer k => k.pc.sent
  | _ => none

structure Consumer.Accounts (l : Listener) (k : Consumer) : Prop where
  reports : k.finalReports = if l.onError then k.pc.failure.toList else []
  saw : k.sawCancel = true → l.runCtx.isSome = true
  spared : k.sawCancel = true → k.pc.verdict = none

section Steps

variable {l l' : Listener} {k k' : Consumer}

theorem ConsumeStep.accounts {pc out} (step : ConsumeStep l k pc l' k' out) :
    k'.finalReports = k.finalReports ∧
      (k'.sawCancel = k.sawCancel ∨ k'.sawCancel = l.runCtx.isSome) := by
  cases step with
  | reported => exact ⟨by simp [Consumer.finalReports], .inl rfl⟩
  | opened | openFailed | got | empty | getFailed => exact ⟨rfl, .inr rfl⟩
  | cancelled | polled | handOff | handled | unreported | calledBack => exact ⟨rfl, .inl rfl⟩

theorem Consumer.Accounts.consumed {pc pc' out} (step : ConsumeStep l k pc l' k' out)
    (before : Consumer.Accounts l { k with pc := .consume pc })
    (undecided : pc'.verdict = none) (silent : pc'.failure = none) :
    Consumer.Accounts l' { k' with pc := pc' } := by
  obtain ⟨⟨heap, rfl⟩, -⟩ := step.frame
  obtain ⟨reports, saw⟩ := step.accounts
  refine ⟨?_, ?_, fun _ => undecided⟩
  · simp only [silent]
    exact reports.trans before.reports
  · intro seen
    rcases saw with kept | set
    · exact before.saw (kept ▸ seen)
    · exact set ▸ seen

theorem ConsumerStep.accounts {pc} (step : ConsumerStep l k pc l' k')
    (before : Consumer.Accounts l { k with pc := pc }) : k'.Accounts l' := by
  cases step with
  | consuming inner | consumed inner => exact before.consumed inner rfl rfl
  | entryCancelled | entered | markDialing | dialCancelled | markConnected | loopCancelled
  | loopEntered | stopped | connectionLost | markReconnecting | reconnectCancelled
  | markReconnected | markStopped =>
      exact ⟨before.reports, before.saw, fun _ => rfl⟩
  | dialing | dialFailed | dialed | reconnecting | reconnected | reconnectFailed =>
      exact ⟨before.reports, id, fun _ => rfl⟩
  | dialGaveUp live | loopFailed live | reconnectGaveUp live =>
      refine ⟨before.reports, before.saw, fun seen => ?_⟩
      have done := before.saw seen
      simp [live] at done
  | closeConn => exact ⟨before.reports, before.saw, before.spared⟩
  | markFailed set =>
      refine ⟨?_, before.saw, before.spared⟩
      have none := before.reports
      simp only [Consumer.finalReports, set, if_true] at none
      simp [Consumer.finalReports, Listener.setConsumerState, set, none, ConsumerPc.failure]
  | markFailedSilently unset =>
      refine ⟨?_, before.saw, before.spared⟩
      have none := before.reports
      simp only [Consumer.finalReports, unset] at none
      simpa [Consumer.finalReports, Listener.setConsumerState, unset] using none
  | calledBack | sendErr | wgDone => exact ⟨before.reports, before.saw, before.spared⟩

theorem ConsumerStep.states {pc} (step : ConsumerStep l k pc l' k') :
    (∃ st, l'.states = l.states.set k.idx st ∧ k'.pc.state = some st) ∨
      l'.states = l.states ∧ (k'.pc.state = pc.state ∨ k'.pc.state = none) := by
  cases step with
  | consuming inner | consumed inner =>
      obtain ⟨⟨heap, rfl⟩, -⟩ := inner.frame
      exact .inr ⟨rfl, .inl rfl⟩
  | markDialing | markConnected | markReconnecting | markReconnected | markStopped | markFailed
  | markFailedSilently => exact .inl ⟨_, rfl, rfl⟩
  | @wgDone ret => exact .inr ⟨rfl, .inl (by cases ret <;> rfl)⟩
  | entryCancelled | entered | dialCancelled | dialGaveUp | loopCancelled | stopped | loopFailed
  | reconnectCancelled | reconnectGaveUp | closeConn => exact .inr ⟨rfl, .inr rfl⟩
  | dialing | dialFailed | dialed | loopEntered | connectionLost | reconnecting | reconnected
  | reconnectFailed | calledBack | sendErr => exact .inr ⟨rfl, .inl rfl⟩

theorem ConsumerStep.errs {pc} (step : ConsumerStep l k pc l' k') :
    l'.errs = l.errs ∧ k'.pc.sent = pc.sent ∨
      ∃ err, l'.errs = l.errs ++ [err] ∧ pc.sent = none ∧ k'.pc.sent = some err := by
  cases step with
  | consuming inner | consumed inner =>
      obtain ⟨⟨heap, rfl⟩, -⟩ := inner.frame
      exact .inl ⟨rfl, rfl⟩
  | sendErr => exact .inr ⟨_, rfl, rfl, rfl⟩
  | _ => exact .inl ⟨rfl, rfl⟩

end Steps

/-! ## The invariant -/

structure LifecycleInv (c : ListenerConfig) : Prop where
  protocol : ProtocolInv c
  states : ∀ k, .consumer k ∈ c.threads → ∀ st, k.pc.state = some st →
    c.shared.states[k.idx]? = some st
  accounts : ∀ k, .consumer k ∈ c.threads → k.Accounts c.shared
  errs : c.shared.errs.Perm (c.threads.filterMap ListenerThread.sent)

section Keeps

variable {c : ListenerConfig} {l l' : Listener} {k k' : Consumer} {t t' : ListenerThread}
  {fresh : List ListenerThread} {i j : Nat}

theorem ProtocolInv.slots_range (inv : ProtocolInv c) :
    ∃ n, n ≤ c.shared.states.length ∧ slots c.threads = List.range n := by
  cases started : c.shared.started with
  | false => exact ⟨0, Nat.zero_le _, inv.unlaunched started⟩
  | true =>
      obtain ⟨call, member, admitted⟩ := inv.exists_admitted started
      obtain ⟨range, most⟩ := (inv.agrees _ member).1 admitted
      exact ⟨_, most, range⟩

theorem ProtocolInv.idx_lt (inv : ProtocolInv c) (member : .consumer k ∈ c.threads) :
    k.idx < c.shared.states.length := by
  obtain ⟨n, most, range⟩ := inv.slots_range
  have inside : k.idx ∈ slots c.threads := List.mem_filterMap.mpr ⟨_, member, rfl⟩
  rw [range, List.mem_range] at inside
  omega

theorem ProtocolInv.idx_ne (inv : ProtocolInv c) (different : i ≠ j)
    (first : c.threads[i]? = some (.consumer k)) (second : c.threads[j]? = some (.consumer k')) :
    k.idx ≠ k'.idx := by
  obtain ⟨n, -, range⟩ := inv.slots_range
  refine filterMap_nodup_ne (f := ListenerThread.slot) ?_ different first second rfl rfl
  have distinct : (slots c.threads).Nodup := range ▸ List.nodup_range
  exact distinct

theorem LifecycleInv.start (client : ClientConfig) (queueName : String)
    (opts : List ListenerOption) : LifecycleInv ⟨newListener client queueName opts, []⟩ := by
  have protocol := ProtocolInv.start client queueName opts
  obtain ⟨cfg, queue, concurrency, maxRetries, onError, same⟩ :=
    newListener_fresh client queueName opts
  rw [same] at protocol ⊢
  exact ⟨protocol, by simp, by simp, .refl _⟩

/-- Only `runCtx` is touched by other threads, and it never goes back. -/
theorem ListenerStep.context (step : ListenerStep l t l' t' fresh) :
    l'.onError = l.onError ∧
      (l.started = true → l.runCtx.isSome = true → l'.runCtx.isSome = true) := by
  cases step with
  | start inner =>
      revert inner
      generalize StartCall.pc _ = pc
      intro inner
      cases inner with
      | admitted _ unset => exact ⟨rfl, fun set => by simp [unset] at set⟩
      | cancelled | cancelRun => exact ⟨rfl, fun _ _ => rfl⟩
      | _ => exact ⟨rfl, fun _ => id⟩
  | consumer inner => exact ⟨inner.sameRun.onError, fun _ => inner.sameRun.runCtx ▸ id⟩
  | probe => exact ⟨rfl, fun _ => id⟩
  | close inner =>
      cases inner with
      | cancelled => exact ⟨rfl, fun _ _ => rfl⟩
      | _ => exact ⟨rfl, fun _ => id⟩

theorem Consumer.Accounts.other (before : k.Accounts l) (step : ListenerStep l t l' t' fresh)
    (started : l.started = true) : k.Accounts l' := by
  obtain ⟨onError, context⟩ := step.context
  exact ⟨by rw [onError]; exact before.reports, fun seen => context started (before.saw seen),
    before.spared⟩

theorem Consumer.Accounts.new (l : Listener) (n : Nat) : Consumer.Accounts l { idx := n } where
  reports := by simp [Consumer.finalReports, ConsumerPc.failure]
  saw := nofun
  spared := nofun

theorem LifecycleInv.states_other (inv : LifecycleInv c) (found : c.threads[i]? = some t)
    (step : ListenerStep c.shared t l t' fresh) (different : j ≠ i)
    (at_j : c.threads[j]? = some (.consumer k)) : l.states[k.idx]? = c.shared.states[k.idx]? := by
  cases step with
  | start inner => rw [inner.sameConsumers.states]
  | consumer inner =>
      obtain ⟨st, set, -⟩ | ⟨same, -⟩ := inner.states
      · rw [set, List.getElem?_set_ne (inv.protocol.idx_ne different.symm found at_j)]
      · rw [same]
  | probe => rfl
  | close inner => rw [inner.sameConsumers.states]

theorem ListenerStep.errs (step : ListenerStep l t l' t' fresh) :
    l'.errs = l.errs ∧ t'.sent = t.sent ∨
      ∃ err, l'.errs = l.errs ++ [err] ∧ t.sent = none ∧ t'.sent = some err := by
  cases step with
  | start inner => exact .inl ⟨inner.sameConsumers.errs, rfl⟩
  | consumer inner => exact inner.errs
  | probe => exact .inl ⟨rfl, rfl⟩
  | close inner => exact .inl ⟨inner.sameConsumers.errs, rfl⟩

theorem ListenerStep.fresh_sent (step : ListenerStep l t l' t' fresh) :
    fresh.filterMap ListenerThread.sent = [] := by
  cases step with
  | start inner =>
      obtain ⟨rfl, -⟩ | ⟨next, -, -, rfl, -⟩ := inner.fresh_cases
      · rfl
      · rfl
  | consumer | probe | close => rfl

theorem LifecycleInv.act (inv : LifecycleInv c) (found : c.threads[i]? = some t)
    (step : ListenerStep c.shared t l t' fresh) :
    LifecycleInv ⟨l, c.threads.set i t' ++ fresh⟩ := by
  have member := List.mem_of_getElem? found
  refine ⟨inv.protocol.act found step, ?_, ?_, ?_⟩
  · intro k inside st here
    obtain ⟨k₀, rfl, inner⟩ | ⟨j, different, at_j⟩ | ⟨next, rfl, -⟩ :=
      consumer_after found step inside
    · rw [inner.idx]
      obtain ⟨st', set, new⟩ | ⟨same, kept | none⟩ := inner.states
      · obtain rfl : st' = st := by simpa [new] using here
        rw [set, List.getElem?_set_self (inv.protocol.idx_lt member)]
      · rw [same]
        exact inv.states k₀ member st (kept ▸ here)
      · simp [none] at here
    · rw [inv.states_other found step different at_j]
      exact inv.states k (List.mem_of_getElem? at_j) st here
    · cases here
  · intro k inside
    obtain ⟨k₀, rfl, inner⟩ | ⟨j, -, at_j⟩ | ⟨next, rfl, -⟩ := consumer_after found step inside
    · exact inner.accounts (inv.accounts _ member)
    · have old := List.mem_of_getElem? at_j
      exact (inv.accounts k old).other step (inv.protocol.started_of_consumer old)
    · exact .new l next
  · rw [List.filterMap_append, step.fresh_sent, List.append_nil]
    obtain ⟨same, sent⟩ | ⟨err, more, before, after⟩ := step.errs
    · rw [filterMap_set_same found sent, same]
      exact inv.errs
    · rw [more]
      refine .trans ?_ (filterMap_set_perm found before after).symm
      exact (List.perm_append_singleton err _).trans (inv.errs.cons err)

theorem LifecycleInv.next {c' : ListenerConfig} {m : ListenerMove} (inv : LifecycleInv c)
    (moved : listenerProgram.next c m = some c') : LifecycleInv c' := by
  obtain ⟨r, -, rfl⟩ | ⟨i, answer, t, l, t', fresh, -, found, step, rfl⟩ := listener_cases moved
  · refine ⟨inv.protocol.call r, fun k member => inv.states k (consumer_after_call member),
      fun k member => inv.accounts k (consumer_after_call member), ?_⟩
    have none : [listenerProgram.start r].filterMap ListenerThread.sent = [] := by
      cases r <;> rfl
    rw [List.filterMap_append, none, List.append_nil]
    exact inv.errs
  · exact inv.act found step

theorem LifecycleInv.run {c' : ListenerConfig} {ms : List ListenerMove} (inv : LifecycleInv c)
    (run : listenerProgram.exec c ms = some c') : LifecycleInv c' :=
  Program.exec_invariant (fun _ _ _ inv _ moved => inv.next moved) inv (Program.meets_true ms) run

end Keeps

/-! ## When `Start` returns -/

/-- How a consumer that has exited with `ret` is accounted for. -/
structure Ended (l : Listener) (k : Consumer) (ret : Option GoError) : Prop where
  exited : k.pc = .exited ret
  slot : l.states[k.idx]? = some (if ret.isSome then .failed else .stopped)
  reported : k.finalReports = if l.onError then ret.toList else []
  spared : k.sawCancel = true → ret = none

section Account

variable {c : ListenerConfig} {k : Consumer}

theorem LifecycleInv.ended (inv : LifecycleInv c) (waited : c.shared.wg = 0)
    (member : .consumer k ∈ c.threads) : ∃ ret, Ended c.shared k ret := by
  obtain ⟨ret, here⟩ := inv.protocol.exited waited member
  have accounts := inv.accounts k member
  refine ⟨ret, here, inv.states k member _ ?_, ?_, fun seen => ?_⟩
  · cases ret <;> simp [here, ConsumerPc.state]
  · simpa [here, ConsumerPc.failure] using accounts.reports
  · simpa [here, ConsumerPc.verdict, ConsumerPc.failure] using accounts.spared seen

end Account

/-- Of two consumers one cannot connect and the other is cancelled while it holds a
    connection. -/
def failsAndStops : List ListenerMove :=
  [.call (.start none none), .act 0 .go, .act 0 .go, .act 0 .go, .act 0 .go,
    .act 1 .go, .act 1 .go, .act 1 (.loop .check),
    .act 1 (.loop (.dialed (.error (.mqReturn ⟨2, 2059, "MQRC_Q_MGR_NOT_AVAILABLE"⟩)))),
    .act 1 .go, .act 1 .go, .act 1 (.callback true), .act 1 .go, .act 1 .go,
    .act 2 .go, .act 2 .go, .act 2 (.loop .check), .act 2 (.loop (.dialed (.ok 9))), .act 2 .go,
    .act 0 (.cancel .canceled), .act 2 .go, .act 2 (.disced none), .act 2 .go, .act 2 .go,
    .act 0 .go, .act 0 .go, .act 0 .go]

end CommonsMQ
