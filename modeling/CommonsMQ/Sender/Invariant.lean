import CommonsMQ.Sender.Pool

/-! # The connections behind the pool

A thread changes only the connection it holds. A connection that was connected
when it was put into the pool therefore still is when it is taken out, and no
two connections share a handle of the queue manager. `PoolInv` collects what
holds of a sender after every run; that the pool's books are right whenever only
sends and health probes run is the result at the end.
-/

namespace CommonsMQ

open Interleave BoundedPool

/-- The connection with which a thread is to work, or has worked, successfully:
    all that it holds except while it reconnects or throws the connection away. -/
def SendPc.steady : SendPc → Option ConnId
  | .acquire (.countActive conn) | .acquire (.markConnected conn) => some conn
  | .put conn _ _ | .markReconnecting conn _ | .markReconnected conn | .markSent conn _
  | .release conn _ => some conn
  | _ => none

def SenderThread.steady : SenderThread → Option ConnId
  | .send call => call.pc.steady
  | .probe (.putBack conn) => some conn
  | .close (.closing _ conn _) => some conn
  | .probe _ | .close _ => none

def Sender.Connected (s : Sender) (conn : ConnId) : Prop :=
  ∃ c, s.conns[conn]? = some c ∧ c.state = .connected

section Connections

variable {s s' : Sender}

theorem Sender.Connected.congr {conn : ConnId} (same : s'.conns[conn]? = s.conns[conn]?)
    (connected : s.Connected conn) : s'.Connected conn := by
  obtain ⟨c, found, state⟩ := connected
  exact ⟨c, same.trans found, state⟩

theorem Sender.setConn_other {id conn : ConnId} {c : Connection}
    (set : s.setConn id c = some s') (other : id ≠ conn) : s'.conns[conn]? = s.conns[conn]? := by
  obtain ⟨old, live, -, -, rfl⟩ := setConn_cases set
  exact List.getElem?_set_ne other

theorem Sender.setConn_self {id : ConnId} {c : Connection} (set : s.setConn id c = some s') :
    s'.conns[id]? = some c := by
  obtain ⟨old, live, found, -, rfl⟩ := setConn_cases set
  exact List.getElem?_set_self (List.getElem?_eq_some_iff.mp found).1

theorem Sender.addConn_other {conn : ConnId} {c : Connection} (added : s.addConn c = some s')
    (old : conn < s.conns.length) : s'.conns[conn]? = s.conns[conn]? := by
  obtain ⟨live, -, rfl⟩ := addConn_cases added
  exact List.getElem?_append_left old

theorem AcquireStep.conns_other {ctx answer pc out conn} (step : AcquireStep s ctx answer pc s' out)
    (old : conn < s.conns.length) : s'.conns[conn]? = s.conns[conn]? := by
  cases step with
  | dialed _ added => exact Sender.addConn_other added old
  | markDialFailed => split <;> rfl
  | _ => rfl

theorem AcquireStep.pool_subset {ctx answer pc out} (step : AcquireStep s ctx answer pc s' out) :
    s'.pool ⊆ s.pool := by
  cases step with
  | take found | receive found =>
      rw [found]
      exact List.subset_cons_self _ _
  | dialed _ added =>
      obtain ⟨live, -, rfl⟩ := Sender.addConn_cases added
      exact List.Subset.refl _
  | markDialFailed => split <;> exact List.Subset.refl _
  | _ => exact List.Subset.refl _

/-- A thread leaves alone every connection that it does not hold. -/
theorem ThreadStep.conns_other {t t' answer conn} (step : ThreadStep s t answer s' t')
    (old : conn < s.conns.length) (other : t.share ≠ .holds conn) :
    s'.conns[conn]? = s.conns[conn]? := by
  have differs : ∀ k, t.share = .holds k → k ≠ conn := by
    rintro k share rfl
    exact other share
  cases step with
  | cancel => rfl
  | send inner =>
      cases inner with
      | acquiring _ inner | acquireFailed _ inner | acquired _ inner =>
          exact inner.conns_other old
      | putting _ inner | putReturned _ inner | putPanicked _ inner =>
          obtain ⟨queues, nextMsg, rfl⟩ := inner.frame
          rfl
      | markReconnecting here _ set | reconnecting here _ _ set | reconnected here _ _ set
      | reconnectFailed here _ _ set | closeConn here _ set =>
          exact (Sender.setConn_other set (differs _ (congrArg SendPc.share here)) :)
      | markDiscarded => split <;> rfl
      | _ => rfl
  | probe inner => cases inner <;> rfl
  | close inner =>
      cases inner with
      | closing _ set => exact (Sender.setConn_other set (differs _ rfl) :)
      | _ => rfl

theorem afterPut_steady {conn k : ConnId} {retry : Bool} {result : Except GoError String}
    (h : (afterPut conn retry result).steady = some k) : k = conn := by
  unfold afterPut at h
  split at h
  · exact (Option.some.inj h).symm
  · split at h
    · cases h
    · split at h
      · exact (Option.some.inj h).symm
      · exact (Option.some.inj h).symm

/-- The connection with which a thread goes on working is connected: it was so
    before, comes from the pool, or has just been dialed. -/
theorem ThreadStep.keeps_steady {t t' answer conn} (step : ThreadStep s t answer s' t')
    (idle : ∀ k ∈ s.pool, s.Connected k) (before : ∀ k, t.steady = some k → s.Connected k)
    (steady : t'.steady = some conn) : s'.Connected conn := by
  cases step with
  | cancel => exact before conn steady
  | send inner =>
      cases inner with
      | noDestination | resolved | rejected | admitted | acquireFailed | putPanicked | reconnecting
      | reconnectFailed | closeConn | uncreate | uncount | markDiscarded | release | finish
      | unwound | markReconnecting => cases steady
      | acquiring here inner =>
          cases inner with
          | look | miss | reserve | full | retry | dialFailed | unreserve => cases steady
          | take found | receive found =>
              obtain rfl := Option.some.inj steady
              exact idle _ (by rw [found]; exact List.mem_cons_self)
          | dialed dialed added =>
              obtain rfl := Option.some.inj steady
              obtain ⟨n, handle, -, -, -, state⟩ := newConnectionWithRetry_ok dialed
              obtain ⟨live, -, rfl⟩ := Sender.addConn_cases added
              exact ⟨_, List.getElem?_concat_length, state⟩
          | countActive =>
              obtain rfl := Option.some.inj steady
              exact before _ (congrArg SendPc.steady here)
      | acquired here inner =>
          obtain rfl := Option.some.inj steady
          cases inner with
          | markConnected => exact before _ (congrArg SendPc.steady here)
      | putting here inner =>
          obtain rfl := Option.some.inj steady
          obtain ⟨queues, nextMsg, rfl⟩ := inner.frame
          exact before _ (congrArg SendPc.steady here)
      | putReturned here inner =>
          obtain rfl := afterPut_steady steady
          obtain ⟨queues, nextMsg, rfl⟩ := inner.frame
          exact before _ (congrArg SendPc.steady here)
      | reconnected here found ok set =>
          obtain rfl := Option.some.inj steady
          exact ⟨_, Sender.setConn_self set, Connection.reconnect_ok ok⟩
      | markReconnected here | markSent here =>
          obtain rfl := Option.some.inj steady
          exact before _ (congrArg SendPc.steady here)
  | probe inner =>
      cases inner with
      | answered | inUse | lockPool | empty | putBack => cases steady
      | take found =>
          obtain rfl := Option.some.inj steady
          exact idle _ (by rw [found]; exact List.mem_cons_self)
  | close inner =>
      cases inner with
      | repeated | begin | awaited | lockPool | skip | closing | done => cases steady
      | take found =>
          obtain rfl := Option.some.inj steady
          exact idle _ (by rw [found]; exact List.mem_cons_self)

/-- Only a connection that works comes into the pool, and nothing else happens
    to it in that step. -/
theorem ThreadStep.into_pool {t t' answer conn} (step : ThreadStep s t answer s' t')
    (member : conn ∈ s'.pool) : conn ∈ s.pool ∨ t.steady = some conn ∧ s'.conns = s.conns := by
  cases step with
  | cancel => exact .inl member
  | send inner =>
      cases inner with
      | acquiring _ inner | acquireFailed _ inner | acquired _ inner =>
          exact .inl (inner.pool_subset member)
      | putting _ inner | putReturned _ inner | putPanicked _ inner =>
          obtain ⟨queues, nextMsg, rfl⟩ := inner.frame
          exact .inl member
      | markReconnecting _ _ set | reconnecting _ _ _ set | reconnected _ _ _ set
      | reconnectFailed _ _ _ set | closeConn _ _ set =>
          obtain ⟨old, live, -, -, rfl⟩ := Sender.setConn_cases set
          exact .inl member
      | markDiscarded => exact .inl (by split at member <;> exact member)
      | release here =>
          rcases List.mem_append.mp member with old | new
          · exact .inl old
          · obtain rfl := List.mem_singleton.mp new
            exact .inr ⟨congrArg SendPc.steady here, rfl⟩
      | _ => exact .inl member
  | probe inner =>
      cases inner with
      | take found => exact .inl (by rw [found]; exact List.mem_cons_of_mem _ member)
      | putBack =>
          rcases List.mem_append.mp member with old | new
          · exact .inl old
          · obtain rfl := List.mem_singleton.mp new
            exact .inr ⟨rfl, rfl⟩
      | _ => exact .inl member
  | close inner =>
      cases inner with
      | take found => exact .inl (by rw [found]; exact List.mem_cons_of_mem _ member)
      | closing _ set =>
          obtain ⟨old, live, -, -, rfl⟩ := Sender.setConn_cases set
          exact .inl member
      | _ => exact .inl member

/-- How a step can change the table of connections. -/
inductive TableStep (s s' : Sender) : Prop where
  | same : s'.conns = s.conns → s'.live = s.live → TableStep s s'
  | added {c} : relive s.live .new c = some s'.live → s'.conns = s.conns ++ [c] → TableStep s s'
  | changed {id c c'} : s.conns[id]? = some c → relive s.live c c' = some s'.live →
      s'.conns = s.conns.set id c' → TableStep s s'

theorem AcquireStep.table {ctx answer pc out} (step : AcquireStep s ctx answer pc s' out) :
    TableStep s s' := by
  cases step with
  | dialed _ added =>
      obtain ⟨live, changed, rfl⟩ := Sender.addConn_cases added
      exact .added changed rfl
  | markDialFailed => split <;> exact .same rfl rfl
  | _ => exact .same rfl rfl

theorem ThreadStep.table {t t' answer} (step : ThreadStep s t answer s' t') : TableStep s s' := by
  cases step with
  | cancel => exact .same rfl rfl
  | send inner =>
      cases inner with
      | acquiring _ inner | acquireFailed _ inner | acquired _ inner => exact inner.table
      | putting _ inner | putReturned _ inner | putPanicked _ inner =>
          obtain ⟨queues, nextMsg, rfl⟩ := inner.frame
          exact .same rfl rfl
      | markReconnecting _ _ set | reconnecting _ _ _ set | reconnected _ _ _ set
      | reconnectFailed _ _ _ set | closeConn _ _ set =>
          obtain ⟨old, live, found, changed, rfl⟩ := Sender.setConn_cases set
          exact .changed found changed rfl
      | markDiscarded => split <;> exact .same rfl rfl
      | _ => exact .same rfl rfl
  | probe inner => cases inner <;> exact .same rfl rfl
  | close inner =>
      cases inner with
      | closing _ set =>
          obtain ⟨old, live, found, changed, rfl⟩ := Sender.setConn_cases set
          exact .changed found changed rfl
      | _ => exact .same rfl rfl

/-- The live handles are those in the table, each in one connection only. -/
structure Sender.Handles (s : Sender) : Prop where
  placed : ∀ handle, tally (Connection.owns handle) s.conns = s.live.count handle
  distinct : s.live.Nodup

theorem Sender.Handles.mem_live (handles : s.Handles) {id : ConnId} {c : Connection}
    {handle : Handle} (found : s.conns[id]? = some c) (own : c.handle = some handle) :
    handle ∈ s.live := by
  have counted := le_tally (Connection.owns_nonneg handle) (List.mem_of_getElem? found)
  rw [handles.placed, Connection.owns, if_pos own] at counted
  exact List.count_pos_iff.mp (by omega)

/-- Two connections never have the same handle. -/
theorem Sender.Handles.exclusive (handles : s.Handles) {i j : ConnId} {c d : Connection}
    {handle : Handle} (different : i ≠ j) (first : s.conns[i]? = some c)
    (second : s.conns[j]? = some d) (own : c.handle = some handle) : d.handle ≠ some handle := by
  intro other
  have twice := pair_le_tally (Connection.owns_nonneg handle) different first second
  have once := List.nodup_iff_count_le_one.mp handles.distinct handle
  rw [handles.placed, Connection.owns, Connection.owns, if_pos own, if_pos other] at twice
  omega

theorem TableStep.handles (step : TableStep s s') (handles : s.Handles) : s'.Handles := by
  cases step with
  | same conns live => exact ⟨by rw [conns, live]; exact handles.placed, live ▸ handles.distinct⟩
  | added changed conns =>
      refine ⟨fun handle => ?_, relive_nodup handles.distinct changed⟩
      have counts := relive_count (by simp [Connection.new]) changed handle
      have none : Connection.new.owns handle = 0 := rfl
      rw [conns, tally_append, tally_cons, tally_nil, handles.placed]
      omega
  | changed found changed conns =>
      refine ⟨fun handle => ?_, relive_nodup handles.distinct changed⟩
      have counts := relive_count (fun handle own => handles.mem_live found own) changed handle
      rw [conns, tally_set _ found, handles.placed]
      omega

end Connections

/-! ## The invariant of a running sender -/

structure PoolInv (c : SenderConfig) : Prop where
  capacity : c.shared.maxConns = c.shared.poolCap
  positive : 1 ≤ c.shared.maxConns
  sound : Sound c.shared.view (c.threads.map SenderThread.share)
  idle : ∀ conn ∈ c.shared.pool, c.shared.Connected conn
  steady : ∀ t ∈ c.threads, ∀ conn, t.steady = some conn → c.shared.Connected conn
  handles : c.shared.Handles

theorem SenderThread.share_of_steady {t : SenderThread} {conn : ConnId}
    (steady : t.steady = some conn) : t.share = .holds conn := by
  unfold SenderThread.steady at steady
  split at steady
  · rename_i call
    unfold SendPc.steady at steady
    split at steady <;> cases steady <;> simp_all [share, SendPc.share, AcquirePc.share]
  · cases steady
    rfl
  · cases steady
    rfl
  · cases steady
  · cases steady

@[simp] theorem senderProgram_start_share (r : SenderRequest) :
    (senderProgram.start r).share = .nothing := by
  cases r <;> rfl

theorem senderProgram_start_steady (r : SenderRequest) : (senderProgram.start r).steady = none := by
  cases r <;> rfl

theorem Sender.Connected.inside {s : Sender} {conn : ConnId} (connected : s.Connected conn) :
    conn < s.conns.length := by
  obtain ⟨c, found, -⟩ := connected
  exact (List.getElem?_eq_some_iff.mp found).1

theorem PoolInv.next {c c' : SenderConfig} {m : SenderMove} (inv : PoolInv c)
    (moved : senderProgram.next c m = some c') : PoolInv c' := by
  obtain ⟨r, -, rfl⟩ | ⟨i, answer, t, s, t', -, found, step, rfl⟩ := sender_cases moved
  · refine { inv with sound := ?_, steady := ?_ }
    · rw [List.map_append, List.map_singleton, senderProgram_start_share]
      exact inv.sound.enter
    · intro t member conn steady
      rcases List.mem_append.mp member with old | new
      · exact inv.steady t old conn steady
      · obtain rfl := List.mem_singleton.mp new
        rw [senderProgram_start_steady] at steady
        cases steady
  · have shareAt : (c.threads.map SenderThread.share)[i]? = some t.share := by
      simp [found]
    have settings := step.settings
    refine ⟨?_, ?_, ?_, ?_, ?_, step.table.handles inv.handles⟩
    · rw [settings.maxConns, settings.poolCap, inv.capacity]
    · rw [settings.maxConns]
      exact inv.positive
    · rw [List.map_set]
      exact inv.sound.step shareAt (step.refines inv.capacity)
    · intro conn member
      obtain old | ⟨steady, same⟩ := step.into_pool member
      · have connected := inv.idle conn old
        have other : t.share ≠ .holds conn := by
          intro holds
          exact (inv.sound.held (holds ▸ shareAt)).1 old
        exact connected.congr (step.conns_other connected.inside other)
      · exact (inv.steady t (List.mem_of_getElem? found) conn steady).congr (by rw [same])
    · apply Program.forall_threads_set
      · intro conn steady
        exact step.keeps_steady inv.idle (inv.steady t (List.mem_of_getElem? found)) steady
      · intro j u different at_j conn steady
        have connected := inv.steady u (List.mem_of_getElem? at_j) conn steady
        have holds := SenderThread.share_of_steady steady
        have other : t.share ≠ .holds conn := by
          intro same
          exact inv.sound.exclusive (Ne.symm different) (same ▸ shareAt) (by simp [at_j, holds])
        exact connected.congr (step.conns_other connected.inside other)

/-- Before the first call. -/
structure Sender.Fresh (s : Sender) : Prop where
  capacity : s.maxConns = s.poolCap
  positive : 1 ≤ s.maxConns
  pool : s.pool = []
  created : s.created = 0
  opened : s.closed = false
  unlocked : s.poolMu = false
  wg : s.wg = 0
  conns : s.conns = []
  live : s.live = []
  queues : s.queues = []
  gone : s.gone = []
  writtenOff : s.writtenOff = 0

theorem SenderOption.apply_fresh {s : Sender} (fresh : s.Fresh) (opt : SenderOption) :
    (opt.apply s).Fresh := by
  cases opt with
  | withSenderConcurrency n =>
      by_cases large : 1 ≤ n
      · rw [apply, if_pos large]
        have size : (n.toNat : Int) = n := Int.toNat_of_nonneg (by omega)
        exact { fresh with capacity := size.symm, positive := large, pool := rfl }
      · rw [apply, if_neg large]
        exact fresh

/-- Whatever options it is given, `NewSender` makes a pool of at least one place
    that can hold exactly `maxConns` connections. -/
theorem newSender_fresh (client : ClientConfig) (destinationQueue : String)
    (opts : List SenderOption) : (newSender client destinationQueue opts).Fresh := by
  have positive := client.outputConcurrency_pos
  have folds : ∀ (opts : List SenderOption) (s : Sender), s.Fresh →
      (opts.foldl SenderOption.apply s).Fresh := by
    intro opts
    induction opts with
    | nil => exact fun s fresh => fresh
    | cons opt rest ih => exact fun s fresh => ih _ (SenderOption.apply_fresh fresh opt)
  apply folds
  exact ⟨by simp only; omega, positive, rfl, rfl, rfl, rfl, rfl, rfl, rfl, rfl, rfl, rfl⟩

theorem PoolInv.start {s : Sender} (fresh : s.Fresh) : PoolInv ⟨s, []⟩ where
  capacity := fresh.capacity
  positive := fresh.positive
  sound := by
    simp only [Sender.view, fresh.pool, fresh.created, fresh.conns, fresh.gone, fresh.writtenOff]
    exact Sound.empty s.poolCap
  idle := by simp [fresh.pool]
  steady := by simp
  handles := ⟨by simp [fresh.conns, fresh.live], by simp [fresh.live]⟩

theorem PoolInv.run {s : Sender} {ms : List SenderMove} {c : SenderConfig} (fresh : s.Fresh)
    (run : senderProgram.exec ⟨s, []⟩ ms = some c) : PoolInv c := by
  have keep : ∀ c m c', PoolInv c → True → senderProgram.next c m = some c' → PoolInv c' :=
    fun _ _ _ inv _ moved => inv.next moved
  exact Program.exec_invariant keep (.start fresh) (Program.meets_true ms) run

/-! ## While only sends and health probes run -/

def SenderThread.isHolding (t : SenderThread) : Bool :=
  match t.share with
  | .holds _ => true
  | .nothing | .slot => false

/-- A slot is reserved, and its dial has not been given up or turned into a
    connection yet. -/
def SenderThread.isDialing (t : SenderThread) : Bool :=
  match t.share with
  | .slot => true
  | .nothing | .holds _ => false

theorem tally_weight_eq (threads : List SenderThread) :
    tally Share.weight (threads.map SenderThread.share) =
      threads.countP SenderThread.isHolding + threads.countP SenderThread.isDialing := by
  induction threads with
  | nil => rfl
  | cons t rest ih =>
      rw [List.map_cons, tally_cons, ih, List.countP_cons, List.countP_cons]
      cases shape : t.share <;>
        simp [SenderThread.isHolding, SenderThread.isDialing, Share.weight, shape] <;> omega

/-- No call of `close` was made, and no slot is counted without a connection. -/
structure InService (c : SenderConfig) : Prop where
  notClosing : ∀ t ∈ c.threads, ∀ pc, t ≠ .close pc
  exact_count : c.shared.writtenOff = 0

theorem AcquireStep.writtenOff {s s' : Sender} {ctx answer pc out} (step : AcquireStep s ctx answer pc s' out) :
    s'.writtenOff = s.writtenOff := by
  cases step with
  | dialed _ added =>
      obtain ⟨live, -, rfl⟩ := Sender.addConn_cases added
      rfl
  | markDialFailed => split <;> rfl
  | _ => rfl

theorem ThreadStep.writtenOff {s s' : Sender} {t t' answer} (step : ThreadStep s t answer s' t')
    (returns : answer ≠ .panics) (notClosing : ∀ pc, t ≠ .close pc) :
    s'.writtenOff = s.writtenOff ∧ ∀ pc, t' ≠ .close pc := by
  cases step with
  | cancel => exact ⟨rfl, by simp⟩
  | send inner =>
      refine ⟨?_, by simp⟩
      cases inner with
      | acquiring _ inner | acquireFailed _ inner | acquired _ inner => exact inner.writtenOff
      | putting _ inner | putReturned _ inner =>
          obtain ⟨queues, nextMsg, rfl⟩ := inner.frame
          rfl
      | putPanicked _ inner =>
          cases inner
          exact absurd rfl returns
      | markReconnecting _ _ set | reconnecting _ _ _ set | reconnected _ _ _ set
      | reconnectFailed _ _ _ set | closeConn _ _ set =>
          obtain ⟨old, live, -, -, rfl⟩ := Sender.setConn_cases set
          rfl
      | markDiscarded => split <;> rfl
      | _ => rfl
  | probe inner => exact ⟨by cases inner <;> rfl, by simp⟩
  | close => exact absurd rfl (notClosing _)

theorem InService.next {c c' : SenderConfig} {m : SenderMove} (inv : InService c)
    (allowed : m ≠ .call .close ∧ ∀ i, m ≠ .act i .panics)
    (moved : senderProgram.next c m = some c') : InService c' := by
  obtain ⟨r, rfl, rfl⟩ | ⟨i, answer, t, s, t', rfl, found, step, rfl⟩ := sender_cases moved
  · refine ⟨fun t member => ?_, inv.exact_count⟩
    rcases List.mem_append.mp member with old | new
    · exact inv.notClosing t old
    · obtain rfl := List.mem_singleton.mp new
      cases r with
      | send | health => simp [senderProgram]
      | close => exact absurd rfl allowed.1
  · have returns : answer ≠ .panics := by
      rintro rfl
      exact allowed.2 i rfl
    obtain ⟨same, own⟩ :=
      step.writtenOff returns (inv.notClosing t (List.mem_of_getElem? found))
    refine ⟨Program.forall_threads_set own ?_, same.trans inv.exact_count⟩
    intro j u _ at_j
    exact inv.notClosing u (List.mem_of_getElem? at_j)

theorem InService.run {s : Sender} {ms : List SenderMove} {c : SenderConfig} (fresh : s.Fresh)
    (noClose : .call .close ∉ ms) (returning : ∀ i, .act i .panics ∉ ms)
    (run : senderProgram.exec ⟨s, []⟩ ms = some c) : InService c := by
  have keep : ∀ c m c', InService c → (m ≠ .call .close ∧ ∀ i, m ≠ .act i .panics) →
      senderProgram.next c m = some c' → InService c' :=
    fun _ _ _ inv allowed moved => inv.next allowed moved
  refine Program.exec_invariant keep ⟨by simp, fresh.writtenOff⟩ (Program.meets_of_forall ?_) run
  intro m member
  exact ⟨fun same => noClose (same ▸ member), fun i same => returning i (same ▸ member)⟩

/-- Thread `i` works with connection `conn`. -/
def HeldBy (c : SenderConfig) (conn : ConnId) (i : Nat) : Prop :=
  ∃ t, c.threads[i]? = some t ∧ t.share = .holds conn

/-- The pool's books, who has which connection, and that giving one back never
    blocks. -/
structure PoolConserved (c : SenderConfig) : Prop where
  counted : c.shared.created = c.shared.pool.length +
    c.threads.countP SenderThread.isHolding + c.threads.countP SenderThread.isDialing
  nonneg : 0 ≤ c.shared.created
  bounded : c.shared.created ≤ c.shared.maxConns
  capacity : c.shared.maxConns = c.shared.poolCap
  pooledOnce : c.shared.pool.Nodup
  heldOnce : ∀ conn i, HeldBy c conn i →
    conn ∉ c.shared.pool ∧ ∀ j, HeldBy c conn j → j = i
  ownHandle : ∀ conn conn' i j, HeldBy c conn i → HeldBy c conn' j → i ≠ j →
    ∀ x y, c.shared.conns[conn]? = some x → c.shared.conns[conn']? = some y →
      ∀ handle, x.handle = some handle → y.handle ≠ some handle
  idleConnected : ∀ conn ∈ c.shared.pool, c.shared.Connected conn
  releases : ∀ i call conn result, c.threads[i]? = some (.send call) →
    call.pc = .release conn result → (senderProgram.next c (.act i .go)).isSome
  putsBack : ∀ i conn, c.threads[i]? = some (.probe (.putBack conn)) →
    (senderProgram.next c (.act i .go)).isSome

section Held

variable {c : SenderConfig} {conn : ConnId} {i j : Nat}

theorem HeldBy.share (held : HeldBy c conn i) :
    (c.threads.map SenderThread.share)[i]? = some (.holds conn) := by
  obtain ⟨t, found, holds⟩ := held
  simp [found, holds]

theorem PoolInv.room (inv : PoolInv c) (held : HeldBy c conn i) :
    c.shared.pool.length < c.shared.poolCap :=
  inv.sound.room held.share

theorem PoolInv.exclusive (inv : PoolInv c) (first : HeldBy c conn i)
    (second : HeldBy c conn j) : j = i := by
  by_contra different
  exact inv.sound.exclusive (Ne.symm different) first.share second.share

end Held

theorem pool_conserved (client : ClientConfig) (destinationQueue : String)
    (opts : List SenderOption) (ms : List SenderMove) (c : SenderConfig)
    (noClose : .call .close ∉ ms) (returning : ∀ i, .act i .panics ∉ ms)
    (run : senderProgram.exec ⟨newSender client destinationQueue opts, []⟩ ms = some c) :
    PoolConserved c := by
  have fresh := newSender_fresh client destinationQueue opts
  have inv := PoolInv.run fresh run
  have service := InService.run fresh noClose returning run
  constructor
  case counted =>
    have balance := inv.sound.balance
    rw [tally_weight_eq] at balance
    simp only [Sender.view, service.exact_count] at balance
    omega
  case nonneg => exact inv.sound.created_nonneg
  case bounded =>
    rw [inv.capacity]
    exact inv.sound.bounded
  case capacity => exact inv.capacity
  case pooledOnce => exact inv.sound.idle_nodup
  case heldOnce =>
    intro conn i held
    refine ⟨(inv.sound.held held.share).1, ?_⟩
    intro j also
    exact inv.exclusive held also
  case ownHandle =>
    intro conn conn' i j first second different x y atConn atConn' handle own
    refine inv.handles.exclusive ?_ atConn atConn' own
    rintro rfl
    exact different (inv.exclusive second first)
  case idleConnected => exact inv.idle
  case releases =>
    intro i call conn result found here
    have room := inv.room ⟨_, found, congrArg SendPc.share here⟩
    rw [next_send found (by simp)]
    simp [sendWithCreator, here, room]
  case putsBack =>
    intro i conn found
    have room := inv.room ⟨_, found, rfl⟩
    obtain ⟨x, atConn, -⟩ := inv.steady _ (List.mem_of_getElem? found) conn rfl
    simp [Program.next, found, senderProgram, SenderThread.step, senderHealthProber, atConn, room]

/-- Thread `i`, a new call on a sender with a free slot, dials a connection. -/
def acquiresByDial (i : Nat) (handle : Handle) : List SenderMove :=
  List.replicate 5 (.act i .go) ++
    [.act i (.loop .check), .act i (.loop (.dialed (.ok handle))), .act i .go, .act i .go]

/-- Call `i`, which has a connection and no creator, puts its message and returns. -/
def putsAndReturns (i : Nat) : List SenderMove :=
  [.act i (.opened none), .act i .go, .act i (.putOk .zero)] ++ List.replicate 3 (.act i .go)

/-- One call holds the only connection, another one waits for it. -/
theorem pool_conserved_with_waiter :
    ∃ c, senderProgram.exec ⟨newSender .minimal "ORDERS" [.withSenderConcurrency 1], []⟩
        ([.call (.send "" none true none), .call (.send "" none true none)] ++
          acquiresByDial 0 7 ++ List.replicate 5 (.act 1 .go)) = some c ∧
      c.shared.created = 1 ∧ PoolConserved c :=
  ⟨_, rfl, rfl, pool_conserved .minimal "ORDERS" [.withSenderConcurrency 1]
    ([.call (.send "" none true none), .call (.send "" none true none)] ++
      acquiresByDial 0 7 ++ List.replicate 5 (.act 1 .go)) _
    (by simp [acquiresByDial]) (by simp [acquiresByDial]) rfl⟩

end CommonsMQ
