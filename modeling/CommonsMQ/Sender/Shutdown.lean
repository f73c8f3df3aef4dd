import CommonsMQ.Lib.Gate
import CommonsMQ.Sender.Closing

/-! # Shutting a Sender down

`close` sets `closed`, waits until the sends that were admitted before have
finished, and then takes as many connections out of the pool as `created` counted
when it set the flag. A send that was admitted earlier may have dialed more
since; the result below says that `close` leaves nothing behind exactly if it has
not.
-/

namespace CommonsMQ

open Interleave BoundedPool

/-! ## Emptying the pool -/

/-- Iterations that the drain still makes, and connections it has in hand. -/
def ClosePc.progress : ClosePc → Option (ℕ × ℤ)
  | .drain left _ => some (left, 0)
  | .closing left _ _ => some (left, 1)
  | .returned _ => some (0, 0)
  | .begin | .await _ | .lockPool _ | .repeated => none

/-- Of `n` iterations each one so far has taken a connection, or there was none
    left to take. -/
def Sender.Drained (s : Sender) (n : ℤ) (pc : ClosePc) : Prop :=
  ∃ left hand, pc.progress = some (left, hand) ∧ s.writtenOff + hand + left ≤ n ∧
    (s.created = s.writtenOff + hand ∨ s.writtenOff + hand + left = n)

/-- Thread `k` empties a pool with `total` slots in `n` iterations. -/
structure Draining (n total : ℤ) (k : Nat) (c : SenderConfig) : Prop where
  created : c.shared.created = total
  place : ∃ pc, c.threads[k]? = some (.close pc) ∧ (pc = .lockPool n ∨ c.shared.Drained n pc)

section Draining

variable {c : SenderConfig} {s s' : Sender} {t t' : SenderThread} {answer : SendAnswer} {i k : Nat}
  {n total : ℤ}

theorem ShutInv.first_unique (inv : ShutInv c) {j : Nat} {u : SenderThread}
    (found : c.threads[i]? = some t) (first : t.firstClose = 1) (different : j ≠ i)
    (at_j : c.threads[j]? = some u) : u.firstClose = 0 := by
  have both := pair_le_tally SenderThread.firstClose_nonneg different.symm found at_j
  have nonneg := u.firstClose_nonneg
  rw [← inv.closed, first, flag] at both
  split at both <;> omega

/-- Whoever is neither admitted nor closing leaves the slots as they are. -/
theorem ThreadStep.bystander (step : ThreadStep s t answer s' t') (closed : s.closed = true)
    (outside : t.inFlight = 0) (notFirst : t.firstClose = 0) :
    s'.created = s.created ∧ s'.writtenOff = s.writtenOff := by
  cases step with
  | cancel => exact ⟨rfl, rfl⟩
  | send inner =>
      cases inner with
      | noDestination | resolved | rejected => exact ⟨rfl, rfl⟩
      | admitted _ opened => simp [closed] at opened
      | finish | unwound => exact ⟨rfl, rfl⟩
      | acquiring here | acquireFailed here | acquired here | putting here | putReturned here
      | putPanicked here | markReconnecting here | reconnecting here | reconnected here
      | reconnectFailed here | markReconnected here | closeConn here | uncreate here | uncount here
      | markDiscarded here | markSent here | release here =>
          simp [SenderThread.inFlight, here, SendPc.inFlight] at outside
  | probe inner => cases inner <;> exact ⟨rfl, rfl⟩
  | close inner =>
      cases inner with
      | repeated => exact ⟨rfl, rfl⟩
      | begin opened => simp [closed] at opened
      | awaited | lockPool | take | skip | closing | done => cases notFirst

/-- While `close` has the lock, nobody else holds a connection. -/
theorem ShutInv.alone (inv : ShutInv c) (waited : c.shared.wg = 0) (member : t ∈ c.threads)
    (inside : t.inPool = 1) (empty : t.share = .nothing) :
    c.shared.created = c.shared.pool.length + c.shared.writtenOff := by
  have balance := inv.pool.sound.balance
  have total := SenderThread.tally_spare c.threads
  have slack := le_tally SenderThread.spare_nonneg member
  have own : t.spare = 1 := by
    simp [SenderThread.spare, inside, empty, inv.outside waited member, Share.weight]
  have lock : tally SenderThread.inPool c.threads ≤ 1 := by
    rw [← inv.lock, flag]
    split <;> omega
  have nonneg := tally_nonneg Share.weight_nonneg (c.threads.map SenderThread.share)
  rw [← inv.wg, waited] at total
  simp only [Sender.view] at balance
  omega

theorem CloseStep.drained {pc pc' : ClosePc} (step : CloseStep s pc s' pc')
    (place : pc = .lockPool n ∨ s.Drained n pc) (nonneg : 0 ≤ n)
    (unused : pc = .lockPool n → s.writtenOff = 0)
    (alone : ∀ left errs, pc = .drain left errs → s.created = s.pool.length + s.writtenOff) :
    s'.Drained n pc' := by
  cases step with
  | repeated | begin | awaited =>
      rcases place with same | ⟨_, _, progress, -⟩
      · cases same
      · cases progress
  | lockPool =>
      rcases place with same | ⟨_, _, progress, -⟩
      · have unused := unused same
        cases same
        refine ⟨_, _, rfl, ?_, .inr ?_⟩
        · simp only
          omega
        · simp only
          omega
      · cases progress
  | take idle =>
      obtain same | ⟨_, _, progress, bound, taken⟩ := place
      · cases same
      · have alone := alone _ _ rfl
        rw [idle, List.length_cons] at alone
        cases progress
        refine ⟨_, _, rfl, ?_, .inr ?_⟩
        · simp only
          omega
        · simp only
          omega
  | skip empty =>
      obtain same | ⟨_, _, progress, bound, taken⟩ := place
      · cases same
      · have alone := alone _ _ rfl
        rw [empty, List.length_nil] at alone
        cases progress
        exact ⟨_, _, rfl, by omega, .inl (by omega)⟩
  | closing _ set =>
      obtain ⟨old, live, -, -, rfl⟩ := Sender.setConn_cases set
      obtain same | ⟨_, _, progress, bound, taken⟩ := place
      · cases same
      · cases progress
        refine ⟨_, _, rfl, ?_, ?_⟩
        · simp only
          omega
        · simp only
          omega
  | done =>
      obtain same | ⟨_, _, progress, bound, taken⟩ := place
      · cases same
      · cases progress
        exact ⟨_, _, rfl, bound, taken⟩

theorem Draining.pastWait {pc : ClosePc} (place : pc = .lockPool n ∨ s.Drained n pc) :
    (SenderThread.close pc).PastWait := by
  rcases place with rfl | ⟨left, hand, progress, -⟩
  · trivial
  · cases pc with
    | begin | await | lockPool | repeated => cases progress
    | drain | closing | returned => trivial

theorem CloseStep.created {pc pc' : ClosePc} (step : CloseStep s pc s' pc') :
    s'.created = s.created := by
  cases step with
  | closing _ set =>
      obtain ⟨old, live, -, -, rfl⟩ := Sender.setConn_cases set
      rfl
  | _ => rfl

theorem Draining.step (draining : Draining n total k c) (inv : ShutInv c) (nonneg : 0 ≤ n)
    (found : c.threads[i]? = some t) (step : ThreadStep c.shared t answer s t') :
    Draining n total k ⟨s, c.threads.set i t'⟩ := by
  obtain ⟨count, pc, at_k, place⟩ := draining
  have member := List.mem_of_getElem? at_k
  have past := Draining.pastWait place
  have first := SenderThread.firstClose_pastWait past
  have waited := inv.quiet _ member past
  by_cases same : i = k
  · subst same
    obtain rfl : SenderThread.close pc = t := by simpa [at_k] using found
    cases step with
    | close inner =>
        refine ⟨inner.created.trans count, _,
          List.getElem?_set_self (List.getElem?_eq_some_iff.mp found).1,
          .inr (inner.drained place nonneg ?_ ?_)⟩
        · rintro rfl
          apply inv.undrained
          intro u old drains
          obtain ⟨j, at_j⟩ := List.mem_iff_getElem?.mp old
          by_cases own : j = i
          · subst own
            obtain rfl := Option.some.inj (at_k.symm.trans at_j)
            exact drains
          · have second := inv.first_unique at_k first own at_j
            rw [SenderThread.firstClose_pastWait drains.pastWait] at second
            cases second
        · rintro left errs rfl
          exact inv.alone waited member rfl rfl
  · have closed := inv.closed_of_first member first
    have outside := inv.outside waited (List.mem_of_getElem? found)
    have notFirst := inv.first_unique at_k first same found
    obtain ⟨created, writtenOff⟩ := step.bystander closed outside notFirst
    refine ⟨created.trans count, pc, (List.getElem?_set_ne same).trans at_k, ?_⟩
    simpa only [Sender.Drained, created, writtenOff] using place

theorem Draining.run {c' : SenderConfig} {ms : List SenderMove} (draining : Draining n total k c)
    (inv : ShutInv c) (nonneg : 0 ≤ n) (returning : ∀ i, .act i .panics ∉ ms)
    (run : senderProgram.exec c ms = some c') : Draining n total k c' := by
  have keep : ∀ c m c', Draining n total k c ∧ ShutInv c → (∀ i, m ≠ .act i .panics) →
      senderProgram.next c m = some c' → Draining n total k c' ∧ ShutInv c' := by
    intro c m c' ⟨draining, inv⟩ allowed moved
    refine ⟨?_, inv.next allowed moved⟩
    obtain ⟨r, -, rfl⟩ | ⟨i, answer, t, s, t', -, found, step, rfl⟩ := sender_cases moved
    · obtain ⟨count, pc, at_k, place⟩ := draining
      refine ⟨count, pc, ?_, place⟩
      rw [List.getElem?_append_left (List.getElem?_eq_some_iff.mp at_k).1, at_k]
    · exact draining.step inv nonneg found step
  refine (Program.exec_invariant keep ⟨draining, inv⟩ (Program.meets_of_forall ?_) run).1
  intro m member i same
  exact returning i (same ▸ member)

/-- No slot is in use exactly if the pool is empty and nothing is checked out. -/
theorem ShutInv.nothing_left (inv : ShutInv c) :
    c.shared.created = c.shared.writtenOff ↔
      c.shared.pool = [] ∧ ∀ t ∈ c.threads, t.share = .nothing := by
  have balance := inv.pool.sound.balance
  simp only [Sender.view, tally_map] at balance
  have nonneg : ∀ t : SenderThread, 0 ≤ t.share.weight := fun t => t.share.weight_nonneg
  constructor
  · intro none
    have shares := tally_nonneg nonneg c.threads
    refine ⟨List.eq_nil_of_length_eq_zero (by omega), fun t member => ?_⟩
    have own := le_tally nonneg member
    cases share : t.share with
    | nothing => rfl
    | slot | holds =>
        rw [share, Share.weight] at own
        omega
  · rintro ⟨empty, nothing⟩
    have shares : tally (fun t : SenderThread => t.share.weight) c.threads = 0 :=
      tally_eq_zero fun t member => by rw [nothing t member]; rfl
    rw [empty, shares, List.length_nil] at balance
    omega

/-- With no slot in use, every handle has been given back. -/
theorem ShutInv.all_released (inv : ShutInv c) (none : c.shared.created = c.shared.writtenOff) :
    c.shared.live = [] := by
  obtain ⟨empty, nothing⟩ := inv.nothing_left.mp none
  have released : ∀ x ∈ c.shared.conns, x.handle = Option.none := by
    intro x member
    obtain ⟨conn, at_conn⟩ := List.mem_iff_getElem?.mp member
    have gone : conn ∈ c.shared.gone := by
      refine inv.pool.sound.gone_of_known ?_ (by simp [Sender.view, empty]) ?_
      · simpa [Sender.view] using (List.getElem?_eq_some_iff.mp at_conn).1
      · intro u held holds
        obtain ⟨t, thread, rfl⟩ := List.mem_map.mp held
        rw [nothing t thread] at holds
        cases holds
    obtain ⟨y, found, handle⟩ := inv.gone conn gone
    obtain rfl : x = y := Option.some.inj (at_conn.symm.trans found)
    exact handle
  rw [List.eq_nil_iff_forall_not_mem]
  intro handle member
  have placed := inv.pool.handles.placed handle
  rw [tally_eq_zero fun x inTable => by simp [Connection.owns, released x inTable]] at placed
  have := List.count_pos_iff.mpr member
  omega

end Draining

/-! ## Calls that come too late -/

/-- A call that was not admitted: it is on its way to the check of `closed`, or has
    returned without doing anything. -/
def Sender.Refuses (s : Sender) (call : SendCall) : Prop :=
  call.pc = .resolve ∨ call.pc = .enter ∨ call.pc = .returned (.error ErrClientClosed) ∨
    call.pc = .returned (.error noDestination) ∧ s.queue = ""

/-- How far a call is from the check of `closed`. -/
def SendPc.leftToCheck : SendPc → Nat
  | .resolve => 2
  | .enter => 1
  | _ => 0

section Late

variable {s s' : Sender} {t t' : SenderThread} {answer : SendAnswer}

theorem ThreadStep.stays_closed (step : ThreadStep s t answer s' t') (closed : s.closed = true) :
    s'.closed = true := by
  cases step with
  | cancel => exact closed
  | send inner => exact inner.counted.1.trans closed
  | probe inner => cases inner <;> exact closed
  | close inner =>
      cases inner with
      | begin => rfl
      | closing _ set =>
          obtain ⟨old, live, -, -, rfl⟩ := Sender.setConn_cases set
          exact closed
      | _ => exact closed

theorem SendStep.refuses {call call' : SendCall} (step : SendStep s call answer s' call')
    (closed : s.closed = true) (refuses : s.Refuses call) : s'.Refuses call' := by
  have outside : call.pc.inFlight = 0 := by
    rcases refuses with here | here | here | ⟨here, -⟩ <;> rw [here] <;> rfl
  cases step with
  | noDestination _ empty =>
      refine .inr (.inr (.inr ⟨rfl, ?_⟩))
      unfold Sender.destination at empty
      split at empty
      · exact empty
      · contradiction
  | resolved => exact .inr (.inl rfl)
  | rejected => exact .inr (.inr (.inl rfl))
  | admitted _ opened => simp [closed] at opened
  | acquiring here | acquireFailed here | acquired here | putting here | putReturned here
  | putPanicked here | markReconnecting here | reconnecting here | reconnected here
  | reconnectFailed here | markReconnected here | closeConn here | uncreate here | uncount here
  | markDiscarded here | markSent here | release here | finish here | unwound here =>
      rw [here] at outside
      cases outside

/-- A call that is not admitted is answered by its own next steps. -/
theorem Sender.Refuses.answers {call : SendCall} (closed : s.closed = true)
    (refuses : s.Refuses call) (left : 0 < call.pc.leftToCheck) :
    ∃ call', sendWithCreator s call .go = some (s, call') ∧
      call'.pc.leftToCheck < call.pc.leftToCheck := by
  rcases refuses with here | here | here | ⟨here, -⟩
  · simp only [sendWithCreator, here]
    split
    · exact ⟨_, rfl, by simp [SendPc.leftToCheck]⟩
    · exact ⟨_, rfl, by simp [SendPc.leftToCheck]⟩
  · exact ⟨{ call with pc := .returned (.error ErrClientClosed) },
      by simp [sendWithCreator, here, closed], by simp [here, SendPc.leftToCheck]⟩
  · simp [here, SendPc.leftToCheck] at left
  · simp [here, SendPc.leftToCheck] at left

/-- On a closed sender a call that was not admitted never will be. -/
def senderGate : Gate senderProgram where
  shut := Sender.closed
  Outside s t := ∀ call, t = .send call → s.Refuses call
  left
    | .send call => call.pc.leftToCheck
    | .probe _ | .close _ => 0
  Shuts t := ∃ pc, t = .close pc ∧ pc ≠ .begin
  start s r := by
    refine ⟨?_, ?_⟩
    · rintro call same
      cases r with
      | send =>
          cases same
          exact .inl rfl
      | health | close => cases same
    · rintro ⟨pc, same, begun⟩
      cases r with
      | send | health => cases same
      | close =>
          cases same
          exact begun rfl
  stays := by
    intro s t a s' t' started stepped closed
    obtain ⟨step, rfl⟩ := senderProgram_step stepped
    refine ⟨step.stays_closed closed, ?_, ?_, by simp⟩
    · intro u late call same
      simpa only [Sender.Refuses, step.settings.queue] using late call same
    · rintro late call rfl
      cases step with
      | cancel => exact (late _ rfl :)
      | send inner => exact inner.refuses closed (late _ rfl)
  sets := by
    intro s t a s' t' started stepped
    obtain ⟨step, rfl⟩ := senderProgram_step stepped
    refine ⟨?_, by simp⟩
    rintro ⟨pc', rfl, -⟩
    cases step with
    | close inner =>
        cases inner with
        | repeated closed => exact .inr closed
        | begin => exact .inr rfl
        | _ => exact .inl ⟨_, rfl, nofun⟩
  answers := by
    intro s t closed outside left
    cases t with
    | send call =>
        obtain ⟨call', moved, fewer⟩ := (outside call rfl).answers closed left
        exact ⟨.go, .send call', by simp [senderProgram, SenderThread.step, moved], fewer⟩
    | probe | close => simp at left

theorem senderGate_left (t : SenderThread) : senderGate.left t ≤ 2 := by
  cases t with
  | send call =>
      simp only [senderGate, SendPc.leftToCheck]
      split <;> decide
  | probe | close => exact Nat.zero_le 2

/-- With a default queue there is one answer for a call that is not admitted. -/
theorem Sender.Refuses.error {call : SendCall} {result : Except GoError String}
    (refuses : s.Refuses call) (queue : s.queue ≠ "") (returned : call.pc = .returned result) :
    result = .error ErrClientClosed := by
  rcases refuses with here | here | here | ⟨-, empty⟩
  · rw [returned] at here
    cases here
  · rw [returned] at here
    cases here
  · rw [returned] at here
    exact SendPc.returned.inj here
  · exact absurd empty queue

/-- The steps that lead a call which is not admitted to its answer. -/
theorem Sender.Refuses.returns {c : SenderConfig} {i : Nat} {call : SendCall}
    (refuses : c.shared.Refuses call) (closed : c.shared.closed = true)
    (queue : c.shared.queue ≠ "") (found : c.threads[i]? = some (.send call)) :
    ∃ (answers : List SendAnswer) (c' : SenderConfig) (call' : SendCall), answers.length ≤ 2 ∧
      senderProgram.exec c (answers.map (.act i)) = some c' ∧
      c'.threads[i]? = some (.send call') ∧ call'.pc = .returned (.error ErrClientClosed) := by
  have outside : senderGate.Outside c.shared (.send call) := by
    rintro _ ⟨⟩
    exact refuses
  obtain ⟨answers, c', short, run, t, at_i, outside', answered⟩ :=
    senderGate.answered closed found outside
  obtain ⟨call', at_i'⟩ := send_run found run
  obtain rfl : t = .send call' := by simpa [at_i] using at_i'
  refine ⟨answers, c', call', short.trans (senderGate_left _), run, at_i, ?_⟩
  rcases outside' call' rfl with here | here | here | ⟨-, empty⟩
  · simp [senderGate, here, SendPc.leftToCheck] at answered
  · simp [senderGate, here, SendPc.leftToCheck] at answered
  · exact here
  · rw [(sender_settings run).queue] at empty
    exact absurd empty queue

/-- Without a default queue, a call that names no destination fails for that
    reason, whether the sender is closed or not. -/
theorem noDestination_run {c : SenderConfig} (nowhere : c.shared.queue = "") :
    ∃ c' call, senderProgram.exec c
        [.call (.send "" none false none), .act c.threads.length .go] = some c' ∧
      c'.threads[c.threads.length]? = some (.send call) ∧
      call.pc = .returned (.error noDestination) := by
  refine ⟨⟨c.shared, c.threads ++
      [.send ⟨"", none, false, none, .returned (.error noDestination), {}, [], []⟩]⟩,
    _, ?_, List.getElem?_concat_length, rfl⟩
  simp [Program.exec, Program.next, senderProgram, SenderThread.step, sendWithCreator,
    Sender.destination, nowhere]

end Late

/-- In configuration `c`, call `i` is still to be made, or has not come to the
    check of `closed` yet. -/
def IsLater (c : SenderConfig) (i : Nat) : Prop :=
  ∀ call, c.threads[i]? = some (.send call) → call.pc = .resolve ∨ call.pc = .enter

/-- What is promised of a closed sender. -/
structure ShutdownComplete (c : SenderConfig) : Prop where
  quiet : ∀ t ∈ c.threads, t.inFlight = 0
  emptied : c.shared.pool = []
  nothingOut : ∀ t ∈ c.threads, t.share = .nothing
  allReleased : c.shared.live = []
  neverAdmits : ∀ ms c', (∀ i, .act i .panics ∉ ms) → senderProgram.exec c ms = some c' →
    ∀ t ∈ c'.threads, t.inFlight = 0
  rejects : ∀ ms c', (∀ i, .act i .panics ∉ ms) → senderProgram.exec c ms = some c' →
    ∀ i call result, IsLater c i → c'.threads[i]? = some (.send call) →
      call.pc = .returned result → result = .error ErrClientClosed
  /-- Nor does a later call block: two steps of its own bring it to that answer. -/
  answers : ∀ ms c', (∀ i, .act i .panics ∉ ms) → senderProgram.exec c ms = some c' →
    ∀ i call, IsLater c i → c'.threads[i]? = some (.send call) →
      ∃ (own : List SendAnswer) (c'' : SenderConfig) (call' : SendCall), own.length ≤ 2 ∧
        senderProgram.exec c' (own.map (.act i)) = some c'' ∧
        c''.threads[i]? = some (.send call') ∧ call'.pc = .returned (.error ErrClientClosed)

/-- `mid` is where `close`, having set the flag when `created` was `n`, comes back
    from `wg.Wait()`; `last` is where it has returned. -/
theorem shutdown_complete_iff (client : ClientConfig) (destinationQueue : String)
    (opts : List SenderOption) (before after : List SenderMove) (mid last : SenderConfig)
    (k : Nat) (n : ℤ) (err : Option GoError)
    (returning : ∀ i, .act i .panics ∉ before ++ after)
    (reached : senderProgram.exec ⟨newSender client destinationQueue opts, []⟩ before = some mid)
    (waited : mid.threads[k]? = some (.close (.lockPool n)))
    (run : senderProgram.exec mid after = some last)
    (returned : last.threads[k]? = some (.close (.returned err))) :
    ShutdownComplete last ↔ mid.shared.created ≤ n ∧ mid.shared.queue ≠ "" := by
  simp only [List.mem_append, not_or] at returning
  have fresh := newSender_fresh client destinationQueue opts
  have invMid := (ShutInv.start fresh).run (fun i => (returning i).1) reached
  have inv := invMid.run (fun i => (returning i).2) run
  have nonneg := invMid.snapshot _ (List.mem_of_getElem? waited) n (.inr rfl)
  have begun : Draining n mid.shared.created k mid := ⟨rfl, _, waited, .inl rfl⟩
  have drained := begun.run invMid nonneg (fun i => (returning i).2) run
  have settings := sender_settings run
  have closed := inv.closed_of_first (List.mem_of_getElem? returned) rfl
  -- nothing is left in the books exactly if the drain made enough iterations
  have enough : last.shared.created = last.shared.writtenOff ↔ mid.shared.created ≤ n := by
    obtain ⟨count, pc, at_k, place⟩ := drained
    obtain rfl : ClosePc.returned err = pc := by simpa [returned] using at_k
    obtain same | ⟨_, _, progress, bound, taken⟩ := place
    · cases same
    · cases progress
      have balance := inv.pool.sound.balance
      have shares := tally_nonneg Share.weight_nonneg (last.threads.map SenderThread.share)
      simp only [Sender.view] at balance
      omega
  constructor
  · intro complete
    refine ⟨enough.mp (inv.nothing_left.mpr ⟨complete.emptied, complete.nothingOut⟩), ?_⟩
    intro empty
    -- a call without a destination is refused for that, not because of the close
    obtain ⟨c', call, later, found, here⟩ := noDestination_run (settings.queue.trans empty)
    have refused := complete.rejects _ c' (by simp) later _ call _ (by simp [IsLater]) found here
    cases refused
  · rintro ⟨few, queue⟩
    have none := enough.mpr few
    have still : ∀ ms c', (∀ i, .act i .panics ∉ ms) → senderProgram.exec last ms = some c' →
        ∀ t ∈ c'.threads, t.inFlight = 0 := by
      intro ms c' creators later t member
      obtain ⟨-, pc, at_k, place⟩ := drained.run inv nonneg creators later
      have inv' := inv.run creators later
      exact inv'.outside (inv'.quiet _ (List.mem_of_getElem? at_k) (Draining.pastWait place)) member
    obtain ⟨emptied, nothingOut⟩ := inv.nothing_left.mp none
    -- whoever comes later is turned away, in every state from here on
    have outside : ∀ ms c' i call, senderProgram.exec last ms = some c' → IsLater last i →
        c'.threads[i]? = some (.send call) →
        c'.shared.closed = true ∧ c'.shared.Refuses call ∧ c'.shared.queue ≠ "" := by
      intro ms c' i call later isLater found
      have shut : senderGate.ClosedTo (· = i) last := by
        refine ⟨closed, ?_⟩
        rintro j t rfl at_i call rfl
        exact (isLater call at_i).imp_right .inl
      obtain ⟨stillClosed, away⟩ := shut.run senderGate later
      refine ⟨stillClosed, away i _ rfl found call rfl, ?_⟩
      rw [(sender_settings later).queue, settings.queue]
      exact queue
    refine ⟨still [] last (by simp) rfl, emptied, nothingOut, inv.all_released none, still, ?_, ?_⟩
    · intro ms c' _ later i call result isLater found returned
      obtain ⟨-, refuses, named⟩ := outside ms c' i call later isLater found
      exact refuses.error named returned
    · intro ms c' _ later i call isLater found
      obtain ⟨shut, refuses, named⟩ := outside ms c' i call later isLater found
      exact refuses.returns shut named found

/-- A close that is called when the only send has returned leaves nothing behind. -/
theorem shutdown_complete_after_send :
    ∃ mid last,
      senderProgram.exec ⟨newSender .minimal "ORDERS" [], []⟩
        (.call (.send "" none false none) :: acquiresByDial 0 7 ++ putsAndReturns 0 ++
          [.call .close, .act 1 .go, .act 1 .go]) = some mid ∧
      senderProgram.exec mid [.act 1 .go, .act 1 .go, .act 1 (.disced none), .act 1 .go] =
        some last ∧ ShutdownComplete last :=
  ⟨_, _, rfl, rfl, (shutdown_complete_iff .minimal "ORDERS" []
    (.call (.send "" none false none) :: acquiresByDial 0 7 ++ putsAndReturns 0 ++
      [.call .close, .act 1 .go, .act 1 .go])
    [.act 1 .go, .act 1 .go, .act 1 (.disced none), .act 1 .go] _ _ 1 1 none
    (by simp [acquiresByDial, putsAndReturns]) rfl rfl rfl rfl).mpr ⟨by decide, by decide⟩⟩

/-- A send is admitted, `close` reads `created = 0`, the send dials and returns its
    connection to the pool, and `close` makes no iteration at all. -/
theorem late_dial_outlives_close :
    ∃ last, senderProgram.exec ⟨newSender .minimal "ORDERS" [], []⟩
        ([.call (.send "" none false none), .call .close, .act 0 .go, .act 0 .go, .act 1 .go] ++
          (acquiresByDial 0 7).drop 2 ++ putsAndReturns 0 ++ List.replicate 3 (.act 1 .go)) =
        some last ∧
      last.threads[1]? = some (.close (.returned none)) ∧ last.shared.live = [7] ∧
      ¬ShutdownComplete last := by
  refine ⟨_, rfl, rfl, rfl, fun complete => ?_⟩
  have released := complete.allReleased
  cases released

end CommonsMQ
