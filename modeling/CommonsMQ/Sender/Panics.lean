import CommonsMQ.Sender.Closing

/-! # Sends whose creator panics

`SendWithCreator` hands its connection back on each of its return paths, and a panic
takes none of them: only `wg.Done` is deferred. The slot then stays counted for good,
so the books of the pool are off by exactly the number of panics.
-/

namespace CommonsMQ

open Interleave BoundedPool

def isPanic : SenderMove → Bool
  | .act _ .panics => true
  | _ => false

theorem isPanic_iff {m : SenderMove} : isPanic m = true ↔ ∃ i, m = .act i .panics := by
  constructor
  · intro panic
    unfold isPanic at panic
    split at panic
    · exact ⟨_, rfl⟩
    · cases panic
  · rintro ⟨i, rfl⟩
    rfl

theorem sendWithCreator_panics {s s' : Sender} {call call' : SendCall}
    (h : sendWithCreator s call .panics = some (s', call')) :
    s'.writtenOff = s.writtenOff + 1 := by
  cases here : call.pc with
  | put conn retry pc =>
      cases pc with
      | runCreator =>
          cases creator : call.hasCreator with
          | false => simp [sendWithCreator, here, put, creator] at h
          | true =>
              simp only [sendWithCreator, here, put, creator, if_true] at h
              obtain ⟨rfl, rfl⟩ := h
              rfl
      | openQueue | mqput => simp [sendWithCreator, here, put] at h
  | acquire pc => cases pc <;> simp [sendWithCreator, here, acquireConn] at h
  | _ => simp [sendWithCreator, here] at h

/-- Only a send can panic, and its slot is lost. -/
theorem senderProgram_panics {s s' : Sender} {t t' : SenderThread} {started}
    (h : senderProgram.step s t .panics = some (s', t', started)) :
    s'.writtenOff = s.writtenOff + 1 ∧ ∀ pc, t' ≠ .close pc := by
  obtain ⟨⟨s', t'⟩, moved, same⟩ := Option.map_eq_some_iff.mp h
  obtain ⟨rfl, rfl, rfl⟩ := same
  cases t with
  | send call =>
      obtain ⟨⟨s', call'⟩, sent, same⟩ := Option.map_eq_some_iff.mp moved
      obtain ⟨rfl, rfl⟩ := same
      exact ⟨sendWithCreator_panics sent, by simp⟩
  | probe pc => cases pc <;> simp [SenderThread.step, senderHealthProber] at moved
  | close pc => cases pc <;> simp [SenderThread.step, closeSender] at moved

/-- The slots written off are the panics. -/
structure PanicsCounted (past : List SenderMove) (c : SenderConfig) : Prop where
  notClosing : ∀ t ∈ c.threads, ∀ pc, t ≠ .close pc
  lost : c.shared.writtenOff = past.countP isPanic

theorem PanicsCounted.next {past : List SenderMove} {c c' : SenderConfig} {m : SenderMove}
    (inv : PanicsCounted past c) (opened : m ≠ .call .close)
    (moved : senderProgram.next c m = some c') : PanicsCounted (past ++ [m]) c' := by
  obtain ⟨r, rfl, rfl⟩ | ⟨i, a, t, s, t', started, rfl, found, stepped, rfl⟩ :=
    Program.next_cases moved
  · refine ⟨Program.forall_threads_call inv.notClosing ?_, ?_⟩
    · cases r with
      | send | health => simp [senderProgram]
      | close => exact absurd rfl opened
    · simpa [isPanic] using inv.lost
  · obtain ⟨step, rfl⟩ := senderProgram_step stepped
    have before := inv.notClosing t (List.mem_of_getElem? found)
    have change : s.writtenOff = c.shared.writtenOff + [Move.act i a].countP isPanic ∧
        ∀ pc, t' ≠ .close pc := by
      by_cases panics : a = .panics
      · subst panics
        exact senderProgram_panics stepped
      · obtain ⟨same, own⟩ := step.writtenOff panics before
        have none : isPanic (.act i a) = false := by
          rw [Bool.eq_false_iff, ne_eq, isPanic_iff]
          rintro ⟨j, here⟩
          cases here
          exact panics rfl
        exact ⟨by simp [same, none], own⟩
    rw [List.append_nil]
    refine ⟨Program.forall_threads_set change.2 ?_, ?_⟩
    · intro j u _ at_j
      exact inv.notClosing u (List.mem_of_getElem? at_j)
    · rw [change.1, inv.lost, List.countP_append]
      push_cast
      rfl

theorem PanicsCounted.run {s : Sender} {ms : List SenderMove} {c : SenderConfig} (fresh : s.Fresh)
    (noClose : .call .close ∉ ms) (run : senderProgram.exec ⟨s, []⟩ ms = some c) :
    PanicsCounted ms c := by
  have allowed : Program.AllowedAfter (fun _ m => m ≠ .call .close) [] ms :=
    Program.allowedAfter_of_forall [] fun m member same => noClose (same ▸ member)
  exact Program.exec_history (fun _ _ _ _ inv opened moved => inv.next opened moved)
    ⟨by simp, fresh.writtenOff⟩ allowed run

/-- Every slot that is counted is in use, and every connection is pooled, in use or
    given back to the queue manager. -/
structure NothingLeaked (c : SenderConfig) : Prop where
  counted : c.shared.created = c.shared.pool.length +
    c.threads.countP SenderThread.isHolding + c.threads.countP SenderThread.isDialing
  placed : ∀ conn < c.shared.conns.length,
    conn ∈ c.shared.pool ∨ (∃ i, HeldBy c conn i) ∨ c.shared.Released conn
  capacity : (c.shared.pool.length + c.threads.countP SenderThread.isHolding +
    c.threads.countP SenderThread.isDialing : ℤ) < c.shared.maxConns →
      c.shared.created < c.shared.maxConns

theorem ShutInv.placed {c : SenderConfig} (inv : ShutInv c) {conn : ConnId}
    (made : conn < c.shared.conns.length) :
    conn ∈ c.shared.pool ∨ (∃ i, HeldBy c conn i) ∨ c.shared.Released conn := by
  by_contra outside
  push Not at outside
  obtain ⟨notIdle, notHeld, held⟩ := outside
  refine held (inv.gone conn (inv.pool.sound.gone_of_known ?_ notIdle ?_))
  · simpa [Sender.view] using made
  · intro u member holds
    obtain ⟨t, thread, rfl⟩ := List.mem_map.mp member
    obtain ⟨i, at_i⟩ := List.mem_iff_getElem?.mp thread
    exact notHeld i ⟨t, at_i, holds⟩

/-- The pool gets back all that it lent exactly if no creator panics. -/
theorem nothing_leaked_iff (client : ClientConfig) (destinationQueue : String)
    (opts : List SenderOption) (ms : List SenderMove) (c : SenderConfig)
    (noClose : .call .close ∉ ms)
    (run : senderProgram.exec ⟨newSender client destinationQueue opts, []⟩ ms = some c) :
    NothingLeaked c ↔ ∀ i, .act i .panics ∉ ms := by
  have fresh := newSender_fresh client destinationQueue opts
  have panics := PanicsCounted.run fresh noClose run
  have balance := (PoolInv.run fresh run).sound.balance
  rw [tally_weight_eq] at balance
  simp only [Sender.view, panics.lost] at balance
  constructor
  · intro kept i member
    have counted := kept.counted
    have one : 0 < ms.countP isPanic := List.countP_pos_iff.mpr ⟨_, member, rfl⟩
    omega
  · intro returning
    have inv := (ShutInv.start fresh).run returning run
    have none : ms.countP isPanic = 0 := by
      rw [List.countP_eq_zero]
      intro m member panic
      obtain ⟨i, rfl⟩ := isPanic_iff.mp panic
      exact returning i member
    exact ⟨by omega, fun conn made => inv.placed made, fun room => by omega⟩

/-- Call `0` connects, and its creator refuses. -/
def creatorRefuses : List SenderMove :=
  .call (.send "" none true none) :: acquiresByDial 0 7 ++
    [.act 0 (.opened none), .act 0 (.created (.error (.plain "no order"))), .act 0 .go, .act 0 .go]

theorem nothing_leaked_after_refusal : ∃ c,
    senderProgram.exec ⟨newSender .minimal "ORDERS" [.withSenderConcurrency 1], []⟩
        creatorRefuses = some c ∧ c.shared.pool = [0] ∧ NothingLeaked c := by
  obtain ⟨c, run, pool⟩ : ∃ c,
      senderProgram.exec ⟨newSender .minimal "ORDERS" [.withSenderConcurrency 1], []⟩
        creatorRefuses = some c ∧ c.shared.pool = [0] := ⟨_, rfl, rfl⟩
  have kept := nothing_leaked_iff .minimal "ORDERS" [.withSenderConcurrency 1] creatorRefuses c
    (by simp [creatorRefuses, acquiresByDial]) run
  exact ⟨c, run, pool, kept.mpr (by simp [creatorRefuses, acquiresByDial])⟩

/-- Call `0` connects, its creator panics, and the panic is recovered. -/
def creatorPanics : List SenderMove :=
  .call (.send "" none true none) :: acquiresByDial 0 7 ++
    [.act 0 (.opened none), .act 0 .panics, .act 0 .go]

/-- With room for one connection, the next send waits for good: nobody has a connection
    that could be given back, and no more can be made. -/
theorem panic_starves_next_send : ∃ c call next,
    senderProgram.exec ⟨newSender .minimal "ORDERS" [.withSenderConcurrency 1], []⟩
        (creatorPanics ++ .call (.send "" none true none) :: List.replicate 5 (.act 1 .go)) =
        some c ∧
      c.threads = [.send call, .send next] ∧ call.pc = .panicked ∧ next.pc = .acquire .await ∧
      c.shared.created = 1 ∧ c.shared.maxConns = 1 ∧ c.shared.pool = [] ∧ c.shared.live = [7] ∧
      c.threads.countP SenderThread.isHolding = 0 ∧
      c.threads.countP SenderThread.isDialing = 0 ∧ ¬NothingLeaked c := by
  refine ⟨_, _, _, rfl, rfl, rfl, rfl, rfl, rfl, rfl, rfl, rfl, rfl, fun kept => ?_⟩
  exact absurd kept.counted (by decide)

end CommonsMQ
