import CommonsMQ.RequestReply.Steps

/-! # Calls in flight on a request-reply client

Every connection belongs to one call, from its dial to its deferred `Close`. `Close`
on the client waits for none of them: it only keeps later calls out.
-/

namespace CommonsMQ

open Interleave

/-- Past the check of `closed`, and not returned. -/
def RRPc.inside : RRPc → Bool
  | .checkCtx | .checkClosed | .returned _ | .panicked => false
  | .dial | .markDialFailed _ | .fixed _ | .temp _ | .record _ | .closeConn _ => true

/-- Between the dial and the deferred `Close`. -/
def RRPc.attached : RRPc → Bool
  | .fixed _ | .temp _ | .record _ | .closeConn _ => true
  | .checkCtx | .checkClosed | .dial | .markDialFailed _ | .returned _ | .panicked => false

namespace RRThread

def inside : RRThread → Bool
  | .call running => running.pc.inside
  | .probe _ | .close _ => false

def owns (handle : Handle) : RRThread → ℤ
  | .call running => running.conn.owns handle
  | .probe _ | .close _ => 0

theorem owns_nonneg (handle : Handle) (t : RRThread) : 0 ≤ t.owns handle := by
  cases t with
  | call running => exact running.conn.owns_nonneg handle
  | probe | close => exact le_rfl

end RRThread

/-- Each live handle is the connection of one call. -/
structure RequestsLive (c : RRConfig) : Prop where
  placed : ∀ handle, (c.shared.live.count handle : ℤ) = tally (RRThread.owns handle) c.threads
  detached : ∀ call, .call call ∈ c.threads → call.pc.attached = false → call.conn.handle = none

section Step

variable {r r' : RequestReplyClient} {call call' : RRCall} {pc : RRPc} {answer : RRAnswer}

theorem flow_attached {π : Type} {inside : π → RRPc} (out : FlowOutcome π)
    (attached : ∀ pc, (inside pc).attached = true) : (out.next inside).attached = true := by
  cases out with
  | running pc => exact attached pc
  | returned | panicked => rfl

theorem RequestStep.detached (step : RequestStep r call pc answer r' call')
    (before : pc.attached = false → call.conn.handle = none) :
    call'.pc.attached = false → call'.conn.handle = none := by
  cases step with
  | done | live | refused | passed | dialFailed | markDialFailed => exact fun _ => before rfl
  | closed | unwound => exact fun _ => rfl
  | recorded => exact nofun
  | dialed =>
      intro detached
      simp only [RequestReplyClient.flow] at detached
      split at detached <;> cases detached
  | @fixed _ _ _ out =>
      have attached : (out.next .fixed).attached = true := flow_attached out fun _ => rfl
      simp [attached]
  | @temp _ _ _ out =>
      have attached : (out.next .temp).attached = true := flow_attached out fun _ => rfl
      simp [attached]

theorem RequestReplyClient.recordResult_live (r : RequestReplyClient)
    (result : Except GoError (Message Bytes)) : (r.recordResult result).live = r.live := by
  cases result with
  | ok => rfl
  | error err =>
      simp only [recordResult]
      split <;> rfl

theorem RequestStep.owned (step : RequestStep r call pc answer r' call')
    (own : ∀ handle, call.conn.handle = some handle → handle ∈ r.live) (handle : Handle) :
    (r'.live.count handle : ℤ) =
      r.live.count handle + call'.conn.owns handle - call.conn.owns handle := by
  cases step with
  | dialed _ changed | closed changed | unwound changed => exact relive_count own changed handle
  | recorded => simp [r.recordResult_live]
  | _ => simp [RequestReplyClient.recordState]

/-- Once `closed` is set, nobody comes in. -/
theorem RequestStep.stays_outside (step : RequestStep r call pc answer r' call')
    (closed : r.closed = true) (outside : pc.inside = false) : call'.pc.inside = false := by
  cases step with
  | done | live | refused => rfl
  | passed opened => simp [closed] at opened
  | dialFailed | dialed | markDialFailed | fixed | temp | recorded | closed | unwound =>
      cases outside

end Step

namespace RequestsLive

variable {c c' : RRConfig}

theorem own (inv : RequestsLive c) {call : RRCall} (member : .call call ∈ c.threads)
    {handle : Handle} (has : call.conn.handle = some handle) : handle ∈ c.shared.live := by
  have below := le_tally (RRThread.owns_nonneg handle) member
  have one : (RRThread.call call).owns handle = 1 := by
    simp [RRThread.owns, Connection.owns, has]
  rw [← inv.placed, one] at below
  exact List.count_pos_iff.mp (by omega)

theorem act (inv : RequestsLive c) {i : Nat} {t t' : RRThread} {r : RequestReplyClient}
    {answer : RRAnswer} (found : c.threads[i]? = some t) (step : RRStep c.shared t answer r t') :
    RequestsLive ⟨r, c.threads.set i t'⟩ := by
  have member := List.mem_of_getElem? found
  have others : ∀ j u, j ≠ i → c.threads[j]? = some u → ∀ call, u = .call call →
      call.pc.attached = false → call.conn.handle = none := by
    rintro j u - at_j call rfl
    exact inv.detached call (List.mem_of_getElem? at_j)
  have placed : ∀ handle, (r.live.count handle : ℤ) =
      c.shared.live.count handle + (t'.owns handle - t.owns handle) := by
    intro handle
    cases step with
    | cancelled => simp [RRThread.owns]
    | called inner =>
        have moved := (requestReplyWithCreator_step inner).owned
          (fun handle has => inv.own member has) handle
        simp only [RRThread.owns]
        omega
    | probed => simp [RRThread.owns]
    | closed => simp [RRThread.owns]
  have detached : ∀ u ∈ c.threads.set i t', ∀ call, u = .call call →
      call.pc.attached = false → call.conn.handle = none := by
    refine Program.forall_threads_set ?_ others
    rintro call rfl
    cases step with
    | cancelled => exact (inv.detached _ member :)
    | called inner => exact (requestReplyWithCreator_step inner).detached (inv.detached _ member)
  refine ⟨fun handle => ?_, fun call there => detached _ there call rfl⟩
  rw [placed, tally_set _ found, inv.placed]

theorem next (inv : RequestsLive c) {m : RRMove} (moved : requestReplyProgram.next c m = some c') :
    RequestsLive c' := by
  obtain ⟨request, -, rfl⟩ | ⟨i, a, t, r, t', started, -, found, stepped, rfl⟩ :=
    Program.next_cases moved
  · constructor
    · intro handle
      rw [tally_append, inv.placed]
      cases request <;> simp [requestReplyProgram, RRThread.owns, Connection.owns, Connection.new]
    · intro call member
      rcases List.mem_append.mp member with old | new
      · exact inv.detached call old
      · cases request with
        | requestReply =>
            cases List.mem_singleton.mp new
            exact fun _ => rfl
        | health | close => cases List.mem_singleton.mp new
  · obtain ⟨step, rfl⟩ := requestReplyProgram_step stepped
    rw [List.append_nil]
    exact inv.act found step

theorem run {r : RequestReplyClient} {ms : List RRMove} (fresh : r.live = [])
    (run : requestReplyProgram.exec ⟨r, []⟩ ms = some c) : RequestsLive c :=
  Program.exec_invariant (fun _ _ _ inv _ moved => inv.next moved)
    ⟨by simp [fresh], by simp⟩ (Program.meets_true ms) run

end RequestsLive

/-- Nothing is left of the calls on a request-reply client, and none can dial. -/
structure RRQuiet (c : RRConfig) : Prop where
  finished : ∀ t ∈ c.threads, t.inside = false
  released : c.shared.live = []
  noDial : ∀ i answer, requestReplyProgram.next c (.act i (.dialed answer)) = none

/-- Closed, with nobody inside: this stays so. -/
def Emptied (c : RRConfig) : Prop :=
  c.shared.closed = true ∧ ∀ t ∈ c.threads, t.inside = false

section Quiet

variable {c c' : RRConfig}

theorem Emptied.next (emptied : Emptied c) {m : RRMove}
    (moved : requestReplyProgram.next c m = some c') : Emptied c' := by
  obtain ⟨closed, outside⟩ := emptied
  obtain ⟨request, -, rfl⟩ | ⟨i, a, t, r, t', started, -, found, stepped, rfl⟩ :=
    Program.next_cases moved
  · exact ⟨closed, Program.forall_threads_call outside (by cases request <;> rfl)⟩
  · obtain ⟨step, rfl⟩ := requestReplyProgram_step stepped
    have here := outside t (List.mem_of_getElem? found)
    have others : ∀ j u, j ≠ i → c.threads[j]? = some u → u.inside = false :=
      fun j u _ at_j => outside u (List.mem_of_getElem? at_j)
    rw [List.append_nil]
    cases step with
    | cancelled => exact ⟨closed, Program.forall_threads_set here others⟩
    | called inner =>
        have inner := requestReplyWithCreator_step inner
        exact ⟨inner.closed_eq.trans closed,
          Program.forall_threads_set (inner.stays_outside closed here) others⟩
    | probed => exact ⟨closed, Program.forall_threads_set rfl others⟩
    | closed => exact ⟨rfl, Program.forall_threads_set rfl others⟩

theorem RequestsLive.quiet (inv : RequestsLive c) (finished : ∀ t ∈ c.threads, t.inside = false) :
    RRQuiet c := by
  refine ⟨finished, List.eq_nil_iff_forall_not_mem.mpr fun handle member => ?_, ?_⟩
  · have none : tally (RRThread.owns handle) c.threads = 0 := by
      apply tally_eq_zero
      intro t there
      cases t with
      | call running =>
          have outside := finished _ there
          have detached : running.pc.attached = false := by
            cases here : running.pc <;> simp_all [RRThread.inside, RRPc.inside, RRPc.attached]
          simp [RRThread.owns, Connection.owns, inv.detached running there detached]
      | probe | close => rfl
    have positive := List.count_pos_iff.mpr member
    have placed := inv.placed handle
    omega
  · intro i answer
    by_contra enabled
    obtain ⟨c', moved⟩ := Option.ne_none_iff_exists'.mp enabled
    obtain ⟨request, same, -⟩ | ⟨j, a, t, r, t', started, same, found, stepped, -⟩ :=
      Program.next_cases moved
    · cases same
    · cases same
      have outside := finished t (List.mem_of_getElem? found)
      cases t with
      | call running =>
          obtain ⟨step, -⟩ := requestReplyProgram_step stepped
          cases step with
          | called inner =>
              have inner := requestReplyWithCreator_step inner
              simp only [RRThread.inside] at outside
              generalize running.pc = pc at inner outside
              cases inner <;> cases outside
      | probe details => simp [requestReplyProgram, RRThread.step] at stepped
      | close returned => simp [requestReplyProgram, RRThread.step] at stepped

end Quiet

end CommonsMQ
