import CommonsMQ.RequestReply.Steps

/-! # Callers and responders on one queue manager

Any number of fixed-queue calls and of responders share the queues. Beside what MQ
stores, a message records whose request it is or answers; neither the code nor the
queue manager looks at that. Every message is traced to a call that has settled on
the key it is stamped with, so while keys are distinct a get by key finds only what
belongs to the caller.
-/

namespace CommonsMQ

open Interleave

/-- Calls are told apart by a ticket. -/
inductive Origin where
  | request (ticket : Nat)
  | reply (ticket : Nat)

def Origin.ticket : Origin → Nat
  | .request ticket | .reply ticket => ticket

structure Posted where
  queued : Queued
  origin : Origin

structure Queues where
  posted : List Posted := []
  tickets : Nat := 0

namespace Queues

def post (q : Queues) (origin : Origin) (put : Option Queued) : Queues :=
  { q with posted := q.posted ++ put.toList.map fun queued => ⟨queued, origin⟩ }

def remove (q : Queues) (n : Nat) : Queues := { q with posted := q.posted.eraseIdx n }

end Queues

/-- `MQMO_MATCH_CORREL_ID`: a filter of zeros matches every message. -/
def matchesCorrelId (filter : MsgId) (md : MQMD) : Prop :=
  filter = .zero ∨ md.correlId = filter

instance (filter : MsgId) (md : MQMD) : Decidable (matchesCorrelId filter md) :=
  inferInstanceAs (Decidable (_ ∨ _))

/-- A call of `requestReplyViaFixedQueue`, with what it stamped on its request, the
    filter of its get and the messages this get removed. -/
structure FixedCall where
  spec : RequestSpec
  replyQueue : String
  ticket : Nat
  pc : FlowOutcome FixedPc := .running .generate
  key : Option MsgId := none
  stamped : Option MsgId := none
  filter : Option MsgId := none
  taken : List Posted := []

/-- A handler that answers with a `Sender`; `held` is the message it was given. -/
structure Responder where
  cfg : Config
  queue : String
  held : Option Posted := none

inductive RouteThread where
  | entering (spec : RequestSpec) (replyQueue : String)
  | call (call : FixedCall)
  | responder (r : Responder)

inductive RouteRequest where
  | call (spec : RequestSpec) (replyQueue : String)
  | serve (cfg : Config) (queue : String)

inductive RouteAnswer where
  | enter
  | flow (answer : RRAnswer)
  /-- `MQGET` returns the message at a position. -/
  | take (n : Nat)
  /-- `MQGET` fails, and may have removed a message all the same. -/
  | fail (err : GoError) (lost : Option Nat)
  | receive (n : Nat)
  | respond (destination : String) (reply : Message Bytes) (id : MsgId)
  | finish

def FlowOutcome.key : FlowOutcome FixedPc → Option MsgId
  | .running pc => pc.key
  | .returned _ | .panicked => none

namespace FixedCall

def advance (call : FixedCall) (put : Option Queued) (out : FlowOutcome FixedPc) : FixedCall :=
  { call with
    pc := out
    key := call.key.or out.key
    stamped := call.stamped.or (put.map fun queued => queued.md.correlId) }

/-- What a get by `filter` may remove from the reply queue. -/
def mayTake (call : FixedCall) (q : Queues) (filter : MsgId) (n : Nat) : Option Posted :=
  (q.posted[n]?).filter fun p =>
    p.queued.queue = call.replyQueue ∧ matchesCorrelId filter p.queued.md

def gets (call : FixedCall) (filter : MsgId) (p : Option Posted) (out : FlowOutcome FixedPc) :
    FixedCall :=
  { call.advance none out with filter := some filter, taken := call.taken ++ p.toList }

def step (q : Queues) (call : FixedCall) : RouteAnswer → Option (Queues × FixedCall)
  | .flow answer =>
      match call.pc with
      | .running (.get _ _) => none
      | .running pc =>
          match requestReplyViaFixedQueue call.spec call.replyQueue pc answer with
          | none => none
          | some (put, out) => some (q.post (.request call.ticket) put, call.advance put out)
      | _ => none
  | .take n =>
      match call.pc with
      | .running (.get key wait) =>
          match call.mayTake q key n with
          | none => none
          | some p =>
              match requestReplyViaFixedQueue call.spec call.replyQueue (.get key wait)
                (.got p.queued.md p.queued.body) with
              | none => none
              | some (_, out) => some (q.remove n, call.gets key (some p) out)
      | _ => none
  | .fail err lost =>
      match call.pc with
      | .running (.get key wait) =>
          match requestReplyViaFixedQueue call.spec call.replyQueue (.get key wait)
            (.getFailed err) with
          | none => none
          | some (_, out) =>
              match lost with
              | none => some (q, call.gets key none out)
              | some n => (call.mayTake q key n).map fun p =>
                  (q.remove n, call.gets key (some p) out)
      | _ => none
  | _ => none

end FixedCall

/-- `Listener` hands over what `messageFromMQMD` makes of a message; the reply gets the
    request's correlation ID and leaves as `Sender.put` sends it. -/
def Responder.step (q : Queues) (r : Responder) : RouteAnswer → Option (Queues × Responder)
  | .receive n =>
      match r.held, (q.posted[n]?).filter fun p => p.queued.queue = r.queue with
      | none, some p => some (q.remove n, { r with held := some p })
      | _, _ => none
  | .respond destination reply id =>
      r.held.map fun p =>
        let request := messageFromMQMD p.queued.md p.queued.body
        let reply := { reply with correlationID := request.correlationID }
        (q.post (.reply p.origin.ticket)
          (some ⟨destination, { putDescriptor r.cfg reply with msgId := id }, reply.body⟩), r)
  | .finish => some (q, { r with held := none })
  | _ => none

def RouteThread.step (q : Queues) : RouteThread → RouteAnswer → Option (Queues × RouteThread)
  | .entering spec replyQueue, .enter =>
      some ({ q with tickets := q.tickets + 1 }, .call { spec, replyQueue, ticket := q.tickets })
  | .entering _ _, _ => none
  | .call running, answer => (running.step q answer).map fun s => (s.1, .call s.2)
  | .responder r, answer => (r.step q answer).map fun s => (s.1, .responder s.2)

abbrev RouteConfig := Interleave.Config Queues RouteThread

def routeProgram : Program Queues RouteRequest RouteThread RouteAnswer where
  start
    | .call spec replyQueue => .entering spec replyQueue
    | .serve cfg queue => .responder { cfg, queue }
  step q t answer := (t.step q answer).map fun s => (s.1, s.2, [])

/-! ## One call -/

inductive CallStep (q : Queues) (call : FixedCall) : Queues → FixedCall → Prop where
  | flow {pc answer put out} : call.pc = .running pc → (∀ key wait, pc ≠ .get key wait) →
      FixedStep call.spec call.replyQueue pc answer put out →
      CallStep q call (q.post (.request call.ticket) put) (call.advance put out)
  | took {key wait n p} : call.pc = .running (.get key wait) → call.mayTake q key n = some p →
      CallStep q call (q.remove n) (call.gets key (some p)
        (.returned (.ok (messageFromMQMD p.queued.md p.queued.body))))
  | lost {key wait n p err} : call.pc = .running (.get key wait) →
      call.mayTake q key n = some p →
      CallStep q call (q.remove n) (call.gets key (some p) (.returned (.error err)))
  | missed {key wait err} : call.pc = .running (.get key wait) →
      CallStep q call q (call.gets key none (.returned (.error err)))

theorem FixedStep.get_fails {spec replyQueue key wait err put out}
    (step : FixedStep spec replyQueue (.get key wait) (.getFailed err) put out) :
    ∃ failure, out = .returned (.error failure) := by
  cases step with
  | failed => exact ⟨_, rfl⟩
  | getFailed => exact ⟨_, rfl⟩

theorem FixedCall.step_cases {q q' : Queues} {call call' : FixedCall} {answer}
    (h : call.step q answer = some (q', call')) : CallStep q call q' call' := by
  unfold step at h
  split at h
  · split at h
    · simp at h
    · rename_i atPc
      split at h
      · simp at h
      · rename_i moved
        obtain ⟨rfl, rfl⟩ := Prod.mk.inj (Option.some.inj h)
        exact .flow atPc (by simp_all) (requestReplyViaFixedQueue_step moved)
    · simp at h
  · split at h
    · rename_i atPc
      split at h
      · simp at h
      · rename_i found
        split at h
        · simp at h
        · rename_i moved
          obtain ⟨rfl, rfl⟩ := Prod.mk.inj (Option.some.inj h)
          cases requestReplyViaFixedQueue_step moved with
          | failed early => cases early
          | got => exact .took atPc found
    · simp at h
  · split at h
    · rename_i atPc
      split at h
      · simp at h
      · rename_i moved
        obtain ⟨failure, rfl⟩ := (requestReplyViaFixedQueue_step moved).get_fails
        split at h
        · obtain ⟨rfl, rfl⟩ := Prod.mk.inj (Option.some.inj h)
          exact .missed atPc
        · obtain ⟨p, found, same⟩ := Option.map_eq_some_iff.mp h
          obtain ⟨rfl, rfl⟩ := Prod.mk.inj same
          exact .lost atPc found
    · simp at h
  · simp at h

theorem FixedCall.mayTake_some {call : FixedCall} {q : Queues} {filter : MsgId} {n : Nat}
    {p : Posted} (found : call.mayTake q filter n = some p) :
    p ∈ q.posted ∧ p.queued.queue = call.replyQueue ∧ matchesCorrelId filter p.queued.md := by
  obtain ⟨at_n, allowed⟩ := Option.filter_eq_some_iff.mp found
  exact ⟨List.mem_of_getElem? at_n, by simpa using allowed⟩

/-- What a call knows of itself: request and get go by one key. -/
structure FixedCall.Consistent (call : FixedCall) : Prop where
  key : ∀ pc, call.pc = .running pc → call.key = pc.key
  stamped : ∀ key, call.stamped = some key → call.key = some key
  asks : ∀ key wait, call.pc = .running (.get key wait) → call.stamped = some key
  filter : ∀ key, call.filter = some key → call.stamped = some key
  matching : ∀ p ∈ call.taken, p.queued.queue = call.replyQueue ∧
    ∃ key, call.filter = some key ∧ matchesCorrelId key p.queued.md
  running : ∀ pc, call.pc = .running pc → call.taken = []
  result : ∀ msg, call.pc = .returned (.ok msg) →
    ∃ p, call.taken = [p] ∧ msg = messageFromMQMD p.queued.md p.queued.body

/-- The key is settled once and a step that goes on keeps it. -/
theorem FixedStep.key {spec replyQueue pc answer put pc'}
    (step : FixedStep spec replyQueue pc answer put (.running pc')) :
    pc.key = none ∨ pc'.key = pc.key := by
  cases step with
  | generated => exact .inl rfl
  | created => exact .inl rfl
  | openedReply => exact .inr rfl
  | openedRequest => exact .inr rfl
  | put => exact .inr rfl

theorem FixedStep.stamps {spec replyQueue pc answer queued out}
    (step : FixedStep spec replyQueue pc answer (some queued) out) :
    pc.key = some queued.md.correlId ∧ queued.queue = spec.requestQueue := by
  generalize same : some queued = put at step
  cases step with
  | put =>
      cases same
      exact ⟨rfl, rfl⟩
  | putFailed =>
      obtain ⟨id, -, rfl⟩ := Option.map_eq_some_iff.mp same.symm
      exact ⟨rfl, rfl⟩
  | _ => simp at same

theorem FixedStep.get_stamps {spec replyQueue pc answer put key wait}
    (step : FixedStep spec replyQueue pc answer put (.running (.get key wait))) :
    ∃ queued, put = some queued ∧ queued.md.correlId = key := by
  cases step with
  | put => exact ⟨_, rfl, rfl⟩

theorem FixedStep.not_ok {spec replyQueue pc answer put msg} (ahead : ∀ key wait, pc ≠ .get key wait)
    (step : FixedStep spec replyQueue pc answer put (.returned (.ok msg))) : False := by
  cases step with
  | got => exact ahead _ _ rfl

namespace FixedCall.Consistent

theorem start {spec replyQueue ticket} :
    Consistent { spec := spec, replyQueue := replyQueue, ticket := ticket } := by
  constructor <;> simp [FixedPc.key]

theorem gets {call : FixedCall} (before : call.Consistent) {key wait} {p : Option Posted} {result}
    (atGet : call.pc = .running (.get key wait))
    (allowed : ∀ taken ∈ p, taken.queued.queue = call.replyQueue ∧
      matchesCorrelId key taken.queued.md)
    (outcome : ∀ msg, result = .ok msg →
      ∃ taken, p = some taken ∧ msg = messageFromMQMD taken.queued.md taken.queued.body) :
    (call.gets key p (.returned result)).Consistent := by
  have none : call.taken = [] := before.running _ atGet
  have stamped := before.asks _ _ atGet
  have settled := before.stamped _ stamped
  constructor
  · simp [FixedCall.gets, FixedCall.advance]
  · intro key' stamped'
    simpa [FixedCall.gets, FixedCall.advance, FlowOutcome.key, stamped, settled] using stamped'
  · simp [FixedCall.gets, FixedCall.advance]
  · intro key' asked
    simpa [FixedCall.gets, FixedCall.advance, stamped] using asked
  · intro taken member
    simp only [FixedCall.gets, FixedCall.advance, none, List.nil_append, Option.mem_toList] at member
    exact ⟨(allowed taken member).1, key, rfl, (allowed taken member).2⟩
  · simp [FixedCall.gets, FixedCall.advance]
  · intro msg returned
    obtain ⟨taken, rfl, same⟩ := outcome msg (by
      simpa [FixedCall.gets, FixedCall.advance] using returned)
    exact ⟨taken, by simp [FixedCall.gets, FixedCall.advance, none], same⟩

theorem advance {call : FixedCall} (before : call.Consistent) {pc answer put out}
    (atPc : call.pc = .running pc) (ahead : ∀ key wait, pc ≠ .get key wait)
    (step : FixedStep call.spec call.replyQueue pc answer put out) :
    (call.advance put out).Consistent := by
  have settled := before.key pc atPc
  have none := before.running pc atPc
  have stays : ∀ key, (call.advance put out).stamped = some key →
      (call.advance put out).key = some key := by
    intro key stamped
    rcases Option.or_eq_some_iff.mp stamped with earlier | ⟨-, now⟩
    · simp [FixedCall.advance, before.stamped key earlier]
    · obtain ⟨queued, rfl, rfl⟩ := Option.map_eq_some_iff.mp now
      simp [FixedCall.advance, settled, step.stamps.1]
  constructor
  · intro pc' running
    obtain rfl : out = .running pc' := running
    rcases step.key with unsettled | same
    · simp [FixedCall.advance, FlowOutcome.key, settled, unsettled]
    · simp [FixedCall.advance, FlowOutcome.key, settled, same]
  · exact stays
  · intro key wait asks
    obtain rfl : out = .running (.get key wait) := asks
    obtain ⟨queued, rfl, rfl⟩ := step.get_stamps
    cases earlier : call.stamped with
    | none => simp [FixedCall.advance, earlier]
    | some key' =>
        have same := (before.stamped key' earlier).symm.trans (settled.trans step.stamps.1)
        simpa [FixedCall.advance, earlier] using same
  · intro key asked
    have earlier := before.filter key asked
    simp [FixedCall.advance, earlier]
  · exact before.matching
  · intro _ _
    exact none
  · intro msg returned
    obtain rfl : out = .returned (.ok msg) := returned
    exact absurd step (step.not_ok ahead).elim

end FixedCall.Consistent

theorem CallStep.consistent {q q' : Queues} {call call' : FixedCall}
    (step : CallStep q call q' call') (before : call.Consistent) : call'.Consistent := by
  cases step with
  | flow atPc ahead inner => exact before.advance atPc ahead inner
  | took atGet found =>
      refine before.gets atGet ?_ ?_
      · intro taken member
        obtain rfl : _ = taken := Option.some.inj member
        exact (FixedCall.mayTake_some found).2
      · intro msg same
        exact ⟨_, rfl, (Except.ok.inj same).symm⟩
  | lost atGet found =>
      refine before.gets atGet ?_ (by simp)
      intro taken member
      obtain rfl : _ = taken := Option.some.inj member
      exact (FixedCall.mayTake_some found).2
  | missed atGet => exact before.gets atGet (by simp) (by simp)

/-! ## All of them -/

/-- `call` is the one whose request `p` is or answers, and `p` bears its key. -/
structure TracedTo (p : Posted) (call : FixedCall) : Prop where
  ticket : call.ticket = p.origin.ticket
  key : call.key = some p.queued.md.correlId
  queue : ∀ ticket, p.origin = .request ticket → p.queued.queue = call.spec.requestQueue

def Traced (threads : List RouteThread) (p : Posted) : Prop :=
  ∃ t ∈ threads, ∃ call, t = .call call ∧ TracedTo p call

namespace RouteThread

/-- The messages a thread has removed and still knows. -/
def holds : RouteThread → List Posted
  | .entering _ _ => []
  | .call running => running.taken
  | .responder r => r.held.toList

def ticket : RouteThread → Option Nat
  | .call running => some running.ticket
  | .entering _ _ | .responder _ => none

end RouteThread

inductive ResponderStep (q : Queues) (r : Responder) : Queues → Responder → Prop where
  | received {n p} : p ∈ q.posted →
      ResponderStep q r (q.remove n) { r with held := some p }
  | responded {p reply} : r.held = some p → reply.md.correlId = p.queued.md.correlId →
      ResponderStep q r (q.post (.reply p.origin.ticket) (some reply)) r
  | finished : ResponderStep q r q { r with held := none }

/-- The correlation ID survives the way through handler and sender. -/
theorem Responder.step_cases {q q' : Queues} {r r' : Responder} {answer}
    (h : r.step q answer = some (q', r')) : ResponderStep q r q' r' := by
  unfold step at h
  split at h
  · split at h
    · rename_i found
      obtain ⟨rfl, rfl⟩ := Prod.mk.inj (Option.some.inj h)
      exact .received (List.mem_of_getElem? (Option.filter_eq_some_iff.mp found).1)
    · simp at h
  · obtain ⟨p, held, same⟩ := Option.map_eq_some_iff.mp h
    obtain ⟨rfl, rfl⟩ := Prod.mk.inj same
    refine .responded held ?_
    simp only [putDescriptor, messageFromMQMD, correlIdOf_hex]
  · obtain ⟨rfl, rfl⟩ := Prod.mk.inj (Option.some.inj h)
    exact .finished
  · simp at h

inductive RouteStep (q : Queues) : RouteThread → Queues → RouteThread → Prop where
  | entered {spec replyQueue} : RouteStep q (.entering spec replyQueue)
      { q with tickets := q.tickets + 1 } (.call { spec, replyQueue, ticket := q.tickets })
  | called {call q' call'} : CallStep q call q' call' → RouteStep q (.call call) q' (.call call')
  | served {r q' r'} : ResponderStep q r q' r' → RouteStep q (.responder r) q' (.responder r')

theorem routeProgram_step {q q' : Queues} {t t' : RouteThread} {answer started}
    (h : routeProgram.step q t answer = some (q', t', started)) :
    RouteStep q t q' t' ∧ started = [] := by
  obtain ⟨⟨q₁, t₁⟩, moved, same⟩ := Option.map_eq_some_iff.mp h
  simp only [Prod.mk.injEq] at same
  obtain ⟨rfl, rfl, rfl⟩ := same
  refine ⟨?_, rfl⟩
  unfold RouteThread.step at moved
  split at moved
  · obtain ⟨rfl, rfl⟩ := Prod.mk.inj (Option.some.inj moved)
    exact .entered
  · simp at moved
  · obtain ⟨⟨q₂, call'⟩, inner, same⟩ := Option.map_eq_some_iff.mp moved
    obtain ⟨rfl, rfl⟩ := Prod.mk.inj same
    exact .called (FixedCall.step_cases inner)
  · obtain ⟨⟨q₂, r'⟩, inner, same⟩ := Option.map_eq_some_iff.mp moved
    obtain ⟨rfl, rfl⟩ := Prod.mk.inj same
    exact .served (Responder.step_cases inner)

theorem CallStep.settings {q q' : Queues} {call call' : FixedCall}
    (step : CallStep q call q' call') :
    call'.spec = call.spec ∧ call'.replyQueue = call.replyQueue ∧ call'.ticket = call.ticket ∧
      q'.tickets = q.tickets ∧ ∀ key, call.key = some key → call'.key = some key := by
  cases step with
  | flow =>
      refine ⟨rfl, rfl, rfl, rfl, fun key settled => ?_⟩
      simp [FixedCall.advance, settled]
  | took | lost | missed =>
      refine ⟨rfl, rfl, rfl, rfl, fun key settled => ?_⟩
      simp [FixedCall.gets, FixedCall.advance, settled]

/-- A call stays the owner of its messages. -/
theorem CallStep.tracedTo {q q' : Queues} {call call' : FixedCall} {p : Posted}
    (step : CallStep q call q' call') (before : TracedTo p call) : TracedTo p call' := by
  obtain ⟨spec, -, ticket, -, key⟩ := step.settings
  exact ⟨ticket.trans before.ticket, key _ before.key, fun t origin => by
    rw [spec, before.queue t origin]⟩

/-- What is on the queues or with a call after its step was there before, or is the
    request it has just put. -/
theorem CallStep.sources {q q' : Queues} {call call' : FixedCall} {p : Posted}
    (step : CallStep q call q' call') (before : call.Consistent)
    (after : p ∈ q'.posted ∨ p ∈ call'.taken) :
    p ∈ q.posted ∨ p ∈ call.taken ∨ TracedTo p call' := by
  cases step with
  | @flow pc answer put out atPc _ inner =>
      rcases after with posted | taken
      · rcases List.mem_append.mp posted with old | new
        · exact .inl old
        · obtain ⟨queued, isPut, rfl⟩ := List.mem_map.mp new
          obtain rfl : put = some queued := Option.mem_toList.mp isPut
          obtain ⟨key, queue⟩ := inner.stamps
          refine .inr (.inr ⟨rfl, ?_, fun _ _ => queue⟩)
          simp [FixedCall.advance, before.key pc atPc, key]
      · exact .inr (.inl taken)
  | took _ found | lost _ found =>
      rcases after with posted | taken
      · exact .inl (List.mem_of_mem_eraseIdx posted)
      · rcases List.mem_append.mp taken with old | new
        · exact .inr (.inl old)
        · obtain rfl : _ = p := Option.some.inj (Option.mem_toList.mp new)
          exact .inl (FixedCall.mayTake_some found).1
  | missed =>
      rcases after with posted | taken
      · exact .inl posted
      · exact .inr (.inl (by simpa [FixedCall.gets, FixedCall.advance] using taken))

theorem ResponderStep.sources {q q' : Queues} {r r' : Responder} {p : Posted}
    (step : ResponderStep q r q' r') (after : p ∈ q'.posted ∨ p ∈ r'.held) :
    p ∈ q.posted ∨ p ∈ r.held ∨ ∃ request ∈ r.held,
      p.queued.md.correlId = request.queued.md.correlId ∧
      p.origin = .reply request.origin.ticket := by
  cases step with
  | received member =>
      rcases after with posted | held
      · exact .inl (List.mem_of_mem_eraseIdx posted)
      · obtain rfl : _ = p := Option.some.inj held
        exact .inl member
  | responded held same =>
      rcases after with posted | held'
      · rcases List.mem_append.mp posted with old | new
        · exact .inl old
        · obtain rfl : p = _ := by simpa using new
          exact .inr (.inr ⟨_, held, same, rfl⟩)
      · exact .inr (.inl held')
  | finished =>
      rcases after with posted | held
      · exact .inl posted
      · simp at held

theorem Traced.reply {threads : List RouteThread} {request p : Posted}
    (traced : Traced threads request)
    (same : p.queued.md.correlId = request.queued.md.correlId)
    (origin : p.origin = .reply request.origin.ticket) : Traced threads p := by
  obtain ⟨t, member, call, isCall, owner⟩ := traced
  refine ⟨t, member, call, isCall, ?_, ?_, ?_⟩
  · rw [owner.ticket, origin]
    rfl
  · rw [owner.key, same]
  · simp [origin]

theorem RouteStep.traced {q q' : Queues} {t t' : RouteThread} {threads : List RouteThread}
    {i : Nat} {p : Posted} (step : RouteStep q t q' t') (found : threads[i]? = some t)
    (before : Traced threads p) : Traced (threads.set i t' ++ []) p := by
  refine Program.exists_threads_act found ?_ before
  rintro ⟨call, rfl, owner⟩
  cases step with
  | called inner => exact ⟨_, rfl, inner.tracedTo owner⟩

/-- Every message anywhere is traced to a call, and tickets are dealt out once. -/
structure RouteInv (c : RouteConfig) : Prop where
  posted : ∀ p ∈ c.shared.posted, Traced c.threads p
  held : ∀ t ∈ c.threads, ∀ p ∈ t.holds, Traced c.threads p
  consistent : ∀ t ∈ c.threads, ∀ call, t = .call call → call.Consistent
  known : ∀ t ∈ c.threads, ∀ ticket ∈ t.ticket, ticket < c.shared.tickets
  distinct : (c.threads.filterMap RouteThread.ticket).Nodup

namespace RouteInv

theorem start : RouteInv ⟨{}, []⟩ := by
  constructor <;> simp

theorem call {c : RouteConfig} (inv : RouteInv c) (r : RouteRequest) :
    RouteInv ⟨c.shared, c.threads ++ [routeProgram.start r]⟩ := by
  have still : ∀ p, Traced c.threads p → Traced (c.threads ++ [routeProgram.start r]) p := by
    rintro p ⟨t, member, owner⟩
    exact ⟨t, List.mem_append_left _ member, owner⟩
  have fresh : (routeProgram.start r).holds = [] ∧ (routeProgram.start r).ticket = none ∧
      ∀ running, routeProgram.start r ≠ .call running := by
    cases r <;> simp [routeProgram, RouteThread.holds, RouteThread.ticket]
  obtain ⟨nothing, noTicket, noCall⟩ := fresh
  constructor
  · exact fun p member => still p (inv.posted p member)
  · intro t member p holds
    rcases List.mem_append.mp member with old | new
    · exact still p (inv.held t old p holds)
    · obtain rfl := List.mem_singleton.mp new
      simp [nothing] at holds
  · intro t member running isCall
    rcases List.mem_append.mp member with old | new
    · exact inv.consistent t old running isCall
    · obtain rfl := List.mem_singleton.mp new
      exact absurd isCall (noCall running)
  · intro t member ticket has
    rcases List.mem_append.mp member with old | new
    · exact inv.known t old ticket has
    · obtain rfl := List.mem_singleton.mp new
      simp [noTicket] at has
  · simpa [noTicket] using inv.distinct

/-- Whatever a step puts somewhere was there before or is traced by the step. -/
theorem sources {c : RouteConfig} (inv : RouteInv c) {i : Nat} {q' t t'}
    (found : c.threads[i]? = some t) (step : RouteStep c.shared t q' t') {p : Posted}
    (after : p ∈ q'.posted ∨ p ∈ t'.holds) : Traced (c.threads.set i t' ++ []) p := by
  have member := List.mem_of_getElem? found
  have own := List.mem_append_left [] (Program.mem_threads_set_self found t')
  cases step with
  | entered =>
      rcases after with posted | holds
      · exact RouteStep.entered.traced found (inv.posted p posted)
      · simp [RouteThread.holds] at holds
  | called inner =>
      rcases inner.sources (inv.consistent _ member _ rfl) after with posted | taken | owner
      · exact (RouteStep.called inner).traced found (inv.posted p posted)
      · exact (RouteStep.called inner).traced found (inv.held _ member p taken)
      · exact ⟨_, own, _, rfl, owner⟩
  | served inner =>
      have held : ∀ p' ∈ RouteThread.holds (.responder _), Traced c.threads p' :=
        inv.held _ member
      simp only [RouteThread.holds, Option.mem_toList] at held after
      rcases inner.sources after with posted | kept | ⟨request, kept, same, origin⟩
      · exact (RouteStep.served inner).traced found (inv.posted p posted)
      · exact (RouteStep.served inner).traced found (held p kept)
      · exact (RouteStep.served inner).traced found ((held request kept).reply same origin)

theorem tickets {c : RouteConfig} (inv : RouteInv c) {i : Nat} {q' t t'}
    (found : c.threads[i]? = some t) (step : RouteStep c.shared t q' t') :
    c.shared.tickets ≤ q'.tickets ∧ (∀ ticket ∈ t'.ticket, ticket < q'.tickets) ∧
      ((c.threads.set i t').filterMap RouteThread.ticket).Nodup := by
  have member := List.mem_of_getElem? found
  have known := inv.known t member
  cases step with
  | @entered spec replyQueue =>
      refine ⟨Nat.le_succ _, ?_, ?_⟩
      · intro ticket has
        obtain rfl : _ = ticket := Option.some.inj has
        exact Nat.lt_succ_self _
      · have perm : ((c.threads.set i (.call { spec, replyQueue, ticket := c.shared.tickets })).filterMap
            RouteThread.ticket).Perm (c.shared.tickets :: c.threads.filterMap RouteThread.ticket) :=
          filterMap_set_perm found rfl rfl
        refine perm.nodup_iff.mpr (List.nodup_cons.mpr ⟨?_, inv.distinct⟩)
        intro dealt
        obtain ⟨u, there, has⟩ := List.mem_filterMap.mp dealt
        exact Nat.lt_irrefl _ (inv.known u there _ has)
  | called inner =>
      obtain ⟨-, -, ticket, same, -⟩ := inner.settings
      refine ⟨Nat.le_of_eq same.symm, ?_, ?_⟩
      · intro number has
        rw [same]
        exact known number (by simpa [RouteThread.ticket, ticket] using has)
      · rw [filterMap_set_same found (by simp [RouteThread.ticket, ticket])]
        exact inv.distinct
  | served inner =>
      refine ⟨?_, by simp [RouteThread.ticket], ?_⟩
      · cases inner <;> exact Nat.le_refl _
      · rw [filterMap_set_same found (by simp [RouteThread.ticket])]
        exact inv.distinct

theorem act {c : RouteConfig} (inv : RouteInv c) {i : Nat} {q' t t'}
    (found : c.threads[i]? = some t) (step : RouteStep c.shared t q' t') :
    RouteInv ⟨q', c.threads.set i t' ++ []⟩ := by
  obtain ⟨grows, own, distinct⟩ := inv.tickets found step
  constructor
  · exact fun p posted => inv.sources found step (.inl posted)
  · refine Program.forall_threads_act ?_ (by simp) ?_
    · exact fun p holds => inv.sources found step (.inr holds)
    · intro j u _ at_j p holds
      exact step.traced found (inv.held u (List.mem_of_getElem? at_j) p holds)
  · refine Program.forall_threads_act ?_ (by simp) ?_
    · intro running isCall
      cases step with
      | entered =>
          cases isCall
          exact .start
      | called inner =>
          cases isCall
          exact inner.consistent (inv.consistent _ (List.mem_of_getElem? found) _ rfl)
      | served => cases isCall
    · exact fun j u _ at_j => inv.consistent u (List.mem_of_getElem? at_j)
  · refine Program.forall_threads_act own (by simp) ?_
    intro j u _ at_j ticket has
    exact Nat.lt_of_lt_of_le (inv.known u (List.mem_of_getElem? at_j) ticket has) grows
  · simpa using distinct

theorem next {c c' : RouteConfig} {m} (inv : RouteInv c) (moved : routeProgram.next c m = some c') :
    RouteInv c' := by
  obtain ⟨r, -, rfl⟩ | ⟨i, a, t, q', t', started, -, found, stepped, rfl⟩ :=
    Program.next_cases moved
  · exact inv.call r
  · obtain ⟨step, rfl⟩ := routeProgram_step stepped
    exact inv.act found step

theorem run {c : RouteConfig} {ms} (run : routeProgram.exec ⟨{}, []⟩ ms = some c) : RouteInv c :=
  Program.exec_invariant (fun _ _ _ inv _ moved => inv.next moved) start (Program.meets_true ms) run

end RouteInv

def RouteThread.key : RouteThread → Option MsgId
  | .call running => running.key
  | .entering _ _ | .responder _ => none

/-- The effective keys of all calls are non-zero and pairwise distinct. -/
structure DistinctKeys (threads : List RouteThread) : Prop where
  nonzero : .zero ∉ threads.filterMap RouteThread.key
  distinct : (threads.filterMap RouteThread.key).Nodup

/-- Nothing crosses over to the call at position `i` from another. -/
structure KeepsApart (c : RouteConfig) (i : Nat) (call : FixedCall) : Prop where
  own : ∀ (j : Nat) (other : FixedCall), c.threads[j]? = some (.call other) →
    other.ticket = call.ticket → j = i
  /-- Whatever its get removed, in success or failure, is of its own exchange. -/
  taken : ∀ p ∈ call.taken, p.origin.ticket = call.ticket
  reply : ∀ msg, call.pc = .returned (.ok msg) → ∃ p key, call.taken = [p] ∧
    msg = messageFromMQMD p.queued.md p.queued.body ∧ call.key = some key ∧
    msg.correlationID = key.hex
  filter : ∀ key, call.filter = some key → call.stamped = some key ∧ call.key = some key

/-- And what the call removed is a reply. -/
structure KeepsRoute (c : RouteConfig) (i : Nat) (call : FixedCall) : Prop
    extends KeepsApart c i call where
  answer : ∀ p ∈ call.taken, p.origin = .reply call.ticket

/-- A message that a get by key removed belongs to the caller. -/
theorem RouteInv.taken_own {c : RouteConfig} (inv : RouteInv c) (keys : DistinctKeys c.threads)
    {i : Nat} {call : FixedCall} (found : c.threads[i]? = some (.call call)) {p : Posted}
    (taken : p ∈ call.taken) :
    TracedTo p call ∧ p.queued.queue = call.replyQueue := by
  have member := List.mem_of_getElem? found
  have consistent := inv.consistent _ member call rfl
  obtain ⟨queue, key, asked, matching⟩ := consistent.matching p taken
  have settled := consistent.stamped key (consistent.filter key asked)
  have same : p.queued.md.correlId = key := by
    rcases matching with zero | same
    · exact absurd (List.mem_filterMap.mpr ⟨_, member, zero ▸ settled⟩) keys.nonzero
    · exact same
  obtain ⟨t, there, other, rfl, owner⟩ := inv.held _ member p taken
  obtain ⟨j, at_j⟩ := List.mem_iff_getElem?.mp there
  obtain rfl : i = j := by
    by_contra different
    exact filterMap_nodup_ne keys.distinct different found at_j settled (same ▸ owner.key) rfl
  obtain rfl : call = other := by simpa using found.symm.trans at_j
  exact ⟨owner, queue⟩

/-- For every interleaving of calls, responders and failures: a call keeps to its own
    exchange, and where its two queues differ it finds only replies there. -/
theorem fixed_queue_keeps_route {c : RouteConfig} {ms}
    (run : routeProgram.exec ⟨{}, []⟩ ms = some c) (keys : DistinctKeys c.threads) {i : Nat}
    {call : FixedCall} (found : c.threads[i]? = some (.call call)) :
    KeepsApart c i call ∧
      (call.spec.requestQueue ≠ call.replyQueue → KeepsRoute c i call) := by
  have inv := RouteInv.run run
  have consistent := inv.consistent _ (List.mem_of_getElem? found) call rfl
  have keepsApart : KeepsApart c i call := by
    constructor
    · intro j other at_j same
      by_contra different
      exact filterMap_nodup_ne inv.distinct different at_j found rfl rfl same
    · intro p taken
      exact (inv.taken_own keys found taken).1.ticket.symm
    · intro msg returned
      obtain ⟨p, only, rfl⟩ := consistent.result msg returned
      have taken : p ∈ call.taken := by simp [only]
      have owner := (inv.taken_own keys found taken).1
      exact ⟨p, _, only, rfl, owner.key, rfl⟩
    · intro key asked
      have stamped := consistent.filter key asked
      exact ⟨stamped, consistent.stamped key stamped⟩
  refine ⟨keepsApart, fun apart => ⟨keepsApart, ?_⟩⟩
  intro p taken
  obtain ⟨owner, queue⟩ := inv.taken_own keys found taken
  cases origin : p.origin with
  | request ticket => exact absurd ((owner.queue ticket origin).symm.trans queue) apart
  | reply ticket => rw [owner.ticket, origin, Origin.ticket]

/-- A call whose creator clears the correlation ID. -/
def askingOn (requestQueue : String) : RequestSpec where
  cfg := ClientConfig.minimal.cfg
  requestQueue := requestQueue
  timeout := 1000000000
  hasCreator := true
  span := none

def keyOf (byte : UInt8) : MsgId := ⟨List.replicate idLength byte, by simp⟩

/-- Thread `i` puts its request under the generated key. -/
def asks (i : Nat) (key : MsgId) : List (Move RouteRequest RouteAnswer) :=
  [.act i .enter, .act i (.flow (.random (.ok key))),
    .act i (.flow (.created (.ok { body := [], userProperties := none }))),
    .act i (.flow (.opened none)), .act i (.flow (.opened none)),
    .act i (.flow (.putOk (keyOf 9)))]

/-- Two callers on one reply queue; the second is answered first, and twice. -/
def crossingReplies : List (Move RouteRequest RouteAnswer) :=
  [.call (.call (askingOn "REQ") "REP"), .call (.call (askingOn "REQ") "REP"),
    .call (.serve ClientConfig.minimal.cfg "REQ")] ++ asks 0 (keyOf 1) ++ asks 1 (keyOf 2) ++
  [.act 2 (.receive 1), .act 2 (.respond "REP" { body := [2], userProperties := none } (keyOf 3)),
    .act 2 (.respond "REP" { body := [2], userProperties := none } (keyOf 4)), .act 2 .finish,
    .act 2 (.receive 0), .act 2 (.respond "REP" { body := [1], userProperties := none } (keyOf 5)),
    .act 0 (.take 2), .act 1 (.take 1)]

def loopback : List (Move RouteRequest RouteAnswer) :=
  [.call (.call (askingOn "Q") "Q")] ++ asks 0 (keyOf 1) ++ [.act 0 (.take 0)]

theorem fixed_queue_keeps_route_crossing : ∃ c call msg,
    routeProgram.exec ⟨{}, []⟩ crossingReplies = some c ∧ DistinctKeys c.threads ∧
      c.threads[0]? = some (.call call) ∧ call.pc = .returned (.ok msg) ∧ msg.body = [1] ∧
      KeepsRoute c 0 call := by
  have run : routeProgram.exec ⟨{}, []⟩ crossingReplies = some _ := rfl
  exact ⟨_, _, _, run, ⟨by decide, by decide⟩, rfl, rfl, rfl,
    (fixed_queue_keeps_route run ⟨by decide, by decide⟩ rfl).2 (by decide)⟩

/-- Where the two queues are one, a call takes its own request for the reply. -/
theorem own_request_returned : ∃ c call msg,
    routeProgram.exec ⟨{}, []⟩ loopback = some c ∧ DistinctKeys c.threads ∧
      c.threads[0]? = some (.call call) ∧ call.pc = .returned (.ok msg) ∧
      ¬ KeepsRoute c 0 call := by
  refine ⟨_, _, _, rfl, ⟨by decide, by decide⟩, rfl, rfl, ?_⟩
  intro keeps
  have answered := keeps.answer _ List.mem_cons_self
  cases answered

end CommonsMQ
