import CommonsMQ.Net.Order
import CommonsMQ.RequestReply.Steps

/-! # Requests and their replies

What a call of a request-reply client does on the queue manager is an exchange: the dynamic
queue it opened, the request it put, the message it received. With a temporary queue the
request names the queue of its own call, whatever the creator left in the message, and no
other call ever has a queue of that name; with a fixed queue the reply has the correlation
identifier of the request.
-/

namespace CommonsMQ

open Interleave

/-- What one call has done on the queue manager. -/
structure Exchange where
  opened : List String := []
  sent : List Nat := []
  received : List Nat := []

def Exchange.add (x : Exchange) (opened : List String) (sent received : List Nat) : Exchange :=
  ⟨x.opened ++ opened, x.sent ++ sent, x.received ++ received⟩

@[simp] theorem Exchange.add_nothing (x : Exchange) : x.add [] [] [] = x := by simp [add]

/-- Where a client sends its requests, and where it expects the replies. -/
structure Route where
  mode : RequestReplyMode
  requestQueue : String
  replyQueue : String

def RequestReplyClient.route (r : RequestReplyClient) : Route :=
  ⟨r.mode, r.requestQueue, r.replyQueue⟩

namespace Route

/-- The reply queue that a request of the exchange has to name. -/
def Names (route : Route) (x : Exchange) (replyToQ : String) : Prop :=
  match route.mode with
  | .temporaryQueue => x.opened = [replyToQ]
  | .fixedQueueSelector => x.opened = [] ∧ replyToQ = route.replyQueue

/-- What a call makes of its reply. -/
def message (route : Route) (reply : Queued) : Message Bytes :=
  match route.mode with
  | .temporaryQueue => { messageFromMQMD reply.md reply.body with userProperties := none }
  | .fixedQueueSelector => messageFromMQMD reply.md reply.body

end Route

section Exchanges

variable (b : QueueManager) (route : Route) (x : Exchange)

/-- Message `n`, which is `request`, is the request of the exchange. -/
structure Asked (n : Nat) (request : Queued) : Prop where
  sent : x.sent = [n]
  arrived : b.messages[n]? = some request
  queue : request.queue = route.requestQueue
  names : route.Names x request.md.replyToQ

/-- The exchange is complete, and `msg` is what the call has made of its reply. -/
structure Answered (msg : Message Bytes) (n : Nat) (request : Queued) (m : Nat) (reply : Queued) :
    Prop extends Asked b route x n request where
  received : x.received = [m]
  replied : b.messages[m]? = some reply
  onReplyQueue : reply.queue = request.md.replyToQ
  selected : route.mode = .fixedQueueSelector → matchesCorrelId request.md.correlId reply.md
  made : msg = route.message reply

/-- No message was received. -/
structure Unanswered : Prop where
  received : x.received = []
  opened : x.opened.length ≤ 1
  asked : x.sent = [] ∨ ∃ n request, Asked b route x n request

/-- The exchange of a call whose flow has returned. -/
def Settled : Except GoError (Message Bytes) → Prop
  | .ok msg => ∃ n request m reply, Answered b route x msg n request m reply
  | .error _ => Unanswered b route x

def FixedPc.Exchanged : FixedPc → Prop
  | .generate | .runCreator _ | .openReply _ _ | .openRequest _ _ | .mqput _ _ => x = {}
  | .get key _ => x.received = [] ∧ ∃ n request, Asked b route x n request ∧
      request.md.correlId = key

def TempPc.Exchanged : TempPc → Prop
  | .openReply => x = {}
  | .runCreator replyQueue | .openRequest replyQueue _ | .mqput replyQueue _ =>
      x = { opened := [replyQueue] }
  | .get replyQueue _ => x.received = [] ∧ x.opened = [replyQueue] ∧
      ∃ n request, Asked b route x n request

def RRPc.Exchanged : RRPc → Prop
  | .checkCtx | .checkClosed | .dial | .markDialFailed _ => x = {}
  | .fixed pc => route.mode = .fixedQueueSelector ∧ pc.Exchanged b route x
  | .temp pc => route.mode = .temporaryQueue ∧ pc.Exchanged b route x
  | .record result | .closeConn (some result) | .returned result => Settled b route x result
  | .closeConn none | .panicked => Unanswered b route x

end Exchanges

section Grown

variable {b b' : QueueManager} {route : Route} {x : Exchange}

theorem Asked.other {n : Nat} {request : Queued} (asked : Asked b route x n request)
    (grown : b.Extends b') : Asked b' route x n request :=
  { asked with arrived := grown n request asked.arrived }

theorem Answered.other {msg : Message Bytes} {n m : Nat} {request reply : Queued}
    (answered : Answered b route x msg n request m reply) (grown : b.Extends b') :
    Answered b' route x msg n request m reply :=
  { answered with
    arrived := grown n request answered.arrived
    replied := grown m reply answered.replied }

theorem Unanswered.other (unanswered : Unanswered b route x) (grown : b.Extends b') :
    Unanswered b' route x where
  received := unanswered.received
  opened := unanswered.opened
  asked := unanswered.asked.imp_right fun ⟨n, request, asked⟩ => ⟨n, request, asked.other grown⟩

theorem Settled.other {result : Except GoError (Message Bytes)} (settled : Settled b route x result)
    (grown : b.Extends b') : Settled b' route x result := by
  cases result with
  | ok msg =>
      obtain ⟨n, request, m, reply, answered⟩ := settled
      exact ⟨n, request, m, reply, answered.other grown⟩
  | error => exact Unanswered.other settled grown

/-- What others do leaves an exchange as it is. -/
theorem RRPc.Exchanged.other {pc : RRPc} (exchanged : pc.Exchanged b route x)
    (grown : b.Extends b') : pc.Exchanged b' route x := by
  cases pc with
  | checkCtx | checkClosed | dial | markDialFailed => exact exchanged
  | fixed pc =>
      obtain ⟨mode, inner⟩ := exchanged
      refine ⟨mode, ?_⟩
      cases pc with
      | get =>
          obtain ⟨nothing, n, request, asked, key⟩ := inner
          exact ⟨nothing, n, request, asked.other grown, key⟩
      | _ => exact inner
  | temp pc =>
      obtain ⟨mode, inner⟩ := exchanged
      refine ⟨mode, ?_⟩
      cases pc with
      | get =>
          obtain ⟨nothing, opened, n, request, asked⟩ := inner
          exact ⟨nothing, opened, n, request, asked.other grown⟩
      | _ => exact inner
  | record result | returned result => exact Settled.other exchanged grown
  | closeConn result =>
      cases result with
      | none => exact Unanswered.other exchanged grown
      | some result => exact Settled.other exchanged grown
  | panicked => exact Unanswered.other exchanged grown

end Grown

/-! ## Steps of a call -/

/-- The dynamic queue that an answer brings. -/
def RRAnswer.names : RRAnswer → List String
  | .openedDynamic name => [name]
  | _ => []

/-- How the queue manager comes to give an answer, with the name and the message it brings. -/
inductive Serves (b : QueueManager) (r : RequestReplyClient) (call : RRCall) :
    RRAnswer → List String → List Nat → Prop where
  | own {answer} : (∀ md data, answer ≠ .got md data) → Serves b r call answer answer.names []
  | get {n q} : b.messages[n]? = some q → call.mayGet r q = true →
      Serves b r call (.got q.md q.body) [] [n]

theorem RequestStep.route {r r' : RequestReplyClient} {call call' : RRCall} {pc answer}
    (step : RequestStep r call pc answer r' call') : r'.route = r.route := by
  cases step with
  | @recorded result =>
      cases result with
      | ok => rfl
      | error err =>
          simp only [RequestReplyClient.recordResult]
          split <;> rfl
  | _ => rfl

section Steps

variable {b : QueueManager} {route : Route} {x : Exchange}

theorem Unanswered.nothing : Unanswered b route {} := ⟨rfl, Nat.zero_le _, .inl rfl⟩

theorem Unanswered.of_asked {n : Nat} {request : Queued} (asked : Asked b route x n request)
    (received : x.received = []) : Unanswered b route x := by
  refine ⟨received, ?_, .inr ⟨n, request, asked⟩⟩
  have names := asked.names
  unfold Route.Names at names
  split at names <;> simp [names]

/-- The messages that a step puts arrive behind all others. -/
def putsAt (b : QueueManager) (put : Option Queued) : List Nat :=
  put.toList.map fun _ => b.messages.length

variable {b' : QueueManager} {r : RequestReplyClient} {call : RRCall} {answer : RRAnswer}
  {put : Option Queued} {opened : List String} {got : List Nat}

theorem requestReplyViaFixedQueue_names {spec : RequestSpec} {replyQueue : String} {pc : FixedPc}
    {out : FlowOutcome FixedPc}
    (flow : requestReplyViaFixedQueue spec replyQueue pc answer = some (put, out)) :
    answer.names = [] := by
  cases answer with
  | openedDynamic => cases pc <;> cases flow
  | _ => rfl

theorem requestReplyViaTempQueue_names {spec : RequestSpec} {pc : TempPc}
    {out : FlowOutcome TempPc}
    (flow : requestReplyViaTempQueue spec pc answer = some (put, out)) (later : pc ≠ .openReply) :
    answer.names = [] := by
  cases answer with
  | openedDynamic =>
      cases pc with
      | openReply => exact absurd rfl later
      | _ => cases flow
  | _ => rfl

theorem arrives (grown : b'.messages = b.messages ++ put.toList) {q : Queued}
    (here : put = some q) : b'.messages[b.messages.length]? = some q := by
  simp [grown, here]

theorem fixed_exchanged {pc : FixedPc} {out : FlowOutcome FixedPc}
    (flow : requestReplyViaFixedQueue (call.spec r) r.replyQueue pc answer = some (put, out))
    (here : call.pc = .fixed pc) (serves : Serves b r call answer opened got)
    (grown : b'.messages = b.messages ++ put.toList) (mode : r.mode = .fixedQueueSelector)
    (before : pc.Exchanged b r.route x) :
    (out.next .fixed).Exchanged b' r.route (x.add opened (putsAt b put) got) := by
  have extended : b.Extends b' := by
    intro n q found
    rw [grown, List.getElem?_append_left (List.getElem?_eq_some_iff.mp found).1, found]
  have nameless := requestReplyViaFixedQueue_names flow
  have step := requestReplyViaFixedQueue_step flow
  cases serves with
  | own notGot =>
      rw [nameless]
      cases step with
      | failed early =>
          obtain rfl : x = {} := by cases pc <;> first | exact before | cases early
          exact Unanswered.nothing
      | panicked =>
          obtain rfl : x = {} := before
          exact Unanswered.nothing
      | generated | created | openedReply | openedRequest =>
          obtain rfl : x = {} := before
          exact ⟨mode, rfl⟩
      | put =>
          obtain rfl : x = {} := before
          refine ⟨mode, rfl, b.messages.length, _, ⟨rfl, arrives grown rfl, rfl, ?_⟩, rfl⟩
          simp only [Route.Names, RequestReplyClient.route, mode]
          exact ⟨rfl, rfl⟩
      | @putFailed _ _ _ landed =>
          obtain rfl : x = {} := before
          cases landed with
          | none => exact Unanswered.nothing
          | some id =>
              refine Unanswered.of_asked (n := b.messages.length)
                ⟨rfl, arrives grown rfl, rfl, ?_⟩ rfl
              simp only [Route.Names, RequestReplyClient.route, mode]
              exact ⟨rfl, rfl⟩
      | got => exact absurd rfl (notGot _ _)
      | getFailed =>
          obtain ⟨nothing, n, request, asked, -⟩ := before
          simp only [putsAt, Option.toList_none, List.map_nil, Exchange.add_nothing]
          exact Unanswered.of_asked (asked.other extended) nothing
  | @get m q found may =>
      obtain ⟨key, wait, rfl, onQueue, matching⟩ : ∃ key wait, pc = .get key wait ∧
          q.queue = r.replyQueue ∧ matchesCorrelId key q.md := by
        unfold RRCall.mayGet at may
        simp only [here] at may
        cases pc with
        | get key wait => exact ⟨key, wait, rfl, of_decide_eq_true may⟩
        | _ => cases may
      obtain ⟨nothing, n, request, asked, rfl⟩ := before
      obtain ⟨rfl, rfl⟩ : put = none ∧ out = .returned (.ok (messageFromMQMD q.md q.body)) := by
        cases step with
        | failed early => cases early
        | got => exact ⟨rfl, rfl⟩
      have names := asked.names
      simp only [Route.Names, RequestReplyClient.route, mode] at names
      refine ⟨n, request, m, q, ⟨⟨?_, extended n _ asked.arrived, asked.queue, ?_⟩, ?_,
        extended m q found, ?_, fun _ => matching, ?_⟩⟩
      · simp [Exchange.add, putsAt, asked.sent]
      · simpa [Route.Names, RequestReplyClient.route, mode, Exchange.add] using names
      · simp [Exchange.add, nothing]
      · exact onQueue.trans names.2.symm
      · simp [Route.message, RequestReplyClient.route, mode]

theorem temp_exchanged {pc : TempPc} {out : FlowOutcome TempPc}
    (flow : requestReplyViaTempQueue (call.spec r) pc answer = some (put, out))
    (here : call.pc = .temp pc) (serves : Serves b r call answer opened got)
    (grown : b'.messages = b.messages ++ put.toList) (mode : r.mode = .temporaryQueue)
    (before : pc.Exchanged b r.route x) :
    (out.next .temp).Exchanged b' r.route (x.add opened (putsAt b put) got) := by
  have extended : b.Extends b' := by
    intro n q found
    rw [grown, List.getElem?_append_left (List.getElem?_eq_some_iff.mp found).1, found]
  have nameless := requestReplyViaTempQueue_names flow
  have step := requestReplyViaTempQueue_step flow
  cases serves with
  | own notGot =>
      cases step with
      | failed early =>
          cases pc with
          | openReply =>
              obtain rfl : x = {} := before
              have unopened : answer.names = [] := by
                cases answer with
                | openedDynamic => cases flow
                | _ => rfl
              rw [unopened]
              exact Unanswered.nothing
          | runCreator | openRequest =>
              obtain rfl := before
              rw [nameless (by simp)]
              exact ⟨rfl, le_rfl, .inl rfl⟩
          | mqput | get => cases early
      | panicked =>
          obtain rfl := before
          rw [nameless (by simp)]
          exact ⟨rfl, le_rfl, .inl rfl⟩
      | openedReply =>
          obtain rfl : x = {} := before
          exact ⟨mode, rfl⟩
      | created | openedRequest =>
          obtain rfl := before
          rw [nameless (by simp)]
          exact ⟨mode, rfl⟩
      | put =>
          obtain rfl := before
          refine ⟨mode, rfl, rfl, b.messages.length, _, ⟨rfl, arrives grown rfl, rfl, ?_⟩⟩
          simp only [Route.Names, RequestReplyClient.route, mode]
          rfl
      | @putFailed _ _ _ landed =>
          obtain rfl := before
          cases landed with
          | none => exact ⟨rfl, le_rfl, .inl rfl⟩
          | some id =>
              refine Unanswered.of_asked (n := b.messages.length)
                ⟨rfl, arrives grown rfl, rfl, ?_⟩ rfl
              simp only [Route.Names, RequestReplyClient.route, mode]
              rfl
      | got => exact absurd rfl (notGot _ _)
      | getFailed =>
          obtain ⟨nothing, -, n, request, asked⟩ := before
          simp only [putsAt, Option.toList_none, List.map_nil, RRAnswer.names, Exchange.add_nothing]
          exact Unanswered.of_asked (asked.other extended) nothing
  | @get m q found may =>
      obtain ⟨replyQueue, wait, rfl, onQueue⟩ : ∃ replyQueue wait, pc = .get replyQueue wait ∧
          q.queue = replyQueue := by
        unfold RRCall.mayGet at may
        simp only [here] at may
        cases pc with
        | get replyQueue wait => exact ⟨replyQueue, wait, rfl, of_decide_eq_true may⟩
        | _ => cases may
      obtain ⟨nothing, opened, n, request, asked⟩ := before
      obtain ⟨rfl, rfl⟩ : put = none ∧ out = .returned (.ok
          { messageFromMQMD q.md q.body with userProperties := none }) := by
        simp only [requestReplyViaTempQueue] at flow
        split at flow
        · cases flow
          exact ⟨rfl, rfl⟩
        · cases flow
      have names := asked.names
      simp only [Route.Names, RequestReplyClient.route, mode] at names
      refine ⟨n, request, m, q, ⟨⟨?_, extended n _ asked.arrived, asked.queue, ?_⟩, ?_,
        extended m q found, ?_, ?_, ?_⟩⟩
      · simp [Exchange.add, putsAt, asked.sent]
      · simpa [Route.Names, RequestReplyClient.route, mode, Exchange.add] using names
      · simp [Exchange.add, nothing]
      · rw [opened] at names
        simpa [onQueue] using names
      · simp [RequestReplyClient.route, mode]
      · simp [Route.message, RequestReplyClient.route, mode]

/-- A step between the MQI calls adds nothing to the exchange. -/
theorem exchanged_quietly {pc pc' : RRPc} (nameless : answer.names = [])
    (notGot : ∀ md data, answer ≠ .got md data)
    (keeps : ∀ b x, pc.Exchanged b r.route x → pc'.Exchanged b r.route x) :
    ∀ b b' opened got x, Serves b r call answer opened got →
      b'.messages = b.messages ++ (none : Option Queued).toList → pc.Exchanged b r.route x →
      pc'.Exchanged b' r.route (x.add opened (putsAt b none) got) := by
  intro b b' opened got x serves grown before
  cases serves with
  | get => exact absurd rfl (notGot _ _)
  | own =>
      rw [nameless]
      simp only [putsAt, Option.toList_none, List.map_nil, Exchange.add_nothing]
      refine (keeps b x before).other fun n q found => ?_
      simpa [grown] using found

theorem RequestReplyClient.flow_exchanged : r.flow.Exchanged b r.route {} := by
  unfold RequestReplyClient.flow
  split
  · exact ⟨‹_›, rfl⟩
  · refine ⟨?_, rfl⟩
    cases mode : r.mode with
    | temporaryQueue => exact mode
    | fixedQueueSelector => contradiction

theorem RequestReplyClient.recordResult_requests (result : Except GoError (Message Bytes)) :
    (r.recordResult result).requests = r.requests := by
  cases result with
  | ok => rfl
  | error err =>
      simp only [recordResult]
      split <;> rfl

/-- What a step of a call adds to its exchange. -/
theorem RequestStep.exchanged {r' : RequestReplyClient} {call' : RRCall} {pc : RRPc}
    (step : RequestStep r call pc answer r' call') (here : call.pc = pc) :
    ∃ put : Option Queued, r'.requests = r.requests ++ put.toList ∧
      ∀ b b' opened got x, Serves b r call answer opened got →
        b'.messages = b.messages ++ put.toList → pc.Exchanged b r.route x →
        call'.pc.Exchanged b' r.route (x.add opened (putsAt b put) got) := by
  cases step with
  | done | refused | markDialFailed =>
      refine ⟨none, by simp [RequestReplyClient.recordState], exchanged_quietly rfl (by simp) ?_⟩
      rintro b x ⟨rfl⟩
      exact Unanswered.nothing
  | live | passed | dialFailed =>
      exact ⟨none, by simp, exchanged_quietly rfl (by simp) fun b x before => before⟩
  | dialed =>
      refine ⟨none, by simp, exchanged_quietly rfl (by simp) ?_⟩
      rintro b x ⟨rfl⟩
      exact RequestReplyClient.flow_exchanged
  | fixed flow =>
      refine ⟨_, rfl, fun b b' opened got x serves grown before => ?_⟩
      exact fixed_exchanged flow here serves grown before.1 before.2
  | temp flow =>
      refine ⟨_, rfl, fun b b' opened got x serves grown before => ?_⟩
      exact temp_exchanged flow here serves grown before.1 before.2
  | recorded =>
      exact ⟨none, by simp [RequestReplyClient.recordResult_requests],
        exchanged_quietly rfl (by simp) fun b x before => before⟩
  | closed | unwound =>
      exact ⟨none, by simp, exchanged_quietly rfl (by simp) fun b x before => before⟩

theorem RRStep.exchanged {r' : RequestReplyClient} {t t' : RRThread}
    (step : RRStep r t answer r' t') :
    ∃ put : Option Queued, r'.requests = r.requests ++ put.toList ∧ r'.route = r.route ∧
      ∀ call', t' = .call call' → ∃ call, t = .call call ∧
        ∀ b b' opened got x, Serves b r call answer opened got →
          b'.messages = b.messages ++ put.toList → call.pc.Exchanged b r.route x →
          call'.pc.Exchanged b' r.route (x.add opened (putsAt b put) got) := by
  cases step with
  | @cancelled running e =>
      refine ⟨none, by simp, rfl, ?_⟩
      rintro _ ⟨rfl⟩
      exact ⟨running, rfl, exchanged_quietly rfl (by simp) fun b x before => before⟩
  | @called running _ _ running' moved =>
      have step := requestReplyWithCreator_step moved
      obtain ⟨put, requests, exchanged⟩ := step.exchanged rfl
      refine ⟨put, requests, step.route, ?_⟩
      rintro _ ⟨rfl⟩
      exact ⟨running, rfl, exchanged⟩
  | probed | closed => exact ⟨none, by simp, rfl, by simp⟩

end Steps

/-! ## The calls of a client on the queue manager -/

/-- What goroutine `i` of a component has done. -/
def exchangeOf (past : List NetEvent) (i : Nat) : Exchange where
  opened := entriesOf i (past.filterMap NetEvent.openedBy)
  sent := entriesOf i (past.filterMap NetEvent.putAt)
  received := entriesOf i (past.filterMap NetEvent.gotAt)

theorem exchangeOf_append (first second : List NetEvent) (i : Nat) :
    exchangeOf (first ++ second) i = (exchangeOf first i).add (exchangeOf second i).opened
      (exchangeOf second i).sent (exchangeOf second i).received := by
  simp [exchangeOf, Exchange.add]

structure Asks (b : QueueManager) (past : List NetEvent) (c : RRConfig) : Prop where
  vacant : ∀ i, c.threads.length ≤ i → exchangeOf past i = {}
  each : ∀ (i : Nat) call, c.threads[i]? = some (.call call) →
    call.pc.Exchanged b c.shared.route (exchangeOf past i)

section Nodes

variable {b b' : QueueManager} {c : RRConfig} {a : NetMove}

section Events

variable {C C' : Component} {m : ComponentMove}

theorem exchangeOf_componentEvents (i : Nat) :
    exchangeOf (componentEvents b C C' m) i =
      { opened := entriesOf i m.opens.toList
        sent := entriesOf i (((List.range (C'.sent.length - C.sent.length)).map
          (b.messages.length + ·)).map (m.thread, ·)) } := by
  simp [exchangeOf, componentEvents_openedBy, componentEvents_putAt, componentEvents_gotAt,
    Function.comp_def]

theorem opens_act (i : Nat) (answer : RRAnswer) :
    (ComponentMove.requestReply (.act i answer)).opens.toList = answer.names.map (i, ·) := by
  cases answer <;> rfl

theorem exchangeOf_own {i : Nat} {answer : RRAnswer} {put : Option Queued}
    (sent : C'.sent = C.sent ++ put.toList) :
    exchangeOf (componentEvents b C C' (.requestReply (.act i answer))) i =
      ⟨answer.names, putsAt b put, []⟩ := by
  rw [exchangeOf_componentEvents, opens_act, entriesOf_own, ComponentMove.thread, entriesOf_own]
  cases put <;> simp [sent, putsAt]

theorem exchangeOf_other {i i' : Nat} {answer : RRAnswer} (other : i' ≠ i) :
    exchangeOf (componentEvents b C C' (.requestReply (.act i answer))) i' = {} := by
  rw [exchangeOf_componentEvents, opens_act, entriesOf_other other.symm, ComponentMove.thread,
    entriesOf_other other.symm]

theorem exchangeOf_got (i i' n : Nat) :
    exchangeOf [.got i n] i' = { received := if i = i' then [n] else [] } := by
  by_cases own : i = i' <;> simp [exchangeOf, NetEvent.openedBy, NetEvent.putAt, NetEvent.gotAt,
    entriesOf, own]

end Events

/-- What a request-reply client can do on the queue manager. -/
inductive RRServed (b : QueueManager) (c : RRConfig) (b' : QueueManager) (events : List NetEvent) :
    RRConfig → Prop where
  | called {r} : b'.messages = b.messages → (∀ i, exchangeOf events i = {}) →
      RRServed b c b' events ⟨c.shared, c.threads ++ [requestReplyProgram.start r]⟩
  | act {i t answer r u opened got} : c.threads[i]? = some t → RRStep c.shared t answer r u →
      (∀ call, t = .call call → Serves b c.shared call answer opened got) →
      (∀ put : Option Queued, r.requests = c.shared.requests ++ put.toList →
        b'.messages = b.messages ++ put.toList ∧
          exchangeOf events i = ⟨opened, putsAt b put, got⟩) →
      (∀ i', i' ≠ i → exchangeOf events i' = {}) →
      RRServed b c b' events ⟨r, c.threads.set i u⟩

theorem Component.gets_requestReply {i : Nat} {q : Queued} {m : ComponentMove}
    (accepted : (Component.requestReply c).gets i q = some m) :
    (∃ call, c.threads[i]? = some (.call call) ∧ call.mayGet c.shared q = true) ∧
      m = .requestReply (.act i (.got q.md q.body)) := by
  simp only [gets] at accepted
  split at accepted
  · split at accepted
    · cases accepted
      exact ⟨⟨_, ‹_›, ‹_›⟩, rfl⟩
    · cases accepted
  · cases accepted

theorem NetStep.requestReply {t' : Node}
    (step : NetStep b (.component (.requestReply c)) a b' t') :
    ∃ c', t' = .component (.requestReply c') ∧
      RRServed b c b' (netEvents b (.component (.requestReply c)) a t') c' := by
  cases step with
  | @own _ m b₁ C notGot named next =>
      cases m with
      | sender | listener => cases next
      | requestReply m =>
          obtain ⟨c', moved, rfl⟩ := Option.map_eq_some_iff.mp next
          have kept := (name_messages named).1
          refine ⟨c', rfl, ?_⟩
          obtain ⟨r, rfl, rfl⟩ | ⟨i, answer, t, r, u, started, rfl, found, stepped, rfl⟩ :=
            Program.next_cases moved
          · refine .called ?_ fun i => ?_
            · simp [QueueManager.serve, QueueManager.arrive, Component.sent, kept]
            · simp only [netEvents, exchangeOf_componentEvents]
              simp [Component.sent, ComponentMove.opens]
          · obtain ⟨step, rfl⟩ := requestReplyProgram_step stepped
            rw [List.append_nil]
            have notGot : ∀ md data, answer ≠ .got md data := by
              rintro md data rfl
              cases notGot
            refine .act found step (fun _ _ => .own notGot) (fun put requests => ⟨?_, ?_⟩)
              fun i' other => exchangeOf_other other
            · simp [QueueManager.serve, QueueManager.arrive, Component.sent, kept, requests]
            · exact exchangeOf_own requests
  | @get _ i n q m C here accepted next =>
      obtain ⟨⟨call, found, may⟩, rfl⟩ := Component.gets_requestReply accepted
      obtain ⟨c', moved, rfl⟩ := Option.map_eq_some_iff.mp next
      refine ⟨c', rfl, ?_⟩
      obtain ⟨_, same, -⟩ | ⟨_, _, t, r, u, started, same, found', stepped, rfl⟩ :=
        Program.next_cases moved <;> cases same
      obtain rfl : t = .call call := by simpa [found] using found'.symm
      obtain ⟨step, rfl⟩ := requestReplyProgram_step stepped
      rw [List.append_nil]
      simp only [netEvents, here, Option.bind_some, accepted]
      have serves : ∀ call', RRThread.call call = .call call' →
          Serves b c.shared call' (.got q.md q.body) [] [n] := by
        rintro _ ⟨rfl⟩
        exact .get (QueueManager.find_some here).2 may
      refine .act found step serves (fun put requests => ⟨?_, ?_⟩) fun i' other => ?_
      · simp [QueueManager.serve, QueueManager.arrive, QueueManager.take, Component.sent, requests]
      · have sent : (Component.requestReply ⟨r, c.threads.set i u⟩).sent =
            (Component.requestReply c).sent ++ put.toList := requests
        rw [exchangeOf_append, exchangeOf_own sent, exchangeOf_got]
        simp [Exchange.add, RRAnswer.names]
      · rw [exchangeOf_append, exchangeOf_other other, exchangeOf_got]
        simp [Exchange.add, other.symm]

theorem Asks.step {c' : RRConfig} {past : List NetEvent} (asks : Asks b past c)
    (step : NetStep b (.component (.requestReply c)) a b' (.component (.requestReply c'))) :
    Asks b' (past ++ netEvents b (.component (.requestReply c)) a (.component (.requestReply c')))
      c' := by
  have grown := step.extends
  obtain ⟨_, same, served⟩ := step.requestReply
  cases same
  cases served with
  | @called r _ quiet =>
      refine ⟨fun i beyond => ?_, fun i call at_i => ?_⟩
      · simp only [List.length_append, List.length_singleton] at beyond
        rw [exchangeOf_append, asks.vacant i (by omega), quiet i]
        rfl
      · rw [exchangeOf_append, quiet i, Exchange.add_nothing]
        rw [List.getElem?_append] at at_i
        split at at_i
        · exact (asks.each i call at_i).other grown
        · rename_i beyond
          rw [asks.vacant i (not_lt.mp beyond)]
          have new := List.mem_singleton.mp (List.mem_of_getElem? at_i)
          cases r with
          | requestReply =>
              cases new
              rfl
          | health | close => cases new
  | @act i t answer r u opened got found inner serves puts quiet =>
      obtain ⟨put, requests, route, exchanged⟩ := inner.exchanged
      obtain ⟨messages, own⟩ := puts put requests
      have inside := (List.getElem?_eq_some_iff.mp found).1
      refine ⟨fun i' beyond => ?_, fun i' call at_i => ?_⟩
      · rw [List.length_set] at beyond
        rw [exchangeOf_append, asks.vacant i' beyond, quiet i' (by omega)]
        rfl
      · rw [exchangeOf_append, route]
        by_cases same : i = i'
        · subst same
          rw [List.getElem?_set_self inside] at at_i
          cases at_i
          obtain ⟨call₀, rfl, goesOn⟩ := exchanged call rfl
          rw [own]
          exact goesOn b b' opened got _ (serves call₀ rfl) messages (asks.each i call₀ found)
        · rw [List.getElem?_set_ne same] at at_i
          rw [quiet i' (Ne.symm same), Exchange.add_nothing]
          exact (asks.each i' call at_i).other grown

theorem NetStep.of_requestReply {t : Node} {c' : RRConfig}
    (step : NetStep b t a b' (.component (.requestReply c'))) :
    ∃ c, t = .component (.requestReply c) := by
  cases step with
  | own _ _ next | get _ _ next =>
      cases Component.next_step next with
      | requestReply => exact ⟨_, rfl⟩

def Node.Asks (b : QueueManager) (past : List NetEvent) : Node → Prop
  | .component (.requestReply c) => CommonsMQ.Asks b past c
  | _ => True

theorem netProgram_asks :
    Program.Tells netProgram netEvents (fun _ => True) fun b past t => t.Asks b past := by
  intro b t a b' t' started _ stepped
  obtain ⟨step, rfl⟩ := netProgram_step stepped
  refine ⟨trivial, fun past u asks => ?_, fun past asks => ?_, by simp⟩
  · cases u with
    | foreign => trivial
    | component C =>
        cases C with
        | sender | listener => trivial
        | requestReply c =>
            exact ⟨asks.vacant, fun i call found => (asks.each i call found).other step.extends⟩
  · cases t' with
    | foreign => trivial
    | component C' =>
        cases C' with
        | sender | listener => trivial
        | requestReply c' =>
            obtain ⟨c, rfl⟩ := step.of_requestReply
            exact CommonsMQ.Asks.step asks step

theorem Node.asks_start (b : QueueManager) (r : NetRequest) : (netProgram.start r).Asks b [] := by
  cases r with
  | foreign => trivial
  | build cfg what =>
      cases what with
      | newRequestReplyClient | newRequestReplyClientFixed => exact ⟨fun _ _ => rfl, by simp⟩
      | newListener | newSender => trivial

end Nodes

/-! ## No reply goes astray -/

theorem QueueManager.name_fresh {b b' : QueueManager} {m : ComponentMove}
    (named : b.name m = some b') : ∀ o ∈ m.opens, o.2 ∉ b.dynamic := by
  intro o opened
  unfold name at named
  rw [Option.mem_def.mp opened] at named
  dsimp only at named
  split at named
  · rename_i fresh
    simp only [isFresh, Bool.and_eq_true] at fresh
    exact of_decide_eq_true fresh.1
  · cases named

/-- No GET opens a queue. -/
theorem Component.gets_opens {C : Component} {i : Nat} {q : Queued} {m : ComponentMove}
    (accepted : C.gets i q = some m) : m.opens = none := by
  cases C with
  | sender => cases accepted
  | listener =>
      obtain ⟨-, -, rfl⟩ := Component.gets_listener accepted
      rfl
  | requestReply =>
      obtain ⟨-, rfl⟩ := Component.gets_requestReply accepted
      rfl

theorem NetStep.opens {b b' : QueueManager} {t t' : Node} {a : NetMove}
    (step : NetStep b t a b' t') :
    ∃ new : Option (Nat × String),
      (netEvents b t a t').filterMap NetEvent.openedBy = new.toList ∧
      b'.dynamic = b.dynamic ++ new.toList.map Prod.snd ∧ ∀ o ∈ new, o.2 ∉ b.dynamic := by
  cases step with
  | @own c m b₁ c' _ named =>
      refine ⟨m.opens, componentEvents_openedBy .., ?_, QueueManager.name_fresh named⟩
      rw [QueueManager.serve, QueueManager.arrive, (name_messages named).2.2]
      cases m.opens <;> rfl
  | get here accepted =>
      refine ⟨none, ?_, ?_, by simp⟩
      · simp only [netEvents, here, Option.bind_some, accepted, List.filterMap_append,
          componentEvents_openedBy, Component.gets_opens accepted]
        rfl
      · simp [QueueManager.serve, QueueManager.arrive, QueueManager.take]
  | foreignPut => exact ⟨none, rfl, by simp [QueueManager.arrive], by simp⟩
  | foreignTake => exact ⟨none, rfl, by simp [QueueManager.take], by simp⟩

theorem openedBy_once {ms : List (Move NetRequest NetMove)} {net : Net}
    (run : netProgram.exec ⟨{}, []⟩ ms = some net) :
    ((readAll NetEvent.openedBy (netLog ms)).map fun o => o.2.2).Nodup := by
  obtain ⟨all, once⟩ := Recorded.run QueueManager.dynamic
    (fun _ _ _ _ _ step => step.opens) rfl run
  rwa [all]

section Requests

variable {b : QueueManager} {route : Route} {x : Exchange}

theorem Asked.only {n : Nat} {request : Queued} (asked : Asked b route x n request) :
    ∀ n ∈ x.sent, ∃ request, Asked b route x n request := by
  intro n' member
  obtain rfl : n' = n := by simpa [asked.sent] using member
  exact ⟨request, asked⟩

theorem Unanswered.only (unanswered : Unanswered b route x) :
    ∀ n ∈ x.sent, ∃ request, Asked b route x n request := by
  obtain nothing | ⟨n, request, asked⟩ := unanswered.asked
  · simp [nothing]
  · exact asked.only

theorem Settled.only {result : Except GoError (Message Bytes)}
    (settled : Settled b route x result) : ∀ n ∈ x.sent, ∃ request, Asked b route x n request := by
  cases result with
  | ok msg =>
      obtain ⟨n, request, m, reply, answered⟩ := settled
      exact answered.toAsked.only
  | error => exact Unanswered.only settled

/-- Every request of a call names the queue where the call expects its reply. -/
theorem RRPc.Exchanged.only {pc : RRPc} (exchanged : pc.Exchanged b route x) :
    ∀ n ∈ x.sent, ∃ request, Asked b route x n request := by
  cases pc with
  | checkCtx | checkClosed | dial | markDialFailed =>
      obtain rfl : x = {} := exchanged
      simp
  | fixed pc =>
      cases pc with
      | get =>
          obtain ⟨-, -, n, request, asked, -⟩ := exchanged
          exact asked.only
      | _ =>
          obtain rfl : x = {} := exchanged.2
          simp
  | temp pc =>
      cases pc with
      | get =>
          obtain ⟨-, -, -, n, request, asked⟩ := exchanged
          exact asked.only
      | _ =>
          obtain rfl := exchanged.2
          simp
  | record | returned => exact Settled.only exchanged
  | closeConn result =>
      cases result with
      | none => exact Unanswered.only exchanged
      | some => exact Settled.only exchanged
  | panicked => exact Unanswered.only exchanged

end Requests

/-- What goroutine `i` of program `j` has done. -/
def exchangeAt (log : List (Nat × NetEvent)) (j i : Nat) : Exchange :=
  exchangeOf (entriesOf j log) i

/-- The last two parts are what the queue manager is assumed to see to: it names each dynamic
    queue afresh (`QueueManager.isFresh`) and gives a message to one GET
    (`QueueManager.find`). What the code adds is the first part, which needs them to mean
    that the reply is no other call's. -/
theorem replies_keep_to_their_calls (ms : List (Move NetRequest NetMove)) (net : Net)
    (run : netProgram.exec ⟨{}, []⟩ ms = some net) :
    (∀ j c i call, net.threads[j]? = some (.component (.requestReply c)) →
      c.threads[i]? = some (.call call) →
      (∀ n ∈ (exchangeAt (netLog ms) j i).sent, ∃ request,
        Asked net.shared c.shared.route (exchangeAt (netLog ms) j i) n request) ∧
      ∀ msg, call.pc = .returned (.ok msg) → ∃ n request m reply,
        Answered net.shared c.shared.route (exchangeAt (netLog ms) j i) msg n request m reply) ∧
    (∀ j i j' i' queue, queue ∈ (exchangeAt (netLog ms) j i).opened →
      queue ∈ (exchangeAt (netLog ms) j' i').opened → j = j' ∧ i = i') ∧
    ∀ j i j' i' m, m ∈ (exchangeAt (netLog ms) j i).received →
      m ∈ (exchangeAt (netLog ms) j' i').received → j = j' ∧ i = i' := by
  refine ⟨fun j c i call client found => ?_, fun j i j' i' queue first second => ?_,
    fun j i j' i' m first second => ?_⟩
  · have asks : Asks net.shared (entriesOf j (netLog ms)) c :=
      Program.exec_log (fun b r _ => Node.asks_start b r) netProgram_asks trivial run client
    have exchanged := asks.each i call found
    refine ⟨exchanged.only, fun msg returned => ?_⟩
    rw [returned] at exchanged
    exact exchanged
  · exact entriesAt_unique (openedBy_once run) first second
  · exact entriesAt_unique (receivedAt_once run) first second

/-- A call at `j` over a temporary queue of the given name, up to its GET. -/
def asksOver (j : Nat) (name : String) : List (Move NetRequest NetMove) :=
  [.call (.requestReply none 1000000 false none), .act 0 .go, .act 0 .go,
    .act 0 (.dialed (.ok 7)), .act 0 (.openedDynamic name), .act 0 .go, .act 0 (.opened none),
    .act 0 (.putOk .zero)].map fun m => .act j (.own (.requestReply m))

def returnsReply (j n : Nat) : List (Move NetRequest NetMove) :=
  .act j (.get 0 n) :: [.act 0 .go, .act 0 (.disced none)].map
    fun m => .act j (.own (.requestReply m))

/-- Two clients ask at once, and the second is answered first. -/
def crossedReplies : List (Move NetRequest NetMove) :=
  [.call (.build .minimal (.newRequestReplyClient "REQ" [])),
    .call (.build .minimal (.newRequestReplyClient "REQ" [])), .call .foreign] ++
  asksOver 0 "DYN.1" ++ asksOver 1 "DYN.2" ++
  [.act 2 (.foreignPut ⟨"DYN.2", {}, [2]⟩), .act 2 (.foreignPut ⟨"DYN.1", {}, [1]⟩)] ++
  returnsReply 1 2 ++ returnsReply 0 3

theorem replies_keep_to_their_calls_crossed : ∃ net c call msg,
    netProgram.exec ⟨{}, []⟩ crossedReplies = some net ∧
      net.threads[0]? = some (.component (.requestReply c)) ∧
      c.threads[0]? = some (.call call) ∧ call.pc = .returned (.ok msg) ∧ msg.body = [1] ∧
      ∃ n request m reply, Answered net.shared c.shared.route
        (exchangeAt (netLog crossedReplies) 0 0) msg n request m reply := by
  obtain ⟨net, c, call, msg, run, client, found, returned, body⟩ : ∃ net c call msg,
      netProgram.exec ⟨{}, []⟩ crossedReplies = some net ∧
      net.threads[0]? = some (.component (.requestReply c)) ∧
      c.threads[0]? = some (.call call) ∧ call.pc = .returned (.ok msg) ∧ msg.body = [1] :=
    ⟨_, _, _, _, rfl, rfl, rfl, rfl, rfl⟩
  exact ⟨net, c, call, msg, run, client, found, returned, body,
    ((replies_keep_to_their_calls crossedReplies net run).1 0 c 0 call client found).2 msg returned⟩

end CommonsMQ
