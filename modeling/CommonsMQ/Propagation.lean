import CommonsMQ.Sender.Pool
import CommonsMQ.Listener.Handoff

/-! # User properties and trace context across the queue

A sender injects the context of its span into the user properties of the message,
and a listener extracts the parent of its own span from the user properties of the
message it received. Between the two lie a descriptor and a body, and neither
carries the map: what arrives is always empty.
-/

namespace CommonsMQ

open Interleave Memory

/-! ## What a sender puts -/

/-- The wrapped creator injects into `left`: what the creator made of the message,
    or the message as `put` built it where there is no creator. -/
def CreatorLeaves (left : Message Bytes) : SendAnswer → Prop
  | .created (.ok msg) => msg = left
  | .go => left = .fresh
  | _ => False

/-- In `c` the creator of `call` leaves `left`; with the injected context that is
    `sent`, and while other calls go on `MQPUT` accepts it as `q`. -/
inductive PutsAs (c : SenderConfig) (i : Nat) (call : SendCall) (left sent : Message Bytes)
    (q : Queued) : Prop where
  | intro {conn retry answer c₁ ms c₂ call₂ id c₃}
      (found : c.threads[i]? = some (.send call)) (here : call.pc = .put conn retry .runCreator)
      (leaves : CreatorLeaves left answer) (ran : senderProgram.next c (.act i answer) = some c₁)
      (others : ∀ a, .act i a ∈ ms → ∃ e, a = .cancel e) (between : senderProgram.exec c₁ ms = some c₂)
      (at_i : c₂.threads[i]? = some (.send call₂)) (ready : call₂.pc = .put conn retry (.mqput sent))
      (accepted : senderProgram.next c₂ (.act i (.putOk id)) = some c₃)
      (landed : c₃.shared.queues = c₂.shared.queues ++ [q])

/-- Call `i` is about to put `msg`. -/
structure Ready (cfg : Config) (i : Nat) (destination : String) (msg : Message Bytes)
    (c : SenderConfig) : Prop where
  cfg : c.shared.cfg = cfg
  call : ∃ call conn retry, c.threads[i]? = some (.send call) ∧
    call.pc = .put conn retry (.mqput msg) ∧ call.destination = destination

section Puts

variable {c c' : SenderConfig} {i : Nat} {call : SendCall} {left sent : Message Bytes} {q : Queued}

theorem CreatorLeaves.ready {conn retry answer} (found : c.threads[i]? = some (.send call))
    (here : call.pc = .put conn retry .runCreator) (leaves : CreatorLeaves left answer)
    (ran : senderProgram.next c (.act i answer) = some c') :
    Ready c.shared.cfg i call.destination
      (injectToMessage c.shared.cfg.propagator call.span left) c' := by
  have inside := (List.getElem?_eq_some_iff.mp found).1
  cases answer with
  | created result =>
      rw [next_send found (by simp)] at ran
      cases result with
      | error err => exact leaves.elim
      | ok msg =>
          obtain rfl : msg = left := leaves
          cases creator : call.hasCreator with
          | false => simp [sendWithCreator, here, put, creator] at ran
          | true =>
              simp only [sendWithCreator, here, put, creator, if_true, Option.map_some,
                Option.some.injEq] at ran
              subst ran
              exact ⟨rfl, _, conn, retry, List.getElem?_set_self inside, rfl, rfl⟩
  | go =>
      rw [next_send found (by simp)] at ran
      obtain rfl : left = .fresh := leaves
      cases creator : call.hasCreator with
      | true => simp [sendWithCreator, here, put, creator] at ran
      | false =>
          simp only [sendWithCreator, here, put, creator, Bool.false_eq_true, if_false,
            Option.map_some, Option.some.injEq] at ran
          subst ran
          exact ⟨rfl, _, conn, retry, List.getElem?_set_self inside, rfl, rfl⟩
  | cancel | loop | receive | giveUp | opened | panics | putOk | putFailed | disced =>
      exact leaves.elim

/-- What other calls do, and a cancellation, leave it about to put `sent`. -/
theorem Ready.next {cfg destination} {m : SenderMove} (ready : Ready cfg i destination sent c)
    (other : ∀ a, m = .act i a → ∃ e, a = .cancel e) (moved : senderProgram.next c m = some c') :
    Ready cfg i destination sent c' := by
  obtain ⟨cfg', call, conn, retry, found, here, there⟩ := ready
  have settings := sender_settings (Program.exec_single moved)
  refine ⟨settings.cfg.trans cfg', ?_⟩
  obtain ⟨-, kept⟩ | ⟨a, t', started, same, stepped, at_i⟩ := Program.next_at found moved
  · exact ⟨call, conn, retry, kept, here, there⟩
  · obtain ⟨e, rfl⟩ := other a same
    obtain ⟨-, rfl, -⟩ : c.shared = c'.shared ∧
        .send { call with ctx := some (call.ctx.getD e) } = t' ∧ started = [] := by
      simpa [senderProgram, SenderThread.step] using stepped
    exact ⟨_, conn, retry, at_i, here, there⟩

theorem Ready.run {cfg destination} {ms : List SenderMove} (ready : Ready cfg i destination sent c)
    (others : ∀ a, .act i a ∈ ms → ∃ e, a = .cancel e) (run : senderProgram.exec c ms = some c') :
    Ready cfg i destination sent c' := by
  have keep : ∀ c m c', Ready cfg i destination sent c → (∀ a, m = .act i a → ∃ e, a = .cancel e) →
      senderProgram.next c m = some c' → Ready cfg i destination sent c' :=
    fun _ _ _ ready other moved => ready.next other moved
  refine Program.exec_invariant keep ready (Program.meets_of_forall ?_) run
  rintro m member a rfl
  exact others a member

/-- The message on the queue is made of the descriptor and the body alone. -/
theorem PutsAs.queued (puts : PutsAs c i call left sent q) :
    sent = injectToMessage c.shared.cfg.propagator call.span left ∧
      ∃ id, q = ⟨call.destination, { putDescriptor c.shared.cfg sent with msgId := id },
        sent.body⟩ := by
  obtain @⟨conn, retry, answer, c₁, ms, c₂, call₂, id, c₃, found, here, leaves, ran, others,
    between, at_i, ready, accepted, landed⟩ := puts
  obtain ⟨cfg, call', conn', retry', at_i', ready', destination⟩ :=
    (leaves.ready found here ran).run others between
  obtain rfl : call₂ = call' := by
    simpa using Option.some.inj (at_i.symm.trans at_i')
  obtain ⟨-, -, same⟩ : conn = conn' ∧ retry = retry' ∧ sent = _ := by
    simpa using ready.symm.trans ready'
  refine ⟨same, id, ?_⟩
  rw [next_send at_i (by simp)] at accepted
  simp only [sendWithCreator, ready, put, Option.map_some, Option.some.injEq] at accepted
  rw [← accepted] at landed
  simpa [Sender.landed, destination, cfg, eq_comm] using landed

end Puts

/-! ## What a listener receives -/

/-- Every span of a handler was started below what the message carried. -/
structure SpanInv (cfg : Config) (d : ListenerConfig) : Prop where
  protocol : ProtocolInv d
  cfg : d.shared.cfg = cfg
  parents : ∀ k, .consumer k ∈ d.threads → ∀ h ∈ k.handed,
    h.parent = extractFromMessage d.shared.cfg.propagator d.shared.runSpan h.msg

section Receives

variable {d d' : ListenerConfig} {l l' : Listener} {k k' : Consumer} {cfg : Config}

theorem mem_closeHandOff {outcome : HandlerOutcome} {handed : List HandOff} {h : HandOff}
    (member : h ∈ closeHandOff outcome handed) :
    ∃ old ∈ handed, h.msg = old.msg ∧ h.parent = old.parent := by
  unfold closeHandOff at member
  split at member
  · exact ⟨h, member, rfl, rfl⟩
  · rename_i last found
    obtain ⟨init, rfl⟩ := List.getLast?_eq_some_iff.mp found
    simp only [List.dropLast_concat, List.mem_append, List.mem_singleton] at member
    rcases member with old | rfl
    · exact ⟨h, List.mem_append_left _ old, rfl, rfl⟩
    · exact ⟨last, by simp, rfl, rfl⟩

theorem ConsumeStep.handed {pc out} (step : ConsumeStep l k pc l' k' out) :
    ∀ h ∈ k'.handed, (∃ old ∈ k.handed, h.msg = old.msg ∧ h.parent = old.parent) ∨
      h.parent = extractFromMessage l.cfg.propagator l.runSpan h.msg := by
  intro h member
  cases step with
  | handOff =>
      rcases List.mem_append.mp member with old | new
      · exact .inl ⟨h, old, rfl, rfl⟩
      · obtain rfl := List.mem_singleton.mp new
        exact .inr rfl
  | handled | unreported | reported => exact .inl (mem_closeHandOff member)
  | opened | openFailed | cancelled | polled | got | empty | getFailed | calledBack =>
      exact .inl ⟨h, member, rfl, rfl⟩

theorem ConsumerStep.parents {pc} (step : ConsumerStep l k pc l' k')
    (before : ∀ h ∈ k.handed, h.parent = extractFromMessage l.cfg.propagator l.runSpan h.msg) :
    ∀ h ∈ k'.handed, h.parent = extractFromMessage l'.cfg.propagator l'.runSpan h.msg := by
  rw [step.sameRun.cfg, step.sameRun.runSpan]
  cases step with
  | consuming inner | consumed inner =>
      intro h member
      obtain ⟨old, inside, msg, parent⟩ | new := inner.handed h member
      · rw [parent, msg]
        exact before old inside
      · exact new
  | _ => exact before

theorem StartStep.runSpan {call call' : StartCall} {pc fresh}
    (step : StartStep l call pc l' call' fresh) (started : l.started = true) :
    l'.runSpan = l.runSpan := by
  cases step with
  | admitted _ unset => simp [started] at unset
  | _ => rfl

theorem ListenerStep.settings {t t' : ListenerThread} {fresh : List ListenerThread}
    (step : ListenerStep l t l' t' fresh) :
    l'.cfg = l.cfg ∧ (l.started = true → l'.runSpan = l.runSpan) := by
  cases step with
  | start inner => exact ⟨inner.sameConsumers.cfg, inner.runSpan⟩
  | consumer inner => exact ⟨inner.sameRun.cfg, fun _ => inner.sameRun.runSpan⟩
  | probe => exact ⟨rfl, fun _ => rfl⟩
  | close inner =>
      refine ⟨inner.sameConsumers.cfg, fun _ => ?_⟩
      cases inner <;> rfl

theorem SpanInv.next {m : ListenerMove} (inv : SpanInv cfg d)
    (moved : listenerProgram.next d m = some d') : SpanInv cfg d' := by
  have protocol := inv.protocol.next moved
  obtain ⟨r, -, rfl⟩ | ⟨i, answer, t, l, t', fresh, -, found, step, rfl⟩ := listener_cases moved
  · exact ⟨protocol, inv.cfg, fun k member => inv.parents k (consumer_after_call member)⟩
  · refine ⟨protocol, step.settings.1.trans inv.cfg, fun k inside => ?_⟩
    obtain ⟨k₀, rfl, inner⟩ | ⟨j, -, at_j⟩ | ⟨n, rfl, -⟩ := consumer_after found step inside
    · exact inner.parents (inv.parents k₀ (List.mem_of_getElem? found))
    · have old := List.mem_of_getElem? at_j
      simp only
      rw [step.settings.1, step.settings.2 (inv.protocol.started_of_consumer old)]
      exact inv.parents k old
    · simp

theorem SpanInv.run {ms : List ListenerMove} (inv : SpanInv cfg d)
    (run : listenerProgram.exec d ms = some d') : SpanInv cfg d' :=
  Program.exec_invariant (fun _ _ _ inv _ moved => inv.next moved) inv (Program.meets_true ms) run

theorem newListener_cfg (client : ClientConfig) (queueName : String)
    (opts : List ListenerOption) : (newListener client queueName opts).cfg = client.cfg := by
  suffices ∀ l : Listener, (opts.foldl ListenerOption.apply l).cfg = l.cfg from this _
  intro l
  induction opts generalizing l with
  | nil => rfl
  | cons opt rest ih =>
      refine (ih _).trans ?_
      cases opt with
      | withListenerConcurrency n | withListenerMaxRetries n =>
          simp only [ListenerOption.apply]
          split <;> rfl
      | withListenerErrorHandler => rfl

/-- The handler sees an empty map, whatever was put. -/
theorem handed_of_removed {client : ClientConfig} {queueName : String}
    {opts : List ListenerOption} {ms : List ListenerMove}
    (run : listenerProgram.exec ⟨newListener client queueName opts, []⟩ ms = some d)
    (member : .consumer k ∈ d.threads) {n : Nat} {md : MQMD} {data : Bytes} {h : HandOff}
    (removed : k.removed[n]? = some (md, data)) (handed : k.handed[n]? = some h) :
    d.shared.seen h.msg = messageFromMQMD md data ∧
      h.parent = extractFromMessage client.cfg.propagator d.shared.runSpan h.msg := by
  have fresh : BodyInv ⟨newListener client queueName opts, []⟩ :=
    ⟨List.nodup_nil, by simp [buffers], by simp⟩
  have delivered := ((fresh.run run).holds k member).delivered
  have start : SpanInv client.cfg ⟨newListener client queueName opts, []⟩ :=
    ⟨.start client queueName opts, newListener_cfg client queueName opts, by simp⟩
  have spans := start.run run
  constructor
  · have seen : (k.messages.map d.shared.seen)[n]? = some (d.shared.seen h.msg) := by
      simp [Consumer.messages, handed]
    have got : (k.removed.map fun r => messageFromMQMD r.1 r.2)[n]? =
        some (messageFromMQMD md data) := by
      simp [removed]
    rw [← delivered, List.getElem?_append_left (List.getElem?_eq_some_iff.mp seen).1, seen] at got
    exact Option.some.inj got
  · rw [← spans.cfg]
    exact spans.parents k member h (List.mem_of_getElem? handed)

end Receives

/-! ## End to end -/

/-- What the handler was given agrees with `sent`: the map, what is extracted from it
    in the context `ctx` of the listener, and the parent of the consumer span, which is
    the span of the producer if there is one. -/
structure PropertiesSurvive (p : Propagator) (span ctx : Option SpanContext)
    (sent : Message Bytes) (h : HandOff) : Prop where
  sameMap : h.msg.userProperties = sent.userProperties
  extracted : h.parent = p.extract ctx (sent.userProperties.getD ∅)
  parent : ∀ producer, span = some producer → h.parent = some producer

theorem foldl_insert_eq_empty {sets : List (String × String)} {props : Properties} :
    sets.foldl (fun m kv => m.insert kv.1 kv.2) props = ∅ ↔ sets = [] ∧ props = ∅ := by
  induction sets generalizing props with
  | nil => simp
  | cons kv rest ih =>
      simp only [List.foldl_cons, ih, List.cons_ne_nil, false_and, iff_false, not_and]
      intro _ empty
      have member : kv.1 ∈ props.insert kv.1 kv.2 := Finmap.mem_insert.mpr (.inl rfl)
      rw [empty] at member
      exact Finmap.notMem_empty member

theorem injectToMessage_properties (p : Propagator) (span : Option SpanContext)
    (left : Message Bytes) :
    (injectToMessage p span left).userProperties = some ∅ ↔
      left.userProperties.getD ∅ = ∅ ∧ p.inject span ∅ = [] := by
  simp only [injectToMessage, Option.some.injEq, foldl_insert_eq_empty]
  constructor
  · rintro ⟨none, empty⟩
    exact ⟨empty, empty ▸ none⟩
  · rintro ⟨empty, none⟩
    exact ⟨empty.symm ▸ none, empty⟩

theorem newSender_cfg (client : ClientConfig) (destinationQueue : String)
    (opts : List SenderOption) : (newSender client destinationQueue opts).cfg = client.cfg := by
  suffices ∀ s : Sender, (opts.foldl SenderOption.apply s).cfg = s.cfg from this _
  intro s
  induction opts generalizing s with
  | nil => rfl
  | cons opt rest ih =>
      refine (ih _).trans ?_
      cases opt with
      | withSenderConcurrency n =>
          simp only [SenderOption.apply]
          split <;> rfl

/-- Nothing may have to cross the queue: no property, no injected field, and the span of
    the producer is what the listener takes for the parent where a message names none. -/
theorem properties_survive_iff (sender receiver : ClientConfig)
    (samePropagator : receiver.cfg.propagator = sender.cfg.propagator)
    (destinationQueue : String) (senderOpts : List SenderOption) (sends : List SenderMove)
    (c : SenderConfig)
    (sending : senderProgram.exec ⟨newSender sender destinationQueue senderOpts, []⟩ sends = some c)
    (i : Nat) (call : SendCall) (left sent : Message Bytes) (q : Queued)
    (puts : PutsAs c i call left sent q)
    (queueName : String) (listenerOpts : List ListenerOption) (receives : List ListenerMove)
    (d : ListenerConfig)
    (receiving : listenerProgram.exec ⟨newListener receiver queueName listenerOpts, []⟩ receives =
      some d)
    (k : Consumer) (member : .consumer k ∈ d.threads) (n : Nat) (h : HandOff)
    (removed : k.removed[n]? = some (q.md, q.body)) (handed : k.handed[n]? = some h) :
    PropertiesSurvive sender.cfg.propagator call.span d.shared.runSpan sent h ↔
      (left.userProperties.getD ∅ = ∅ ∧ sender.cfg.propagator.inject call.span ∅ = []) ∧
      ∀ producer, call.span = some producer →
        sender.cfg.propagator.extract d.shared.runSpan ∅ = some producer := by
  obtain ⟨same, -⟩ := puts.queued
  have cfg : c.shared.cfg = sender.cfg :=
    (sender_settings sending).cfg.trans (newSender_cfg sender destinationQueue senderOpts)
  rw [cfg] at same
  obtain ⟨seen, parent⟩ := handed_of_removed receiving member removed handed
  have empty : h.msg.userProperties = some ∅ :=
    congrArg Message.userProperties seen
  rw [samePropagator, extractFromMessage, empty] at parent
  rw [← injectToMessage_properties, ← same]
  constructor
  · intro survives
    refine ⟨survives.sameMap.symm.trans empty, fun producer isSome => ?_⟩
    exact parent.symm.trans (survives.parent producer isSome)
  · rintro ⟨none, here⟩
    refine ⟨empty.trans none.symm, by rw [none]; exact parent, fun producer isSome => ?_⟩
    exact parent.trans (here producer isSome)

/-! ## One message -/

/-- The minimal settings with propagator `p`. -/
def ClientConfig.tracing (p : Propagator) : ClientConfig where
  cfg := Config.applyDefaults
    { queueManagerName := "QM1", connectionName := "localhost(1414)", channelName := "APP"
      telemetry := some ⟨some p⟩ }
  defaulted := ⟨_, rfl⟩
  valid := (Config.complaints_applyDefaults _).mpr ⟨by simp, by simp, by simp, le_rfl⟩

/-- A call connects and comes to the point where its creator runs. -/
def connects (span : Option SpanContext) : List SenderMove :=
  [.call (.send "" none true span), .act 0 .go, .act 0 .go, .act 0 .go, .act 0 .go, .act 0 .go,
    .act 0 (.loop .check), .act 0 (.loop (.dialed (.ok 7))), .act 0 .go, .act 0 .go,
    .act 0 (.opened none)]

/-- The only consumer of a listener that is started in a context with `span` receives
    `md` with an empty body. -/
def receivesOne (span : Option SpanContext) (md : MQMD) : List ListenerMove :=
  [.call (.start none span), .act 0 .go, .act 0 .go, .act 0 .go, .act 1 .go, .act 1 .go,
    .act 1 (.loop .check), .act 1 (.loop (.dialed (.ok 9))), .act 1 .go, .act 1 .go,
    .act 1 (.opened none), .act 1 .go, .act 1 (.got md []), .act 1 .go]

def traceparent : Propagator where
  inject
    | none, _ => []
    | some span, _ => [("traceparent", "00-" ++ span.traceID ++ "-" ++ span.spanID ++ "-01")]
  extract ctx props :=
    match props.lookup "traceparent" with
    | none => ctx
    | some text =>
        match text.splitOn "-" with
        | [_, traceID, spanID, _] => some ⟨traceID, spanID⟩
        | _ => ctx

/-- A call whose creator is about to run can put whatever the creator leaves. -/
theorem PutsAs.of_runCreator {c : SenderConfig} {i : Nat} {call : SendCall} {conn retry}
    (found : c.threads[i]? = some (.send call)) (here : call.pc = .put conn retry .runCreator)
    (creator : call.hasCreator = true) (left : Message Bytes) (id : MsgId) :
    ∃ md, PutsAs c i call left (injectToMessage c.shared.cfg.propagator call.span left)
      ⟨call.destination, md, left.body⟩ := by
  have inside := (List.getElem?_eq_some_iff.mp found).1
  have leaves : CreatorLeaves left (.created (.ok left)) := rfl
  obtain ⟨c₁, call₁, ran, at_i, ready, destination⟩ : ∃ c₁ call₁,
      senderProgram.next c (.act i (.created (.ok left))) = some c₁ ∧
      c₁.threads[i]? = some (.send call₁) ∧
      call₁.pc = .put conn retry
        (.mqput (injectToMessage c.shared.cfg.propagator call.span left)) ∧
      call₁.destination = call.destination := by
    rw [next_send found (by simp)]
    simp only [sendWithCreator, here, put, creator, if_true, Option.map_some, Option.some.injEq]
    exact ⟨_, _, rfl, List.getElem?_set_self inside, rfl, rfl⟩
  obtain ⟨c₂, md, accepted, landed⟩ : ∃ c₂ md,
      senderProgram.next c₁ (.act i (.putOk id)) = some c₂ ∧
      c₂.shared.queues = c₁.shared.queues ++ [⟨call.destination, md, left.body⟩] := by
    rw [next_send at_i (by simp)]
    simp only [sendWithCreator, ready, put, Option.map_some, destination, Option.some.injEq]
    exact ⟨_, _, rfl, rfl⟩
  have between : senderProgram.exec c₁ [] = some c₁ := rfl
  exact ⟨md, .intro found here leaves ran (by simp) between at_i ready accepted landed⟩

def exampleSpan : SpanContext := ⟨"4bf92f3577b34da6a3ce929d0e0e4736", "00f067aa0ba902b7"⟩

/-- A call comes to the point where its creator runs. -/
theorem connects_runCreator {p : Propagator} (setup : p = .noop ∨ p = traceparent) : ∃ c call,
    senderProgram.exec ⟨newSender (.tracing p) "Q" [.withSenderConcurrency 1], []⟩
      (connects (some exampleSpan)) = some c ∧
    c.threads[0]? = some (.send call) ∧ call.pc = .put 0 false .runCreator ∧
    call.hasCreator = true ∧ call.span = some exampleSpan := by
  rcases setup with rfl | rfl
  · exact ⟨_, _, rfl, rfl, rfl, rfl, rfl⟩
  · exact ⟨_, _, rfl, rfl, rfl, rfl, rfl⟩

/-- A listener that receives `md` hands it on. -/
theorem receivesOne_hands {p : Propagator} {span : Option SpanContext}
    (setup : p = .noop ∧ span = some exampleSpan ∨ p = traceparent ∧ span = none) (md : MQMD) :
    ∃ d k h,
      listenerProgram.exec ⟨newListener (.tracing p) "Q" [.withListenerConcurrency 1], []⟩
        (receivesOne span md) = some d ∧
      .consumer k ∈ d.threads ∧ d.shared.runSpan = span ∧
      k.removed[0]? = some (md, []) ∧ k.handed[0]? = some h := by
  obtain ⟨d, k, h, run, found, rest⟩ : ∃ d k h,
      listenerProgram.exec ⟨newListener (.tracing p) "Q" [.withListenerConcurrency 1], []⟩
        (receivesOne span md) = some d ∧
      d.threads[1]? = some (.consumer k) ∧ d.shared.runSpan = span ∧
      k.removed[0]? = some (md, []) ∧ k.handed[0]? = some h := by
    rcases setup with ⟨rfl, rfl⟩ | ⟨rfl, rfl⟩
    · exact ⟨_, _, _, rfl, rfl, rfl, rfl, rfl⟩
    · exact ⟨_, _, _, rfl, rfl, rfl, rfl, rfl⟩
  exact ⟨d, k, h, run, List.mem_of_getElem? found, rest⟩

/-- With the propagator that does nothing, sender and listener work below one span. -/
theorem properties_survive_sharedSpan : ∃ c call sent q d k h,
    senderProgram.exec ⟨newSender (.tracing .noop) "Q" [.withSenderConcurrency 1], []⟩
      (connects (some exampleSpan)) = some c ∧
    PutsAs c 0 call .fresh sent q ∧ call.span = some exampleSpan ∧
    listenerProgram.exec ⟨newListener (.tracing .noop) "Q" [.withListenerConcurrency 1], []⟩
      (receivesOne (some exampleSpan) q.md) = some d ∧
    .consumer k ∈ d.threads ∧ k.removed[0]? = some (q.md, q.body) ∧ k.handed[0]? = some h ∧
    PropertiesSurvive .noop call.span d.shared.runSpan sent h := by
  obtain ⟨c, call, sending, found, here, creator, span⟩ := connects_runCreator (.inl rfl)
  obtain ⟨md, puts⟩ := PutsAs.of_runCreator found here creator .fresh .zero
  obtain ⟨d, k, h, receiving, member, shared, removed, handed⟩ :=
    receivesOne_hands (.inl ⟨rfl, rfl⟩) md
  refine ⟨c, call, _, _, d, k, h, sending, puts, span, receiving, member, removed, handed, ?_⟩
  refine (properties_survive_iff (.tracing .noop) (.tracing .noop) rfl _ _ _ c sending 0
    call .fresh _ _ puts _ _ _ d receiving k member 0 h removed handed).mpr ⟨⟨rfl, rfl⟩, ?_⟩
  intro producer isSome
  exact shared.trans (span.symm.trans isSome)

/-- The handler of a listener with the same settings sees no property, and its span
    has no parent. -/
theorem traceparent_lost : ∃ c call sent q d k h,
    senderProgram.exec ⟨newSender (.tracing traceparent) "Q" [.withSenderConcurrency 1], []⟩
      (connects (some exampleSpan)) = some c ∧
    PutsAs c 0 call .fresh sent q ∧
    listenerProgram.exec ⟨newListener (.tracing traceparent) "Q" [.withListenerConcurrency 1], []⟩
      (receivesOne none q.md) = some d ∧
    .consumer k ∈ d.threads ∧ k.removed[0]? = some (q.md, q.body) ∧ k.handed[0]? = some h ∧
    h.msg.userProperties ≠ sent.userProperties ∧ h.parent ≠ call.span := by
  obtain ⟨c, call, sending, found, here, creator, span⟩ := connects_runCreator (.inr rfl)
  obtain ⟨md, puts⟩ := PutsAs.of_runCreator found here creator .fresh .zero
  obtain ⟨d, k, h, receiving, member, noSpan, removed, handed⟩ :=
    receivesOne_hands (.inr ⟨rfl, rfl⟩) md
  have cfg : c.shared.cfg = (ClientConfig.tracing traceparent).cfg :=
    (sender_settings sending).cfg.trans (newSender_cfg _ _ _)
  obtain ⟨seen, parent⟩ := handed_of_removed receiving member removed handed
  have empty : h.msg.userProperties = some ∅ := congrArg Message.userProperties seen
  refine ⟨c, call, _, _, d, k, h, sending, puts, receiving, member, removed, handed, ?_, ?_⟩
  · rw [empty, cfg, span]
    intro same
    have none := ((injectToMessage_properties _ _ _).mp same.symm).2
    cases none
  · rw [parent, extractFromMessage, empty, noSpan, span]
    exact nofun

end CommonsMQ
