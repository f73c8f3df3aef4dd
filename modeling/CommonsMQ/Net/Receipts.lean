import CommonsMQ.Client.Steps
import CommonsMQ.Listener.Handoff
import CommonsMQ.Net.Model

/-! # What arrives, and who receives it

A component on the queue manager makes the moves it could make alone, so that everything
known of its runs holds for it here. A message is received once at most, whoever asks for it.
The handlers of a listener see the messages that its GETs returned, with the contents that
were put.
-/

namespace CommonsMQ

open Interleave

namespace NetStep

variable {b b' : QueueManager} {t t' : Node} {a : NetMove}

theorem name_messages {m : ComponentMove} (named : b.name m = some b') :
    b'.messages = b.messages ∧ b'.taken = b.taken ∧
      b'.dynamic = b.dynamic ++ (m.opens.map Prod.snd).toList := by
  unfold QueueManager.name at named
  split at named
  · cases named
    simp [*]
  · split at named <;> cases named
    simp [*]

/-- Messages stay where they arrived. -/
theorem messages (step : NetStep b t a b' t') : ∃ more, b'.messages = b.messages ++ more := by
  cases step with
  | own _ named => exact ⟨_, by rw [← (name_messages named).1]; rfl⟩
  | get | foreignPut => exact ⟨_, rfl⟩
  | foreignTake => exact ⟨[], (List.append_nil _).symm⟩

theorem message_at (step : NetStep b t a b' t') {n : Nat} {q : Queued}
    (here : b.messages[n]? = some q) : b'.messages[n]? = some q := by
  obtain ⟨more, grown⟩ := step.messages
  rw [grown, List.getElem?_append_left (List.getElem?_eq_some_iff.mp here).1, here]

end NetStep

/-! ## Each component runs as it does alone -/

def Node.Reached : Node → Prop
  | .component C => ∃ cfg, C.Reached cfg
  | .foreign => True

theorem NetStep.reached {b b' : QueueManager} {t t' : Node} {a : NetMove}
    (step : NetStep b t a b' t') (reached : t.Reached) : t'.Reached := by
  cases step with
  | own _ _ next | get _ _ next =>
      obtain ⟨cfg, reached⟩ := reached
      exact ⟨cfg, reached.next (Component.next_step next)⟩
  | foreignPut | foreignTake => trivial

theorem net_reached {ms : List (Move NetRequest NetMove)} {net : Net} {j : Nat}
    (run : netProgram.exec ⟨{}, []⟩ ms = some net) :
    ∀ t, net.threads[j]? = some t → t.Reached := by
  refine Program.exec_position (G := fun _ => True) (Q := fun _ t => t.Reached) ?_ ?_ trivial
    (by simp) run
  · intro b r _
    cases r with
    | build cfg what => exact ⟨cfg, Component.reached_build cfg what⟩
    | foreign => trivial
  · intro b t a b' t' started _ stepped
    obtain ⟨step, rfl⟩ := netProgram_step stepped
    exact ⟨trivial, fun _ reached => reached, step.reached, by simp⟩

/-! ## What the GETs of a consumer returned -/

def ListenerAnswer.receives : ListenerAnswer → List (MQMD × Bytes)
  | .got md data => [(md, data)]
  | _ => []

/-- What a move gives to goroutine `i`. -/
def receivedBy (i : Nat) : ListenerMove → List (MQMD × Bytes)
  | .act j a => if j = i then a.receives else []
  | .call _ => []

section Removed

variable {l l' : Listener} {k k' : Consumer} {a : ListenerAnswer}

theorem consumeLoop_removed {pc : ConsumePc} {out : ConsumePc ⊕ Option GoError}
    (h : consumeLoop l k pc a = some (l', k', out)) : k'.removed = k.removed ++ a.receives := by
  unfold consumeLoop at h
  split at h
  case h_4 =>
      split at h <;> cases h
      rfl
  case h_7 =>
      dsimp only at h
      split at h
      · cases h
        simp [ListenerAnswer.receives]
      · split at h <;> cases h <;> simp [ListenerAnswer.receives]
  case h_9 => cases h
  all_goals
    cases h
    simp [ListenerAnswer.receives]

theorem runConsumer_removed (h : runConsumer l k a = some (l', k')) :
    k'.removed = k.removed ++ a.receives := by
  by_cases inside : ∃ pc, k.pc = .consume pc
  · obtain ⟨pc, here⟩ := inside
    simp only [runConsumer, here] at h
    split at h
    · cases h
    all_goals
      rename_i looped
      cases h
      exact (consumeLoop_removed looped :)
  · have silent : a.receives = [] := by
      cases a with
      | got =>
          unfold runConsumer at h
          split at h <;> simp_all
      | _ => rfl
    have step := runConsumer_step h
    generalize here : k.pc = pc at step
    rw [silent, List.append_nil]
    cases step with
    | consuming | consumed => exact absurd ⟨_, here⟩ inside
    | _ => rfl

/-- What a move of a listener adds to the messages that a consumer has removed. -/
theorem listener_removed {c c' : ListenerConfig} {m : ListenerMove} {i : Nat}
    (moved : listenerProgram.next c m = some c') (found : c'.threads[i]? = some (.consumer k')) :
    (∃ k, c.threads[i]? = some (.consumer k) ∧ k'.removed = k.removed ++ receivedBy i m) ∨
      c.threads.length ≤ i ∧ k'.removed = [] := by
  obtain ⟨other, same⟩ | ⟨a, t, started, rfl, here, stepped⟩ | ⟨beyond, new⟩ :=
    Program.next_before found moved
  · refine .inl ⟨k', same, ?_⟩
    cases m with
    | call r => simp [receivedBy]
    | act j a =>
        have different : j ≠ i := by
          rintro rfl
          exact other a rfl
        simp [receivedBy, different]
  · cases t with
    | consumer k =>
        obtain ⟨⟨l, k₁⟩, ran, same⟩ := Option.map_eq_some_iff.mp stepped
        cases same
        exact .inl ⟨k, here, by simpa [receivedBy] using runConsumer_removed ran⟩
    | start call =>
        obtain ⟨r, -, same⟩ := Option.map_eq_some_iff.mp stepped
        simp at same
    | probe pc =>
        obtain ⟨r, -, same⟩ := Option.map_eq_some_iff.mp stepped
        simp at same
    | close pc =>
        obtain ⟨r, -, same⟩ := Option.map_eq_some_iff.mp stepped
        simp at same
  · refine .inr ⟨beyond, ?_⟩
    obtain ⟨r, rfl, same⟩ | ⟨j, a, t, u, started, rfl, stepped, member⟩ := new
    · cases r <;> cases same
    · obtain ⟨next, same⟩ := (listenerProgram_step stepped).fresh_new member
      cases same
      rfl

end Removed

/-! ## The messages behind them -/

namespace QueueManager

def contentAt (b : QueueManager) (n : Nat) : Option (MQMD × Bytes) :=
  b.messages[n]?.map fun q => (q.md, q.body)

/-- All that has arrived is still known. -/
def Extends (b b' : QueueManager) : Prop :=
  ∀ (n : Nat) q, b.messages[n]? = some q → b'.messages[n]? = some q

end QueueManager

/-- The GETs of a listener, by goroutine and position, and what they removed. -/
structure Listens (b : QueueManager) (got : List (Nat × Nat)) (c : ListenerConfig) : Prop where
  vacant : ∀ i, c.threads.length ≤ i → entriesOf i got = []
  queue : ∀ e ∈ got, ∃ q, b.messages[e.2]? = some q ∧ q.queue = c.shared.queue
  removed : ∀ i k, c.threads[i]? = some (.consumer k) →
    k.removed.map some = (entriesOf i got).map b.contentAt

namespace Listens

variable {b b' : QueueManager} {got more : List (Nat × Nat)} {c c' : ListenerConfig}
  {m : ListenerMove}

theorem other (listens : Listens b got c) (grown : b.Extends b') : Listens b' got c where
  vacant := listens.vacant
  queue := fun e member => by
    obtain ⟨q, here, same⟩ := listens.queue e member
    exact ⟨q, grown _ q here, same⟩
  removed := fun i k found => by
    rw [listens.removed i k found]
    apply List.map_congr_left
    intro n member
    obtain ⟨q, here, -⟩ := listens.queue _ (mem_entriesOf.mp member)
    simp only [QueueManager.contentAt, here, grown _ q here]

theorem move (listens : Listens b got c) (grown : b.Extends b')
    (moved : listenerProgram.next c m = some c')
    (queue : ∀ e ∈ more, ∃ q, b'.messages[e.2]? = some q ∧ q.queue = c.shared.queue)
    (inside : ∀ e ∈ more, e.1 < c.threads.length)
    (received : ∀ i, (receivedBy i m).map some = (entriesOf i more).map b'.contentAt) :
    Listens b' (got ++ more) c' := by
  have listens := listens.other grown
  have sameQueue : c'.shared.queue = c.shared.queue := by
    obtain ⟨r, -, rfl⟩ | ⟨i, a, t, l, t', fresh, -, -, step, rfl⟩ := listener_cases moved
    · rfl
    · exact step.queue
  have longer : c.threads.length ≤ c'.threads.length := by
    obtain ⟨r, -, rfl⟩ | ⟨i, a, t, l, t', fresh, -, -, step, rfl⟩ := listener_cases moved <;> simp
  have none_beyond : ∀ i, c.threads.length ≤ i → entriesOf i more = [] := by
    intro i beyond
    apply List.eq_nil_iff_forall_not_mem.mpr
    intro n member
    have := inside _ (mem_entriesOf.mp member)
    omega
  refine ⟨fun i beyond => ?_, fun e member => ?_, fun i k found => ?_⟩
  · rw [entriesOf_append, listens.vacant i (by omega), none_beyond i (by omega)]
    rfl
  · rw [sameQueue]
    rcases List.mem_append.mp member with old | new
    · exact listens.queue e old
    · exact queue e new
  · rw [entriesOf_append, List.map_append]
    obtain ⟨k₀, here, grew⟩ | ⟨beyond, nothing⟩ := listener_removed moved found
    · rw [grew, List.map_append, listens.removed i k₀ here, received i]
    · rw [nothing, listens.vacant i beyond, none_beyond i beyond]
      rfl

end Listens

section Steps

variable {b b' : QueueManager}

theorem NetStep.extends {t t' : Node} {a : NetMove} (step : NetStep b t a b' t') :
    b.Extends b' :=
  fun _ _ here => step.message_at here

theorem QueueManager.find_some {n : Nat} {q : Queued} (found : b.find n = some q) :
    n ∉ b.taken ∧ b.messages[n]? = some q := by
  unfold find at found
  split at found
  · cases found
  · exact ⟨‹_›, found⟩

/-- A component that is a listener after a move was one before. -/
theorem Component.next_of_listener {C : Component} {m : ComponentMove} {c' : ListenerConfig}
    (next : C.next m = some (.listener c')) :
    ∃ c own, C = .listener c ∧ m = .listener own ∧ listenerProgram.next c own = some c' := by
  cases Component.next_step next with
  | listener moved => exact ⟨_, _, rfl, rfl, moved⟩

theorem Component.gets_listener {c : ListenerConfig} {i : Nat} {q : Queued} {m : ComponentMove}
    (accepted : (Component.listener c).gets i q = some m) :
    (∃ k, c.threads[i]? = some (.consumer k) ∧ k.pc = .consume .get) ∧
      q.queue = c.shared.queue ∧ m = .listener (.act i (.got q.md q.body)) := by
  simp only [gets] at accepted
  split at accepted
  · rename_i k found
    split at accepted
    · cases accepted
      rename_i may
      unfold Consumer.mayGet at may
      split at may
      · exact ⟨⟨k, found, ‹_›⟩, of_decide_eq_true may, rfl⟩
      · cases may
    · cases accepted
  · cases accepted

/-- A move of the component's own gives no message to a consumer. -/
theorem receivedBy_own {m : ListenerMove} (own : ComponentMove.isGot (.listener m) = false)
    (i : Nat) : receivedBy i m = [] := by
  cases m with
  | call r => rfl
  | act j a =>
      cases a with
      | got => cases own
      | _ => simp [receivedBy, ListenerAnswer.receives]

def Node.Listens (b : QueueManager) (past : List NetEvent) : Node → Prop
  | .component (.listener c) => CommonsMQ.Listens b (past.filterMap NetEvent.gotAt) c
  | _ => True

theorem NetStep.listens {t t' : Node} {a : NetMove} {past : List NetEvent}
    (step : NetStep b t a b' t') (listens : t.Listens b past) :
    t'.Listens b' (past ++ netEvents b t a t') := by
  cases t' with
  | foreign => trivial
  | component C' =>
      cases C' with
      | sender | requestReply => trivial
      | listener c' =>
          have grown := step.extends
          simp only [Node.Listens, List.filterMap_append]
          cases step with
          | own notGot named next =>
              obtain ⟨c, own, rfl, rfl, moved⟩ := Component.next_of_listener next
              simp only [netEvents, componentEvents_gotAt]
              apply Listens.move listens grown moved <;> simp [receivedBy_own notGot]
          | get here accepted next =>
              rename_i i n q m
              obtain ⟨c, own, rfl, rfl, moved⟩ := Component.next_of_listener next
              obtain ⟨⟨k, found, -⟩, queue, same⟩ := Component.gets_listener accepted
              cases same
              have arrived := grown _ _ (QueueManager.find_some here).2
              simp only [netEvents, here, Option.bind_some, accepted, List.filterMap_append,
                componentEvents_gotAt]
              apply Listens.move listens grown moved
              · simpa [NetEvent.gotAt] using ⟨_, arrived, queue⟩
              · simpa [NetEvent.gotAt] using (List.getElem?_eq_some_iff.mp found).1
              · intro i'
                by_cases own : i = i' <;>
                  simp [receivedBy, own, ListenerAnswer.receives, entriesOf, NetEvent.gotAt,
                    QueueManager.contentAt, arrived]

theorem netProgram_listens :
    Program.Tells netProgram netEvents (fun _ => True) fun b past t => t.Listens b past := by
  intro b t a b' t' started _ stepped
  obtain ⟨step, rfl⟩ := netProgram_step stepped
  refine ⟨trivial, fun past u listens => ?_, fun past listens => step.listens listens, by simp⟩
  cases u with
  | foreign => trivial
  | component C =>
      cases C with
      | sender | requestReply => trivial
      | listener c => exact Listens.other listens step.extends

theorem Node.listens_start (b : QueueManager) (r : NetRequest) :
    (netProgram.start r).Listens b [] := by
  cases r with
  | foreign => trivial
  | build cfg what =>
      cases what with
      | newListener => exact ⟨fun _ _ => rfl, by simp, by simp⟩
      | newSender | newRequestReplyClient | newRequestReplyClientFixed => trivial

end Steps

/-! ## Each message once -/

/-- The messages that goroutine `i` of program `j` received. -/
def receivedAt (log : List (Nat × NetEvent)) (j i : Nat) : List Nat :=
  entriesAt NetEvent.gotAt log j i

/-- The messages that program `j` received. -/
def takenBy (log : List (Nat × NetEvent)) (j : Nat) : List Nat :=
  ((entriesOf j log).filterMap NetEvent.gotAt).map Prod.snd

theorem receivedAt_sublist (log : List (Nat × NetEvent)) (j i : Nat) :
    (receivedAt log j i).Sublist (takenBy log j) :=
  entriesAt_sublist ..

/-- The GET of a move: goroutine and position. -/
def NetMove.takes : NetMove → Option (Nat × Nat)
  | .get i n => some (i, n)
  | .foreignTake n => some (0, n)
  | .own _ | .foreignPut _ => none

/-- What a step takes off the queues. -/
theorem NetStep.takes {b b' : QueueManager} {t t' : Node} {a : NetMove}
    (step : NetStep b t a b' t') :
    (netEvents b t a t').filterMap NetEvent.gotAt = a.takes.toList ∧
      b'.taken = b.taken ++ a.takes.toList.map Prod.snd ∧
      ∀ g ∈ a.takes, g.2 ∉ b.taken ∧ ∃ q, b.messages[g.2]? = some q := by
  cases step with
  | own _ named =>
      refine ⟨componentEvents_gotAt .., ?_, by simp [NetMove.takes]⟩
      simp [QueueManager.serve, QueueManager.arrive, (name_messages named).2.1, NetMove.takes]
  | @get c i n q m c' here accepted =>
      obtain ⟨left, found⟩ := QueueManager.find_some here
      refine ⟨?_, rfl, ?_⟩
      · simp only [netEvents, here, Option.bind_some, accepted, List.filterMap_append,
          componentEvents_gotAt]
        rfl
      · rintro _ ⟨rfl⟩
        exact ⟨left, q, found⟩
  | foreignPut => exact ⟨rfl, by simp [QueueManager.arrive, NetMove.takes], by simp [NetMove.takes]⟩
  | @foreignTake n q here =>
      obtain ⟨left, found⟩ := QueueManager.find_some here
      refine ⟨rfl, rfl, ?_⟩
      rintro _ ⟨rfl⟩
      exact ⟨left, q, found⟩

/-- The list `kept` of the queue manager has what `f` reads in the log, all of it once. -/
structure Recorded {β : Type} (f : NetEvent → Option (Nat × β)) (kept : QueueManager → List β)
    (past : List (Nat × NetEvent)) (net : Net) : Prop where
  all : (readAll f past).map (fun e => e.2.2) = kept net.shared
  once : (kept net.shared).Nodup

theorem Recorded.run {β : Type} {f : NetEvent → Option (Nat × β)} (kept : QueueManager → List β)
    (step : ∀ b t a b' t', NetStep b t a b' t' → ∃ new : Option (Nat × β),
      (netEvents b t a t').filterMap f = new.toList ∧
        kept b' = kept b ++ new.toList.map Prod.snd ∧ ∀ e ∈ new, e.2 ∉ kept b)
    (empty : kept {} = []) {ms : List (Move NetRequest NetMove)} {net : Net}
    (run : netProgram.exec ⟨{}, []⟩ ms = some net) : Recorded f kept (netLog ms) net := by
  refine netLog_invariant (I := Recorded f kept) (fun _ _ _ before => ⟨before.all, before.once⟩) ?_
    ⟨empty.symm, by simp [empty]⟩ (Program.meets_true ms) run
  rintro past net j t a b t' ⟨all, once⟩ _ _ stepped
  obtain ⟨new, logged, grown, fresh⟩ := step _ _ _ _ _ stepped
  refine ⟨?_, ?_⟩
  · rw [readAll_append, readAll_own, List.map_append, all, logged, grown]
    simp [Function.comp_def]
  · rw [grown]
    cases added : new with
    | none => simpa using once
    | some e =>
        refine List.nodup_append.mpr ⟨once, List.nodup_singleton _, ?_⟩
        rintro x member y here rfl
        exact fresh e added (by simpa [List.mem_singleton.mp here] using member)

/-- The queue manager knows which messages are gone. -/
theorem net_taken {ms : List (Move NetRequest NetMove)} {net : Net}
    (run : netProgram.exec ⟨{}, []⟩ ms = some net) :
    Recorded NetEvent.gotAt QueueManager.taken (netLog ms) net := by
  refine Recorded.run _ (fun b t a b' t' step => ?_) rfl run
  obtain ⟨logged, grown, new⟩ := step.takes
  exact ⟨a.takes, logged, grown, fun g took => (new g took).1⟩

theorem receivedAt_once {ms : List (Move NetRequest NetMove)} {net : Net}
    (run : netProgram.exec ⟨{}, []⟩ ms = some net) :
    ((readAll NetEvent.gotAt (netLog ms)).map fun g => g.2.2).Nodup := by
  obtain ⟨all, once⟩ := net_taken run
  rwa [all]

/-- The message at position `n` as a listener makes it. -/
def QueueManager.messageAt (b : QueueManager) (n : Nat) : Option (Message Bytes) :=
  (b.contentAt n).map fun content => messageFromMQMD content.1 content.2

/-- A consumer has handed over, in order, the messages at `positions`, the one that its last
    GET returned perhaps excepted. -/
structure HandsOver (b : QueueManager) (positions : List Nat) (l : Listener) (k : Consumer) :
    Prop where
  queue : ∀ n ∈ positions, ∃ q, b.messages[n]? = some q ∧ q.queue = l.queue
  inOrder : (k.messages.map l.seen ++
      k.pending.map fun p => messageFromMQMD p.1 (l.heap.read p.2)).map some =
    positions.map b.messageAt

theorem net_handsOver {ms : List (Move NetRequest NetMove)} {net : Net} {j i : Nat}
    {c : ListenerConfig} {k : Consumer} (run : netProgram.exec ⟨{}, []⟩ ms = some net)
    (listener : net.threads[j]? = some (.component (.listener c)))
    (consumer : c.threads[i]? = some (.consumer k)) :
    HandsOver net.shared (receivedAt (netLog ms) j i) c.shared k := by
  have listens : Listens net.shared ((entriesOf j (netLog ms)).filterMap NetEvent.gotAt) c :=
    Program.exec_log (fun b r _ => Node.listens_start b r) netProgram_listens trivial run listener
  obtain ⟨client, queueName, opts, own, alone⟩ := net_reached run _ listener
  have fresh : BodyInv ⟨newListener client queueName opts, []⟩ :=
    ⟨List.nodup_nil, by simp [buffers], by simp⟩
  have delivered := ((fresh.run alone).holds k (List.mem_of_getElem? consumer)).delivered
  refine ⟨fun n member => listens.queue _ (mem_entriesOf.mp member), ?_⟩
  have removed := congrArg (List.map (Option.map fun r => messageFromMQMD r.1 r.2))
    (listens.removed i k consumer)
  rw [List.map_map, List.map_map] at removed
  rw [delivered, List.map_map]
  exact removed

/-- That no message is received twice is what the queue manager is assumed to see to: a GET
    finds only what nobody has taken (`QueueManager.find`). What the code adds is the last
    part: a consumer has handed over exactly what its own GETs were given. -/
theorem received_once (ms : List (Move NetRequest NetMove)) (net : Net)
    (run : netProgram.exec ⟨{}, []⟩ ms = some net) :
    (∀ j i, (receivedAt (netLog ms) j i).Nodup) ∧
    (∀ j i j' i' n, n ∈ receivedAt (netLog ms) j i → n ∈ receivedAt (netLog ms) j' i' →
      j = j' ∧ i = i') ∧
    ∀ j c i k, net.threads[j]? = some (.component (.listener c)) →
      c.threads[i]? = some (.consumer k) →
      HandsOver net.shared (receivedAt (netLog ms) j i) c.shared k := by
  have once := receivedAt_once run
  refine ⟨entriesAt_nodup once, fun j i j' i' n first second => ?_, ?_⟩
  · exact entriesAt_unique once first second
  · intro j c i k listener consumer
    exact net_handsOver run listener consumer

/-- The listener at `j` starts its only consumer, which then waits for a message. -/
def startsListening (j : Nat) : List (Move NetRequest NetMove) :=
  [.call (.start none none), .act 0 .go, .act 0 .go, .act 0 .go, .act 1 .go, .act 1 .go,
    .act 1 (.loop .check), .act 1 (.loop (.dialed (.ok 7))), .act 1 .go, .act 1 .go,
    .act 1 (.opened none), .act 1 .go].map fun m => .act j (.own (.listener m))

/-- It receives message `n`, handles it and waits for the next one. -/
def receivesAndHandles (j n : Nat) : List (Move NetRequest NetMove) :=
  .act j (.get 1 n) :: [.act 1 .go, .act 1 (.handled .ok), .act 1 .go].map
    fun m => .act j (.own (.listener m))

/-- Two listeners on one queue, on which another program has put two messages. -/
def sharedQueue : List (Move NetRequest NetMove) :=
  [.call (.build .minimal (.newListener "IN" [.withListenerConcurrency 1])),
    .call (.build .minimal (.newListener "IN" [.withListenerConcurrency 1])), .call .foreign,
    .act 2 (.foreignPut ⟨"IN", {}, [1]⟩), .act 2 (.foreignPut ⟨"IN", {}, [2]⟩)] ++
  startsListening 0 ++ startsListening 1 ++ receivesAndHandles 1 0 ++ receivesAndHandles 0 1

theorem received_once_shared : ∃ net c k,
    netProgram.exec ⟨{}, []⟩ sharedQueue = some net ∧
      net.threads[0]? = some (.component (.listener c)) ∧ c.threads[1]? = some (.consumer k) ∧
      k.messages.length = 1 ∧ receivedAt (netLog sharedQueue) 0 1 = [1] ∧
      HandsOver net.shared (receivedAt (netLog sharedQueue) 0 1) c.shared k := by
  obtain ⟨net, c, k, run, listener, consumer, messages, received⟩ : ∃ net c k,
      netProgram.exec ⟨{}, []⟩ sharedQueue = some net ∧
      net.threads[0]? = some (.component (.listener c)) ∧ c.threads[1]? = some (.consumer k) ∧
      k.messages.length = 1 ∧ receivedAt (netLog sharedQueue) 0 1 = [1] :=
    ⟨_, _, _, rfl, rfl, rfl, rfl, rfl⟩
  exact ⟨net, c, k, run, listener, consumer, messages, received,
    (received_once sharedQueue net run).2.2 0 c 1 k listener consumer⟩

end CommonsMQ
