import CommonsMQ.Net.Receipts
import CommonsMQ.Sender.Delivery
import Mathlib.Data.List.Sort

/-! # Order, from Send to the handler

A call of `Send` that returned an identifier has left a message with it on the destination,
and puts nothing afterwards. So the messages of a call that returned before another one began
arrive first, whichever senders they were made on. If a listener is given the oldest message
of its queue each time, its handlers are called in that order too.
-/

namespace CommonsMQ

open Interleave

/-! ## What a call leaves on its destination -/

/-- The identifier that the call is about to return, or has returned. -/
def SendPc.msgID : SendPc → Option String
  | .markSent _ id | .release _ (.ok id) | .finish (.ok id) | .returned (.ok id) => some id
  | _ => none

/-- What a step of a call puts on the queues. -/
inductive SendFiles (call : SendCall) : List Queued → SendCall → Prop where
  | nothing {call'} : call'.destination = call.destination ∨ call.pc = .resolve →
      (call'.pc = .resolve → call.pc = .resolve) →
      (∀ id, call'.pc.msgID = some id → call.pc.msgID = some id) →
      (∀ result, call.pc = .returned result → call'.pc = .returned result) →
      SendFiles call [] call'
  | one {q call'} : q.queue = call.destination → call'.destination = call.destination →
      call'.pc ≠ .resolve → (∀ id, call'.pc.msgID = some id → q.md.msgId.hex = id) →
      (∀ result, call.pc ≠ .returned result) → SendFiles call [q] call'

section Steps

variable {s s' : Sender}

theorem PutStep.files {queueName span attempt pc answer attempt' out}
    (step : PutStep s queueName span attempt pc answer s' attempt' out) :
    s'.queues = s.queues ∧ (∀ id, out ≠ .returned (.ok id)) ∨
      ∃ q, s'.queues = s.queues ++ [q] ∧ q.queue = queueName ∧
        ∀ id, out = .returned (.ok id) → q.md.msgId.hex = id := by
  cases step with
  | putOk => exact .inr ⟨_, rfl, rfl, fun id same => by cases same; rfl⟩
  | putUncertain => exact .inr ⟨_, rfl, rfl, fun id same => by cases same⟩
  | _ => exact .inl ⟨rfl, by simp⟩

theorem afterPut_msgID {conn : ConnId} {retry : Bool} {result : Except GoError String}
    {id : String} (sent : (afterPut conn retry result).msgID = some id) : result = .ok id := by
  cases result with
  | ok msgID => exact congrArg Except.ok (Option.some.inj sent)
  | error err =>
      simp only [afterPut] at sent
      split at sent
      · cases sent
      · split at sent <;> cases sent

theorem afterPut_running (conn : ConnId) (retry : Bool) (result : Except GoError String) :
    afterPut conn retry result ≠ .resolve := by
  cases result with
  | ok => simp [afterPut]
  | error =>
      simp only [afterPut]
      split
      · simp
      · split <;> simp

theorem SendStep.files {call call' : SendCall} {answer} (step : SendStep s call answer s' call') :
    ∃ more, s'.queues = s.queues ++ more ∧ SendFiles call more call' := by
  cases step with
  | putting here inner | putPanicked here inner =>
      obtain ⟨same, -⟩ | ⟨q, added, queue, -⟩ := inner.files
      · exact ⟨[], by simpa using same, .nothing (.inl rfl) (by simp) (by simp [SendPc.msgID])
          (by simp [here])⟩
      · exact ⟨[q], added, .one queue rfl (by simp) (by simp [SendPc.msgID]) (by simp [here])⟩
  | putReturned here inner =>
      obtain ⟨same, failed⟩ | ⟨q, added, queue, named⟩ := inner.files
      · refine ⟨[], by simpa using same, .nothing (.inl rfl) ?_ ?_ (by simp [here])⟩
        · exact fun back => absurd back (afterPut_running _ _ _)
        · exact fun id sent => absurd (congrArg PutOutcome.returned (afterPut_msgID sent))
            (failed id)
      · exact ⟨[q], added, .one queue rfl (afterPut_running _ _ _)
          (fun id sent => named id (congrArg _ (afterPut_msgID sent))) (by simp [here])⟩
  | resolved here | noDestination here =>
      exact ⟨[], by simp, .nothing (.inr here) (by simp) (by simp [SendPc.msgID])
        (by simp [here])⟩
  | acquiring here inner | acquireFailed here inner | acquired here inner =>
      exact ⟨[], by simpa using inner.queues.1, .nothing (.inl rfl) (by simp)
        (by simp [SendPc.msgID]) (by simp [here])⟩
  | markReconnecting here _ set | reconnecting here _ _ set | reconnected here _ _ set
  | reconnectFailed here _ _ set | closeConn here _ set =>
      obtain ⟨old, live, -, -, rfl⟩ := Sender.setConn_cases set
      exact ⟨[], by simp [Sender.setState], .nothing (.inl rfl) (by simp)
        (by simp [SendPc.msgID]) (by simp [here])⟩
  | markDiscarded here =>
      refine ⟨[], ?_, .nothing (.inl rfl) (by simp) (by simp [SendPc.msgID]) (by simp [here])⟩
      split <;> simp [Sender.setState]
  | markSent here =>
      exact ⟨[], by simp [Sender.setState], .nothing (.inl rfl) (by simp)
        (by simp [SendPc.msgID, here]) (by simp [here])⟩
  | @release conn result here | @finish result here =>
      refine ⟨[], by simp, .nothing (.inl rfl) (by simp) ?_ (by simp [here])⟩
      cases result <;> simp [SendPc.msgID, here]
  | rejected here | admitted here | markReconnected here | uncreate here | uncount here
  | unwound here =>
      exact ⟨[], by simp [Sender.setState], .nothing (.inl rfl) (by simp)
        (by simp [SendPc.msgID]) (by simp [here])⟩

theorem ThreadStep.files {t t' : SenderThread} {answer} (step : ThreadStep s t answer s' t') :
    ∃ more, s'.queues = s.queues ++ more ∧
      ∀ call', t' = .send call' → ∃ call, t = .send call ∧ SendFiles call more call' := by
  cases step with
  | @cancel call =>
      refine ⟨[], by simp, ?_⟩
      rintro _ ⟨rfl⟩
      exact ⟨call, rfl, .nothing (.inl rfl) id (fun _ => id) fun _ => id⟩
  | @send call _ _ call' inner =>
      obtain ⟨more, grown, files⟩ := inner.files
      refine ⟨more, grown, ?_⟩
      rintro _ ⟨rfl⟩
      exact ⟨call, rfl, files⟩
  | probe inner => exact ⟨[], by cases inner <;> simp, by simp⟩
  | close inner =>
      refine ⟨[], ?_, by simp⟩
      cases inner with
      | closing _ set =>
          obtain ⟨old, live, -, -, rfl⟩ := Sender.setConn_cases set
          simp
      | _ => simp

end Steps

/-- The messages of a call are on its destination, the last of them under the identifier
    that the call returns. -/
structure Files (b : QueueManager) (positions : List Nat) (call : SendCall) : Prop where
  queue : ∀ n ∈ positions, ∃ q, b.messages[n]? = some q ∧ q.queue = call.destination
  before : call.pc = .resolve → positions = []
  named : ∀ id, call.pc.msgID = some id → ∃ n q, n ∈ positions ∧ b.messages[n]? = some q ∧
    q.md.msgId.hex = id

namespace Files

variable {b b' : QueueManager} {positions : List Nat} {call call' : SendCall}

theorem other (files : Files b positions call) (grown : b.Extends b') :
    Files b' positions call where
  queue := fun n member => by
    obtain ⟨q, here, same⟩ := files.queue n member
    exact ⟨q, grown n q here, same⟩
  before := files.before
  named := fun id sent => by
    obtain ⟨n, q, member, here, same⟩ := files.named id sent
    exact ⟨n, q, member, grown n q here, same⟩

theorem step {more : List Queued} (files : Files b positions call)
    (filed : SendFiles call more call') (grown : b'.messages = b.messages ++ more) :
    Files b' (positions ++ (List.range more.length).map (b.messages.length + ·)) call' := by
  have extended : b.Extends b' := by
    intro n q here
    rw [grown, List.getElem?_append_left (List.getElem?_eq_some_iff.mp here).1, here]
  have files := files.other extended
  cases filed with
  | nothing destination back named =>
      simp only [List.length_nil, List.range_zero, List.map_nil, List.append_nil]
      refine ⟨fun n member => ?_, fun here => files.before (back here),
        fun id sent => files.named id (named id sent)⟩
      obtain same | fresh := destination
      · rw [same]
        exact files.queue n member
      · rw [files.before fresh] at member
        cases member
  | @one q _ queue destination running named =>
      have arrived : b'.messages[b.messages.length]? = some q := by simp [grown]
      refine ⟨fun n member => ?_, fun here => absurd here running, fun id sent => ?_⟩
      · rw [destination]
        obtain old | new := List.mem_append.mp member
        · exact files.queue n old
        · obtain rfl : n = b.messages.length := by simpa using new
          exact ⟨q, arrived, queue⟩
      · exact ⟨b.messages.length, q, by simp, arrived, named id sent⟩

end Files

/-- The puts of a sender, by goroutine and position. -/
structure Sends (b : QueueManager) (puts : List (Nat × Nat)) (c : SenderConfig) : Prop where
  vacant : ∀ i, c.threads.length ≤ i → entriesOf i puts = []
  each : ∀ i call, c.threads[i]? = some (.send call) → Files b (entriesOf i puts) call

section Nodes

variable {b b' : QueueManager}

/-- What a sender can do on the queue manager. -/
theorem NetStep.sender {c : SenderConfig} {a : NetMove} {t' : Node}
    (step : NetStep b (.component (.sender c)) a b' t') :
    ∃ c', t' = .component (.sender c') ∧
      ((∃ r, c' = ⟨c.shared, c.threads ++ [senderProgram.start r]⟩ ∧ b'.messages = b.messages ∧
          (netEvents b (.component (.sender c)) a t').filterMap NetEvent.putAt = []) ∨
        ∃ i t answer s u, c.threads[i]? = some t ∧ ThreadStep c.shared t answer s u ∧
          c' = ⟨s, c.threads.set i u⟩ ∧ ∀ more, s.queues = c.shared.queues ++ more →
            b'.messages = b.messages ++ more ∧
            (netEvents b (.component (.sender c)) a t').filterMap NetEvent.putAt =
              (List.range more.length).map fun k => (i, b.messages.length + k)) := by
  cases step with
  | get _ accepted => cases accepted
  | @own _ m b₁ C notGot named next =>
      cases m with
      | listener | requestReply => cases next
      | sender m =>
          obtain ⟨c', moved, rfl⟩ := Option.map_eq_some_iff.mp next
          have kept := (name_messages named).1
          refine ⟨c', rfl, ?_⟩
          obtain ⟨r, rfl, rfl⟩ | ⟨i, answer, t, s, u, rfl, found, inner, rfl⟩ := sender_cases moved
          · refine .inl ⟨r, rfl, ?_, ?_⟩
            · simp [QueueManager.serve, QueueManager.arrive, Component.sent, kept]
            · simp [netEvents, componentEvents_putAt, Component.sent]
          · refine .inr ⟨i, t, answer, s, u, found, inner, rfl, fun more grown => ⟨?_, ?_⟩⟩
            · simp [QueueManager.serve, QueueManager.arrive, Component.sent, kept, grown]
            · simp [netEvents, componentEvents_putAt, Component.sent, grown, ComponentMove.thread]

theorem Sends.step {c c' : SenderConfig} {a : NetMove} {puts : List (Nat × Nat)}
    (sends : Sends b puts c)
    (step : NetStep b (.component (.sender c)) a b' (.component (.sender c'))) :
    Sends b' (puts ++ (netEvents b (.component (.sender c)) a
      (.component (.sender c'))).filterMap NetEvent.putAt) c' := by
  have grown := step.extends
  obtain ⟨_, same, moved⟩ := step.sender
  cases same
  obtain ⟨r, rfl, -, quiet⟩ | ⟨i, t, answer, s, u, found, inner, rfl, served⟩ := moved
  · rw [quiet, List.append_nil]
    refine ⟨fun i beyond => sends.vacant i ?_, fun i call at_i => ?_⟩
    · simp only [List.length_append, List.length_singleton] at beyond
      omega
    · rw [List.getElem?_append] at at_i
      split at at_i
      · exact (sends.each i call at_i).other grown
      · rename_i beyond
        rw [sends.vacant i (not_lt.mp beyond)]
        have new := List.mem_singleton.mp (List.mem_of_getElem? at_i)
        cases r with
        | send =>
            cases new
            exact ⟨by simp, fun _ => rfl, by simp [SendPc.msgID]⟩
        | health | close => cases new
  · obtain ⟨more, longer, filed⟩ := inner.files
    obtain ⟨messages, logged⟩ := served more longer
    have inside := (List.getElem?_eq_some_iff.mp found).1
    rw [logged]
    have split : (List.range more.length).map (fun k => (i, b.messages.length + k)) =
        ((List.range more.length).map (b.messages.length + ·)).map (i, ·) := by simp
    rw [split]
    refine ⟨fun i' beyond => ?_, fun i' call at_i => ?_⟩
    · rw [List.length_set] at beyond
      rw [entriesOf_append, sends.vacant i' beyond, entriesOf_other (by omega)]
      rfl
    · rw [entriesOf_append]
      by_cases own : i = i'
      · subst own
        rw [List.getElem?_set_self inside] at at_i
        cases at_i
        obtain ⟨call₀, rfl, files⟩ := filed call rfl
        rw [entriesOf_own]
        exact (sends.each i call₀ found).step files messages
      · rw [List.getElem?_set_ne own] at at_i
        rw [entriesOf_other own, List.append_nil]
        exact (sends.each i' call at_i).other grown

theorem NetStep.of_sender {t : Node} {a : NetMove} {c' : SenderConfig}
    (step : NetStep b t a b' (.component (.sender c'))) : ∃ c, t = .component (.sender c) := by
  cases step with
  | own _ _ next | get _ _ next =>
      cases Component.next_step next with
      | sender => exact ⟨_, rfl⟩

def Node.Sends (b : QueueManager) (past : List NetEvent) : Node → Prop
  | .component (.sender c) => CommonsMQ.Sends b (past.filterMap NetEvent.putAt) c
  | _ => True

theorem netProgram_sends :
    Program.Tells netProgram netEvents (fun _ => True) fun b past t => t.Sends b past := by
  intro b t a b' t' started _ stepped
  obtain ⟨step, rfl⟩ := netProgram_step stepped
  refine ⟨trivial, fun past u sends => ?_, fun past sends => ?_, by simp⟩
  · cases u with
    | foreign => trivial
    | component C =>
        cases C with
        | listener | requestReply => trivial
        | sender c =>
            exact ⟨sends.vacant, fun i call found => (sends.each i call found).other step.extends⟩
  · cases t' with
    | foreign => trivial
    | component C' =>
        cases C' with
        | listener | requestReply => trivial
        | sender c' =>
            obtain ⟨c, rfl⟩ := step.of_sender
            simp only [Node.Sends, List.filterMap_append] at sends ⊢
            exact CommonsMQ.Sends.step sends step

theorem Node.sends_start (b : QueueManager) (r : NetRequest) :
    (netProgram.start r).Sends b [] := by
  cases r with
  | foreign => trivial
  | build cfg what =>
      cases what with
      | newSender => exact ⟨fun _ _ => rfl, by simp⟩
      | newListener | newRequestReplyClient | newRequestReplyClientFixed => trivial

end Nodes

/-- The messages that goroutine `i` of program `j` put. -/
def sentAt (log : List (Nat × NetEvent)) (j i : Nat) : List Nat :=
  entriesAt NetEvent.putAt log j i

theorem sentAt_append (first second : List (Nat × NetEvent)) (j i : Nat) :
    sentAt (first ++ second) j i = sentAt first j i ++ sentAt second j i :=
  entriesAt_append ..

/-! ## Calls that follow each other -/

section Phases

variable {ms : List (Move NetRequest NetMove)} {net net' : Net} {j i : Nat}

theorem net_sends (run : netProgram.exec ⟨{}, []⟩ ms = some net) {c : SenderConfig}
    (found : net.threads[j]? = some (.component (.sender c))) :
    Sends net.shared ((entriesOf j (netLog ms)).filterMap NetEvent.putAt) c :=
  Program.exec_log (fun b r _ => Node.sends_start b r) netProgram_sends trivial run found

/-- The call has not been made yet. -/
def Net.notYetCalled (net : Net) (j i : Nat) : Prop :=
  net.threads.length ≤ j ∨
    ∃ c, net.threads[j]? = some (.component (.sender c)) ∧ c.threads.length ≤ i

theorem sentAt_notYetCalled (run : netProgram.exec ⟨{}, []⟩ ms = some net)
    (later : net.notYetCalled j i) : sentAt (netLog ms) j i = [] := by
  obtain beyond | ⟨c, found, beyond⟩ := later
  · have vacant := (Program.Logged.run (fun b r _ => Node.sends_start b r) netProgram_sends
      trivial run).vacant j beyond
    have nothing : entriesOf j (netLog ms) = [] := vacant
    rw [sentAt, entriesAt, nothing]
    rfl
  · exact (net_sends run found).vacant i beyond

theorem NetStep.put_late {b b' : QueueManager} {t t' : Node} {a : NetMove}
    (step : NetStep b t a b' t') :
    ∀ g ∈ (netEvents b t a t').filterMap NetEvent.putAt, b.messages.length ≤ g.2 := by
  cases step with
  | own =>
      simp only [netEvents, componentEvents_putAt, List.mem_map]
      rintro g ⟨k, -, rfl⟩
      exact Nat.le_add_right ..
  | get here accepted =>
      simp only [netEvents, here, Option.bind_some, accepted, List.filterMap_append,
        componentEvents_putAt]
      simp [NetEvent.putAt]
  | foreignPut => simp [netEvents]
  | foreignTake => simp [netEvents, NetEvent.putAt]

/-- What is put in a run arrives behind all that was there. -/
theorem sentAt_late (run : netProgram.exec net ms = some net') :
    ∀ n ∈ sentAt (netProgram.log netEvents net ms) j i, net.shared.messages.length ≤ n := by
  have all : net.shared.messages.length ≤ net'.shared.messages.length ∧
      ∀ e ∈ netProgram.log netEvents net ms, ∀ g, e.2.putAt = some g →
        net.shared.messages.length ≤ g.2 := by
    refine netLog_invariant (I := fun past (net₁ : Net) =>
      net.shared.messages.length ≤ net₁.shared.messages.length ∧
        ∀ e ∈ past, ∀ g, e.2.putAt = some g → net.shared.messages.length ≤ g.2)
      (fun _ _ _ before => before) ?_ ⟨le_rfl, by simp⟩ (Program.meets_true ms) run
    intro past net₁ j' t a b t' ⟨longer, late⟩ _ _ step
    obtain ⟨more, grown⟩ := step.messages
    refine ⟨by simp only [grown, List.length_append]; omega, fun e member g put => ?_⟩
    obtain old | new := List.mem_append.mp member
    · exact late e old g put
    · obtain ⟨event, logged, rfl⟩ := List.mem_map.mp new
      exact longer.trans (step.put_late g (List.mem_filterMap.mpr ⟨event, logged, put⟩))
  intro n member
  obtain ⟨event, logged, here⟩ := List.mem_filterMap.mp (mem_entriesOf.mp member)
  exact all.2 (j, event) (mem_entriesOf.mp logged) _ here

/-- Call `i` of the sender at `j` has returned. -/
def Net.sendReturned (net : Net) (j i : Nat) : Prop :=
  ∃ c call result, net.threads[j]? = some (.component (.sender c)) ∧
    c.threads[i]? = some (.send call) ∧ call.pc = .returned result

theorem NetStep.returned {b b' : QueueManager} {c : SenderConfig} {a : NetMove} {t' : Node}
    {call : SendCall} {result : Except GoError String}
    (step : NetStep b (.component (.sender c)) a b' t') (at_i : c.threads[i]? = some (.send call))
    (done : call.pc = .returned result) :
    ∃ c' call', t' = .component (.sender c') ∧ c'.threads[i]? = some (.send call') ∧
      call'.pc = .returned result ∧
      entriesOf i ((netEvents b (.component (.sender c)) a t').filterMap NetEvent.putAt) = [] := by
  have inside := (List.getElem?_eq_some_iff.mp at_i).1
  obtain ⟨c', rfl, moved⟩ := step.sender
  obtain ⟨r, rfl, -, quiet⟩ | ⟨i', t, answer, s, u, found, inner, rfl, served⟩ := moved
  · exact ⟨_, call, rfl, by rwa [List.getElem?_append_left inside], done, by rw [quiet]; rfl⟩
  obtain ⟨more, longer, filed⟩ := inner.files
  have logged := (served more longer).2
  by_cases own : i' = i
  · subst own
    obtain rfl : t = .send call := by simpa [found] using at_i
    obtain ⟨call', rfl⟩ : ∃ call', u = .send call' := by cases inner <;> exact ⟨_, rfl⟩
    obtain ⟨call₀, same, files⟩ := filed call' rfl
    cases same
    refine ⟨_, call', rfl, List.getElem?_set_self inside, ?_⟩
    cases files with
    | nothing _ _ _ kept => exact ⟨kept result done, by rw [logged]; rfl⟩
    | one _ _ _ _ running => exact absurd done (running result)
  · refine ⟨_, call, rfl, by rwa [List.getElem?_set_ne own], done, ?_⟩
    have apart := entriesOf_other own ((List.range more.length).map (b.messages.length + ·))
    rw [List.map_map] at apart
    rw [logged]
    exact apart

/-- A call that has returned puts nothing more. -/
theorem sentAt_returned (run : netProgram.exec net ms = some net')
    (returned : net.sendReturned j i) : sentAt (netProgram.log netEvents net ms) j i = [] := by
  have both : net'.sendReturned j i ∧ sentAt (netProgram.log netEvents net ms) j i = [] := by
    refine netLog_invariant (I := fun past (net₁ : Net) =>
      net₁.sendReturned j i ∧ sentAt past j i = []) ?_ ?_ ⟨returned, rfl⟩
      (Program.meets_true ms) run
    · rintro past net₁ r ⟨⟨c, call, result, found, rest⟩, quiet⟩
      have inside := (List.getElem?_eq_some_iff.mp found).1
      exact ⟨⟨c, call, result, by rwa [List.getElem?_append_left inside], rest⟩, quiet⟩
    · rintro past net₁ j' t a b t' ⟨⟨c, call, result, found, at_i, done⟩, quiet⟩ _ here step
      rw [sentAt_append, quiet, List.nil_append]
      by_cases own : j' = j
      · subst own
        obtain rfl : t = .component (.sender c) := by simpa [found] using here.symm
        obtain ⟨c', call', rfl, at_i', done', nothing⟩ := step.returned at_i done
        rw [sentAt, entriesAt, entriesOf_own]
        have inside := (List.getElem?_eq_some_iff.mp found).1
        exact ⟨⟨c', call', result, List.getElem?_set_self inside, at_i', done'⟩, nothing⟩
      · have apart : sentAt ((netEvents net₁.shared t a t').map (j', ·)) j i = [] := by
          rw [sentAt, entriesAt, entriesOf_other own]
          rfl
        exact ⟨⟨c, call, result, by rwa [List.getElem?_set_ne own], at_i, done⟩, apart⟩
  exact both.2

end Phases

/-! ## Listeners that are given the oldest message -/

namespace QueueManager

def queueAt (b : QueueManager) (n : Nat) : Option String := b.messages[n]?.map Queued.queue

/-- No older message is left on the queue of message `n`. -/
def Oldest (b : QueueManager) (n : Nat) : Prop :=
  ∀ m < n, b.queueAt m = b.queueAt n → m ∈ b.taken

instance (b : QueueManager) (n : Nat) : Decidable (b.Oldest n) :=
  inferInstanceAs (Decidable (∀ m < n, b.queueAt m = b.queueAt n → m ∈ b.taken))

theorem Extends.queueAt {b b' : QueueManager} (grown : b.Extends b') {n : Nat}
    (arrived : n < b.messages.length) : b'.queueAt n = b.queueAt n := by
  have here := List.getElem?_eq_getElem arrived
  simp only [QueueManager.queueAt, here, grown n _ here]

end QueueManager

/-- Program `j` is given the oldest message of a queue each time. -/
def takesOldest (j : Nat) (net : Net) : Move NetRequest NetMove → Prop
  | .act j' a => j' = j → ∀ g ∈ a.takes, net.shared.Oldest g.2
  | .call _ => True

instance (j : Nat) (net : Net) (m : Move NetRequest NetMove) : Decidable (takesOldest j net m) :=
  match m with
  | .act j' a => inferInstanceAs (Decidable (j' = j → ∀ g ∈ a.takes, net.shared.Oldest g.2))
  | .call _ => isTrue trivial

/-- Messages that were received oldest first. -/
structure OldestFirst (b : QueueManager) (positions : List Nat) : Prop where
  arrived : ∀ n ∈ positions, n < b.messages.length
  taken : ∀ n ∈ positions, n ∈ b.taken
  oldest : ∀ n ∈ positions, b.Oldest n
  sorted : positions.Pairwise fun m n => b.queueAt m = b.queueAt n → m < n

namespace OldestFirst

variable {b b' : QueueManager} {positions : List Nat}

theorem other (ordered : OldestFirst b positions) (grown : b.Extends b')
    (longer : b.messages.length ≤ b'.messages.length) (kept : b.taken ⊆ b'.taken) :
    OldestFirst b' positions := by
  have queueAt : ∀ n ∈ positions, ∀ m ≤ n, b'.queueAt m = b.queueAt m := by
    intro n member m older
    exact grown.queueAt (older.trans_lt (ordered.arrived n member))
  refine ⟨?_, fun n member => kept (ordered.taken n member), ?_, ?_⟩
  · exact fun n member => (ordered.arrived n member).trans_le longer
  · intro n member m older equal
    rw [queueAt n member m older.le, queueAt n member n le_rfl] at equal
    exact kept (ordered.oldest n member m older equal)
  · refine ordered.sorted.imp_of_mem ?_
    intro m n first second before equal
    rw [queueAt m first m le_rfl, queueAt n second n le_rfl] at equal
    exact before equal

theorem take (ordered : OldestFirst b positions) {n : Nat} (left : n ∉ b.taken)
    (arrived : n < b.messages.length) (oldest : b.Oldest n) (taken : n ∈ b'.taken)
    (grown : b.Extends b') (longer : b.messages.length ≤ b'.messages.length)
    (kept : b.taken ⊆ b'.taken) : OldestFirst b' (positions ++ [n]) := by
  have before := ordered.other grown longer kept
  have queueAt : ∀ m < b.messages.length, b'.queueAt m = b.queueAt m :=
    fun m here => grown.queueAt here
  refine ⟨?_, ?_, ?_, List.pairwise_append.mpr ⟨before.sorted, List.pairwise_singleton .., ?_⟩⟩
  · exact List.forall_mem_append.mpr ⟨before.arrived, by simpa using arrived.trans_le longer⟩
  · exact List.forall_mem_append.mpr ⟨before.taken, by simpa using taken⟩
  · refine List.forall_mem_append.mpr ⟨before.oldest, ?_⟩
    simp only [List.mem_singleton, forall_eq]
    intro m older equal
    rw [queueAt m (older.trans arrived), queueAt n arrived] at equal
    exact kept (oldest m older equal)
  · intro m member n' new equal
    obtain rfl := List.mem_singleton.mp new
    rw [queueAt m (ordered.arrived m member), queueAt n' arrived] at equal
    -- had it been older than `m`, it would have been gone when `m` was received
    by_contra notLess
    obtain younger | rfl := (not_lt.mp notLess).lt_or_eq
    · exact left (ordered.oldest m member n' younger equal.symm)
    · exact left (ordered.taken _ member)

end OldestFirst

section Steps

variable {j : Nat} {past : List (Nat × NetEvent)} {net : Net}

theorem OldestFirst.act {j' : Nat} {t t' : Node} {a : NetMove} {b : QueueManager}
    (ordered : OldestFirst net.shared (takenBy past j)) (allowed : takesOldest j net (.act j' a))
    (step : NetStep net.shared t a b t') :
    OldestFirst b (takenBy (past ++ (netEvents net.shared t a t').map (j', ·)) j) := by
  obtain ⟨logged, grown, new⟩ := step.takes
  obtain ⟨more, messages⟩ := step.messages
  have longer : net.shared.messages.length ≤ b.messages.length := by simp [messages]
  have kept : net.shared.taken ⊆ b.taken := by
    rw [grown]
    exact List.subset_append_left ..
  simp only [takenBy, entriesOf_append, List.filterMap_append, List.map_append] at ordered ⊢
  by_cases own : j' = j
  · subst own
    rw [entriesOf_own, logged]
    cases took : a.takes with
    | none => simpa using ordered.other step.extends longer kept
    | some g =>
        obtain ⟨left, q, here⟩ := new g took
        exact ordered.take left (List.getElem?_eq_some_iff.mp here).1 (allowed rfl g took)
          (by simp [grown, took]) step.extends longer kept
  · rw [entriesOf_other own]
    simpa using ordered.other step.extends longer kept

theorem net_oldestFirst {ms : List (Move NetRequest NetMove)}
    (run : netProgram.exec ⟨{}, []⟩ ms = some net)
    (fifo : netProgram.Meets (takesOldest j) ⟨{}, []⟩ ms) :
    OldestFirst net.shared (takenBy (netLog ms) j) :=
  netLog_invariant (I := fun past (net : Net) => OldestFirst net.shared (takenBy past j))
    (fun _ _ _ before => before)
    (fun _ _ _ _ _ _ _ before allowed _ step => before.act allowed step)
    ⟨by simp [takenBy], by simp [takenBy], by simp [takenBy], .nil⟩ fifo run

end Steps

/-! ## The order in which handlers see messages -/

/-- Message `n` is on `queue` under identifier `id`. -/
def QueueManager.Holds (b : QueueManager) (n : Nat) (queue id : String) : Prop :=
  ∃ q, b.messages[n]? = some q ∧ q.queue = queue ∧ q.md.msgId.hex = id

theorem Files.holds {b : QueueManager} {positions : List Nat} {call : SendCall} {id : String}
    (files : Files b positions call) (returned : call.pc = .returned (.ok id)) :
    ∃ n ∈ positions, b.Holds n call.destination id := by
  obtain ⟨n, q, member, here, named⟩ := files.named id (by rw [returned]; rfl)
  obtain ⟨q', here', queue⟩ := files.queue n member
  rw [here] at here'
  cases here'
  exact ⟨n, member, q, here, queue, named⟩

section EndToEnd

variable {ms first second : List (Move NetRequest NetMove)} {mid net : Net} {j i : Nat}

/-- A consumer that receives two messages receives the older one first. -/
theorem receivedAt_inOrder {c : ListenerConfig} {k : Consumer} {n₁ n₂ : Nat}
    (handsOver : HandsOver net.shared (receivedAt (netLog ms) j i) c.shared k)
    (ordered : OldestFirst net.shared (takenBy (netLog ms) j)) (older : n₁ < n₂)
    (received₁ : n₁ ∈ receivedAt (netLog ms) j i) (received₂ : n₂ ∈ receivedAt (netLog ms) j i) :
    [n₁, n₂].Sublist (receivedAt (netLog ms) j i) := by
  have onQueue : ∀ n ∈ receivedAt (netLog ms) j i,
      net.shared.queueAt n = some c.shared.queue := by
    intro n member
    obtain ⟨q, here, queue⟩ := handsOver.queue n member
    simp [QueueManager.queueAt, here, queue]
  have sorted : (receivedAt (netLog ms) j i).Pairwise (· ≤ ·) := by
    refine (ordered.sorted.sublist (receivedAt_sublist ..)).imp_of_mem ?_
    intro m n first second before
    exact (before ((onQueue m first).trans (onQueue n second).symm)).le
  refine List.sublist_of_subperm_of_pairwise (List.subperm_of_subset ?_ ?_) ?_ sorted
  · simpa using older.ne
  · simpa using ⟨received₁, received₂⟩
  · simpa using older.le

/-- All messages of a call that has returned arrive before those of a call made later. -/
theorem sentAt_inOrder (run₁ : netProgram.exec ⟨{}, []⟩ first = some mid)
    (run₂ : netProgram.exec mid second = some net) {j₁ i₁ j₂ i₂ : Nat}
    (returned : mid.sendReturned j₁ i₁) (later : mid.notYetCalled j₂ i₂) :
    ∀ n₁ ∈ sentAt (netLog (first ++ second)) j₁ i₁,
      ∀ n₂ ∈ sentAt (netLog (first ++ second)) j₂ i₂, n₁ < n₂ := by
  intro n₁ put₁ n₂ put₂
  have split : netLog (first ++ second) = netLog first ++ netProgram.log netEvents mid second :=
    Program.log_append run₁ second
  rw [split, sentAt_append, sentAt_returned run₂ returned, List.append_nil] at put₁
  rw [split, sentAt_append, sentAt_notYetCalled run₁ later, List.nil_append] at put₂
  obtain ⟨c, call, result, sender, send, -⟩ := returned
  obtain ⟨q, here, -⟩ := ((net_sends run₁ sender).each i₁ call send).queue n₁ put₁
  calc n₁ < mid.shared.messages.length := (List.getElem?_eq_some_iff.mp here).1
    _ ≤ n₂ := sentAt_late run₂ n₂ put₂

end EndToEnd

theorem sends_seen_in_order (first second : List (Move NetRequest NetMove)) (mid net : Net)
    (run₁ : netProgram.exec ⟨{}, []⟩ first = some mid)
    (run₂ : netProgram.exec mid second = some net)
    (j₁ i₁ j₂ i₂ : Nat) (returned : mid.sendReturned j₁ i₁) (later : mid.notYetCalled j₂ i₂)
    (c₁ c₂ : SenderConfig) (call₁ call₂ : SendCall)
    (sender₁ : net.threads[j₁]? = some (.component (.sender c₁)))
    (send₁ : c₁.threads[i₁]? = some (.send call₁))
    (sender₂ : net.threads[j₂]? = some (.component (.sender c₂)))
    (send₂ : c₂.threads[i₂]? = some (.send call₂))
    (same : call₁.destination = call₂.destination) :
    (∀ id, call₁.pc = .returned (.ok id) →
      ∃ n ∈ sentAt (netLog (first ++ second)) j₁ i₁,
        net.shared.Holds n call₁.destination id) ∧
    ∀ n₁ ∈ sentAt (netLog (first ++ second)) j₁ i₁,
      ∀ n₂ ∈ sentAt (netLog (first ++ second)) j₂ i₂, n₁ < n₂ ∧
        ∀ j c i k, net.threads[j]? = some (.component (.listener c)) →
          c.threads[i]? = some (.consumer k) →
          netProgram.Meets (takesOldest j) ⟨{}, []⟩ (first ++ second) →
          n₂ ∈ receivedAt (netLog (first ++ second)) j i →
          HandsOver net.shared (receivedAt (netLog (first ++ second)) j i) c.shared k ∧
            n₁ ∈ net.shared.taken ∧
            (n₁ ∈ receivedAt (netLog (first ++ second)) j i →
              [n₁, n₂].Sublist (receivedAt (netLog (first ++ second)) j i)) := by
  have run := Program.exec_trans run₁ run₂
  have files₁ := (net_sends run sender₁).each i₁ call₁ send₁
  have files₂ := (net_sends run sender₂).each i₂ call₂ send₂
  refine ⟨fun id done => files₁.holds done, fun n₁ put₁ n₂ put₂ => ?_⟩
  have older := sentAt_inOrder run₁ run₂ returned later n₁ put₁ n₂ put₂
  refine ⟨older, fun j c i k listener consumer fifo received => ?_⟩
  have ordered := net_oldestFirst run fifo
  have handsOver := net_handsOver run listener consumer
  have queueAt : net.shared.queueAt n₁ = net.shared.queueAt n₂ := by
    obtain ⟨q, here, queue⟩ := files₁.queue n₁ put₁
    obtain ⟨q', here', queue'⟩ := files₂.queue n₂ put₂
    simp [QueueManager.queueAt, here, here', queue, queue', same]
  refine ⟨handsOver, ?_, fun received₁ => ?_⟩
  · exact ordered.oldest n₂ ((receivedAt_sublist ..).subset received) n₁ older queueAt
  · exact receivedAt_inOrder handsOver ordered older received₁ received

/-- The sender at `j` makes the moves. -/
def bySender (j : Nat) (ms : List SenderMove) : List (Move NetRequest NetMove) :=
  ms.map fun m => .act j (.own (.sender m))

/-- A sender and a listener, and a first call of `Send`. -/
def firstSend : List (Move NetRequest NetMove) :=
  [.call (.build .minimal (.newSender "IN" [])),
    .call (.build .minimal (.newListener "IN" [.withListenerConcurrency 1]))] ++
  bySender 0 (.call (.send "" none false none) :: acquiresByDial 0 7 ++ putsAndReturns 0)

/-- A second call, which uses the same connection; then both messages are handled. -/
def secondSend : List (Move NetRequest NetMove) :=
  bySender 0 (.call (.send "" none false none) :: List.replicate 5 (.act 1 .go) ++
    putsAndReturns 1) ++
  startsListening 1 ++ receivesAndHandles 1 0 ++ receivesAndHandles 1 1

theorem sends_seen_in_order_twice : ∃ mid net : Net, ∃ c₁ call₁ call₂ c k,
    netProgram.exec ⟨{}, []⟩ firstSend = some mid ∧ mid.sendReturned 0 0 ∧
      mid.notYetCalled 0 1 ∧ netProgram.exec mid secondSend = some net ∧
      net.threads[0]? = some (.component (.sender c₁)) ∧
      c₁.threads[0]? = some (.send call₁) ∧ c₁.threads[1]? = some (.send call₂) ∧
      net.threads[1]? = some (.component (.listener c)) ∧ c.threads[1]? = some (.consumer k) ∧
      HandsOver net.shared (receivedAt (netLog (firstSend ++ secondSend)) 1 1) c.shared k ∧
      [0, 1].Sublist (receivedAt (netLog (firstSend ++ secondSend)) 1 1) := by
  obtain ⟨mid, net, c₁, call₁, call₂, c, k, run₁, returned, later, run₂, sender, send₁, send₂, same,
      listener, consumer, put₁, put₂, received⟩ : ∃ mid net : Net, ∃ c₁ call₁ call₂ c k,
      netProgram.exec ⟨{}, []⟩ firstSend = some mid ∧ mid.sendReturned 0 0 ∧
      mid.notYetCalled 0 1 ∧ netProgram.exec mid secondSend = some net ∧
      net.threads[0]? = some (.component (.sender c₁)) ∧
      c₁.threads[0]? = some (.send call₁) ∧ c₁.threads[1]? = some (.send call₂) ∧
      call₁.destination = call₂.destination ∧
      net.threads[1]? = some (.component (.listener c)) ∧ c.threads[1]? = some (.consumer k) ∧
      sentAt (netLog (firstSend ++ secondSend)) 0 0 = [0] ∧
      sentAt (netLog (firstSend ++ secondSend)) 0 1 = [1] ∧
      receivedAt (netLog (firstSend ++ secondSend)) 1 1 = [0, 1] :=
    ⟨_, _, _, _, _, _, _, rfl, ⟨_, _, _, rfl, rfl, rfl⟩, .inr ⟨_, rfl, by decide⟩, rfl, rfl, rfl,
      rfl, rfl, rfl, rfl, rfl, rfl, rfl⟩
  have fifo : netProgram.Meets (takesOldest 1) ⟨{}, []⟩ (firstSend ++ secondSend) := by
    decide +kernel
  have seen := (sends_seen_in_order firstSend secondSend mid net run₁ run₂ 0 0 0 1 returned later
    c₁ c₁ call₁ call₂ sender send₁ sender send₂ same).2 0 (by simp [put₁]) 1 (by simp [put₂])
  obtain ⟨handsOver, -, inOrder⟩ :=
    seen.2 1 c 1 k listener consumer fifo (by simp [received])
  exact ⟨mid, net, c₁, call₁, call₂, c, k, run₁, returned, later, run₂, sender, send₁, send₂,
    listener, consumer, handsOver, inOrder (by simp [received])⟩

end CommonsMQ
