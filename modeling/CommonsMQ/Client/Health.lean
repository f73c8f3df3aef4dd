import CommonsMQ.Client.Closing
import CommonsMQ.Sender.Health

/-! # The health of a client

`Health` collects what the registered probes report. Each kind of component is shown
to report what its recorded state says; for a sender this rests on invariants of the
whole send path. The client's answer then follows component by component.
-/

namespace CommonsMQ

open Interleave

/-! ## A listener's probe as one step -/

namespace Listener

def probeFrom : Nat → Listener → ListenerProbePc → Option (List ConnectionStatus)
  | _, _, .returned details => some details
  | 0, _, _ => none
  | left + 1, l, pc =>
      match listenerHealthProber l pc .go with
      | none => none
      | some pc' => probeFrom left l pc'

def probe (l : Listener) : Option (List ConnectionStatus) :=
  l.probeFrom (l.states.length + 2) .snapshot

def slotName (l : Listener) (i : Nat) : String :=
  "listener " ++ quote l.queue ++ " consumer " ++ toString i

/-- The entry of slot `i`. -/
def entry (l : Listener) (i : Nat) (state : ConnectionState) : ConnectionStatus where
  queueManager := l.cfg.queueManagerName
  alive := state = .connected ∧ l.closed = false
  reason :=
    if l.closed then "listener is closed"
    else if state = .connected ∧ l.closed = false then "" else connectionStateReason state
  component := l.slotName i

variable {l : Listener}

/-- The loop over the slots, from slot `n` on. -/
theorem probeFrom_scan {n left : Nat} (size : n + left = l.states.length) :
    l.probeFrom (left + 1) (.scan l.closed ((l.states.mapIdx l.entry).take n)) =
      some (l.states.mapIdx l.entry) := by
  have entries : (l.states.mapIdx l.entry).length = l.states.length := List.length_mapIdx
  have scanned : ((l.states.mapIdx l.entry).take n).length = n := by
    rw [List.length_take, entries]
    omega
  induction left generalizing n with
  | zero =>
      have done : l.states[n]? = none := List.getElem?_eq_none (by omega)
      have all : (l.states.mapIdx l.entry).take n = l.states.mapIdx l.entry :=
        List.take_of_length_le (by omega)
      rw [all] at scanned ⊢
      simp only [probeFrom, listenerHealthProber, scanned, done]
  | succ left ih =>
      have inside : n < l.states.length := by omega
      have found : l.states[n]? = some l.states[n] := List.getElem?_eq_getElem inside
      have here : (l.states.mapIdx l.entry)[n]? = some (l.entry n l.states[n]) := by
        rw [List.getElem?_mapIdx, found, Option.map_some]
      have longer := List.take_add_one (l := l.states.mapIdx l.entry) (i := n)
      rw [here] at longer
      rw [probeFrom]
      · simp only [listenerHealthProber, scanned, found]
        have rest := ih (n := n + 1) (by omega) (by
          rw [List.length_take, entries]
          omega)
        rw [longer] at rest
        simpa only [entry, slotName, Option.toList_some] using rest
      · simp

theorem probe_eq : l.probe = some (l.states.mapIdx l.entry) := by
  have scanned : l.probeFrom (l.states.length + 1)
      (.scan l.closed ((l.states.mapIdx l.entry).take 0)) = some (l.states.mapIdx l.entry) :=
    probeFrom_scan (by omega)
  simpa only [probe, probeFrom, listenerHealthProber, List.take_zero] using scanned

end Listener

theorem newListener_concurrency (client : ClientConfig) (queueName : String)
    (opts : List ListenerOption) : 1 ≤ (newListener client queueName opts).concurrency := by
  have folds : ∀ (opts : List ListenerOption) (l : Listener), 1 ≤ l.concurrency →
      1 ≤ (opts.foldl ListenerOption.apply l).concurrency := by
    intro opts
    induction opts with
    | nil => exact fun l positive => positive
    | cons opt rest ih =>
        refine fun l positive => ih _ ?_
        cases opt with
        | withListenerConcurrency n =>
            by_cases large : 1 ≤ n <;> simp [ListenerOption.apply, large, positive]
        | withListenerMaxRetries n =>
            by_cases large : 0 ≤ n <;> simp [ListenerOption.apply, large, positive]
        | withListenerErrorHandler => exact positive
  exact folds opts _ client.inputConcurrency_pos

/-! ## What each component reports -/

namespace Component

def probe : Component → Option (List ConnectionStatus)
  | .sender c => c.shared.probe
  | .listener c => c.shared.probe
  | .requestReply c => some (requestReplyHealthProber c.shared)

/-- The component is as an application expects it. -/
def Well : Component → Prop
  | .sender c => c.shared.closed = false ∧ c.shared.state ≠ .reconnecting ∧
      c.shared.state ≠ .failed
  | .listener c => c.shared.closed = false ∧ ∀ state ∈ c.shared.states, state = .connected
  | .requestReply c => c.shared.closed = false ∧ c.shared.state ≠ .failed

/-- The component has these entries and no more, each under its name, and no sender at
    rest is said to reconnect. -/
def Shape : Component → List ConnectionStatus → Prop
  | .sender c, part => part.length ≤ 1 ∧
      (∀ e ∈ part, e.component = "sender " ++ quote c.shared.queue) ∧
      (c.shared.closed = false → (∀ t ∈ c.threads, t.inFlight = 0) →
        ∀ e ∈ part, e.reason ≠ connectionStateReason .reconnecting)
  | .listener c, part => part.map (·.component) =
      (List.range c.shared.concurrency.toNat).map c.shared.slotName
  | .requestReply c, part => part.length ≤ 1 ∧
      ∀ e ∈ part, e.component = "request-reply " ++ quote c.shared.requestQueue

/-- The report of a component is faithful. -/
structure Reports (component : Component) (part : List ConnectionStatus) : Prop where
  alive : (∀ e ∈ part, e.alive = true) ↔ component.Well
  shape : component.Shape part
  reason : ∀ e ∈ part, e.reason ≠ "" ↔ e.alive = false

end Component

theorem connectionStateReason_ne (state : ConnectionState) : connectionStateReason state ≠ "" := by
  cases state <;> decide

theorem failed_reason_ne_reconnecting (rest : String) :
    connectionStateReason .failed ++ rest ≠ connectionStateReason .reconnecting := by
  have failed : connectionStateReason .failed = "connection state: failed" := by decide
  have reconnecting : connectionStateReason .reconnecting = "connection state: reconnecting" := by
    decide
  rw [failed, reconnecting]
  intro same
  have differ := congrArg (fun s => s.toList[18]?) same
  simp at differ

section Faithful

/-- One entry, dead and with a reason. -/
theorem Component.Reports.dead {component : Component} {e : ConnectionStatus}
    (ill : ¬component.Well) (shape : component.Shape [e]) (dead : e.alive = false)
    (reason : e.reason ≠ "") : component.Reports [e] := by
  refine ⟨⟨fun all => ?_, fun well => absurd well ill⟩, shape, ?_⟩
  · have alive := all e (List.mem_singleton.mpr rfl)
    simp [dead] at alive
  · intro e' member
    obtain rfl := List.mem_singleton.mp member
    simp [dead, reason]

theorem Component.Reports.live {component : Component} {e : ConnectionStatus}
    (well : component.Well) (shape : component.Shape [e]) (alive : e.alive = true)
    (reason : e.reason = "") : component.Reports [e] := by
  refine ⟨⟨fun _ => well, fun _ e' member => ?_⟩, shape, ?_⟩
  · rw [List.mem_singleton.mp member, alive]
  · intro e' member
    rw [List.mem_singleton.mp member]
    simp [alive, reason]

theorem Component.Reports.absent {component : Component} (well : component.Well)
    (shape : component.Shape []) : component.Reports [] :=
  ⟨⟨fun _ => well, by simp⟩, shape, by simp⟩

theorem HealthInv.reports {c : SenderConfig} {part : List ConnectionStatus} (inv : HealthInv c)
    (reported : c.shared.probe = some part) : (Component.sender c).Reports part := by
  have busy : c.shared.state = .reconnecting → ¬∀ t ∈ c.threads, t.inFlight = 0 := by
    intro reconnecting rest
    obtain ⟨t, member, settling⟩ := inv.settling reconnecting
    have inFlight := SenderThread.inFlight_of_settling settling
    simp [rest t member] at inFlight
  have working : "" ≠ connectionStateReason .reconnecting :=
    (connectionStateReason_ne .reconnecting).symm
  cases Sender.probe_report reported with
  | closed closed =>
      exact .dead (by simp [Component.Well, closed])
        ⟨le_rfl, by simp [Sender.entry], by simp [closed]⟩ rfl (by simp [Sender.entry])
  | reconnecting opened state =>
      exact .dead (by simp [Component.Well, state])
        ⟨le_rfl, by simp [Sender.entry], fun _ rest => absurd rest (busy state)⟩ rfl
        (connectionStateReason_ne _)
  | failed opened state =>
      refine .dead (by simp [Component.Well, state])
        ⟨le_rfl, by simp [Sender.entry], fun _ _ e member => ?_⟩ rfl ?_
      · rw [List.mem_singleton.mp member]
        exact failed_reason_ne_reconnecting _
      · intro empty
        exact connectionStateReason_ne .failed (String.append_eq_empty_iff.mp empty).1
  | broken opened notReconnecting notFailed err =>
      rcases inv.recorded.explained (by simp [err]) with state | state
      · exact absurd state notReconnecting
      · exact absurd state notFailed
  | idle opened notReconnecting notFailed =>
      exact .absent ⟨opened, notReconnecting, notFailed⟩ ⟨Nat.zero_le 1, by simp, by simp⟩
  | pooled opened notReconnecting notFailed idle found =>
      obtain ⟨x, found', state⟩ := inv.pool.idle _ idle
      obtain rfl := Option.some.inj (found.symm.trans found')
      rw [if_pos state]
      exact .live ⟨opened, notReconnecting, notFailed⟩
        ⟨le_rfl, by simp [Sender.entry], by simpa [Sender.entry] using fun _ _ => working⟩ rfl rfl
  | inUse opened _ _ _ state =>
      refine .live ⟨opened, ?_, ?_⟩
        ⟨le_rfl, by simp [Sender.entry], by simpa [Sender.entry] using fun _ _ => working⟩ rfl rfl
      · rcases state with state | state <;> simp [state]
      · rcases state with state | state <;> simp [state]
  | stopped opened state => exact absurd state (inv.recorded.running opened)

theorem requestReply_reports (c : RRConfig) :
    (Component.requestReply c).Reports (requestReplyHealthProber c.shared) := by
  unfold requestReplyHealthProber
  simp only
  split
  · exact .dead (by simp_all [Component.Well]) ⟨le_rfl, by simp⟩ rfl (by simp)
  · rename_i opened
    split
    · rename_i unused
      exact .absent ⟨Bool.eq_false_iff.mpr opened, by simp [unused.1]⟩ ⟨Nat.zero_le 1, by simp⟩
    · split
      · rename_i failed
        refine .dead (by simp [Component.Well, failed]) ⟨le_rfl, by simp⟩ rfl ?_
        intro empty
        exact connectionStateReason_ne .failed (String.append_eq_empty_iff.mp empty).1
      · rename_i notFailed
        exact .live ⟨Bool.eq_false_iff.mpr opened, notFailed⟩ ⟨le_rfl, by simp⟩ rfl rfl

theorem Listener.entry_reason (l : Listener) (i : Nat) (state : ConnectionState) :
    (l.entry i state).reason ≠ "" ↔ (l.entry i state).alive = false := by
  cases closed : l.closed with
  | true => simp [Listener.entry, closed]
  | false =>
      by_cases connected : state = .connected
      · simp [Listener.entry, closed, connected]
      · simp [Listener.entry, closed, connected, connectionStateReason_ne]

theorem ProtocolInv.reports {c : ListenerConfig} (inv : ProtocolInv c)
    (positive : 1 ≤ c.shared.concurrency) :
    (Component.listener c).Reports (c.shared.states.mapIdx c.shared.entry) := by
  have size := inv.size
  constructor
  · constructor
    · intro alive
      have each : ∀ (i : Nat) (state : ConnectionState), c.shared.states[i]? = some state →
          state = .connected ∧ c.shared.closed = false := by
        intro i state found
        have live := alive (c.shared.entry i state) (List.mem_of_getElem? (i := i) (by
          rw [List.getElem?_mapIdx, found, Option.map_some]))
        simpa [Listener.entry] using live
      have inside : 0 < c.shared.states.length := by omega
      refine ⟨(each 0 _ (List.getElem?_eq_getElem inside)).2, fun state member => ?_⟩
      obtain ⟨i, found⟩ := List.mem_iff_getElem?.mp member
      exact (each i state found).1
    · rintro ⟨opened, connected⟩ e member
      obtain ⟨i, inside, rfl⟩ := List.mem_mapIdx.mp member
      simp [Listener.entry, opened, connected _ (List.getElem_mem inside)]
  · apply List.ext_getElem
    · simp [inv.size]
    · intro i first second
      simp [Listener.entry]
  · intro e member
    obtain ⟨i, inside, rfl⟩ := List.mem_mapIdx.mp member
    exact c.shared.entry_reason i _

end Faithful

theorem newSender_unrecorded (client : ClientConfig) (queue : String) (opts : List SenderOption) :
    (newSender client queue opts).state = .unknown ∧ (newSender client queue opts).lastErr = none := by
  have folds : ∀ (opts : List SenderOption) (s : Sender), s.state = .unknown ∧ s.lastErr = none →
      (opts.foldl SenderOption.apply s).state = .unknown ∧
        (opts.foldl SenderOption.apply s).lastErr = none := by
    intro opts
    induction opts with
    | nil => exact fun s unrecorded => unrecorded
    | cons opt rest ih =>
        refine fun s unrecorded => ih _ ?_
        cases opt with
        | withSenderConcurrency n =>
            by_cases large : 1 ≤ n <;> simp [SenderOption.apply, large, unrecorded]
  exact folds opts _ ⟨rfl, rfl⟩

theorem concurrency_run {c c' : ListenerConfig} {ms : List ListenerMove}
    (run : listenerProgram.exec c ms = some c') : c'.shared.concurrency = c.shared.concurrency := by
  have keep : ∀ d m d', d.shared.concurrency = c.shared.concurrency → True →
      listenerProgram.next d m = some d' → d'.shared.concurrency = c.shared.concurrency := by
    intro d m d' same _ moved
    obtain ⟨r, -, rfl⟩ | ⟨i, a, t, l, t', fresh, -, found, step, rfl⟩ := listener_cases moved
    · exact same
    · exact step.size.2.trans same
  exact Program.exec_invariant keep rfl (Program.meets_true ms) run

namespace Component

variable {cfg : ClientConfig} {component : Component}

theorem Reached.healthInv {c : SenderConfig} (reached : (Component.sender c).Reached cfg) :
    HealthInv c := by
  obtain ⟨queue, opts, ms, run⟩ := reached
  obtain ⟨unknown, noError⟩ := newSender_unrecorded cfg queue opts
  exact HealthInv.run (.start (newSender_fresh cfg queue opts) unknown noError) run

theorem Reached.reports {part : List ConnectionStatus} (reached : component.Reached cfg)
    (probed : component.probe = some part) : component.Reports part := by
  cases component with
  | sender c => exact reached.healthInv.reports probed
  | listener c =>
      obtain ⟨queue, opts, ms, run⟩ := reached
      obtain rfl := Option.some.inj (Listener.probe_eq.symm.trans probed)
      refine ((ProtocolInv.start cfg queue opts).run run).reports ?_
      rw [concurrency_run run]
      exact newListener_concurrency cfg queue opts
  | requestReply c =>
      obtain rfl := Option.some.inj probed
      exact requestReply_reports c

/-- No health probe of a sender is between its first and its last step. -/
def Unprobed : Component → Prop
  | .sender c => ∀ pc, .probe pc ∈ c.threads → SenderThread.inPool (.probe pc) = 0
  | .listener _ | .requestReply _ => True

theorem Reached.answers (reached : component.Reached cfg) (unprobed : component.Unprobed) :
    ∃ part, component.probe = some part := by
  cases component with
  | sender c => exact Option.isSome_iff_exists.mp (reached.healthInv.probe_isSome unprobed)
  | listener c => exact ⟨_, Listener.probe_eq⟩
  | requestReply c => exact ⟨_, rfl⟩

end Component

/-! ## The client -/

structure HealthStatus where
  healthy : Bool
  details : List ConnectionStatus
  deriving Repr, DecidableEq

namespace Client

/-- The reports of the probes, in order. -/
def collect (c : Client) : List Nat → Option (List (List ConnectionStatus))
  | [] => some []
  | k :: rest =>
      match (c.components[k]?).bind Component.probe, c.collect rest with
      | some part, some parts => some (part :: parts)
      | _, _ => none

/-- The entry of the client itself. -/
def entry (c : Client) : ConnectionStatus where
  queueManager := c.cfg.cfg.queueManagerName
  alive := false
  reason := "client is closed"
  component := "client"

/-- `Health` as one step; `none` while it has to wait for a probe under way. -/
def health (c : Client) : Option HealthStatus :=
  (c.collect c.healthProbers).map fun parts =>
    let details := (if c.closed then [c.entry] else []) ++ parts.flatten
    { healthy := details.all (·.alive), details := details }

end Client

/-- `Health` and the component states agree. -/
structure HealthAgrees (c : Client) (status : HealthStatus) : Prop where
  healthy : status.healthy = true ↔ c.closed = false ∧
    ∀ k ∈ c.handedOut, ∀ component, c.components[k]? = some component → component.Well
  /-- After the entry of the client come those of the components, as they are registered. -/
  details : ∃ parts, status.details = (if c.closed then [c.entry] else []) ++ parts.flatten ∧
    List.Forall₂ (fun k part => ∃ component, c.components[k]? = some component ∧
      component.probe = some part ∧ component.Reports part) c.healthProbers parts
  once : c.healthProbers.Nodup
  reason : ∀ e ∈ status.details, e.reason ≠ "" ↔ e.alive = false

section Collect

variable {c : Client} {ks : List Nat} {parts : List (List ConnectionStatus)}

theorem Client.collect_some (collected : c.collect ks = some parts) :
    List.Forall₂ (fun k part => ∃ component, c.components[k]? = some component ∧
      component.probe = some part) ks parts := by
  induction ks generalizing parts with
  | nil =>
      obtain rfl : [] = parts := by simpa [collect] using collected
      exact .nil
  | cons k rest ih =>
      rw [collect] at collected
      split at collected
      · rename_i part others probed later
        obtain rfl := Option.some.inj collected
        obtain ⟨component, found, answer⟩ := Option.bind_eq_some_iff.mp probed
        exact .cons ⟨component, found, answer⟩ (ih later)
      · cases collected

theorem Client.collect_isSome
    (answers : ∀ k ∈ ks, ∃ component part, c.components[k]? = some component ∧
      component.probe = some part) : ∃ parts, c.collect ks = some parts := by
  induction ks with
  | nil => exact ⟨[], rfl⟩
  | cons k rest ih =>
      obtain ⟨component, part, found, probed⟩ := answers k List.mem_cons_self
      obtain ⟨parts, later⟩ := ih fun k' member => answers k' (List.mem_cons_of_mem k member)
      exact ⟨part :: parts, by simp [collect, found, probed, later]⟩

theorem all_alive_iff (faithful : List.Forall₂ (fun k part => ∃ component,
      c.components[k]? = some component ∧ component.Reports part) ks parts) :
    (∀ e ∈ parts.flatten, e.alive = true) ↔
      ∀ k ∈ ks, ∀ component, c.components[k]? = some component → component.Well := by
  induction faithful with
  | nil => simp
  | @cons k part rest others here later ih =>
      obtain ⟨component, found, reports⟩ := here
      simp only [List.flatten_cons, List.forall_mem_append, List.forall_mem_cons, ih, reports.alive,
        found, Option.some.injEq, forall_eq']

theorem all_reasons (faithful : List.Forall₂ (fun k part => ∃ component,
      c.components[k]? = some component ∧ component.Reports part) ks parts) :
    ∀ e ∈ parts.flatten, e.reason ≠ "" ↔ e.alive = false := by
  induction faithful with
  | nil => simp
  | cons here later ih =>
      obtain ⟨component, found, reports⟩ := here
      rw [List.flatten_cons, List.forall_mem_append]
      exact ⟨reports.reason, ih⟩

end Collect

/-! ## Each probe is registered once -/

/-- 1 for the factory that is about to register the probe of component `k`. -/
def ClientThread.probing (k : Nat) : ClientThread → ℤ
  | .factory _ (.registerHealthProber k') => if k' = k then 1 else 0
  | _ => 0

theorem ClientThread.probing_nonneg (k : Nat) (t : ClientThread) : 0 ≤ t.probing k := by
  unfold probing
  split
  · split <;> decide
  · decide

/-- A factory registers the probe after the teardown of its component. -/
theorem ClientStep.probing {c c' : Client} {t t' : ClientThread} (step : ClientStep c t c' t')
    (k : Nat) :
    (c'.registered.count k - c'.healthProbers.count k : ℤ) -
      (c.registered.count k - c.healthProbers.count k) = t'.probing k - t.probing k := by
  cases step with
  | registered =>
      simp only [Client.register, List.count_append, List.count_singleton, beq_iff_eq,
        ClientThread.probing]
      push_cast
      omega
  | handedOut =>
      simp only [Client.registerHealthProber, List.count_append, List.count_singleton, beq_iff_eq,
        ClientThread.probing]
      push_cast
      omega
  | _ => simp [Client.setComponent, ClientThread.probing]

theorem healthProbers_count {cfg : ClientConfig} {c : ClientState} {ms : List ClientMove}
    (run : clientProgram.exec ⟨{ cfg := cfg }, []⟩ ms = some c) (k : Nat) :
    (c.shared.registered.count k - c.shared.healthProbers.count k : ℤ) =
      tally (ClientThread.probing k) c.threads := by
  have keep : ∀ (d : ClientState) (m : ClientMove) (d' : ClientState),
      (d.shared.registered.count k - d.shared.healthProbers.count k : ℤ) =
        tally (ClientThread.probing k) d.threads → True → clientProgram.next d m = some d' →
      (d'.shared.registered.count k - d'.shared.healthProbers.count k : ℤ) =
        tally (ClientThread.probing k) d'.threads := by
    intro d m d' before _ moved
    have balance := Program.next_conserves
      (fun s : Client => (s.registered.count k - s.healthProbers.count k : ℤ))
      (ClientThread.probing k) (by intro r; cases r <;> rfl)
      (by
        intro s t a s' t' started stepped
        obtain ⟨step, rfl⟩ := clientProgram_step stepped
        simpa using step.probing k) moved
    omega
  exact Program.exec_invariant keep rfl (Program.meets_true ms) run

theorem healthProbers_nodup {cfg : ClientConfig} {c : ClientState} {ms : List ClientMove}
    (run : clientProgram.exec ⟨{ cfg := cfg }, []⟩ ms = some c) :
    c.shared.healthProbers.Nodup := by
  refine List.nodup_iff_count_le_one.mpr fun k => ?_
  have probed := healthProbers_count run k
  have nonneg := tally_nonneg (ClientThread.probing_nonneg k) c.threads
  have registered := (ClientBase.run run).count_le k
  have issued : c.shared.issued k ≤ 1 := by
    unfold Client.issued
    split <;> decide
  omega

section Agrees

variable {cfg : ClientConfig} {c : ClientState}

theorem ClientBase.agrees (inv : ClientBase cfg c) (once : c.shared.healthProbers.Nodup)
    {status : HealthStatus} (answered : c.shared.health = some status) :
    HealthAgrees c.shared status := by
  obtain ⟨parts, collected, rfl⟩ := Option.map_eq_some_iff.mp answered
  have probed : List.Forall₂ (fun k part => ∃ component, c.shared.components[k]? = some component ∧
      component.probe = some part ∧ component.Reports part) c.shared.healthProbers parts := by
    refine (Client.collect_some collected).imp ?_
    rintro k part ⟨component, found, probed⟩
    exact ⟨component, found, probed, (inv.reached _ (List.mem_of_getElem? found)).reports probed⟩
  have faithful : List.Forall₂ (fun k part => ∃ component,
      c.shared.components[k]? = some component ∧ component.Reports part)
      c.shared.healthProbers parts := by
    refine probed.imp ?_
    rintro k part ⟨component, found, -, reports⟩
    exact ⟨component, found, reports⟩
  constructor
  · have everywhere := all_alive_iff faithful
    rw [inv.probers] at everywhere
    cases closed : c.shared.closed with
    | true => simp [Client.entry]
    | false =>
        simp only [Bool.false_eq_true, if_false, List.nil_append, List.all_eq_true, true_and]
        exact everywhere
  · exact ⟨parts, rfl, probed⟩
  · exact once
  · intro e member
    rcases List.mem_append.mp member with own | part
    · split at own
      · rw [List.mem_singleton.mp own]
        simp [Client.entry]
      · cases own
    · exact all_reasons faithful e part

theorem ClientBase.health_answers (inv : ClientBase cfg c)
    (unprobed : ∀ component ∈ c.shared.components, component.Unprobed) :
    ∃ status, c.shared.health = some status := by
  have answers : ∀ k ∈ c.shared.healthProbers, ∃ component part,
      c.shared.components[k]? = some component ∧ component.probe = some part := by
    intro k member
    have registered := inv.handed k (inv.probers ▸ member)
    have found := List.getElem?_eq_getElem (inv.count_registered registered).2
    have there := List.mem_of_getElem? found
    obtain ⟨part, probed⟩ := (inv.reached _ there).answers (unprobed _ there)
    exact ⟨_, part, found, probed⟩
  obtain ⟨parts, collected⟩ := Client.collect_isSome answers
  exact ⟨_, by rw [Client.health, collected]; rfl⟩

end Agrees

/-- In every state of a client `Health` agrees with the states of its components, and it
    has an answer unless some probe of a sender is half done. -/
theorem health_agrees (cfg : ClientConfig) (ms : List ClientMove) (c : ClientState)
    (run : clientProgram.exec ⟨{ cfg := cfg }, []⟩ ms = some c) :
    (∀ status, c.shared.health = some status → HealthAgrees c.shared status) ∧
      ((∀ component ∈ c.shared.components, component.Unprobed) →
        ∃ status, c.shared.health = some status) := by
  have inv := ClientBase.run run
  exact ⟨fun status answered => inv.agrees (healthProbers_nodup run) answered, inv.health_answers⟩

/-- A listener and a sender are made; a send of the latter is in flight. -/
def makesListenerAndSender : List ClientMove :=
  [.call (.build (.newSender "ORDERS" [])), .act 0 .go, .act 0 .go, .act 0 .go,
    .call (.build (.newListener "REPLIES" [])), .act 1 .go, .act 1 .go, .act 1 .go,
    .call .application] ++ usesSender 2 (.call (.send "" none false none) :: acquiresByDial 0 7)

/-- The sender is alive, the listener has not been started. -/
theorem health_agrees_idle_listener : ∃ c sender listener,
    clientProgram.exec ⟨{ cfg := .minimal }, []⟩ makesListenerAndSender = some c ∧
      c.shared.components = [.sender sender, .listener listener] ∧
      c.shared.health = some ⟨false,
        [sender.shared.entry true "", listener.shared.entry 0 .unknown]⟩ ∧
      HealthAgrees c.shared ⟨false,
        [sender.shared.entry true "", listener.shared.entry 0 .unknown]⟩ := by
  refine ⟨_, _, _, rfl, rfl, rfl, ?_⟩
  exact (health_agrees .minimal makesListenerAndSender _ rfl).1 _ rfl

end CommonsMQ
