import CommonsMQ.Client.Health
import CommonsMQ.Sender.Redaction
import CommonsMQ.Listener.Redaction
import CommonsMQ.RequestReply.Redaction

/-! # Credentials and the whole client

Two clients whose settings differ in credentials only, used alike and answered alike,
say the same: in the errors of every call, in the reports to error callbacks and in the
reasons of their health. -/

namespace CommonsMQ

open Interleave

namespace Component

def redact : Component → Component
  | .sender c => .sender (senderRedaction.config c)
  | .listener c => .listener (listenerRedaction.config c)
  | .requestReply c => .requestReply (requestReplyRedaction.config c)

/-- What each call of the component has told the application so far. -/
def texts : Component → List (List String)
  | .sender c => c.threads.map SenderThread.texts
  | .listener c => c.threads.map ListenerThread.texts
  | .requestReply c => c.threads.map RRThread.texts

end Component

def ComponentMove.redact : ComponentMove → ComponentMove
  | .sender m => .sender (senderRedaction.move m)
  | .listener m => .listener (listenerRedaction.move m)
  | .requestReply m => .requestReply (requestReplyRedaction.move m)

/-- No GET of a listener fails without a return code. -/
def ComponentMove.Coded : ComponentMove → Prop
  | .listener m => listenerRedaction.okMove m
  | .sender _ | .requestReply _ => True

theorem ComponentMove.coded_redact (m : ComponentMove) : m.redact.Coded ↔ m.Coded := by
  cases m with
  | listener m => exact listenerRedaction.okMove_move m
  | sender m => exact Iff.rfl
  | requestReply m => exact Iff.rfl

theorem ComponentMove.permitted_redact (m : ComponentMove) (handedOut : Bool) :
    m.redact.permitted handedOut = m.permitted handedOut := by
  rcases m with (r | ⟨i, a⟩) | (r | ⟨i, a⟩) | (r | ⟨i, a⟩)
  all_goals
    try cases r
    all_goals rfl

namespace Component

theorem next_redact (component : Component) (m : ComponentMove) (coded : m.Coded) :
    component.redact.next m.redact = (component.next m).map redact := by
  cases component with
  | sender c =>
      cases m with
      | sender m =>
          have ok : senderRedaction.okMove m := by cases m <;> exact trivial
          simp only [redact, ComponentMove.redact, next, senderRedaction.next ok, Option.map_map]
          rfl
      | _ => rfl
  | listener c =>
      cases m with
      | listener m =>
          simp only [redact, ComponentMove.redact, next, listenerRedaction.next coded,
            Option.map_map]
          rfl
      | _ => rfl
  | requestReply c =>
      cases m with
      | requestReply m =>
          have ok : requestReplyRedaction.okMove m := by cases m <;> exact trivial
          simp only [redact, ComponentMove.redact, next, requestReplyRedaction.next ok,
            Option.map_map]
          rfl
      | _ => rfl

theorem teardown_redact (component : Component) :
    component.redact.teardown = component.teardown.redact := by
  cases component <;> rfl

theorem teardown_coded (component : Component) : component.teardown.Coded := by
  cases component <;> exact trivial

theorem size_redact (component : Component) : component.redact.size = component.size := by
  cases component <;> exact List.length_map _

theorem closeResult_redact (component : Component) (i : Nat) :
    component.redact.closeResult i = component.closeResult i := by
  cases component with
  | sender c =>
      simp only [redact, closeResult, Projection.config, List.getElem?_map]
      rcases c.threads[i]? with _ | _ | _ | pc <;> rfl
  | listener c =>
      simp only [redact, closeResult, Projection.config, List.getElem?_map]
      rcases c.threads[i]? with _ | _ | _ | _ | pc <;> rfl
  | requestReply c =>
      simp only [redact, closeResult, Projection.config, List.getElem?_map]
      rcases c.threads[i]? with _ | _ | _ | returned <;> rfl

theorem texts_redact (component : Component) : component.redact.texts = component.texts := by
  cases component with
  | sender c =>
      simp only [redact, texts, Projection.config, List.map_map]
      exact List.map_congr_left fun t _ => t.texts_redact
  | listener c =>
      simp only [redact, texts, Projection.config, List.map_map]
      exact List.map_congr_left fun t _ => t.texts_redact
  | requestReply c =>
      simp only [redact, texts, Projection.config, List.map_map]
      exact List.map_congr_left fun t _ => t.texts_redact

end Component

/-! ## Probes -/

theorem Sender.probeFrom_redact (s : Sender) (left : Nat) (pc : ProbePc) :
    s.redact.probeFrom left pc = s.probeFrom left pc := by
  induction left generalizing s pc with
  | zero => cases pc <;> rfl
  | succ left ih =>
      have stepped := senderHealthProber_redact s pc .go
      cases pc with
      | returned details => rfl
      | _ =>
          simp only [SendAnswer.redact] at stepped
          simp only [probeFrom, stepped]
          rcases senderHealthProber s _ .go with _ | ⟨s', pc'⟩
          · rfl
          · exact ih s' pc'

theorem Listener.probeFrom_redact (l : Listener) (left : Nat) (pc : ListenerProbePc) :
    l.redact.probeFrom left pc = l.probeFrom left pc := by
  induction left generalizing pc with
  | zero => cases pc <;> rfl
  | succ left ih =>
      have stepped := listenerHealthProber_redact l pc .go
      cases pc with
      | returned details => rfl
      | _ =>
          simp only [ListenerAnswer.redact] at stepped
          simp only [probeFrom, stepped]
          rcases listenerHealthProber l _ .go with _ | pc'
          · rfl
          · exact ih pc'

theorem Component.probe_redact (component : Component) :
    component.redact.probe = component.probe := by
  cases component with
  | sender c => exact c.shared.probeFrom_redact 4 .snapshot
  | listener c => exact c.shared.probeFrom_redact (c.shared.states.length + 2) .snapshot
  | requestReply c => rfl

/-! ## The client -/

namespace Client

def redact (c : Client) : Client :=
  { c with cfg := c.cfg.redact, components := c.components.map Component.redact }

theorem redact_components (c : Client) (k : Nat) :
    c.redact.components[k]? = c.components[k]?.map Component.redact := List.getElem?_map ..

theorem redact_setComponent (c : Client) (k : Nat) (component : Component) :
    c.redact.setComponent k component.redact = (c.setComponent k component).redact := by
  simp [setComponent, redact, List.map_set]

theorem collect_redact (c : Client) (ks : List Nat) : c.redact.collect ks = c.collect ks := by
  induction ks with
  | nil => rfl
  | cons k rest ih =>
      have probed : (c.redact.components[k]?).bind Component.probe =
          (c.components[k]?).bind Component.probe := by
        rw [redact_components]
        cases c.components[k]? with
        | none => rfl
        | some component => exact component.probe_redact
      simp only [collect, ih, probed]

theorem health_redact (c : Client) : c.redact.health = c.health := by
  have collected := c.collect_redact c.healthProbers
  change c.redact.collect c.redact.healthProbers = _ at collected
  simp only [health, collected]
  rfl

end Client

theorem Factory.redact_build (cfg : ClientConfig) (what : Factory) :
    (what.build cfg).redact = what.build cfg.redact := by
  cases what with
  | newListener queue opts =>
      simp only [build, ← redact_newListener]
      rfl
  | newSender queue opts =>
      simp only [build, ← redact_newSender]
      rfl
  | newRequestReplyClient request opts =>
      simp only [build, ← redact_newRequestReplyClient]
      rfl
  | newRequestReplyClientFixed request reply opts =>
      simp only [build, ← redact_newRequestReplyClientFixed]
      rfl

def ClientAnswer.redact : ClientAnswer → ClientAnswer
  | .use k m => .use k m.redact
  | .go => .go

/-- No GET of a listener fails without a return code. -/
def ClientAnswer.Coded : ClientAnswer → Prop
  | .use _ m => m.Coded
  | .go => True

namespace Client

theorem build_redact (c : Client) (what : Factory) (pc : FactoryPc) :
    c.redact.build what pc = (c.build what pc).map fun r => (r.1.redact, r.2) := by
  cases pc with
  | construct =>
      have built := what.redact_build c.cfg
      simp [build, redact, built]
  | _ => rfl

theorem close_redact (c : Client) (pc : ClientClosePc) :
    c.redact.close pc = (c.close pc).map fun r => (r.1.redact, r.2) := by
  cases pc with
  | begin => cases closed : c.closed <;> simp [close, redact, closed]
  | teardown rest errs =>
      cases rest with
      | nil => rfl
      | cons k rest =>
          simp only [close, redact_components]
          cases c.components[k]? with
          | none => rfl
          | some component =>
              have closes := component.next_redact component.teardown component.teardown_coded
              simp only [Option.map_some, component.teardown_redact, closes, component.size_redact,
                Option.map_map, Function.comp_def, redact_setComponent]
  | await k i rest errs =>
      simp only [close, redact_components]
      cases c.components[k]? with
      | none => rfl
      | some component =>
          simp only [Option.map_some, component.closeResult_redact, Option.map_map]
          rfl
  | _ => rfl

theorem use_redact (c : Client) (k : Nat) (m : ComponentMove) (coded : m.Coded) :
    c.redact.use k m.redact = (c.use k m).map redact := by
  simp only [use, redact_components]
  cases c.components[k]? with
  | none => rfl
  | some component =>
      have allowed : m.redact.permitted (k ∈ c.redact.handedOut) = m.permitted (k ∈ c.handedOut) :=
        m.permitted_redact _
      simp only [Option.map_some, allowed, component.next_redact m coded]
      split
      · simp only [Option.map_map, Function.comp_def, redact_setComponent]
      · rfl

end Client

theorem ClientThread.step_redact (c : Client) (t : ClientThread) (answer : ClientAnswer)
    (coded : answer.Coded) :
    t.step c.redact answer.redact = (t.step c answer).map fun r => (r.1.redact, r.2) := by
  cases t <;> cases answer <;> try rfl
  case factory.go what pc =>
      simp only [step, ClientAnswer.redact, c.build_redact, Option.map_map]
      rfl
  case close.go pc =>
      simp only [step, ClientAnswer.redact, c.close_redact, Option.map_map]
      rfl
  case application.use k m =>
      simp only [step, ClientAnswer.redact, c.use_redact k m coded, Option.map_map]
      rfl

/-- What a client does, as far as it can depend on credentials. -/
def clientRedaction : Projection clientProgram where
  memory := Client.redact
  thread := id
  answer := ClientAnswer.redact
  ok := ClientAnswer.Coded
  ok_answer a := by
    cases a with
    | go => exact Iff.rfl
    | use k m => exact m.coded_redact
  start r := rfl
  step c t a coded := by
    have stepped := t.step_redact c a coded
    simp only [clientProgram, id_eq, stepped, Option.map_map]
    rfl

/-- The error texts that a `Close` has returned. -/
def ClientThread.texts : ClientThread → List String
  | .close (.returned err) => err.toList.map GoError.text
  | .close _ | .factory _ _ | .application => []

/-- All that two clients tell the application is equal. -/
structure SaysTheSame (d d' : ClientState) : Prop where
  closes : d.threads.map ClientThread.texts = d'.threads.map ClientThread.texts
  calls : d.shared.components.map Component.texts = d'.shared.components.map Component.texts
  health : d.shared.health = d'.shared.health

theorem saysTheSame_of_redact {d d' : ClientState}
    (same : clientRedaction.config d = clientRedaction.config d') : SaysTheSame d d' := by
  have memory : d.shared.redact = d'.shared.redact := congrArg Config.shared same
  have threads : d.threads.map id = d'.threads.map id := congrArg Config.threads same
  have components : d.shared.components.map Component.redact =
      d'.shared.components.map Component.redact := congrArg Client.components memory
  have texts := congrArg (List.map Component.texts) components
  simp only [List.map_map, Function.comp_def, Component.texts_redact] at texts
  simp only [List.map_id] at threads
  constructor
  · rw [threads]
  · exact texts
  · rw [← d.shared.health_redact, memory, d'.shared.health_redact]

theorem newClient_agree {raw raw' : Config} (same : raw.redact = raw'.redact) :
    (newClient raw).map ClientConfig.redact = (newClient raw').map ClientConfig.redact := by
  rw [← newClient_redact, same, newClient_redact]

/-- Credentials reach neither errors nor health, as long as no GET of a listener fails
    without a return code. -/
theorem credentials_stay_hidden (raw raw' : Config) (same : raw.redact = raw'.redact) :
    (∀ err, newClient raw = .error err ↔ newClient raw' = .error err) ∧
      ∀ cfg, newClient raw = .ok cfg → ∃ cfg', newClient raw' = .ok cfg' ∧
        ∀ (ms ms' : List ClientMove) (d : ClientState),
          ms.map clientRedaction.move = ms'.map clientRedaction.move →
          (∀ m ∈ ms, clientRedaction.okMove m) →
          clientProgram.exec ⟨{ cfg := cfg }, []⟩ ms = some d →
          ∃ d', clientProgram.exec ⟨{ cfg := cfg' }, []⟩ ms' = some d' ∧ SaysTheSame d d' := by
  have agree := newClient_agree same
  cases accepted : newClient raw with
  | error err =>
      cases accepted' : newClient raw' with
      | error err' =>
          rw [accepted, accepted'] at agree
          obtain rfl : err = err' := Except.error.inj agree
          simp
      | ok cfg' =>
          rw [accepted, accepted'] at agree
          cases agree
  | ok cfg =>
      cases accepted' : newClient raw' with
      | error err' =>
          rw [accepted, accepted'] at agree
          cases agree
      | ok cfg' =>
          rw [accepted, accepted'] at agree
          have redacted : cfg.redact = cfg'.redact := Except.ok.inj agree
          refine ⟨by simp, fun _ found => ⟨cfg', rfl, fun ms ms' d alike coded run => ?_⟩⟩
          obtain rfl := Except.ok.inj found
          have start : clientRedaction.config ⟨{ cfg := cfg }, []⟩ =
              clientRedaction.config ⟨{ cfg := cfg' }, []⟩ := by
            simp [Projection.config, clientRedaction, Client.redact, redacted]
          obtain ⟨d', run', alikeAtEnd⟩ := clientRedaction.agree coded start alike run
          exact ⟨d', run', saysTheSame_of_redact alikeAtEnd⟩

/-- Settings that differ in the password. -/
def withPassword (password : String) : Config :=
  { queueManagerName := "QM1", connectionName := "localhost(1414)", channelName := "APP"
    username := "app", password := password }

def clientWithPassword (password : String) : ClientConfig where
  cfg := (withPassword password).applyDefaults
  defaulted := ⟨_, rfl⟩
  valid := (Config.complaints_applyDefaults _).mpr
    ⟨by simp [withPassword], by simp [withPassword], by simp [withPassword], le_rfl⟩

theorem newClient_withPassword (password : String) :
    newClient (withPassword password) = .ok (clientWithPassword password) := by
  have valid := (clientWithPassword password).valid
  unfold newClient
  split
  · rfl
  · rename_i found
    cases valid.symm.trans found

def usesListener (ms : List ListenerMove) : List ClientMove :=
  ms.map fun m => .act 1 (.use 0 (.listener m))

/-- The first GET of a listener's only consumer fails with `err`, the disconnect is answered
    `discErr`, and `Start` returns. -/
def losesConsumer (err : GoError) (discErr : Option GoError) : List ClientMove :=
  [.call (.build (.newListener "ORDERS" [])), .act 0 .go, .act 0 .go, .act 0 .go,
    .call .application] ++
  usesListener [.call (.start none none), .act 0 .go, .act 0 .go, .act 0 .go, .act 1 .go,
    .act 1 .go, .act 1 (.loop .check), .act 1 (.loop (.dialed (.ok 7))), .act 1 .go, .act 1 .go,
    .act 1 (.opened none), .act 1 .go, .act 1 (.getFailed err), .act 1 .go,
    .act 1 (.disced discErr), .act 1 .go, .act 1 .go, .act 1 .go, .act 0 .go, .act 0 .go, .act 0 .go]

abbrev getInhibited : GoError := .mqReturn ⟨2, 2016, "MQRC_GET_INHIBITED"⟩

/-- The error of the disconnect shows the password, which goes no further. -/
theorem credentials_stay_hidden_disconnect : ∃ d d',
    clientProgram.exec ⟨{ cfg := clientWithPassword "one" }, []⟩
        (losesConsumer getInhibited (some (.plain "one"))) = some d ∧
      d.shared.components.map Component.texts = [[["MQRC_GET_INHIBITED"], []]] ∧
      clientProgram.exec ⟨{ cfg := clientWithPassword "two" }, []⟩
        (losesConsumer getInhibited (some (.plain "two"))) = some d' ∧
      SaysTheSame d d' := by
  obtain ⟨d, run, texts⟩ : ∃ d, clientProgram.exec ⟨{ cfg := clientWithPassword "one" }, []⟩
      (losesConsumer getInhibited (some (.plain "one"))) = some d ∧
      d.shared.components.map Component.texts = [[["MQRC_GET_INHIBITED"], []]] := ⟨_, rfl, rfl⟩
  have coded : ∀ m ∈ losesConsumer getInhibited (some (.plain "one")),
      clientRedaction.okMove m := by
    simp [losesConsumer, usesListener, Projection.okMove, clientRedaction, ClientAnswer.Coded,
      ComponentMove.Coded, listenerRedaction, ListenerAnswer.Coded, GoError.asMQReturn]
  obtain ⟨cfg', accepted, agree⟩ := (credentials_stay_hidden (withPassword "one")
    (withPassword "two") rfl).2 _ (newClient_withPassword "one")
  rw [newClient_withPassword] at accepted
  obtain rfl := Except.ok.inj accepted
  obtain ⟨d', run', agreed⟩ := agree (losesConsumer getInhibited (some (.plain "one")))
    (losesConsumer getInhibited (some (.plain "two"))) d rfl coded run
  exact ⟨d, d', run, texts, run', agreed⟩

/-- The error of the GET shows the password, and so does the error of `Start`. -/
theorem get_error_reveals_password : (withPassword "one").redact = (withPassword "two").redact ∧
    newClient (withPassword "one") = .ok (clientWithPassword "one") ∧
    newClient (withPassword "two") = .ok (clientWithPassword "two") ∧
    (losesConsumer (.plain "one") none).map clientRedaction.move =
      (losesConsumer (.plain "two") none).map clientRedaction.move ∧
    ∃ d d', clientProgram.exec ⟨{ cfg := clientWithPassword "one" }, []⟩
        (losesConsumer (.plain "one") none) = some d ∧
      clientProgram.exec ⟨{ cfg := clientWithPassword "two" }, []⟩
        (losesConsumer (.plain "two") none) = some d' ∧
      d.shared.components.map Component.texts = [[["one"], []]] ∧
      d'.shared.components.map Component.texts = [[["two"], []]] :=
  ⟨rfl, newClient_withPassword "one", newClient_withPassword "two", rfl,
    _, _, rfl, rfl, rfl, rfl⟩

end CommonsMQ
