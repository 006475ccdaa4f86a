import DemoApp.Support.Machine
import DemoApp.Sfu.RoomHandlers

/-!
# Sfu — Answers

Requests and their responses.  A message has caused what was sent in its own turn and in the turns
of the handler it started.

* `requests_answered`: a request that passes the guards of its listener has caused, when its
  handler has ended and its client is still there, one response, to its client and with its
  request id; one that does not has caused none; and whatever was answered was asked for.
* `request_dropped`: a second transport of one role is not made, and not answered.

The room answers a `resume-producer-request` with a `pause-producer-response`; `Answer.Fits`
leaves open which type that response has.
-/

namespace DemoApp.Sfu

/-- The types of the `Response` union. -/
inductive ResponseType where
  | createProducer
  | resumeProducer
  | pauseProducer
  | getRouterCapabilities
  | createTransport
  | getClientStats
  | joinCall
  deriving DecidableEq

/-- What `request()` reads of a response. -/
structure Answer where
  requestId : RequestId
  type : ResponseType
  deriving DecidableEq

/-- A message that is a `Response`. -/
def ServerMessage.answer : ServerMessage → Option Answer
  | .getRouterCapabilitiesResponse q _ => some ⟨q, .getRouterCapabilities⟩
  | .createTransportResponse q _ _     => some ⟨q, .createTransport⟩
  | .joinCallResponse q _ _            => some ⟨q, .joinCall⟩
  | .createProducerResponse q _        => some ⟨q, .createProducer⟩
  | .pauseProducerResponse q           => some ⟨q, .pauseProducer⟩
  | .consumerCreatedNotification _ _ _ _ _ | .consumerClosedNotification _ => none

/-- A message that is a `Request`: the response that belongs to it. -/
def ClientMessage.asks : ClientMessage → Option Answer
  | .getRouterCapabilitiesRequest q => some ⟨q, .getRouterCapabilities⟩
  | .createTransportRequest q _     => some ⟨q, .createTransport⟩
  | .joinCallRequest q              => some ⟨q, .joinCall⟩
  | .createProducerRequest q _ _ _  => some ⟨q, .createProducer⟩
  | .pauseProducerRequest q _       => some ⟨q, .pauseProducer⟩
  | .resumeProducerRequest q _      => some ⟨q, .resumeProducer⟩
  | .getClientStatsRequest q _      => some ⟨q, .getClientStats⟩
  | .clientRtpCapabilities _ | .transportConnectedNotification _ _ _ => none

/-- The response `given` will do for a request that `asked` belongs to. -/
structure Answer.Fits (asked given : Answer) : Prop where
  requestId : given.requestId = asked.requestId
  type : asked.type ≠ .resumeProducer → given.type = asked.type

theorem Answer.Fits.refl (a : Answer) : a.Fits a := ⟨rfl, fun _ => rfl⟩

/-- The response that a loop over the clients ends with. -/
def LoopKind.owes : LoopKind → Option Answer
  | .join q => some ⟨q, .joinCall⟩
  | .push   => none

/-- The response that a suspended handler has yet to send. -/
def Await.owes : Await → Option Answer
  | .createTransport q _ _ => some ⟨q, .createTransport⟩
  | .connect _ _           => none
  | .produce q _ _ _       => some ⟨q, .createProducer⟩
  | .pause q               => some ⟨q, .pauseProducer⟩
  | .resume q              => some ⟨q, .resumeProducer⟩
  | .consume loop _ _ | .returned loop => loop.kind.owes

namespace Room
open Machine

/-- The event is the failure of a call of mediasoup. -/
def Event.fails : Event → Bool
  | .transportFailed _ | .produceFailed _ | .consumeFailed _ => true
  | _ => false

/-- The responses among what was sent. -/
def answers (out : List (ClientRef × ServerMessage)) : List (ClientRef × Answer) :=
  out.filterMap fun x => x.2.answer.map fun a => (x.1, a)

/-- The responses that a turn sends. -/
def said (s s' : Room) : List (ClientRef × Answer) := answers (s'.sent.drop s.sent.length)

/-- The responses in the turns of the handler `h`. -/
def saidBy (h : HandlerRef) : Room → List Event → List (ClientRef × Answer)
  | _, []      => []
  | s, e :: es =>
      match s.step e with
      | none    => []
      | some s' => (if e.handler = some h then said s s' else []) ++ saidBy h s' es

/-- The responses that a message to `s` has caused, when `es` has happened after it. -/
def caused (s : Room) (r : ClientRef) (m : ClientMessage) (es : List Event) :
    List (ClientRef × Answer) :=
  match s.step (.message r m) with
  | none    => []
  | some s' =>
      said s s' ++
        if s.handlers.length < s'.handlers.length then saidBy s.handlers.length s' es else []

/-- The handler that a message to `s` started, if it did, has ended in `s'`. -/
def Ended (s : Room) (r : ClientRef) (m : ClientMessage) (s' : Room) : Prop :=
  ∀ s₁, s.step (.message r m) = some s₁ → s.handlers.length < s₁.handlers.length →
    s'.suspended s.handlers.length = none

/-- The room listens to the request, and the guards of its listener let it pass. -/
def admits (s : Room) (r : ClientRef) : ClientMessage → Bool
  | .getRouterCapabilitiesRequest _ | .joinCallRequest _ => true
  | .createTransportRequest _ role  => ((s.client r).transport role).isNone
  | .createProducerRequest _ _ _ _  => (s.client r).sndTransport.isSome
  | .pauseProducerRequest _ p | .resumeProducerRequest _ p =>
      ((s.client r).producers.get p).isSome
  | .clientRtpCapabilities _ | .transportConnectedNotification _ _ _
  | .getClientStatsRequest _ _ => false

/-! ### Debts -/

/-- The response that the handler `h` owes, and to whom. -/
def owes (s : Room) (h : HandlerRef) : Option (ClientRef × Answer) :=
  (s.suspended h).bind fun x => x.await.owes.map fun a => (x.client, a)

/-- The response that a message calls for. -/
def claims (s : Room) (r : ClientRef) (m : ClientMessage) : Option (ClientRef × Answer) :=
  if s.admits r m then m.asks.map fun a => (r, a) else none

/-- `out` is what was owed, unless its client has gone. -/
def Paid (s : Room) (owed : Option (ClientRef × Answer)) (out : List (ClientRef × Answer)) : Prop :=
  match owed with
  | none        => out = []
  | some (r, a) =>
      (∃ b, out = [(r, b)] ∧ a.Fits b) ∨ (out = [] ∧ (s.client r).eventsClosed = true)

/-- A turn sends nothing and leaves the debt as it was, or pays it. -/
def Settles (s s' : Room) (owed : Option (ClientRef × Answer)) (h : HandlerRef) : Prop :=
  (said s s' = [] ∧ s'.owes h = owed) ∨ (s'.owes h = none ∧ Paid s owed (said s s'))

theorem said_eq {s s' : Room} {out : List (ClientRef × ServerMessage)}
    (h : s'.sent = s.sent ++ out) : said s s' = answers out := by
  rw [said, h, List.drop_left]

theorem said_same {s s' : Room} (h : s'.sent = s.sent) : said s s' = [] :=
  said_eq (h.trans (List.append_nil s.sent).symm)

theorem owes_of_suspended {s : Room} {h : HandlerRef} {r : ClientRef} {a : Await}
    (hs : s.suspended h = some ⟨r, a⟩) : s.owes h = a.owes.map fun a => (r, a) := by
  simp [owes, hs]

theorem owes_none {s : Room} {h : HandlerRef} (hs : s.suspended h = none) : s.owes h = none := by
  simp [owes, hs]

/-- A response is sent. -/
theorem paid_answer {s : Room} {r : ClientRef} {m : ServerMessage} {a b : Answer}
    (hm : m.answer = some b) (hab : a.Fits b) :
    Paid s (some (r, a)) (answers (if (s.client r).eventsClosed then [] else [(r, m)])) := by
  cases he : (s.client r).eventsClosed with
  | true => exact .inr ⟨by simp [answers], he⟩
  | false => exact .inl ⟨b, by simp [answers, hm], hab⟩

/-! ### What a turn says -/

theorem said_trans {s s₁ s' : Room} (h : s.sent <+: s₁.sent) (h' : s₁.sent <+: s'.sent) :
    said s s' = said s s₁ ++ said s₁ s' := by
  obtain ⟨out, e⟩ := h
  obtain ⟨out', e'⟩ := h'
  rw [said_eq e.symm, said_eq e'.symm, said_eq (by rw [← e', ← e, List.append_assoc]), answers,
    List.filterMap_append]
  rfl

theorem consumeFrom_owes {s : Room} {h : HandlerRef} (hlt : h < s.handlers.length) (r : ClientRef)
    (loop : Loop) (call : ConsumeCall) :
    (s.consumeFrom h r loop call).owes h = loop.kind.owes.map fun a => (r, a) := by
  rcases consumeFrom_cases s h r loop call with ⟨e, -⟩ | ⟨_, _, _, _, e, -⟩ <;> rw [e] <;>
    exact owes_of_suspended ((suspended_suspend hlt).trans (if_pos rfl))

/-- A loop ends with its response, or goes on owing it. -/
theorem runLoop_settles {s : Room} {h : HandlerRef} (hlt : h < s.handlers.length) (r : ClientRef)
    (loop : Loop) :
    Settles s (s.runLoop h r loop) (loop.kind.owes.map fun a => (r, a)) h := by
  rcases runLoop_cases s h r loop with ⟨e, -⟩ | ⟨cursor, id, e, -⟩
  · refine .inr ⟨?_, ?_⟩
    · rw [e]
      exact owes_none (suspended_finish.trans (if_pos rfl))
    · rw [e]
      cases loop.kind with
      | push => exact said_same rfl
      | join q =>
          rw [afterLoop, finish_answer, said_eq rfl]
          exact paid_answer rfl (.refl _)
  · left
    rw [e]
    rcases consumeClient_cases s h r { loop with cursor }
      (Loop.pair loop.kind (s.client r).clientId id).1
      (Loop.pair loop.kind (s.client r).clientId id).2 with ⟨-, e'⟩ | ⟨_, _, -, -, e'⟩
    · rw [e']
      exact ⟨said_same rfl, owes_of_suspended ((suspended_suspend hlt).trans (if_pos rfl))⟩
    · rw [e']
      exact ⟨said_same (sent_consumeFrom s h r _ _), consumeFrom_owes hlt r { loop with cursor } _⟩

/-- A new handler owes the response that its message calls for. -/
theorem spawn_settles (s : Room) (r : ClientRef) (a : Await) :
    Settles s (s.spawn r a) (a.owes.map fun a => (r, a)) s.handlers.length :=
  .inl ⟨said_same rfl, owes_of_suspended (suspended_spawn.trans (if_pos rfl))⟩

/-- A message that does nothing is dropped. -/
theorem dropped_settles (s : Room) : Settles s s none s.handlers.length :=
  .inl ⟨said_same rfl, owes_none (by simp [suspended])⟩

/-- What a message calls for is paid in its turn, or owed by the handler that it starts. -/
theorem message_settles {s : Room} {r : ClientRef} (he : (s.client r).eventsClosed = false)
    (m : ClientMessage) : Settles s (s.receive r m) (s.claims r m) s.handlers.length := by
  simp only [receive, he, Bool.false_eq_true, if_false]
  cases m with
  | getRouterCapabilitiesRequest q =>
      dsimp only
      rw [send_frame]
      refine .inr ⟨owes_none (by simp [suspended]), ?_⟩
      rw [said_eq rfl]
      exact paid_answer rfl (.refl _)
  | clientRtpCapabilities caps => exact .inl ⟨said_same rfl, owes_none (by simp [suspended])⟩
  | createTransportRequest q role =>
      cases ht : (s.client r).transport role with
      | some t =>
          simp only [createTransportRequest, claims, admits, ht]
          exact dropped_settles s
      | none =>
          simp only [createTransportRequest, claims, admits, ht]
          exact spawn_settles s r _
  | joinCallRequest q =>
      exact runLoop_settles (s := { s with handlers := s.handlers ++ [none] }) (by simp) r _
  | transportConnectedNotification q role dtls =>
      simp only [transportConnectedNotification]
      split
      · exact spawn_settles s r _
      · exact dropped_settles s
  | createProducerRequest q kind rtp u =>
      cases ht : (s.client r).sndTransport with
      | none =>
          simp only [createProducerRequest, claims, admits, ht]
          exact dropped_settles s
      | some t =>
          simp only [createProducerRequest, claims, admits, ht]
          exact spawn_settles s r _
  | pauseProducerRequest q p | resumeProducerRequest q p =>
      cases hp : (s.client r).producers.get p with
      | none =>
          simp only [switchProducerRequest, claims, admits, hp]
          exact dropped_settles s
      | some kind =>
          simp only [switchProducerRequest, claims, admits, hp]
          exact spawn_settles s r _
  | getClientStatsRequest q id => exact dropped_settles s

/-- The transport is created: its request is answered. -/
theorem transportCreated_settles {s : Room} {h : HandlerRef} {r : ClientRef} {q : RequestId}
    {role : Role} {o : WebRtcTransportOptions}
    (hs : s.suspended h = some ⟨r, .createTransport q role o⟩) (info : TransportInfo) :
    Settles s (s.transportCreated h r q role info) (s.owes h) h := by
  rw [owes_of_suspended hs]
  refine .inr ⟨owes_none (suspended_finish.trans (if_pos rfl)), ?_⟩
  rw [transportCreated, finish_answer, said_eq rfl]
  have hopen : ∀ t, ((s.client r).setTransport role t).eventsClosed =
      (s.client r).eventsClosed := fun t => by cases role <;> rfl
  simp only [client_modify, if_true, hopen]
  exact paid_answer rfl (.refl _)

/-- The producer is made: its request is answered, and the loop after that owes nothing. -/
theorem produced_settles {s : Room} {h : HandlerRef} {r : ClientRef} {q : RequestId}
    {t : TransportId} {kind : MediaKind} {rtp : RtpParameters}
    (hs : s.suspended h = some ⟨r, .produce q t kind rtp⟩) :
    Settles s (s.produced h r q t kind) (s.owes h) h := by
  obtain ⟨s₂, hsend, hlen, hs₂⟩ : ∃ s₂ : Room,
      s.produced h r q t kind = s₂.runLoop h r ⟨.push, 0⟩ ∧
      s₂.handlers.length = s.handlers.length ∧ s₂.sent = s.sent ++
        if (s.client r).eventsClosed then []
        else [(r, .createProducerResponse q s.router.producers.length)] := by
    refine ⟨_, rfl, ?_, ?_⟩
    · rw [send_frame]; rfl
    · rw [send_frame]
      simp
  have hpush := runLoop_settles (s := s₂) (hlen ▸ suspended_lt hs) r ⟨.push, 0⟩
  have hquiet : (s₂.runLoop h r ⟨.push, 0⟩).owes h = none ∧
      said s₂ (s₂.runLoop h r ⟨.push, 0⟩) = [] := by
    rcases hpush with ⟨hsaid, howes⟩ | ⟨howes, hsaid⟩ <;> exact ⟨howes, hsaid⟩
  rw [hsend, owes_of_suspended hs]
  refine .inr ⟨hquiet.1, ?_⟩
  rw [said_trans ⟨_, hs₂.symm⟩ (runLoop_sent s₂ h r _), hquiet.2, List.append_nil, said_eq hs₂]
  exact paid_answer rfl (.refl _)

/-- The handler ends with an answer. -/
theorem finish_settles {s : Room} {h : HandlerRef} {r : ClientRef} {a : Await} {m : ServerMessage}
    {b asked : Answer} (hs : s.suspended h = some ⟨r, a⟩)
    (hm : ServerMessage.answer m = some b) (ha : a.owes = some asked) (hq : asked.Fits b) :
    Settles s ((s.send r m).finish h) (s.owes h) h := by
  refine .inr ⟨owes_none (suspended_finish.trans (if_pos rfl)), ?_⟩
  rw [owes_of_suspended hs, ha, finish_answer, said_eq rfl]
  exact paid_answer hm hq

/-- A turn of a handler pays what it owes, or goes on owing it. -/
theorem continued_settles {s s' : Room} {e : Event} {h : HandlerRef} (he : s.step e = some s')
    (hh : e.handler = some h) (hok : e.fails = false) : Settles s s' (s.owes h) h := by
  cases e with
  | transportCreated g info =>
      cases hh
      simp only [step] at he
      split at he
      · next hs =>
          cases he
          exact transportCreated_settles hs info
      · cases he
  | transportConnected g ok =>
      cases hh
      simp only [step] at he
      split at he
      · next hs =>
          cases he
          rw [owes_of_suspended hs]
          exact .inr ⟨owes_none (suspended_finish.trans (if_pos rfl)), said_same rfl⟩
      · cases he
  | produced g =>
      cases hh
      simp only [step] at he
      split at he
      · next hs =>
          cases he
          exact produced_settles hs
      · cases he
  | producerSwitched g =>
      cases hh
      simp only [step] at he
      split at he
      · next hs =>
          cases he
          exact finish_settles hs rfl rfl (.refl _)
      · next hs =>
          cases he
          exact finish_settles hs rfl rfl ⟨rfl, by simp⟩
      · cases he
  | consumed g rtp =>
      cases hh
      simp only [step] at he
      split at he
      · next r loop call o hs =>
          cases he
          rw [owes_of_suspended hs, consumed_eq]
          refine .inl ⟨?_, consumeFrom_owes ?_ r loop call⟩
          · rw [said_eq (sent_consumeFrom _ h r loop call)]
            split <;> rfl
          · exact suspended_lt (s := s) hs
      · cases he
  | resumed g =>
      cases hh
      simp only [step] at he
      split at he
      · next hs =>
          cases he
          rw [owes_of_suspended hs]
          exact runLoop_settles (suspended_lt hs) _ _
      · cases he
  | transportFailed | produceFailed | consumeFailed => cases hok
  | add | socketClosed | message | consumerClosed | routerClosed | close | elapsed => cases hh

/-! ### Other turns -/

theorem said_closes {T : TransportId → Prop} {s s' : Room} (h : Closes T s s') :
    said s s' = [] := by
  obtain ⟨out, e⟩ := h.sent
  rw [said_eq e]
  simp [answers, ServerMessage.answer]

/-- Nobody answers on an event that is neither a message nor the continuation of a handler. -/
theorem said_quiet {s s' : Room} {e : Event} (he : s.step e = some s') (hh : e.handler = none)
    (hm : ∀ r m, e ≠ .message r m) : said s s' = [] := by
  cases step_turn he with
  | add | elapsed => exact said_same rfl
  | @socketClosed r =>
      by_cases hc : (s.client r).eventsClosed = true
      · rw [socketClosed_of_closed hc]
        exact said_same rfl
      · obtain ⟨s₂, hcl, -, -, e⟩ := socketClosed_spec (by simpa using hc)
        have hquit : said (s.quit r) s₂ = [] := said_closes hcl
        rw [e]
        split
        · have hcl' := closes_of_close s₂
          have h := said_trans hcl.sent_grows hcl'.sent_grows
          rw [hquit, said_closes hcl'] at h
          exact h
        · exact hquit
  | consumerClosed => exact said_closes (closes_of_closeConsumer _ _)
  | routerClosed => exact said_closes (closes_of_closeRouter s)
  | close => exact said_closes (closes_of_close s)
  | capabilities | joinCallRequest | spawn | ignored | answered => exact absurd rfl (hm _ _)
  | transportCreated | produced | consumed | resumed | consumeFailed => cases hh
  | ended hend =>
      cases e with
      | transportFailed | transportConnected | produceFailed | producerSwitched => cases hh
      | _ => exact hend.elim

theorem said_failed {s s' : Room} {e : Event} {h : HandlerRef} (he : s.step e = some s')
    (hh : e.handler = some h) (hf : e.fails = true) : said s s' = [] ∧ s'.owes h = none := by
  cases e with
  | transportFailed | produceFailed | consumeFailed =>
      cases hh
      simp only [step] at he
      split at he
      · cases he
        exact ⟨said_same rfl, owes_none (suspended_finish.trans (if_pos rfl))⟩
      · cases he
  | _ => cases hf

theorem length_runLoop (s : Room) (h : HandlerRef) (r : ClientRef) (loop : Loop) :
    (s.runLoop h r loop).handlers.length = s.handlers.length := by
  obtain ⟨x, out, e⟩ := runLoop_frame s h r loop
  simp [e]

/-- A message starts at most one handler, and nothing else starts one. -/
theorem length_turn {s s' : Room} {e : Event} (ht : Turn s e s') :
    s'.handlers.length = s.handlers.length ∨
      (∃ r m, e = .message r m) ∧ s'.handlers.length = s.handlers.length + 1 := by
  cases ht with
  | add | capabilities | ignored | answered | elapsed => exact .inl rfl
  | socketClosed => exact .inl (congrArg List.length (handlers_socketClosed s _))
  | joinCallRequest =>
      exact .inr ⟨⟨_, _, rfl⟩, (length_runLoop _ _ _ _).trans List.length_append⟩
  | spawn => exact .inr ⟨⟨_, _, rfl⟩, List.length_append⟩
  | @transportCreated h info r q role o hs =>
      obtain ⟨out, -, e⟩ := transportCreated_eq s h r q role info
      rw [e]
      exact .inl List.length_set
  | @produced h r q t kind rtp hs =>
      obtain ⟨out, -, e⟩ := produced_eq s h r q t kind
      rw [e]
      exact .inl (length_runLoop _ _ _ _)
  | @consumed h rtp r loop call o hs =>
      rw [consumed_eq]
      obtain ⟨a, e⟩ := consumeFrom_frame _ h r loop call
      rw [e]
      exact .inl List.length_set
  | resumed => exact .inl (length_runLoop _ _ _ _)
  | consumeFailed | ended => exact .inl List.length_set
  | consumerClosed =>
      exact .inl (congrArg List.length (closes_of_closeConsumer _ _).handlers)
  | routerClosed =>
      exact .inl (congrArg List.length (closes_of_closeRouter s).handlers)
  | close =>
      exact .inl (congrArg List.length (closes_of_close s).handlers)

theorem length_step {s s' : Room} {e : Event} (he : s.step e = some s') :
    s.handlers.length ≤ s'.handlers.length := by
  rcases length_turn (step_turn he) with h | ⟨-, h⟩ <;> omega

/-- A turn of another handler leaves a debt alone. -/
theorem owes_turn {s s' : Room} {e : Event} {h : HandlerRef} (he : s.step e = some s')
    (hlt : h < s.handlers.length) (hh : e.handler ≠ some h) : s'.owes h = s.owes h := by
  rw [owes, owes, suspended_turn (step_turn he) hlt hh]

/-! ### What a handler has said -/

/-- Whoever has gone stays gone. -/
theorem closed_of_run {es : List Event} {s s' : Room} {r : ClientRef}
    (hx : exec step s es = some s') (hr : r < s.added) (hc : (s.client r).eventsClosed = true) :
    (s'.client r).eventsClosed = true := by
  have h : r < s'.added ∧ (s'.client r).eventsClosed = true :=
    exec_invariant_of_step (I := fun s : Room => r < s.added ∧ (s.client r).eventsClosed = true)
      (fun _ _ _ h he => ⟨Nat.lt_of_lt_of_le h.1 (Core.added_step (core_step he)),
        Core.eventsClosed_step (core_step he) h.1 h.2⟩) ⟨hr, hc⟩ hx
  exact h.2

theorem Paid.later {es : List Event} {s s' : Room} {owed : Option (ClientRef × Answer)}
    {out : List (ClientRef × Answer)} (h : Paid s owed out) (hx : exec step s es = some s')
    (hr : ∀ r a, owed = some (r, a) → r < s.added) : Paid s' owed out := by
  match owed with
  | none        => exact h
  | some (r, a) => exact h.imp_right fun ⟨hout, hc⟩ => ⟨hout, closed_of_run hx (hr r a rfl) hc⟩

theorem Paid.owed {s : Room} {owed : Option (ClientRef × Answer)} {x : ClientRef × Answer}
    {out : List (ClientRef × Answer)} (h : Paid s owed out) (hx : x ∈ out) :
    ∃ a, owed = some (x.1, a) ∧ a.Fits x.2 := by
  match owed with
  | none        =>
      rw [show out = [] from h] at hx
      cases hx
  | some (r, a) =>
      rcases h with ⟨b, rfl, hf⟩ | ⟨rfl, -⟩
      · rw [List.mem_singleton] at hx
        rw [hx]
        exact ⟨a, rfl, hf⟩
      · cases hx

/-- **A handler pays its debt once.**  Along a run without failures it says nothing and owes what
it owed, or it has paid. -/
theorem saidBy_settles {s' : Room} {h : HandlerRef} : ∀ {es : List Event} {s : Room},
    exec step s es = some s' → h < s.handlers.length →
    (∀ r a, s.owes h = some (r, a) → r < s.added) → (∀ e ∈ es, e.fails = false) →
    (saidBy h s es = [] ∧ s'.owes h = s.owes h) ∨
      (s'.owes h = none ∧ Paid s' (s.owes h) (saidBy h s es))
  | [], s, hx, _, _, _ => by cases hx; exact .inl ⟨rfl, rfl⟩
  | e :: es, s, hx, hlt, hr, hok => by
      obtain ⟨s₁, he, hx₁⟩ := exec_cons.mp hx
      have hlt₁ := Nat.lt_of_lt_of_le hlt (length_step he)
      have hok₁ : ∀ e' ∈ es, e'.fails = false := fun e' h => hok e' (List.mem_cons_of_mem e h)
      -- the debt of the handler is as it was
      have same : s₁.owes h = s.owes h → (saidBy h s₁ es = [] ∧ s'.owes h = s.owes h) ∨
          (s'.owes h = none ∧ Paid s' (s.owes h) (saidBy h s₁ es)) := by
        intro e'
        rw [← e'] at hr ⊢
        exact saidBy_settles hx₁ hlt₁
          (fun r a ho => Nat.lt_of_lt_of_le (hr r a ho) (Core.added_step (core_step he))) hok₁
      simp only [saidBy, he]
      by_cases hh : e.handler = some h
      · rw [if_pos hh]
        rcases continued_settles he hh (hok e List.mem_cons_self) with ⟨hs, ho⟩ | ⟨ho, hp⟩
        · rw [hs]
          exact same ho
        · -- it has paid, and says nothing any more
          have hquiet : saidBy h s₁ es = [] ∧ s'.owes h = none := by
            rcases saidBy_settles hx₁ hlt₁ (by simp [ho]) hok₁ with ⟨hs, ho'⟩ | ⟨ho', hp'⟩
            · exact ⟨hs, ho'.trans ho⟩
            · rw [ho] at hp'
              exact ⟨hp', ho'⟩
          rw [hquiet.1, List.append_nil]
          exact .inr ⟨hquiet.2, hp.later hx hr⟩
      · rw [if_neg hh]
        exact same (owes_turn he hlt hh)

/-- Whatever a turn of a handler says was owed, and a debt that is left was there before. -/
theorem turn_owed {s s' : Room} {e : Event} {h : HandlerRef} (he : s.step e = some s')
    (hh : e.handler = some h) :
    (∀ x ∈ said s s', ∃ a, s.owes h = some (x.1, a) ∧ a.Fits x.2) ∧
      (s'.owes h = s.owes h ∨ s'.owes h = none) := by
  cases hf : e.fails with
  | true =>
      obtain ⟨hs, ho⟩ := said_failed he hh hf
      rw [hs]
      exact ⟨by simp, .inr ho⟩
  | false =>
      rcases continued_settles he hh hf with ⟨hs, ho⟩ | ⟨ho, hp⟩
      · rw [hs]
        exact ⟨by simp, .inl ho⟩
      · exact ⟨fun x hx => hp.owed hx, .inr ho⟩

/-- Whatever a handler says it owes. -/
theorem saidBy_owed {h : HandlerRef} {x : ClientRef × Answer} : ∀ {es : List Event} {s : Room},
    h < s.handlers.length → x ∈ saidBy h s es → ∃ a, s.owes h = some (x.1, a) ∧ a.Fits x.2
  | [], s, _, hx => by simp [saidBy] at hx
  | e :: es, s, hlt, hx => by
      simp only [saidBy] at hx
      split at hx
      · simp at hx
      · next s₁ he =>
          by_cases hh : e.handler = some h
          · rw [if_pos hh] at hx
            obtain ⟨hsaid, howes⟩ := turn_owed he hh
            rcases List.mem_append.mp hx with hx | hx
            · exact hsaid x hx
            · obtain ⟨a, ho, hf⟩ := saidBy_owed (Nat.lt_of_lt_of_le hlt (length_step he)) hx
              rcases howes with h' | h'
              · exact ⟨a, h' ▸ ho, hf⟩
              · rw [h'] at ho
                cases ho
          · rw [if_neg hh, List.nil_append] at hx
            obtain ⟨a, ho, hf⟩ := saidBy_owed (Nat.lt_of_lt_of_le hlt (length_step he)) hx
            exact ⟨a, owes_turn he hlt hh ▸ ho, hf⟩

/-! ### What a message has caused -/

/-- The turn of a message, whether the room still listens or not. -/
theorem message_turn {s s' : Room} {r : ClientRef} {m : ClientMessage}
    (he : s.step (.message r m) = some s') :
    r < s.added ∧ (s' = s ∧ (s.client r).eventsClosed = true ∨
      Settles s s' (s.claims r m) s.handlers.length) := by
  obtain ⟨hr, rfl⟩ := message_step he
  refine ⟨hr, ?_⟩
  by_cases hc : (s.client r).eventsClosed = true
  · exact .inl ⟨by simp [receive, hc], hc⟩
  · exact .inr (message_settles (by simpa using hc) m)

theorem claims_eq_some {s : Room} {r q : ClientRef} {m : ClientMessage} {a : Answer}
    (h : s.claims r m = some (q, a)) : q = r ∧ m.asks = some a := by
  simp only [claims] at h
  split at h
  · obtain ⟨b, hb, e⟩ := Option.map_eq_some_iff.mp h
    cases e
    exact ⟨rfl, hb⟩
  · cases h

/-- **What a message has caused** when its handler has ended: what it called for, unless its
client has gone. -/
theorem caused_paid {s s' : Room} {r : ClientRef} {m : ClientMessage} {es : List Event}
    (hx : exec step s (.message r m :: es) = some s') (hok : ∀ e ∈ es, e.fails = false)
    (hend : s.Ended r m s') (hopen : (s'.client r).eventsClosed = false) :
    Paid s' (s.claims r m) (s.caused r m es) := by
  obtain ⟨s₁, he, hx₁⟩ := exec_cons.mp hx
  obtain ⟨hr, ⟨-, hc⟩ | hs⟩ := message_turn he
  · cases (closed_of_run hx hr hc).symm.trans hopen
  · have hclaims : ∀ q a, s.claims r m = some (q, a) → q < s.added := fun q a h =>
      (claims_eq_some h).1 ▸ hr
    simp only [caused, he]
    by_cases hlt : s.handlers.length < s₁.handlers.length
    · rw [if_pos hlt]
      have hnone : s'.owes s.handlers.length = none := owes_none (hend s₁ he hlt)
      have hadd := Core.added_step (core_step he)
      rcases hs with ⟨hsaid, ho⟩ | ⟨ho, hp⟩
      · -- the handler owes what the message calls for
        rw [hsaid, List.nil_append, ← ho]
        rcases saidBy_settles hx₁ hlt (fun q a h => Nat.lt_of_lt_of_le (hclaims q a (ho ▸ h)) hadd)
          hok with ⟨hq, ho'⟩ | ⟨-, hp⟩
        · rw [← ho', hnone, hq]
          rfl
        · exact hp
      · have hquiet : saidBy s.handlers.length s₁ es = [] := by
          rcases saidBy_settles hx₁ hlt (by simp [ho]) hok with ⟨hq, -⟩ | ⟨-, hp⟩
          · exact hq
          · rw [ho] at hp
            exact hp
        rw [hquiet, List.append_nil]
        exact hp.later hx hclaims
    · rw [if_neg hlt, List.append_nil]
      rcases hs with ⟨hsaid, ho⟩ | ⟨-, hp⟩
      · have hnone : s₁.owes s.handlers.length = none := by
          refine owes_none ?_
          rw [suspended, List.getElem?_eq_none (Nat.le_of_not_lt hlt)]
          rfl
        rw [hsaid, ← ho, hnone]
        rfl
      · exact hp.later hx hclaims

/-- Whatever a message has caused answers it, and goes to its client. -/
theorem caused_owed {s : Room} {r : ClientRef} {m : ClientMessage} {es : List Event}
    {x : ClientRef × Answer} (hx : x ∈ s.caused r m es) :
    x.1 = r ∧ ∃ a, m.asks = some a ∧ a.Fits x.2 := by
  simp only [caused] at hx
  split at hx
  · cases hx
  · next s₁ he =>
      have claimed : ∀ {a}, s.claims r m = some (x.1, a) → a.Fits x.2 →
          x.1 = r ∧ ∃ a, m.asks = some a ∧ a.Fits x.2 := fun h hf =>
        ⟨(claims_eq_some h).1, _, (claims_eq_some h).2, hf⟩
      obtain ⟨-, ⟨rfl, -⟩ | hs⟩ := message_turn he
      · simp [said_same] at hx
      · rcases List.mem_append.mp hx with hx | hx
        · rcases hs with ⟨hsaid, -⟩ | ⟨-, hp⟩
          · rw [hsaid] at hx
            cases hx
          · obtain ⟨a, h, hf⟩ := hp.owed hx
            exact claimed h hf
        · split at hx
          · next hlt =>
              obtain ⟨a, ho, hf⟩ := saidBy_owed hlt hx
              rcases hs with ⟨-, h⟩ | ⟨h, -⟩
              · exact claimed (h ▸ ho) hf
              · rw [h] at ho
                cases ho
          · cases hx

/-! ### Every response was asked for -/

/-- A message in the run of `es` from `s₀` started the handler `h`. -/
def StartedBy (s₀ : Room) (es : List Event) (h : HandlerRef) (r : ClientRef) : Prop :=
  ∃ earlier m later s s₁, es = earlier ++ .message r m :: later ∧
    exec step s₀ earlier = some s ∧ s.step (.message r m) = some s₁ ∧ h = s.handlers.length ∧
    h < s₁.handlers.length

/-- A message of its client in the run of `es` from `s₀` has caused the response `x`. -/
def Caused (s₀ : Room) (es : List Event) (x : ClientRef × Answer) : Prop :=
  ∃ earlier m later s, es = earlier ++ .message x.1 m :: later ∧
    exec step s₀ earlier = some s ∧ x ∈ s.caused x.1 m later

theorem saidBy_concat {h : HandlerRef} {e : Event} {s' s'' : Room} (he : s'.step e = some s'') :
    ∀ {es : List Event} {s : Room}, exec step s es = some s' →
      saidBy h s (es ++ [e]) = saidBy h s es ++ if e.handler = some h then said s' s'' else []
  | [], s, hx => by
      cases hx
      simp [saidBy, he]
  | e₁ :: es, s, hx => by
      obtain ⟨s₁, h₁, hx₁⟩ := exec_cons.mp hx
      simp only [List.cons_append, saidBy, h₁, saidBy_concat he hx₁, List.append_assoc]

theorem caused_concat {s s' s'' : Room} {r : ClientRef} {m : ClientMessage} {es : List Event}
    {e : Event} (hx : exec step s (.message r m :: es) = some s') (he : s'.step e = some s'')
    {x : ClientRef × Answer} (h : x ∈ s.caused r m es) : x ∈ s.caused r m (es ++ [e]) := by
  obtain ⟨s₁, h₁, hx₁⟩ := exec_cons.mp hx
  simp only [caused, h₁] at h ⊢
  rcases List.mem_append.mp h with h | h
  · exact List.mem_append_left _ h
  · split at h
    · next hlt =>
        rw [if_pos hlt, saidBy_concat he hx₁]
        exact List.mem_append_right _ (List.mem_append_left _ h)
    · cases h

theorem Caused.concat {s₀ s s' : Room} {es : List Event} {e : Event} {x : ClientRef × Answer}
    (h : Caused s₀ es x) (hx : exec step s₀ es = some s) (he : s.step e = some s') :
    Caused s₀ (es ++ [e]) x := by
  obtain ⟨earlier, m, later, s₁, rfl, hx₁, hmem⟩ := h
  obtain ⟨s₁', hx₁', hx₂⟩ := exec_append.mp hx
  cases hx₁.symm.trans hx₁'
  exact ⟨earlier, m, later ++ [e], s₁, by simp, hx₁, caused_concat hx₂ he hmem⟩

theorem StartedBy.concat {s₀ : Room} {es : List Event} {h : HandlerRef} {r : ClientRef}
    (hs : StartedBy s₀ es h r) (e : Event) : StartedBy s₀ (es ++ [e]) h r := by
  obtain ⟨earlier, m, later, s, s₁, rfl, hrest⟩ := hs
  exact ⟨earlier, m, later ++ [e], s, s₁, by simp, hrest⟩

/-- What a handler says was caused by the message that started it. -/
theorem StartedBy.caused {s₀ s s' : Room} {es : List Event} {h : HandlerRef} {e : Event}
    {x : ClientRef × Answer} (hs : StartedBy s₀ es h x.1) (hx : exec step s₀ es = some s)
    (he : s.step e = some s') (hh : e.handler = some h) (hsaid : x ∈ said s s') :
    Caused s₀ (es ++ [e]) x := by
  obtain ⟨earlier, m, later, s₁, s₂, rfl, hx₁, h₁, rfl, hlt⟩ := hs
  obtain ⟨s₁', hx₁', hx₂⟩ := exec_append.mp hx
  cases hx₁.symm.trans hx₁'
  obtain ⟨s₂', h₂, hx₃⟩ := exec_cons.mp hx₂
  cases h₁.symm.trans h₂
  refine ⟨earlier, m, later ++ [e], s₁, by simp, hx₁, ?_⟩
  simp only [Room.caused, h₁, if_pos hlt, saidBy_concat he hx₃, if_pos hh]
  exact List.mem_append_right _ (List.mem_append_right _ hsaid)

/-- Who owes was started by a message of the client it owes to. -/
theorem startedBy_step {s₀ s s' : Room} {es : List Event} {e : Event}
    (hx : exec step s₀ es = some s) (he : s.step e = some s')
    (ih : ∀ h r a, s.owes h = some (r, a) → StartedBy s₀ es h r) {h : HandlerRef} {r : ClientRef}
    {a : Answer} (ho : s'.owes h = some (r, a)) : StartedBy s₀ (es ++ [e]) h r := by
  by_cases hh : e.handler = some h
  · rcases (turn_owed he hh).2 with h' | h'
    · exact (ih h r a (h' ▸ ho)).concat e
    · rw [h'] at ho
      cases ho
  · by_cases hlt : h < s.handlers.length
    · exact (ih h r a (owes_turn he hlt hh ▸ ho)).concat e
    · -- the handler is new
      have hlt' : h < s'.handlers.length := by
        obtain ⟨y, hy, -⟩ := Option.bind_eq_some_iff.mp ho
        exact suspended_lt hy
      rcases length_turn (step_turn he) with hl | ⟨⟨q, m, rfl⟩, hl⟩
      · exact absurd (hl ▸ hlt') hlt
      · obtain rfl : h = s.handlers.length :=
          Nat.le_antisymm (Nat.le_of_lt_succ (Nat.lt_of_lt_of_eq hlt' hl)) (Nat.le_of_not_lt hlt)
        obtain ⟨-, ⟨rfl, -⟩ | ⟨-, hc⟩ | ⟨hn, -⟩⟩ := message_turn he
        · exact absurd hl (Nat.succ_ne_self _).symm
        · obtain rfl := (claims_eq_some (hc.symm.trans ho)).1
          exact ⟨es, m, [], s, s', rfl, hx, he, rfl, hlt'⟩
        · rw [hn] at ho
          cases ho

theorem answers_caused {s₀ s : Room} {es : List Event} (h₀ : s₀.sent = [])
    (hs₀ : ∀ h, s₀.owes h = none) (hx : exec step s₀ es = some s) :
    ∀ x ∈ answers s.sent, Caused s₀ es x := by
  have h : (∀ x ∈ answers s.sent, Caused s₀ es x) ∧
      ∀ h r a, s.owes h = some (r, a) → StartedBy s₀ es h r := by
    refine exec_history (I := fun es s => (∀ x ∈ answers s.sent, Caused s₀ es x) ∧
      ∀ h r a, s.owes h = some (r, a) → StartedBy s₀ es h r) ?_
      (fun es s e s' hx ih he => ⟨fun x hmem => ?_, fun h r a => startedBy_step hx he ih.2⟩) hx
    · rw [h₀]
      exact ⟨by simp [answers], fun h r a ho => by simp [hs₀ h] at ho⟩
    · obtain ⟨out, e'⟩ := sent_turn (step_turn he)
      rw [← e', answers, List.filterMap_append] at hmem
      rcases List.mem_append.mp hmem with hmem | hmem
      · exact (ih.1 x hmem).concat hx he
      · replace hmem : x ∈ said s s' := by rw [said_eq e'.symm]; exact hmem
        cases hh : e.handler with
        | some h =>
            obtain ⟨a, ho, -⟩ := (turn_owed he hh).1 x hmem
            exact (ih.2 h x.1 a ho).caused hx he hh hmem
        | none =>
            by_cases hm : ∃ r m, e = .message r m
            · obtain ⟨r, m, rfl⟩ := hm
              have hcaused : x ∈ s.caused r m [] := by
                simp only [caused, he]
                exact List.mem_append_left _ hmem
              obtain rfl := (caused_owed hcaused).1
              exact ⟨es, m, [], s, rfl, hx, hcaused⟩
            · rw [said_quiet he hh fun r m e' => hm ⟨r, m, e'⟩] at hmem
              cases hmem
  exact h.1

/-! ### Requests -/

/-- **Requests are answered**, in every run of a room in which every call of mediasoup succeeds.
A request whose handler has ended while its client is still there has caused, if the guards of its
listener let it pass, exactly one response, and none if they do not; nobody gets the response to
another client's request; and every response was caused so. -/
theorem requests_answered {config : RoomConfig} {id : CallId} {caps : RtpCapabilities}
    {es : List Event} {s : Room} (hx : exec step (.new config (createRouter id caps)) es = some s)
    (hok : ∀ e ∈ es, e.fails = false) :
    (∀ earlier r m later s₁ a, es = earlier ++ .message r m :: later →
      exec step (.new config (createRouter id caps)) earlier = some s₁ → m.asks = some a →
      s₁.Ended r m s → (s.client r).eventsClosed = false →
      if s₁.admits r m then ∃ b, s₁.caused r m later = [(r, b)] ∧ a.Fits b
      else s₁.caused r m later = []) ∧
    (∀ earlier r m later s₁, es = earlier ++ .message r m :: later →
      exec step (.new config (createRouter id caps)) earlier = some s₁ →
      ∀ x ∈ s₁.caused r m later, x.1 = r) ∧
    ∀ x ∈ answers s.sent, Caused (.new config (createRouter id caps)) es x := by
  refine ⟨?_, fun _ r m later s₁ _ _ x hmem => (caused_owed hmem).1, answers_caused rfl ?_ hx⟩
  · rintro earlier r m later s₁ a rfl hx₁ ha hend hopen
    obtain ⟨s₁', hx₁', hx₂⟩ := exec_append.mp hx
    cases hx₁.symm.trans hx₁'
    have hp := caused_paid hx₂ (fun e he => hok e (by simp [he])) hend hopen
    simp only [claims, ha, Option.map_some] at hp
    split at hp
    · next hadm =>
        rw [if_pos hadm]
        rcases hp with hp | ⟨-, hc⟩
        · exact hp
        · cases hc.symm.trans hopen
    · next hadm =>
        rw [if_neg hadm]
        exact hp
  · intro h
    exact owes_none (by simp [suspended, Room.new])

/-- A client asks for its transport and makes a producer in it, which it resumes. -/
def resumes : List Event :=
  [.add { clientId := "a", userId := "u" }, .message 0 (.createTransportRequest "1" .producing),
    .transportCreated 0 ⟨"ice", [], "dtls"⟩,
    .message 0 (.createProducerRequest "2" .audio "opus" "u"), .produced 1,
    .message 0 (.resumeProducerRequest "3" 0), .producerSwitched 2]

theorem requests_answered_resumes :
    ∃ s s₁ b, exec step lobby resumes = some s ∧ exec step lobby (resumes.take 5) = some s₁ ∧
      s₁.caused 0 (.resumeProducerRequest "3" 0) [.producerSwitched 2] = [(0, b)] ∧
      b.requestId = "3" := by
  obtain ⟨s, s₁, hx, hx₁, hopen, hnone, hlen, hadm⟩ : ∃ s s₁, exec step lobby resumes = some s ∧
      exec step lobby (resumes.take 5) = some s₁ ∧ (s.client 0).eventsClosed = false ∧
      s.suspended 2 = none ∧ s₁.handlers.length = 2 ∧
      s₁.admits 0 (.resumeProducerRequest "3" 0) = true := ⟨_, _, rfl, rfl, rfl, rfl, rfl, rfl⟩
  obtain ⟨h, -⟩ := requests_answered hx (by decide)
  have hend : s₁.Ended 0 (.resumeProducerRequest "3" 0) s := by
    intro _ _ _
    rw [hlen]
    exact hnone
  have hb := h (resumes.take 5) 0 (.resumeProducerRequest "3" 0) [.producerSwitched 2] s₁ _ rfl hx₁
    rfl hend hopen
  rw [if_pos hadm] at hb
  obtain ⟨b, hb, hf⟩ := hb
  exact ⟨s, s₁, b, hx, hx₁, hb, hf.requestId⟩

/-- **A request is dropped**: a client asks twice for the same transport, and the second request is
not answered. -/
theorem request_dropped :
    ∃ s, exec step lobby [.add { clientId := "a", userId := "u" },
        .message 0 (.createTransportRequest "1" .producing),
        .transportCreated 0 ⟨"ice", [], "dtls"⟩] = some s ∧
      (s.client 0).eventsClosed = false ∧
      s.step (.message 0 (.createTransportRequest "2" .producing)) = some s ∧
      s.caused 0 (.createTransportRequest "2" .producing) [] = [] :=
  ⟨_, rfl, rfl, rfl, rfl⟩

end Room

end DemoApp.Sfu
