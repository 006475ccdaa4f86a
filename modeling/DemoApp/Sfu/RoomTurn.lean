import DemoApp.Sfu.RoomCore

/-!
# Sfu — RoomTurn

`Turn s e s'` lists what a turn of the event loop can do to a room, one constructor for each kind
of update and with the guards that led to it.  `step_turn` is the inversion of `step`: results
about steps are proved by cases on a `Turn`.
-/

namespace DemoApp.Sfu

/-- The loop over the clients that an `await` is in. -/
def Await.loopKind : Await → Option LoopKind
  | .consume loop _ _ | .returned loop => some loop.kind
  | .createTransport _ _ _ | .connect _ _ | .produce _ _ _ _ | .pause _ | .resume _ => none

namespace Room

/-- What the handler of a message suspends at, if it has no loop. -/
def Awaits (s : Room) (r : ClientRef) : ClientMessage → Await → Prop
  | .createTransportRequest q role, a =>
      (s.client r).transport role = none ∧
        a = .createTransport q role ⟨s.config.ip, s.config.announcedIp⟩
  | .transportConnectedNotification _ role dtls, a => a = .connect role dtls
  | .createProducerRequest q kind rtp _, a =>
      ∃ t, (s.client r).sndTransport = some t ∧ a = .produce q t kind rtp
  | .pauseProducerRequest q _, a => a = .pause q
  | .resumeProducerRequest q _, a => a = .resume q
  | _, _ => False

/-- The handler that an event continues. -/
def Event.handler : Event → Option HandlerRef
  | .transportCreated h _ | .transportFailed h | .transportConnected h _ | .produced h
  | .produceFailed h | .producerSwitched h | .consumed h _ | .consumeFailed h | .resumed h => some h
  | .add _ | .socketClosed _ | .message _ _ | .consumerClosed _ | .routerClosed | .close
  | .elapsed _ => none

/-- The event ends the handler `h`, which has no loop. -/
def Event.Ends : Event → HandlerRef → Prop
  | .transportFailed g, h | .transportConnected g _, h | .produceFailed g, h
  | .producerSwitched g, h => g = h
  | _, _ => False

/-- Not a word of a new consumer. -/
def NoConsumer (out : List (ClientRef × ServerMessage)) : Prop :=
  ∀ c k p kind rtp m, (c, ServerMessage.consumerCreatedNotification k p kind rtp m) ∉ out

inductive Turn (s : Room) : Event → Room → Prop
  | add {ctx} : Turn s (.add ctx) (s.add ctx)
  | socketClosed {r} (hr : r < s.added) (ho : (s.client r).socketClosed = false) :
      Turn s (.socketClosed r) (s.socketClosed r)
  | capabilities {r caps} (hr : r < s.added) (he : (s.client r).eventsClosed = false) :
      Turn s (.message r (.clientRtpCapabilities caps))
        (s.modify r fun c => { c with rtpCapabilities := some caps })
  | joinCallRequest {r q} (hr : r < s.added) (he : (s.client r).eventsClosed = false) :
      Turn s (.message r (.joinCallRequest q)) (s.joinCallRequest r q)
  | spawn {r m a} (hr : r < s.added) (he : (s.client r).eventsClosed = false)
      (ha : s.Awaits r m a) : Turn s (.message r m) (s.spawn r a)
  /-- The message reached no listener, or a guard of its listener dropped it. -/
  | ignored {r m} (hj : ∀ q, m = .joinCallRequest q → (s.client r).eventsClosed = true) :
      Turn s (.message r m) s
  | answered {r m out} (hj : ∀ q, m ≠ .joinCallRequest q) (ho : NoConsumer out) :
      Turn s (.message r m) { s with sent := s.sent ++ out }
  | transportCreated {h info r q role o}
      (hs : s.suspended h = some ⟨r, .createTransport q role o⟩) :
      Turn s (.transportCreated h info) (s.transportCreated h r q role info)
  | produced {h r q t kind rtp} (hs : s.suspended h = some ⟨r, .produce q t kind rtp⟩) :
      Turn s (.produced h) (s.produced h r q t kind)
  | consumed {h rtp r loop call o} (hs : s.suspended h = some ⟨r, .consume loop call o⟩) :
      Turn s (.consumed h rtp) (s.consumed h r loop call o rtp)
  | resumed {h r loop} (hs : s.suspended h = some ⟨r, .returned loop⟩) :
      Turn s (.resumed h) (s.runLoop h r loop)
  | consumeFailed {h r loop call o} (hs : s.suspended h = some ⟨r, .consume loop call o⟩) :
      Turn s (.consumeFailed h) (s.finish h)
  /-- A handler without a loop ended. -/
  | ended {e h x out} (he : e.Ends h) (hs : s.suspended h = some x) (hx : x.await.loopKind = none)
      (ho : NoConsumer out) :
      Turn s e { s.finish h with sent := s.sent ++ out }
  | consumerClosed {k} (hk : s.producerGone k = true) :
      Turn s (.consumerClosed k) (s.closeConsumer k)
  | routerClosed : Turn s .routerClosed (closeRouter close s)
  | close : Turn s .close s.close
  | elapsed {ms} : Turn s (.elapsed ms) { s with now := s.now + ms }

theorem finish_answer (s : Room) (h : HandlerRef) (r : ClientRef) (m : ServerMessage) :
    (s.send r m).finish h =
      { s.finish h with sent := s.sent ++ if (s.client r).eventsClosed then [] else [(r, m)] } := by
  rw [send_frame]; rfl

theorem turn_receive {s : Room} {r : ClientRef} (m : ClientMessage) (hr : r < s.added) :
    Turn s (.message r m) (s.receive r m) := by
  by_cases he : (s.client r).eventsClosed = true
  · simp only [receive, he, if_true]
    exact .ignored fun _ _ => he
  · simp only [Bool.not_eq_true] at he
    simp only [receive, he, Bool.false_eq_true, if_false]
    have dropped : (∀ q, m ≠ .joinCallRequest q) → Turn s (.message r m) s :=
      fun hj => .ignored fun q e => absurd e (hj q)
    cases m with
    | getRouterCapabilitiesRequest q =>
        dsimp only
        rw [send_frame]
        refine .answered (by simp) ?_
        simp [NoConsumer, he]
    | clientRtpCapabilities caps => exact .capabilities hr he
    | createTransportRequest q role =>
        simp only [createTransportRequest]
        split
        · exact dropped (by simp)
        · next h => exact .spawn hr he ⟨by simpa using h, rfl⟩
    | joinCallRequest q => exact .joinCallRequest hr he
    | transportConnectedNotification q role dtls =>
        simp only [transportConnectedNotification]
        split
        · exact .spawn hr he rfl
        · exact dropped (by simp)
    | createProducerRequest q kind rtp u =>
        simp only [createProducerRequest]
        split
        · exact dropped (by simp)
        · next t ht => exact .spawn hr he ⟨t, ht, rfl⟩
    | pauseProducerRequest q p | resumeProducerRequest q p =>
        simp only [switchProducerRequest]
        split
        · exact dropped (by simp)
        · exact .spawn hr he rfl
    | getClientStatsRequest q id => exact dropped (by simp)

theorem step_turn {s s' : Room} {e : Event} (h : s.step e = some s') : Turn s e s' := by
  have failed : ∀ {e : Event} {g x}, e.Ends g → s.suspended g = some x → x.await.loopKind = none →
      Turn s e (s.finish g) := by
    intro e g x he hs hx
    have h : Turn s e { s.finish g with sent := s.sent ++ [] } :=
      .ended he hs hx (by simp [NoConsumer])
    simpa [finish] using h
  cases e with
  | add ctx => cases h; exact .add
  | socketClosed r =>
      simp only [step] at h
      split at h
      · next hg => cases h; exact .socketClosed hg.1 hg.2
      · cases h
  | message r m =>
      obtain ⟨hr, rfl⟩ := message_step h
      exact turn_receive m hr
  | transportCreated g info =>
      simp only [step] at h
      split at h
      · next hs => cases h; exact .transportCreated hs
      · cases h
  | produced g =>
      simp only [step] at h
      split at h
      · next hs => cases h; exact .produced hs
      · cases h
  | consumed g rtp =>
      simp only [step] at h
      split at h
      · next hs => cases h; exact .consumed hs
      · cases h
  | resumed g =>
      simp only [step] at h
      split at h
      · next hs => cases h; exact .resumed hs
      · cases h
  | consumeFailed g =>
      simp only [step] at h
      split at h
      · next hs => cases h; exact .consumeFailed hs
      · cases h
  | producerSwitched g =>
      simp only [step] at h
      split at h
      · next hs =>
          cases h
          rw [finish_answer]
          exact .ended rfl hs rfl
            (by simp only [NoConsumer]; intros; split <;> simp)
      · next hs =>
          cases h
          rw [finish_answer]
          exact .ended rfl hs rfl
            (by simp only [NoConsumer]; intros; split <;> simp)
      · cases h
  | transportFailed g | transportConnected g ok | produceFailed g =>
      simp only [step] at h
      split at h
      · next hs => cases h; exact failed rfl hs rfl
      · cases h
  | consumerClosed k =>
      simp only [step] at h
      split at h
      · next hk => cases h; exact .consumerClosed hk
      · cases h
  | routerClosed => cases h; exact .routerClosed
  | close => cases h; exact .close
  | elapsed ms => cases h; exact .elapsed

/-- A message makes no object of mediasoup, and closes none. -/
theorem router_message {s s' : Room} {r : ClientRef} {m : ClientMessage}
    (ht : Turn s (.message r m) s') : s'.router = s.router := by
  cases ht with
  | capabilities | spawn | ignored | answered => rfl
  | @joinCallRequest _ q =>
      obtain ⟨x, out, e⟩ := runLoop_frame { s with handlers := s.handlers ++ [none] }
        s.handlers.length r ⟨.join q, 0⟩
      rw [joinCallRequest, e]
  | ended he => exact he.elim

/-! ### The continuations that make an object -/

/-- New objects in the tables of the router. -/
def grown (s : Room) (ts : List Transport) (ps : List Producer) (ks : List Consumer) : Room :=
  { s with
    router.transports := s.router.transports ++ ts
    router.producers := s.router.producers ++ ps
    router.consumers := s.router.consumers ++ ks }

@[simp] theorem grown_nil (s : Room) : s.grown [] [] [] = s := by simp [grown]

/-- The continuation of `createWebRtcTransport`: a new transport, stored, and an answer. -/
theorem transportCreated_eq (s : Room) (h : HandlerRef) (r : ClientRef) (q : RequestId)
    (role : Role) (info : TransportInfo) :
    ∃ out, NoConsumer out ∧ s.transportCreated h r q role info =
      { ((s.grown [⟨r, role, false⟩] [] []).modify r fun c =>
          c.setTransport role s.router.transports.length).finish h with
        sent := s.sent ++ out } := by
  rw [transportCreated]
  rw [finish_answer]
  refine ⟨_, ?_, by simp only [grown, List.append_nil]; rfl⟩
  simp only [NoConsumer]
  intros
  split <;> simp

/-- The continuation of `produce`: a new producer, stored and answered, then the loop. -/
theorem produced_eq (s : Room) (h : HandlerRef) (r : ClientRef) (q : RequestId) (t : TransportId)
    (kind : MediaKind) :
    ∃ out, NoConsumer out ∧ s.produced h r q t kind =
      runLoop { (s.grown [] [⟨r, t, kind, false⟩] []).modify r fun c =>
          { c with producers := c.producers.set s.router.producers.length kind } with
        sent := s.sent ++ out } h r ⟨.push, 0⟩ := by
  rw [produced]
  dsimp only
  rw [send_frame]
  refine ⟨_, ?_, by simp only [grown, List.append_nil]; rfl⟩
  simp only [NoConsumer]
  intros
  split <;> simp

/-- The continuation of `consume`: a new consumer, stored and announced, then the loop. -/
theorem consumed_eq (s : Room) (h : HandlerRef) (r : ClientRef) (loop : Loop) (call : ConsumeCall)
    (o : ConsumeOptions) (rtp : RtpParameters) :
    s.consumed h r loop call o rtp =
      consumeFrom { (s.grown [] [] [⟨call.consuming, o.transport, o.producerId, false⟩]).modify
          call.consuming fun c =>
            { c with consumers := c.consumers.set s.router.consumers.length o.producerId } with
        sent := s.sent ++ if (s.client call.consuming).eventsClosed then []
          else [(call.consuming, .consumerCreatedNotification s.router.consumers.length o.producerId
            o.kind rtp ⟨(s.client call.producing).userId, call.producingClientId⟩)] }
        h r loop call := by
  rw [consumed]
  dsimp only
  rw [send_frame]
  simp only [grown, List.append_nil, client_modify, if_true]
  rfl

end Room

end DemoApp.Sfu
