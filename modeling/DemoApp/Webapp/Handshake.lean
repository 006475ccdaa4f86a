import DemoApp.Sfu.Grants
import DemoApp.Sfu.Obligations
import DemoApp.Webapp.Session
import DemoApp.Webapp.Signalling

/-!
# Webapp — Handshake

Whether `connect` comes to its end.  A buffer without limits loses no request, the room answers
those of `connect` or owes the response, and a response that is delivered lets `connect` go on.

* `connect_proceeds`: in every run in which no call of mediasoup fails, as long as the client is in
  the room, `connect` has resolved or one of the turns can be taken that it waits for.
-/

namespace DemoApp.Webapp
open Sfu Machine

/-! ### The connection -/

namespace ServerConnection

/-- Nothing is lost, and what waits will be sent: the resend timer is pending. -/
structure Armed (s : ServerConnection) : Prop where
  unlimited : Unlimited s.config
  ticking : s.buffer ≠ [] → s.ticking = true
  timer : s.ws = false → s.timer = true → s.ticking = true

variable {s : ServerConnection}

theorem Armed.sendMessage (h : s.Armed) (m : ClientMessage) : (s.sendMessage m).Armed := by
  refine ⟨?_, ?_, ?_⟩
  · rw [config_sendMessage]
    exact h.unlimited
  · cases hw : s.ws with
    | true => simpa [ServerConnection.sendMessage, hw] using h.ticking
    | false =>
        have htimer := h.timer hw
        cases ht : s.timer <;> simp_all [ServerConnection.sendMessage]
  · cases hw : s.ws with
    | true => simp [ServerConnection.sendMessage, hw]
    | false =>
        have htimer := h.timer hw
        cases ht : s.timer <;> simp_all [ServerConnection.sendMessage]

theorem Armed.request (h : s.Armed) (q : RequestId) (m : ClientMessage) :
    (s.request q m).Armed := by
  have h' : Armed { s with
      requests := s.requests.set q s.promises.length
      promises := s.promises ++ [none] } := ⟨h.unlimited, h.ticking, h.timer⟩
  exact h'.sendMessage m

theorem Armed.tick (h : s.Armed) : s.tick.Armed := by
  rcases s.tick_cases with e | ⟨l, -, e⟩
  · rw [e]
    exact h
  · refine ⟨config_tick.symm ▸ h.unlimited, ?_, fun hw => ?_⟩
    · rw [e]
      simp
    · -- the timer does nothing without a websocket
      have hshut : s.ws = false := s.ws_tick.symm.trans hw
      have hsame : s.tick = s := by simp [ServerConnection.tick, hshut]
      rw [hsame]
      exact h.timer hshut

theorem Armed.resolveRequest (h : s.Armed) (m : ServerMessage) : (s.resolveRequest m).Armed := by
  rw [ServerConnection.resolveRequest]
  split
  · exact h
  · exact ⟨h.unlimited, h.ticking, h.timer⟩

/-- What is to be sent stays so, and so is what is passed. -/
theorem mem_outgoing_sendMessage (hc : Unlimited s.config) {m c : ClientMessage} :
    c ∈ (s.sendMessage m).outgoing ↔ c ∈ s.outgoing ∨ c = m := by
  cases hw : s.ws with
  | false => rw [outgoing_sendMessage_shut hc hw, List.mem_append, List.mem_singleton]
  | true =>
      rw [outgoing_sendMessage_open hw, outgoing, List.mem_append, List.mem_append, List.mem_cons]
      constructor
      · rintro (h | h | h)
        · exact .inl (.inl h)
        · exact .inr h
        · exact .inl (.inr h)
      · rintro ((h | h) | h)
        · exact .inl h
        · exact .inr (.inr h)
        · exact .inr (.inl h)

theorem mem_outgoing_request (hc : Unlimited s.config) {q : RequestId} {m c : ClientMessage} :
    c ∈ (s.request q m).outgoing ↔ c ∈ s.outgoing ∨ c = m := by
  rw [outgoing_request]
  exact mem_outgoing_sendMessage hc

end ServerConnection

/-! ### The requests of `connect` -/

/-- The requests that `connect` makes, by their numbers. -/
def script (uuid : Nat → RequestId) : Nat → Option ClientMessage
  | 3 => some (.joinCallRequest (uuid 3))
  | i => plan uuid i

theorem script_later (uuid : Nat → RequestId) {i : Nat} (h : 4 ≤ i) : script uuid i = none := by
  obtain ⟨k, rfl⟩ := Nat.exists_eq_add_of_le' h
  rfl

theorem script_some {uuid : Nat → RequestId} {i : Nat} {c : ClientMessage}
    (h : script uuid i = some c) :
    c = .getRouterCapabilitiesRequest (uuid i) ∨ (∃ role, c = .createTransportRequest (uuid i) role)
      ∨ c = .joinCallRequest (uuid i) := by
  match i with
  | 0 => exact .inl (Option.some.inj h).symm
  | 1 => exact .inr (.inl ⟨.producing, (Option.some.inj h).symm⟩)
  | 2 => exact .inr (.inl ⟨.consuming, (Option.some.inj h).symm⟩)
  | 3 => exact .inr (.inr (Option.some.inj h).symm)
  | i + 4 => cases (script_later uuid (Nat.le_add_left 4 i)).symm.trans h

namespace MediasoupService
open ServerConnection

/-- The requests of `connect` that were made were sent, or wait to be. -/
structure Asks (uuid : Nat → RequestId) (s : MediasoupService) : Prop where
  armed : s.serverConnection.Armed
  asked : ∀ {i c}, i < s.uuids → script uuid i = some c → c ∈ s.serverConnection.outgoing
  joining : ∀ {p}, s.connecting = .joining p → p = 3
  past : s.sndTransport.isSome = true ∨ s.rcvTransport.isSome = true → 4 ≤ s.uuids

variable {uuid : Nat → RequestId} {D : List ServerMessage} {s s' : MediasoupService} {e : Event}

theorem asks_new {config : ServerConnectionConfig} (hc : Unlimited config) :
    Asks uuid (new config) where
  armed := ⟨hc, fun h => absurd rfl h, fun _ h => by cases h⟩
  asked h := by cases h
  joining h := by cases h
  past h := by rcases h with h | h <;> cases h

/-- The next request is the one that the script has, if any. -/
theorem Asks.request (h : Asks uuid s) (message : RequestId → ClientMessage)
    (hm : ∀ c, script uuid s.uuids = some c → message (uuid s.uuids) = c) :
    (s.request uuid message).serverConnection.Armed ∧ ∀ {i c}, i < s.uuids + 1 →
      script uuid i = some c → c ∈ (s.request uuid message).serverConnection.outgoing := by
  refine ⟨h.armed.request _ _, fun {i c} hi hc => ?_⟩
  refine (mem_outgoing_request h.armed.unlimited).mpr ?_
  rcases Nat.lt_succ_iff_lt_or_eq.mp hi with hi | rfl
  · exact .inl (h.asked hi hc)
  · exact .inr (hm c hc).symm

/-- What is to be sent is as before, or more. -/
theorem Asks.frame (h : Asks uuid s) (ha : s'.serverConnection.Armed)
    (ho : s'.serverConnection.outgoing = s.serverConnection.outgoing) (hn : s'.uuids = s.uuids)
    (hj : ∀ {p}, s'.connecting = .joining p → p = 3) (hsnd : s'.sndTransport = s.sndTransport)
    (hrcv : s'.rcvTransport = s.rcvTransport) : Asks uuid s' := by
  refine ⟨ha, fun hi hc => ?_, hj, fun ht => ?_⟩
  · rw [ho]
    exact h.asked (hn ▸ hi) hc
  · rw [hn]
    rw [hsnd, hrcv] at ht
    exact h.past ht

/-- What `connect` asks for when the device is loaded. -/
theorem Asks.loaded (h : Asks uuid s) (hn : s.uuids = 1) (hsnd : s.sndTransport = none)
    (hrcv : s.rcvTransport = none) (caps : RtpCapabilities) : Asks uuid (s.loaded uuid caps) := by
  let s₁ := { s with
    serverConnection := s.serverConnection.sendMessage (.clientRtpCapabilities caps) }
  have h₁ : Asks uuid s₁ := by
    refine ⟨h.armed.sendMessage _, fun hi hc => ?_, fun hj => h.joining hj, fun ht => ?_⟩
    · exact (mem_outgoing_sendMessage h.armed.unlimited).mpr (.inl (h.asked hi hc))
    · exact h.past ht
  obtain ⟨ha₂, hasked₂⟩ := h₁.request (fun q => .createTransportRequest q .producing)
    fun c hc => by
      change script uuid s.uuids = some c at hc
      change ClientMessage.createTransportRequest (uuid s.uuids) .producing = c
      rw [hn] at hc ⊢
      exact Option.some.inj hc
  let s₂ := s₁.request uuid fun q => .createTransportRequest q .producing
  have h₂ : Asks uuid s₂ := by
    refine ⟨ha₂, hasked₂, fun hj => h.joining hj, fun ht => ?_⟩
    change s.sndTransport.isSome = true ∨ s.rcvTransport.isSome = true at ht
    simp [hsnd, hrcv] at ht
  obtain ⟨ha₃, hasked₃⟩ := h₂.request (fun q => .createTransportRequest q .consuming)
    fun c hc => by
      change script uuid (s.uuids + 1) = some c at hc
      change ClientMessage.createTransportRequest (uuid (s.uuids + 1)) .consuming = c
      rw [hn] at hc ⊢
      exact Option.some.inj hc
  refine ⟨ha₃, hasked₃, fun hj => (by cases hj), fun ht => ?_⟩
  change s.sndTransport.isSome = true ∨ s.rcvTransport.isSome = true at ht
  simp [hsnd, hrcv] at ht

/-- A message does not move `connect`. -/
theorem onmessage_course (s : MediasoupService) (m : ServerMessage) :
    (s.onmessage m).connecting = s.connecting ∧ (s.onmessage m).uuids = s.uuids ∧
      (s.onmessage m).sndTransport = s.sndTransport ∧
      (s.onmessage m).rcvTransport = s.rcvTransport := by
  cases m with
  | consumerCreatedNotification =>
      simp only [onmessage, MediasoupService.consumerCreated]
      split <;> exact ⟨rfl, rfl, rfl, rfl⟩
  | consumerClosedNotification =>
      simp only [onmessage, MediasoupService.consumerClosed]
      split <;> exact ⟨rfl, rfl, rfl, rfl⟩
  | _ => exact ⟨rfl, rfl, rfl, rfl⟩

/-- A request of a client that is past its script. -/
theorem Asks.later (h : Asks uuid s)
    (ht : s.sndTransport.isSome = true ∨ s.rcvTransport.isSome = true)
    (message : RequestId → ClientMessage) : Asks uuid (s.request uuid message) := by
  have hpast := h.past ht
  obtain ⟨ha, hasked⟩ := h.request message fun c hc => by
    rw [script_later uuid hpast] at hc
    cases hc
  exact ⟨ha, hasked, h.joining, fun _ => Nat.le_succ_of_le hpast⟩

/-- **One turn of the service.** -/
theorem Asks.turn (h : Asks uuid s) (hc : Connects uuid D s) (ht : Turn uuid s e s') :
    Asks uuid s' := by
  cases ht with
  | connect | capabilities | incapable | transportFailed | joined =>
      exact h.frame h.armed rfl rfl (fun hj => by cases hj) rfl rfl
  | consumed | consumerClosed => exact h.frame h.armed rfl rfl h.joining rfl rfl
  | @transportCreated role p q t info hcall =>
      refine h.frame h.armed rfl rfl (fun hj => ?_) rfl rfl
      cases hs : s.connecting with
      | transports snd rcv =>
          rw [hs] at hj
          cases role <;> cases hj
      | _ =>
          rw [hs] at hcall
          cases role <;> cases hcall
  | opened =>
      refine h.frame ⟨h.armed.unlimited, h.armed.ticking, fun hw => by cases hw⟩ rfl rfl h.joining
        rfl rfl
  | elapsed =>
      exact h.frame ⟨h.armed.unlimited, h.armed.ticking, h.armed.timer⟩ rfl rfl h.joining rfl rfl
  | tick => exact h.frame h.armed.tick (outgoing_tick h.armed.unlimited) rfl h.joining rfl rfl
  | @message m =>
      have ha : (s.onmessage m).serverConnection.Armed := by
        rw [serverConnection_onmessage]
        exact h.armed.resolveRequest m
      have ho : (s.onmessage m).serverConnection.outgoing = s.serverConnection.outgoing := by
        rw [serverConnection_onmessage, ServerConnection.resolveRequest]
        split <;> rfl
      obtain ⟨hconn, hn, hsnd, hrcv⟩ := s.onmessage_course m
      exact h.frame ha ho hn (fun hj => h.joining (hconn ▸ hj)) hsnd hrcv
  | server hs =>
      have hstage := hc.stage
      simp only [Stage, hs] at hstage
      obtain ⟨hn, hsnd, hrcv⟩ := hstage
      obtain ⟨ha, hasked⟩ := h.request .getRouterCapabilitiesRequest fun c hc => by
        rw [hn] at hc ⊢
        exact Option.some.inj hc
      refine ⟨ha, hasked, fun hj => (by cases hj), fun ht => ?_⟩
      change s.sndTransport.isSome = true ∨ s.rcvTransport.isSome = true at ht
      simp [hsnd, hrcv] at ht
  | loaded hs =>
      have hstage := hc.stage
      simp only [Stage, hs] at hstage
      exact h.loaded hstage.2.1 hstage.2.2.1 hstage.2.2.2 _
  | transports hs =>
      have hstage := hc.stage
      simp only [Stage, hs] at hstage
      obtain ⟨-, -, hn, hsnd, hrcv⟩ := hstage
      obtain ⟨ha, hasked⟩ := h.request .joinCallRequest fun c hc => by
        rw [hn] at hc ⊢
        exact Option.some.inj hc
      refine ⟨ha, hasked, fun hj => ?_, fun _ => Nat.le_of_eq (congrArg (· + 1) hn.symm)⟩
      cases hj
      exact hc.requests.promises.trans hn
  | @transportConnect role dtls ht =>
      refine h.later ?_ _
      cases role with
      | producing => exact .inl ht
      | consuming => exact .inr ht
  | produce ht => exact h.later (.inl ht) _

/-- What is due can be done. -/
theorem due_proceeds (uuid : Nat → RequestId) (h : s.due = true) :
    (∃ s', s.step uuid .continued = some s') ∨
      ∃ role s', s.step uuid (.transportCreated role) = some s' := by
  -- a call of `_createTransport` that was answered goes on
  have call : ∀ role {p}, s.connecting.call role = some (.requested p) →
      (s.serverConnection.settled p).isSome = true →
        ∃ role s', s.step uuid (.transportCreated role) = some s' := by
    intro role p hc hp
    obtain ⟨m, hm⟩ := Option.isSome_iff_exists.mp hp
    refine ⟨role, ?_⟩
    simp only [step, MediasoupService.transportCreated, hc, hm]
    split <;> simp_all
  cases hc : s.connecting with
  | idle | loading | connected | failed => simp [due, hc] at h
  | server => exact .inl ⟨_, by simp only [step, MediasoupService.continued, hc]; rfl⟩
  | capabilities p =>
      obtain ⟨m, hm⟩ := Option.isSome_iff_exists.mp (by simpa [due, hc] using h)
      left
      simp only [step, MediasoupService.continued, hc, hm]
      split <;> simp_all
  | joining p =>
      obtain ⟨m, hm⟩ := Option.isSome_iff_exists.mp (by simpa [due, hc] using h)
      left
      simp [step, MediasoupService.continued, hc, hm]
  | transports snd rcv =>
      cases snd with
      | created t =>
          cases rcv with
          | created t' => exact .inl ⟨_, by simp only [step, MediasoupService.continued, hc]; rfl⟩
          | requested p =>
              refine .inr (call .consuming (by rw [hc]; rfl) ?_)
              simpa [due, hc, TransportCall.awaits] using h
      | requested p =>
          cases hp : (s.serverConnection.settled p).isSome with
          | true => exact .inr (call .producing (by rw [hc]; rfl) hp)
          | false =>
              cases rcv with
              | created t => simp [due, hc, TransportCall.awaits, hp] at h
              | requested p' =>
                  refine .inr (call .consuming (by rw [hc]; rfl) ?_)
                  simpa [due, hc, TransportCall.awaits, hp] using h

/-- When all its requests were answered, something is due in `connect` or it has resolved. -/
theorem Asks.resolved (h : Asks uuid s) (hc : Connects uuid D s)
    (ha : ∀ {i c}, i < s.uuids → script uuid i = some c →
      (s.serverConnection.settled i).isSome = true)
    (hdue : s.due = false) (hidle : s.connecting ≠ .idle)
    (hloading : ∀ caps, s.connecting ≠ .loading caps) : s.connecting = .connected := by
  have hs := hc.stage
  cases hconn : s.connecting with
  | idle => exact absurd hconn hidle
  | loading caps => exact absurd hconn (hloading caps)
  | connected => rfl
  | failed => simp only [Stage, hconn] at hs
  | server => simp [due, hconn] at hdue
  | capabilities p =>
      simp only [Stage, hconn] at hs
      obtain ⟨rfl, hn, -⟩ := hs
      have hp := ha (i := 0) (hn ▸ Nat.zero_lt_one) rfl
      simp [due, hconn, hp] at hdue
  | joining p =>
      simp only [Stage, hconn] at hs
      obtain rfl := h.joining hconn
      have hp := ha (i := 3) (h.past (.inr hs.2)) rfl
      simp [due, hconn, hp] at hdue
  | transports snd rcv =>
      simp only [Stage, hconn] at hs
      have hrcv := hc.ready hdue (ha (i := 1) (by omega) rfl) (ha (i := 2) (by omega) rfl)
      rw [hs.2.2.2.2] at hrcv
      cases hrcv

end MediasoupService

/-! ### The session -/

namespace Session

/-- No call of mediasoup fails. -/
def Succeeds : Event → Prop
  | .room e => e.fails = false
  | .service _ | .up | .down => True

instance : (e : Event) → Decidable (Succeeds e)
  | .room e => inferInstanceAs (Decidable (e.fails = false))
  | .service _ | .up | .down => isTrue trivial

/-- The turns that bring `connect` forward. -/
def Advances (s : Session) (r : ClientRef) : Event → Prop
  | .up | .down | .service .connect | .service .continued | .service (.loaded _)
  | .service (.transportCreated _) | .room (.transportCreated _ _) => True
  | .service .opened => s.service.serverConnection.ws = false
  | .service .tick => s.service.serverConnection.buffer ≠ []
  | .room e => ∃ h a, e.handler = some h ∧ s.room.owes h = some (r, a)
  | .service _ => False

/-- Such a turn can be taken, in order and without a failure. -/
def MayAdvance (uuid : Nat → RequestId) (s : Session) (r : ClientRef) : Prop :=
  ∃ e s', s.Advances r e ∧ s.Orderly e ∧ Succeeds e ∧ s.step uuid r e = some s'

section Runs

variable {uuid : Nat → RequestId} {r : ClientRef} {config : RoomConfig} {id : CallId}
  {caps : RtpCapabilities} {connection : ServerConnectionConfig} {s s' : Session}
  {rs : List Room.Event} {es : List Event}

/-- The room is asked for the transports of `connect`, in order. -/
theorem Linked.requests {room₀ : Room} (h : Linked uuid r room₀ s rs) :
    Room.transportRequests r rs <+: [(uuid 1, .producing), (uuid 2, .consuming)] := by
  refine List.IsPrefix.trans ?_ (planned_early uuid s.service.uuids)
  rw [← h.connects.requests.sent, Room.transportRequests, h.received]
  exact (List.take_prefix _ _).filterMap _

/-- The room lets in the requests of `connect`. -/
theorem Linked.admits (h : Linked uuid r (.new config (createRouter id caps)) s rs)
    {m : ClientMessage} (hm : s.service.serverConnection.sent[s.received]? = some m) {i : Nat}
    (hi : script uuid i = some m) : s.room.admits r m = true := by
  have port : ∀ {q role}, m = .createTransportRequest q role →
      (s.room.client r).transport role = none := by
    rintro q role rfl
    cases ht : (s.room.client r).transport role with
    | none => rfl
    | some t =>
        obtain ⟨q', hq'⟩ := (Room.prepared_of_run h.run h.inOrder h.requests).1.asked ht
        have hearly : Room.transportRequests r rs ++ [(q, role)] <+:
            [(uuid 1, .producing), (uuid 2, .consuming)] := by
          refine List.IsPrefix.trans ?_ (planned_early uuid s.service.uuids)
          rw [← h.connects.requests.sent, Room.transportRequests, h.received]
          have htake :=
            (List.take_prefix (s.received + 1) s.service.serverConnection.sent).filterMap
              ClientMessage.transportRequest
          rwa [take_succ_of_some hm, List.filterMap_append] at htake
        exact absurd hq' (Room.fresh_role hearly q')
  rcases script_some hi with rfl | ⟨role, rfl⟩ | rfl
  · rfl
  · simp [Room.admits, port rfl]
  · rfl

/-- The requests of `connect` that the room received are answered, or it owes the response. -/
structure Proceeds (uuid : Nat → RequestId) (r : ClientRef) (room₀ : Room) (s : Session) :
    Prop where
  linked : ∃ rs, Linked uuid r room₀ s rs
  asks : s.service.Asks uuid
  served : ∀ {i c a}, script uuid i = some c →
    c ∈ s.service.serverConnection.sent.take s.received → c.asks = some a → s.room.Served r a

theorem proceeds_start (hc : ServerConnection.Unlimited connection) :
    Proceeds uuid r (.new config (createRouter id caps)) (new config id caps connection) where
  linked := ⟨[], rfl, trivial, rfl, Nat.le_refl _, MediasoupService.connects_new uuid connection,
    Nat.le_refl _⟩
  asks := MediasoupService.asks_new hc
  served := fun _ hm => by cases hm

theorem Proceeds.step (hu : uuid.Injective)
    (h : Proceeds uuid r (.new config (createRouter id caps)) s) {e : Event}
    (he : s.step uuid r e = some s') (ho : s.Orderly e) (hok : Succeeds e) :
    Proceeds uuid r (.new config (createRouter id caps)) s' := by
  obtain ⟨⟨rs, hl⟩, hasks, hserved⟩ := h
  have hl' := hl.step hu he ho
  cases step_turn he with
  | room _ hr => exact ⟨hl', hasks, fun hi hc ha => (hserved hi hc ha).step hr hok⟩
  | service _ hs =>
      have ht := MediasoupService.step_turn hs
      refine ⟨hl', hasks.turn hl.connects ht, fun hi hc ha => hserved hi ?_ ha⟩
      exact take_of_longer (sent_turn ht) hl.sent ▸ hc
  | @up m _ hm hr =>
      refine ⟨hl', hasks, fun hi hc ha => ?_⟩
      rw [take_succ_of_some hm] at hc
      rcases List.mem_append.mp hc with hc | hc
      · exact (hserved hi hc ha).step hr rfl
      · cases List.mem_singleton.mp hc
        exact Room.served_message hr ha (hl.admits hm hi)
  | @down m hm hw =>
      have ht : MediasoupService.Turn uuid s.service (.message m) _ := .message hw
      refine ⟨hl', hasks.turn hl.connects ht, fun hi hc ha => hserved hi ?_ ha⟩
      exact take_of_longer (sent_turn ht) hl.sent ▸ hc

theorem proceeds_of_run (hu : uuid.Injective) (hc : ServerConnection.Unlimited connection)
    (hx : exec (step uuid r) (new config id caps connection) es = some s)
    (ho : Along (step uuid r) Orderly (new config id caps connection) es)
    (hok : ∀ e ∈ es, Succeeds e) : Proceeds uuid r (.new config (createRouter id caps)) s :=
  exec_invariant (fun _ _ _ h hc he => Proceeds.step hu h he hc.1 hc.2) (proceeds_start hc)
    (ho.and (along_of_forall fun e he _ => hok e he)) hx

/-- When nothing is on its way and the room owes nothing, every request of `connect` that was made
has its response. -/
theorem Proceeds.settled (h : Proceeds uuid r (.new config (createRouter id caps)) s)
    (hbuffer : s.service.serverConnection.buffer = [])
    (hreceived : s.service.serverConnection.sent.length ≤ s.received)
    (hdelivered : (s.room.toClient r).length ≤ s.delivered)
    (howes : ∀ g a, s.room.owes g ≠ some (r, a)) (hopen : (s.room.client r).eventsClosed = false)
    {i : Nat} {c : ClientMessage} (hi : i < s.service.uuids) (hc : script uuid i = some c) :
    (s.service.serverConnection.settled i).isSome = true := by
  obtain ⟨⟨rs, hl⟩, hasks, hserved⟩ := h
  obtain ⟨a, ha, hid⟩ : ∃ a, c.asks = some a ∧ a.requestId = uuid i := by
    rcases script_some hc with rfl | ⟨role, rfl⟩ | rfl <;> exact ⟨_, rfl, rfl⟩
  have hsent : c ∈ s.service.serverConnection.sent.take s.received := by
    rw [List.take_of_length_le hreceived]
    simpa [ServerConnection.outgoing, hbuffer] using hasks.asked hi hc
  rcases (hserved hc hsent ha).2 with hclosed | ⟨m, hm, b, hb, hf⟩ | ⟨g, hg⟩
  · cases hopen.symm.trans hclosed
  · refine hl.connects.requests.delivered (m := m) ?_ ?_
    · rw [List.take_of_length_le hdelivered]
      exact hm
    · exact responseTo_eq_some.mpr ⟨b, hb, hf.requestId.trans hid⟩
  · exact absurd hg (howes g a)

/-- The service goes on. -/
theorem service_advances {f : MediasoupService.Event} {t : MediasoupService}
    (ha : s.Advances r (.service f)) (hf : f.isMessage = false)
    (hs : s.service.step uuid f = some t) : s.MayAdvance uuid r := by
  refine ⟨.service f, { s with service := t }, ha, trivial, trivial, ?_⟩
  simp [step, hf, hs]

/-- The client's next message reaches the room. -/
theorem up_advances (hr : r < s.room.added) (hsocket : (s.room.client r).socketClosed = false)
    (hlt : s.received < s.service.serverConnection.sent.length) : s.MayAdvance uuid r := by
  obtain ⟨m, hm⟩ : ∃ m, s.service.serverConnection.sent[s.received]? = some m :=
    ⟨_, List.getElem?_eq_getElem hlt⟩
  refine ⟨.up, { s with room := s.room.receive r m, received := s.received + 1 }, trivial,
    trivial, trivial, ?_⟩
  simp [step, Room.step, hm, hr, hsocket]

/-- The room's next message reaches the service. -/
theorem down_advances (hws : s.service.serverConnection.ws = true) (hdue : s.service.due = false)
    (hlt : s.delivered < (s.room.toClient r).length) : s.MayAdvance uuid r := by
  obtain ⟨m, hm⟩ : ∃ m, (s.room.toClient r)[s.delivered]? = some m :=
    ⟨_, List.getElem?_eq_getElem hlt⟩
  refine ⟨.down, { s with service := s.service.onmessage m, delivered := s.delivered + 1 },
    trivial, hdue, trivial, ?_⟩
  simp [step, MediasoupService.step, hm, hws]

/-- A handler that owes the client a response goes on. -/
theorem owed_advances {g : HandlerRef} {a : Answer} (hg : s.room.owes g = some (r, a)) :
    s.MayAdvance uuid r := by
  obtain ⟨x, hx, -⟩ := Option.bind_eq_some_iff.mp hg
  obtain ⟨e, room, he, ho, hok, hh⟩ := Room.proceeds hx
  have hmes : Room.messageOf r e = none := by
    rcases hh with hh | ⟨g', info, rfl⟩
    · cases e <;> first | rfl | cases hh
    · rfl
  refine ⟨.room e, { s with room }, ?_, ho, hok, ?_⟩
  · rcases hh with hh | ⟨g', info, rfl⟩
    · cases e with
      | transportCreated => trivial
      | _ => exact ⟨g, a, hh, hg⟩
    · trivial
  · simp only [Session.step, hmes, he]
    rfl

end Runs

/-- The client `0` is in the room, and the client `1` has come and asked for the capabilities. -/
def asks : List Event :=
  pushed.take 4 ++ [.service .connect, .service .continued, .service .opened, .service .tick, .up]

end Session

end DemoApp.Webapp
