import DemoApp.Webapp.Handshake

/-!
# Webapp — Agreement

Whether a client and its room mean the same transports.  The service takes its transports from the
responses to its requests, and the room goes by the role: a producer stands on the transport it has
stored for sending, a consumer on the one for receiving.

* `Uses`: the transports of the service are those of the responses to its two requests, and it
  produces and consumes on them.
* `transports_agree`: in every run a transport that the service uses is the one that the room has
  stored for the role, the only one it made; producers and consumers stand on it on both sides.
-/

namespace DemoApp.Webapp
open Sfu Machine

/-- The message asks for a producer. -/
def asksProducer : ClientMessage → Bool
  | .createProducerRequest _ _ _ _ => true
  | _ => false

namespace ServerConnection

variable {s : ServerConnection} {c m : ClientMessage}

/-- What is to be sent was so, or is passed. -/
theorem outgoing_of_sendMessage (h : c ∈ (s.sendMessage m).outgoing) : c ∈ s.outgoing ∨ c = m := by
  rcases s.sendMessage_cases m with ⟨hw, e⟩ | ⟨-, buffer, timer, ticking, e, hb⟩
  · rw [outgoing_sendMessage_open hw, List.mem_append, List.mem_cons] at h
    rcases h with h | h | h
    · exact .inl (List.mem_append_left _ h)
    · exact .inr h
    · exact .inl (List.mem_append_right _ h)
  · rw [e, outgoing, List.mem_append] at h
    rcases h with h | h
    · exact .inl (List.mem_append_left _ h)
    · exact (hb c h).imp_left (List.mem_append_right _)

theorem outgoing_of_request {q : RequestId} (h : c ∈ (s.request q m).outgoing) :
    c ∈ s.outgoing ∨ c = m := by
  rw [outgoing_request] at h
  exact outgoing_of_sendMessage h

theorem outgoing_of_tick (h : c ∈ s.tick.outgoing) : c ∈ s.outgoing := by
  rcases s.tick_cases with e | ⟨l, hl, e⟩
  · rwa [e] at h
  · rw [e, outgoing, List.mem_append, List.mem_append] at h
    rcases h with (h | h) | h
    · exact List.mem_append_left _ h
    · exact List.mem_append_right _ (hl c h)
    · cases h

end ServerConnection

namespace MediasoupService

/-! ### The transports of the service -/

/-- The number of the request for the transport of a role. -/
def number : Role → Nat
  | .producing => 1
  | .consuming => 2

/-- One of the messages names the transport, in the response to the request for its role. -/
def Named (uuid : Nat → RequestId) (D : List ServerMessage) (role : Role) (t : TransportId) :
    Prop :=
  ∃ info, .createTransportResponse (uuid (number role)) t info ∈ D

/-- What the service does with the transports that the messages in `D` name. -/
structure Uses (uuid : Nat → RequestId) (D : List ServerMessage) (s : MediasoupService) :
    Prop where
  created : ∀ {role t}, s.connecting.call role = some (.created t) → Named uuid D role t
  stored : ∀ {role t}, s.transport role = some t → Named uuid D role t
  together : s.sndTransport.isSome = s.rcvTransport.isSome
  consuming : ∀ {n : Nat} {o}, s.consuming[n]? = some (some o) →
    s.rcvTransport = some o.transport ∧
      .consumerCreatedNotification o.id o.producerId o.kind o.rtpParameters o.appData ∈ D
  produces : ∀ {c}, c ∈ s.serverConnection.outgoing → asksProducer c = true →
    s.sndTransport.isSome = true

variable {uuid : Nat → RequestId} {D D' : List ServerMessage} {s s' : MediasoupService} {e : Event}

theorem Named.mono (hD : D ⊆ D') {role : Role} {t : TransportId} (h : Named uuid D role t) :
    Named uuid D' role t := by
  obtain ⟨info, hm⟩ := h
  exact ⟨info, hD hm⟩

theorem uses_new (uuid : Nat → RequestId) (config : ServerConnectionConfig) :
    Uses uuid [] (new config) := by
  refine ⟨fun {role t} hc => ?_, fun {role t} ht => ?_, rfl, fun hn => ?_, fun hc => ?_⟩
  · cases role <;> cases hc
  · cases role <;> cases ht
  · simp [new] at hn
  · simp [new, ServerConnection.outgoing] at hc

/-- The transports stay, and nothing new is produced. -/
theorem Uses.frame (h : Uses uuid D s) (hD : D ⊆ D')
    (hcall : ∀ {role t}, s'.connecting.call role = some (.created t) → Named uuid D' role t)
    (hsnd : s'.sndTransport = s.sndTransport) (hrcv : s'.rcvTransport = s.rcvTransport)
    (hcons : ∀ {n : Nat} {o}, s'.consuming[n]? = some (some o) →
      s.consuming[n]? = some (some o))
    (hout : ∀ {c}, c ∈ s'.serverConnection.outgoing → c ∈ s.serverConnection.outgoing) :
    Uses uuid D' s' := by
  refine ⟨hcall, fun {role t} ht => ?_, ?_, fun hn => ?_, fun hc hp => ?_⟩
  · refine Named.mono hD (h.stored ?_)
    cases role with
    | producing => exact hsnd.symm.trans ht
    | consuming => exact hrcv.symm.trans ht
  · rw [hsnd, hrcv, h.together]
  · obtain ⟨ht, hm⟩ := h.consuming (hcons hn)
    exact ⟨hrcv.trans ht, hD hm⟩
  · rw [hsnd]
    exact h.produces (hout hc) hp

/-- A message is passed to the server. -/
theorem Uses.passes (h : Uses uuid D s) {c : ServerConnection} {m : ClientMessage} {n : Nat}
    (hout : ∀ {c'}, c' ∈ c.outgoing → c' ∈ s.serverConnection.outgoing ∨ c' = m)
    (hm : asksProducer m = true → s.sndTransport.isSome = true) :
    Uses uuid D { s with serverConnection := c, uuids := n } := by
  refine ⟨h.created, fun {role t} ht => h.stored ?_, h.together, h.consuming,
    fun hc hp => ?_⟩
  · cases role <;> exact ht
  · rcases hout hc with hc | rfl
    · exact h.produces hc hp
    · exact hm hp

theorem Uses.request (h : Uses uuid D s) (message : RequestId → ClientMessage)
    (hm : ∀ q, asksProducer (message q) = true → s.sndTransport.isSome = true) :
    Uses uuid D (s.request uuid message) :=
  h.passes ServerConnection.outgoing_of_request (hm _)

/-- `connect` goes on, and makes no transport. -/
theorem Uses.connecting (h : Uses uuid D s) {c : Connecting}
    (hc : ∀ role t, c.call role ≠ some (.created t)) :
    Uses uuid D { s with connecting := c } :=
  h.frame (List.Subset.refl D) (fun hcall => absurd hcall (hc _ _)) rfl rfl id id

/-- A call of `_createTransport` has its response. -/
theorem Uses.transportCreated (h : Uses uuid D s) (hc : Connects uuid D s) {role : Role}
    {p : PromiseRef} {q : RequestId} {t : TransportId} {info : TransportInfo}
    (hcall : s.connecting.call role = some (.requested p))
    (hp : s.serverConnection.settled p = some (.createTransportResponse q t info)) :
    Uses uuid D { s with connecting := s.connecting.setCall role (.created t) } := by
  have hnamed : Named uuid D role t := by
    obtain ⟨hm, hq⟩ := hc.requests.settled hp
    obtain rfl : q = uuid p := Option.some.inj hq
    have hplan := hc.stage.requested uuid hcall
    have hnum : p = number role := by
      match p, hplan with
      | 1, hplan => cases hplan; rfl
      | 2, hplan => cases hplan; rfl
    exact ⟨info, hnum ▸ hm⟩
  refine h.frame (List.Subset.refl D) (fun {role' t'} hcall' => ?_) rfl rfl id id
  cases hs : s.connecting with
  | transports snd rcv =>
      have hold : s.connecting.call role' = some (.created t') → Named uuid D role' t' := h.created
      simp only [hs] at hcall hold
      simp only [hs] at hcall'
      cases role <;> cases role' <;> simp_all [Connecting.call, Connecting.setCall]
  | _ =>
      rw [hs] at hcall
      cases role <;> cases hcall

/-- Both transports are stored, and `connect` asks to join. -/
theorem Uses.transports (h : Uses uuid D s) (hc : Connects uuid D s) {snd rcv : TransportId}
    (hs : s.connecting = .transports (.created snd) (.created rcv)) :
    Uses uuid D { ({ s with sndTransport := some snd, rcvTransport := some rcv }.request uuid
      .joinCallRequest) with connecting := .joining s.promise } := by
  have hstage := hc.stage
  simp only [Stage, hs] at hstage
  have hsnd : Named uuid D .producing snd := h.created (by rw [hs]; rfl)
  have hrcv : Named uuid D .consuming rcv := h.created (by rw [hs]; rfl)
  have hstored : Uses uuid D { s with sndTransport := some snd, rcvTransport := some rcv } := by
    refine ⟨h.created, fun {role t} ht => ?_, rfl, fun hn => ?_, fun _ _ => rfl⟩
    · cases role with
      | producing => cases ht; exact hsnd
      | consuming => cases ht; exact hrcv
    · -- nothing was consumed without a receiving transport
      have hnone := (h.consuming hn).1
      rw [hstage.2.2.2.2] at hnone
      cases hnone
  have hasked := hstored.request .joinCallRequest (by simp [asksProducer])
  exact hasked.connecting fun role t => by cases role <;> simp [Connecting.call]

/-- **One turn of the service**, but for a message. -/
theorem Uses.turn (h : Uses uuid D s) (hc : Connects uuid D s) (ht : Turn uuid s e s')
    (hm : e.isMessage = false) : Uses uuid D s' := by
  have same : ∀ {s'' : MediasoupService}, s''.connecting = s.connecting →
      s''.sndTransport = s.sndTransport → s''.rcvTransport = s.rcvTransport →
      s''.consuming = s.consuming →
      (∀ {c}, c ∈ s''.serverConnection.outgoing → c ∈ s.serverConnection.outgoing) →
      Uses uuid D s'' := fun h₁ h₂ h₃ h₄ h₅ =>
    h.frame (List.Subset.refl D) (fun hcall => h.created (h₁ ▸ hcall)) h₂ h₃
      (fun hn => h₄ ▸ hn) h₅
  cases ht with
  | message => cases hm
  | connect | capabilities | joined | incapable | transportFailed =>
      exact h.connecting fun role t => by cases role <;> simp [Connecting.call]
  | opened | elapsed => exact same rfl rfl rfl rfl id
  | tick => exact same rfl rfl rfl rfl ServerConnection.outgoing_of_tick
  | server =>
      have hasked := h.request .getRouterCapabilitiesRequest (by simp [asksProducer])
      exact hasked.connecting fun role t => by cases role <;> simp [Connecting.call]
  | @loaded _ caps =>
      have h₁ : Uses uuid D { s with
          serverConnection := s.serverConnection.sendMessage (.clientRtpCapabilities caps) } :=
        h.passes (n := s.uuids) ServerConnection.outgoing_of_sendMessage (by simp [asksProducer])
      have h₂ := h₁.request (fun q => .createTransportRequest q .producing)
        (by simp [asksProducer])
      have h₃ := h₂.request (fun q => .createTransportRequest q .consuming)
        (by simp [asksProducer])
      exact h₃.connecting fun role t => by cases role <;> simp [Connecting.call]
  | transportCreated hcall hp => exact h.transportCreated hc hcall hp
  | transports hs => exact h.transports hc hs
  | @consumed n o hn =>
      refine h.frame (List.Subset.refl D) h.created rfl rfl (fun {m o'} hm => ?_) id
      change (s.consuming.set n none)[m]? = some (some o') at hm
      rcases Cells.set_eq_some.mp hm with ⟨-, -, e⟩ | ⟨-, hm⟩
      · cases e
      · exact hm
  | consumerClosed => exact same rfl rfl rfl rfl id
  | transportConnect => exact h.request _ (by simp [asksProducer])
  | produce hsnd => exact h.request _ fun _ _ => hsnd

/-- **A message is delivered.** -/
theorem Uses.message (h : Uses uuid D s) (m : ServerMessage) :
    Uses uuid (D ++ [m]) (s.onmessage m) := by
  obtain ⟨hconn, -, hsnd, hrcv⟩ := s.onmessage_course m
  have hD : D ⊆ D ++ [m] := List.subset_append_left D [m]
  have hcall : ∀ {role t}, (s.onmessage m).connecting.call role = some (.created t) →
      Named uuid (D ++ [m]) role t := fun hcall => (h.created (hconn ▸ hcall)).mono hD
  have hout : ∀ {c}, c ∈ (s.onmessage m).serverConnection.outgoing →
      c ∈ s.serverConnection.outgoing := by
    intro c hc
    rw [serverConnection_onmessage, ServerConnection.resolveRequest] at hc
    split at hc <;> exact hc
  cases m with
  | consumerCreatedNotification k p kind rtp c =>
      cases ht : s.rcvTransport with
      | none =>
          refine h.frame hD hcall hsnd hrcv (fun hn => ?_) hout
          simpa [onmessage, MediasoupService.consumerCreated, ht] using hn
      | some t =>
          have e : s.onmessage (.consumerCreatedNotification k p kind rtp c) =
              { s with consuming := s.consuming ++ [some ⟨t, k, kind, rtp, p, c⟩] } := by
            simp only [onmessage, MediasoupService.consumerCreated, ht]
          rw [e] at hcall hout ⊢
          refine ⟨hcall, fun ht' => (h.stored ht').mono hD, h.together, fun hn => ?_, h.produces⟩
          rcases Cells.concat_eq_some.mp hn with hn | ⟨-, e⟩
          · obtain ⟨ht', hm⟩ := h.consuming hn
            exact ⟨ht', hD hm⟩
          · cases e
            exact ⟨ht, List.mem_append_right _ (List.mem_singleton_self _)⟩
  | consumerClosedNotification k =>
      refine h.frame hD hcall hsnd hrcv (fun hn => ?_) hout
      simp only [onmessage, MediasoupService.consumerClosed] at hn
      split at hn <;> exact hn
  | _ => exact h.frame hD hcall hsnd hrcv id hout

end MediasoupService

/-! ### The session -/

namespace Session

/-- The client and the room mean the same transports. -/
structure Agrees (s : Session) (r : ClientRef) : Prop where
  stored : ∀ {role t}, s.service.transport role = some t →
    (s.room.client r).transport role = some t
  made : ∀ {role} {t : Nat}, s.room.madeFor[t]? = some (r, role) ↔
    (s.room.client r).transport role = some t
  producing : ∀ {p : Nat} {x}, s.room.router.producers[p]? = some x → x.owner = r →
    s.service.sndTransport = some x.transport
  consuming : ∀ {n : Nat} {o}, s.service.consuming[n]? = some (some o) →
    ∃ x, s.room.router.consumers[o.id]? = some x ∧ x.owner = r ∧ x.transport = o.transport ∧
      x.producerId = o.producerId
  connected : s.service.connecting = .connected → ∀ role, (s.service.transport role).isSome = true

section Runs

variable {uuid : Nat → RequestId} {r : ClientRef} {config : RoomConfig} {id : CallId}
  {caps : RtpCapabilities} {connection : ServerConnectionConfig} {s s' : Session}
  {rs : List Room.Event} {es : List Event}

/-- A turn of the room does not change what was delivered. -/
theorem Linked.delivered_room {room₀ room : Room} (h : Linked uuid r room₀ s rs) {e : Room.Event}
    (hr : s.room.step e = some room) :
    (room.toClient r).take s.delivered = (s.room.toClient r).take s.delivered :=
  take_of_longer (Room.toClient_turn (Room.step_turn hr) r) h.delivered

/-- What the room received of the client was sent. -/
theorem Linked.sent_of_received {room₀ : Room} (h : Linked uuid r room₀ s rs) {m : ClientMessage}
    (hm : .message r m ∈ rs) : m ∈ s.service.serverConnection.outgoing := by
  have hrec : m ∈ rs.filterMap (Room.messageOf r) := List.mem_filterMap.mpr ⟨_, hm, if_pos rfl⟩
  rw [h.received] at hrec
  exact List.mem_append_left _ (List.mem_of_mem_take hrec)

/-- The service uses what the room has told it of. -/
structure Agreeing (uuid : Nat → RequestId) (r : ClientRef) (room₀ : Room) (s : Session) :
    Prop where
  linked : ∃ rs, Linked uuid r room₀ s rs
  uses : s.service.Uses uuid ((s.room.toClient r).take s.delivered)

theorem Agreeing.step (hu : uuid.Injective)
    (h : Agreeing uuid r (.new config (createRouter id caps)) s) {e : Event}
    (he : s.step uuid r e = some s') (ho : s.Orderly e) :
    Agreeing uuid r (.new config (createRouter id caps)) s' := by
  obtain ⟨⟨rs, hl⟩, huses⟩ := h
  refine ⟨hl.step hu he ho, ?_⟩
  cases step_turn he with
  | room _ hr | up _ hr => exact (hl.delivered_room hr).symm ▸ huses
  | service hmes hs => exact huses.turn hl.connects (MediasoupService.step_turn hs) hmes
  | @down m hm _ =>
      rw [take_succ_of_some hm]
      exact huses.message m

theorem agreeing_of_run (hu : uuid.Injective)
    (hx : exec (step uuid r) (new config id caps connection) es = some s)
    (ho : Along (step uuid r) Orderly (new config id caps connection) es) :
    Agreeing uuid r (.new config (createRouter id caps)) s := by
  refine exec_invariant (fun _ _ _ h ho he => Agreeing.step hu h he ho) ?_ ho hx
  exact ⟨⟨[], rfl, trivial, rfl, Nat.le_refl _, MediasoupService.connects_new uuid connection,
    Nat.le_refl _⟩, MediasoupService.uses_new uuid connection⟩

/-- The response for a role names the transport that the room stored for it. -/
theorem Linked.named (hu : uuid.Injective)
    (h : Linked uuid r (.new config (createRouter id caps)) s rs) {role : Role} {t : TransportId}
    (hn : MediasoupService.Named uuid ((s.room.toClient r).take s.delivered) role t) :
    (s.room.client r).transport role = some t := by
  obtain ⟨info, hm⟩ := hn
  obtain ⟨role', hq, hmade⟩ := (Room.granted_of_run h.run r).told
    (Room.mem_sentTo.mp (List.mem_of_mem_take hm))
  have hrole : role' = role := by
    have hmem := h.requests.subset hq
    simp only [List.mem_cons, Prod.mk.injEq, List.not_mem_nil, or_false] at hmem
    rcases hmem with ⟨e, rfl⟩ | ⟨e, rfl⟩
    · cases role with
      | producing => rfl
      | consuming => cases hu e
    · cases role with
      | producing => cases hu e
      | consuming => rfl
  exact (((Room.prepared_of_run h.run h.inOrder h.requests).2 role).made t).mp (hrole ▸ hmade)

/-- A client that produces has asked for it, on its transport. -/
theorem Linked.produced (h : Linked uuid r (.new config (createRouter id caps)) s rs)
    (hu : s.service.Uses uuid ((s.room.toClient r).take s.delivered)) {p : Nat}
    {x : Sfu.Producer} (hp : s.room.router.producers[p]? = some x) (ho : x.owner = r) :
    s.service.sndTransport.isSome = true := by
  obtain ⟨q, kind, rtp, u, hm⟩ := (Room.granted_of_run h.run r).producer hp ho
  exact hu.produces (h.sent_of_received hm) rfl

theorem Agreeing.agrees (hu : uuid.Injective)
    (h : Agreeing uuid r (.new config (createRouter id caps)) s) : s.Agrees r := by
  obtain ⟨⟨rs, hl⟩, huses⟩ := h
  have hsrc := Room.sourced_of_run hl.run
  have hone := (Room.prepared_of_run hl.run hl.inOrder hl.requests).2
  have stored : ∀ {role t}, s.service.transport role = some t →
      (s.room.client r).transport role = some t := fun ht => hl.named hu (huses.stored ht)
  -- a transport of the client in the room is the one that it has stored
  have port : ∀ {role t}, s.room.Port r role t → (s.room.client r).transport role = some t := by
    rintro role t ⟨y, hy, eo, er⟩
    refine ((hone role).made t).mp ?_
    rw [Room.madeFor, List.getElem?_map, hy, Option.map_some, eo, er]
  refine ⟨stored, fun {role t} => (hone role).made t, fun hp ho => ?_, fun hn => ?_,
    fun hc role => ?_⟩
  · obtain ⟨t, ht⟩ := Option.isSome_iff_exists.mp (hl.produced huses hp ho)
    have hroom : (s.room.client r).transport .producing = some t := stored ht
    rw [port (ho ▸ hsrc.producer hp)] at hroom
    rw [ht, Option.some.inj hroom]
  · obtain ⟨ht, hm⟩ := huses.consuming hn
    obtain ⟨-, x, y, hx, ho, hp, -⟩ :=
      Room.proper_of_run hl.run (Room.mem_sentTo.mp (List.mem_of_mem_take hm))
    refine ⟨x, hx, ho, ?_, hp⟩
    have hroom : (s.room.client r).transport .consuming = some _ := stored ht
    rw [port (ho ▸ (hsrc.consumer hx).1)] at hroom
    exact Option.some.inj hroom
  · have hstage := hl.connects.stage
    simp only [MediasoupService.Stage, hc] at hstage
    cases role with
    | producing => exact huses.together.trans hstage.2
    | consuming => exact hstage.2

/-- **The client and the room mean the same transports.**  In every run of a room and one client's
service, with any other clients and in any order of their handlers, the transport that the service
uses for a role is the one that the room has stored for it, and the only one that the room has made
for it; the client's producers in the room stand on its sending transport, and what it is about to
consume was made on the transport that it consumes on. -/
theorem transports_agree (hu : uuid.Injective)
    (hx : exec (step uuid r) (new config id caps connection) es = some s)
    (ho : Along (step uuid r) Orderly (new config id caps connection) es) : s.Agrees r :=
  (agreeing_of_run hu hx ho).agrees hu

end Runs

/-- The client `1` has stored the transports `1` and `2`, and is about to consume. -/
theorem transports_agree_pushed :
    ∃ s, exec (step Nat.repr 1)
        (new ⟨"0.0.0.0", "127.0.0.1", "lobby"⟩ "call-1" "opus, VP8" ⟨-1, -1⟩) pushed = some s ∧
      s.service.rcvTransport = some 2 ∧ (s.room.client 1).rcvTransport = some 2 := by
  obtain ⟨s, hx, hrcv⟩ : ∃ s, exec (step Nat.repr 1)
        (new ⟨"0.0.0.0", "127.0.0.1", "lobby"⟩ "call-1" "opus, VP8" ⟨-1, -1⟩) pushed = some s ∧
      s.service.rcvTransport = some 2 := ⟨_, rfl, rfl⟩
  have hagrees := transports_agree repr_injective hx (by decide)
  have hroom : (s.room.client 1).transport .consuming = some 2 := hagrees.stored hrcv
  exact ⟨s, hx, hrcv, hroom⟩

end Session

end DemoApp.Webapp
