import DemoApp.Sfu.Delivery
import DemoApp.Sfu.Later

/-!
# Sfu — Provenance

Whose the objects of a room are, and whose the room says they are.

* `Sourced`: a producer stands on a producing transport of its owner, a consumer on a consuming one
  and consumes a producer of a client with another id (`sourced_of_run`).
* `messages_proper`: every message names objects of the client it is sent to; a new consumer is
  announced under the ids of the client whose producer it consumes, and a token is for the client
  that joined.
-/

namespace DemoApp.Sfu.Room
open Machine

/-! ### Whose the objects are -/

/-- The transport `t` is one of the client `r` for the role. -/
def Port (s : Room) (r : ClientRef) (role : Role) (t : TransportId) : Prop :=
  ∃ x, s.router.transports[t]? = some x ∧ x.owner = r ∧ x.role = role

/-- The producer `p` of this kind was made for the client `r`. -/
def Produces (s : Room) (r : ClientRef) (p : ProducerId) (kind : MediaKind) : Prop :=
  ∃ x, s.router.producers[p]? = some x ∧ x.owner = r ∧ x.kind = kind

/-- What a handler of the client `r` has in its local variables. -/
def Rightful (s : Room) (r : ClientRef) : Await → Prop
  | .produce _ t _ _ => s.Port r .producing t
  | .consume loop call o =>
      s.Port call.consuming .consuming o.transport ∧ s.Produces call.producing o.producerId o.kind ∧
        (s.client call.producing).clientId = call.producingClientId ∧
        (s.client call.consuming).clientId ≠ call.producingClientId ∧
        match loop.kind with
        | .join _ => (s.client call.consuming).clientId = (s.client r).clientId
        | .push   => call.producingClientId = (s.client r).clientId
  | _ => True

/-- The objects in the tables and in the maps of the clients. -/
structure Sourced (s : Room) : Prop where
  port : ∀ {r role t}, (s.client r).transport role = some t → s.Port r role t
  stored : ∀ {r i p kind}, (s.client r).producers.At i p kind → s.Produces r p kind
  producer : ∀ {p : Nat} {x}, s.router.producers[p]? = some x →
    s.Port x.owner .producing x.transport
  consumer : ∀ {k : Nat} {x}, s.router.consumers[k]? = some x →
    s.Port x.owner .consuming x.transport ∧ ∃ y, s.router.producers[x.producerId]? = some y ∧
      y.owner < s.added ∧ (s.client x.owner).clientId ≠ (s.client y.owner).clientId
  handler : ∀ {h r a}, s.suspended h = some ⟨r, a⟩ → s.Rightful r a

theorem Later.port {s s' : Room} (h : Later s s') {r : ClientRef} {role : Role} {t : TransportId}
    (hp : s.Port r role t) : s'.Port r role t := by
  obtain ⟨x, hx, e, e'⟩ := hp
  obtain ⟨b, hb⟩ := h.transport hx
  exact ⟨_, hb, e, e'⟩

theorem Later.produces {s s' : Room} (h : Later s s') {r : ClientRef} {p : ProducerId}
    {kind : MediaKind} (hp : s.Produces r p kind) : s'.Produces r p kind := by
  obtain ⟨x, hx, e, e'⟩ := hp
  obtain ⟨b, hb⟩ := h.producer hx
  exact ⟨_, hb, e, e'⟩

/-- A handler stays right while clients keep their ids. -/
theorem Later.rightful {s s' : Room} (h : Later s s') {r : ClientRef} {a : Await}
    (hk : s.HandlerOk ⟨r, a⟩) (ha : s.Rightful r a) : s'.Rightful r a := by
  cases a with
  | produce q t kind rtp => exact h.port ha
  | consume loop call o =>
      obtain ⟨hr, hp, hc, -⟩ := hk
      obtain ⟨h₁, h₂, h₃, h₄, h₅⟩ := ha
      refine ⟨h.port h₁, h.produces h₂, (h.clientId _ hp).trans h₃, ?_, ?_⟩
      · rwa [h.clientId _ hc]
      · rw [h.clientId _ hc, h.clientId _ hr]
        exact h₅
  | createTransport | connect | pause | resume | returned => trivial

namespace Sourced

variable {s s' : Room} {e : Event}

/-- A transport that a client has stored was there, or has just been created. -/
theorem port_turn (h : s.Sourced) (ht : Turn s e s') {r : ClientRef} {role : Role}
    {t : TransportId} (hp : (s'.client r).transport role = some t) : s'.Port r role t := by
  by_cases hcr : ∃ g info, e = .transportCreated g info
  · obtain ⟨g, info, rfl⟩ := hcr
    cases ht with
    | @transportCreated _ _ c q role' o hs =>
        rw [(client_transportCreated s g c q role' info r).2] at hp
        split at hp
        · next hc =>
            obtain ⟨rfl, rfl⟩ := hc
            cases hp
            obtain ⟨out, -, e⟩ := transportCreated_eq s g r q role info
            exact ⟨⟨r, role, false⟩, by rw [e]; exact List.getElem?_concat_length, rfl, rfl⟩
        · exact (later_turn (.transportCreated hs)).port (h.port hp)
    | ended hend => exact hend.elim
  · have hold := (SamePorts.turn ht fun g info e => hcr ⟨g, info, e⟩).port hp
    exact (later_turn ht).port (h.port hold)

/-- A new producer stands on the transport its handler has kept. -/
theorem produces_new (ht : Turn s e s') {g : HandlerRef} {r : ClientRef} {q : RequestId}
    {t : TransportId} {kind : MediaKind} {rtp : RtpParameters}
    (hs : s.suspended g = some ⟨r, .produce q t kind rtp⟩) (he : e = .produced g) :
    s'.router.producers[s.router.producers.length]? = some ⟨r, t, kind, false⟩ := by
  subst he
  cases ht with
  | produced hs' =>
      cases hs.symm.trans hs'
      obtain ⟨out, -, e⟩ := produced_eq s g r q t kind
      rw [e, router_runLoop]
      exact List.getElem?_concat_length
  | ended hend => exact hend.elim

theorem call (h : s.Sourced) (hT : s.Tables) (hk : s'.Tables) (ht : Turn s e s')
    (hport : ∀ {r role t}, (s'.client r).transport role = some t → s'.Port r role t)
    (hstored : ∀ {r i p kind}, (s'.client r).producers.At i p kind → s'.Produces r p kind)
    {g : HandlerRef} {r : ClientRef} {loop : Loop} {call : ConsumeCall} {o : ConsumeOptions}
    (hs : s'.suspended g = some ⟨r, .consume loop call o⟩) :
    s'.Rightful r (.consume loop call o) := by
  have hl := later_turn ht
  rcases consume_made ht hs with hs | ⟨ho, hc⟩
  · exact hl.rightful (hT.handler hs) (h.handler hs)
  · obtain ⟨i, hi⟩ := ho.producer
    have hrcv : (s'.client call.consuming).transport .consuming = some o.transport := ho.transport
    refine ⟨hport hrcv, hstored hi, ?_⟩
    rcases hc with ⟨hp, id, hid, hkind⟩ | ⟨cursor, o', hs⟩
    · obtain ⟨-, epid, -⟩ := hk.stored hp
      obtain ⟨-, rfl, -⟩ := hk.stored hid
      refine ⟨epid, ?_, ?_⟩ <;> revert hkind <;> cases loop.kind <;> intro hkind
      · exact Ne.symm hkind.2
      · exact Ne.symm hkind.2
      · exact hkind.1
      · exact hkind.1
    · exact (hl.rightful (hT.handler hs) (h.handler hs)).2.2

/-- **One turn keeps the sources.** -/
theorem turn (h : s.Sourced) (hT : s.Tables) (ht : Turn s e s') : s'.Sourced := by
  have hl := later_turn ht
  have hk := hT.turn ht
  have hport : ∀ {r role t}, (s'.client r).transport role = some t → s'.Port r role t :=
    fun hp => h.port_turn ht hp
  have hstored : ∀ {r i p kind}, (s'.client r).producers.At i p kind → s'.Produces r p kind := by
    intro r i p kind ha
    rcases producers_made ht ha with ha | ⟨rfl, g, q, t, rtp, rfl, hs⟩
    · exact hl.produces (h.stored ha)
    · exact ⟨_, produces_new ht hs rfl, rfl, rfl⟩
  refine ⟨hport, hstored, fun {p y} hy => ?_, fun {k y} hy => ?_, fun {g r a} hs => ?_⟩
  · rcases producer_made ht hy with ⟨x, hx, eo, et, -⟩ | ⟨-, g, q, rtp, rfl, hs⟩
    · rw [eo, et]
      exact hl.port (h.producer hx)
    · exact hl.port (h.handler hs)
  · rcases consumer_made ht hy with
      ⟨x, hx, eo, et, ep⟩ | ⟨-, g, rtp, r, l, c, o, rfl, hs, eo, et, ep⟩
    · obtain ⟨hp, z, hz, hzo, hne⟩ := h.consumer hx
      obtain ⟨b, hb⟩ := hl.producer hz
      rw [eo, et, ep]
      refine ⟨hl.port hp, _, hb, Nat.lt_of_lt_of_le hzo hl.added, ?_⟩
      rwa [hl.clientId _ (hT.consumerIn hx).1, hl.clientId _ hzo]
    · obtain ⟨-, hp, hc, -⟩ := hT.handler hs
      obtain ⟨h₁, ⟨z, hz, hzo, -⟩, h₃, h₄, -⟩ := h.handler hs
      obtain ⟨b, hb⟩ := hl.producer hz
      rw [eo, et, ep]
      refine ⟨hl.port h₁, _, hb, ?_, ?_⟩
      · rw [hzo]
        exact Nat.lt_of_lt_of_le hp hl.added
      · rw [hzo, hl.clientId _ hc, hl.clientId _ hp, h₃]
        exact h₄
  · cases a with
    | consume l c o => exact h.call hT hk ht hport hstored hs
    | produce q t kind rtp =>
        rcases suspended_back ht hs rfl with ⟨hs, -⟩ | ⟨m, -, ha, -⟩
        · exact hl.rightful (hT.handler hs) (h.handler hs)
        · cases m <;> simp only [Awaits, reduceCtorEq, and_false] at ha
          obtain ⟨t', ht', e⟩ := ha
          cases e
          have hsnd : (s.client r).transport .producing = some t := ht'
          exact hl.port (h.port hsnd)
    | createTransport | connect | pause | resume | returned => trivial

end Sourced

theorem sourced_new (config : RoomConfig) (id : CallId) (caps : RtpCapabilities) :
    (Room.new config (createRouter id caps)).Sourced := by
  refine ⟨fun {r role t} h => ?_, fun h => absurd h LiveMap.not_at_empty,
    by simp [Room.new, createRouter], by simp [Room.new, createRouter],
    by simp [Room.new, suspended]⟩
  cases role <;> cases h

/-- **The sources of a run.** -/
theorem sourced_of_run {config : RoomConfig} {id : CallId} {caps : RtpCapabilities}
    {es : List Event} {s : Room}
    (hx : exec step (.new config (createRouter id caps)) es = some s) : s.Sourced := by
  have h := exec_invariant_of_step (I := fun s : Room => s.Tables ∧ s.Sourced)
    (fun _ _ _ h he => ⟨h.1.turn (step_turn he), h.2.turn h.1 (step_turn he)⟩)
    ⟨tables_new config id caps, sourced_new config id caps⟩ hx
  exact h.2

/-! ### What the room says -/

/-- The message, sent to the client `c`, is about objects of its own; a new consumer is announced
under the ids of the client that produces for it. -/
def Proper (s : Room) (c : ClientRef) : ServerMessage → Prop
  | .getRouterCapabilitiesResponse _ caps => caps = s.router.rtpCapabilities
  | .createTransportResponse _ t _ => ∃ x, s.router.transports[t]? = some x ∧ x.owner = c
  | .joinCallResponse _ callId token =>
      callId = s.callId ∧ token.roomId = s.roomId ∧ token.callId = s.callId ∧
        token.clientId = (s.client c).clientId
  | .createProducerResponse _ p => ∃ x, s.router.producers[p]? = some x ∧ x.owner = c
  | .pauseProducerResponse _ => True
  | .consumerCreatedNotification k p kind _ remote =>
      ∃ x y, s.router.consumers[k]? = some x ∧ x.owner = c ∧ x.producerId = p ∧
        s.router.producers[p]? = some y ∧ y.kind = kind ∧ y.owner < s.added ∧
        remote = ⟨(s.client y.owner).userId, (s.client y.owner).clientId⟩ ∧
        remote.clientId ≠ (s.client c).clientId
  | .consumerClosedNotification k =>
      ∃ x, s.router.consumers[k]? = some x ∧ x.owner = c ∧ x.closed = true

theorem Later.proper {s s' : Room} (h : Later s s') {c : ClientRef} (hc : c < s.added)
    {m : ServerMessage} (hm : s.Proper c m) : s'.Proper c m := by
  cases m with
  | getRouterCapabilitiesResponse q caps => exact Eq.trans hm h.capabilities.symm
  | createTransportResponse q t info =>
      obtain ⟨x, hx, e⟩ := hm
      obtain ⟨b, hb⟩ := h.transport hx
      exact ⟨_, hb, e⟩
  | joinCallResponse q callId token =>
      obtain ⟨h₁, h₂, h₃, h₄⟩ := hm
      refine ⟨h₁.trans h.call.symm, h₂.trans ?_, h₃.trans h.call.symm,
        h₄.trans (h.clientId c hc).symm⟩
      rw [roomId, roomId, h.config]
  | createProducerResponse q p =>
      obtain ⟨x, hx, e⟩ := hm
      obtain ⟨b, hb⟩ := h.producer hx
      exact ⟨_, hb, e⟩
  | pauseProducerResponse => trivial
  | consumerCreatedNotification k p kind rtp remote =>
      obtain ⟨x, y, hx, ho, hp, hy, hk, hlt, hr, hne⟩ := hm
      obtain ⟨b, hb⟩ := h.consumer hx
      obtain ⟨b', hb'⟩ := h.producer hy
      refine ⟨_, _, hb, ho, hp, hb', hk, Nat.lt_of_lt_of_le hlt h.added, ?_, ?_⟩
      · rw [hr, h.userId _ hlt, h.clientId _ hlt]
      · rwa [h.clientId c hc]
  | consumerClosedNotification k =>
      obtain ⟨x, hx, ho, hcl⟩ := hm
      obtain ⟨b, hb⟩ := h.consumer hx
      exact ⟨_, hb, ho, by simp [hcl]⟩

/-- The client that a turn is about: its message or the close of its websocket is handled, or the
handler that continues is its. -/
def actor (s : Room) : Event → Option ClientRef
  | .message r _ | .socketClosed r => some r
  | e => (e.handler.bind s.suspended).map Handler.client

theorem actor_of_suspended {s : Room} {e : Event} {g : HandlerRef} {x : Handler}
    (he : e.handler = some g) (hs : s.suspended g = some x) : s.actor e = some x.client := by
  cases e <;> simp_all [actor, Event.handler]

/-- The message is about a consumer that `s` does not have yet, or that is gone. -/
def AboutConsumer (s : Room) : ServerMessage → Prop
  | .consumerCreatedNotification k _ _ _ _ => s.router.consumers.length ≤ k
  | .consumerClosedNotification _ => True
  | .getRouterCapabilitiesResponse _ _ | .createTransportResponse _ _ _ | .joinCallResponse _ _ _
  | .createProducerResponse _ _ | .pauseProducerResponse _ => False

/-- A message of `s'` was sent before, or it is for the client `a` or about a consumer, and it is
proper or withdraws the consumer. -/
def Spoken (a : ClientRef) (s s' : Room) : Prop :=
  ∀ c m, (c, m) ∈ s'.sent → (c, m) ∈ s.sent ∨ ((c = a ∨ s.AboutConsumer m) ∧
    ((c < s'.added ∧ s'.Proper c m) ∨ ∃ k, m = .consumerClosedNotification k))

section Said

variable {s s' : Room} {e : Event} {a : ClientRef}

theorem spoken_same (h : s'.sent = s.sent) : Spoken a s s' := fun _ _ hm => .inl (h ▸ hm)

theorem spoken_closes {T : TransportId → Prop} (h : Closes T s s') : Spoken a s s' := by
  intro c m hm
  obtain ⟨out, e⟩ := h.sent
  rw [e, List.mem_append, List.mem_map] at hm
  rcases hm with hm | ⟨x, -, ex⟩
  · exact .inl hm
  · cases ex
    exact .inr ⟨.inr trivial, .inr ⟨_, rfl⟩⟩

theorem mem_send {r c : ClientRef} {m m' : ServerMessage} (h : (c, m) ∈ (s.send r m').sent) :
    (c, m) ∈ s.sent ∨ c = r ∧ m = m' := by
  rw [send_frame, List.mem_append] at h
  refine h.imp_right fun h => ?_
  split at h
  · cases h
  · simpa using h

theorem mem_runLoop {h : HandlerRef} {r c : ClientRef} {loop : Loop} {m : ServerMessage}
    (hm : (c, m) ∈ (s.runLoop h r loop).sent) :
    (c, m) ∈ s.sent ∨ c = r ∧ ∃ q, m = .joinCallResponse q s.callId (s.observerAccessToken r) := by
  rcases runLoop_other s h r loop with e | ⟨cursor, id, -, e⟩
  · rw [e] at hm
    cases hk : loop.kind with
    | join q =>
        rw [hk] at hm
        exact (mem_send hm).imp_right fun ⟨hc, hm⟩ => ⟨hc, q, hm⟩
    | push =>
        rw [hk] at hm
        exact .inl hm
  · obtain ⟨a, e'⟩ := consumeClient_frame s h r { loop with cursor }
      (Loop.pair loop.kind (s.client r).clientId id).1
      (Loop.pair loop.kind (s.client r).clientId id).2
    rw [e, e'] at hm
    exact .inl hm

theorem Spoken.later {s₁ s₂ : Room} (h : Spoken a s s₁) (hl : Later s₁ s₂)
    (hs : s₂.sent = s₁.sent) : Spoken a s s₂ := by
  intro c m hm
  rw [hs] at hm
  refine (h c m hm).imp_right fun ⟨hc, hm⟩ => ⟨hc, hm.imp_left fun ⟨hlt, hp⟩ => ?_⟩
  exact ⟨Nat.lt_of_lt_of_le hlt hl.added, hl.proper hlt hp⟩

/-- Another message, which is proper, to the client itself or about a consumer. -/
theorem spoken_send {s₁ : Room} {r : ClientRef} {m : ServerMessage} (hr : r < s₁.added)
    (hm : s₁.Proper r m) (ha : r = a ∨ s.AboutConsumer m) (hs : s₁.sent = s.sent) :
    Spoken a s (s₁.send r m) := by
  have hl : Later s₁ (s₁.send r m) := by
    rw [send_frame]
    exact .frame
  intro c m' hm'
  rcases mem_send hm' with hm' | ⟨rfl, rfl⟩
  · exact .inl (hs ▸ hm')
  · exact .inr ⟨ha, .inl ⟨Nat.lt_of_lt_of_le hr hl.added, hl.proper hr hm⟩⟩

/-- A loop may answer a join with a token for its client. -/
theorem spoken_runLoop {s₁ : Room} {r : ClientRef} (h : HandlerRef) (loop : Loop)
    (hr : r < s₁.added) (hs : Spoken r s s₁) : Spoken r s (s₁.runLoop h r loop) := by
  have hl := Later.runLoop s₁ h r loop
  intro c m hm
  rcases mem_runLoop hm with hm | ⟨rfl, q, rfl⟩
  · refine (hs c m hm).imp_right fun ⟨hc, hm⟩ => ⟨hc, hm.imp_left fun ⟨hlt, hp⟩ => ?_⟩
    exact ⟨Nat.lt_of_lt_of_le hlt hl.added, hl.proper hlt hp⟩
  · refine .inr ⟨.inl rfl, .inl ⟨Nat.lt_of_lt_of_le hr hl.added, hl.proper hr ?_⟩⟩
    exact ⟨rfl, rfl, rfl, rfl⟩

theorem spoken_finish {s₁ : Room} (h : Spoken a s s₁) (g : HandlerRef) :
    Spoken a s (s₁.finish g) :=
  h.later (.frame (o := s₁.sent) (n := s₁.now)) rfl

theorem spoken_suspend {s₁ : Room} (h : Spoken a s s₁) (g : HandlerRef) (r : ClientRef)
    (x : Await) : Spoken a s (s₁.suspend g r x) :=
  h.later (.frame (o := s₁.sent) (n := s₁.now)) rfl

theorem spoken_socketClosed (s : Room) (r : ClientRef) : Spoken a s (s.socketClosed r) := by
  by_cases he : (s.client r).eventsClosed = true
  · rw [socketClosed_of_closed he]
    exact spoken_same rfl
  · obtain ⟨s₂, hc, -, -, e⟩ := socketClosed_spec (by simpa using he)
    have hq : ∀ {x : Room}, Spoken a (s.quit r) x → Spoken a s x := fun h => h
    rw [e]
    split
    · exact hq (spoken_closes ((hc.mono fun _ _ => trivial).trans (closes_of_close s₂)))
    · exact hq (spoken_closes hc)

theorem spoken_receive {r : ClientRef} (hr : r < s.added) (m : ClientMessage) :
    Spoken r s (s.receive r m) := by
  have same : ∀ {s₁ : Room}, s₁.sent = s.sent → Spoken r s s₁ := spoken_same
  unfold receive
  split
  · exact same rfl
  · cases m with
    | getRouterCapabilitiesRequest q => exact spoken_send hr rfl (.inl rfl) rfl
    | clientRtpCapabilities caps => exact same rfl
    | createTransportRequest q role =>
        simp only [createTransportRequest]
        split <;> exact same rfl
    | joinCallRequest q => exact spoken_runLoop _ _ hr (same rfl)
    | transportConnectedNotification q role dtls =>
        simp only [transportConnectedNotification]
        split <;> exact same rfl
    | createProducerRequest q kind rtp u =>
        simp only [createProducerRequest]
        split <;> exact same rfl
    | pauseProducerRequest q p | resumeProducerRequest q p =>
        simp only [switchProducerRequest]
        split <;> exact same rfl
    | getClientStatsRequest q id => exact same rfl

/-- A new transport is announced to its owner. -/
theorem spoken_transportCreated {h : HandlerRef} {r : ClientRef} (hr : r < s.added) (q : RequestId)
    (role : Role) (info : TransportInfo) : Spoken r s (s.transportCreated h r q role info) := by
  rw [transportCreated]
  refine spoken_finish (spoken_send ?_ ?_ (.inl rfl) ?_) h
  · exact hr
  · exact ⟨⟨r, role, false⟩, List.getElem?_concat_length, rfl⟩
  · rfl

theorem spoken_produced {h : HandlerRef} {r : ClientRef} (hr : r < s.added) (q : RequestId)
    (t : TransportId) (kind : MediaKind) : Spoken r s (s.produced h r q t kind) := by
  have hsend : Spoken r s ((modify { s with router.producers := s.router.producers ++
      [(⟨r, t, kind, false⟩ : Producer)] } r fun c =>
        { c with producers := c.producers.set s.router.producers.length kind }).send r
          (.createProducerResponse q s.router.producers.length)) :=
    spoken_send hr ⟨⟨r, t, kind, false⟩, List.getElem?_concat_length, rfl⟩ (.inl rfl) rfl
  refine spoken_runLoop _ _ ?_ hsend
  rw [send_frame]
  exact hr

/-- A new consumer is announced to its owner, under the ids of its producer's owner. -/
theorem spoken_consumed (h : s.Sourced) (hT : s.Tables) {g : HandlerRef} {r : ClientRef}
    {loop : Loop} {call : ConsumeCall} {o : ConsumeOptions} (rtp : RtpParameters)
    (hs : s.suspended g = some ⟨r, .consume loop call o⟩) :
    Spoken a s (s.consumed g r loop call o rtp) := by
  obtain ⟨-, hp, hc, -⟩ := hT.handler hs
  obtain ⟨-, ⟨y, hy, ho, hk⟩, h₃, h₄, -⟩ := h.handler hs
  have hsend : Spoken a s (s.announce call.consuming
      ⟨call.consuming, o.transport, o.producerId, false⟩ (.consumerCreatedNotification
        s.router.consumers.length o.producerId o.kind rtp
          ⟨(s.client call.producing).userId, call.producingClientId⟩)) := by
    have hl : Later s ((s.grown [] [] [⟨call.consuming, o.transport, o.producerId, false⟩]).modify
        call.consuming fun c =>
          { c with consumers := c.consumers.set s.router.consumers.length o.producerId }) :=
      .grow rfl rfl
    simp only [grown, List.append_nil] at hl
    refine spoken_send hc ?_ (.inr (Nat.le_refl _)) rfl
    refine ⟨_, y, List.getElem?_concat_length, rfl, rfl, hy, hk, by rw [ho]; exact hp, ?_, ?_⟩
    · rw [hl.clientId _ (ho ▸ hp), hl.userId _ (ho ▸ hp), ho, h₃]
    · rw [hl.clientId _ hc]
      exact Ne.symm h₄
  obtain ⟨a, e⟩ := consumeFrom_frame _ g r loop call
  rw [consumed_announce, e]
  exact spoken_suspend hsend g r a

theorem spoken_step (h : s.Sourced) (hT : s.Tables) (he : s.step e = some s')
    (ha : ∀ r, s.actor e = some r → r = a) : Spoken a s s' := by
  have answer : ∀ {g r}, r < s.added → ∀ q,
      Spoken r s ((s.send r (.pauseProducerResponse q)).finish g) := by
    intro g r hr q
    have hm : s.Proper r (.pauseProducerResponse q) := trivial
    exact spoken_finish (spoken_send hr hm (.inl rfl) rfl) g
  cases e with
  | add ctx => cases he; exact spoken_same rfl
  | socketClosed r =>
      simp only [step] at he
      split at he <;> cases he
      exact spoken_socketClosed s r
  | message r m =>
      obtain ⟨hr, rfl⟩ := message_step he
      obtain rfl := ha r rfl
      exact spoken_receive hr m
  | transportCreated g info =>
      simp only [step] at he
      split at he
      · next hs =>
          cases he
          obtain rfl := ha _ (actor_of_suspended rfl hs)
          exact spoken_transportCreated (hT.handler hs).1 _ _ _
      · cases he
  | produced g =>
      simp only [step] at he
      split at he
      · next hs =>
          cases he
          obtain rfl := ha _ (actor_of_suspended rfl hs)
          exact spoken_produced (hT.handler hs).1 _ _ _
      · cases he
  | consumed g rtp =>
      simp only [step] at he
      split at he
      · next hs => cases he; exact spoken_consumed h hT rtp hs
      · cases he
  | resumed g =>
      simp only [step] at he
      split at he
      · next hs =>
          cases he
          obtain rfl := ha _ (actor_of_suspended rfl hs)
          exact spoken_runLoop _ _ (hT.handler hs).1 (spoken_same rfl)
      · cases he
  | producerSwitched g =>
      simp only [step] at he
      split at he
      · next hs =>
          cases he
          obtain rfl := ha _ (actor_of_suspended rfl hs)
          exact answer (hT.handler hs).1 _
      · next hs =>
          cases he
          obtain rfl := ha _ (actor_of_suspended rfl hs)
          exact answer (hT.handler hs).1 _
      · cases he
  | transportFailed g | transportConnected g ok | produceFailed g | consumeFailed g =>
      simp only [step] at he
      split at he <;> cases he
      exact spoken_same rfl
  | consumerClosed k =>
      simp only [step] at he
      split at he <;> cases he
      exact spoken_closes (closes_of_closeConsumer s k)
  | routerClosed => cases he; exact spoken_closes (closes_of_closeRouter s)
  | close => cases he; exact spoken_closes (closes_of_close s)
  | elapsed ms => cases he; exact spoken_same rfl

end Said

/-- A consumer that a client was told is gone was its own, and is closed. -/
def Withdrawn (s : Room) : Prop :=
  ∀ c k, (c, ServerMessage.consumerClosedNotification k) ∈ s.sent →
    ∃ x, s.router.consumers[k]? = some x ∧ x.owner = c ∧ x.closed = true

theorem withdrawn_closeConsumer {s : Room} (h : s.Withdrawn) (k : ConsumerId) :
    (s.closeConsumer k).Withdrawn := by
  rw [closeConsumer]
  split
  · exact h
  · next x hx =>
      split
      · exact h
      · intro c j hj
        rw [router_send, router_modify]
        rcases mem_send hj with hj | ⟨rfl, e⟩
        · obtain ⟨y, hy, ho, hc⟩ := h c j hj
          by_cases hjk : j = k
          · subst hjk
            cases hx.symm.trans hy
            exact ⟨_, Cells.set_eq_some.mpr (.inl ⟨rfl, Cells.lt_of_some hx, rfl⟩), ho, rfl⟩
          · exact ⟨y, Cells.set_eq_some.mpr (.inr ⟨hjk, hy⟩), ho, hc⟩
        · cases e
          exact ⟨_, Cells.set_eq_some.mpr (.inl ⟨rfl, Cells.lt_of_some hx, rfl⟩), rfl, rfl⟩

theorem withdrawn_survives : Survives Withdrawn where
  still := fun h hs c k hm => by
    rw [hs.sent] at hm
    rw [hs.consumers]
    exact h c k hm
  send := fun r _ h hn c k hm => by
    rw [router_send]
    rcases mem_send hm with hm | ⟨-, rfl⟩
    · exact h c k hm
    · cases hn
  close := fun k h => withdrawn_closeConsumer h k
  announce := fun {s c x m} h _ _ _ hn c' k hm => by
    rw [Room.announce, router_send, router_modify]
    rcases mem_send hm with hm | ⟨-, rfl⟩
    · obtain ⟨y, hy, ho⟩ := h c' k hm
      exact ⟨y, Cells.append_of_some hy, ho⟩
    · cases hn
  add := fun _ h => h

/-- What was sent is proper. -/
theorem proper_of_run {config : RoomConfig} {id : CallId} {caps : RtpCapabilities}
    {es : List Event} {s : Room}
    (hx : exec step (.new config (createRouter id caps)) es = some s) {c : ClientRef}
    {m : ServerMessage} (hm : (c, m) ∈ s.sent) : c < s.added ∧ s.Proper c m := by
  have hw : s.Withdrawn ∧ ∀ c m, (c, m) ∈ s.sent → (c < s.added ∧ s.Proper c m) ∨
      ∃ k, m = .consumerClosedNotification k := by
    refine exec_history (I := fun _ s => s.Withdrawn ∧ ∀ c m, (c, m) ∈ s.sent →
      (c < s.added ∧ s.Proper c m) ∨ ∃ k, m = .consumerClosedNotification k)
      ⟨nofun, nofun⟩ (fun es s e s' hx ⟨hw, hp⟩ he => ⟨?_, fun c m hm => ?_⟩) hx
    · refine withdrawn_survives.step hw (fun g c p hg => ?_) he
      obtain ⟨r, l, d, o, hs, rfl, -⟩ := pendingConsume_eq_some.mp hg
      exact ((tables_of_run hx).handler hs).2.2.1
    · have hl := later_turn (step_turn he)
      have hs := spoken_step (a := (s.actor e).getD 0) (sourced_of_run hx) (tables_of_run hx) he
        fun r hr => by rw [hr]; rfl
      rcases hs c m hm with hm | ⟨-, hm⟩
      · refine (hp c m hm).imp_left fun ⟨hc, hm⟩ => ?_
        exact ⟨Nat.lt_of_lt_of_le hc hl.added, hl.proper hc hm⟩
      · exact hm
  rcases hw.2 c m hm with h | ⟨k, rfl⟩
  · exact h
  · obtain ⟨x, hx', ho, hc⟩ := hw.1 c k hm
    exact ⟨ho ▸ ((tables_of_run hx).consumerIn hx').1, x, hx', ho, hc⟩

/-- **Where the media come from.**  In every run a producer stands on a producing transport of the
client that owns it, and a consumer on a consuming transport of the client that owns it, consuming
a producer of a client with another id: nobody is sent his own media. -/
theorem media_sourced {config : RoomConfig} {id : CallId} {caps : RtpCapabilities}
    {es : List Event} {s : Room}
    (hx : exec step (.new config (createRouter id caps)) es = some s) :
    (∀ (p : ProducerId) x, s.router.producers[p]? = some x →
        s.Port x.owner .producing x.transport) ∧
      ∀ (k : ConsumerId) x, s.router.consumers[k]? = some x →
        s.Port x.owner .consuming x.transport ∧
        ∃ y, s.router.producers[x.producerId]? = some y ∧
          (s.client x.owner).clientId ≠ (s.client y.owner).clientId := by
  have h := sourced_of_run hx
  refine ⟨fun p x hp => h.producer hp, fun k x hk => ?_⟩
  obtain ⟨hport, y, hy, -, hne⟩ := h.consumer hk
  exact ⟨hport, y, hy, hne⟩

theorem media_sourced_joins : ∃ s, exec step lobby joins = some s ∧
    (s.router.consumers[0]?.map fun x => (x.owner, x.producerId)) = some (1, 0) ∧
    s.Port 1 .consuming 1 ∧ (s.client 1).clientId ≠ (s.client 0).clientId := by
  have hx : exec step lobby joins = some _ := rfl
  obtain ⟨hport, y, hy, hne⟩ := (media_sourced hx).2 0 ⟨1, 1, 0, false⟩ rfl
  cases hy
  exact ⟨_, hx, rfl, hport, hne⟩

/-- **The room says what is so.**  In every run every message to a client is about objects of that
client, a new consumer is announced under the ids of the client whose producer it consumes, and the
token of a join is for the client that joined, its room and its call. -/
theorem messages_proper {config : RoomConfig} {id : CallId} {caps : RtpCapabilities}
    {es : List Event} {s : Room}
    (hx : exec step (.new config (createRouter id caps)) es = some s) (c : ClientRef)
    (m : ServerMessage) (hm : (c, m) ∈ s.sent) : c < s.added ∧ s.Proper c m :=
  proper_of_run hx hm

theorem messages_proper_joins : ∃ s, exec step lobby joins = some s ∧
    s.Proper 1 (.consumerCreatedNotification 0 0 .audio "opus" ⟨"u", "a"⟩) := by
  have hx : exec step lobby joins = some _ := rfl
  exact ⟨_, hx, (messages_proper hx 1 _ (by decide)).2⟩

end DemoApp.Sfu.Room
