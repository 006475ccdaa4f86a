import DemoApp.Sfu.Readiness
import DemoApp.Webapp.Agreement
import DemoApp.Webapp.Conference

/-!
# Webapp — Everybody

Whether everybody is on the page: what the others produce reaches the room, the room forwards it,
and the page shows what is forwarded.

* `JoinsLast`: the service asks to join after it has told its capabilities and stored its
  transports, so that the room can forward to it whatever is there.
* `page_shows_others`: at rest the page of a client whose `connect` has resolved shows every open
  producer of every other client in the room, and nothing but such.
-/

namespace DemoApp.Webapp
open Sfu Machine

namespace MediasoupService

/-! ### When the service joins -/

/-- The message asks to join. -/
def asksToJoin : ClientMessage → Bool
  | .joinCallRequest _ => true
  | _ => false

/-- The message tells the capabilities of the device. -/
def tellsCapabilities : ClientMessage → Bool
  | .clientRtpCapabilities _ => true
  | _ => false

theorem tells_of_asksToJoin {c : ClientMessage} (h : asksToJoin c = true) :
    tellsCapabilities c = false := by
  cases c <;> first | rfl | cases h

/-- What asks to join was sent after the capabilities, with the transports stored. -/
structure JoinsLast (s : MediasoupService) : Prop where
  waits : ∀ {c}, c ∈ s.serverConnection.buffer.map Prod.fst → asksToJoin c = false
  told : ∀ {n c}, c ∈ s.serverConnection.sent.take n → asksToJoin c = true →
    ∃ c' ∈ s.serverConnection.sent.take n, tellsCapabilities c' = true
  stored : ∀ {c}, c ∈ s.serverConnection.sent → asksToJoin c = true →
    s.rcvTransport.isSome = true
  capable : ∀ {snd rcv}, s.connecting = .transports snd rcv →
    ∃ c ∈ s.serverConnection.sent, tellsCapabilities c = true

variable {uuid : Nat → RequestId} {D : List ServerMessage} {s s' : MediasoupService} {e : Event}

theorem joinsLast_new (config : ServerConnectionConfig) : JoinsLast (new config) := by
  refine ⟨fun hc => ?_, fun hc => ?_, fun hc => ?_, fun hc => ?_⟩
  · simp [new] at hc
  · simp [new] at hc
  · simp [new] at hc
  · cases hc

/-- More is sent, and nobody asks to join before the capabilities were told. -/
theorem JoinsLast.sends (h : JoinsLast s) {l : List ClientMessage}
    (hsent : s'.serverConnection.sent = s.serverConnection.sent ++ l)
    (hl : ∀ c ∈ l, asksToJoin c = true → s'.rcvTransport.isSome = true ∧
      ∃ c' ∈ s.serverConnection.sent, tellsCapabilities c' = true)
    (hb : ∀ c ∈ s'.serverConnection.buffer.map Prod.fst, asksToJoin c = false)
    (hrcv : s.rcvTransport.isSome = true → s'.rcvTransport.isSome = true)
    (hcap : ∀ {snd rcv}, s'.connecting = .transports snd rcv →
      ∃ c ∈ s'.serverConnection.sent, tellsCapabilities c = true) : JoinsLast s' := by
  have earlier : ∀ {n c}, c ∈ s.serverConnection.sent.take n →
      c ∈ s'.serverConnection.sent.take n := fun {n c} hc => by
    rw [hsent, List.take_append]
    exact List.mem_append_left _ hc
  refine ⟨fun hc => hb _ hc, fun {n c} hc hj => ?_, fun {c} hc hj => ?_, hcap⟩
  · rw [hsent, List.take_append] at hc
    rcases List.mem_append.mp hc with hc | hc
    · obtain ⟨c', hc', ht⟩ := h.told hc hj
      exact ⟨c', earlier hc', ht⟩
    · -- all that was sent before is among the first `n`
      obtain ⟨-, c', hc', ht⟩ := hl c (List.mem_of_mem_take hc) hj
      have hlt : s.serverConnection.sent.length ≤ n := by
        by_contra hlt
        rw [Nat.sub_eq_zero_of_le (Nat.le_of_not_le hlt)] at hc
        cases hc
      refine ⟨c', earlier ?_, ht⟩
      rwa [List.take_of_length_le hlt]
  · rw [hsent] at hc
    rcases List.mem_append.mp hc with hc | hc
    · exact hrcv (h.stored hc hj)
    · exact (hl c hc hj).1

/-- Nobody asks to join. -/
def Quietly (c c' : ServerConnection) : Prop :=
  ∃ l, c'.sent = c.sent ++ l ∧
    (∀ m ∈ l, m ∈ c.buffer.map Prod.fst ∨ asksToJoin m = false) ∧
    ∀ m ∈ c'.buffer.map Prod.fst, m ∈ c.buffer.map Prod.fst ∨ asksToJoin m = false

section Connection

variable {c c' c'' : ServerConnection} {m : ClientMessage}

theorem Quietly.refl (c : ServerConnection) : Quietly c c :=
  ⟨[], (List.append_nil _).symm, fun _ hm => (by cases hm), fun _ hm => .inl hm⟩

theorem Quietly.trans (h : Quietly c c') (h' : Quietly c' c'') : Quietly c c'' := by
  obtain ⟨l, hs, hl, hb⟩ := h
  obtain ⟨l', hs', hl', hb'⟩ := h'
  refine ⟨l ++ l', by rw [hs', hs, List.append_assoc], fun m hm => ?_, fun m hm => ?_⟩
  · rcases List.mem_append.mp hm with hm | hm
    · exact hl m hm
    · exact (hl' m hm).elim (hb m) .inr
  · exact (hb' m hm).elim (hb m) .inr

theorem quietly_sendMessage (hm : asksToJoin m = false) : Quietly c (c.sendMessage m) := by
  rcases c.sendMessage_cases m with ⟨-, e⟩ | ⟨-, buffer, timer, ticking, e, hb⟩ <;> rw [e]
  · refine ⟨[m], rfl, fun m' hm' => .inr ?_, fun _ hm' => .inl hm'⟩
    rw [List.mem_singleton.mp hm']
    exact hm
  · refine ⟨[], (List.append_nil _).symm, fun _ hm' => (by cases hm'), fun m' hm' => ?_⟩
    rcases hb m' hm' with hold | rfl
    · exact .inl hold
    · exact .inr hm

theorem quietly_request {q : RequestId} (hm : asksToJoin m = false) :
    Quietly c (c.request q m) := by
  obtain ⟨l, hs, hl, hb⟩ := quietly_sendMessage (m := m) (c := { c with
    requests := c.requests.set q c.promises.length
    promises := c.promises ++ [none] }) hm
  exact ⟨l, hs, hl, hb⟩

theorem quietly_tick : Quietly c c.tick := by
  rcases c.tick_cases with e | ⟨l, hl, e⟩ <;> rw [e]
  · exact .refl c
  · exact ⟨l, rfl, fun m hm => .inl (hl m hm), fun _ hm => (by cases hm)⟩

theorem quietly_resolveRequest {m : ServerMessage} : Quietly c (c.resolveRequest m) := by
  rw [ServerConnection.resolveRequest]
  split
  · exact .refl c
  · obtain ⟨l, hs, hl, hb⟩ := Quietly.refl c
    exact ⟨l, hs, hl, hb⟩

end Connection

/-- Nobody asks to join, and `connect` is not about to. -/
theorem JoinsLast.quietly (h : JoinsLast s)
    (hq : Quietly s.serverConnection s'.serverConnection)
    (hrcv : s'.rcvTransport = s.rcvTransport)
    (hcap : ∀ {snd rcv}, s'.connecting = .transports snd rcv →
      (∃ snd rcv, s.connecting = .transports snd rcv) ∨
        ∃ c ∈ s'.serverConnection.sent, tellsCapabilities c = true) : JoinsLast s' := by
  obtain ⟨l, hs, hl, hb⟩ := hq
  refine h.sends hs (fun c hc hj => ?_) (fun c hc => ?_) (fun ht => hrcv ▸ ht) fun hc => ?_
  · rcases hl c hc with hc | hf
    · exact absurd (hj.symm.trans (h.waits hc)) (by simp)
    · exact absurd (hj.symm.trans hf) (by simp)
  · exact (hb c hc).elim h.waits id
  · rcases hcap hc with ⟨snd, rcv, hold⟩ | hnew
    · obtain ⟨c, hc, ht⟩ := h.capable hold
      exact ⟨c, hs ▸ List.mem_append_left _ hc, ht⟩
    · exact hnew

/-- A request of a client that does not ask to join. -/
theorem JoinsLast.request (h : JoinsLast s) (message : RequestId → ClientMessage)
    (hm : asksToJoin (message (uuid s.uuids)) = false) : JoinsLast (s.request uuid message) :=
  h.quietly (quietly_request hm) rfl fun hc => .inl ⟨_, _, hc⟩

/-- The device is loaded: its capabilities are told at once. -/
theorem JoinsLast.loaded (h : JoinsLast s) (hw : s.serverConnection.ws = true)
    (caps : RtpCapabilities) : JoinsLast (s.loaded uuid caps) := by
  have hcaps : Quietly s.serverConnection
      (s.serverConnection.sendMessage (.clientRtpCapabilities caps)) := quietly_sendMessage rfl
  have hasks : Quietly (s.serverConnection.sendMessage (.clientRtpCapabilities caps))
      (s.loaded uuid caps).serverConnection :=
    (quietly_request rfl).trans (quietly_request rfl)
  refine h.quietly (hcaps.trans hasks) rfl fun _ => .inr ?_
  obtain ⟨l, hs, -⟩ := hasks
  refine ⟨.clientRtpCapabilities caps, hs ▸ List.mem_append_left _ ?_, rfl⟩
  simp [ServerConnection.sendMessage, hw]

/-- `connect` asks to join. -/
theorem JoinsLast.transports (h : JoinsLast s) (hw : s.serverConnection.ws = true)
    {snd rcv : TransportId} (hc : s.connecting = .transports (.created snd) (.created rcv)) :
    JoinsLast { ({ s with sndTransport := some snd, rcvTransport := some rcv }.request uuid
      .joinCallRequest) with connecting := .joining s.promise } := by
  refine h.sends (l := [.joinCallRequest (uuid s.uuids)]) ?_ (fun _ _ _ => ⟨rfl, h.capable hc⟩)
    (fun c hc' => h.waits ?_) (fun _ => rfl) fun hc' => ?_
  · simp [MediasoupService.request, ServerConnection.request, ServerConnection.sendMessage, hw]
  · simpa [MediasoupService.request, ServerConnection.request, ServerConnection.sendMessage, hw]
      using hc'
  · cases hc'

/-- **One turn of the service.** -/
theorem JoinsLast.turn (h : JoinsLast s) (hc : Connects uuid D s) (hu : Uses uuid D s)
    (ht : Turn uuid s e s') : JoinsLast s' := by
  have same := Quietly.refl s.serverConnection
  cases ht with
  | connect | capabilities | joined | incapable | transportFailed =>
      exact h.quietly same rfl fun hc' => (by cases hc')
  | opened | elapsed => exact h.quietly same rfl fun hc' => .inl ⟨_, _, hc'⟩
  | consumed | consumerClosed => exact h.quietly same rfl fun hc' => .inl ⟨_, _, hc'⟩
  | tick => exact h.quietly quietly_tick rfl fun hc' => .inl ⟨_, _, hc'⟩
  | @message m =>
      obtain ⟨hconn, -, -, hrcv⟩ := s.onmessage_course m
      refine h.quietly ?_ hrcv fun hc' => .inl ⟨_, _, hconn ▸ hc'⟩
      rw [serverConnection_onmessage]
      exact quietly_resolveRequest
  | server hs => exact h.quietly (quietly_request rfl) rfl fun hc' => (by cases hc')
  | loaded hs =>
      have hstage := hc.stage
      simp only [Stage, hs] at hstage
      exact h.loaded hstage.1 _
  | @transportCreated role p q t info hcall hp =>
      refine h.quietly same rfl fun _ => .inl ?_
      cases hs : s.connecting with
      | transports snd rcv => exact ⟨_, _, rfl⟩
      | _ =>
          rw [hs] at hcall
          cases role <;> cases hcall
  | transports hs =>
      -- a transport was created, so a message has come
      obtain ⟨info, hm⟩ : Named uuid D .producing _ := hu.created (by rw [hs]; rfl)
      exact h.transports (hc.requests.opened (List.ne_nil_of_mem hm)) hs
  | transportConnect => exact h.request _ rfl
  | produce => exact h.request _ rfl

end MediasoupService

/-! ### What the room forwards -/

namespace Session

/-- The turn that the room takes in a turn of the session. -/
def roomEvent (s : Session) (r : ClientRef) : Event → Option Room.Event
  | .room e => some e
  | .up => (s.service.serverConnection.sent[s.received]?).map (Room.Event.message r)
  | .service _ | .down => none

/-- No `consume` of the room rejects, and the other clients join when they are ready. -/
def Delivers (s : Session) : Event → Prop
  | .room e => s.room.Orderly e
  | .service _ | .up | .down => True

instance (s : Session) : (e : Event) → Decidable (Delivers s e)
  | .room e => inferInstanceAs (Decidable (s.room.Orderly e))
  | .service _ | .up | .down => isTrue trivial

/-- Nothing is on its way in either direction, no handler of the room is suspended, and no consumer
has yet to learn that its producer is closed. -/
structure AtRest (s : Session) (r : ClientRef) : Prop where
  settled : s.Settled r
  buffer : s.service.serverConnection.buffer = []
  received : s.received = s.service.serverConnection.sent.length
  handlers : ∀ h, s.room.suspended h = none
  gone : ∀ (k : Nat) x, s.room.router.consumers[k]? = some x → s.room.producerGone k = true →
    x.closed = true

section Runs

variable {uuid : Nat → RequestId} {r : ClientRef} {config : RoomConfig} {id : CallId}
  {caps : RtpCapabilities} {connection : ServerConnectionConfig} {s s' : Session}
  {rs : List Room.Event} {es : List Event}

theorem room_turn {e : Event} (he : s.step uuid r e = some s') :
    exec Room.step s.room (s.roomEvent r e).toList = some s'.room := by
  cases step_turn he with
  | @room _ room _ hr => exact exec_cons.mpr ⟨room, hr, rfl⟩
  | service | down => rfl
  | @up _ room hm hr =>
      rw [roomEvent, hm]
      exact exec_cons.mpr ⟨room, hr, rfl⟩

/-- **One turn of either side**, with the turn of the room. -/
theorem Linked.turn (hu : uuid.Injective)
    (h : Linked uuid r (.new config (createRouter id caps)) s rs) {e : Event}
    (he : s.step uuid r e = some s') (ho : s.Orderly e) :
    Linked uuid r (.new config (createRouter id caps)) s' (rs ++ (s.roomEvent r e).toList) := by
  obtain ⟨rs', h'⟩ := h.step hu he ho
  -- the service sends, and the room has received what it had
  have sends : ∀ {e service}, MediasoupService.Turn uuid s.service e service →
      rs.filterMap (Room.messageOf r) = service.serverConnection.sent.take s.received :=
    fun ht => h.received.trans (take_of_longer (sent_turn ht) h.sent).symm
  cases step_turn he with
  | room hm hr =>
      exact h.room hr ho (by rw [hm, Option.toList_none, List.append_nil, h.received]) h.sent
  | service _ hs =>
      rw [roomEvent, Option.toList_none, List.append_nil]
      exact ⟨h.run, h.inOrder, sends (MediasoupService.step_turn hs), h'.sent, h'.connects,
        h'.delivered⟩
  | up hm hr =>
      rw [roomEvent, hm]
      refine h.room hr trivial ?_ (Cells.lt_of_some hm)
      rw [take_succ_of_some hm, ← h.received]
      simp [Room.messageOf]
  | down _ hw =>
      rw [roomEvent, Option.toList_none, List.append_nil]
      exact ⟨h.run, h.inOrder, sends (.message hw), h'.sent, h'.connects, h'.delivered⟩

/-- **A client that asks to join is ready.** -/
theorem Linked.ready (hu : uuid.Injective)
    (h : Linked uuid r (.new config (createRouter id caps)) s rs)
    (huses : s.service.Uses uuid ((s.room.toClient r).take s.delivered))
    (hj : s.service.JoinsLast) {c : ClientMessage}
    (hc : s.service.serverConnection.sent[s.received]? = some c)
    (hjoin : MediasoupService.asksToJoin c = true) (ho : (s.room.client r).eventsClosed = false) :
    s.room.Ready r := by
  constructor
  · have hmem : c ∈ s.service.serverConnection.sent.take (s.received + 1) := by
      rw [take_succ_of_some hc]
      exact List.mem_append_right _ (List.mem_singleton_self c)
    obtain ⟨c', hc', ht⟩ := hj.told hmem hjoin
    have hold : c' ∈ s.service.serverConnection.sent.take s.received := by
      rw [take_succ_of_some hc] at hc'
      rcases List.mem_append.mp hc' with hc' | hc'
      · exact hc'
      · obtain rfl := List.mem_singleton.mp hc'
        exact absurd (ht.symm.trans (MediasoupService.tells_of_asksToJoin hjoin)) (by simp)
    rw [← h.received] at hold
    obtain ⟨e, he, hm⟩ := List.mem_filterMap.mp hold
    have htold : Room.ToldCapabilities r rs := by
      cases c' with
      | clientRtpCapabilities device =>
          cases e with
          | message q m =>
              simp only [Room.messageOf] at hm
              split at hm
              · next hq =>
                  subst hq
                  cases hm
                  exact ⟨device, he⟩
              · cases hm
          | _ => cases hm
      | _ => cases ht
    exact (Room.capable_of_run h.run htold).2 ho
  · obtain ⟨t, ht⟩ := Option.isSome_iff_exists.mp
      (hj.stored (List.mem_of_getElem? hc) hjoin)
    have hport : (s.room.client r).transport .consuming = some t := h.named hu (huses.stored ht)
    exact Option.isSome_of_mem hport

/-- The session, the course of its service, and the run of the room: as long as the client is in the
room, whoever joined was ready. -/
structure Consuming (uuid : Nat → RequestId) (r : ClientRef) (room₀ : Room) (s : Session) :
    Prop where
  uses : s.service.Uses uuid ((s.room.toClient r).take s.delivered)
  asks : s.service.Asks uuid
  joins : s.service.JoinsLast
  run : ∃ rs, Linked uuid r room₀ s rs ∧
    ((r < s.room.added ∧ (s.room.client r).eventsClosed = true) ∨
      Along Room.step Room.Orderly room₀ rs)

theorem consuming_start (hc : ServerConnection.Unlimited connection) :
    Consuming uuid r (.new config (createRouter id caps)) (new config id caps connection) :=
  ⟨MediasoupService.uses_new uuid connection, MediasoupService.asks_new hc,
    MediasoupService.joinsLast_new connection, [],
    ⟨rfl, trivial, rfl, Nat.le_refl _, MediasoupService.connects_new uuid connection,
      Nat.le_refl _⟩, .inr trivial⟩

/-- The turn of the room is orderly, or the client has left. -/
theorem Consuming.orderly (hu : uuid.Injective)
    (h : Consuming uuid r (.new config (createRouter id caps)) s)
    (hl : Linked uuid r (.new config (createRouter id caps)) s rs) {e : Event}
    (he : s.step uuid r e = some s') (hd : s.Delivers e) {f : Room.Event}
    (hf : s.roomEvent r e = some f) :
    (r < s.room.added ∧ (s.room.client r).eventsClosed = true) ∨ s.room.Orderly f := by
  cases step_turn he with
  | room =>
      cases hf
      exact .inr hd
  | service | down => cases hf
  | @up m _ hm hr =>
      rw [roomEvent, hm] at hf
      cases hf
      by_cases hopen : (s.room.client r).eventsClosed = true
      · exact .inl ⟨(Room.message_step hr).1, hopen⟩
      · refine .inr ?_
        cases m with
        | joinCallRequest q => exact hl.ready hu h.uses h.joins hm rfl (by simpa using hopen)
        | _ => trivial

theorem Consuming.step (hu : uuid.Injective)
    (h : Consuming uuid r (.new config (createRouter id caps)) s) {e : Event}
    (he : s.step uuid r e = some s') (ho : s.Orderly e) (hd : s.Delivers e) :
    Consuming uuid r (.new config (createRouter id caps)) s' := by
  obtain ⟨rs, hl, hrun⟩ := h.run
  have hl' := hl.turn hu he ho
  have huses := (Agreeing.step hu ⟨⟨rs, hl⟩, h.uses⟩ he ho).uses
  have hservice : s'.service.Asks uuid ∧ s'.service.JoinsLast := by
    rcases service_turn hl.delivered he with ⟨hs, -⟩ | ⟨f, hturn, -⟩
    · exact hs ▸ ⟨h.asks, h.joins⟩
    · exact ⟨h.asks.turn hl.connects hturn, h.joins.turn hl.connects h.uses hturn⟩
  have hroom := room_turn he
  refine ⟨huses, hservice.1, hservice.2, _, hl', ?_⟩
  cases hf : s.roomEvent r e with
  | none =>
      rw [hf] at hroom
      have hsame : s.room = s'.room := Option.some.inj hroom
      rw [Option.toList_none, List.append_nil, ← hsame]
      exact hrun
  | some f =>
      rw [hf] at hroom
      obtain ⟨t, ht, hnil⟩ := exec_cons.mp hroom
      obtain rfl : t = s'.room := Option.some.inj hnil
      have gone : r < s.room.added ∧ (s.room.client r).eventsClosed = true →
          r < s'.room.added ∧ (s'.room.client r).eventsClosed = true := fun ⟨hr, hc⟩ =>
        ⟨Nat.lt_of_lt_of_le hr (Room.added_step ht),
          Room.Core.eventsClosed_step (Room.core_step ht) hr hc⟩
      rcases hrun with hgone | hrun
      · exact .inl (gone hgone)
      · rcases h.orderly hu hl he hd hf with hgone | hord
        · exact .inl (gone hgone)
        · exact .inr ((along_snoc hl.run).mpr ⟨hrun, hord⟩)

theorem consuming_of_run (hu : uuid.Injective) (hc : ServerConnection.Unlimited connection)
    (hx : exec (step uuid r) (new config id caps connection) es = some s)
    (ho : Along (step uuid r) Orderly (new config id caps connection) es)
    (hd : Along (step uuid r) Delivers (new config id caps connection) es) :
    Consuming uuid r (.new config (createRouter id caps)) s :=
  exec_invariant (fun _ _ _ h hc he => Consuming.step hu h he hc.1 hc.2) (consuming_start hc)
    (ho.and hd) hx

/-- At rest the room has received the `join-call-request` of a client that is connected. -/
theorem Consuming.joined (h : Consuming uuid r (.new config (createRouter id caps)) s)
    (hl : Linked uuid r (.new config (createRouter id caps)) s rs) (hrest : s.AtRest r)
    (hconn : s.service.connecting = .connected) : Room.Joined rs r := by
  have hstage := hl.connects.stage
  simp only [MediasoupService.Stage, hconn] at hstage
  have hasked : ClientMessage.joinCallRequest (uuid 3) ∈ s.service.serverConnection.outgoing :=
    h.asks.asked (i := 3) (h.asks.past (.inr hstage.2)) rfl
  rw [ServerConnection.outgoing, hrest.buffer, List.map_nil, List.append_nil,
    ← List.take_length (l := s.service.serverConnection.sent), ← hrest.received,
    ← hl.received] at hasked
  obtain ⟨e, he, hm⟩ := List.mem_filterMap.mp hasked
  cases e with
  | message q m =>
      simp only [Room.messageOf] at hm
      split at hm
      · next hq =>
          subst hq
          cases hm
          exact ⟨uuid 3, he⟩
      · cases hm
  | _ => cases hm

/-- **The room forwards everything.**  At rest an open consumer of a client that is in the room and
connected is there for every producer of every other client. -/
theorem Consuming.forwards (h : Consuming uuid r (.new config (createRouter id caps)) s)
    (hrest : s.AtRest r) (hconn : s.service.connecting = .connected) (hr : s.room.Stored r)
    {p : ClientRef} {P : ProducerId} {kind : MediaKind} (hp : s.room.Stored p) (hne : p ≠ r)
    (hP : (s.room.client p).producers.get P = some kind) :
    ∃ k x, s.room.router.consumers[k]? = some x ∧ x.producerId = P ∧
      s.room.Forwards r false k kind ⟨(s.room.client p).userId, (s.room.client p).clientId⟩ := by
  obtain ⟨rs, hl, hrun⟩ := h.run
  have hT := Room.tables_of_run hl.run
  have hsrc := Room.sourced_of_run hl.run
  have hopen := (hT.stored hr).2.2
  rcases hrun with ⟨-, hclosed⟩ | hrun
  · exact absurd (hopen.symm.trans hclosed) Bool.false_ne_true
  have hpair : s.room.Pair r p P := ⟨hr, hp, hne.symm, by rw [hP]; rfl⟩
  -- no handler is left to be responsible for a missing consumer
  obtain ⟨g, hcov | ⟨x, hx, -⟩⟩ :=
    (Room.attended_of_run hl.run hrun).covered (h.joined hl hrest hconn) hpair
  · obtain ⟨i, k, hk⟩ := Room.consumes_iff.mp hcov
    obtain ⟨x, hx, ho, hid, hc, -⟩ := hT.consumer hk
    obtain ⟨j, hj⟩ := LiveMap.get_eq_some.mp hP
    obtain ⟨y, hy, hyo, hyk⟩ := hsrc.stored hj
    refine ⟨k, x, hx, hid, x, y, hx, ho, hc, hid ▸ hy, hyk, ?_⟩
    rw [hyo]
  · rw [hrest.handlers g] at hx
    cases hx

/-- At rest whatever the room forwards comes from an open producer of somebody else. -/
theorem Consuming.produced (h : Consuming uuid r (.new config (createRouter id caps)) s)
    (hrest : s.AtRest r) {k : ConsumerId} {kind : MediaKind} {remote : Sfu.RemoteClient}
    (hf : s.room.Forwards r false k kind remote) :
    ∃ x y, s.room.router.consumers[k]? = some x ∧ s.room.router.producers[x.producerId]? = some y ∧
      y.closed = false ∧ y.kind = kind ∧ (s.room.client y.owner).clientId = remote.clientId ∧
      remote.clientId ≠ (s.room.client r).clientId := by
  obtain ⟨rs, hl, -⟩ := h.run
  obtain ⟨x, y, hx, ho, hc, hy, hk, rfl⟩ := hf
  refine ⟨x, y, hx, hy, ?_, hk, rfl, ?_⟩
  · by_contra hyc
    have hgone : s.room.producerGone k = true := by
      simp only [Room.producerGone, hx, Option.any_some, hy]
      simpa using hyc
    exact Bool.false_ne_true (hc.symm.trans (hrest.gone k x hx hgone))
  · obtain ⟨-, y', hy', -, hne⟩ := (Room.sourced_of_run hl.run).consumer hx
    cases hy.symm.trans hy'
    rw [ho] at hne
    exact hne.symm

end Runs

end Session

/-! ### The page -/

namespace Conference

/-- The turns of the session. -/
def turns : Event → List Session.Event
  | .session e => [e]
  | .setMediaService | .effect => []

/-- The condition on the other clients and on `consume`. -/
def Delivers (s : Conference) : Event → Prop
  | .session e => s.session.Delivers e
  | .setMediaService | .effect => True

instance (s : Conference) : (e : Event) → Decidable (Delivers s e)
  | .session e => inferInstanceAs (Decidable (s.session.Delivers e))
  | .setMediaService | .effect => isTrue trivial

/-- The page shows what the others produce. -/
structure ShowsOthers (s : Conference) (r : ClientRef) : Prop where
  all : ∀ p P kind, s.room.Stored p → p ≠ r → (s.room.client p).producers.get P = some kind →
    ∃ n k x, s.session.source r n = some k ∧ s.room.router.consumers[k]? = some x ∧
      x.producerId = P ∧ ⟨n, kind⟩ ∈ s.provider.remoteClients.stream (s.room.client p).clientId
  only : ∀ track c, track ∈ s.provider.remoteClients.stream c →
    ∃ k x y, s.session.source r track.id = some k ∧ s.room.router.consumers[k]? = some x ∧
      s.room.router.producers[x.producerId]? = some y ∧ y.closed = false ∧ y.kind = track.kind ∧
      (s.room.client y.owner).clientId = c ∧ c ≠ (s.room.client r).clientId

section Runs

variable {uuid : Nat → RequestId} {r : ClientRef} {config : RoomConfig} {id : CallId}
  {caps : RtpCapabilities} {connection : ServerConnectionConfig} {s s' : Conference}
  {es : List Event}

/-- A turn of the conference is one of its session, or none. -/
theorem session_step (s : Conference) (e : Event) (s' : Conference)
    (he : s.step uuid r e = some s') :
    exec (Session.step uuid r) s.session (turns e) = some s'.session := by
  cases e with
  | session e =>
      obtain ⟨t, ht, rfl⟩ := Option.map_eq_some_iff.mp he
      exact exec_cons.mpr ⟨t, ht, rfl⟩
  | setMediaService =>
      obtain ⟨p, hp, rfl⟩ := Option.map_eq_some_iff.mp he
      simp only [MediaServiceProvider.step] at hp
      split at hp <;> cases hp
      rfl
  | effect =>
      obtain ⟨p, hp, rfl⟩ := Option.map_eq_some_iff.mp he
      simp only [MediaServiceProvider.step] at hp
      split at hp <;> cases hp
      rfl

theorem session_along {G : Session → Session.Event → Prop} {H : Conference → Event → Prop}
    (hGH : ∀ s e, H s (.session e) → G s.session e)
    (hx : exec (step uuid r) (new config id caps connection) es = some s)
    (hH : Along (step uuid r) H (new config id caps connection) es) :
    Along (Session.step uuid r) G (Session.new config id caps connection)
      (share (step uuid r) (fun _ => turns) (new config id caps connection) es) := by
  refine along_share session_step (fun s e s' _ h => ?_) hx hH
  cases e with
  | session e => exact ⟨hGH s e h, fun _ _ => trivial⟩
  | setMediaService | effect => exact trivial

theorem consuming_of_run (hu : uuid.Injective) (hc : ServerConnection.Unlimited connection)
    (hx : exec (step uuid r) (new config id caps connection) es = some s)
    (ho : Along (step uuid r) Orderly (new config id caps connection) es)
    (hd : Along (step uuid r) Delivers (new config id caps connection) es) :
    s.session.Consuming uuid r (.new config (createRouter id caps)) :=
  Session.consuming_of_run hu hc (exec_share session_step hx)
    (session_along (fun _ _ h => h) hx ho) (session_along (fun _ _ h => h) hx hd)

/-- **Everybody is on the page.**  Take a room and the page of its client `r`, in a run in which the
other clients join when they are ready, no `consume` of the room rejects, the handlers of the page
were registered before a call of `consume` resolved, and every withdrawal finds its consumer.  When
the room and the connection are at rest and the client is in the room and connected, the page has a
track for every producer of every other client that is in the room, and every track that it shows is
of an open producer of a client with another id. -/
theorem page_shows_others (hu : uuid.Injective) (hc : ServerConnection.Unlimited connection)
    (hx : exec (step uuid r) (new config id caps connection) es = some s)
    (ho : Along (step uuid r) Orderly (new config id caps connection) es)
    (ha : Along (step uuid r) (Attended r) (new config id caps connection) es)
    (hd : Along (step uuid r) Delivers (new config id caps connection) es)
    (hrest : s.session.AtRest r) (hconn : s.provider.service.connecting = .connected)
    (hr : s.room.Stored r) : s.ShowsOthers r := by
  have hj := joined_of_run hu hx ho ha
  have hcons := consuming_of_run hu hc hx ho hd
  have hopen : (s.room.client r).eventsClosed = false := by
    obtain ⟨rs, hl, -⟩ := hcons.run
    exact ((Room.tables_of_run hl.run).stored hr).2.2
  have hstreams := hj.streams hrest.settled hopen
  refine ⟨fun p P kind hp hne hP => ?_, fun track c ht => ?_⟩
  · obtain ⟨k, x, hx, hid, hf⟩ := hcons.forwards hrest hconn hr hp hne hP
    obtain ⟨n, hn, -⟩ := hj.plays.played.complete hrest.settled hopen _ _ _ _ _ hf
    exact ⟨n, k, x, hn, hx, hid, (hstreams ⟨n, kind⟩ _).mpr ⟨k, _, hn, hf⟩⟩
  · obtain ⟨k, u, hk, hf⟩ := (hstreams track c).mp ht
    obtain ⟨x, y, hx, hy, hyc, hyk, hyo, hne⟩ := hcons.produced hrest hf
    exact ⟨k, x, y, hk, hx, hy, hyc, hyk, hyo, hne⟩

end Runs

/-- The client `0` has left, and the client `2` is the only other one. -/
def everybody : List Event := meets ++ [.session (.room (.resumed 6))]

theorem page_shows_others_everybody :
    ∃ s, exec (step Nat.repr 1)
        (new ⟨"0.0.0.0", "127.0.0.1", "lobby"⟩ "call-1" "opus, VP8" ⟨-1, -1⟩) everybody = some s ∧
      s.provider.remoteClients.stream "c" = [⟨1, .video⟩] ∧ s.ShowsOthers 1 := by
  obtain ⟨s, hx, ht, hdelivered, hcalls, hbuffer, hreceived, hhandlers, hconsumers, hgone,
      hconn, hr⟩ : ∃ s, exec (step Nat.repr 1)
        (new ⟨"0.0.0.0", "127.0.0.1", "lobby"⟩ "call-1" "opus, VP8" ⟨-1, -1⟩) everybody = some s ∧
      s.provider.remoteClients.stream "c" = [⟨1, .video⟩] ∧
      s.session.delivered = (s.session.room.toClient 1).length ∧
      s.session.service.consuming = [none, none] ∧
      s.session.service.serverConnection.buffer = [] ∧
      s.session.received = s.session.service.serverConnection.sent.length ∧
      s.room.handlers = List.replicate 7 none ∧
      s.room.router.consumers = [⟨1, 2, 0, true⟩, ⟨1, 2, 1, false⟩] ∧
      s.room.producerGone 1 = false ∧
      s.provider.service.connecting = .connected ∧ s.room.Stored 1 :=
    ⟨_, rfl, rfl, rfl, rfl, rfl, rfl, rfl, rfl, rfl, rfl, rfl⟩
  have hrest : s.session.AtRest 1 := by
    refine ⟨⟨hdelivered, fun n o hn => ?_⟩, hbuffer, hreceived, fun h => ?_, fun k x hk hg => ?_⟩
    · have hmem := List.mem_of_getElem? (hcalls ▸ hn)
      simp at hmem
    · simp only [Room.suspended, session, hhandlers]
      cases hh : (List.replicate 7 (none : Option Handler))[h]? with
      | none => rfl
      | some x => rw [List.eq_of_mem_replicate (List.mem_of_getElem? hh)]; rfl
    · change s.room.router.consumers[k]? = some x at hk
      rw [hconsumers] at hk
      rcases k with _ | _ | k
      · cases hk
        rfl
      · exact absurd (hgone.symm.trans hg) Bool.false_ne_true
      · simp at hk
  exact ⟨s, hx, ht, page_shows_others Session.repr_injective ⟨by decide, by decide⟩ hx (by decide)
    (by decide) (by decide) hrest hconn hr⟩

end Conference

end DemoApp.Webapp
