import DemoApp.Webapp.Connect

/-!
# Webapp — Session

A client's `MediasoupService` and the room it is in, with the websocket between them: what one side
hands over reaches the other in order.

* `no_notification_rejected`: no `ConsumerCreatedNotification` reaches the client while its
  `_rcvTransport` is unset, whatever the other clients of the room do, if `createWebRtcTransport`
  resolves in the order of its calls and what is due in the client runs before the next message.
-/

namespace DemoApp.Webapp
open Sfu Machine

/-- A room and the service of its client `r`.  `received` counts the messages of the service that
reached the room, and `delivered` the messages of the room that reached the service. -/
structure Session where
  room : Room
  service : MediasoupService
  received : Nat := 0
  delivered : Nat := 0

namespace Session

inductive Event where
  /-- a turn of the room, but for a message of the client -/
  | room (e : Room.Event)
  /-- a turn of the service, but for a message of the room -/
  | service (e : MediasoupService.Event)
  /-- the room receives the client's next message -/
  | up
  /-- the service receives the room's next message -/
  | down

section Steps

variable (uuid : Nat → RequestId) (r : ClientRef)

/-- One turn of either side. -/
def step (s : Session) : Event → Option Session
  | .room e =>
      if (Room.messageOf r e).isSome then none
      else (s.room.step e).map fun room => { s with room }
  | .service e =>
      if e.isMessage then none
      else (s.service.step uuid e).map fun service => { s with service }
  | .up => do
      let m ← s.service.serverConnection.sent[s.received]?
      let room ← s.room.step (.message r m)
      some { s with room, received := s.received + 1 }
  | .down => do
      let m ← (s.room.toClient r)[s.delivered]?
      let service ← s.service.step uuid (.message m)
      some { s with service, delivered := s.delivered + 1 }

/-- A client and a room that have not heard of one another. -/
def new (room : RoomConfig) (id : CallId) (caps : RtpCapabilities)
    (connection : ServerConnectionConfig) : Session where
  room := .new room (createRouter id caps)
  service := .new connection

/-- mediasoup creates the transports of the router in order, and the client receives nothing while
a continuation is due. -/
def Orderly (s : Session) : Event → Prop
  | .room e => s.room.InOrder e
  | .down   => s.service.due = false
  | .service _ | .up => True

instance (s : Session) : (e : Event) → Decidable (Orderly s e)
  | .room e => inferInstanceAs (Decidable (s.room.InOrder e))
  | .down   => inferInstanceAs (Decidable (s.service.due = false))
  | .service _ | .up => isTrue trivial

end Steps

/-- What a turn of either side can do. -/
inductive Turn (uuid : Nat → RequestId) (r : ClientRef) (s : Session) : Event → Session → Prop
  | room {e : Room.Event} {room : Room} (hm : Room.messageOf r e = none)
      (hr : s.room.step e = some room) : Turn uuid r s (.room e) { s with room }
  | service {e : MediasoupService.Event} {service : MediasoupService} (hm : e.isMessage = false)
      (hs : s.service.step uuid e = some service) : Turn uuid r s (.service e) { s with service }
  | up {m : ClientMessage} {room : Room}
      (hm : s.service.serverConnection.sent[s.received]? = some m)
      (hr : s.room.step (.message r m) = some room) :
      Turn uuid r s .up { s with room, received := s.received + 1 }
  | down {m : ServerMessage} (hm : (s.room.toClient r)[s.delivered]? = some m)
      (hw : s.service.serverConnection.ws = true) :
      Turn uuid r s .down { s with service := s.service.onmessage m, delivered := s.delivered + 1 }

theorem step_turn {uuid : Nat → RequestId} {r : ClientRef} {s s' : Session} {e : Event}
    (he : s.step uuid r e = some s') : Turn uuid r s e s' := by
  cases e with
  | room e =>
      simp only [step] at he
      split at he
      · cases he
      · next hm =>
          obtain ⟨room, hr, rfl⟩ := Option.map_eq_some_iff.mp he
          exact .room (by simpa using hm) hr
  | service e =>
      simp only [step] at he
      split at he
      · cases he
      · next hm =>
          obtain ⟨service, hs, rfl⟩ := Option.map_eq_some_iff.mp he
          exact .service (by simpa using hm) hs
  | up =>
      simp only [step, Option.bind_eq_bind, Option.bind_eq_some_iff, Option.some.injEq] at he
      obtain ⟨m, hm, room, hr, rfl⟩ := he
      exact .up hm hr
  | down =>
      simp only [step, Option.bind_eq_bind, Option.bind_eq_some_iff, Option.some.injEq] at he
      obtain ⟨m, hm, service, hs, rfl⟩ := he
      simp only [MediasoupService.step] at hs
      split at hs
      · next hw => cases hs; exact .down hm hw
      · cases hs

/-! ### What reaches the other side -/

/-- The next element of a list goes behind those before it. -/
theorem take_succ_of_some {α : Type*} {l : List α} {n : Nat} {x : α} (h : l[n]? = some x) :
    l.take (n + 1) = l.take n ++ [x] := by
  rw [List.take_add_one, h]
  rfl

theorem split_of_some {α : Type*} {l : List α} {n : Nat} {x : α} (h : l[n]? = some x) :
    l = l.take n ++ x :: l.drop (n + 1) := by
  obtain ⟨hlt, rfl⟩ := List.getElem?_eq_some_iff.mp h
  rw [← List.drop_eq_getElem_cons hlt, List.take_append_drop]

theorem take_of_longer {α : Type*} {l l' : List α} (h : l <+: l') {n : Nat} (hn : n ≤ l.length) :
    l'.take n = l.take n := by
  obtain ⟨t, rfl⟩ := h
  exact List.take_append_of_le_length hn

/-- What the service handed over stays handed over. -/
theorem sent_turn {uuid : Nat → RequestId} {s s' : MediasoupService} {e : MediasoupService.Event}
    (ht : MediasoupService.Turn uuid s e s') :
    s.serverConnection.sent <+: s'.serverConnection.sent := by
  have sends : ∀ (c : ServerConnection) m, c.sent <+: (c.sendMessage m).sent := fun c m => by
    rcases c.sendMessage_cases m with ⟨-, e⟩ | ⟨-, _, _, _, e, -⟩
    · exact e ▸ List.prefix_append _ _
    · exact e ▸ List.prefix_rfl
  have requests : ∀ (c : ServerConnection) q m, c.sent <+: (c.request q m).sent :=
    fun c q m => sends { c with
      requests := c.requests.set q c.promises.length
      promises := c.promises ++ [none] } m
  cases ht with
  | tick =>
      rcases s.serverConnection.tick_cases with e | ⟨l, -, e⟩
      · exact (congrArg ServerConnection.sent e).symm ▸ List.prefix_rfl
      · exact (congrArg ServerConnection.sent e).symm ▸ List.prefix_append _ _
  | @message m =>
      rw [MediasoupService.serverConnection_onmessage, ServerConnection.resolveRequest]
      split <;> exact List.prefix_rfl
  | loaded => exact (sends _ _).trans ((requests _ _ _).trans (requests _ _ _))
  | server | transports | transportConnect | produce => exact requests _ _ _
  | connect | opened | elapsed | capabilities | transportCreated | joined | incapable
  | transportFailed | consumed | consumerClosed => exact List.prefix_rfl

/-- The room and the service are in runs of their own, and what one received is what the other sent,
as far as it came. -/
structure Linked (uuid : Nat → RequestId) (r : ClientRef) (room₀ : Room) (s : Session)
    (es : List Room.Event) : Prop where
  run : exec Room.step room₀ es = some s.room
  inOrder : Along Room.step Room.InOrder room₀ es
  received : es.filterMap (Room.messageOf r) =
    s.service.serverConnection.sent.take s.received
  sent : s.received ≤ s.service.serverConnection.sent.length
  connects : s.service.Connects uuid ((s.room.toClient r).take s.delivered)
  delivered : s.delivered ≤ (s.room.toClient r).length

section Runs

variable {uuid : Nat → RequestId} {r : ClientRef} {config : RoomConfig} {id : CallId}
  {caps : RtpCapabilities} {connection : ServerConnectionConfig} {s s' : Session}
  {es : List Room.Event}

/-- A response that the room sent answers a message that it received. -/
theorem Linked.asked (h : Linked uuid r (.new config (createRouter id caps)) s es)
    {m : ServerMessage} (hm : m ∈ s.room.toClient r) {b : Answer} (hb : m.answer = some b) :
    AskedFor s.service.serverConnection.sent b := by
  have hmem : (r, b) ∈ Room.answers s.room.sent :=
    List.mem_filterMap.mpr ⟨(r, m), Room.mem_sentTo.mp hm, by simp [hb]⟩
  obtain ⟨earlier, c, later, t, rfl, -, hc⟩ := Room.answers_caused rfl
    (fun g => Room.owes_none (by simp [Room.suspended, Room.new])) h.run _ hmem
  obtain ⟨-, a, ha, hf⟩ := Room.caused_owed hc
  refine ⟨c, List.mem_of_mem_take (i := s.received) ?_, a, ha, hf⟩
  rw [← h.received]
  exact List.mem_filterMap.mpr ⟨_, List.mem_append_right _ List.mem_cons_self, if_pos rfl⟩

/-- The next message of the room, if it announces a consumer, comes after both transports. -/
theorem Linked.preceded (h : Linked uuid r (.new config (createRouter id caps)) s es) :
    Preceded (uuid 1) (s.room.toClient r) ∧ Preceded (uuid 2) (s.room.toClient r) := by
  refine Room.notified_after_transports h.run h.inOrder (List.IsPrefix.trans ?_
    (planned_early uuid s.service.uuids))
  rw [← h.connects.requests.sent, Room.transportRequests, h.received]
  exact (List.take_prefix _ _).filterMap _

/-- The room takes a turn. -/
theorem Linked.room {room₀ : Room} (h : Linked uuid r room₀ s es) {e : Room.Event} {room : Room}
    (he : s.room.step e = some room) (ho : s.room.InOrder e) {n : Nat}
    (hn : es.filterMap (Room.messageOf r) ++ (Room.messageOf r e).toList =
      s.service.serverConnection.sent.take n) (hlt : n ≤ s.service.serverConnection.sent.length) :
    Linked uuid r room₀ { s with room, received := n } (es ++ [e]) := by
  have hto := Room.toClient_turn (Room.step_turn he) r
  refine ⟨exec_snoc.mpr ⟨s.room, h.run, he⟩, (along_snoc h.run).mpr ⟨h.inOrder, ho⟩, ?_, hlt, ?_,
    Nat.le_trans h.delivered hto.length_le⟩
  · rw [← hn, List.filterMap_append]
    cases hm : Room.messageOf r e <;> simp [hm]
  · rw [show (room.toClient r).take s.delivered = _ from take_of_longer hto h.delivered]
    exact h.connects

/-- **One turn of either side.** -/
theorem Linked.step (hu : uuid.Injective)
    (h : Linked uuid r (.new config (createRouter id caps)) s es) {e : Event}
    (he : s.step uuid r e = some s') (ho : s.Orderly e) :
    ∃ es', Linked uuid r (.new config (createRouter id caps)) s' es' := by
  cases e with
  | room e =>
      simp only [Session.step] at he
      split at he
      · cases he
      · next hnone =>
          obtain ⟨room, hr, rfl⟩ := Option.map_eq_some_iff.mp he
          have hm : Room.messageOf r e = none := by simpa using hnone
          exact ⟨_, h.room hr ho (by rw [hm, Option.toList_none, List.append_nil, h.received])
            h.sent⟩
  | service e =>
      simp only [Session.step] at he
      split at he
      · cases he
      · next hmes =>
          obtain ⟨service, hs, rfl⟩ := Option.map_eq_some_iff.mp he
          have ht := MediasoupService.step_turn hs
          have hsent := sent_turn ht
          exact ⟨es, h.run, h.inOrder, h.received.trans (take_of_longer hsent h.sent).symm,
            Nat.le_trans h.sent hsent.length_le, h.connects.turn hu ht (by simpa using hmes),
            h.delivered⟩
  | up =>
      simp only [Session.step, Option.bind_eq_bind, Option.bind_eq_some_iff,
        Option.some.injEq] at he
      obtain ⟨m, hm, room, hr, rfl⟩ := he
      refine ⟨_, h.room hr trivial ?_ (Cells.lt_of_some hm)⟩
      rw [take_succ_of_some hm, ← h.received]
      simp [Room.messageOf]
  | down =>
      simp only [Session.step, Option.bind_eq_bind, Option.bind_eq_some_iff,
        Option.some.injEq] at he
      obtain ⟨m, hm, service, hs, rfl⟩ := he
      have hsent := sent_turn (MediasoupService.step_turn hs)
      simp only [MediasoupService.step] at hs
      split at hs
      · next hw =>
          cases hs
          refine ⟨es, h.run, h.inOrder, h.received.trans (take_of_longer hsent h.sent).symm,
            Nat.le_trans h.sent hsent.length_le, ?_, Cells.lt_of_some hm⟩
          rw [take_succ_of_some hm]
          refine h.connects.message hu hw ho
            (fun b hb => h.asked (List.mem_of_getElem? hm) hb) fun k p kind rtp c hk => ?_
          have hsplit : s.room.toClient r = (s.room.toClient r).take s.delivered ++
              .consumerCreatedNotification k p kind rtp c ::
                (s.room.toClient r).drop (s.delivered + 1) := hk ▸ split_of_some hm
          exact ⟨h.preceded.1 _ _ _ _ _ _ _ hsplit, h.preceded.2 _ _ _ _ _ _ _ hsplit⟩
      · cases hs

/-- **No notification precedes the receiving transport.**  In every run of a room and one client's
`connect`, with any other clients and in any order of their handlers, the client turns no
`ConsumerCreatedNotification` away. -/
theorem no_notification_rejected {es : List Event} (hu : uuid.Injective)
    (hx : exec (step uuid r) (new config id caps connection) es = some s)
    (ho : Along (step uuid r) Orderly (new config id caps connection) es) :
    s.service.rejected = [] := by
  have h : ∃ rs, Linked uuid r (.new config (createRouter id caps)) s rs := by
    refine exec_invariant (I := fun s =>
      ∃ rs, Linked uuid r (.new config (createRouter id caps)) s rs) ?_ ?_ ho hx
    · rintro s e s' ⟨rs, h⟩ ho he
      exact h.step hu he ho
    · exact ⟨[], rfl, trivial, rfl, Nat.le_refl _,
        MediasoupService.connects_new uuid connection, Nat.le_refl _⟩
  obtain ⟨rs, h⟩ := h
  exact h.connects.accepted

end Runs

/-- The client `1` connects.  The client `0` produces as soon as the room has created both
transports of the client `1`, before either response is delivered. -/
def pushed : List Event :=
  [.room (.add { clientId := "a", userId := "u" }),
    .room (.message 0 (.createTransportRequest "1" .producing)),
    .room (.transportCreated 0 ⟨"ice", [], "dtls"⟩),
    .room (.add { clientId := "b", userId := "v" }),
    .service .connect, .service .continued, .service .opened, .service .tick, .up, .down,
    .service .continued, .service (.loaded "opus"), .up, .up, .up,
    .room (.transportCreated 1 ⟨"ice", [], "dtls"⟩),
    .room (.transportCreated 2 ⟨"ice", [], "dtls"⟩),
    .room (.message 0 (.createProducerRequest "2" .audio "opus" "u")), .room (.produced 3),
    .room (.consumed 3 "opus"),
    .down, .service (.transportCreated .producing), .down, .service (.transportCreated .consuming),
    .service .continued, .down]

theorem repr_injective : Function.Injective Nat.repr := fun m n h => by
  have hd := congrArg (fun s : String => Nat.ofDigitChars 10 s.toList 0) h
  simpa [Nat.repr] using hd

/-- The notification of the consumer is delivered last, and starts to consume. -/
theorem no_notification_rejected_pushed :
    ∃ s, exec (step Nat.repr 1)
        (new ⟨"0.0.0.0", "127.0.0.1", "lobby"⟩ "call-1" "opus, VP8" ⟨-1, -1⟩) pushed = some s ∧
      s.service.rejected = [] ∧ s.service.consuming.length = 1 := by
  obtain ⟨s, hx, hc⟩ : ∃ s, exec (step Nat.repr 1)
      (new ⟨"0.0.0.0", "127.0.0.1", "lobby"⟩ "call-1" "opus, VP8" ⟨-1, -1⟩) pushed = some s ∧
      s.service.consuming.length = 1 := ⟨_, rfl, rfl⟩
  exact ⟨s, hx, no_notification_rejected repr_injective hx (by decide), hc⟩

end Session

end DemoApp.Webapp
