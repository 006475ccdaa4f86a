import DemoApp.Sfu.Provenance
import DemoApp.Webapp.Joining
import DemoApp.Webapp.Playing
import DemoApp.Webapp.Session

/-!
# Webapp — Conference

The page of a participant against the room: a room, the websocket of its client `r`, the service at
the other end, and the component that shows what the service emits.

* `Session.media_played`: in every run the service emits the tracks of the consumers that the room
  has for its client, each once and under the ids of the client that produces for it; when nothing
  is on its way any more it has emitted all of them.
* `page_shows_room`: if the handlers were registered in time and a withdrawal finds its consumer,
  the page then shows the clients whose media the room forwards, with the tracks that it forwards.
-/

namespace DemoApp.Sfu.Room
open Machine

/-- The consumer `k` of the client `r`, which is closed or not, consumes media of this kind from the
client with these ids. -/
def Forwards (s : Room) (r : ClientRef) (closed : Bool) (k : ConsumerId) (kind : MediaKind)
    (remote : RemoteClient) : Prop :=
  ∃ x y, s.router.consumers[k]? = some x ∧ x.owner = r ∧ x.closed = closed ∧
    s.router.producers[x.producerId]? = some y ∧ y.kind = kind ∧
    remote = ⟨(s.client y.owner).userId, (s.client y.owner).clientId⟩

/-- What the clients were told, in the runs of a room by itself. -/
theorem told_of_steps {config : RoomConfig} {id : CallId} {caps : RtpCapabilities}
    {es : List Event} {s : Room}
    (hx : exec step (.new config (createRouter id caps)) es = some s) : s.Told := by
  refine exec_history (I := fun _ s => s.Told) (.new config id caps)
    (fun es s e s' hx h he => Told.survives.step h (fun g c p hg => ?_) he) hx
  obtain ⟨r, l, d, o, hs, rfl, -⟩ := pendingConsume_eq_some.mp hg
  exact ((tables_of_run hx).handler hs).2.2.1

end DemoApp.Sfu.Room

namespace DemoApp.Webapp
open Sfu Machine

namespace Session
open MediasoupService (adds announced_append)

variable {uuid : Nat → RequestId} {r : ClientRef} {config : RoomConfig} {id : CallId}
  {caps : RtpCapabilities} {connection : ServerConnectionConfig} {s s' : Session}
  {es : List Event}

/-- What the service has received. -/
def heard (s : Session) (r : ClientRef) : List ServerMessage := (s.room.toClient r).take s.delivered

/-- The consumer of the room that the track `n` is of. -/
def source (s : Session) (r : ClientRef) (n : TrackId) : Option ConsumerId :=
  (announcements (s.room.toClient r))[n]?.map Announcement.consumerId

/-- All that the room sent was delivered, and every call of `consume` has resolved. -/
structure Settled (s : Session) (r : ClientRef) : Prop where
  delivered : s.delivered = (s.room.toClient r).length
  quiet : s.service.Quiet

/-- What the service emitted, against the consumers that the room has for its client. -/
structure Played (s : Session) (r : ClientRef) : Prop where
  sound : ∀ track c u, .addedMediaConsumer track c u ∈ s.service.emitted →
    ∃ k b, s.source r track.id = some k ∧ s.room.Forwards r b k track.kind ⟨u, c⟩
  foreign : ∀ track c u, .addedMediaConsumer track c u ∈ s.service.emitted →
    c ≠ (s.room.client r).clientId
  once : ∀ n, s.service.emitted.countP (adds n) ≤ 1
  single : ∀ m n k, s.source r m = some k → s.source r n = some k → m = n
  removed : ∀ n, .removedMediaConsumer n ∈ s.service.emitted →
    ∃ k kind remote, s.source r n = some k ∧ s.room.Forwards r true k kind remote
  complete : s.Settled r → (s.room.client r).eventsClosed = false → ∀ b k kind c u,
    s.room.Forwards r b k kind ⟨u, c⟩ →
      ∃ n, s.source r n = some k ∧ .addedMediaConsumer ⟨n, kind⟩ c u ∈ s.service.emitted

/-- What the turn delivers. -/
def next (s : Session) (r : ClientRef) : Event → Option ServerMessage
  | .down => (s.room.toClient r)[s.delivered]?
  | _ => none

/-- A turn of the session is one of the service, which hears what is delivered, or leaves the
service alone. -/
theorem service_turn (hle : s.delivered ≤ (s.room.toClient r).length) {e : Event}
    (he : s.step uuid r e = some s') :
    (s'.service = s.service ∧ s'.heard r = s.heard r) ∨
      ∃ f, MediasoupService.Turn uuid s.service f s'.service ∧
        s'.heard r = s.heard r ++ f.delivers ∧
        ((e = .service f ∧ f.delivers = []) ∨
          ∃ m, e = .down ∧ f = .message m ∧ s.next r .down = some m) := by
  have room : ∀ {t : Room} {f : Room.Event}, s.room.step f = some t →
      (t.toClient r).take s.delivered = s.heard r := fun hf =>
    take_of_longer (Room.toClient_turn (Room.step_turn hf) r) hle
  cases e with
  | room f =>
      simp only [step] at he
      split at he
      · cases he
      · obtain ⟨t, ht, rfl⟩ := Option.map_eq_some_iff.mp he
        exact .inl ⟨rfl, room ht⟩
  | service f =>
      simp only [step] at he
      split at he
      · cases he
      · next hmes =>
          obtain ⟨t, ht, rfl⟩ := Option.map_eq_some_iff.mp he
          have hnone : f.delivers = [] := by
            cases f <;> first | rfl | exact absurd rfl hmes
          refine .inr ⟨f, MediasoupService.step_turn ht, ?_, .inl ⟨rfl, hnone⟩⟩
          rw [hnone, List.append_nil]
          rfl
  | up =>
      simp only [step, Option.bind_eq_bind, Option.bind_eq_some_iff, Option.some.injEq] at he
      obtain ⟨m, -, t, ht, rfl⟩ := he
      exact .inl ⟨rfl, room ht⟩
  | down =>
      simp only [step, Option.bind_eq_bind, Option.bind_eq_some_iff, Option.some.injEq] at he
      obtain ⟨m, hm, t, ht, rfl⟩ := he
      exact .inr ⟨.message m, MediasoupService.step_turn ht, take_succ_of_some hm,
        .inr ⟨m, rfl, rfl, hm⟩⟩

/-- The service has played what it has heard. -/
structure Plays (uuid : Nat → RequestId) (r : ClientRef) (room₀ : Room) (s : Session) : Prop where
  linked : ∃ rs, Linked uuid r room₀ s rs
  plays : s.service.Plays (s.heard r)

theorem plays_start : Plays uuid r (.new config (createRouter id caps))
    (new config id caps connection) :=
  ⟨⟨[], rfl, trivial, rfl, Nat.le_refl _, MediasoupService.connects_new uuid connection,
    Nat.le_refl _⟩, MediasoupService.plays_new connection⟩

theorem Plays.step (hu : uuid.Injective)
    (h : Plays uuid r (.new config (createRouter id caps)) s) {e : Event}
    (he : s.step uuid r e = some s') (ho : s.Orderly e) :
    Plays uuid r (.new config (createRouter id caps)) s' := by
  obtain ⟨⟨rs, hl⟩, hp⟩ := h
  obtain ⟨rs', hl'⟩ := hl.step hu he ho
  refine ⟨⟨rs', hl'⟩, ?_⟩
  rcases service_turn hl.delivered he with ⟨hs, hh⟩ | ⟨f, ht, hh, -⟩
  · rw [hs, hh]
    exact hp
  · rw [hh]
    exact hp.turn ht hl'.connects.accepted

theorem plays_of_run (hu : uuid.Injective)
    (hx : exec (step uuid r) (new config id caps connection) es = some s)
    (ho : Along (step uuid r) Orderly (new config id caps connection) es) :
    Plays uuid r (.new config (createRouter id caps)) s :=
  exec_invariant (fun _ _ _ h ho he => Plays.step hu h he ho) plays_start ho hx

/-! ### What the announcements say -/

/-- The room and what it told its client. -/
structure Speaks (room : Room) (r : ClientRef) : Prop where
  told : room.Told
  proper : ∀ m ∈ room.toClient r, room.Proper r m

theorem Plays.speaks (h : Plays uuid r (.new config (createRouter id caps)) s) :
    Speaks s.room r := by
  obtain ⟨⟨rs, hl⟩, -⟩ := h
  exact ⟨Room.told_of_steps hl.run, fun m hm =>
    (Room.proper_of_run hl.run (Room.mem_sentTo.mp hm)).2⟩

theorem Speaks.wellTold {room : Room} (h : Speaks room r) : WellTold (room.toClient r) :=
  ⟨h.told.once r, h.told.order r⟩

/-- An announcement is of a consumer of the client, and of a producer of another client. -/
theorem Speaks.forwards {room : Room} (h : Speaks room r) {n : Nat} {a : Announcement}
    (ha : (announcements (room.toClient r))[n]? = some a) :
    (∃ b, room.Forwards r b a.consumerId a.kind a.remoteClient) ∧
      a.remoteClient.clientId ≠ (room.client r).clientId := by
  obtain ⟨m, hm, hma⟩ := List.mem_filterMap.mp (List.mem_of_getElem? ha)
  have hproper := h.proper m hm
  cases m with
  | consumerCreatedNotification k p kind rtp remote =>
      cases hma
      obtain ⟨x, y, hx, ho, rfl, hy, hk, -, hr, hne⟩ := hproper
      exact ⟨⟨x.closed, x, y, hx, ho, rfl, hy, hk, hr⟩, hne⟩
  | _ => cases hma

/-- A consumer is forwarded from one client, and is closed or not. -/
theorem forwards_unique {room : Room} {b b' : Bool} {k : ConsumerId} {kind kind' : MediaKind}
    {remote remote' : Sfu.RemoteClient} (h : room.Forwards r b k kind remote)
    (h' : room.Forwards r b' k kind' remote') : b = b' ∧ kind = kind' ∧ remote = remote' := by
  obtain ⟨x, y, hx, -, rfl, hy, rfl, rfl⟩ := h
  obtain ⟨x', y', hx', -, rfl, hy', rfl, rfl⟩ := h'
  cases hx.symm.trans hx'
  cases hy.symm.trans hy'
  exact ⟨rfl, rfl, rfl⟩

/-- While the events of the client are open, every consumer that it has was announced, and it was
withdrawn if it is closed. -/
theorem Speaks.announced {room : Room} (h : Speaks room r)
    (hopen : (room.client r).eventsClosed = false) {b : Bool} {k : ConsumerId} {kind : MediaKind}
    {remote : Sfu.RemoteClient} (hf : room.Forwards r b k kind remote) :
    (∃ n : Nat, (announcements (room.toClient r))[n]? = some ⟨k, kind, remote⟩) ∧
      (b = true ↔ .consumerClosedNotification k ∈ room.toClient r) := by
  obtain ⟨x, y, hx, ho, hb, -⟩ := id hf
  obtain ⟨hann, hwith⟩ := h.told.told hopen hx ho
  obtain ⟨a, ha, hid⟩ := mem_announced.mp hann
  obtain ⟨n, hn⟩ := List.mem_iff_getElem?.mp ha
  obtain ⟨⟨b', hf'⟩, -⟩ := h.forwards hn
  obtain ⟨-, rfl, rfl⟩ := forwards_unique hf (hid ▸ hf')
  refine ⟨⟨n, hid ▸ hn⟩, ?_⟩
  rw [← hb, ← mem_withdrawn]
  constructor
  · exact hwith
  · intro hm
    obtain ⟨z, hz, hc⟩ := h.told.withdrawn (c := r) hm
    cases hx.symm.trans hz
    exact hc

/-- What was heard of the announcements is where it is among all of them. -/
theorem source_eq {n : Nat} {a : Announcement} (ha : (announcements (s.heard r))[n]? = some a) :
    (announcements (s.room.toClient r))[n]? = some a ∧ s.source r n = some a.consumerId := by
  have hall : (announcements (s.room.toClient r))[n]? = some a := by
    have := announced_append (E := (s.room.toClient r).drop s.delivered) ha
    rwa [heard, List.take_append_drop] at this
  exact ⟨hall, by rw [source, hall]; rfl⟩

theorem exists_of_source {n : Nat} {k : ConsumerId} (h : s.source r n = some k) :
    ∃ a, (announcements (s.room.toClient r))[n]? = some a ∧ a.consumerId = k :=
  Option.map_eq_some_iff.mp h

theorem Plays.played (h : Plays uuid r (.new config (createRouter id caps)) s) : s.Played r := by
  have hspeaks := h.speaks
  have hplays := h.plays
  refine ⟨fun track c u hm => ?_, fun track c u hm => ?_, hplays.once, fun m n k hm hn => ?_,
    fun n hn => ?_, fun hsettled hopen b k kind c u hf => ?_⟩
  · obtain ⟨-, k, hk⟩ := hplays.added.mp hm
    obtain ⟨hall, hsource⟩ := source_eq hk
    obtain ⟨⟨b, hf⟩, -⟩ := hspeaks.forwards hall
    exact ⟨k, b, hsource, hf⟩
  · obtain ⟨-, k, hk⟩ := hplays.added.mp hm
    exact (hspeaks.forwards (source_eq hk).1).2
  · obtain ⟨a, ha, rfl⟩ := exists_of_source hm
    obtain ⟨b, hb, hid⟩ := exists_of_source hn
    exact hspeaks.wellTold.unique ha hb hid.symm
  · obtain ⟨-, a, ha, hD⟩ := hplays.removed hn
    obtain ⟨hall, hsource⟩ := source_eq ha
    obtain ⟨⟨b, hf⟩, -⟩ := hspeaks.forwards hall
    obtain ⟨z, hz, hc⟩ := hspeaks.told.withdrawn (c := r)
      (mem_withdrawn.mpr (List.mem_of_mem_take hD))
    obtain ⟨x, y, hx, ho, -, hy⟩ := hf
    cases hx.symm.trans hz
    exact ⟨_, _, _, hsource, _, y, hz, ho, hc, hy⟩
  · obtain ⟨⟨n, hn⟩, -⟩ := hspeaks.announced hopen hf
    have hheard : s.heard r = s.room.toClient r := by
      rw [heard, hsettled.delivered, List.take_length]
    have hlt : n < s.service.consuming.length := by
      rw [hplays.calls, hheard]
      exact Cells.lt_of_some hn
    have hresolved : s.service.consuming[n]? = some none := by
      cases hc : s.service.consuming[n] with
      | none => exact List.getElem?_eq_some_iff.mpr ⟨hlt, hc⟩
      | some o => exact (hsettled.quiet n o (List.getElem?_eq_some_iff.mpr ⟨hlt, hc⟩)).elim
    exact ⟨n, by rw [source, hn]; rfl, hplays.added.mpr ⟨hresolved, k, hheard.symm ▸ hn⟩⟩

end Session

/-! ### The page -/

/-- A room and the page of its client `r`, with the websocket between them. -/
structure Conference where
  room : Room
  provider : MediaServiceProvider
  received : Nat := 0
  delivered : Nat := 0

namespace Conference

/-- The room and the service. -/
def session (s : Conference) : Session where
  room := s.room
  service := s.provider.service
  received := s.received
  delivered := s.delivered

inductive Event where
  /-- a turn of the room or of the service -/
  | session (e : Session.Event)
  /-- the callback of `mediaService.connect().then(…)` -/
  | setMediaService
  /-- the effect of `RemoteClients` runs with the service -/
  | effect

section Steps

variable (uuid : Nat → RequestId) (r : ClientRef)

/-- What the service emits in a turn of the session reaches the component. -/
def step (s : Conference) : Event → Option Conference
  | .session e => (s.session.step uuid r e).map fun t =>
      { room := t.room, provider := s.provider.emit t.service
        received := t.received, delivered := t.delivered }
  | .setMediaService =>
      (s.provider.step uuid .setMediaService).map fun provider => { s with provider }
  | .effect => (s.provider.step uuid .effect).map fun provider => { s with provider }

def new (room : RoomConfig) (id : CallId) (caps : RtpCapabilities)
    (connection : ServerConnectionConfig) : Conference where
  room := .new room (createRouter id caps)
  provider := .new connection

/-- The call of `consume` that resolves in a turn finds the handlers registered, and a withdrawal
finds the consumer that it withdraws. -/
def Attended (s : Conference) : Event → Prop
  | .session (.service e) => s.provider.Heard (.service e)
  | .session .down => (s.session.next r .down).all s.provider.service.finds = true
  | _ => True

instance (s : Conference) : (e : Event) → Decidable (Attended r s e)
  | .session (.service e) => inferInstanceAs (Decidable (s.provider.Heard (.service e)))
  | .session .down =>
      inferInstanceAs (Decidable ((s.session.next r .down).all s.provider.service.finds = true))
  | .session (.room _) | .session .up | .setMediaService | .effect => isTrue trivial

/-- The condition on the session. -/
def Orderly (s : Conference) : Event → Prop
  | .session e => s.session.Orderly e
  | .setMediaService | .effect => True

instance (s : Conference) : (e : Event) → Decidable (Orderly s e)
  | .session e => inferInstanceAs (Decidable (s.session.Orderly e))
  | .setMediaService | .effect => isTrue trivial

end Steps

/-- The page shows the clients whose media the room forwards, and in the stream of each the tracks
of the consumers that are open. -/
structure Shows (s : Conference) (r : ClientRef) : Prop where
  streams : ∀ track c, track ∈ s.provider.remoteClients.stream c ↔
    ∃ k u, s.session.source r track.id = some k ∧ s.room.Forwards r false k track.kind ⟨u, c⟩
  clients : ∀ c, c ∈ s.provider.remoteClients.clients.map RemoteClients.RemoteClient.clientId ↔
    ∃ k kind u, s.room.Forwards r false k kind ⟨u, c⟩
  distinct : (s.provider.remoteClients.clients.map RemoteClients.RemoteClient.clientId).Nodup

/-- What a turn of the service emits. -/
inductive Emits (s : MediasoupService) : MediasoupService.Event → List MediaServiceEvent → Prop
  | nothing {e : MediasoupService.Event} : Emits s e []
  | added {n : Nat} {o : ConsumeOptions} (hn : s.consuming[n]? = some (some o)) :
      Emits s (.consumed n)
        [.addedMediaConsumer ⟨n, o.kind⟩ o.appData.clientId o.appData.userId]
  | removed {e : MediasoupService.Event} {k : ConsumerId} {c : Consumer}
      (hk : s.consumers.get k = some c) : Emits s e [.removedMediaConsumer c.track.id]

theorem emits_turn {uuid : Nat → RequestId} {s s' : MediasoupService} {e : MediasoupService.Event}
    (ht : MediasoupService.Turn uuid s e s') :
    ∃ l, s'.emitted = s.emitted ++ l ∧ Emits s e l := by
  have nothing : ∀ {t : MediasoupService}, t.emitted = s.emitted →
      ∃ l, t.emitted = s.emitted ++ l ∧ Emits s e l := fun h =>
    ⟨[], h.trans (List.append_nil _).symm, .nothing⟩
  cases ht with
  | connect | opened | tick | elapsed | server | capabilities | loaded | transportCreated | joined
  | incapable | transportFailed | transports | transportConnect | produce | consumerClosed =>
      exact nothing rfl
  | consumed hn => exact ⟨_, rfl, .added hn⟩
  | @message m =>
      cases m with
      | consumerCreatedNotification k p kind rtp c =>
          refine nothing ?_
          simp only [MediasoupService.onmessage, MediasoupService.consumerCreated]
          split <;> rfl
      | consumerClosedNotification k =>
          cases hk : s.consumers.get k with
          | none =>
              refine nothing ?_
              simp only [MediasoupService.onmessage, MediasoupService.consumerClosed, hk]
          | some c =>
              refine ⟨_, ?_, .removed hk⟩
              simp only [MediasoupService.onmessage, MediasoupService.consumerClosed, hk,
                MediasoupService._emit]
      | _ => exact nothing rfl

section Runs

variable {uuid : Nat → RequestId} {r : ClientRef} {config : RoomConfig} {id : CallId}
  {caps : RtpCapabilities} {connection : ServerConnectionConfig} {s s' : Conference}
  {es : List Event}

/-- The component has received what was emitted, and it was there in time. -/
def Page (remoteClients : RemoteClients) (emitted : List MediaServiceEvent) : Prop :=
  match remoteClients.listener with
  | none   => remoteClients = {} ∧ emitted = []
  | some _ => exec RemoteClients.step (RemoteClients.register {}) emitted = some remoteClients

/-- The session, the withdrawals and the page. -/
structure Joined (uuid : Nat → RequestId) (r : ClientRef) (room₀ : Room) (s : Conference) :
    Prop where
  plays : Session.Plays uuid r room₀ s.session
  withdraws : s.provider.service.Withdraws (s.session.heard r)
  page : Page s.provider.remoteClients s.provider.service.emitted

/-- The handlers were called with everything. -/
theorem received_of_run {emitted : List MediaServiceEvent} {page : RemoteClients}
    (hx : exec RemoteClients.step (RemoteClients.register {}) emitted = some page) :
    page.received = emitted := by
  refine exec_history (I := fun es (p : RemoteClients) => p.received = es) rfl
    (fun es p e p' hx ih he => ?_) hx
  have h : p.Tidy [] := RemoteClients.tidy_of_run hx
  obtain ⟨-, rfl⟩ := RemoteClients.step_eq_some he
  cases e with
  | addedMediaConsumer track c u =>
      rw [RemoteClients.handle_added h.listener, ih]
  | removedMediaConsumer n =>
      rw [h.handle_removed, ih]

theorem joined_new : Joined uuid r (.new config (createRouter id caps))
    (new config id caps connection) :=
  ⟨Session.plays_start, MediasoupService.withdraws_new connection, rfl, rfl⟩

/-- The component handles what is emitted, if it is there. -/
theorem Joined.emitted (h : Joined uuid r (.new config (createRouter id caps)) s)
    {e : MediasoupService.Event} {l : List MediaServiceEvent} (hl : Emits s.provider.service e l)
    (ha : s.provider.Heard (.service e)) :
    Page (l.foldl RemoteClients.handle s.provider.remoteClients)
      (s.provider.service.emitted ++ l) := by
  have hplays : s.provider.service.Plays (s.session.heard r) := h.plays.plays
  have hpage := h.page
  -- an event that follows the others is handled
  have handled : ∀ {x : MediaServiceEvent}, s.provider.remoteClients.listener.isSome = true →
      (∀ y ∈ s.provider.service.emitted, RemoteClients.sameTrack y x = true) →
        Page (s.provider.remoteClients.handle x) (s.provider.service.emitted ++ [x]) := by
    intro x hsome hsame
    obtain ⟨seen, hseen⟩ := Option.isSome_iff_exists.mp hsome
    simp only [Page, hseen] at hpage
    have hstep : exec RemoteClients.step (RemoteClients.register {})
        (s.provider.service.emitted ++ [x]) = some (s.provider.remoteClients.handle x) := by
      refine exec_snoc.mpr ⟨_, hpage, ?_⟩
      rw [RemoteClients.step, if_pos]
      rw [received_of_run hpage]
      exact List.all_eq_true.mpr hsame
    simpa only [Page, (RemoteClients.tidy_of_run hstep).listener] using hstep
  cases hl with
  | nothing =>
      rw [List.append_nil]
      exact hpage
  | @added n o hn =>
      rw [List.foldl_cons, List.foldl_nil]
      refine handled (ha rfl) fun y hy => ?_
      cases y with
      | removedMediaConsumer => rfl
      | addedMediaConsumer track c u =>
          -- the call had not resolved
          have hne : track.id ≠ n := by
            rintro rfl
            have hresolved := (hplays.added.mp hy).1
            rw [hn] at hresolved
            cases hresolved
          simp [RemoteClients.sameTrack, hne]
  | @removed _ k c hk =>
      obtain ⟨hc, a, ha', -⟩ := hplays.known hk
      rw [List.foldl_cons, List.foldl_nil]
      refine handled ?_ fun y _ => by cases y <;> rfl
      -- the track was added, so the handlers are there
      cases hlis : s.provider.remoteClients.listener with
      | some => rfl
      | none =>
          simp only [Page, hlis] at hpage
          have hadded : .addedMediaConsumer ⟨c.track.id, a.kind⟩ a.remoteClient.clientId
              a.remoteClient.userId ∈ s.provider.service.emitted :=
            hplays.added.mpr ⟨hc, a.consumerId, ha'⟩
          rw [hpage.2] at hadded
          cases hadded

theorem Joined.step (hu : uuid.Injective)
    (h : Joined uuid r (.new config (createRouter id caps)) s) {e : Event}
    (he : s.step uuid r e = some s') (ho : s.Orderly e) (ha : s.Attended r e) :
    Joined uuid r (.new config (createRouter id caps)) s' := by
  cases e with
  | session e =>
      obtain ⟨t, ht, rfl⟩ := Option.map_eq_some_iff.mp he
      have hplays := h.plays.step hu ht ho
      refine ⟨hplays, ?_, ?_⟩
      · obtain ⟨⟨rs, hl⟩, hp⟩ := h.plays
        rcases Session.service_turn hl.delivered ht with ⟨hs, hh⟩ | ⟨f, hturn, hh, hf⟩
        · change t.service.Withdraws (t.heard r)
          rw [hs, hh]
          exact h.withdraws
        · change t.service.Withdraws (t.heard r)
          rw [hh]
          have htold : WellTold (s.session.heard r ++ f.delivers) := by
            rw [← hh]
            exact hplays.speaks.wellTold.of_prefix (List.take_prefix _ _)
          refine h.withdraws.turn hp hturn htold fun m hm => ?_
          rcases hf with ⟨-, hnone⟩ | ⟨m', rfl, rfl, hnext⟩
          · rw [hnone] at hm
            cases hm
          · obtain rfl := List.mem_singleton.mp hm
            simpa [Attended, hnext] using ha
      · obtain ⟨⟨rs, hl⟩, -⟩ := h.plays
        change Page (s.provider.emit t.service).remoteClients t.service.emitted
        rcases Session.service_turn hl.delivered ht with ⟨hs, -⟩ | ⟨f, hturn, -, hf⟩
        · have hemit : (s.provider.emit t.service).remoteClients = s.provider.remoteClients := by
            rw [hs]
            simp [MediaServiceProvider.emit, session]
          rw [hemit, hs]
          exact h.page
        · obtain ⟨l, hemitted, hemits⟩ := emits_turn hturn
          have hemit : (s.provider.emit t.service).remoteClients =
              l.foldl RemoteClients.handle s.provider.remoteClients := by
            have hlen : s.session.service.emitted = s.provider.service.emitted := rfl
            simp [MediaServiceProvider.emit, hemitted, hlen]
          rw [hemit, hemitted]
          refine h.emitted hemits fun hres => ?_
          rcases hf with ⟨rfl, -⟩ | ⟨m, -, rfl, -⟩
          · exact ha hres
          · cases hres
  | setMediaService =>
      obtain ⟨p, hp, rfl⟩ := Option.map_eq_some_iff.mp he
      simp only [MediaServiceProvider.step] at hp
      split at hp <;> cases hp
      exact ⟨h.plays, h.withdraws, h.page⟩
  | effect =>
      obtain ⟨p, hp, rfl⟩ := Option.map_eq_some_iff.mp he
      simp only [MediaServiceProvider.step] at hp
      split at hp
      · next hcond =>
          cases hp
          have hlis : s.provider.remoteClients.listener = none := by
            simp only [Bool.and_eq_true, Option.isNone_iff_eq_none] at hcond
            exact hcond.2
          have hpage := h.page
          simp only [Page, hlis] at hpage
          obtain ⟨hempty, hemitted⟩ := hpage
          refine ⟨h.plays, h.withdraws, ?_⟩
          change Page s.provider.remoteClients.register s.provider.service.emitted
          rw [hempty, hemitted]
          rfl
      · cases hp

theorem joined_of_run (hu : uuid.Injective)
    (hx : exec (step uuid r) (new config id caps connection) es = some s)
    (ho : Along (step uuid r) Orderly (new config id caps connection) es)
    (ha : Along (step uuid r) (Attended r) (new config id caps connection) es) :
    Joined uuid r (.new config (createRouter id caps)) s :=
  exec_invariant (fun _ _ _ h hc he => Joined.step hu h he hc.1 hc.2) joined_new (ho.and ha) hx

/-- The page shows the tracks that are live, and the clients that have one. -/
theorem Page.shows {page : RemoteClients} {emitted : List MediaServiceEvent}
    (h : Page page emitted) :
    (∀ track c, track ∈ page.stream c ↔ RemoteClients.Live emitted track c) ∧
      (∀ c, c ∈ page.clients.map RemoteClients.RemoteClient.clientId ↔
        ∃ track, track ∈ page.stream c) ∧
      (page.clients.map RemoteClients.RemoteClient.clientId).Nodup := by
  cases hl : page.listener with
  | none =>
      simp only [Page, hl] at h
      obtain ⟨rfl, rfl⟩ := h
      refine ⟨fun track c => iff_of_false ?_ RemoteClients.live_nil, fun c => ?_, List.nodup_nil⟩
      · simp [RemoteClients.stream]
      · simp [RemoteClients.stream]
  | some seen =>
      simp only [Page, hl] at h
      have htidy : page.Tidy [] := RemoteClients.tidy_of_run h
      refine ⟨RemoteClients.mem_stream_iff h, fun c => ?_, htidy.distinct⟩
      rw [htidy.stored, htidy.playing]
      simp only [List.map_nil, List.not_mem_nil, not_false_eq_true, and_true]
      constructor
      · exact List.exists_mem_of_ne_nil _
      · rintro ⟨track, ht⟩
        exact List.ne_nil_of_mem ht

/-- When nothing is on its way, a track is shown if and only if its consumer is open. -/
theorem Joined.streams (h : Joined uuid r (.new config (createRouter id caps)) s)
    (hs : s.session.Settled r) (hopen : (s.room.client r).eventsClosed = false) (track : Track)
    (c : ClientId) : track ∈ s.provider.remoteClients.stream c ↔ ∃ k u,
      s.session.source r track.id = some k ∧ s.room.Forwards r false k track.kind ⟨u, c⟩ := by
  have hspeaks : Session.Speaks s.room r := h.plays.speaks
  have hplayed : s.session.Played r := h.plays.played
  have hplays : s.provider.service.Plays (s.session.heard r) := h.plays.plays
  have hheard : s.session.heard r = s.room.toClient r := by
    rw [Session.heard, hs.delivered]
    exact List.take_length
  rw [h.page.shows.1, hplays.live]
  constructor
  · rintro ⟨⟨u, hadded⟩, hnot⟩
    obtain ⟨k, b, hsource, hf⟩ := hplayed.sound track c u hadded
    refine ⟨k, u, hsource, ?_⟩
    -- the consumer is open, or it was withdrawn and the track removed
    cases b with
    | false => exact hf
    | true =>
        obtain ⟨a, ha, hid⟩ := Session.exists_of_source hsource
        have hclosed := (hspeaks.announced hopen hf).2.mp rfl
        refine absurd (h.withdraws track.id a ?_ ?_) hnot
        · rw [hheard]
          exact ha
        · rw [hheard, hid]
          exact hclosed
  · rintro ⟨k, u, hsource, hf⟩
    obtain ⟨n, hn, hadded⟩ := hplayed.complete hs hopen _ _ _ _ _ hf
    obtain rfl := hplayed.single _ _ _ hsource hn
    refine ⟨⟨u, hadded⟩, fun hremoved => ?_⟩
    obtain ⟨k', kind', remote, hk', hf'⟩ := hplayed.removed _ hremoved
    cases hsource.symm.trans hk'
    exact absurd (Session.forwards_unique hf hf').1 Bool.false_ne_true

end Runs

/-- The client `1` joins the client `0`; the client `2` comes and produces, and the client `0`
leaves. -/
def meets : List Event :=
  Session.pushed.map .session ++
    [.session (.room (.resumed 3)), .session .up, .session (.room (.resumed 4)), .session .down,
      .session (.service .continued), .setMediaService, .effect, .session (.service (.consumed 0)),
      .session (.room (.add { clientId := "c", userId := "w" })),
      .session (.room (.message 2 (.createTransportRequest "1" .producing))),
      .session (.room (.transportCreated 5 ⟨"ice", [], "dtls"⟩)),
      .session (.room (.message 2 (.createProducerRequest "2" .video "VP8" "w"))),
      .session (.room (.produced 6)), .session (.room (.resumed 6)),
      .session (.room (.consumed 6 "VP8")), .session .down, .session (.service (.consumed 1)),
      .session (.room (.socketClosed 0)), .session (.room (.consumerClosed 0)), .session .down]

end Conference

end DemoApp.Webapp
