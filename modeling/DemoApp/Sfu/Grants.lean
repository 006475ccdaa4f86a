import DemoApp.Sfu.TransportOrder
import DemoApp.Sfu.Transports
import DemoApp.Sfu.Provenance

/-!
# Sfu — Grants

What a client is told of its transports and producers, against what the room made for it.

* `grant_back`: a `CreateTransportResponse` and a `CreateProducerResponse` are sent when the object
  is made that they name.
* `granted_of_run`: a client is told of a transport in the response to a request for its role, and
  only a client that asked for it has a producer.
* `toldProducers_of_run`: a client is told of a producer in the response to the one request that it
  was made for.
-/

namespace DemoApp.Sfu.Room
open Machine

/-- The message names an object that was made for the client it is sent to. -/
def grants : ServerMessage → Bool
  | .createTransportResponse _ _ _ | .createProducerResponse _ _ => true
  | _ => false

/-- What a turn grants. -/
inductive Grant (s : Room) : Event → ClientRef → ServerMessage → Prop
  | transport {h : HandlerRef} {r : ClientRef} {q : RequestId} {role : Role} {info : TransportInfo}
      (hc : s.Creates r h q role) : Grant s (.transportCreated h info) r
        (.createTransportResponse q s.router.transports.length info)
  | producer {h : HandlerRef} {r : ClientRef} {q : RequestId} {t : TransportId} {kind : MediaKind}
      {rtp : RtpParameters} (hs : s.suspended h = some ⟨r, .produce q t kind rtp⟩) :
      Grant s (.produced h) r (.createProducerResponse q s.router.producers.length)

section Steps

variable {s s' : Room} {e : Event} {r : ClientRef} {m : ServerMessage}

theorem grant_closes {T : TransportId → Prop} (h : Closes T s s') (hg : grants m = true)
    (hm : (r, m) ∈ s'.sent) : (r, m) ∈ s.sent := by
  obtain ⟨out, e⟩ := h.sent
  rw [e, List.mem_append, List.mem_map] at hm
  rcases hm with hm | ⟨x, -, ex⟩
  · exact hm
  · cases ex
    cases hg

theorem grant_socketClosed {c : ClientRef} (hg : grants m = true)
    (hm : (r, m) ∈ (s.socketClosed c).sent) : (r, m) ∈ s.sent := by
  by_cases he : (s.client c).eventsClosed = true
  · rw [socketClosed_of_closed he] at hm
    exact hm
  · obtain ⟨s₂, hc, -, -, e⟩ := socketClosed_spec (by simpa using he)
    rw [e] at hm
    split at hm
    · exact grant_closes (s := s.quit c) hc hg (grant_closes (closes_of_close s₂) hg hm)
    · exact grant_closes (s := s.quit c) hc hg hm

theorem grant_send {c : ClientRef} {x : ServerMessage} (hg : grants m = true)
    (hm : (r, m) ∈ (s.send c x).sent) (hne : grants x = false) : (r, m) ∈ s.sent := by
  rcases mem_send hm with hm | ⟨-, rfl⟩
  · exact hm
  · rw [hg] at hne
    cases hne

theorem grant_runLoop {h : HandlerRef} {c : ClientRef} {loop : Loop} (hg : grants m = true)
    (hm : (r, m) ∈ (s.runLoop h c loop).sent) : (r, m) ∈ s.sent := by
  rcases mem_runLoop hm with hm | ⟨-, _, rfl⟩
  · exact hm
  · cases hg

/-- No listener grants anything before its first `await`. -/
theorem grant_receive {c : ClientRef} {m' : ClientMessage} (hg : grants m = true)
    (hm : (r, m) ∈ (s.receive c m').sent) : (r, m) ∈ s.sent := by
  unfold receive at hm
  split at hm
  · exact hm
  · cases m' with
    | getRouterCapabilitiesRequest => exact grant_send hg hm rfl
    | joinCallRequest =>
        have hold := grant_runLoop hg hm
        exact hold
    | createTransportRequest =>
        simp only [createTransportRequest] at hm
        split at hm <;> exact hm
    | transportConnectedNotification =>
        simp only [transportConnectedNotification] at hm
        split at hm <;> exact hm
    | createProducerRequest =>
        simp only [createProducerRequest] at hm
        split at hm <;> exact hm
    | pauseProducerRequest | resumeProducerRequest =>
        simp only [switchProducerRequest] at hm
        split at hm <;> exact hm
    | clientRtpCapabilities | getClientStatsRequest => exact hm

/-- **An object is named when it is made**, in the response to the request that its handler took
up. -/
theorem grant_back (he : s.step e = some s') (hg : grants m = true) (hm : (r, m) ∈ s'.sent) :
    (r, m) ∈ s.sent ∨ Grant s e r m := by
  cases e with
  | add | elapsed => cases he; exact .inl hm
  | socketClosed c =>
      simp only [step] at he
      split at he <;> cases he
      exact .inl (grant_socketClosed hg hm)
  | message c m' =>
      obtain ⟨-, rfl⟩ := message_step he
      exact .inl (grant_receive hg hm)
  | transportCreated h info =>
      simp only [step] at he
      split at he
      · next c q role o hs =>
          cases he
          rcases mem_send (s := (_ : Room)) hm with hm | ⟨rfl, rfl⟩
          · exact .inl hm
          · exact .inr (.transport ⟨o, hs⟩)
      · cases he
  | produced h =>
      simp only [step] at he
      split at he
      · next c q t kind rtp hs =>
          cases he
          rcases mem_send (grant_runLoop hg hm) with hm | ⟨rfl, rfl⟩
          · exact .inl hm
          · exact .inr (.producer hs)
      · cases he
  | consumed h rtp =>
      simp only [step] at he
      split at he
      · cases he
        rw [consumed_announce, sent_consumeFrom] at hm
        have hold := grant_send hg hm rfl
        exact .inl hold
      · cases he
  | resumed h =>
      simp only [step] at he
      split at he
      · cases he
        exact .inl (grant_runLoop hg hm)
      · cases he
  | producerSwitched h =>
      simp only [step] at he
      split at he
      · next c q hs =>
          cases he
          exact .inl (grant_send (x := .pauseProducerResponse q) hg hm rfl)
      · next c q hs =>
          cases he
          exact .inl (grant_send (x := .pauseProducerResponse q) hg hm rfl)
      · cases he
  | transportFailed | transportConnected | produceFailed | consumeFailed =>
      simp only [step] at he
      split at he <;> cases he
      exact .inl hm
  | consumerClosed k =>
      simp only [step] at he
      split at he <;> cases he
      exact .inl (grant_closes (closes_of_closeConsumer s k) hg hm)
  | routerClosed => cases he; exact .inl (grant_closes (closes_of_closeRouter s) hg hm)
  | close => cases he; exact .inl (grant_closes (closes_of_close s) hg hm)

/-- A transport is named when it is created. -/
theorem response_back {q : RequestId} {t : TransportId} {info : TransportInfo}
    (he : s.step e = some s') (hm : (r, .createTransportResponse q t info) ∈ s'.sent) :
    (r, .createTransportResponse q t info) ∈ s.sent ∨ ∃ h role,
      e = .transportCreated h info ∧ s.Creates r h q role ∧ t = s.router.transports.length := by
  refine (grant_back he rfl hm).imp_right fun hg => ?_
  cases hg with
  | transport hc => exact ⟨_, _, rfl, hc, rfl⟩

end Steps

/-! ### Runs -/

/-- The client `r` sent a `create-producer-request`. -/
def AskedToProduce (r : ClientRef) (es : List Event) : Prop :=
  ∃ q kind rtp u, .message r (.createProducerRequest q kind rtp u) ∈ es

/-- The transports that the client `r` was told of are its own, for the roles that it asked for, and
it has asked for its producers. -/
structure Granted (r : ClientRef) (es : List Event) (s : Room) : Prop where
  told : ∀ {q t info}, (r, .createTransportResponse q t info) ∈ s.sent →
    ∃ role, (q, role) ∈ transportRequests r es ∧ s.madeFor[t]? = some (r, role)
  creates : ∀ {h q role}, s.Creates r h q role → (q, role) ∈ transportRequests r es
  produces : ∀ {h q t kind rtp}, s.suspended h = some ⟨r, .produce q t kind rtp⟩ →
    AskedToProduce r es
  producer : ∀ {p : Nat} {x}, s.router.producers[p]? = some x → x.owner = r → AskedToProduce r es

section Runs

variable {s s' : Room} {e : Event} {es : List Event} {r : ClientRef}

theorem Later.madeFor (h : Later s s') {t : Nat} {x : ClientRef × Role}
    (hx : s.madeFor[t]? = some x) : s'.madeFor[t]? = some x := by
  rw [Room.madeFor, List.getElem?_map, Option.map_eq_some_iff] at hx ⊢
  obtain ⟨y, hy, e⟩ := hx
  obtain ⟨b, hb⟩ := h.transport hy
  exact ⟨_, hb, e⟩

theorem AskedToProduce.later (h : AskedToProduce r es) : AskedToProduce r (es ++ [e]) := by
  obtain ⟨q, kind, rtp, u, hm⟩ := h
  exact ⟨q, kind, rtp, u, List.mem_append_left _ hm⟩

theorem granted_new (config : RoomConfig) (id : CallId) (caps : RtpCapabilities) (r : ClientRef) :
    Granted r [] (.new config (createRouter id caps)) := by
  have none : ∀ h, (Room.new config (createRouter id caps)).suspended h = none :=
    fun h => by simp [suspended, Room.new]
  refine ⟨fun hm => ?_, ?_, fun hs => ?_, fun hx => ?_⟩
  · cases hm
  · rintro h q role ⟨o, hs⟩
    rw [none] at hs
    cases hs
  · rw [none] at hs
    cases hs
  · simp [Room.new, createRouter] at hx

/-- **One turn.** -/
theorem Granted.step (h : Granted r es s) (he : s.step e = some s') :
    Granted r (es ++ [e]) s' := by
  have ht := step_turn he
  refine ⟨fun hm => ?_, fun hc => ?_, fun hs => ?_, fun hx ho => ?_⟩
  · rcases response_back he hm with hm | ⟨g, role, rfl, hc, rfl⟩
    · obtain ⟨role, hq, hmade⟩ := h.told hm
      exact ⟨role, mem_later hq, (later_turn ht).madeFor hmade⟩
    · refine ⟨role, mem_later (h.creates hc), ?_⟩
      obtain ⟨o, hs⟩ := hc
      simp only [Room.step, hs] at he
      cases he
      rw [madeFor_transportCreated, ← length_madeFor]
      exact List.getElem?_concat_length
  · rcases creates_back ht hc with hc | ⟨rfl, -⟩
    · exact mem_later (h.creates hc)
    · simp [transportRequests_message]
  · rcases suspended_back ht hs rfl with ⟨hs, -⟩ | ⟨m, rfl, ha, -⟩
    · exact (h.produces hs).later
    · cases m with
      | createProducerRequest q kind rtp u =>
          exact ⟨q, kind, rtp, u, List.mem_append_right _ (List.mem_singleton_self _)⟩
      | createTransportRequest => cases ha.2
      | transportConnectedNotification | pauseProducerRequest | resumeProducerRequest => cases ha
      | getRouterCapabilitiesRequest | clientRtpCapabilities | joinCallRequest
      | getClientStatsRequest => exact ha.elim
  · rcases producer_made ht hx with ⟨y, hy, eo, -⟩ | ⟨-, g, q, rtp, -, hs⟩
    · exact (h.producer hy (eo ▸ ho)).later
    · exact (h.produces (ho ▸ hs)).later

theorem granted_of_run {config : RoomConfig} {id : CallId} {caps : RtpCapabilities}
    (hx : exec Room.step (.new config (createRouter id caps)) es = some s) (r : ClientRef) :
    Granted r es s :=
  exec_history (granted_new config id caps r) (fun _ _ _ _ _ h he => h.step he) hx

/-! ### A client that asks once for each role -/

/-- Of two requests for a transport, in order, none is for a role that was asked for. -/
theorem fresh_role {l : List (RequestId × Role)} {q q₁ q₂ : RequestId} {role : Role}
    (h : l ++ [(q, role)] <+: [(q₁, .producing), (q₂, .consuming)]) (q' : RequestId) :
    (q', role) ∉ l := by
  rcases concat_prefix_pair h with ⟨rfl, -⟩ | ⟨rfl, e⟩
  · exact List.not_mem_nil
  · cases e
    simp

/-- Its requests come alone. -/
theorem Prepared.asksAlone {q₁ q₂ : RequestId} (h : Prepared r q₁ q₂ es s)
    (hr : transportRequests r (es ++ [e]) <+: [(q₁, .producing), (q₂, .consuming)]) (role : Role) :
    s.asksAlone r role e := by
  intro hreq _ _ g _ hg
  obtain ⟨q', o, hs⟩ := creating_eq_some.mp hg
  cases e with
  | message c m =>
      cases m with
      | createTransportRequest q role' =>
          cases hreq
          rw [transportRequests_message] at hr
          exact fresh_role hr q' (h.pending ⟨o, hs⟩)
      | _ => cases hreq
  | _ => cases hreq

/-- **One transport for each role**, made in order and stored. -/
theorem prepared_of_run {config : RoomConfig} {id : CallId} {caps : RtpCapabilities}
    {q₁ q₂ : RequestId} (hx : exec Room.step (.new config (createRouter id caps)) es = some s)
    (ho : Along Room.step InOrder (.new config (createRouter id caps)) es)
    (hr : transportRequests r es <+: [(q₁, .producing), (q₂, .consuming)]) :
    Prepared r q₁ q₂ es s ∧
      ∀ role, OneTransport (.new config (createRouter id caps)) r role es s := by
  have h := exec_history (I := fun es s =>
    Along Room.step InOrder (.new config (createRouter id caps)) es →
    transportRequests r es <+: [(q₁, .producing), (q₂, .consuming)] → Prepared r q₁ q₂ es s ∧
      ∀ role, OneTransport (.new config (createRouter id caps)) r role es s)
    (fun _ _ => ⟨prepared_new config id caps, oneTransport_new config id caps r⟩) ?_ hx
  · exact h ho hr
  · intro es s e s' hx ih he ho hr
    obtain ⟨ho', he'⟩ := (along_snoc hx).mp ho
    obtain ⟨hp, hone⟩ := ih ho' (List.IsPrefix.trans (by
      rw [transportRequests, transportRequests, List.filterMap_append, List.filterMap_append]
      exact List.prefix_append _ _) hr)
    exact ⟨hp.step he he' hr, fun role =>
      (hone role).step (tables_of_run hx) hx he (hp.asksAlone hr role)⟩

end Runs

/-! ### Producers -/

/-- A producer that a response names was made for the client it is sent to, of the kind that the
request asked for, and no other response names it; no producer was made that was not asked for. -/
structure ToldProducers (es : List Event) (s : Room) : Prop where
  asks : ∀ {h r q t kind rtp}, s.suspended h = some ⟨r, .produce q t kind rtp⟩ →
    ∃ rtp u, .message r (.createProducerRequest q kind rtp u) ∈ es
  told : ∀ {r q} {p : Nat}, (r, .createProducerResponse q p) ∈ s.sent →
    ∃ x rtp u, s.router.producers[p]? = some x ∧ x.owner = r ∧
      .message r (.createProducerRequest q x.kind rtp u) ∈ es
  once : ∀ {r r' q q'} {p : Nat}, (r, .createProducerResponse q p) ∈ s.sent →
    (r', .createProducerResponse q' p) ∈ s.sent → q = q'
  made : ∀ {p : Nat} {x}, s.router.producers[p]? = some x →
    ∃ q rtp u, .message x.owner (.createProducerRequest q x.kind rtp u) ∈ es

section Runs

variable {s s' : Room} {e : Event} {es : List Event}

/-- **One turn.** -/
theorem ToldProducers.step (h : ToldProducers es s) (he : s.step e = some s') :
    ToldProducers (es ++ [e]) s' := by
  have ht := step_turn he
  have stale : ∀ {r q}, (r, .createProducerResponse q s.router.producers.length) ∉ s.sent :=
    fun hm => by
      obtain ⟨x, rtp, u, hx, -⟩ := h.told hm
      exact Nat.lt_irrefl _ (Cells.lt_of_some hx)
  refine ⟨fun hs => ?_, fun hm => ?_, fun hm hm' => ?_, fun hx => ?_⟩
  · rcases suspended_back ht hs rfl with ⟨hs, -⟩ | ⟨m, rfl, ha, -⟩
    · obtain ⟨rtp, u, hm⟩ := h.asks hs
      exact ⟨rtp, u, List.mem_append_left _ hm⟩
    · cases m with
      | createProducerRequest q kind rtp u =>
          obtain ⟨t, -, e⟩ := ha
          cases e
          exact ⟨_, u, List.mem_append_right _ (List.mem_singleton_self _)⟩
      | createTransportRequest => cases ha.2
      | transportConnectedNotification | pauseProducerRequest | resumeProducerRequest => cases ha
      | getRouterCapabilitiesRequest | clientRtpCapabilities | joinCallRequest
      | getClientStatsRequest => exact ha.elim
  · rcases grant_back he rfl hm with hm | hg
    · obtain ⟨x, rtp, u, hx, ho, hm⟩ := h.told hm
      obtain ⟨b, hb⟩ := (later_turn ht).producer hx
      exact ⟨_, rtp, u, hb, ho, List.mem_append_left _ hm⟩
    · cases hg with
      | producer hs =>
          obtain ⟨rtp, u, hm⟩ := h.asks hs
          exact ⟨_, rtp, u, Sourced.produces_new ht hs rfl, rfl, List.mem_append_left _ hm⟩
  · rcases grant_back he rfl hm with hm | hg
    · rcases grant_back he rfl hm' with hm' | hg'
      · exact h.once hm hm'
      · cases hg' with
        | producer => exact absurd hm stale
    · cases hg with
      | producer hs =>
          rcases grant_back he rfl hm' with hm' | hg'
          · exact absurd hm' stale
          · cases hg' with
            | producer hs' =>
                cases hs.symm.trans hs'
                rfl
  · rcases producer_made ht hx with ⟨y, hy, eo, -, ek⟩ | ⟨-, g, q, rtp, -, hs⟩
    · obtain ⟨q, rtp, u, hm⟩ := h.made hy
      exact ⟨q, rtp, u, eo ▸ ek ▸ List.mem_append_left _ hm⟩
    · obtain ⟨rtp, u, hm⟩ := h.asks hs
      exact ⟨q, rtp, u, List.mem_append_left _ hm⟩

theorem toldProducers_of_run {config : RoomConfig} {id : CallId} {caps : RtpCapabilities}
    (hx : exec Room.step (.new config (createRouter id caps)) es = some s) :
    ToldProducers es s := by
  refine exec_history ⟨fun hs => ?_, fun hm => ?_, fun hm => ?_, fun hx => ?_⟩
    (fun _ _ _ _ _ h he => h.step he) hx
  · simp [suspended, Room.new] at hs
  · cases hm
  · cases hm
  · simp [Room.new, createRouter] at hx

end Runs

end DemoApp.Sfu.Room
