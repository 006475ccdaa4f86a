import DemoApp.Sfu.Coverage

/-!
# Sfu — Delivery

Every producer reaches every client that joined.  Two loops complement one another: a client that
joins consumes from all that are there, and a new producer is consumed by all that are there; a
client that is not ready is passed over.

* `delivered`: if clients join when they are ready and every `consume` resolves, then in every
  state in which no handler is suspended a stored client that joined has a consumer of every
  producer of every other stored client.

The invariant names the handler that is still responsible for a missing consumer (`Attended`); a
pair enters it with the join of its client or with its producer (`pair_back`).
-/

namespace DemoApp.Sfu.Room
open Machine

/-! ### Where a pair comes from -/

theorem Tables.stored_of_get {s : Room} (h : s.Tables) {id : ClientId} {r : ClientRef}
    (hg : s.clients.get id = some r) : s.Stored r := by
  rw [Stored, (h.stored hg).2.1]
  exact hg

theorem stored_back {s s' : Room} {e : Event} {r : ClientRef} (h : s.step e = some s')
    (hr : r < s.added) (hs : s'.Stored r) : s.Stored r :=
  Core.stored_back (core_step h) hr hs

theorem get_producers_modify {s : Room} {r q : ClientRef} {f : Client → Client} {P : ProducerId}
    (hf : ∀ x : Client, (f x).producers = x.producers) :
    ((s.modify r f).client q).producers.get P = (s.client q).producers.get P := by
  rw [client_modify]
  split
  · next e => subst e; rw [hf]
  · rfl

theorem Closes.producer_back {T : TransportId → Prop} {s s' : Room} (hc : Closes T s s')
    {p : ClientRef} {P : ProducerId} (hP : ((s'.client p).producers.get P).isSome) :
    ((s.client p).producers.get P).isSome := by
  obtain ⟨kind, hk⟩ := Option.isSome_iff_exists.mp hP
  obtain ⟨i, hi⟩ := LiveMap.get_eq_some.mp hk
  rw [LiveMap.get_eq_some.mpr ⟨i, hc.producerMap p i P kind hi⟩]
  rfl

theorem producer_back_socketClosed {s : Room} {r p : ClientRef} {P : ProducerId}
    (hP : (((s.socketClosed r).client p).producers.get P).isSome) :
    ((s.client p).producers.get P).isSome := by
  by_cases he : (s.client r).eventsClosed = true
  · rw [socketClosed_of_closed he, get_producers_modify] at hP
    · exact hP
    · exact fun _ => rfl
  · obtain ⟨s₂, hcl, -, -, e⟩ := socketClosed_spec (by simpa using he)
    have hq : ((s.quit r).client p).producers.get P = (s.client p).producers.get P :=
      get_producers_modify (s := s) (r := r)
        (f := fun c => { c with socketClosed := true, eventsClosed := true }) fun _ => rfl
    rw [← hq]
    rw [e] at hP
    split at hP
    · exact hcl.producer_back ((closes_of_close s₂).producer_back hP)
    · exact hcl.producer_back hP

/-- A producer is made, and the others are as before. -/
theorem producer_back_produced {s : Room} {h : HandlerRef} {r p : ClientRef} {q : RequestId}
    {t : TransportId} {kind : MediaKind} {P : ProducerId}
    (hnew : ¬(p = r ∧ P = s.router.producers.length))
    (hP : (((s.produced h r q t kind).client p).producers.get P).isSome) :
    ((s.client p).producers.get P).isSome := by
  obtain ⟨out, -, e⟩ := produced_eq s h r q t kind
  obtain ⟨x, out', e'⟩ := runLoop_frame { (s.grown [] [⟨r, t, kind, false⟩] []).modify r
    fun c => { c with producers := c.producers.set s.router.producers.length kind } with
    sent := s.sent ++ out } h r ⟨.push, 0⟩
  rw [e, e'] at hP
  simp only [client_modify] at hP
  split at hP
  · next hr =>
      subst hr
      rw [LiveMap.get_set_of_ne fun h => hnew ⟨rfl, h⟩] at hP
      exact hP
  · exact hP

/-- Only `produced` stores a producer. -/
theorem producer_back {s s' : Room} {e : Event} {p : ClientRef} {P : ProducerId}
    (hturn : Turn s e s') (hP : ((s'.client p).producers.get P).isSome) :
    ((s.client p).producers.get P).isSome ∨ ∃ h q t kind rtp, e = .produced h ∧
      s.suspended h = some ⟨p, .produce q t kind rtp⟩ ∧ s' = s.produced h p q t kind ∧
      P = s.router.producers.length := by
  cases hturn with
  | @add ctx =>
      simp only [add, Function.update_apply] at hP
      split at hP
      · cases hP
      · exact .inl hP
  | socketClosed => exact .inl (producer_back_socketClosed hP)
  | capabilities =>
      rw [get_producers_modify] at hP
      · exact .inl hP
      · exact fun _ => rfl
  | @joinCallRequest r q =>
      obtain ⟨x, out, e⟩ := runLoop_frame { s with handlers := s.handlers ++ [none] }
        s.handlers.length r ⟨.join q, 0⟩
      rw [joinCallRequest, e] at hP
      exact .inl hP
  | spawn | ignored | answered | consumeFailed | ended | elapsed => exact .inl hP
  | @transportCreated h info r q role o hs =>
      obtain ⟨out, -, e⟩ := transportCreated_eq s h r q role info
      have hf := get_producers_modify (s := s.grown [⟨r, role, false⟩] [] []) (r := r) (q := p)
        (f := fun c => c.setTransport role s.router.transports.length) (P := P)
        fun _ => by cases role <;> rfl
      rw [e] at hP
      exact .inl ((congrArg Option.isSome hf).symm.trans hP)
  | @produced h r q t kind rtp hs =>
      by_cases hnew : p = r ∧ P = s.router.producers.length
      · obtain ⟨rfl, rfl⟩ := hnew
        exact .inr ⟨h, q, t, kind, rtp, rfl, hs, rfl, rfl⟩
      · exact .inl (producer_back_produced hnew hP)
  | @consumed h rtp r loop call o hs =>
      refine .inl ?_
      have hf : ∀ (s₁ : Room), ((s₁.consumeFrom h r loop call).client p).producers.get P =
          (s₁.client p).producers.get P := fun s₁ => by
        obtain ⟨a, e⟩ := consumeFrom_frame s₁ h r loop call
        rw [e]; rfl
      have hg := get_producers_modify (s := s.grown [] []
        [⟨call.consuming, o.transport, o.producerId, false⟩]) (r := call.consuming) (q := p)
        (P := P) (f := fun c =>
          { c with consumers := c.consumers.set s.router.consumers.length o.producerId })
        fun _ => rfl
      rw [consumed_eq, hf] at hP
      exact (congrArg Option.isSome hg).symm.trans hP
  | @resumed h r loop hs =>
      obtain ⟨x, out, e⟩ := runLoop_frame s h r loop
      rw [e] at hP
      exact .inl hP
  | consumerClosed =>
      exact .inl ((closes_of_closeConsumer _ _).producer_back hP)
  | routerClosed =>
      exact .inl ((closes_of_closeRouter s).producer_back hP)
  | close => exact .inl ((closes_of_close s).producer_back hP)

/-- A pair was there before the turn, or the turn made its producer. -/
theorem pair_back {s s' : Room} {e : Event} {c p : ClientRef} {P : ProducerId} (ht : s.Tables)
    (h : s.step e = some s') (hc : c < s.added) (hpair : s'.Pair c p P) :
    s.Pair c p P ∨ ∃ g q t kind rtp, e = .produced g ∧
      s.suspended g = some ⟨p, .produce q t kind rtp⟩ ∧ s' = s.produced g p q t kind ∧
      P = s.router.producers.length := by
  refine (producer_back (step_turn h) hpair.producer).imp_left fun hP => ?_
  have hp : p < s.added := by
    obtain ⟨kind, hk⟩ := Option.isSome_iff_exists.mp hP
    obtain ⟨i, hi⟩ := LiveMap.get_eq_some.mp hk
    obtain ⟨x, -, -, -, y, hy, ho⟩ := ht.producer hi
    exact ho ▸ ht.owner hy
  exact ⟨stored_back h hc hpair.consuming, stored_back h hp hpair.producing, hpair.other, hP⟩

/-! ### Runs -/

/-- A client joins when it is ready, and `consume` does not reject. -/
def Orderly (s : Room) : Event → Prop
  | .message r (.joinCallRequest _) => s.Ready r
  | .consumeFailed _ => False
  | _ => True

instance (s : Room) : (e : Event) → Decidable (Orderly s e)
  | .message _ (.joinCallRequest _) => inferInstanceAs (Decidable (_ ∧ _))
  | .consumeFailed _ => isFalse id
  | .message _ (.getRouterCapabilitiesRequest _) | .message _ (.clientRtpCapabilities _)
  | .message _ (.createTransportRequest _ _) | .message _ (.transportConnectedNotification _ _ _)
  | .message _ (.createProducerRequest _ _ _ _) | .message _ (.pauseProducerRequest _ _)
  | .message _ (.resumeProducerRequest _ _) | .message _ (.getClientStatsRequest _ _)
  | .add _ | .socketClosed _ | .transportCreated _ _ | .transportFailed _
  | .transportConnected _ _ | .produced _ | .produceFailed _ | .producerSwitched _
  | .consumed _ _ | .resumed _ | .consumerClosed _ | .routerClosed | .close | .elapsed _ =>
      isTrue trivial

/-- The client `c` has sent a `join-call-request`. -/
def Joined (es : List Event) (c : ClientRef) : Prop :=
  ∃ q, Event.message c (.joinCallRequest q) ∈ es

/-- Some handler is responsible for every missing consumer of a client that joined. -/
structure Attended (es : List Event) (s : Room) : Prop where
  joined : ∀ {c}, Joined es c → c < s.added ∧ s.Ready c
  covered : ∀ {c p P}, Joined es c → s.Pair c p P → ∃ h, s.Covered h c p P

theorem added_step {s s' : Room} {e : Event} (h : s.step e = some s') : s.added ≤ s'.added := by
  have hc := Core.added_step (core_step h)
  exact hc

theorem attended_step {es : List Event} {s s' : Room} {e : Event} (ht : s.Tables)
    (h : Attended es s) (hG : s.Orderly e) (he : s.step e = some s') :
    Attended (es ++ [e]) s' := by
  have hturn := step_turn he
  have hmem : ∀ {c}, Joined (es ++ [e]) c → Joined es c ∨
      ∃ q, e = .message c (.joinCallRequest q) := by
    rintro c ⟨q, hq⟩
    rcases List.mem_append.mp hq with hq | hq
    · exact .inl ⟨q, hq⟩
    · exact .inr ⟨q, (List.mem_singleton.mp hq).symm⟩
  have hjoined : ∀ {c}, Joined (es ++ [e]) c → c < s.added ∧ s.Ready c := by
    intro c hj
    rcases hmem hj with hj | ⟨q, rfl⟩
    · exact h.joined hj
    · exact ⟨(message_step he).1, hG⟩
  refine ⟨fun hj => ?_, fun {c p P} hj hpair => ?_⟩
  · obtain ⟨hc, hr⟩ := hjoined hj
    exact ⟨Nat.lt_of_lt_of_le hc (added_step he), ready_turn hturn hc hr⟩
  · obtain ⟨hc, hr⟩ := hjoined hj
    have hr' := ready_turn hturn hc hr
    rcases pair_back ht he hc hpair with hp | ⟨g, q, t, kind, rtp, rfl, hs, rfl, -⟩
    · rcases hmem hj with hj | ⟨q, rfl⟩
      · obtain ⟨g, hcov⟩ := h.covered hj hp
        exact ⟨g, covered_turn ht hturn hr hp hpair (by rintro rfl; exact hG) hcov⟩
      · -- the client joins in this turn
        cases hturn with
        | joinCallRequest => exact ⟨_, covered_joinCallRequest hpair hr'⟩
        | spawn _ _ ha => exact ha.elim
        | ignored hclosed =>
            have := (ht.stored hpair.consuming).2.2
            rw [hclosed q rfl] at this
            cases this
        | answered hno => exact absurd rfl (hno q)
        | ended hend => exact hend.elim
    · exact ⟨g, covered_produced (suspended_lt hs) hpair hr'⟩

theorem attended_of_run {config : RoomConfig} {id : CallId} {caps : RtpCapabilities}
    {es : List Event} {s : Room}
    (hx : exec step (.new config (createRouter id caps)) es = some s)
    (ha : Along step Orderly (.new config (createRouter id caps)) es) : Attended es s := by
  revert ha
  refine exec_history (I := fun es s => Along step Orderly _ es → Attended es s)
    (fun _ => ⟨?_, ?_⟩) (fun es s e s' hx ih he ha => ?_) hx
  · rintro c ⟨q, hq⟩; cases hq
  · rintro c p P ⟨q, hq⟩; cases hq
  · obtain ⟨ha, hG⟩ := (along_snoc hx).mp ha
    exact attended_step (tables_of_run hx) (ih ha) hG he

/-- **No producer is missed.**  In every run in which clients join when they are ready and no
`consume` rejects, whenever no handler is suspended, a client that is in the room and has joined
has a consumer of every producer of every other client in the room. -/
theorem delivered {config : RoomConfig} {id : CallId} {caps : RtpCapabilities}
    {es : List Event} {s : Room}
    (hx : exec step (.new config (createRouter id caps)) es = some s)
    (ha : Along step Orderly (.new config (createRouter id caps)) es)
    (hq : ∀ h, s.suspended h = none) {a b : ClientId} {c p : ClientRef}
    (hc : s.clients.get a = some c) (hp : s.clients.get b = some p) (hne : c ≠ p)
    (hj : Joined es c) {P : ProducerId} {kind : MediaKind}
    (hP : (s.client p).producers.get P = some kind) :
    ∃ k, (s.client c).consumers.get k = some P := by
  have ht := tables_of_run hx
  have hpair : s.Pair c p P :=
    ⟨ht.stored_of_get hc, ht.stored_of_get hp, hne, by rw [hP]; rfl⟩
  obtain ⟨h, hcov | ⟨x, hx, -⟩⟩ := (attended_of_run hx ha).covered hj hpair
  · obtain ⟨i, k, hk⟩ := consumes_iff.mp hcov
    exact ⟨k, LiveMap.get_eq_some.mpr ⟨i, hk⟩⟩
  · rw [hq h] at hx
    cases hx

/-- The client `1` joins, and its handler ends. -/
def joins : List Event :=
  joining ++ [.message 1 (.joinCallRequest "4"), .consumed 3 "opus", .resumed 3]

theorem delivered_joins : ∃ s, exec step lobby joins = some s ∧
    ∃ k, (s.client 1).consumers.get k = some 0 := by
  have hx : exec step lobby joins = some _ := rfl
  refine ⟨_, hx, delivered hx (by decide) ?_ (a := "b") (b := "a") (c := 1) (p := 0)
    rfl rfl (by decide) ⟨"4", by simp [joins]⟩ rfl⟩
  intro h
  match h with
  | 0 | 1 | 2 | 3 => rfl
  | _ + 4 => rfl

end DemoApp.Sfu.Room
