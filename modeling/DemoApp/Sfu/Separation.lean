import DemoApp.Sfu.Announcements
import DemoApp.Sfu.Provenance

/-!
# Sfu — Separation

What one client of a room can do to the others.  A turn is about the client whose message or close
it handles, or whose handler it continues (`actor`).

* `others_untouched`: unless it closes the room, such a turn leaves every object of every other
  client as it is, with its entry in the maps and its suspended handlers.  What is new belongs to
  the client itself, but for a consumer that has it at one end; and another client is told of
  nothing but such a consumer.
-/

namespace DemoApp.Sfu.Room
open Machine

/-- The turn may close objects. -/
def Event.closing : Event → Bool
  | .socketClosed _ | .consumerClosed _ | .routerClosed | .close => true
  | .add _ | .message _ _ | .transportCreated _ _ | .transportFailed _ | .transportConnected _ _
  | .produced _ | .produceFailed _ | .producerSwitched _ | .consumed _ _ | .consumeFailed _
  | .resumed _ | .elapsed _ => false

section Turns

variable {s s' : Room} {e : Event} {r q : ClientRef}

/-- A turn that closes nothing adds to the tables, and does nothing else to them. -/
theorem router_turn (ht : Turn s e s') (he : e.closing = false) :
    ∃ ts ps ks, s'.router = (s.grown ts ps ks).router := by
  have same : s'.router = s.router → ∃ ts ps ks, s'.router = (s.grown ts ps ks).router :=
    fun h => ⟨[], [], [], by rw [grown_nil]; exact h⟩
  cases ht with
  | add | capabilities | spawn | ignored | answered | consumeFailed | ended | elapsed =>
      exact same rfl
  | joinCallRequest => exact same (router_runLoop _ _ _ _)
  | @transportCreated h info r q role o hs =>
      obtain ⟨out, -, e⟩ := transportCreated_eq s h r q role info
      exact ⟨_, _, _, by rw [e]; rfl⟩
  | @produced h r q t kind rtp hs =>
      obtain ⟨out, -, e⟩ := produced_eq s h r q t kind
      exact ⟨_, _, _, by rw [e, router_runLoop]; rfl⟩
  | consumed => exact ⟨_, _, _, by rw [consumed_eq, router_consumeFrom]; rfl⟩
  | resumed => exact same (router_runLoop s _ _ _)
  | socketClosed | consumerClosed | routerClosed | close => cases he

/-- It stores no other client, and takes none away. -/
theorem clients_turn (ht : Turn s e s') (he : e.closing = false) (ha : s.actor e = some r) :
    s'.clients = s.clients := by
  have loop : ∀ (x : Room) h q l, (x.runLoop h q l).clients = x.clients := by
    intro x h q l
    obtain ⟨y, out, e⟩ := runLoop_frame x h q l
    rw [e]
  cases ht with
  | capabilities | spawn | ignored | answered | consumeFailed | ended => rfl
  | joinCallRequest => exact loop _ _ _ _
  | @transportCreated h info r q role o hs =>
      obtain ⟨out, -, e⟩ := transportCreated_eq s h r q role info
      rw [e]; rfl
  | @produced h r q t kind rtp hs =>
      obtain ⟨out, -, e⟩ := produced_eq s h r q t kind
      rw [e, loop]; rfl
  | @consumed h rtp r l call o hs =>
      obtain ⟨a, e⟩ := consumeFrom_frame _ h r l call
      rw [consumed_eq, e]; rfl
  | resumed => exact loop _ _ _ _
  | add | elapsed => cases ha
  | socketClosed | consumerClosed | routerClosed | close => cases he

/-- Another client changes only in that it has a new consumer. -/
theorem client_turn (ht : Turn s e s') (he : e.closing = false) (ha : s.actor e = some r)
    (hq : q ≠ r) : s'.client q = s.client q ∨ ∃ p, s'.client q =
      { s.client q with
        consumers := (s.client q).consumers.set s.router.consumers.length p } := by
  have loop : ∀ (x : Room) h q l, (x.runLoop h q l).client = x.client := by
    intro x h q l
    obtain ⟨y, out, e⟩ := runLoop_frame x h q l
    rw [e]
  have acts : ∀ {g x}, e.handler = some g → s.suspended g = some x → x.client = r :=
    fun hg hs => Option.some.inj ((actor_of_suspended hg hs).symm.trans ha)
  cases ht with
  | spawn | ignored | answered | consumeFailed | ended => exact .inl rfl
  | capabilities =>
      cases ha
      exact .inl (by rw [client_modify, if_neg hq])
  | joinCallRequest => exact .inl (by rw [joinCallRequest, loop])
  | @transportCreated h info c rid role o hs =>
      obtain rfl := acts rfl hs
      obtain ⟨out, -, e⟩ := transportCreated_eq s h c rid role info
      rw [e]
      exact .inl (by simp [grown, finish, hq])
  | @produced h c rid t kind rtp hs =>
      obtain rfl := acts rfl hs
      obtain ⟨out, -, e⟩ := produced_eq s h c rid t kind
      rw [e, loop]
      exact .inl (by simp [grown, hq])
  | @consumed h rtp c l call o hs =>
      obtain ⟨a, e⟩ := consumeFrom_frame _ h c l call
      rw [consumed_eq, e]
      by_cases hc : q = call.consuming
      · subst hc
        exact .inr ⟨o.producerId, by simp [grown, suspend]⟩
      · exact .inl (by simp [grown, suspend, hc])
  | resumed => exact .inl (by rw [loop])
  | add | elapsed => cases ha
  | socketClosed | consumerClosed | routerClosed | close => cases he

end Turns

/-! ### What is left alone -/

section Closing

variable {s s' : Room} {e : Event} {r : ClientRef}

/-- What closes with the transports of one client is its own. -/
theorem owner_of_port (h : s.Sourced) {x : Transport} {t : Nat}
    (hx : s.router.transports[t]? = some x) (hp : s.Ports r t) : x.owner = r := by
  obtain ⟨role, hr⟩ := hp
  obtain ⟨y, hy, ho, -⟩ := h.port hr
  cases hx.symm.trans hy
  exact ho

theorem owner_of_ports (h : s.Sourced) {q : ClientRef} {role : Role} {t : TransportId}
    (hq : s.Port q role t) (hp : s.Ports r t) : q = r := by
  obtain ⟨x, hx, ho, -⟩ := hq
  exact ho.symm.trans (owner_of_port h hx hp)

/-- The close of a websocket that leaves the room open. -/
theorem socketClosed_closes (hr : (s.socketClosed r).router.closed = s.router.closed)
    (he : (s.client r).eventsClosed = false) :
    Closes (s.Ports r) (s.quit r) (s.socketClosed r) := by
  obtain ⟨s₂, hc, hcl, -, e⟩ := socketClosed_spec he
  rw [e] at hr ⊢
  split at hr
  · next hsize =>
      rw [if_pos hsize]
      by_cases ho : s.router.closed = true
      · rwa [close_of_closed (hcl.trans ho)]
      · have hclosed : s₂.close.router.closed = true := by
          rw [show s₂.close.router.closed = s₂.core.close.routerClosed from
            congrArg Core.routerClosed (core_close' s₂)]
          simp only [Core.close]
          split
          · assumption
          · rfl
        exact absurd (hr.symm.trans hclosed) ho
  · next hsize => rwa [if_neg hsize]

end Closing

/-- The part of the separation that is about the objects and the clients. -/
structure Untouched (r : ClientRef) (s s' : Room) : Prop where
  transport : ∀ {t : Nat} {x}, s.router.transports[t]? = some x → x.owner ≠ r →
    s'.router.transports[t]? = some x
  producer : ∀ {p : Nat} {x}, s.router.producers[p]? = some x → x.owner ≠ r →
    s'.router.producers[p]? = some x
  consumer : ∀ {k : Nat} {x}, s.router.consumers[k]? = some x → x.owner ≠ r →
    s'.router.consumers[k]? = some x
  client : ∀ q, q ≠ r → bare (s'.client q) = bare (s.client q)
  producers : ∀ q i p kind, q ≠ r →
    ((s'.client q).producers.At i p kind ↔ (s.client q).producers.At i p kind)
  consumers : ∀ q i k p, q ≠ r → (s.client q).consumers.At i k p → (s'.client q).consumers.At i k p
  stored : ∀ id q, s.clients.get id = some q → id ≠ (s.client r).clientId →
    s'.clients.get id = some q

/-- Between `s` and `s'` nothing was taken from a client other than `r`; nothing was made for it but
consumers that `r` has at one end, and it was told of nothing else. -/
structure Apart (r : ClientRef) (s s' : Room) : Prop extends Untouched r s s' where
  newTransport : ∀ {t : Nat} {y}, s'.router.transports[t]? = some y →
    s.router.transports.length ≤ t → y.owner = r
  newProducer : ∀ {p : Nat} {y}, s'.router.producers[p]? = some y →
    s.router.producers.length ≤ p → y.owner = r
  newConsumer : ∀ {k : Nat} {y}, s'.router.consumers[k]? = some y →
    s.router.consumers.length ≤ k → ∃ z, s'.router.producers[y.producerId]? = some z ∧
      ((s'.client y.owner).clientId = (s'.client r).clientId ∨
        (s'.client z.owner).clientId = (s'.client r).clientId)
  handler : ∀ h x, s.suspended h = some x → x.client ≠ r → s'.suspended h = some x
  told : ∀ q m, q ≠ r → (q, m) ∈ s'.sent → (q, m) ∈ s.sent ∨
    ∃ k p kind rtp remote, m = .consumerCreatedNotification k p kind rtp remote ∧
      s.router.consumers.length ≤ k

section Proofs

variable {s s' : Room} {e : Event} {r : ClientRef}

theorem untouched_of_open (hT : s.Tables) (ht : Turn s e s') (he : e.closing = false)
    (ha : s.actor e = some r) : Untouched r s s' := by
  obtain ⟨ts, ps, ks, hr⟩ := router_turn ht he
  refine ⟨fun hx _ => ?_, fun hx _ => ?_, fun hx _ => ?_, fun q hq => ?_, fun q i p kind hq => ?_,
    fun q i k p hq hk => ?_, fun id q hs _ => ?_⟩
  · rw [hr]; exact Cells.append_of_some hx
  · rw [hr]; exact Cells.append_of_some hx
  · rw [hr]; exact Cells.append_of_some hx
  · rcases client_turn ht he ha hq with e | ⟨p, e⟩ <;> rw [e]
    rfl
  · rcases client_turn ht he ha hq with e | ⟨p, e⟩ <;> rw [e]
  · rcases client_turn ht he ha hq with e | ⟨p, e⟩ <;> rw [e]
    · exact hk
    · obtain ⟨x, hx, -⟩ := hT.consumer hk
      exact (LiveMap.at_set_of_ne (Nat.ne_of_lt (Cells.lt_of_some hx))).mpr hk
  · rw [clients_turn ht he ha]
    exact hs

/-- The close of a websocket with open events closes what is on the transports of its client. -/
theorem untouched_of_closes (h : s.Sourced) (hT : s.Tables)
    (hc : Closes (s.Ports r) (s.quit r) s') : Untouched r s s' := by
  have other : ∀ {q}, q ≠ r → (s.quit r).client q = s.client q := fun {q} hq => by
    rw [quit, client_modify, if_neg hq]
  refine ⟨fun {t x} hx hne => ?_, fun {p x} hx hne => ?_, fun {k x} hx hne => ?_, fun q hq => ?_,
    fun q i p kind hq => ⟨fun hp => ?_, fun hp => ?_⟩, fun q i k p hq hk => ?_,
    fun id q hs hid => ?_⟩
  · rcases hc.transports t with e | ⟨hp, -⟩
    · exact e.trans hx
    · exact absurd (owner_of_port h hx hp) hne
  · rcases hc.producers p with e | ⟨y, hy, hp, -⟩
    · exact e.trans hx
    · cases hx.symm.trans hy
      exact absurd (owner_of_ports h (h.producer hx) hp) hne
  · rcases hc.consumers k with e | ⟨y, hy, hp, -⟩
    · exact e.trans hx
    · cases hx.symm.trans hy
      exact absurd (owner_of_ports h (h.consumer hx).1 hp) hne
  · rw [hc.client, other hq]
  · rw [← other hq]
    exact hc.producerMap _ _ _ _ hp
  · rw [← other hq] at hp
    rcases hc.producerMap_closed _ _ _ _ hp with hp | ⟨x, hx, hcl⟩
    · exact hp
    · rw [other hq] at hp
      obtain ⟨y, hy, ho, hyo, -⟩ := hT.producer hp
      rcases hc.producers p with e | ⟨z, hz, hport, -⟩
      · cases hx.symm.trans (e.trans hy)
        cases hyo.symm.trans hcl
      · cases hz.symm.trans hy
        exact absurd (ho.symm.trans (owner_of_ports h (h.producer hy) hport)) hq
  · have hk' := hk
    rw [← other hq] at hk
    refine (hc.consumerMap_closed _ _ _ _ hk).resolve_right ?_
    rintro ⟨x, hx, hport, -⟩
    obtain ⟨y, hy, ho, -⟩ := hT.consumer hk'
    obtain ⟨z, hz, ez⟩ := hc.consumer_before hx
    cases hz.symm.trans hy
    rw [congrArg Consumer.transport ez] at hport
    exact hq (ho.symm.trans (owner_of_ports h (h.consumer hy).1 hport))
  · rw [hc.clients]
    exact (LiveMap.get_delete_of_ne hid).trans hs

theorem untouched_turn (h : s.Sourced) (hT : s.Tables) (ht : Turn s e s')
    (ha : s.actor e = some r) (hr : s'.router.closed = s.router.closed) : Untouched r s s' := by
  by_cases he : e.closing = false
  · exact untouched_of_open hT ht he ha
  · cases ht with
    | @socketClosed q hq ho =>
        cases ha
        by_cases hev : (s.client r).eventsClosed = true
        · rw [socketClosed_of_closed hev]
          refine ⟨fun hx _ => hx, fun hx _ => hx, fun hx _ => hx, fun q hq => ?_,
            fun q i p kind hq => ?_, fun q i k p hq hk => ?_, fun _ _ hs _ => hs⟩
          · rw [client_modify, if_neg hq]
          · rw [client_modify, if_neg hq]
          · rw [client_modify, if_neg hq]
            exact hk
        · exact untouched_of_closes h hT (socketClosed_closes hr (by simpa using hev))
    | consumerClosed | routerClosed | close => cases ha
    | ended hend => cases e <;> first | exact (he rfl).elim | exact hend.elim
    | _ => exact (he rfl).elim

/-- What is new has the client of the turn at one end. -/
theorem newConsumer_turn (h : s.Sourced) (hT : s.Tables) (ht : Turn s e s')
    (ha : s.actor e = some r) {k : Nat} {y : Consumer} (hy : s'.router.consumers[k]? = some y)
    (hk : s.router.consumers.length ≤ k) :
    ∃ z, s'.router.producers[y.producerId]? = some z ∧
      ((s'.client y.owner).clientId = (s'.client r).clientId ∨
        (s'.client z.owner).clientId = (s'.client r).clientId) := by
  rcases consumer_made ht hy with ⟨x, hx, -⟩ | ⟨-, g, rtp, q, l, c, o, rfl, hs, eo, -, ep⟩
  · exact absurd (Cells.lt_of_some hx) (Nat.not_lt.mpr hk)
  · obtain rfl : q = r := Option.some.inj ((actor_of_suspended rfl hs).symm.trans ha)
    have hl := later_turn ht
    obtain ⟨hq, hp, hc, -⟩ := hT.handler hs
    obtain ⟨-, ⟨z, hz, ho, -⟩, hid, -, hkind⟩ := h.handler hs
    obtain ⟨b, hb⟩ := hl.producer hz
    rw [eo, ep]
    refine ⟨_, hb, ?_⟩
    rw [ho, hl.clientId _ hq, hl.clientId _ hc, hl.clientId _ hp]
    cases hl : l.kind with
    | join => rw [hl] at hkind; exact .inl hkind
    | push => rw [hl] at hkind; exact .inr (hid.trans hkind)

theorem open_of_new (ht : Turn s e s') {k : Nat} {y : Consumer}
    (hy : s'.router.consumers[k]? = some y) (hk : s.router.consumers.length ≤ k) :
    y.closed = false := by
  rcases consumer_made ht hy with ⟨x, hx, -⟩ | ⟨rfl, g, rtp, q, l, c, o, rfl, hs, -⟩
  · exact absurd (Cells.lt_of_some hx) (Nat.not_lt.mpr hk)
  · cases ht with
    | consumed hs' =>
        cases hs.symm.trans hs'
        rw [consumed_eq, router_consumeFrom] at hy
        obtain rfl := Option.some.inj (hy.symm.trans List.getElem?_concat_length)
        rfl
    | ended hend => exact hend.elim

/-- A client that hears that a consumer of its is gone, and lost none in this turn, has heard it
before. -/
theorem told_before (hu : Untouched r s s') (htold : s.Told) (hT : s.Tables)
    (he : s.step e = some s') {q : ClientRef} {k : ConsumerId} {x : Consumer} (hq : q ≠ r)
    (hx : s'.router.consumers[k]? = some x) (ho : x.owner = q) (hc : x.closed = true)
    (hm : (q, ServerMessage.consumerClosedNotification k) ∈ s'.sent) :
    (q, ServerMessage.consumerClosedNotification k) ∈ s.sent := by
  have ht := step_turn he
  obtain ⟨y, hy, hyo⟩ : ∃ y, s.router.consumers[k]? = some y ∧ y.owner = q := by
    rcases consumer_made ht hx with ⟨y, hy, eo, -⟩ | ⟨rfl, -⟩
    · exact ⟨y, hy, eo.symm.trans ho⟩
    · cases (open_of_new ht hx (Nat.le_refl _)).symm.trans hc
  -- it was closed before the turn
  cases hx.symm.trans (hu.consumer hy (hyo ▸ hq))
  by_cases hev : (s.client q).eventsClosed = true
  · have hsilent : Silent q (s.toClient q) s := ⟨ho ▸ htold.owned hy, hev, rfl⟩
    have hsilent' : Silent q (s.toClient q) s' := by
      refine (silent_survives q _).step hsilent (fun g c p hg => ?_) he
      obtain ⟨_, _, _, _, hs, rfl, -⟩ := pendingConsume_eq_some.mp hg
      exact (hT.handler hs).2.2.1
    have hm' : _ ∈ s'.toClient q := mem_sentTo.mpr hm
    rw [hsilent'.sent] at hm'
    exact mem_sentTo.mp hm'
  · obtain ⟨-, hw⟩ := htold.told (by simpa using hev) hy ho
    obtain ⟨m, hm', hn⟩ := List.mem_filterMap.mp (hw hc)
    cases m <;> cases hn
    exact mem_sentTo.mp hm'

end Proofs

theorem told_new_of_run {config : RoomConfig} {id : CallId} {caps : RtpCapabilities}
    {es : List Event} {s : Room}
    (hx : exec step (.new config (createRouter id caps)) es = some s) : s.Told := by
  refine exec_history (I := fun _ s => s.Told) (.new config id caps)
    (fun es s e s' hx h he => ?_) hx
  refine Told.survives.step h (fun g c p hg => ?_) he
  obtain ⟨_, _, _, _, hs, rfl, -⟩ := pendingConsume_eq_some.mp hg
  exact ((tables_of_run hx).handler hs).2.2.1

end DemoApp.Sfu.Room
