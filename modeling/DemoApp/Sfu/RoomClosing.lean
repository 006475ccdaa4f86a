import DemoApp.Sfu.RoomCore

/-!
# Sfu — RoomClosing

`Closes T s s'`: going from `s` to `s'` closed transports in `T` and objects on them, every closed
object left its owner's map, and no client, handler or entry of `_clients` changed otherwise.
All closing in a room is such a step: `closeTransport_closes`, `closeRouter_closes`,
`close_closes`.
-/

namespace DemoApp.Sfu.Room

/-- The fields of a client that closing its producers and consumers does not touch. -/
def bare (c : Client) : Client := { c with producers := .empty, consumers := .empty }

/-- Between `s` and `s'` transports in `T` closed, and producers and consumers on them; each
closed object left its owner's map, and nothing else did. -/
structure Closes (T : TransportId → Prop) (s s' : Room) : Prop where
  config : s'.config = s.config
  clients : s'.clients = s.clients
  added : s'.added = s.added
  handlers : s'.handlers = s.handlers
  client : ∀ r, bare (s'.client r) = bare (s.client r)
  sent : ∃ out : List (ClientRef × ConsumerId),
    s'.sent = s.sent ++ out.map fun x => (x.1, .consumerClosedNotification x.2)
  transports : ∀ t : Nat, s'.router.transports[t]? = s.router.transports[t]? ∨
    T t ∧ ∃ x, s.router.transports[t]? = some x ∧
      s'.router.transports[t]? = some { x with closed := true }
  producers : ∀ p : Nat, s'.router.producers[p]? = s.router.producers[p]? ∨
    ∃ x, s.router.producers[p]? = some x ∧ T x.transport ∧
      s'.router.producers[p]? = some { x with closed := true } ∧
      ∀ i kind, ¬ (s'.client x.owner).producers.At i p kind
  consumers : ∀ k : Nat, s'.router.consumers[k]? = s.router.consumers[k]? ∨
    ∃ x, s.router.consumers[k]? = some x ∧ T x.transport ∧
      s'.router.consumers[k]? = some { x with closed := true } ∧
      ∀ i p, ¬ (s'.client x.owner).consumers.At i k p
  producerMap : ∀ r i p kind, (s'.client r).producers.At i p kind →
    (s.client r).producers.At i p kind
  producerMap_closed : ∀ r i p kind, (s.client r).producers.At i p kind →
    (s'.client r).producers.At i p kind ∨
      ∃ x, s'.router.producers[p]? = some x ∧ x.closed = true
  consumerMap : ∀ r i k p, (s'.client r).consumers.At i k p → (s.client r).consumers.At i k p
  consumerMap_closed : ∀ r i k p, (s.client r).consumers.At i k p →
    (s'.client r).consumers.At i k p ∨
      ∃ x, s'.router.consumers[k]? = some x ∧ T x.transport ∧ x.closed = true

namespace Closes

variable {T : TransportId → Prop} {s s' s'' : Room}

theorem refl (T : TransportId → Prop) (s : Room) : Closes T s s where
  config := rfl
  clients := rfl
  added := rfl
  handlers := rfl
  client := fun _ => rfl
  sent := ⟨[], by simp⟩
  transports := fun _ => .inl rfl
  producers := fun _ => .inl rfl
  consumers := fun _ => .inl rfl
  producerMap := fun _ _ _ _ h => h
  producerMap_closed := fun _ _ _ _ h => .inl h
  consumerMap := fun _ _ _ _ h => h
  consumerMap_closed := fun _ _ _ _ h => .inl h

/-- A closed producer stays closed. -/
theorem producer_closed (h : Closes T s s') {p : Nat} {x : Producer}
    (hx : s.router.producers[p]? = some x) (hc : x.closed = true) :
    s'.router.producers[p]? = some x := by
  rcases h.producers p with e | ⟨y, hy, -, e, -⟩
  · rw [e, hx]
  · obtain rfl : x = y := Option.some.inj (hx.symm.trans hy)
    rw [e, ← hc]

theorem consumer_closed (h : Closes T s s') {k : Nat} {x : Consumer}
    (hx : s.router.consumers[k]? = some x) (hc : x.closed = true) :
    s'.router.consumers[k]? = some x := by
  rcases h.consumers k with e | ⟨y, hy, -, e, -⟩
  · rw [e, hx]
  · obtain rfl : x = y := Option.some.inj (hx.symm.trans hy)
    rw [e, ← hc]

theorem trans (h : Closes T s s') (h' : Closes T s' s'') : Closes T s s'' where
  config := h'.config.trans h.config
  clients := h'.clients.trans h.clients
  added := h'.added.trans h.added
  handlers := h'.handlers.trans h.handlers
  client := fun r => (h'.client r).trans (h.client r)
  sent := by
    obtain ⟨out, e⟩ := h.sent
    obtain ⟨out', e'⟩ := h'.sent
    exact ⟨out ++ out', by simp [e', e]⟩
  transports := fun t => by
    rcases h.transports t with e | ⟨hT, x, hx, e⟩ <;>
      rcases h'.transports t with e' | ⟨hT', x', hx', e'⟩
    · exact .inl (e'.trans e)
    · exact .inr ⟨hT', x', e ▸ hx', e'⟩
    · exact .inr ⟨hT, x, hx, e'.trans e⟩
    · obtain rfl := Option.some.inj (hx'.symm.trans e)
      exact .inr ⟨hT, x, hx, e'⟩
  producers := fun p => by
    rcases h.producers p with e | ⟨x, hx, hT, e, hn⟩ <;>
      rcases h'.producers p with e' | ⟨x', hx', hT', e', hn'⟩
    · exact .inl (e'.trans e)
    · exact .inr ⟨x', e ▸ hx', hT', e', hn'⟩
    · exact .inr ⟨x, hx, hT, e'.trans e, fun i kind ha => hn i kind (h'.producerMap _ _ _ _ ha)⟩
    · obtain rfl := Option.some.inj (hx'.symm.trans e)
      exact .inr ⟨x, hx, hT, e', hn'⟩
  consumers := fun k => by
    rcases h.consumers k with e | ⟨x, hx, hT, e, hn⟩ <;>
      rcases h'.consumers k with e' | ⟨x', hx', hT', e', hn'⟩
    · exact .inl (e'.trans e)
    · exact .inr ⟨x', e ▸ hx', hT', e', hn'⟩
    · exact .inr ⟨x, hx, hT, e'.trans e, fun i p ha => hn i p (h'.consumerMap _ _ _ _ ha)⟩
    · obtain rfl := Option.some.inj (hx'.symm.trans e)
      exact .inr ⟨x, hx, hT, e', hn'⟩
  producerMap := fun r i p kind ha => h.producerMap _ _ _ _ (h'.producerMap _ _ _ _ ha)
  producerMap_closed := fun r i p kind ha => by
    rcases h.producerMap_closed r i p kind ha with ha' | ⟨x, hx, hc⟩
    · exact h'.producerMap_closed r i p kind ha'
    · exact .inr ⟨x, h'.producer_closed hx hc, hc⟩
  consumerMap := fun r i k p ha => h.consumerMap _ _ _ _ (h'.consumerMap _ _ _ _ ha)
  consumerMap_closed := fun r i k p ha => by
    rcases h.consumerMap_closed r i k p ha with ha' | ⟨x, hx, hT, hc⟩
    · exact h'.consumerMap_closed r i k p ha'
    · exact .inr ⟨x, h'.consumer_closed hx hc, hT, hc⟩

/-- Closings in a smaller set of transports. -/
theorem mono {T' : TransportId → Prop} (hT : ∀ t, T t → T' t) (h : Closes T s s') :
    Closes T' s s' where
  config := h.config
  clients := h.clients
  added := h.added
  handlers := h.handlers
  client := h.client
  sent := h.sent
  transports := fun t => (h.transports t).imp_right fun ⟨a, b⟩ => ⟨hT _ a, b⟩
  producers := fun p => (h.producers p).imp_right fun ⟨x, a, b, c⟩ => ⟨x, a, hT _ b, c⟩
  consumers := fun k => (h.consumers k).imp_right fun ⟨x, a, b, c⟩ => ⟨x, a, hT _ b, c⟩
  producerMap := h.producerMap
  producerMap_closed := h.producerMap_closed
  consumerMap := h.consumerMap
  consumerMap_closed := fun r i k p ha =>
    (h.consumerMap_closed r i k p ha).imp_right fun ⟨x, a, b, c⟩ => ⟨x, a, hT _ b, c⟩

/-- A producer keeps everything but its `closed`. -/
theorem producer_before (h : Closes T s s') {p : Nat} {y : Producer}
    (hy : s'.router.producers[p]? = some y) :
    ∃ x, s.router.producers[p]? = some x ∧ y = { x with closed := y.closed } := by
  rcases h.producers p with e | ⟨x, hx, -, e, -⟩
  · exact ⟨y, e ▸ hy, rfl⟩
  · obtain rfl := Option.some.inj (hy.symm.trans e)
    exact ⟨x, hx, rfl⟩

theorem consumer_before (h : Closes T s s') {k : Nat} {y : Consumer}
    (hy : s'.router.consumers[k]? = some y) :
    ∃ x, s.router.consumers[k]? = some x ∧ y = { x with closed := y.closed } := by
  rcases h.consumers k with e | ⟨x, hx, -, e, -⟩
  · exact ⟨y, e ▸ hy, rfl⟩
  · obtain rfl := Option.some.inj (hy.symm.trans e)
    exact ⟨x, hx, rfl⟩

theorem transport_before (h : Closes T s s') {t : Nat} {y : Transport}
    (hy : s'.router.transports[t]? = some y) :
    ∃ x, s.router.transports[t]? = some x ∧ y = { x with closed := y.closed } := by
  rcases h.transports t with e | ⟨-, x, hx, e⟩
  · exact ⟨y, e ▸ hy, rfl⟩
  · obtain rfl := Option.some.inj (hy.symm.trans e)
    exact ⟨x, hx, rfl⟩

theorem transport_after (h : Closes T s s') {t : Nat} {x : Transport}
    (hx : s.router.transports[t]? = some x) :
    ∃ y, s'.router.transports[t]? = some y ∧ (x.closed = true → y.closed = true) ∧
      y = { x with closed := y.closed } := by
  rcases h.transports t with e | ⟨-, x', hx', e⟩
  · exact ⟨x, e.trans hx, id, rfl⟩
  · obtain rfl := Option.some.inj (hx.symm.trans hx')
    exact ⟨_, e, fun _ => rfl, rfl⟩

theorem clientId (h : Closes T s s') (r : ClientRef) :
    (s'.client r).clientId = (s.client r).clientId := by
  simpa [bare] using congrArg Client.clientId (h.client r)

theorem eventsClosed (h : Closes T s s') (r : ClientRef) :
    (s'.client r).eventsClosed = (s.client r).eventsClosed := by
  simpa [bare] using congrArg Client.eventsClosed (h.client r)

theorem rtpCapabilities (h : Closes T s s') (r : ClientRef) :
    (s'.client r).rtpCapabilities = (s.client r).rtpCapabilities := by
  simpa [bare] using congrArg Client.rtpCapabilities (h.client r)

theorem sndTransport (h : Closes T s s') (r : ClientRef) :
    (s'.client r).sndTransport = (s.client r).sndTransport := by
  simpa [bare] using congrArg Client.sndTransport (h.client r)

theorem rcvTransport (h : Closes T s s') (r : ClientRef) :
    (s'.client r).rcvTransport = (s.client r).rcvTransport := by
  simpa [bare] using congrArg Client.rcvTransport (h.client r)

theorem suspended (h : Closes T s s') (g : HandlerRef) : s'.suspended g = s.suspended g := by
  simp [Room.suspended, h.handlers]

/-- Closing one after the other. -/
theorem foldl {f : Room → Nat → Room} {l : List Nat}
    (hf : ∀ s' x, Closes T s s' → x ∈ l → Closes T s' (f s' x)) :
    ∀ {s' : Room}, Closes T s s' → Closes T s (l.foldl f s') := by
  induction l with
  | nil => exact fun h => h
  | cons x l ih =>
      intro s' h
      exact ih (fun s₁ y h₁ hy => hf s₁ y h₁ (List.mem_cons_of_mem _ hy))
        (h.trans (hf s' x h List.mem_cons_self))

end Closes

theorem closeProducer_closes {T : TransportId → Prop} {s : Room} {p : ProducerId}
    (hT : ∀ x, s.router.producers[p]? = some x → T x.transport) :
    Closes T s (s.closeProducer p) := by
  rw [closeProducer]
  split
  · exact .refl T s
  · next x hx =>
      split
      · exact .refl T s
      · have hlt : p < s.router.producers.length := Cells.lt_of_some hx
        refine ⟨rfl, rfl, rfl, rfl, fun r => ?_, ⟨[], by simp⟩, fun _ => .inl rfl, fun q => ?_,
          fun _ => .inl rfl, fun r i q kind ha => ?_, fun r i q kind ha => ?_,
          fun r i k q ha => ?_, fun r i k q ha => .inl ?_⟩
        · rw [client_modify]; split <;> simp_all [bare]
        · rw [router_modify, List.getElem?_set]
          by_cases e : p = q
          · subst e
            refine .inr ⟨x, hx, hT x hx, by simp [hlt], fun i kind ha => ?_⟩
            simp [LiveMap.at_delete] at ha
          · exact .inl (by simp [e])
        · rw [client_modify] at ha
          split at ha
          · next e => subst e; exact (LiveMap.at_delete.mp ha).2
          · exact ha
        · by_cases e : q = p
          · subst e; exact .inr ⟨{ x with closed := true }, by simp [hlt], rfl⟩
          · refine .inl ?_
            rw [client_modify]
            split
            · next e' => subst e'; exact LiveMap.at_delete.mpr ⟨e, ha⟩
            · exact ha
        · rw [client_modify] at ha
          split at ha
          · next e => subst e; exact ha
          · exact ha
        · rw [client_modify]
          split
          · next e => subst e; exact ha
          · exact ha

theorem closeConsumer_closes {T : TransportId → Prop} {s : Room} {k : ConsumerId}
    (hT : ∀ x, s.router.consumers[k]? = some x → T x.transport) :
    Closes T s (s.closeConsumer k) := by
  rw [closeConsumer]
  split
  · exact .refl T s
  · next x hx =>
      split
      · exact .refl T s
      · have hlt : k < s.router.consumers.length := Cells.lt_of_some hx
        rw [send_frame]
        refine ⟨rfl, rfl, rfl, rfl, fun r => ?_, ?_, fun _ => .inl rfl, fun _ => .inl rfl,
          fun q => ?_, fun r i q kind ha => ?_, fun r i q kind ha => .inl ?_,
          fun r i q p ha => ?_, fun r i q p ha => ?_⟩
        · rw [client_modify]; split <;> simp_all [bare]
        · split
          · exact ⟨[], by simp⟩
          · exact ⟨[(x.owner, k)], by simp⟩
        · rw [router_modify, List.getElem?_set]
          by_cases e : k = q
          · subst e
            refine .inr ⟨x, hx, hT x hx, by simp [hlt], fun i p ha => ?_⟩
            simp [LiveMap.at_delete] at ha
          · exact .inl (by simp [e])
        · rw [client_modify] at ha
          split at ha
          · next e => subst e; exact ha
          · exact ha
        · rw [client_modify]
          split
          · next e => subst e; exact ha
          · exact ha
        · rw [client_modify] at ha
          split at ha
          · next e => subst e; exact (LiveMap.at_delete.mp ha).2
          · exact ha
        · by_cases e : q = k
          · subst e; exact .inr ⟨{ x with closed := true }, by simp [hlt], hT x hx, rfl⟩
          · refine .inl ?_
            rw [client_modify]
            split
            · next e' => subst e'; exact LiveMap.at_delete.mpr ⟨e, ha⟩
            · exact ha

theorem mem_producersOn {s : Room} {t : TransportId} {p : ProducerId} :
    p ∈ s.producersOn t ↔ ∃ x, s.router.producers[p]? = some x ∧ x.transport = t := by
  simp only [producersOn, List.mem_filter, List.mem_range, Option.any_eq_true, beq_iff_eq]
  refine ⟨fun h => h.2, fun h => ⟨?_, h⟩⟩
  obtain ⟨x, hx, -⟩ := h
  exact Cells.lt_of_some hx

theorem mem_consumersOn {s : Room} {t : TransportId} {k : ConsumerId} :
    k ∈ s.consumersOn t ↔ ∃ x, s.router.consumers[k]? = some x ∧ x.transport = t := by
  simp only [consumersOn, List.mem_filter, List.mem_range, Option.any_eq_true, beq_iff_eq]
  refine ⟨fun h => h.2, fun h => ⟨?_, h⟩⟩
  obtain ⟨x, hx, -⟩ := h
  exact Cells.lt_of_some hx

/-- Only the flag of the transport. -/
theorem setClosed_closes {T : TransportId → Prop} {s : Room} {t : TransportId} {x : Transport}
    (hx : s.router.transports[t]? = some x) (hT : T t) :
    Closes T s { s with
      router.transports := s.router.transports.set t { x with closed := true } } := by
  refine { Closes.refl T s with transports := fun u => ?_ }
  by_cases e : t = u
  · subst e
    have hlt := Cells.lt_of_some hx
    exact .inr ⟨hT, x, hx, by simp [hlt]⟩
  · exact .inl (by simp [e])

theorem closeObjects_closes {T : TransportId → Prop} {s : Room} {t : TransportId} (hT : T t) :
    Closes T s (s.closeObjects t) := by
  refine Closes.trans (.foldl (fun s' p h hp => ?_) (.refl T _))
    (.foldl (fun s' k h hk => ?_) (.refl T _))
  · refine closeProducer_closes fun y hy => ?_
    obtain ⟨z, hz, hyz⟩ := h.producer_before hy
    obtain ⟨z', hz', e⟩ := mem_producersOn.mp hp
    obtain rfl := Option.some.inj (hz.symm.trans hz')
    rw [hyz]; exact e ▸ hT
  · refine closeConsumer_closes fun y hy => ?_
    obtain ⟨z, hz, hyz⟩ := h.consumer_before hy
    obtain ⟨z', hz', e⟩ := mem_consumersOn.mp hk
    obtain rfl := Option.some.inj (hz.symm.trans hz')
    rw [hyz]; exact e ▸ hT

/-- Closing a transport closes the transport and objects on it. -/
theorem closeTransport_closes {T : TransportId → Prop} {s : Room} {t : TransportId} (hT : T t) :
    Closes T s (s.closeTransport t) := by
  rw [closeTransport]
  split
  · exact .refl T s
  · next x hx =>
      split
      · exact .refl T s
      · exact (setClosed_closes hx hT).trans (closeObjects_closes hT)

theorem closeTransport?_closes {T : TransportId → Prop} {s : Room} {o : Option TransportId}
    (hT : ∀ t, o = some t → T t) : Closes T s (s.closeTransport? o) := by
  cases o with
  | none => exact .refl T s
  | some t => exact closeTransport_closes (hT t rfl)

theorem closeRouter_closes {T : TransportId → Prop} (hT : ∀ t, T t) (s : Room) :
    Closes T s (closeRouter close s) := by
  by_cases h : s.router.closed = true
  · simpa [closeRouter, h] using Closes.refl T s
  · simp only [Bool.not_eq_true] at h
    have hopen : Closes T s { s with router.closed := true } := { Closes.refl T s with }
    have hall := hopen.trans (Closes.foldl (l := List.range s.router.transports.length)
      (fun s' t _ _ => closeTransport_closes (s := s') (hT t)) (.refl T _))
    rw [show closeRouter close s = _ from closeRouter_closeAt h 2]
    exact { hall with }

theorem close_closes {T : TransportId → Prop} (hT : ∀ t, T t) (s : Room) :
    Closes T s s.close := by
  rw [close_eq]
  split
  · exact .refl T s
  · exact { closeRouter_closes hT s with }

/-- Where it does not matter on which transports. -/
theorem closes_of_closeConsumer (s : Room) (k : ConsumerId) :
    Closes (fun _ => True) s (s.closeConsumer k) :=
  closeConsumer_closes fun _ _ => trivial

theorem closes_of_closeRouter (s : Room) : Closes (fun _ => True) s (closeRouter close s) :=
  closeRouter_closes (fun _ => trivial) s

theorem closes_of_close (s : Room) : Closes (fun _ => True) s s.close :=
  close_closes (fun _ => trivial) s

/-! ### What is closed afterwards -/

/-- What each step keeps and the step at `y` establishes holds after a fold over a list with
`y`. -/
theorem foldl_reaches {α : Type*} {f : Room → α → Room} {Q : Room → Prop} {y : α}
    (hy : ∀ s, Q (f s y)) (hkeep : ∀ s x, Q s → Q (f s x)) :
    ∀ {l : List α}, y ∈ l → ∀ s, Q (l.foldl f s)
  | x :: l, hm, s => by
      have keep : ∀ (l : List α) (s : Room), Q s → Q (l.foldl f s) := by
        intro l
        induction l with
        | nil => exact fun _ h => h
        | cons x l ih => exact fun s h => ih _ (hkeep s x h)
      rcases List.mem_cons.mp hm with rfl | hm
      · exact keep l _ (hy s)
      · exact foldl_reaches hy hkeep hm _

/-- The producer `p`, if there is one, is closed. -/
def ProducerClosed (p : ProducerId) (s : Room) : Prop :=
  ∀ x, s.router.producers[p]? = some x → x.closed = true

theorem Closes.producerClosed {T : TransportId → Prop} {s s' : Room} (h : Closes T s s')
    {p : ProducerId} (hp : ProducerClosed p s) : ProducerClosed p s' := by
  intro y hy
  obtain ⟨x, hx, e⟩ := h.producer_before hy
  have := h.producer_closed hx (hp x hx)
  rw [Option.some.inj (hy.symm.trans this)]
  exact hp x hx

theorem closeProducer_closed (s : Room) (p : ProducerId) :
    ProducerClosed p (s.closeProducer p) := by
  intro y hy
  rw [closeProducer] at hy
  split at hy
  · next h => rw [h] at hy; cases hy
  · next x hx =>
      split at hy
      · next hc => rw [hx] at hy; cases hy; exact hc
      · have hlt := Cells.lt_of_some hx
        simp only [router_modify, List.getElem?_set_self hlt, Option.some.injEq] at hy
        rw [← hy]

theorem closeTransport_closed {s : Room} {t : TransportId} {y : Transport}
    (hy : (s.closeTransport t).router.transports[t]? = some y) : y.closed = true := by
  rw [closeTransport] at hy
  split at hy
  · next h => rw [h] at hy; cases hy
  · next x hx =>
      split at hy
      · next hc => rw [hx] at hy; cases hy; exact hc
      · have hlt := Cells.lt_of_some hx
        have h := closeObjects_closes (T := fun _ => True) (t := t) trivial
          (s := { s with
            router.transports := s.router.transports.set t { x with closed := true } })
        obtain ⟨z, hz, hc, -⟩ := h.transport_after (List.getElem?_set_self hlt)
        rw [Option.some.inj (hy.symm.trans hz)]
        exact hc rfl

/-- Closing a transport that is open closes the producers on it. -/
theorem closeTransport_producers {s : Room} {t : TransportId} {x : Transport} {p : ProducerId}
    {y : Producer} (hx : s.router.transports[t]? = some x) (hopen : x.closed = false)
    (hy : s.router.producers[p]? = some y) (ht : y.transport = t) :
    ProducerClosed p (s.closeTransport t) := by
  rw [closeTransport]
  rw [hx]
  simp only [hopen, Bool.false_eq_true, if_false, closeObjects]
  refine (Closes.foldl (T := fun _ => True) (fun s₁ k _ _ => closeConsumer_closes (s := s₁)
    fun _ _ => trivial) (.refl _ _)).producerClosed ?_
  refine foldl_reaches (fun s => closeProducer_closed s p) (fun s q h => ?_)
    (mem_producersOn.mpr ⟨y, hy, ht⟩) _
  exact (closeProducer_closes (T := fun _ => True) fun _ _ => trivial).producerClosed h

/-- A router that closes closes every producer on an open transport. -/
theorem closeRouter_producers {s : Room} (hs : s.router.closed = false) {t : TransportId}
    {x : Transport} {p : ProducerId} {y : Producer} (hx : s.router.transports[t]? = some x)
    (hopen : x.closed = false) (hy : s.router.producers[p]? = some y) (ht : y.transport = t) :
    ProducerClosed p (closeRouter close s) := by
  rw [show closeRouter close s = _ from closeRouter_closeAt hs 2]
  -- up to the turn of `t` it is open and `p` is on it; its turn closes both
  have hmem : t ∈ List.range s.router.transports.length :=
    List.mem_range.mpr (Cells.lt_of_some hx)
  show ProducerClosed p ((List.range s.router.transports.length).foldl closeTransport
    { s with router.closed := true })
  have main : ∀ (l : List TransportId) (s₁ : Room), t ∈ l →
      (∃ x, s₁.router.transports[t]? = some x ∧ (x.closed = true → ProducerClosed p s₁)) →
      (∃ y, s₁.router.producers[p]? = some y ∧ y.transport = t) →
      ProducerClosed p (l.foldl closeTransport s₁) := by
    intro l
    induction l with
    | nil => intro s₁ h; cases h
    | cons u l ih =>
        rintro s₁ hm ⟨x₁, hx₁, himp⟩ ⟨y₁, hy₁, ht₁⟩
        have hc := closeTransport_closes (T := fun _ => True) (s := s₁) (t := u) trivial
        have rest : ∀ l : List TransportId, ∀ s₂, ProducerClosed p s₂ →
            ProducerClosed p (l.foldl closeTransport s₂) := fun l s₂ h =>
          (Closes.foldl (T := fun _ => True) (fun s₃ v _ _ => closeTransport_closes (s := s₃)
            (t := v) trivial) (.refl _ s₂)).producerClosed h
        by_cases hcl : x₁.closed = true
        · exact rest l _ (hc.producerClosed (himp hcl))
        · simp only [Bool.not_eq_true] at hcl
          by_cases e : u = t
          · subst e
            exact rest l _ (closeTransport_producers hx₁ hcl hy₁ ht₁)
          · refine ih _ ((List.mem_cons.mp hm).resolve_left (Ne.symm e)) ?_ ?_
            · have hkeep := closeTransport_closes (T := (· = u)) (s := s₁) (t := u) rfl
              rcases hkeep.transports t with e' | ⟨e', -⟩
              · exact ⟨x₁, e'.trans hx₁, fun h => by rw [hcl] at h; cases h⟩
              · exact absurd e'.symm e
            · rcases hc.producers p with e' | ⟨z, hz, -, e', -⟩
              · exact ⟨y₁, e'.trans hy₁, ht₁⟩
              · obtain rfl := Option.some.inj (hz.symm.trans hy₁)
                exact ⟨_, e', ht₁⟩
  exact main _ _ hmem ⟨x, hx, fun h => by rw [hopen] at h; cases h⟩ ⟨y, hy, ht⟩

/-! ### The close of a websocket -/

/-- The transports of a client. -/
def Ports (s : Room) (r : ClientRef) (t : TransportId) : Prop :=
  ∃ role, (s.client r).transport role = some t

/-- The client `r` with its websocket and its events closed, and its id forgotten. -/
def quit (s : Room) (r : ClientRef) : Room :=
  { s.modify r fun c => { c with socketClosed := true, eventsClosed := true } with
    clients := s.clients.delete (s.client r).clientId }

theorem Closes.withClients {T : TransportId → Prop} {s s' : Room} (h : Closes T s s')
    (m : LiveMap ClientId ClientRef) : Closes T { s with clients := m } { s' with clients := m } :=
  { h with clients := rfl }

theorem closeTransports_closes (s : Room) (r : ClientRef) :
    Closes (s.Ports r) s (s.closeTransports r) := by
  have h₁ : Closes (s.Ports r) s (s.closeTransport? (s.client r).sndTransport) :=
    closeTransport?_closes fun t e => ⟨.producing, e⟩
  refine h₁.trans (closeTransport?_closes fun t e => ⟨.consuming, ?_⟩)
  rw [h₁.rcvTransport] at e
  exact e

theorem closeTransports_closed {s : Room} {r : ClientRef} {t : TransportId} (ht : s.Ports r t)
    {y : Transport} (hy : (s.closeTransports r).router.transports[t]? = some y) :
    y.closed = true := by
  obtain ⟨role, ht⟩ := ht
  have h₁ : Closes (fun _ => True) s (s.closeTransport? (s.client r).sndTransport) :=
    closeTransport?_closes fun _ _ => trivial
  unfold closeTransports at hy
  dsimp only at hy
  rw [h₁.rcvTransport] at hy
  cases role with
  | producing =>
      rw [show (s.client r).sndTransport = some t from ht] at hy
      have h₂ : Closes (fun _ => True) (s.closeTransport t)
          ((s.closeTransport t).closeTransport? (s.client r).rcvTransport) :=
        closeTransport?_closes fun _ _ => trivial
      obtain ⟨x, hx, e⟩ := h₂.transport_before hy
      obtain ⟨z, hz, hc, -⟩ := h₂.transport_after hx
      rw [Option.some.inj (hy.symm.trans hz)]
      exact hc (closeTransport_closed hx)
  | consuming =>
      rw [show (s.client r).rcvTransport = some t from ht] at hy
      exact closeTransport_closed hy

/-- The close of a websocket whose events are closed. -/
theorem socketClosed_of_closed {s : Room} {r : ClientRef}
    (he : (s.client r).eventsClosed = true) :
    s.socketClosed r = s.modify r fun c => { c with socketClosed := true } := by
  simp [socketClosed, he]

/-- What the close of a websocket does to a room: the client quits, its transports and what is on
them close, and the room closes if nobody is left. -/
theorem socketClosed_spec {s : Room} {r : ClientRef} (he : (s.client r).eventsClosed = false) :
    ∃ s₂, Closes (s.Ports r) (s.quit r) s₂ ∧ s₂.router.closed = s.router.closed ∧
      (∀ t, s.Ports r t → ∀ y, s₂.router.transports[t]? = some y → y.closed = true) ∧
      s.socketClosed r = if s₂.clients.size < 1 then s₂.close else s₂ := by
  let s₁ := s.modify r fun c => { c with socketClosed := true, eventsClosed := true }
  have hports : ∀ t, s₁.Ports r t ↔ s.Ports r t := by
    intro t
    refine exists_congr fun role => ?_
    cases role <;> simp [s₁, Client.transport]
  have hid : (s₁.client r).clientId = (s.client r).clientId := by simp [s₁]
  have hcl := closeTransports_closes s₁ r
  refine ⟨{ s₁.closeTransports r with clients := s.clients.delete (s.client r).clientId },
    (hcl.mono fun t h => (hports t).mp h).withClients _, ?_, fun t ht y hy => ?_, ?_⟩
  · exact congrArg Core.routerClosed (core_closeTransports s₁ r)
  · exact closeTransports_closed ((hports t).mpr ht) hy
  · have e : ((s.modify r fun c => { c with socketClosed := true }).modify r
        fun c => { c with eventsClosed := true }) = s₁ := by
      simp [s₁, modify]
    rw [socketClosed, clientClosed]
    simp only [client_modify, if_true, he, Bool.false_eq_true, if_false, e]
    rw [hcl.clients, hcl.clientId, hid]
    rfl

end DemoApp.Sfu.Room
