import DemoApp.Sfu.Notices

/-!
# Sfu — Later

What a turn leaves of a room, and what it makes in it.

* `Later`: an object keeps its owner and what it was made on, an open one may close, and a client
  keeps its ids (`later_turn`).
* `Makes`: a turn makes at most one object, in the continuation of the call that created it, with
  what its handler has kept (`makes_turn`).
* `consume_made`: a handler waits in `consume` because its loop has come to a producer of one client
  of the room for another.
-/

namespace DemoApp.Sfu.Room
open Machine

/-! ### What a turn never changes -/

/-- The objects and the clients of `s` are those of `s'`, which may have more. -/
structure Later (s s' : Room) : Prop where
  config : s'.config = s.config
  call : s'.router.id = s.router.id
  capabilities : s'.router.rtpCapabilities = s.router.rtpCapabilities
  added : s.added ≤ s'.added
  clientId : ∀ r < s.added, (s'.client r).clientId = (s.client r).clientId
  userId : ∀ r < s.added, (s'.client r).userId = (s.client r).userId
  transport : ∀ {t : Nat} {x}, s.router.transports[t]? = some x →
    ∃ b, s'.router.transports[t]? = some { x with closed := x.closed || b }
  producer : ∀ {p : Nat} {x}, s.router.producers[p]? = some x →
    ∃ b, s'.router.producers[p]? = some { x with closed := x.closed || b }
  consumer : ∀ {k : Nat} {x}, s.router.consumers[k]? = some x →
    ∃ b, s'.router.consumers[k]? = some { x with closed := x.closed || b }

namespace Later

variable {s s' s'' : Room}

theorem trans (h : Later s s') (h' : Later s' s'') : Later s s'' where
  config := h'.config.trans h.config
  call := h'.call.trans h.call
  capabilities := h'.capabilities.trans h.capabilities
  added := Nat.le_trans h.added h'.added
  clientId := fun r hr =>
    (h'.clientId r (Nat.lt_of_lt_of_le hr h.added)).trans (h.clientId r hr)
  userId := fun r hr => (h'.userId r (Nat.lt_of_lt_of_le hr h.added)).trans (h.userId r hr)
  transport := fun hx => by
    obtain ⟨b, hb⟩ := h.transport hx
    obtain ⟨b', hb'⟩ := h'.transport hb
    exact ⟨b || b', by rw [hb', Bool.or_assoc]⟩
  producer := fun hx => by
    obtain ⟨b, hb⟩ := h.producer hx
    obtain ⟨b', hb'⟩ := h'.producer hb
    exact ⟨b || b', by rw [hb', Bool.or_assoc]⟩
  consumer := fun hx => by
    obtain ⟨b, hb⟩ := h.consumer hx
    obtain ⟨b', hb'⟩ := h'.consumer hb
    exact ⟨b || b', by rw [hb', Bool.or_assoc]⟩

theorem frame {l o n} : Later s { s with handlers := l, sent := o, now := n } :=
  ⟨rfl, rfl, rfl, Nat.le_refl _, fun _ _ => rfl, fun _ _ => rfl,
    fun hx => ⟨false, by simpa using hx⟩, fun hx => ⟨false, by simpa using hx⟩,
    fun hx => ⟨false, by simpa using hx⟩⟩

theorem refl (s : Room) : Later s s := frame

theorem runLoop (s : Room) (h : HandlerRef) (r : ClientRef) (loop : Loop) :
    Later s (s.runLoop h r loop) := by
  obtain ⟨x, out, e⟩ := runLoop_frame s h r loop
  rw [e]
  exact frame

theorem consumeFrom (s : Room) (h : HandlerRef) (r : ClientRef) (loop : Loop)
    (call : ConsumeCall) : Later s (s.consumeFrom h r loop call) := by
  obtain ⟨a, e⟩ := consumeFrom_frame s h r loop call
  rw [e]
  exact frame

/-- A client changes but for its ids, and there are new objects. -/
theorem grow {r : ClientRef} {f : Client → Client} {ts : List Transport} {ps : List Producer}
    {ks : List Consumer} (hid : (f (s.client r)).clientId = (s.client r).clientId)
    (hu : (f (s.client r)).userId = (s.client r).userId) :
    Later s ((s.grown ts ps ks).modify r f) := by
  refine ⟨rfl, rfl, rfl, Nat.le_refl _, fun q _ => ?_, fun q _ => ?_, fun hx => ⟨false, ?_⟩,
    fun hx => ⟨false, ?_⟩, fun hx => ⟨false, ?_⟩⟩
  · rw [client_modify]
    split
    · next e => subst e; exact hid
    · rfl
  · rw [client_modify]
    split
    · next e => subst e; exact hu
    · rfl
  · rw [grown, Bool.or_false]
    exact Cells.append_of_some hx
  · rw [grown, Bool.or_false]
    exact Cells.append_of_some hx
  · rw [grown, Bool.or_false]
    exact Cells.append_of_some hx

theorem modify {r : ClientRef} {f : Client → Client}
    (hid : (f (s.client r)).clientId = (s.client r).clientId)
    (hu : (f (s.client r)).userId = (s.client r).userId) : Later s (s.modify r f) := by
  have h : Later s ((s.grown [] [] []).modify r f) := grow hid hu
  rwa [grown_nil] at h

theorem add (s : Room) (ctx : ClientContext) : Later s (s.add ctx) := by
  refine ⟨rfl, rfl, rfl, Nat.le_succ _, fun q hq => ?_, fun q hq => ?_,
    (refl s).transport, (refl s).producer, (refl s).consumer⟩ <;>
  simp [Room.add, Nat.ne_of_lt hq]

end Later

/-! ### Closing -/

/-- What no closing changes. -/
def constants (s : Room) : CallId × RtpCapabilities := (s.router.id, s.router.rtpCapabilities)

theorem constants_closeProducer (s : Room) (p : ProducerId) :
    (s.closeProducer p).constants = s.constants := by
  rw [closeProducer]
  split
  · rfl
  · split <;> rfl

theorem constants_closeConsumer (s : Room) (k : ConsumerId) :
    (s.closeConsumer k).constants = s.constants := by
  rw [closeConsumer]
  split
  · rfl
  · split
    · rfl
    · rw [send_frame]; rfl

theorem constants_closeTransport (s : Room) (t : TransportId) :
    (s.closeTransport t).constants = s.constants := by
  rw [closeTransport]
  split
  · rfl
  · split
    · rfl
    · simp only [closeObjects, foldl_eq constants constants_closeConsumer,
        foldl_eq constants constants_closeProducer]
      rfl

theorem constants_closeTransport? (s : Room) (o : Option TransportId) :
    (s.closeTransport? o).constants = s.constants := by
  cases o with
  | none => rfl
  | some t => exact constants_closeTransport s t

theorem constants_closeRouter {listener : Room → Room}
    (hl : ∀ s, (listener s).constants = s.constants) (s : Room) :
    (closeRouter listener s).constants = s.constants := by
  have h := foldl_eq constants constants_closeTransport (List.range s.router.transports.length)
    { s with router.closed := true }
  rw [closeRouter]
  split
  · rfl
  · dsimp only
    split
    · exact (hl _).trans h
    · exact h

theorem constants_closeAt : ∀ (n : Nat) (s : Room), (closeAt n s).constants = s.constants
  | 0,     _ => rfl
  | n + 1, s => by
      rw [closeAt]
      split
      · rfl
      · exact constants_closeRouter (constants_closeAt n) s

theorem constants_close (s : Room) : s.close.constants = s.constants := constants_closeAt 2 s

theorem constants_socketClosed (s : Room) (r : ClientRef) :
    (s.socketClosed r).constants = s.constants := by
  rw [socketClosed]
  split
  · rfl
  · rw [clientClosed]
    have h : ∀ x : Room, (x.closeTransports r).constants = x.constants := fun x =>
      (constants_closeTransport? _ _).trans (constants_closeTransport? _ _)
    dsimp only
    split
    · exact (constants_close _).trans (h _)
    · exact h _

theorem Later.closes {T : TransportId → Prop} {s s' : Room} (h : Closes T s s')
    (hc : s'.constants = s.constants) : Later s s' where
  config := h.config
  call := congrArg Prod.fst hc
  capabilities := congrArg Prod.snd hc
  added := Nat.le_of_eq h.added.symm
  clientId := fun r _ => h.clientId r
  userId := fun r _ => by simpa [bare] using congrArg Client.userId (h.client r)
  transport := fun {t x} hx => by
    rcases h.transports t with e | ⟨-, y, hy, e⟩
    · exact ⟨false, by simpa using e.trans hx⟩
    · cases hx.symm.trans hy
      exact ⟨true, by simpa using e⟩
  producer := fun {p x} hx => by
    rcases h.producers p with e | ⟨y, hy, -, e, -⟩
    · exact ⟨false, by simpa using e.trans hx⟩
    · cases hx.symm.trans hy
      exact ⟨true, by simpa using e⟩
  consumer := fun {k x} hx => by
    rcases h.consumers k with e | ⟨y, hy, -, e, -⟩
    · exact ⟨false, by simpa using e.trans hx⟩
    · cases hx.symm.trans hy
      exact ⟨true, by simpa using e⟩

theorem Later.quit (s : Room) (r : ClientRef) : Later s (s.quit r) := by
  have h : Later s (s.modify r fun c => { c with socketClosed := true, eventsClosed := true }) :=
    .modify rfl rfl
  exact ⟨h.config, h.call, h.capabilities, h.added, h.clientId, h.userId, h.transport, h.producer,
    h.consumer⟩

theorem Later.socketClosed (s : Room) (r : ClientRef) : Later s (s.socketClosed r) := by
  by_cases he : (s.client r).eventsClosed = true
  · rw [socketClosed_of_closed he]
    exact .modify rfl rfl
  · obtain ⟨s₂, hc, -, -, e⟩ := socketClosed_spec (by simpa using he)
    have hq := Later.quit s r
    have hcon := constants_socketClosed s r
    rw [e] at hcon ⊢
    split at hcon
    · next hsize =>
        rw [if_pos hsize]
        exact hq.trans (.closes ((hc.mono fun _ _ => trivial).trans (closes_of_close s₂)) hcon)
    · next hsize =>
        rw [if_neg hsize]
        exact hq.trans (.closes hc hcon)

/-- **A turn keeps what is there.** -/
theorem later_turn {s s' : Room} {e : Event} (ht : Turn s e s') : Later s s' := by
  cases ht with
  | add => exact .add s _
  | socketClosed => exact .socketClosed s _
  | capabilities => exact .modify rfl rfl
  | @joinCallRequest r q =>
      exact (Later.frame (s := s) (o := s.sent) (n := s.now)).trans (.runLoop _ _ r _)
  | spawn | answered | consumeFailed | ended | elapsed => exact .frame
  | ignored => exact .refl s
  | @transportCreated h info r q role =>
      obtain ⟨out, -, e⟩ := transportCreated_eq s h r q role info
      have hg : Later s ((s.grown [⟨r, role, false⟩] [] []).modify r fun c =>
          c.setTransport role s.router.transports.length) :=
        .grow (by cases role <;> rfl) (by cases role <;> rfl)
      rw [e]
      exact hg.trans .frame
  | @produced h r q t kind =>
      obtain ⟨out, -, e⟩ := produced_eq s h r q t kind
      rw [e]
      exact ((Later.grow rfl rfl).trans (.frame (l := s.handlers) (n := s.now))).trans
        (.runLoop _ _ _ _)
  | consumed =>
      rw [consumed_eq]
      exact ((Later.grow rfl rfl).trans (.frame (l := s.handlers) (n := s.now))).trans
        (.consumeFrom _ _ _ _ _)
  | resumed => exact .runLoop s _ _ _
  | consumerClosed => exact .closes (closes_of_closeConsumer _ _) (constants_closeConsumer _ _)
  | routerClosed =>
      exact .closes (closes_of_closeRouter s) (constants_closeRouter constants_close s)
  | close => exact .closes (closes_of_close s) (constants_close s)

/-! ### What a turn makes -/

/-- The tables of a router with its objects as they were made. -/
def made (router : Router) : List Transport × List Producer × List Consumer :=
  (router.transports.map fun x => { x with closed := false },
    router.producers.map fun x => { x with closed := false },
    router.consumers.map fun x => { x with closed := false })

/-- The objects that a turn on `e` makes. -/
inductive Makes (s : Room) : Event → List Transport → List Producer → List Consumer → Prop
  | nothing {e} : Makes s e [] [] []
  | transport {h info r q role o} (hs : s.suspended h = some ⟨r, .createTransport q role o⟩) :
      Makes s (.transportCreated h info) [⟨r, role, false⟩] [] []
  | producer {h r q t kind rtp} (hs : s.suspended h = some ⟨r, .produce q t kind rtp⟩) :
      Makes s (.produced h) [] [⟨r, t, kind, false⟩] []
  | consumer {h rtp r loop call o} (hs : s.suspended h = some ⟨r, .consume loop call o⟩) :
      Makes s (.consumed h rtp) [] [] [⟨call.consuming, o.transport, o.producerId, false⟩]

theorem made_closes {T : TransportId → Prop} {s s' : Room} (h : Closes T s s') :
    made s'.router = made s.router := by
  refine Prod.ext (List.ext_getElem? fun t => ?_) (Prod.ext (List.ext_getElem? fun p => ?_)
    (List.ext_getElem? fun k => ?_)) <;> simp only [made, List.getElem?_map]
  · rcases h.transports t with e | ⟨-, x, hx, e⟩
    · rw [e]
    · rw [e, hx]; rfl
  · rcases h.producers p with e | ⟨x, hx, -, e, -⟩
    · rw [e]
    · rw [e, hx]; rfl
  · rcases h.consumers k with e | ⟨x, hx, -, e, -⟩
    · rw [e]
    · rw [e, hx]; rfl

theorem made_socketClosed (s : Room) (r : ClientRef) :
    made (s.socketClosed r).router = made s.router := by
  by_cases he : (s.client r).eventsClosed = true
  · rw [socketClosed_of_closed he, router_modify]
  · obtain ⟨s₂, hc, -, -, e⟩ := socketClosed_spec (by simpa using he)
    have h₂ : made s₂.router = made (s.quit r).router := made_closes hc
    rw [e]
    split
    · exact (made_closes (closes_of_close s₂)).trans h₂
    · exact h₂

theorem router_runLoop (s : Room) (h : HandlerRef) (r : ClientRef) (loop : Loop) :
    (s.runLoop h r loop).router = s.router := by
  obtain ⟨x, out, e⟩ := runLoop_frame s h r loop
  rw [e]

theorem router_consumeFrom (s : Room) (h : HandlerRef) (r : ClientRef) (loop : Loop)
    (call : ConsumeCall) : (s.consumeFrom h r loop call).router = s.router := by
  obtain ⟨a, e⟩ := consumeFrom_frame s h r loop call
  rw [e]; rfl

/-- **What a turn makes**: at most one object, in the continuation of the call that made it. -/
theorem makes_turn {s s' : Room} {e : Event} (ht : Turn s e s') :
    ∃ ts ps ks, s.Makes e ts ps ks ∧ made s'.router = made (s.grown ts ps ks).router := by
  have none : made s'.router = made s.router →
      ∃ ts ps ks, s.Makes e ts ps ks ∧ made s'.router = made (s.grown ts ps ks).router :=
    fun h => ⟨[], [], [], .nothing, by rw [grown_nil]; exact h⟩
  cases ht with
  | add | capabilities | spawn | ignored | answered | consumeFailed | ended | elapsed =>
      exact none rfl
  | socketClosed => exact none (made_socketClosed s _)
  | joinCallRequest => exact none (congrArg made (router_runLoop _ _ _ _))
  | @transportCreated h info r q role o hs =>
      obtain ⟨out, -, e⟩ := transportCreated_eq s h r q role info
      exact ⟨_, _, _, .transport hs, by rw [e]; rfl⟩
  | @produced h r q t kind rtp hs =>
      obtain ⟨out, -, e⟩ := produced_eq s h r q t kind
      exact ⟨_, _, _, .producer hs, by rw [e, router_runLoop]; rfl⟩
  | consumed hs => exact ⟨_, _, _, .consumer hs, by rw [consumed_eq, router_consumeFrom]; rfl⟩
  | resumed => exact none (congrArg made (router_runLoop s _ _ _))
  | consumerClosed => exact none (made_closes (closes_of_closeConsumer _ _))
  | routerClosed => exact none (made_closes (closes_of_closeRouter s))
  | close => exact none (made_closes (closes_of_close s))

section Back

variable {s s' : Room} {e : Event}

theorem transport_made (ht : Turn s e s') {t : Nat} {y : Transport}
    (hy : s'.router.transports[t]? = some y) :
    (∃ x, s.router.transports[t]? = some x ∧ y.owner = x.owner ∧ y.role = x.role) ∨
      t = s.router.transports.length ∧ ∃ h info q o, e = .transportCreated h info ∧
        s.suspended h = some ⟨y.owner, .createTransport q y.role o⟩ := by
  obtain ⟨ts, ps, ks, hm, e'⟩ := makes_turn ht
  obtain ⟨x, hx, ex⟩ := Cells.some_of_map (congrArg Prod.fst e').symm hy
  obtain ⟨eo, er⟩ : x.owner = y.owner ∧ x.role = y.role := by simpa using ex
  rw [← eo, ← er]
  cases hm with
  | transport hs =>
      rcases Cells.concat_eq_some.mp hx with hx | ⟨rfl, rfl⟩
      · exact .inl ⟨x, hx, rfl, rfl⟩
      · exact .inr ⟨rfl, _, _, _, _, rfl, hs⟩
  | nothing | producer | consumer => exact .inl ⟨x, by simpa [grown] using hx, rfl, rfl⟩

theorem producer_made (ht : Turn s e s') {p : Nat} {y : Producer}
    (hy : s'.router.producers[p]? = some y) :
    (∃ x, s.router.producers[p]? = some x ∧ y.owner = x.owner ∧ y.transport = x.transport ∧
      y.kind = x.kind) ∨
      p = s.router.producers.length ∧ ∃ h q rtp, e = .produced h ∧
        s.suspended h = some ⟨y.owner, .produce q y.transport y.kind rtp⟩ := by
  obtain ⟨ts, ps, ks, hm, e'⟩ := makes_turn ht
  obtain ⟨x, hx, ex⟩ := Cells.some_of_map (congrArg (Prod.fst ∘ Prod.snd) e').symm hy
  obtain ⟨eo, et, ek⟩ : x.owner = y.owner ∧ x.transport = y.transport ∧ x.kind = y.kind := by
    simpa using ex
  rw [← eo, ← et, ← ek]
  cases hm with
  | producer hs =>
      rcases Cells.concat_eq_some.mp hx with hx | ⟨rfl, rfl⟩
      · exact .inl ⟨x, hx, rfl, rfl, rfl⟩
      · exact .inr ⟨rfl, _, _, _, rfl, hs⟩
  | nothing | transport | consumer => exact .inl ⟨x, by simpa [grown] using hx, rfl, rfl, rfl⟩

theorem consumer_made (ht : Turn s e s') {k : Nat} {y : Consumer}
    (hy : s'.router.consumers[k]? = some y) :
    (∃ x, s.router.consumers[k]? = some x ∧ y.owner = x.owner ∧ y.transport = x.transport ∧
      y.producerId = x.producerId) ∨
      k = s.router.consumers.length ∧ ∃ h rtp r loop call o, e = .consumed h rtp ∧
        s.suspended h = some ⟨r, .consume loop call o⟩ ∧ y.owner = call.consuming ∧
        y.transport = o.transport ∧ y.producerId = o.producerId := by
  obtain ⟨ts, ps, ks, hm, e'⟩ := makes_turn ht
  obtain ⟨x, hx, ex⟩ := Cells.some_of_map (congrArg (Prod.snd ∘ Prod.snd) e').symm hy
  obtain ⟨eo, et, ep⟩ : x.owner = y.owner ∧ x.transport = y.transport ∧
      x.producerId = y.producerId := by simpa using ex
  rw [← eo, ← et, ← ep]
  cases hm with
  | consumer hs =>
      rcases Cells.concat_eq_some.mp hx with hx | ⟨rfl, rfl⟩
      · exact .inl ⟨x, hx, rfl, rfl, rfl⟩
      · exact .inr ⟨rfl, _, _, _, _, _, _, rfl, hs, rfl, rfl, rfl⟩
  | nothing | transport | producer => exact .inl ⟨x, by simpa [grown] using hx, rfl, rfl, rfl⟩

theorem producers_modify {q r : ClientRef} {f : Client → Client}
    (hf : (f (s.client r)).producers = (s.client r).producers) :
    ((s.modify r f).client q).producers = (s.client q).producers := by
  rw [client_modify]
  split
  · next e => rw [hf, e]
  · rfl

theorem producers_socketClosed {r q : ClientRef} {i p : Nat} {kind : MediaKind}
    (ha : ((s.socketClosed r).client q).producers.At i p kind) :
    (s.client q).producers.At i p kind := by
  by_cases he : (s.client r).eventsClosed = true
  · have hm : ((s.modify r fun c => { c with socketClosed := true }).client q).producers =
        (s.client q).producers := producers_modify rfl
    rw [socketClosed_of_closed he, hm] at ha
    exact ha
  · obtain ⟨s₂, hc, -, -, e⟩ := socketClosed_spec (by simpa using he)
    have hq : ((s.quit r).client q).producers = (s.client q).producers :=
      producers_modify (s := s) (r := r)
        (f := fun c => { c with socketClosed := true, eventsClosed := true }) rfl
    rw [← hq]
    rw [e] at ha
    split at ha
    · exact hc.producerMap _ _ _ _ ((closes_of_close s₂).producerMap _ _ _ _ ha)
    · exact hc.producerMap _ _ _ _ ha

/-- A producer in the map of its client was there, or has just been made. -/
theorem producers_made (ht : Turn s e s') {q : ClientRef} {i p : Nat} {kind : MediaKind}
    (ha : (s'.client q).producers.At i p kind) :
    (s.client q).producers.At i p kind ∨ p = s.router.producers.length ∧
      ∃ h q' t rtp, e = .produced h ∧ s.suspended h = some ⟨q, .produce q' t kind rtp⟩ := by
  cases ht with
  | @add ctx =>
      simp only [add, Function.update_apply] at ha
      split at ha
      · exact absurd ha LiveMap.not_at_empty
      · exact .inl ha
  | socketClosed => exact .inl (producers_socketClosed ha)
  | @capabilities r caps =>
      have hm : ((s.modify r fun c => { c with rtpCapabilities := some caps }).client q).producers =
          (s.client q).producers := producers_modify rfl
      exact .inl (hm ▸ ha)
  | @joinCallRequest r q' =>
      obtain ⟨x, out, e⟩ := runLoop_frame { s with handlers := s.handlers ++ [none] }
        s.handlers.length r ⟨.join q', 0⟩
      rw [joinCallRequest, e] at ha
      exact .inl ha
  | spawn | ignored | answered | consumeFailed | ended | elapsed => exact .inl ha
  | @transportCreated h info r q' role o hs =>
      obtain ⟨out, -, e⟩ := transportCreated_eq s h r q' role info
      have hf : (((s.grown [⟨r, role, false⟩] [] []).modify r fun c =>
          c.setTransport role s.router.transports.length).client q).producers =
            (s.client q).producers := producers_modify (by cases role <;> rfl)
      rw [e] at ha
      exact .inl (hf ▸ ha)
  | @produced h r q' t kind' rtp hs =>
      obtain ⟨out, -, e⟩ := produced_eq s h r q' t kind'
      obtain ⟨x, out', e'⟩ := runLoop_frame { (s.grown [] [⟨r, t, kind', false⟩] []).modify r
        fun c => { c with producers := c.producers.set s.router.producers.length kind' } with
        sent := s.sent ++ out } h r ⟨.push, 0⟩
      rw [e, e'] at ha
      simp only [client_modify] at ha
      split at ha
      · next hr =>
          subst hr
          by_cases hp : p = s.router.producers.length
          · subst hp
            obtain ⟨j, hj⟩ := LiveMap.exists_at_set (s.client q).producers
              s.router.producers.length kind'
            obtain ⟨-, rfl⟩ := LiveMap.at_inj ha hj
            exact .inr ⟨rfl, h, q', t, rtp, rfl, hs⟩
          · exact .inl ((LiveMap.at_set_of_ne hp).mp ha)
      · exact .inl ha
  | @consumed h rtp r loop call o hs =>
      have hf : (((s.grown [] [] [⟨call.consuming, o.transport, o.producerId, false⟩]).modify
          call.consuming fun c =>
            { c with consumers := c.consumers.set s.router.consumers.length o.producerId }).client
              q).producers = (s.client q).producers := producers_modify rfl
      rw [consumed_eq] at ha
      obtain ⟨a, e⟩ := consumeFrom_frame _ h r loop call
      rw [e] at ha
      exact .inl (hf ▸ ha)
  | @resumed h r loop hs =>
      obtain ⟨x, out, e⟩ := runLoop_frame s h r loop
      rw [e] at ha
      exact .inl ha
  | consumerClosed => exact .inl ((closes_of_closeConsumer _ _).producerMap _ _ _ _ ha)
  | routerClosed => exact .inl ((closes_of_closeRouter s).producerMap _ _ _ _ ha)
  | close => exact .inl ((closes_of_close s).producerMap _ _ _ _ ha)

end Back

/-! ### Whom a call of `consume` is for -/

/-- The arguments of a call of `consume` that a loop over the producers comes to. -/
structure Offered (s : Room) (call : ConsumeCall) (o : ConsumeOptions) : Prop where
  producer : ∃ i, (s.client call.producing).producers.At i o.producerId o.kind
  transport : (s.client call.consuming).rcvTransport = some o.transport

/-- `_consumeClient` was called by a loop of the client `r` for these two clients. -/
structure Called (s : Room) (r : ClientRef) (loop : Loop) (call : ConsumeCall) : Prop where
  producing : s.clients.get call.producingClientId = some call.producing
  consuming : ∃ id, s.clients.get id = some call.consuming ∧
    match loop.kind with
    | .join _ => id = (s.client r).clientId ∧ call.producingClientId ≠ id
    | .push   => call.producingClientId = (s.client r).clientId ∧ call.producingClientId ≠ id

section Calls

variable {s s' : Room} {e : Event} {h g : HandlerRef} {r q : ClientRef} {loop l : Loop}
  {call c : ConsumeCall} {o : ConsumeOptions}

/-- The loop over the producers suspends at a producer of the one client, for the other. -/
theorem consume_of_consumeFrom
    (hs : (s.consumeFrom h r loop call).suspended g = some ⟨q, .consume l c o⟩) :
    (g ≠ h ∧ s.suspended g = some ⟨q, .consume l c o⟩) ∨
      g = h ∧ q = r ∧ l = loop ∧ (∃ cursor, c = { call with cursor }) ∧ s.Offered c o := by
  rcases consumeFrom_cases s h r loop call with
    ⟨e, -⟩ | ⟨cursor, p, kind, o', e, ⟨i, -, hp⟩, ho, -⟩ <;>
    rw [e, suspend, suspended_set] at hs
  · split at hs
    · split at hs <;> cases hs
    · next hne => exact .inl ⟨hne, hs⟩
  · split at hs
    · next hg =>
        split at hs
        · cases hs
          obtain ⟨-, -, ht, rfl, rfl⟩ := toConsume_eq_some.mp ho
          exact .inr ⟨hg, rfl, rfl, ⟨cursor, rfl⟩, ⟨i, hp⟩, ht⟩
        · cases hs
    · next hne => exact .inl ⟨hne, hs⟩

/-- The loop over the clients calls `_consumeClient` for another id than the client's own. -/
theorem runLoop_other (s : Room) (h : HandlerRef) (r : ClientRef) (loop : Loop) :
    s.runLoop h r loop = (s.afterLoop r loop.kind).finish h ∨
      ∃ cursor id, id ≠ (s.client r).clientId ∧
        s.runLoop h r loop = s.consumeClient h r { loop with cursor }
          (Loop.pair loop.kind (s.client r).clientId id).1
          (Loop.pair loop.kind (s.client r).clientId id).2 := by
  rw [runLoop]
  split
  · exact .inl rfl
  · next cursor k id hn =>
      obtain ⟨v, -, hid⟩ := LiveMap.exists_of_next hn
      refine .inr ⟨cursor, id, ?_, ?_⟩
      · rw [skip] at hid
        split at hid
        · cases hid
        · next hne => cases hid; exact Ne.symm hne
      · cases loop.kind <;> rfl

theorem consume_of_runLoop
    (hs : (s.runLoop h r loop).suspended g = some ⟨q, .consume l c o⟩) :
    (g ≠ h ∧ s.suspended g = some ⟨q, .consume l c o⟩) ∨
      g = h ∧ q = r ∧ s.Called q l c ∧ s.Offered c o := by
  by_cases hg : g = h
  · subst hg
    refine .inr ⟨rfl, ?_⟩
    rcases runLoop_other s g r loop with e | ⟨cursor, id, hid, e⟩ <;> rw [e] at hs
    · rw [suspended_finish, if_pos rfl] at hs
      cases hs
    · rcases consumeClient_cases s g r { loop with cursor }
        (Loop.pair loop.kind (s.client r).clientId id).1
        (Loop.pair loop.kind (s.client r).clientId id).2 with ⟨-, e'⟩ | ⟨p, k, hp, hk, e'⟩ <;>
        rw [e'] at hs
      · rw [suspend, suspended_set, if_pos rfl] at hs
        split at hs <;> cases hs
      · rcases consume_of_consumeFrom hs with ⟨hne, -⟩ | ⟨-, rfl, rfl, ⟨j, rfl⟩, ho⟩
        · exact absurd rfl hne
        · refine ⟨rfl, ⟨hp, _, hk, ?_⟩, ho⟩
          cases hkind : loop.kind with
          | join => exact ⟨rfl, hid⟩
          | push => exact ⟨rfl, Ne.symm hid⟩
  · exact .inl ⟨hg, (suspended_runLoop hg).symm.trans hs⟩

theorem Called.congr (hc : s.Called r loop call) (h : s'.client = s.client)
    (h' : s'.clients = s.clients) : s'.Called r loop call := by
  obtain ⟨hp, hk⟩ := hc
  exact ⟨by rw [h']; exact hp, by rw [h, h']; exact hk⟩

theorem Offered.congr (ho : s.Offered call o) (h : s'.client = s.client) : s'.Offered call o := by
  obtain ⟨hp, ht⟩ := ho
  exact ⟨by rw [h]; exact hp, by rw [h]; exact ht⟩

/-- A handler that waits in `consume` waited there, or its loop has just come to it. -/
theorem consume_made (ht : Turn s e s') (hs : s'.suspended g = some ⟨r, .consume loop call o⟩) :
    s.suspended g = some ⟨r, .consume loop call o⟩ ∨
      s'.Offered call o ∧ (s'.Called r loop call ∨
        ∃ cursor o', s.suspended g = some ⟨r, .consume loop { call with cursor } o'⟩) := by
  -- a loop that starts or goes on in the state `s₁`
  have entered : ∀ {s₁ : Room} {h q l}, s' = s₁.runLoop h q l →
      (g ≠ h ∧ s₁.suspended g = some ⟨r, .consume loop call o⟩) ∨
        s'.Offered call o ∧ s'.Called r loop call := by
    intro s₁ h q l e
    obtain ⟨x, out, e'⟩ := runLoop_frame s₁ h q l
    rw [e] at hs
    refine (consume_of_runLoop hs).imp_right fun ⟨_, _, hc, ho⟩ => ?_
    exact ⟨ho.congr (by rw [e, e']), hc.congr (by rw [e, e']) (by rw [e, e'])⟩
  cases ht with
  | add | capabilities | ignored | answered | elapsed => exact .inl hs
  | socketClosed => exact .inl (by simpa [suspended, handlers_socketClosed] using hs)
  | joinCallRequest =>
      rcases entered rfl with ⟨hne, hs⟩ | ⟨ho, hc⟩
      · exact .inl ((suspended_append.trans (if_neg hne)).symm.trans hs)
      · exact .inr ⟨ho, .inl hc⟩
  | @spawn q m a hr he ha =>
      rw [suspended_spawn] at hs
      split at hs
      · cases hs
        cases m <;> simp [Awaits] at ha
      · exact .inl hs
  | @transportCreated h info q rid role o' =>
      obtain ⟨out, -, e⟩ := transportCreated_eq s h q rid role info
      rw [e] at hs
      have hf := suspended_finish.symm.trans hs
      split at hf
      · cases hf
      · exact .inl hf
  | @produced h q rid t kind rtp =>
      obtain ⟨out, -, e⟩ := produced_eq s h q rid t kind
      rcases entered e with ⟨-, hs⟩ | ⟨ho, hc⟩
      · exact .inl hs
      · exact .inr ⟨ho, .inl hc⟩
  | @consumed h rtp q l c o' hw =>
      have e := consumed_eq s h q l c o' rtp
      obtain ⟨a, e'⟩ := consumeFrom_frame _ h q l c
      rw [e] at hs
      rcases consume_of_consumeFrom hs with ⟨-, hs⟩ | ⟨rfl, rfl, rfl, ⟨cursor, rfl⟩, ho⟩
      · exact .inl hs
      · exact .inr ⟨ho.congr (by rw [e, e']; rfl), .inr ⟨c.cursor, o', hw⟩⟩
  | resumed =>
      rcases entered rfl with ⟨-, hs⟩ | ⟨ho, hc⟩
      · exact .inl hs
      · exact .inr ⟨ho, .inl hc⟩
  | consumeFailed =>
      rw [suspended_finish] at hs
      split at hs
      · cases hs
      · exact .inl hs
  | ended =>
      have hf := suspended_finish.symm.trans hs
      split at hf
      · cases hf
      · exact .inl hf
  | consumerClosed => exact .inl (((closes_of_closeConsumer _ _).suspended g).symm.trans hs)
  | routerClosed => exact .inl (((closes_of_closeRouter s).suspended g).symm.trans hs)
  | close => exact .inl (((closes_of_close s).suspended g).symm.trans hs)

end Calls

end DemoApp.Sfu.Room
