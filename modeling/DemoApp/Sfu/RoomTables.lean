import DemoApp.Support.Cells
import DemoApp.Support.Machine
import DemoApp.Sfu.RoomHandlers

/-!
# Sfu — RoomTables

The invariant of a room that ties the maps of its clients to mediasoup's tables: who is stored is
open and stored under its own id, the objects in a client's maps are its own and open, every open
consumer stands in its owner's map, and a transport closes only with its owner or the router.
It holds in every run (`tables_of_run`).
-/

namespace DemoApp.Sfu.Room
open Machine

/-- The transport `t` was made for the client `r`. -/
def Owns (s : Room) (r : ClientRef) (t : TransportId) : Prop :=
  ∃ x, s.router.transports[t]? = some x ∧ x.owner = r

/-- The local variables of a suspended handler name clients that were added, and transports of
their clients. -/
def HandlerOk (s : Room) (x : Handler) : Prop :=
  x.client < s.added ∧
    match x.await with
    | .produce _ t _ _ => s.Owns x.client t
    | .consume _ call o =>
        call.producing < s.added ∧ call.consuming < s.added ∧ s.Owns call.consuming o.transport
    | _ => True

structure Tables (s : Room) : Prop where
  stored : ∀ {id r}, s.clients.get id = some r →
    r < s.added ∧ (s.client r).clientId = id ∧ (s.client r).eventsClosed = false
  port : ∀ {r role t}, (s.client r).transport role = some t → s.Owns r t
  owner : ∀ {t : Nat} {x}, s.router.transports[t]? = some x → x.owner < s.added
  closed : ∀ {t : Nat} {x}, s.router.transports[t]? = some x → x.closed = true →
    (s.client x.owner).eventsClosed = true ∨ s.router.closed = true
  producer : ∀ {r i p kind}, (s.client r).producers.At i p kind →
    ∃ x, s.router.producers[p]? = some x ∧ x.owner = r ∧ x.closed = false ∧ s.Owns r x.transport
  consumer : ∀ {r i k p}, (s.client r).consumers.At i k p →
    ∃ x, s.router.consumers[k]? = some x ∧ x.owner = r ∧ x.producerId = p ∧ x.closed = false ∧
      s.Owns r x.transport
  consumerIn : ∀ {k : Nat} {x}, s.router.consumers[k]? = some x →
    x.owner < s.added ∧ (x.closed = false → ∃ i, (s.client x.owner).consumers.At i k x.producerId)
  handler : ∀ {h x}, s.suspended h = some x → s.HandlerOk x

/-! ### The loops -/

/-- The handlers after a change of the handler `g` alone. -/
theorem handlers_set {s : Room} {g : HandlerRef} {x : Option Handler}
    (hs : ∀ h y, s.suspended h = some y → s.HandlerOk y) (hx : ∀ y, x = some y → s.HandlerOk y)
    {h : HandlerRef} {y : Handler}
    (hy : suspended { s with handlers := s.handlers.set g x } h = some y) : s.HandlerOk y := by
  rw [suspended_set] at hy
  split at hy
  · split at hy
    · exact hx y hy
    · cases hy
  · exact hs h y hy

namespace Tables

variable {s s' : Room}

/-- The handlers, what was sent and the time may change, if the handlers stay right. -/
theorem frame (h : s.Tables) {hs out n}
    (hh : ∀ g x, suspended { s with handlers := hs, sent := out, now := n } g = some x →
      s.HandlerOk x) :
    Tables { s with handlers := hs, sent := out, now := n } :=
  ⟨h.stored, h.port, h.owner, h.closed, h.producer, h.consumer, h.consumerIn, fun hx => hh _ _ hx⟩

theorem quiet (h : s.Tables) {out n} : Tables { s with sent := out, now := n } :=
  h.frame fun _ _ hx => h.handler hx

theorem finish (h : s.Tables) {g : HandlerRef} {out} :
    Tables { s.finish g with sent := out } :=
  h.frame fun _ _ hx => handlers_set (fun _ _ => h.handler) (by simp) hx

theorem spawn (h : s.Tables) {r : ClientRef} {a : Await} (ha : s.HandlerOk ⟨r, a⟩) :
    Tables (s.spawn r a) := by
  refine h.frame fun g x hx => ?_
  rw [show ({ s with handlers := s.handlers ++ [some ⟨r, a⟩] } : Room) = s.spawn r a from rfl,
    suspended_spawn] at hx
  split at hx
  · cases hx; exact ha
  · exact h.handler hx

theorem suspend (h : s.Tables) {g : HandlerRef} {r : ClientRef} {a : Await}
    (ha : s.HandlerOk ⟨r, a⟩) : Tables (s.suspend g r a) :=
  h.frame fun _ _ hx =>
    handlers_set (fun _ _ => h.handler) (by rintro _ ⟨⟩; exact ha) hx

theorem consumeFrom (h : s.Tables) {g : HandlerRef} {r : ClientRef} {loop : Loop}
    {call : ConsumeCall} (hr : r < s.added) (hp : call.producing < s.added)
    (hc : call.consuming < s.added) : Tables (s.consumeFrom g r loop call) := by
  rcases consumeFrom_cases s g r loop call with ⟨e, -⟩ | ⟨cursor, p, kind, o, e, -, ho, -⟩
  · rw [e]; exact h.suspend ⟨hr, trivial⟩
  · rw [e]
    obtain ⟨-, -, ht, -, -⟩ := toConsume_eq_some.mp ho
    exact h.suspend ⟨hr, hp, hc, h.port (show (s.client _).transport .consuming = some _ from ht)⟩

theorem runLoop (h : s.Tables) {g : HandlerRef} {r : ClientRef} {loop : Loop}
    (hr : r < s.added) : Tables (s.runLoop g r loop) := by
  rcases runLoop_cases s g r loop with ⟨e, -⟩ | ⟨cursor, id, e, -⟩
  · rw [e]
    cases loop.kind with
    | join q =>
        simp only [afterLoop, send_frame]
        exact h.finish
    | push => exact h.finish
  · rw [e]
    rcases consumeClient_cases s g r { loop with cursor }
      (Loop.pair loop.kind (s.client r).clientId id).1
      (Loop.pair loop.kind (s.client r).clientId id).2 with ⟨-, e'⟩ | ⟨p, c, hp, hc, e'⟩
    · rw [e']; exact h.suspend ⟨hr, trivial⟩
    · rw [e']; exact h.consumeFrom hr (h.stored hp).1 (h.stored hc).1

end Tables

/-! ### The updates -/

/-- More transports and more clients are no harm to a handler. -/
theorem HandlerOk.mono {s s' : Room} {x : Handler} (h : s.HandlerOk x) (ha : s.added ≤ s'.added)
    (ho : ∀ r t, s.Owns r t → s'.Owns r t) : s'.HandlerOk x := by
  obtain ⟨r, a⟩ := x
  obtain ⟨hr, h⟩ := h
  refine ⟨Nat.lt_of_lt_of_le hr ha, ?_⟩
  cases a with
  | produce q t kind rtp => exact ho _ _ h
  | consume loop call o =>
      exact ⟨Nat.lt_of_lt_of_le h.1 ha, Nat.lt_of_lt_of_le h.2.1 ha, ho _ _ h.2.2⟩
  | createTransport | connect | pause | resume | returned => trivial

namespace Tables

variable {s s' : Room}

theorem add (h : s.Tables) (ctx : ClientContext) : (s.add ctx).Tables := by
  have old : ∀ {r}, r < s.added → (s.add ctx).client r = s.client r := fun hr => by
    simp [Room.add, Nat.ne_of_lt hr]
  have new : (s.add ctx).client s.added =
      { clientId := ctx.clientId, userId := ctx.userId, socketClosed := ctx.socketClosed } := by
    simp [Room.add]
  -- the new client has no objects
  have lift : ∀ {P : Client → Prop} {r}, P ((s.add ctx).client r) →
      ¬ P { clientId := ctx.clientId, userId := ctx.userId, socketClosed := ctx.socketClosed } →
      P (s.client r) := by
    intro P r hP hN
    by_cases e : r = s.added
    · subst e; rw [new] at hP; exact absurd hP hN
    · simpa [Room.add, e] using hP
  refine ⟨fun {id r} hg => ?_, fun {r role t} ht => ?_, fun ht => Nat.lt_succ_of_lt (h.owner ht),
    fun {t x} ht hc => ?_, fun {r i p kind} ha => ?_, fun {r i k p} ha => ?_, fun {k x} hk => ?_,
    fun hx => (h.handler hx).mono (Nat.le_succ _) fun _ _ h => h⟩
  · simp only [Room.add, LiveMap.get_set] at hg
    split at hg
    · next e =>
        cases hg
        rw [new]
        exact ⟨Nat.lt_succ_self _, e.symm, rfl⟩
    · obtain ⟨hr, hs⟩ := h.stored hg
      rw [old hr]
      exact ⟨Nat.lt_succ_of_lt hr, hs⟩
  · exact h.port (lift (P := fun c => c.transport role = some t) ht
      (by cases role <;> simp [Client.transport]))
  · rw [old (h.owner ht)]
    exact h.closed ht hc
  · exact h.producer (lift (P := fun c => c.producers.At i p kind) ha LiveMap.not_at_empty)
  · exact h.consumer (lift (P := fun c => c.consumers.At i k p) ha LiveMap.not_at_empty)
  · obtain ⟨ho, hm⟩ := h.consumerIn hk
    rw [old ho]
    exact ⟨Nat.lt_succ_of_lt ho, hm⟩

/-- A client whose objects change, with new ones of its own in the tables of the router: what it
then has it had before, or is new. -/
theorem grow (h : s.Tables) {r : ClientRef} {f : Client → Client} {ts : List Transport}
    {ps : List Producer} {ks : List Consumer} (hr : r < s.added)
    (hid : (f (s.client r)).clientId = (s.client r).clientId)
    (he : (f (s.client r)).eventsClosed = (s.client r).eventsClosed)
    (hts : ∀ x ∈ ts, x.owner = r ∧ x.closed = false) (hks : ∀ x ∈ ks, x.owner = r)
    (hport : ∀ role t, (f (s.client r)).transport role = some t →
      (s.client r).transport role = some t ∨ (s.grown ts ps ks).Owns r t)
    (hprod : ∀ i p kind, (f (s.client r)).producers.At i p kind →
      (s.client r).producers.At i p kind ∨ ∃ x, (s.router.producers ++ ps)[p]? = some x ∧
        x.owner = r ∧ x.closed = false ∧ s.Owns r x.transport)
    (hcons : ∀ i k p, (f (s.client r)).consumers.At i k p →
      (s.client r).consumers.At i k p ∨ ∃ x, (s.router.consumers ++ ks)[k]? = some x ∧
        x.owner = r ∧ x.producerId = p ∧ x.closed = false ∧ s.Owns r x.transport)
    (hin : ∀ (k : Nat) x, (s.router.consumers ++ ks)[k]? = some x → x.owner = r →
      (k < s.router.consumers.length → ∃ i, (s.client r).consumers.At i k x.producerId) →
      ∃ i, (f (s.client r)).consumers.At i k x.producerId) :
    ((s.grown ts ps ks).modify r f).Tables := by
  have owns : ∀ q t, s.Owns q t → (s.grown ts ps ks).Owns q t := fun q t ⟨x, hx, e⟩ =>
    ⟨x, Cells.append_of_some hx, e⟩
  have cases : ∀ q, q = r ∧ ((s.grown ts ps ks).modify r f).client q = f (s.client r) ∨
      q ≠ r ∧ ((s.grown ts ps ks).modify r f).client q = s.client q := fun q => by
    rw [client_modify]
    by_cases e : q = r
    · exact .inl ⟨e, if_pos e⟩
    · exact .inr ⟨e, if_neg e⟩
  refine ⟨fun {id q} hg => ?_, fun {q role t} hq => ?_, fun {t x} hx => ?_,
    fun {t x} hx hc => ?_, fun {q i p kind} ha => ?_, fun {q i k p} ha => ?_, fun {k x} hx => ?_,
    fun hx => (h.handler hx).mono (Nat.le_refl _) owns⟩
  · obtain ⟨h₁, h₂, h₃⟩ := h.stored hg
    rcases cases q with ⟨rfl, e⟩ | ⟨-, e⟩ <;> rw [e]
    · exact ⟨h₁, hid.trans h₂, he.trans h₃⟩
    · exact ⟨h₁, h₂, h₃⟩
  · rcases cases q with ⟨rfl, e⟩ | ⟨-, e⟩ <;> rw [e] at hq
    · exact (hport role t hq).elim (fun hq => owns q t (h.port hq)) id
    · exact owns q t (h.port hq)
  · rcases Cells.old_or_new hx with hx | ⟨-, hx⟩
    · exact h.owner hx
    · exact (hts x hx).1 ▸ hr
  · rcases Cells.old_or_new hx with hx | ⟨-, hx⟩
    · refine (h.closed hx hc).imp_left fun hev => ?_
      rcases cases x.owner with ⟨eo, e⟩ | ⟨-, e⟩ <;> rw [e]
      · rw [he, ← eo]; exact hev
      · exact hev
    · rw [(hts x hx).2] at hc
      cases hc
  · rcases cases q with ⟨rfl, e⟩ | ⟨-, e⟩ <;> rw [e] at ha
    · rcases hprod i p kind ha with ha | ⟨x, hx, h₁, h₂, h₃⟩
      · obtain ⟨x, hx, h₁, h₂, h₃⟩ := h.producer ha
        exact ⟨x, Cells.append_of_some hx, h₁, h₂, owns _ _ h₃⟩
      · exact ⟨x, hx, h₁, h₂, owns _ _ h₃⟩
    · obtain ⟨x, hx, h₁, h₂, h₃⟩ := h.producer ha
      exact ⟨x, Cells.append_of_some hx, h₁, h₂, owns _ _ h₃⟩
  · rcases cases q with ⟨rfl, e⟩ | ⟨-, e⟩ <;> rw [e] at ha
    · rcases hcons i k p ha with ha | ⟨x, hx, h₁, h₂, h₃, h₄⟩
      · obtain ⟨x, hx, h₁, h₂, h₃, h₄⟩ := h.consumer ha
        exact ⟨x, Cells.append_of_some hx, h₁, h₂, h₃, owns _ _ h₄⟩
      · exact ⟨x, hx, h₁, h₂, h₃, owns _ _ h₄⟩
    · obtain ⟨x, hx, h₁, h₂, h₃, h₄⟩ := h.consumer ha
      exact ⟨x, Cells.append_of_some hx, h₁, h₂, h₃, owns _ _ h₄⟩
  · have ho : x.owner < s.added ∧ (x.closed = false → k < s.router.consumers.length →
        ∃ i, (s.client x.owner).consumers.At i k x.producerId) := by
      rcases Cells.old_or_new hx with hx | ⟨hk, hx⟩
      · exact (h.consumerIn hx).imp_right fun hm hc _ => hm hc
      · exact ⟨hks x hx ▸ hr, fun _ hlt => absurd hlt (Nat.not_lt.mpr hk)⟩
    refine ⟨ho.1, fun hc => ?_⟩
    rcases cases x.owner with ⟨eo, e⟩ | ⟨hne, e⟩ <;> rw [e]
    · exact hin k x hx eo fun hlt => eo ▸ ho.2 hc hlt
    · rcases Cells.old_or_new hx with hx' | ⟨-, hx'⟩
      · exact ho.2 hc (Cells.lt_of_some hx')
      · exact absurd (hks x hx') hne

theorem owns_closes {T : TransportId → Prop} (hc : Closes T s s') {r : ClientRef}
    {t : TransportId} (ho : s.Owns r t) : s'.Owns r t := by
  obtain ⟨x, hx, e⟩ := ho
  obtain ⟨y, hy, -, ey⟩ := hc.transport_after hx
  exact ⟨y, hy, by rw [ey, e]⟩

/-- Transports close with their owner or with the router. -/
theorem closes {T : TransportId → Prop} (h : s.Tables) (hc : Closes T s s')
    (hr : s.router.closed = true → s'.router.closed = true)
    (hT : ∀ (t : Nat) x, T t → s.router.transports[t]? = some x →
      s'.router.transports[t]? = some { x with closed := true } → x.closed = false →
      (s.client x.owner).eventsClosed = true ∨ s'.router.closed = true) : s'.Tables := by
  refine ⟨fun {id r} hg => ?_, fun {r role t} ht => ?_, fun {t y} hy => ?_,
    fun {t y} hy hcl => ?_, fun {r i p kind} ha => ?_, fun {r i k p} ha => ?_,
    fun {k y} hy => ?_, fun {g x} hx => ?_⟩
  · rw [hc.clients] at hg
    rw [hc.added, hc.clientId, hc.eventsClosed]
    exact h.stored hg
  · refine owns_closes hc (h.port (?_ : (s.client r).transport role = some t))
    cases role with
    | producing => exact (hc.sndTransport r).symm.trans ht
    | consuming => exact (hc.rcvTransport r).symm.trans ht
  · obtain ⟨x, hx, e⟩ := hc.transport_before hy
    have ho := h.owner hx
    rw [congrArg Transport.owner e, hc.added]
    exact ho
  · rcases hc.transports t with e | ⟨ht, x, hx, e⟩
    · rw [hc.eventsClosed]
      exact (h.closed (e ▸ hy) hcl).imp_right hr
    · obtain rfl := Option.some.inj (hy.symm.trans e)
      rw [hc.eventsClosed]
      by_cases hx' : x.closed = true
      · exact (h.closed hx hx').imp_right hr
      · exact hT t x ht hx e (by simpa using hx')
  · obtain ⟨x, hx, ho, hcl, hown⟩ := h.producer (hc.producerMap r i p kind ha)
    rcases hc.producers p with e | ⟨y, hy, -, -, hn⟩
    · exact ⟨x, e.trans hx, ho, hcl, owns_closes hc hown⟩
    · obtain rfl := Option.some.inj (hx.symm.trans hy)
      exact absurd (ho ▸ ha) (hn i kind)
  · obtain ⟨x, hx, ho, hp, hcl, hown⟩ := h.consumer (hc.consumerMap r i k p ha)
    rcases hc.consumers k with e | ⟨y, hy, -, -, hn⟩
    · exact ⟨x, e.trans hx, ho, hp, hcl, owns_closes hc hown⟩
    · obtain rfl := Option.some.inj (hx.symm.trans hy)
      exact absurd (ho ▸ ha) (hn i p)
  · obtain ⟨x, hx, e⟩ := hc.consumer_before hy
    obtain ⟨ho, hm⟩ := h.consumerIn hx
    refine ⟨by rw [congrArg Consumer.owner e, hc.added]; exact ho, fun hcl => ?_⟩
    rcases hc.consumers k with e' | ⟨z, -, -, e', -⟩
    · obtain rfl := Option.some.inj (hy.symm.trans (e'.trans hx))
      obtain ⟨i, hi⟩ := hm hcl
      refine ⟨i, (hc.consumerMap_closed _ _ _ _ hi).resolve_right ?_⟩
      rintro ⟨z, hz, -, hzc⟩
      obtain rfl := Option.some.inj (hy.symm.trans hz)
      rw [hcl] at hzc
      cases hzc
    · obtain rfl := Option.some.inj (hy.symm.trans e')
      cases hcl
  · rw [hc.suspended] at hx
    exact (h.handler hx).mono (Nat.le_of_eq hc.added.symm) fun _ _ => owns_closes hc

/-- The client `r` quits. -/
theorem quit (h : s.Tables) (r : ClientRef) : (s.quit r).Tables := by
  have same : ∀ {α : Type} {g : Client → α},
      (∀ c : Client, g { c with socketClosed := true, eventsClosed := true } = g c) → ∀ q,
      g ((s.quit r).client q) = g (s.client q) := by
    intro α g hg q
    simp only [Room.quit, client_modify]
    split
    · next e => rw [hg, e]
    · rfl
  refine ⟨fun {id q} hg => ?_, fun {q role t} hq => ?_, h.owner, fun {t x} hx hc => ?_,
    fun {q i p kind} ha => ?_, fun {q i k p} ha => ?_, fun {k x} hx => ?_, h.handler⟩
  · simp only [Room.quit, LiveMap.get_delete] at hg
    split at hg
    · cases hg
    · next hne =>
        obtain ⟨h₁, h₂, h₃⟩ := h.stored hg
        have hq : q ≠ r := by rintro rfl; exact hne h₂.symm
        simpa [Room.quit, hq] using And.intro h₁ (And.intro h₂ h₃)
  · rw [same (g := fun c => c.transport role) (fun c => by cases role <;> rfl)] at hq
    exact h.port hq
  · refine (h.closed hx hc).imp_left fun e => ?_
    simp only [Room.quit, client_modify]
    split
    · rfl
    · exact e
  · rw [same (g := Client.producers) fun _ => rfl] at ha
    exact h.producer ha
  · rw [same (g := Client.consumers) fun _ => rfl] at ha
    exact h.consumer ha
  · obtain ⟨h₁, h₂⟩ := h.consumerIn hx
    refine ⟨h₁, ?_⟩
    rw [same (g := Client.consumers) fun _ => rfl]
    exact h₂

/-- A client keeps its objects. -/
theorem keep (h : s.Tables) {r : ClientRef} {f : Client → Client} (hr : r < s.added)
    (hid : (f (s.client r)).clientId = (s.client r).clientId)
    (he : (f (s.client r)).eventsClosed = (s.client r).eventsClosed)
    (ht : ∀ role, (f (s.client r)).transport role = (s.client r).transport role)
    (hp : (f (s.client r)).producers = (s.client r).producers)
    (hk : (f (s.client r)).consumers = (s.client r).consumers) : (s.modify r f).Tables := by
  rw [← grown_nil s]
  refine h.grow hr hid he (by simp) (by simp) (fun role t h' => .inl (ht role ▸ h'))
    (fun _ _ _ ha => .inl (hp ▸ ha)) (fun _ _ _ ha => .inl (hk ▸ ha)) fun k x hx _ hm => ?_
  rw [List.append_nil] at hx
  rw [hk]
  exact hm (Cells.lt_of_some hx)

theorem transportCreated (h : s.Tables) {g : HandlerRef} {r : ClientRef} {q : RequestId}
    {role : Role} {info : TransportInfo} (hr : r < s.added) :
    (s.transportCreated g r q role info).Tables := by
  obtain ⟨out, -, e⟩ := transportCreated_eq s g r q role info
  rw [e]
  refine finish ?_
  refine h.grow hr (by cases role <;> rfl) (by cases role <;> rfl) (by simp) (by simp)
    (fun role' t ht => ?_) (fun i p kind ha => .inl ?_) (fun i k p ha => .inl ?_)
    fun k x hx _ hm => ?_
  · by_cases hrole : role' = role
    · subst hrole
      refine .inr ⟨⟨r, role', false⟩, ?_, rfl⟩
      have ht : t = s.router.transports.length := by
        cases role' <;> exact (Option.some.inj ht).symm
      simp [grown, ht]
    · refine .inl ?_
      cases role <;> cases role' <;> first | exact ht | exact absurd rfl hrole
  · cases role <;> exact ha
  · cases role <;> exact ha
  · rw [List.append_nil] at hx
    have := hm (Cells.lt_of_some hx)
    cases role <;> exact this

theorem produced (h : s.Tables) {g : HandlerRef} {r : ClientRef} {q : RequestId}
    {t : TransportId} {kind : MediaKind} (hr : r < s.added) (ht : s.Owns r t) :
    (s.produced g r q t kind).Tables := by
  obtain ⟨out, -, e⟩ := produced_eq s g r q t kind
  rw [e]
  refine runLoop (quiet (n := _) ?_) (by simpa [grown] using hr)
  refine h.grow hr rfl rfl (by simp) (by simp) (fun role t ht => .inl ?_)
    (fun i p l ha => ?_) (fun _ _ _ ha => .inl ha) fun k x hx _ hm => ?_
  · cases role <;> exact ht
  · by_cases hp : p = s.router.producers.length
    · exact .inr ⟨⟨r, t, kind, false⟩, by simp [hp], rfl, rfl, ht⟩
    · exact .inl ((LiveMap.at_set_of_ne hp).mp ha)
  · rw [List.append_nil] at hx
    exact hm (Cells.lt_of_some hx)

/-- The room after `consume` resolved and its consumer is in the client's map. -/
theorem consumed (h : s.Tables) {g : HandlerRef} {r : ClientRef} {loop : Loop}
    {call : ConsumeCall} {o : ConsumeOptions} {rtp : RtpParameters}
    (hs : s.suspended g = some ⟨r, .consume loop call o⟩) :
    (s.consumed g r loop call o rtp).Tables := by
  obtain ⟨hr, hp, hc, ht⟩ := h.handler hs
  rw [consumed_eq]
  refine consumeFrom (quiet (n := _) ?_) (by simpa [grown] using hr) (by simpa [grown] using hp)
    (by simpa [grown] using hc)
  refine h.grow hc rfl rfl (by simp) (by simp) (fun role t ht => .inl ?_)
    (fun _ _ _ ha => .inl ha) (fun i k p ha => ?_) fun k x hx _ hm => ?_
  · cases role <;> exact ht
  · by_cases hk : k = s.router.consumers.length
    · subst hk
      obtain ⟨j, hj⟩ := LiveMap.exists_at_set (s.client call.consuming).consumers
        s.router.consumers.length o.producerId
      obtain ⟨-, rfl⟩ := LiveMap.at_inj ha hj
      exact .inr ⟨⟨call.consuming, o.transport, o.producerId, false⟩, by simp, rfl, rfl, rfl, ht⟩
    · exact .inl ((LiveMap.at_set_of_ne hk).mp ha)
  · rcases Cells.old_or_new hx with hx' | ⟨hk, hx'⟩
    · have hlt := Cells.lt_of_some hx'
      obtain ⟨i, hi⟩ := hm hlt
      exact ⟨i, (LiveMap.at_set_of_ne (Nat.ne_of_lt hlt)).mpr hi⟩
    · have hk' : k = s.router.consumers.length := by
        have := Cells.lt_of_some hx
        simp at this; omega
      simp only [List.mem_singleton] at hx'
      subst hk' hx'
      exact LiveMap.exists_at_set _ _ _

theorem close (h : s.Tables) : s.close.Tables := by
  have e := core_close' s
  have hcl : s.close.router.closed = true := by
    rw [show s.close.router.closed = s.core.close.routerClosed from congrArg Core.routerClosed e]
    simp only [Core.close]
    split
    · assumption
    · rfl
  exact h.closes (closes_of_close s) (fun _ => hcl)
    fun _ _ _ _ _ _ => .inr hcl

theorem routerClosed (h : s.Tables) : (closeRouter Room.close s).Tables := by
  have hcl : (closeRouter Room.close s).router.closed = true := by
    by_cases hc : s.router.closed = true
    · simp [closeRouter, hc]
    · exact congrArg Core.routerClosed (core_closeRouter (by simpa using hc))
  exact h.closes (closes_of_closeRouter s) (fun _ => hcl)
    fun _ _ _ _ _ _ => .inr hcl

theorem socketClosed (h : s.Tables) {r : ClientRef} (hr : r < s.added) :
    (s.socketClosed r).Tables := by
  by_cases he : (s.client r).eventsClosed = true
  · rw [socketClosed_of_closed he]
    exact h.keep hr rfl rfl (fun role => by cases role <;> rfl) rfl rfl
  · simp only [Bool.not_eq_true] at he
    obtain ⟨s₂, hc, hcl, -, e⟩ := socketClosed_spec he
    have h₂ : s₂.Tables := by
      refine (h.quit r).closes hc (fun h' => hcl.trans h') fun t x hp hx _ _ => .inl ?_
      obtain ⟨role, ht⟩ := hp
      obtain ⟨y, hy, ho⟩ := h.port ht
      obtain rfl := Option.some.inj (hx.symm.trans hy)
      simp [Room.quit, ho]
    rw [e]
    split
    · exact h₂.close
    · exact h₂

theorem consumerClosed (h : s.Tables) (k : ConsumerId) : (s.closeConsumer k).Tables := by
  have hcore : (s.closeConsumer k).router.closed = s.router.closed :=
    congrArg Core.routerClosed (core_closeConsumer s k)
  refine h.closes (closes_of_closeConsumer _ _)
    (fun hc => hcore.trans hc) fun t x _ hx hx' hopen => ?_
  have e : (s.closeConsumer k).router.transports = s.router.transports := by
    rw [closeConsumer]
    split
    · rfl
    · split
      · rfl
      · rw [router_send, router_modify]
  rw [e, hx] at hx'
  rw [congrArg Transport.closed (Option.some.inj hx')] at hopen
  cases hopen

/-- **One turn keeps the tables.** -/
theorem turn (h : s.Tables) {e : Event} (ht : Turn s e s') : s'.Tables := by
  cases ht with
  | add => exact h.add _
  | socketClosed hr ho => exact h.socketClosed hr
  | capabilities hr he => exact h.keep hr rfl rfl (fun role => by cases role <;> rfl) rfl rfl
  | @joinCallRequest r q hr he =>
      refine runLoop (h.frame fun g x hx => ?_) hr
      rw [suspended_append] at hx
      split at hx
      · cases hx
      · exact h.handler hx
  | @spawn r m a hr he ha =>
      refine h.spawn ⟨hr, ?_⟩
      cases m with
      | createProducerRequest q kind rtp u =>
          obtain ⟨t, ht, rfl⟩ := ha
          exact h.port (show (s.client r).transport .producing = some t from ht)
      | createTransportRequest q role => obtain ⟨-, rfl⟩ := ha; trivial
      | transportConnectedNotification | pauseProducerRequest | resumeProducerRequest =>
          cases ha; trivial
      | getRouterCapabilitiesRequest | clientRtpCapabilities | joinCallRequest
      | getClientStatsRequest => exact ha.elim
  | ignored => exact h
  | answered => exact h.quiet
  | transportCreated hs => exact h.transportCreated (h.handler hs).1
  | produced hs => exact h.produced (h.handler hs).1 (h.handler hs).2
  | consumed hs => exact h.consumed hs
  | resumed hs => exact h.runLoop (h.handler hs).1
  | consumeFailed hs => exact h.finish
  | ended => exact h.finish
  | consumerClosed hk => exact h.consumerClosed _
  | routerClosed => exact h.routerClosed
  | close => exact h.close
  | elapsed => exact h.quiet

end Tables

/-! ### Runs -/

/-- A new room, whose router has made nothing yet. -/
theorem tables_new (config : RoomConfig) (id : CallId) (caps : RtpCapabilities) :
    (Room.new config (createRouter id caps)).Tables := by
  refine ⟨nofun, fun {r role t} h => ?_, by simp [Room.new, createRouter],
    by simp [Room.new, createRouter],
    fun h => absurd h LiveMap.not_at_empty, fun h => absurd h LiveMap.not_at_empty,
    by simp [Room.new, createRouter], by simp [Room.new, suspended]⟩
  cases role <;> cases h

/-- **The tables of a run.** -/
theorem tables_of_run {config : RoomConfig} {id : CallId} {caps : RtpCapabilities}
    {es : List Event} {s : Room}
    (hx : exec step (.new config (createRouter id caps)) es = some s) : s.Tables :=
  exec_invariant_of_step (fun _ _ _ h he => h.turn (step_turn he)) (tables_new config id caps) hx

end DemoApp.Sfu.Room
