import DemoApp.Sfu.RoomTables

/-!
# Sfu — Departure

The close handler of a client closes the transports the client has stored.  A
`create-transport-request` handler that is suspended then stores its transport later, and nobody
closes it.

* `departed_leaves_transport`: a client's websocket closes while `createWebRtcTransport` is pending
  for it, and the transport stays open in a room that goes on.
* `departed_closed`: if no websocket closes while a creation of its client is pending, then after
  the close handler every transport of the client is closed.
-/

namespace DemoApp.Sfu.Room
open Machine

/-! ### The property and the condition -/

/-- Every transport the router created for the client `r` is closed. -/
def TransportsClosed (s : Room) (r : ClientRef) : Prop :=
  ∀ (t : Nat) x, s.router.transports[t]? = some x → x.owner = r → x.closed = true

/-- The client and the role of the `createWebRtcTransport` at which `h` is suspended. -/
def creating (s : Room) (h : HandlerRef) : Option (ClientRef × Role) :=
  match s.suspended h with
  | some ⟨r, .createTransport _ role _⟩ => some (r, role)
  | _ => none

/-- The client and the role of a `create-transport-request`. -/
def requested : Event → Option (ClientRef × Role)
  | .message r (.createTransportRequest _ role) => some (r, role)
  | _ => none

/-- A websocket closes when no transport is being created for its client. -/
def NoneCreating (s : Room) : Event → Prop
  | .socketClosed r => ∀ h < s.handlers.length, (s.creating h).map Prod.fst ≠ some r
  | _ => True

instance (s : Room) : (e : Event) → Decidable (NoneCreating s e)
  | .socketClosed r => inferInstanceAs (Decidable
      (∀ h < s.handlers.length, (s.creating h).map Prod.fst ≠ some r))
  | .add _ | .message _ _ | .transportCreated _ _ | .transportFailed _ | .transportConnected _ _
  | .produced _ | .produceFailed _ | .producerSwitched _ | .consumed _ _ | .consumeFailed _
  | .resumed _ | .consumerClosed _ | .routerClosed | .close | .elapsed _ => isTrue trivial

theorem creating_eq_some {s : Room} {h : HandlerRef} {r : ClientRef} {role : Role} :
    s.creating h = some (r, role) ↔
      ∃ q o, s.suspended h = some ⟨r, .createTransport q role o⟩ := by
  rw [creating]
  split
  · next r q role o hs => simp [hs]
  · next hn =>
      simp only [reduceCtorEq, false_iff, not_exists]
      intro q o hs
      exact hn _ _ _ _ hs

/-! ### What most turns leave alone -/

/-- From `s` to `s'` the clients kept their transports and got none, and no transport was made or
opened. -/
structure SamePorts (s s' : Room) : Prop where
  added : s.added ≤ s'.added
  port : ∀ {r role t}, (s'.client r).transport role = some t →
    (s.client r).transport role = some t
  kept : ∀ {r role t}, r < s.added → (s.client r).transport role = some t →
    (s'.client r).transport role = some t
  transports : ∀ {t : Nat} {x}, s'.router.transports[t]? = some x → x.closed = false →
    s.router.transports[t]? = some x

namespace SamePorts

variable {s s' s'' : Room}

theorem trans (h : SamePorts s s') (h' : SamePorts s' s'') : SamePorts s s'' where
  added := Nat.le_trans h.added h'.added
  port := fun ht => h.port (h'.port ht)
  kept := fun hr ht => h'.kept (Nat.lt_of_lt_of_le hr h.added) (h.kept hr ht)
  transports := fun hx ho => h.transports (h'.transports hx ho) ho

theorem frame {hs out n} : SamePorts s { s with handlers := hs, sent := out, now := n } :=
  ⟨Nat.le_refl _, id, fun _ => id, fun h _ => h⟩

theorem runLoop (s : Room) (h : HandlerRef) (r : ClientRef) (loop : Loop) :
    SamePorts s (s.runLoop h r loop) := by
  obtain ⟨x, out, e⟩ := runLoop_frame s h r loop
  rw [e]
  exact frame

theorem consumeFrom (s : Room) (h : HandlerRef) (r : ClientRef) (loop : Loop)
    (call : ConsumeCall) : SamePorts s (s.consumeFrom h r loop call) := by
  obtain ⟨a, e⟩ := consumeFrom_frame s h r loop call
  rw [e]
  exact frame

theorem grow {r : ClientRef} {f : Client → Client} {ps : List Producer} {ks : List Consumer}
    (hf : ∀ role, (f (s.client r)).transport role = (s.client r).transport role) :
    SamePorts s ((s.grown [] ps ks).modify r f) := by
  have same : ∀ q role, (((s.grown [] ps ks).modify r f).client q).transport role =
      (s.client q).transport role := fun q role => by
    rw [client_modify]
    split
    · next e => subst e; exact hf role
    · rfl
  refine ⟨Nat.le_refl _, fun ht => ?_, fun _ ht => ?_, fun hx _ => ?_⟩
  · rwa [same] at ht
  · rwa [same]
  · simpa [grown] using hx

theorem closes {T : TransportId → Prop} (h : Closes T s s') : SamePorts s s' := by
  have same : ∀ q role, (s'.client q).transport role = (s.client q).transport role := by
    intro q role
    cases role with
    | producing => exact h.sndTransport q
    | consuming => exact h.rcvTransport q
  refine ⟨Nat.le_of_eq h.added.symm, fun ht => ?_, fun _ ht => ?_, fun {t x} hx ho => ?_⟩
  · rwa [same] at ht
  · rwa [same]
  · rcases h.transports t with e | ⟨-, y, hy, e⟩
    · exact e.symm.trans hx
    · obtain rfl := Option.some.inj (hx.symm.trans e)
      cases ho

theorem quit (s : Room) (r : ClientRef) : SamePorts s (s.quit r) := by
  have h : SamePorts s ((s.grown [] [] []).modify r fun c =>
      { c with socketClosed := true, eventsClosed := true }) :=
    grow fun role => by cases role <;> rfl
  rw [grown_nil] at h
  exact ⟨h.added, h.port, h.kept, h.transports⟩

theorem add (s : Room) (ctx : ClientContext) : SamePorts s (s.add ctx) := by
  refine ⟨Nat.le_succ _, fun {r role t} ht => ?_, fun hr ht => ?_, fun hx _ => hx⟩
  · simp only [Room.add, Function.update_apply] at ht
    split at ht
    · cases role <;> cases ht
    · exact ht
  · simpa [Room.add, Nat.ne_of_lt hr] using ht

theorem socketClosed (s : Room) (r : ClientRef) : SamePorts s (s.socketClosed r) := by
  by_cases he : (s.client r).eventsClosed = true
  · rw [socketClosed_grown he]
    exact grow fun role => by cases role <;> rfl
  · obtain ⟨s₂, hc, -, -, e⟩ := socketClosed_spec (by simpa using he)
    have h₂ := (quit s r).trans (closes hc)
    rw [e]
    split
    · exact h₂.trans (closes (closes_of_close s₂))
    · exact h₂

theorem turn {e : Event} (ht : Turn s e s') (he : ∀ h info, e ≠ .transportCreated h info) :
    SamePorts s s' := by
  cases ht with
  | add => exact add _ _
  | socketClosed => exact socketClosed _ _
  | @capabilities r caps =>
      have h : SamePorts s ((s.grown [] [] []).modify r fun c =>
          { c with rtpCapabilities := some caps }) := grow fun role => by cases role <;> rfl
      rwa [grown_nil] at h
  | joinCallRequest => exact trans frame (runLoop _ _ _ _)
  | spawn | ignored | answered | consumeFailed | ended | elapsed => exact frame
  | transportCreated => exact absurd rfl (he _ _)
  | @produced h r q t kind rtp hs =>
      obtain ⟨out, -, e'⟩ := produced_eq s h r q t kind
      rw [e']
      refine trans (trans (grow ?_) frame) (runLoop _ _ _ _)
      intro role
      cases role <;> rfl
  | consumed =>
      rw [consumed_eq]
      refine trans (trans (grow ?_) frame) (consumeFrom _ _ _ _ _)
      intro role
      cases role <;> rfl
  | resumed => exact runLoop _ _ _ _
  | consumerClosed => exact closes (closes_of_closeConsumer _ _)
  | routerClosed => exact closes (closes_of_closeRouter s)
  | close => exact closes (closes_of_close s)

end SamePorts

/-- The continuation of `createWebRtcTransport` stores the transport with its client. -/
theorem client_transportCreated (s : Room) (g : HandlerRef) (r : ClientRef) (q : RequestId)
    (role : Role) (info : TransportInfo) (q' : ClientRef) :
    ((s.transportCreated g r q role info).client q').eventsClosed = (s.client q').eventsClosed ∧
      ∀ role', ((s.transportCreated g r q role info).client q').transport role' =
        if q' = r ∧ role' = role then some s.router.transports.length
        else (s.client q').transport role' := by
  obtain ⟨out, -, e⟩ := transportCreated_eq s g r q role info
  rw [e]
  by_cases hq : q' = r
  · subst hq
    refine ⟨?_, fun role' => ?_⟩
    · simp only [finish, client_modify]
      cases role <;> rfl
    · simp only [finish, client_modify]
      cases role <;> cases role' <;> rfl
  · exact ⟨by simp [finish, hq, grown], fun role' => by simp [finish, hq, grown]⟩

/-- The close handler closes the stored transports of its client. -/
theorem socketClosed_ports {s : Room} {r : ClientRef} (he : (s.client r).eventsClosed = false)
    {t : TransportId} (ht : s.Ports r t) {y : Transport}
    (hy : (s.socketClosed r).router.transports[t]? = some y) : y.closed = true := by
  obtain ⟨s₂, -, -, hcl, e⟩ := socketClosed_spec he
  rw [e] at hy
  split at hy
  · have hc := closes_of_close s₂
    obtain ⟨x, hx, -⟩ := hc.transport_before hy
    obtain ⟨z, hz, hzc, -⟩ := hc.transport_after hx
    obtain rfl := Option.some.inj (hy.symm.trans hz)
    exact hzc (hcl t ht x hx)
  · exact hcl t ht y hy

/-! ### The invariant -/

/-- Every open transport is stored with a client that is there; a transport is being created only
for a client that is there and has none in the role, once for each request. -/
structure Ported (es : List Event) (s : Room) : Prop where
  kept : ∀ {t : Nat} {x}, s.router.transports[t]? = some x → x.closed = false →
    (s.client x.owner).eventsClosed = false ∧ (s.client x.owner).transport x.role = some t
  pending : ∀ {h r role}, s.creating h = some (r, role) → (s.client r).eventsClosed = false ∧
    (s.client r).transport role = none ∧ (r, role) ∈ es.filterMap requested
  one : ∀ {h g y}, s.creating h = some y → s.creating g = some y → h = g
  asked : ∀ {r role t}, (s.client r).transport role = some t →
    (r, role) ∈ es.filterMap requested

theorem creating_back {s s' : Room} {e : Event} (hturn : Turn s e s') {g : HandlerRef}
    {r : ClientRef} {role : Role} (hg : s'.creating g = some (r, role)) :
    (s.creating g = some (r, role) ∧ e.handler ≠ some g) ∨ requested e = some (r, role) ∧
      (s.client r).transport role = none ∧ r < s.added ∧ (s.client r).eventsClosed = false ∧
      g = s.handlers.length := by
  obtain ⟨q, o, hs⟩ := creating_eq_some.mp hg
  rcases suspended_back hturn hs rfl with ⟨hs, he⟩ | ⟨m, rfl, ha, hr, ho, hlen⟩
  · exact .inl ⟨creating_eq_some.mpr ⟨q, o, hs⟩, he⟩
  · refine .inr ?_
    cases m with
    | createTransportRequest q' role' =>
        obtain ⟨hn, e⟩ := ha
        cases e
        exact ⟨rfl, hn, hr, ho, hlen⟩
    | createProducerRequest => obtain ⟨_, -, e⟩ := ha; cases e
    | transportConnectedNotification | pauseProducerRequest | resumeProducerRequest => cases ha
    | getRouterCapabilitiesRequest | clientRtpCapabilities | joinCallRequest
    | getClientStatsRequest => exact ha.elim

namespace Ported

variable {es : List Event} {s s' : Room} {e : Event}

theorem mem_snoc {y : ClientRef × Role} (h : y ∈ es.filterMap requested) :
    y ∈ (es ++ [e]).filterMap requested := by
  rw [List.filterMap_append]
  exact List.mem_append_left _ h

/-- A transport comes into its role, which was empty. -/
theorem transportCreated (h : Ported es s) {g : HandlerRef} {r : ClientRef}
    {q : RequestId} {role : Role} {o : WebRtcTransportOptions} {info : TransportInfo}
    (hs : s.suspended g = some ⟨r, .createTransport q role o⟩) :
    Ported (es ++ [.transportCreated g info]) (s.transportCreated g r q role info) := by
  have hg : s.creating g = some (r, role) := creating_eq_some.mpr ⟨q, o, hs⟩
  obtain ⟨hopen, hnone, hasked⟩ := h.pending hg
  have back : ∀ {h' y}, (s.transportCreated g r q role info).creating h' = some y →
      s.creating h' = some y ∧ h' ≠ g := by
    rintro h' ⟨r', role'⟩ hh
    have hturn : Turn s (.transportCreated g info) (s.transportCreated g r q role info) :=
      .transportCreated hs
    rcases creating_back hturn hh with ⟨hh, hne⟩ | ⟨hh, -⟩
    · exact ⟨hh, fun e => hne (congrArg some e.symm)⟩
    · cases hh
  have client := client_transportCreated s g r q role info
  have transports : (s.transportCreated g r q role info).router.transports =
      s.router.transports ++ [⟨r, role, false⟩] := by
    obtain ⟨out, -, e⟩ := transportCreated_eq s g r q role info
    rw [e]; rfl
  refine ⟨fun {t x} hx hxo => ?_, fun {h' r' role'} hh => ?_, fun hh hh' => ?_,
    fun {r' role' t} ht' => ?_⟩
  · rw [transports] at hx
    obtain ⟨hev, hport⟩ := client x.owner
    rw [hev, hport]
    by_cases hlt : t < s.router.transports.length
    · rw [List.getElem?_append_left hlt] at hx
      obtain ⟨ho, hk⟩ := h.kept hx hxo
      refine ⟨ho, ?_⟩
      rw [if_neg]
      · exact hk
      · rintro ⟨e₁, e₂⟩
        rw [e₁, e₂, hnone] at hk
        cases hk
    · have hlen : t = s.router.transports.length := by
        have := Cells.lt_of_some hx
        simp at this
        omega
      subst hlen
      simp only [List.getElem?_concat_length, Option.some.injEq] at hx
      subst hx
      exact ⟨hopen, by simp⟩
  · obtain ⟨hh, hne⟩ := back hh
    obtain ⟨ho, hn, hm⟩ := h.pending hh
    obtain ⟨hev, hport⟩ := client r'
    rw [hev, hport, if_neg]
    · exact ⟨ho, hn, mem_snoc hm⟩
    · rintro ⟨e₁, e₂⟩
      rw [e₁, e₂] at hh
      exact hne (h.one hh hg)
  · exact h.one (back hh).1 (back hh').1
  · rw [(client r').2] at ht'
    split at ht'
    · next e => obtain ⟨rfl, rfl⟩ := e; exact mem_snoc hasked
    · exact mem_snoc (h.asked ht')

theorem step (h : Ported es s) (ht : s.Tables)
    (hone : ((es ++ [e]).filterMap requested).Nodup) (hG : s.NoneCreating e)
    (he : s.step e = some s') : Ported (es ++ [e]) s' := by
  have hturn := step_turn he
  by_cases hc : ∃ g info, e = .transportCreated g info
  · obtain ⟨g, info, rfl⟩ := hc
    cases hturn with
    | transportCreated hs => exact h.transportCreated hs
    | ended hend => exact hend.elim
  · have hp := SamePorts.turn hturn fun g info e' => hc ⟨g, info, e'⟩
    have events : ∀ {q}, q < s.added → e ≠ .socketClosed q →
        (s'.client q).eventsClosed = (s.client q).eventsClosed := fun hq hne =>
      Core.eventsClosed_same (core_step he) hq hne
    have fresh : ∀ {y}, requested e = some y → y ∉ es.filterMap requested := by
      intro y hy hm
      rw [List.filterMap_append, List.filterMap_cons_some hy] at hone
      exact (List.nodup_append.mp hone).2.2 y hm y (by simp) rfl
    have none : ∀ {r role}, (s.client r).transport role = none →
        (s'.client r).transport role = none := by
      intro r role hn
      by_contra hs
      obtain ⟨t, ht'⟩ := Option.ne_none_iff_exists'.mp hs
      rw [hp.port ht'] at hn
      cases hn
    refine ⟨fun {t x} hx ho => ?_, fun {g r role} hg => ?_, fun {g g' y} hg hg' => ?_,
      fun hs => mem_snoc (h.asked (hp.port hs))⟩
    · have hx' := hp.transports hx ho
      obtain ⟨hopen, hk⟩ := h.kept hx' ho
      refine ⟨?_, hp.kept (ht.owner hx') hk⟩
      rw [events (ht.owner hx'), hopen]
      -- the transports of a client whose websocket closes are closed
      rintro rfl
      cases hturn with
      | socketClosed =>
          rw [socketClosed_ports hopen ⟨_, hk⟩ hx] at ho
          cases ho
      | ended hend => exact hend.elim
    · rcases creating_back hturn hg with ⟨hg', -⟩ | ⟨hreq, hn, hr, hopen, -⟩
      · obtain ⟨hopen, hn, hm⟩ := h.pending hg'
        obtain ⟨q, o, hs⟩ := creating_eq_some.mp hg'
        refine ⟨?_, none hn, mem_snoc hm⟩
        rw [events (ht.handler hs).1, hopen]
        rintro rfl
        exact hG g (suspended_lt hs) (by rw [hg']; rfl)
      · refine ⟨?_, none hn, by simp [List.filterMap_append, hreq]⟩
        rw [events hr (by rintro rfl; cases hreq), hopen]
    · obtain ⟨r, role⟩ := y
      rcases creating_back hturn hg with ⟨h₁, -⟩ | ⟨hreq, -, -, -, e₁⟩ <;>
        rcases creating_back hturn hg' with ⟨h₂, -⟩ | ⟨hreq', -, -, -, e₂⟩
      · exact h.one h₁ h₂
      · exact absurd (h.pending h₁).2.2 (fresh hreq')
      · exact absurd (h.pending h₂).2.2 (fresh hreq)
      · exact e₁.trans e₂.symm

end Ported

/-! ### Runs -/

theorem ported_of_run {config : RoomConfig} {id : CallId} {caps : RtpCapabilities}
    {es : List Event} {s : Room}
    (hx : exec step (.new config (createRouter id caps)) es = some s)
    (hone : (es.filterMap requested).Nodup)
    (ha : Along step NoneCreating (.new config (createRouter id caps)) es) : Ported es s := by
  revert hone ha
  refine exec_history (I := fun es s => (es.filterMap requested).Nodup →
    Along step NoneCreating _ es → Ported es s) (fun _ _ => ⟨?_, ?_, ?_, ?_⟩)
    (fun es s e s' hx ih he hone ha => ?_) hx
  · simp [Room.new, createRouter]
  · simp [creating, suspended, Room.new]
  · simp [creating, suspended, Room.new]
  · intro r role t h
    cases role <;> cases h
  · obtain ⟨ha, hG⟩ := (along_snoc hx).mp ha
    have hone' : (es.filterMap requested).Nodup := by
      rw [List.filterMap_append] at hone
      exact (List.nodup_append.mp hone).1
    exact (ih hone' ha).step (tables_of_run hx) hone hG he

/-- **A departed client leaves no transport behind**, in every run in which a client asks for a
transport of each role at most once, and its websocket does not close while one is being
created. -/
theorem departed_closed {config : RoomConfig} {id : CallId} {caps : RtpCapabilities}
    {es : List Event} {s : Room}
    (hx : exec step (.new config (createRouter id caps)) es = some s)
    (hone : (es.filterMap requested).Nodup)
    (ha : Along step NoneCreating (.new config (createRouter id caps)) es) {r : ClientRef}
    (hr : (s.client r).eventsClosed = true) : s.TransportsClosed r := by
  intro t x hxt ho
  by_contra hopen
  have := ((ported_of_run hx hone ha).kept hxt (by simpa using hopen)).1
  rw [ho, hr] at this
  cases this

/-- The client `1` leaves with its transport, and the client `0` stays. -/
def leaves : List Event := joining ++ [.socketClosed 1]

theorem departed_closed_leaves : ∃ s, exec step lobby leaves = some s ∧
    s.TransportsClosed 1 := by
  have hx : exec step lobby leaves = some _ := rfl
  exact ⟨_, hx, departed_closed hx (by decide) (by decide) rfl⟩

/-- The client `1` leaves while its transport is being created, and the client `0` stays. -/
def leavesEarly : List Event :=
  [.add { clientId := "a", userId := "u" }, .add { clientId := "b", userId := "v" },
    .message 1 (.createTransportRequest "1" .producing), .socketClosed 1,
    .transportCreated 0 ⟨"ice", [], "dtls"⟩]

/-- **A transport is left behind.**  The close handler has run, the handlers of the client have
ended, the room is open, and the transport that was created last is open. -/
theorem departed_leaves_transport : ∃ s, exec step lobby leavesEarly = some s ∧
    (leavesEarly.filterMap requested).Nodup ∧ (s.client 1).eventsClosed = true ∧
    (∀ h, s.suspended h = none) ∧ s.clients.get "a" = some 0 ∧ s.router.closed = false ∧
    ¬ s.TransportsClosed 1 := by
  have hx : exec step lobby leavesEarly = some _ := rfl
  refine ⟨_, hx, by decide, rfl, ?_, rfl, rfl, fun h => ?_⟩
  · intro h
    match h with
    | 0 => rfl
    | _ + 1 => rfl
  · exact absurd (h 0 _ rfl rfl) (by decide)

end DemoApp.Sfu.Room
