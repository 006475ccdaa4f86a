import DemoApp.Sfu.Departure

/-!
# Sfu — One transport for each role

The handler of a `create-transport-request` refuses a second transport of a role.  Its guard reads
the field in which the transport is stored, and the field is written when `createWebRtcTransport`
has resolved.

* `one_transport_iff`: in every run a client has at most one transport of a role, the stored one,
  and every further request is refused, if and only if no request came while the transport of an
  earlier one was being created.
* `created_twice`: two requests in a row make two transports, and the first is stored no longer.
-/

namespace DemoApp.Sfu.Room
open Machine

/-! ### The property and the condition -/

/-- The clients and the roles that the transports were made for. -/
def madeFor (s : Room) : List (ClientRef × Role) :=
  s.router.transports.map fun x => (x.owner, x.role)

/-- The transports made for a role of the client `r` are the one it has stored; while one is being
created no other is, and there is none; and what was stored stays. -/
structure OneTransport (s₀ : Room) (r : ClientRef) (role : Role) (es : List Event) (s : Room) :
    Prop where
  made : ∀ t, s.madeFor[t]? = some (r, role) ↔ (s.client r).transport role = some t
  one : ∀ h g, s.creating h = some (r, role) → s.creating g = some (r, role) → h = g
  refused : ∀ h, s.creating h = some (r, role) → (s.client r).transport role = none
  kept : ∀ fs s₁ t, fs <+: es → exec step s₀ fs = some s₁ →
    (s₁.client r).transport role = some t → (s.client r).transport role = some t

/-- A request that reaches the handler's `await` comes when no transport of its role is being
created for the client. -/
def asksAlone (s : Room) (r : ClientRef) (role : Role) (e : Event) : Prop :=
  requested e = some (r, role) → (s.client r).eventsClosed = false →
    (s.client r).transport role = none → ∀ h < s.handlers.length, s.creating h ≠ some (r, role)

instance (s : Room) (r : ClientRef) (role : Role) (e : Event) : Decidable (s.asksAlone r role e) :=
  inferInstanceAs (Decidable (_ → _ → _ → ∀ h < s.handlers.length, _))

/-! ### What was made -/

section Made

variable {s s' : Room} {e : Event}

theorem madeFor_closes {T : TransportId → Prop} (h : Closes T s s') : s'.madeFor = s.madeFor := by
  refine List.ext_getElem? fun t => ?_
  rw [madeFor, madeFor, List.getElem?_map, List.getElem?_map]
  rcases h.transports t with e | ⟨-, x, hx, e⟩
  · rw [e]
  · rw [e, hx]
    rfl

theorem madeFor_runLoop (s : Room) (h : HandlerRef) (r : ClientRef) (loop : Loop) :
    (s.runLoop h r loop).madeFor = s.madeFor := by
  obtain ⟨x, out, e⟩ := runLoop_frame s h r loop
  rw [e]
  rfl

theorem madeFor_consumeFrom (s : Room) (h : HandlerRef) (r : ClientRef) (loop : Loop)
    (call : ConsumeCall) : (s.consumeFrom h r loop call).madeFor = s.madeFor := by
  obtain ⟨a, e⟩ := consumeFrom_frame s h r loop call
  rw [e]
  rfl

/-- Only the continuation of `createWebRtcTransport` makes a transport. -/
theorem madeFor_turn (ht : Turn s e s') (he : ∀ h info, e ≠ .transportCreated h info) :
    s'.madeFor = s.madeFor := by
  cases ht with
  | add | capabilities | spawn | ignored | answered | consumeFailed | ended | elapsed => rfl
  | @socketClosed r =>
      by_cases hc : (s.client r).eventsClosed = true
      · rw [socketClosed_of_closed hc]
        rfl
      · obtain ⟨s₂, hcl, -, -, e'⟩ := socketClosed_spec (by simpa using hc)
        have h₂ : s₂.madeFor = s.madeFor := (madeFor_closes hcl).trans rfl
        rw [e']
        split
        · exact (madeFor_closes (closes_of_close s₂)).trans h₂
        · exact h₂
  | joinCallRequest => exact madeFor_runLoop _ _ _ _
  | transportCreated => exact absurd rfl (he _ _)
  | @produced h r q t kind rtp hs =>
      obtain ⟨out, -, e'⟩ := produced_eq s h r q t kind
      rw [e', madeFor_runLoop]
      simp [madeFor, grown]
  | @consumed h rtp r loop call o hs =>
      rw [consumed_eq, madeFor_consumeFrom]
      simp [madeFor, grown]
  | resumed => exact madeFor_runLoop _ _ _ _
  | consumerClosed => exact madeFor_closes (closes_of_closeConsumer _ _)
  | routerClosed => exact madeFor_closes (closes_of_closeRouter s)
  | close => exact madeFor_closes (closes_of_close s)

theorem madeFor_transportCreated (s : Room) (h : HandlerRef) (r : ClientRef) (q : RequestId)
    (role : Role) (info : TransportInfo) :
    (s.transportCreated h r q role info).madeFor = s.madeFor ++ [(r, role)] := by
  obtain ⟨out, -, e⟩ := transportCreated_eq s h r q role info
  rw [e]
  simp [madeFor, grown, finish]

theorem length_madeFor (s : Room) : s.madeFor.length = s.router.transports.length :=
  List.length_map ..

end Made

/-! ### Steps -/

namespace OneTransport

variable {s₀ s s' : Room} {es : List Event} {e : Event} {r : ClientRef} {role : Role}

/-- The transport that was waited for is made and stored. -/
theorem transportCreated (h : OneTransport s₀ r role es s) {g : HandlerRef} {c : ClientRef}
    {q : RequestId} {role' : Role} {o : WebRtcTransportOptions} {info : TransportInfo}
    (hs : s.suspended g = some ⟨c, .createTransport q role' o⟩)
    (hx : exec step s₀ (es ++ [.transportCreated g info]) =
      some (s.transportCreated g c q role' info)) :
    OneTransport s₀ r role (es ++ [.transportCreated g info])
      (s.transportCreated g c q role' info) := by
  have hg : s.creating g = some (c, role') := creating_eq_some.mpr ⟨q, o, hs⟩
  have hmade := madeFor_transportCreated s g c q role' info
  have hport := (client_transportCreated s g c q role' info r).2 role
  have back : ∀ {h'}, (s.transportCreated g c q role' info).creating h' = some (r, role) →
      s.creating h' = some (r, role) ∧ h' ≠ g := by
    intro h' hh
    have hturn : Turn s (.transportCreated g info) (s.transportCreated g c q role' info) :=
      .transportCreated hs
    rcases creating_back hturn hh with ⟨hh, hne⟩ | ⟨hh, -⟩
    · exact ⟨hh, fun e => hne (congrArg some e.symm)⟩
    · cases hh
  have other : ∀ {h'}, (s.transportCreated g c q role' info).creating h' = some (r, role) →
      ¬(r = c ∧ role = role') := by
    rintro h' hh ⟨rfl, rfl⟩
    obtain ⟨hh, hne⟩ := back hh
    exact hne (h.one _ _ hh hg)
  refine ⟨fun t => ?_, fun h' g' hh hg' => h.one _ _ (back hh).1 (back hg').1, fun h' hh => ?_,
    fun fs s₁ t hp hx₁ ht => ?_⟩
  · rw [hmade, hport, Cells.concat_eq_some, h.made t, length_madeFor]
    split
    · next hrole =>
        obtain ⟨rfl, rfl⟩ := hrole
        rw [h.refused g hg]
        simp [eq_comm]
    · next hrole =>
        have : ¬((r, role) = (c, role')) := fun e => hrole (Prod.mk.inj e)
        simp [this]
  · rw [hport, if_neg (other hh)]
    exact h.refused _ (back hh).1
  · rcases List.prefix_concat_iff.mp hp with rfl | hp
    · cases hx.symm.trans hx₁
      exact ht
    · have hst := h.kept fs s₁ t hp hx₁ ht
      rw [hport, if_neg]
      · exact hst
      · rintro ⟨rfl, rfl⟩
        cases (h.refused g hg).symm.trans hst

theorem step (h : OneTransport s₀ r role es s) (ht : s.Tables) (hx : exec step s₀ es = some s)
    (he : s.step e = some s') (hG : s.asksAlone r role e) :
    OneTransport s₀ r role (es ++ [e]) s' := by
  have hx' : exec Room.step s₀ (es ++ [e]) = some s' := exec_snoc.mpr ⟨s, hx, he⟩
  have hturn := step_turn he
  by_cases hc : ∃ g info, e = .transportCreated g info
  · obtain ⟨g, info, rfl⟩ := hc
    cases hturn with
    | transportCreated hs => exact h.transportCreated hs hx'
    | ended hend => exact hend.elim
  · have hne : ∀ g info, e ≠ .transportCreated g info := fun g info e' => hc ⟨g, info, e'⟩
    have hmade := madeFor_turn hturn hne
    have hp := SamePorts.turn hturn hne
    have stays : ∀ t, (s.client r).transport role = some t →
        (s'.client r).transport role = some t := by
      intro t hst
      obtain ⟨x, hxt, ho⟩ := ht.port hst
      exact hp.kept (ho ▸ ht.owner hxt) hst
    have none_of : (s.client r).transport role = none → (s'.client r).transport role = none := by
      intro hn
      by_contra hs
      obtain ⟨t, ht'⟩ := Option.ne_none_iff_exists'.mp hs
      rw [hp.port ht'] at hn
      cases hn
    -- no transport is being created when the request comes
    have fresh : ∀ {g g'}, s.creating g = some (r, role) → requested e = some (r, role) →
        (s.client r).transport role = none → (s.client r).eventsClosed = false → g = g' := by
      intro g g' hg hreq hn ho
      obtain ⟨q, o, hs⟩ := creating_eq_some.mp hg
      exact absurd hg (hG hreq ho hn g (suspended_lt hs))
    refine ⟨fun t => ?_, fun g g' hg hg' => ?_, fun g hg => ?_, fun fs s₁ t hpre hx₁ hst => ?_⟩
    · rw [hmade, h.made t]
      exact ⟨stays t, hp.port⟩
    · rcases creating_back hturn hg with ⟨h₁, -⟩ | ⟨hreq, hn, -, ho, e₁⟩ <;>
        rcases creating_back hturn hg' with ⟨h₂, -⟩ | ⟨hreq', hn', -, ho', e₂⟩
      · exact h.one g g' h₁ h₂
      · exact fresh h₁ hreq' hn' ho'
      · exact (fresh h₂ hreq hn ho).symm
      · exact e₁.trans e₂.symm
    · rcases creating_back hturn hg with ⟨hg, -⟩ | ⟨-, hn, -⟩
      · exact none_of (h.refused g hg)
      · exact none_of hn
    · rcases List.prefix_concat_iff.mp hpre with rfl | hpre
      · cases hx'.symm.trans hx₁
        exact hst
      · exact stays t (h.kept fs s₁ t hpre hx₁ hst)

/-- A request that comes too early makes a second transport. -/
theorem not_of_asksAlone (he : s.step e = some s') (hG : ¬s.asksAlone r role e) :
    ¬OneTransport s₀ r role es s' := by
  simp only [asksAlone, not_forall, not_not] at hG
  obtain ⟨hreq, ho, hn, g, hlt, hg⟩ := hG
  intro h
  obtain ⟨q, o, hs⟩ := creating_eq_some.mp hg
  cases e with
  | message c m =>
      cases m with
      | createTransportRequest q' role' =>
          cases hreq
          obtain ⟨-, rfl⟩ := message_step he
          have e : s.receive r (.createTransportRequest q' role) =
              s.spawn r (.createTransport q' role ⟨s.config.ip, s.config.announcedIp⟩) := by
            simp [receive, ho, createTransportRequest, hn]
          rw [e] at h
          have hold := creating_eq_some.mpr ⟨q, o, (suspended_spawn (s := s) (r := r)
            (a := .createTransport q' role ⟨s.config.ip, s.config.announcedIp⟩)).trans
              ((if_neg (Nat.ne_of_lt hlt)).trans hs)⟩
          have hnew := creating_eq_some.mpr ⟨q', _, (suspended_spawn (s := s) (r := r)
            (a := .createTransport q' role ⟨s.config.ip, s.config.announcedIp⟩)).trans
              (if_pos rfl)⟩
          exact absurd (h.one _ _ hold hnew) (Nat.ne_of_lt hlt)
      | _ => cases hreq
  | _ => cases hreq

end OneTransport

theorem oneTransport_new (config : RoomConfig) (id : CallId) (caps : RtpCapabilities)
    (r : ClientRef) (role : Role) :
    OneTransport (.new config (createRouter id caps)) r role []
      (.new config (createRouter id caps)) := by
  have hnone : ((Room.new config (createRouter id caps)).client r).transport role = none := by
    cases role <;> rfl
  refine ⟨fun t => ?_, fun h g hh => ?_, fun h hh => ?_, fun fs s₁ t hp hx ht => ?_⟩
  · rw [hnone]
    simp [madeFor, Room.new, createRouter]
  · cases hh
  · cases hh
  · obtain rfl := List.prefix_nil.mp hp
    cases hx
    exact ht

/-! ### Runs -/

/-- **One transport for each role**, for every client, in every run: at every moment the transports
made for the role are the stored one, every further request is refused, and the stored transport
stays, if and only if no request reached `createWebRtcTransport` while one of its role was being
created for its client. -/
theorem one_transport_iff {config : RoomConfig} {id : CallId} {caps : RtpCapabilities}
    {es : List Event} {s : Room}
    (hx : exec step (.new config (createRouter id caps)) es = some s) (r : ClientRef)
    (role : Role) :
    Throughout step (OneTransport (.new config (createRouter id caps)) r role)
        (.new config (createRouter id caps)) es ↔
      Along step (fun s e => s.asksAlone r role e) (.new config (createRouter id caps)) es := by
  refine throughout_iff_along (oneTransport_new config id caps r role) (fun _ _ h => h)
    (fun es s e s' hx h he hG => ?_) (fun es s e s' _ _ he hG => ?_) hx
  · exact h.step (tables_of_run hx) hx he hG
  · exact OneTransport.not_of_asksAlone he hG

/-- A client asks for both of its transports and for one of them again when it is there. -/
def asksAgain : List Event :=
  [.add { clientId := "a", userId := "u" }, .message 0 (.createTransportRequest "1" .producing),
    .message 0 (.createTransportRequest "2" .consuming), .transportCreated 1 ⟨"ice", [], "dtls"⟩,
    .transportFailed 0, .message 0 (.createTransportRequest "3" .consuming),
    .message 0 (.createTransportRequest "4" .producing), .transportCreated 2 ⟨"ice", [], "dtls"⟩]

theorem one_transport_iff_asksAgain : ∃ s, exec step lobby asksAgain = some s ∧
    s.madeFor = [(0, .consuming), (0, .producing)] ∧
    Throughout step (OneTransport lobby 0 .producing) lobby asksAgain := by
  have hx : exec step lobby asksAgain = some _ := rfl
  exact ⟨_, hx, rfl, (one_transport_iff hx 0 .producing).mpr (by decide)⟩

/-- A client asks for the same transport twice. -/
def asksTwice : List Event :=
  [.add { clientId := "a", userId := "u" }, .message 0 (.createTransportRequest "1" .producing),
    .message 0 (.createTransportRequest "2" .producing), .transportCreated 0 ⟨"ice", [], "dtls"⟩,
    .transportCreated 1 ⟨"ice", [], "dtls"⟩]

/-- **Two transports.**  Both requests pass the guard, and the transport that is created last
replaces the first, which nobody closes. -/
theorem created_twice : ∃ s, exec step lobby asksTwice = some s ∧
    s.madeFor = [(0, .producing), (0, .producing)] ∧ (s.client 0).sndTransport = some 1 ∧
    ¬Throughout step (OneTransport lobby 0 .producing) lobby asksTwice := by
  have hx : exec step lobby asksTwice = some _ := rfl
  refine ⟨_, hx, rfl, rfl, fun h => ?_⟩
  cases ((h asksTwice _ (List.prefix_refl _) hx).made 0).mp rfl

end DemoApp.Sfu.Room
