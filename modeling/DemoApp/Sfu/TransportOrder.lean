import DemoApp.Sfu.Answers
import DemoApp.Sfu.Departure
import DemoApp.Sfu.Uniqueness

/-!
# Sfu — TransportOrder

Where the transports of a client come in what the room sends it.  A consumer is announced only to a
client whose receiving transport is stored, and that transport was answered when it was stored.

* `notified_after_transports`: if the calls of `createWebRtcTransport` resolve in the order in which
  they were made, and a client asks for its sending transport and then for its receiving one, then
  both responses come before every `ConsumerCreatedNotification` to it.
-/

namespace DemoApp.Sfu

/-- The id and the role of a `create-transport-request`. -/
def ClientMessage.transportRequest : ClientMessage → Option (RequestId × Role)
  | .createTransportRequest q role => some (q, role)
  | _ => none

/-- The response to a `create-transport-request` comes before every announcement of a consumer. -/
def Preceded (q : RequestId) (l : List ServerMessage) : Prop :=
  ∀ before k p kind rtp c after,
    l = before ++ .consumerCreatedNotification k p kind rtp c :: after →
      ∃ t info, .createTransportResponse q t info ∈ before

theorem Preceded.append {q : RequestId} {l out : List ServerMessage} (h : Preceded q l)
    (hout : ∀ k p kind rtp c, .consumerCreatedNotification k p kind rtp c ∈ out →
      ∃ t info, .createTransportResponse q t info ∈ l) : Preceded q (l ++ out) := by
  intro before k p kind rtp c after e
  rcases List.append_eq_append_iff.mp e with ⟨between, rfl, hb⟩ | ⟨rest, rfl, hr⟩
  · obtain ⟨t, info, hm⟩ := hout k p kind rtp c (hb ▸ by simp)
    exact ⟨t, info, List.mem_append_left _ hm⟩
  · cases rest with
    | nil =>
        cases hr
        obtain ⟨t, info, hm⟩ := hout k p kind rtp c List.mem_cons_self
        exact ⟨t, info, by simpa using hm⟩
    | cons n rest =>
        cases hr
        exact h before k p kind rtp c rest rfl

namespace Room
open Machine

/-- The messages to the client `r`. -/
def sentTo (r : ClientRef) (out : List (ClientRef × ServerMessage)) : List ServerMessage :=
  out.filterMap fun x => if x.1 = r then some x.2 else none

/-- What the room sent to the client `r`. -/
def toClient (s : Room) (r : ClientRef) : List ServerMessage := sentTo r s.sent

/-- The message that the client `r` sends. -/
def messageOf (r : ClientRef) : Event → Option ClientMessage
  | .message q m => if q = r then some m else none
  | _ => none

/-- The `create-transport-request`s of the client `r`, by their ids and roles. -/
def transportRequests (r : ClientRef) (es : List Event) : List (RequestId × Role) :=
  (es.filterMap (messageOf r)).filterMap ClientMessage.transportRequest

/-- A call of `createWebRtcTransport` resolves only when no earlier one is pending, and none
rejects. -/
def InOrder (s : Room) : Event → Prop
  | .transportCreated h _ => ∀ g < h, s.creating g = none
  | .transportFailed _    => False
  | _ => True

instance (s : Room) : (e : Event) → Decidable (InOrder s e)
  | .transportCreated h _ => inferInstanceAs (Decidable (∀ g < h, s.creating g = none))
  | .transportFailed _ => isFalse id
  | .add _ | .socketClosed _ | .message _ _ | .transportConnected _ _ | .produced _
  | .produceFailed _ | .producerSwitched _ | .consumed _ _ | .consumeFailed _ | .resumed _
  | .consumerClosed _ | .routerClosed | .close | .elapsed _ => isTrue trivial

/-- The handler `h` waits for the transport that the request `q` of the client `r` asks for. -/
def Creates (s : Room) (r : ClientRef) (h : HandlerRef) (q : RequestId) (role : Role) : Prop :=
  ∃ o, s.suspended h = some ⟨r, .createTransport q role o⟩

/-- The request `q` of the client `r` was answered with a transport, unless the client has gone. -/
def Responded (s : Room) (r : ClientRef) (q : RequestId) : Prop :=
  (s.client r).eventsClosed = true ∨ ∃ t info, .createTransportResponse q t info ∈ s.toClient r

theorem mem_sentTo {r : ClientRef} {out : List (ClientRef × ServerMessage)} {m : ServerMessage} :
    m ∈ sentTo r out ↔ (r, m) ∈ out := by
  simp only [sentTo, List.mem_filterMap]
  constructor
  · rintro ⟨⟨c, m'⟩, hx, hm⟩
    split at hm
    · next e =>
        cases hm
        exact e ▸ hx
    · cases hm
  · exact fun h => ⟨(r, m), h, if_pos rfl⟩

/-! ### What a turn does -/

section Turns

variable {s s' : Room} {e : Event} {r : ClientRef} {h g : HandlerRef} {q : RequestId} {role : Role}

/-- Whoever waits for a transport waited for it before the turn, or asks for it now. -/
theorem creates_back (hturn : Turn s e s') (hc : s'.Creates r h q role) :
    s.Creates r h q role ∨ e = .message r (.createTransportRequest q role) ∧
      h = s.handlers.length := by
  obtain ⟨o, hs⟩ := hc
  rcases suspended_back hturn hs rfl with ⟨hs, -⟩ | ⟨m, rfl, ha, -, -, hlen⟩
  · exact .inl ⟨o, hs⟩
  · cases m with
    | createTransportRequest q' role' =>
        obtain ⟨-, e⟩ := ha
        cases e
        exact .inr ⟨rfl, hlen⟩
    | createProducerRequest => obtain ⟨_, -, e⟩ := ha; cases e
    | transportConnectedNotification | pauseProducerRequest | resumeProducerRequest => cases ha
    | getRouterCapabilitiesRequest | clientRtpCapabilities | joinCallRequest
    | getClientStatsRequest => exact ha.elim

/-- Whoever waits for a transport goes on waiting, until it is created. -/
theorem creates_stays (he : s.step e = some s') (ho : s.InOrder e) (hc : s.Creates r h q role) :
    s'.Creates r h q role ∨ ∃ info, e = .transportCreated h info := by
  obtain ⟨o, hs⟩ := hc
  by_cases hh : e.handler = some h
  · right
    cases e with
    | transportCreated g info => cases hh; exact ⟨info, rfl⟩
    | transportFailed => exact ho.elim
    | transportConnected | produced | produceFailed | producerSwitched | consumed | consumeFailed
    | resumed =>
        cases hh
        simp [step, hs] at he
    | add | socketClosed | message | consumerClosed | routerClosed | close | elapsed => cases hh
  · exact .inl ⟨o, (suspended_turn (step_turn he) (suspended_lt hs) hh).trans hs⟩

theorem toClient_turn (hturn : Turn s e s') (r : ClientRef) : s.toClient r <+: s'.toClient r :=
  (sent_turn hturn).filterMap _

theorem Responded.step (h : s.Responded r q) (hr : r < s.added) (he : s.step e = some s') :
    s'.Responded r q := by
  rcases h with hc | ⟨t, info, hm⟩
  · exact .inl (Core.eventsClosed_step (core_step he) hr hc)
  · exact .inr ⟨t, info, (toClient_turn (step_turn he) r).subset hm⟩

/-- The continuation of `createWebRtcTransport` answers. -/
theorem responded_created (s : Room) (h : HandlerRef) (r : ClientRef) (q : RequestId) (role : Role)
    (info : TransportInfo) : (s.transportCreated h r q role info).Responded r q := by
  by_cases hc : (s.client r).eventsClosed = true
  · exact .inl ((client_transportCreated s h r q role info r).1.trans hc)
  · refine .inr ⟨s.router.transports.length, info, mem_sentTo.mpr ?_⟩
    have hopen : ∀ t, ((s.client r).setTransport role t).eventsClosed =
        (s.client r).eventsClosed := fun t => by cases role <;> rfl
    rw [transportCreated, finish_answer]
    simp [hopen, hc]

/-- Whoever waits for a transport is still waiting or was answered. -/
theorem Creates.step (hc : s.Creates r h q role) (he : s.step e = some s') (ho : s.InOrder e) :
    s'.Creates r h q role ∨ s'.Responded r q := by
  refine (creates_stays he ho hc).imp_right ?_
  rintro ⟨info, rfl⟩
  obtain ⟨o, hs⟩ := hc
  simp only [Room.step, hs] at he
  cases he
  exact responded_created s h r q role info

/-- A request for a transport that the client has not is taken up. -/
theorem creates_message (he : s.step (.message r (.createTransportRequest q role)) = some s')
    (ht : (s.client r).transport role = none) :
    s'.Responded r q ∨ s'.Creates r s.handlers.length q role := by
  obtain ⟨-, rfl⟩ := message_step he
  by_cases hc : (s.client r).eventsClosed = true
  · exact .inl (.inl (by simp [receive, hc]))
  · refine .inr ⟨⟨s.config.ip, s.config.announcedIp⟩, ?_⟩
    simp only [receive, hc, createTransportRequest, ht]
    exact suspended_spawn.trans (if_pos rfl)

/-- A transport that a client has stored was there, or has just been created. -/
theorem port_back (he : s.step e = some s') {t : TransportId}
    (ht : (s'.client r).transport role = some t) :
    (s.client r).transport role = some t ∨
      ∃ h info q, e = .transportCreated h info ∧ s.Creates r h q role ∧ s'.Responded r q := by
  by_cases hcr : ∃ h info, e = .transportCreated h info
  · obtain ⟨h, info, rfl⟩ := hcr
    cases step_turn he with
    | @transportCreated _ _ c q role' o hs =>
        rw [(client_transportCreated s h c q role' info r).2] at ht
        split at ht
        · next hc =>
            obtain ⟨rfl, rfl⟩ := hc
            exact .inr ⟨h, info, q, rfl, ⟨o, hs⟩, responded_created s h r q role info⟩
        · exact .inl ht
    | ended hend => exact hend.elim
  · exact .inl ((SamePorts.turn (step_turn he) fun h info e => hcr ⟨h, info, e⟩).port ht)

end Turns

/-! ### What is pending -/

section Pending

variable {s s' : Room} {e : Event} {r c : ClientRef} {h g : HandlerRef} {loop : Loop}
  {call : ConsumeCall} {p : ProducerId}

/-- The loop over the producers stops only for a client with a receiving transport. -/
theorem pending_consumeFrom (hp : (s.consumeFrom h r loop call).pendingConsume g = some (c, p)) :
    s.pendingConsume g = some (c, p) ∨ (s.client c).rcvTransport.isSome = true := by
  obtain ⟨q, l, d, o, hs, rfl, rfl⟩ := pendingConsume_eq_some.mp hp
  rcases consumeFrom_cases s h r loop call with ⟨e, -⟩ | ⟨cursor, p, kind, o', e, -, ho, -⟩ <;>
    rw [e, suspend, suspended_set] at hs
  · split at hs
    · split at hs <;> cases hs
    · exact .inl (pendingConsume_eq_some.mpr ⟨q, l, d, o, hs, rfl, rfl⟩)
  · split at hs
    · split at hs
      · cases hs
        exact .inr (Option.isSome_of_mem (toConsume_eq_some.mp ho).2.2.1)
      · cases hs
    · exact .inl (pendingConsume_eq_some.mpr ⟨q, l, d, o, hs, rfl, rfl⟩)

theorem pendingConsume_congr (hs : s'.suspended g = s.suspended g) :
    s'.pendingConsume g = s.pendingConsume g := by rw [pendingConsume, pendingConsume, hs]

theorem pending_runLoop (hp : (s.runLoop h r loop).pendingConsume g = some (c, p)) :
    s.pendingConsume g = some (c, p) ∨ (s.client c).rcvTransport.isSome = true := by
  by_cases hg : g = h
  · subst hg
    rcases runLoop_cases s g r loop with ⟨e, -⟩ | ⟨cursor, id, e, -⟩ <;> rw [e] at hp
    · obtain ⟨q, l, d, o, hs, -⟩ := pendingConsume_eq_some.mp hp
      rw [suspended_finish, if_pos rfl] at hs
      cases hs
    · rcases consumeClient_cases s g r { loop with cursor }
        (Loop.pair loop.kind (s.client r).clientId id).1
        (Loop.pair loop.kind (s.client r).clientId id).2 with ⟨-, e'⟩ | ⟨_, _, -, -, e'⟩ <;>
        rw [e'] at hp
      · obtain ⟨q, l, d, o, hs, -⟩ := pendingConsume_eq_some.mp hp
        rw [suspend, suspended_set, if_pos rfl] at hs
        split at hs <;> cases hs
      · exact pending_consumeFrom hp
  · exact .inl ((pendingConsume_congr (suspended_runLoop hg)).symm.trans hp)

/-- A `consume` is called only for a client with a receiving transport. -/
theorem pending_back (hturn : Turn s e s') (hp : s'.pendingConsume g = some (c, p)) :
    s.pendingConsume g = some (c, p) ∨ (s.client c).rcvTransport.isSome = true := by
  -- where no handler enters a loop
  have same : (∀ q l d o, s'.suspended g = some ⟨q, .consume l d o⟩ →
      s.suspended g = some ⟨q, .consume l d o⟩) → s.pendingConsume g = some (c, p) := fun h => by
    obtain ⟨q, l, d, o, hs, hc, hp⟩ := pendingConsume_eq_some.mp hp
    exact pendingConsume_eq_some.mpr ⟨q, l, d, o, h q l d o hs, hc, hp⟩
  cases hturn with
  | add | capabilities | ignored | answered | elapsed => exact .inl hp
  | socketClosed =>
      exact .inl (same fun q l d o hs => by simpa [suspended, handlers_socketClosed] using hs)
  | joinCallRequest =>
      refine (pending_runLoop hp).imp_left fun hp => ?_
      obtain ⟨q, l, d, o, hs, hc⟩ := pendingConsume_eq_some.mp hp
      rw [suspended_append] at hs
      split at hs
      · cases hs
      · exact pendingConsume_eq_some.mpr ⟨q, l, d, o, hs, hc⟩
  | @spawn q m a hr he ha =>
      refine .inl (same fun q l d o hs => ?_)
      rw [suspended_spawn] at hs
      split at hs
      · cases hs
        cases m <;> simp [Awaits] at ha
      · exact hs
  | @transportCreated h info r q role o hs =>
      obtain ⟨out, -, e⟩ := transportCreated_eq s h r q role info
      refine .inl (same fun q l d o hs => ?_)
      rw [e] at hs
      have hf := suspended_finish.symm.trans hs
      split at hf
      · cases hf
      · exact hf
  | @produced h r q t kind rtp hs =>
      obtain ⟨out, -, e⟩ := produced_eq s h r q t kind
      rw [e] at hp
      refine (pending_runLoop hp).imp_right fun ht => ?_
      simp only [client_modify] at ht
      split at ht
      · next e => exact e ▸ ht
      · exact ht
  | @consumed h rtp r loop call o hs =>
      rw [consumed_eq] at hp
      refine (pending_consumeFrom hp).imp_right fun ht => ?_
      simp only [client_modify] at ht
      split at ht
      · next e => exact e ▸ ht
      · exact ht
  | resumed => exact pending_runLoop hp
  | consumeFailed =>
      refine .inl (same fun q l d o hs => ?_)
      rw [suspended_finish] at hs
      split at hs
      · cases hs
      · exact hs
  | ended =>
      refine .inl (same fun q l d o hs => ?_)
      have hf := suspended_finish.symm.trans hs
      split at hf
      · cases hf
      · exact hf
  | consumerClosed =>
      exact .inl ((pendingConsume_congr ((closes_of_closeConsumer _ _).suspended g)).symm.trans hp)
  | routerClosed =>
      exact .inl ((pendingConsume_congr ((closes_of_closeRouter s).suspended g)).symm.trans hp)
  | close =>
      exact .inl ((pendingConsume_congr ((closes_of_close s).suspended g)).symm.trans hp)

/-- A consumer is announced when the `consume` for its client resolves. -/
theorem notified_turn (hturn : Turn s e s') {out : List (ClientRef × ServerMessage)}
    (hout : s'.sent = s.sent ++ out) {k : ConsumerId} {kind : MediaKind} {rtp : RtpParameters}
    {remote : RemoteClient} (hm : (r, .consumerCreatedNotification k p kind rtp remote) ∈ out) :
    ∃ h, s.pendingConsume h = some (r, p) ∧ (s.client r).eventsClosed = false := by
  by_cases hc : ∃ h rtp, e = .consumed h rtp
  · obtain ⟨h, rtp', rfl⟩ := hc
    cases hturn with
    | @consumed _ _ q loop call o hs =>
        rw [consumed_eq, sent_consumeFrom] at hout
        rw [← List.append_cancel_left hout] at hm
        split at hm
        · cases hm
        · next hopen =>
            simp only [List.mem_singleton, Prod.mk.injEq,
              ServerMessage.consumerCreatedNotification.injEq] at hm
            obtain ⟨rfl, -, rfl, -⟩ := hm
            exact ⟨h, pendingConsume_eq_some.mpr ⟨q, loop, call, o, hs, rfl, rfl⟩,
              by simpa using hopen⟩
    | ended hend => exact hend.elim
  · have hsame := (Shrinks.turn hturn fun h rtp e => hc ⟨h, rtp, e⟩).sent
    rw [hout, List.filterMap_append] at hsame
    have hnil := List.append_cancel_left (hsame.trans (List.append_nil _).symm)
    have hmem : (r, k, p) ∈ out.filterMap announced := List.mem_filterMap.mpr ⟨_, hm, rfl⟩
    rw [hnil] at hmem
    cases hmem

end Pending

/-! ### The invariant -/

theorem concat_prefix_pair {α : Type*} {l : List α} {x a b : α} (h : l ++ [x] <+: [a, b]) :
    l = [] ∧ x = a ∨ l = [a] ∧ x = b := by
  rcases l with _ | ⟨y, _ | ⟨z, l⟩⟩
  · simpa using h
  · simpa [List.cons_prefix_cons] using h
  · simp [List.cons_prefix_cons] at h

/-- The sending transport of `r` is created before its receiving one, a `consume` for `r` is called
only when it has both, and both were answered then. -/
structure Prepared (r : ClientRef) (q₁ q₂ : RequestId) (es : List Event) (s : Room) : Prop where
  added : transportRequests r es ≠ [] → r < s.added
  pending : ∀ {h q role}, s.Creates r h q role → (q, role) ∈ transportRequests r es
  asked : ∀ {role t}, (s.client r).transport role = some t →
    ∃ q, (q, role) ∈ transportRequests r es
  first : (q₁, .producing) ∈ transportRequests r es →
    s.Responded r q₁ ∨ ∃ h, s.Creates r h q₁ .producing
  second : ∀ {h}, s.Creates r h q₂ .consuming →
    s.Responded r q₁ ∨ ∃ g < h, s.Creates r g q₁ .producing
  stored : (s.client r).rcvTransport.isSome = true → s.Responded r q₁ ∧ s.Responded r q₂
  consume : ∀ {h p}, s.pendingConsume h = some (r, p) → (s.client r).rcvTransport.isSome = true
  notified : Preceded q₁ (s.toClient r) ∧ Preceded q₂ (s.toClient r)

section Runs

variable {es : List Event} {s s' : Room} {e : Event} {r : ClientRef} {q q₁ q₂ : RequestId}
  {role : Role}

theorem transportRequests_concat (r : ClientRef) (es : List Event) (e : Event) :
    transportRequests r (es ++ [e]) = transportRequests r es ∨
      ∃ q role, e = .message r (.createTransportRequest q role) ∧
        transportRequests r (es ++ [e]) = transportRequests r es ++ [(q, role)] := by
  simp only [transportRequests, List.filterMap_append]
  cases e with
  | message q m =>
      by_cases hq : q = r
      · subst hq
        cases m with
        | createTransportRequest q' role => exact .inr ⟨q', role, rfl, by simp [messageOf,
            ClientMessage.transportRequest]⟩
        | _ => exact .inl (by simp [messageOf, ClientMessage.transportRequest])
      · exact .inl (by simp [messageOf, hq])
  | _ => exact .inl (by simp [messageOf])

theorem transportRequests_message :
    transportRequests r (es ++ [.message r (.createTransportRequest q role)]) =
      transportRequests r es ++ [(q, role)] := by
  simp [transportRequests, messageOf, ClientMessage.transportRequest]

theorem port_kept (he : s.step e = some s') (hr : r < s.added)
    (ht : ((s.client r).transport role).isSome = true) :
    ((s'.client r).transport role).isSome = true := by
  obtain ⟨t, ht⟩ := Option.isSome_iff_exists.mp ht
  by_cases hc : ∃ h info, e = .transportCreated h info
  · obtain ⟨h, info, rfl⟩ := hc
    cases step_turn he with
    | transportCreated =>
        rw [(client_transportCreated _ _ _ _ _ _ _).2]
        split
        · rfl
        · simp [ht]
    | ended hend => exact hend.elim
  · exact Option.isSome_of_mem
      ((SamePorts.turn (step_turn he) fun h info e => hc ⟨h, info, e⟩).kept hr ht)

theorem mem_later {x : RequestId × Role} (hx : x ∈ transportRequests r es) :
    x ∈ transportRequests r (es ++ [e]) := by
  rw [transportRequests, List.filterMap_append, List.filterMap_append]
  exact List.mem_append_left _ hx

namespace Prepared

/-- What was answered stays answered. -/
theorem later (h : Prepared r q₁ q₂ es s) (he : s.step e = some s') {x : RequestId × Role}
    (hx : x ∈ transportRequests r es) (ha : s.Responded r q) : s'.Responded r q :=
  ha.step (h.added (List.ne_nil_of_mem hx)) he

/-- When the first request arrives, nothing was asked for before it. -/
theorem first_step (h : Prepared r q₁ q₂ es s) (he : s.step e = some s') (ho : s.InOrder e)
    (hr : transportRequests r (es ++ [e]) <+: [(q₁, .producing), (q₂, .consuming)])
    (hq : (q₁, .producing) ∈ transportRequests r (es ++ [e])) :
    s'.Responded r q₁ ∨ ∃ h, s'.Creates r h q₁ .producing := by
  by_cases hold : (q₁, .producing) ∈ transportRequests r es
  · rcases h.first hold with ha | ⟨g, hc⟩
    · exact .inl (h.later he hold ha)
    · exact (hc.step he ho).symm.imp_right fun hc => ⟨g, hc⟩
  · rcases transportRequests_concat r es e with e' | ⟨q, role, rfl, e'⟩
    · exact absurd (e' ▸ hq) hold
    · rw [e'] at hr hq
      rcases concat_prefix_pair hr with ⟨hnil, hx⟩ | ⟨hone, -⟩
      · cases hx
        have hnone : (s.client r).transport .producing = none := by
          cases ht : (s.client r).transport .producing with
          | none => rfl
          | some t =>
              obtain ⟨q, hq⟩ := h.asked ht
              rw [hnil] at hq
              cases hq
        exact (creates_message he hnone).imp_right fun hc => ⟨_, hc⟩
      · exact absurd (hone ▸ List.mem_singleton_self _) hold

/-- When the second request arrives, the first has been answered or waits. -/
theorem second_step (h : Prepared r q₁ q₂ es s) (he : s.step e = some s') (ho : s.InOrder e)
    (hr : transportRequests r (es ++ [e]) <+: [(q₁, .producing), (q₂, .consuming)])
    {g : HandlerRef} (hc : s'.Creates r g q₂ .consuming) :
    s'.Responded r q₁ ∨ ∃ g' < g, s'.Creates r g' q₁ .producing := by
  rcases creates_back (step_turn he) hc with hc | ⟨rfl, rfl⟩
  · rcases h.second hc with ha | ⟨g', hg, hc'⟩
    · exact .inl (h.later he (h.pending hc) ha)
    · exact (hc'.step he ho).symm.imp_right fun hc => ⟨g', hg, hc⟩
  · rw [transportRequests_message] at hr
    rcases concat_prefix_pair hr with ⟨-, hx⟩ | ⟨hone, -⟩
    · cases hx
    · have hold : (q₁, Role.producing) ∈ transportRequests r es :=
        hone ▸ List.mem_singleton_self _
      rcases h.first hold with ha | ⟨g', hc⟩
      · exact .inl (h.later he hold ha)
      · have hg : g' < s.handlers.length := suspended_lt hc.choose_spec
        exact (hc.step he ho).symm.imp_right fun hc => ⟨g', hg, hc⟩

/-- The receiving transport is created when the sending one no longer waits. -/
theorem stored_step (h : Prepared r q₁ q₂ es s) (he : s.step e = some s') (ho : s.InOrder e)
    (hr : transportRequests r (es ++ [e]) <+: [(q₁, .producing), (q₂, .consuming)])
    {t : TransportId} (ht : (s'.client r).transport .consuming = some t) :
    s'.Responded r q₁ ∧ s'.Responded r q₂ := by
  rcases port_back he ht with ht | ⟨g, info, q, rfl, hc, ha⟩
  · obtain ⟨ha₁, ha₂⟩ := h.stored (Option.isSome_of_mem ht)
    obtain ⟨q, hq⟩ := h.asked ht
    exact ⟨h.later he hq ha₁, h.later he hq ha₂⟩
  · have hq := h.pending hc
    have hmem := hr.subset (mem_later hq)
    simp only [List.mem_cons, Prod.mk.injEq, reduceCtorEq, and_false, and_true, List.not_mem_nil,
      or_false, false_or] at hmem
    subst hmem
    refine ⟨?_, ha⟩
    rcases h.second hc with ha' | ⟨g', hg', o, hs⟩
    · exact h.later he hq ha'
    · have hnone := ho g' hg'
      rw [creating_eq_some.mpr ⟨q₁, o, hs⟩] at hnone
      cases hnone

/-- A consumer is announced to a client whose transports were both answered. -/
theorem notified_step (h : Prepared r q₁ q₂ es s) (he : s.step e = some s') :
    Preceded q₁ (s'.toClient r) ∧ Preceded q₂ (s'.toClient r) := by
  obtain ⟨out, hout⟩ := sent_turn (step_turn he)
  have hto : s'.toClient r = s.toClient r ++ sentTo r out := by
    rw [toClient, ← hout, sentTo, List.filterMap_append]
    rfl
  have answered : ∀ {k p kind rtp c},
      .consumerCreatedNotification k p kind rtp c ∈ sentTo r out →
        (∃ t info, .createTransportResponse q₁ t info ∈ s.toClient r) ∧
          ∃ t info, .createTransportResponse q₂ t info ∈ s.toClient r := by
    intro k p kind rtp c hm
    obtain ⟨g, hp, hopen⟩ := notified_turn (step_turn he) hout.symm (mem_sentTo.mp hm)
    obtain ⟨ha₁, ha₂⟩ := h.stored (h.consume hp)
    simp only [Responded, hopen, Bool.false_eq_true, false_or] at ha₁ ha₂
    exact ⟨ha₁, ha₂⟩
  rw [hto]
  exact ⟨h.notified.1.append fun k p kind rtp c hm => (answered hm).1,
    h.notified.2.append fun k p kind rtp c hm => (answered hm).2⟩

theorem step (h : Prepared r q₁ q₂ es s) (he : s.step e = some s') (ho : s.InOrder e)
    (hr : transportRequests r (es ++ [e]) <+: [(q₁, .producing), (q₂, .consuming)]) :
    Prepared r q₁ q₂ (es ++ [e]) s' := by
  refine ⟨fun hne => ?_, fun hc => ?_, fun ht => ?_, h.first_step he ho hr,
    h.second_step he ho hr, fun ht => ?_, fun hp => ?_, h.notified_step he⟩
  · refine Nat.lt_of_lt_of_le ?_ (Core.added_step (core_step he))
    rcases transportRequests_concat r es e with e' | ⟨q, role, rfl, -⟩
    · exact h.added (e' ▸ hne)
    · exact (message_turn he).1
  · rcases creates_back (step_turn he) hc with hc | ⟨rfl, -⟩
    · exact mem_later (h.pending hc)
    · simp [transportRequests_message]
  · rcases port_back he ht with ht | ⟨g, info, q, -, hc, -⟩
    · obtain ⟨q, hq⟩ := h.asked ht
      exact ⟨q, mem_later hq⟩
    · exact ⟨q, mem_later (h.pending hc)⟩
  · obtain ⟨t, ht⟩ := Option.isSome_iff_exists.mp ht
    exact h.stored_step he ho hr ht
  · have ht : ((s.client r).transport .consuming).isSome = true := by
      rcases pending_back (step_turn he) hp with hp | ht
      · exact h.consume hp
      · exact ht
    obtain ⟨t, ht'⟩ := Option.isSome_iff_exists.mp ht
    obtain ⟨q, hq⟩ := h.asked ht'
    exact port_kept he (h.added (List.ne_nil_of_mem hq)) ht

end Prepared

/-- In a new room nothing was asked for. -/
theorem prepared_new (config : RoomConfig) (id : CallId) (caps : RtpCapabilities) :
    Prepared r q₁ q₂ [] (Room.new config (createRouter id caps)) := by
  have none : ∀ h, (Room.new config (createRouter id caps)).suspended h = none :=
    fun h => by simp [suspended, Room.new]
  refine ⟨fun hn => absurd rfl hn, ?_, fun {role t} ht => ?_, fun hm => ?_, ?_, fun ht => ?_,
    fun {h p} hp => ?_, ?_⟩
  · rintro h q role ⟨o, hs⟩
    rw [none] at hs
    cases hs
  · cases role <;> cases ht
  · cases hm
  · rintro h ⟨o, hs⟩
    rw [none] at hs
    cases hs
  · cases ht
  · obtain ⟨_, _, _, _, hs, -⟩ := pendingConsume_eq_some.mp hp
    rw [none] at hs
    cases hs
  · have hnil : (Room.new config (createRouter id caps)).toClient r = [] := rfl
    rw [hnil]
    constructor <;>
    · intro before k p kind rtp c after e
      simp at e

/-- **Both transports come before every consumer**, in every run in which `createWebRtcTransport`
resolves in the order of its calls, for a client that asks for its sending transport and then for
its receiving one. -/
theorem notified_after_transports {config : RoomConfig} {id : CallId} {caps : RtpCapabilities}
    (hx : exec Room.step (.new config (createRouter id caps)) es = some s)
    (ho : Along Room.step InOrder (.new config (createRouter id caps)) es)
    (hr : transportRequests r es <+: [(q₁, .producing), (q₂, .consuming)]) :
    Preceded q₁ (s.toClient r) ∧ Preceded q₂ (s.toClient r) := by
  have h := exec_history (I := fun es s =>
    Along Room.step InOrder (.new config (createRouter id caps)) es →
    transportRequests r es <+: [(q₁, .producing), (q₂, .consuming)] → Prepared r q₁ q₂ es s)
    (fun _ _ => prepared_new config id caps) ?_ hx
  · exact (h ho hr).notified
  · intro es s e s' hx ih he ho hr
    obtain ⟨ho', he'⟩ := (along_snoc hx).mp ho
    refine (ih ho' (List.IsPrefix.trans ?_ hr)).step he he' hr
    rw [transportRequests, transportRequests, List.filterMap_append, List.filterMap_append]
    exact List.prefix_append _ _

end Runs

end Room

end DemoApp.Sfu
