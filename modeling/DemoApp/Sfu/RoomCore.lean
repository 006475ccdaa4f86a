import DemoApp.Sfu.RoomFrame

/-!
# Sfu — RoomCore

What only `add`, the close of a websocket and the close of a room change: the `Core` of the room.
It is a machine of its own, `Core.step`, which the room follows step by step (`core_step`):
everything about who is in `_clients` and when the room closes is proved about `Core`.

`MediasoupRoom.close` enters itself again through the observer of the router it closes; the
listener finds the router closed and returns (`closeRouter_closeAt`, `close_eq`).
-/

namespace DemoApp.Sfu.Room

/-- What only `add`, the close of a websocket and the close of the room change. -/
@[ext] structure Core where
  config : RoomConfig
  clients : LiveMap ClientId ClientRef
  added : Nat
  clientId : ClientRef → ClientId
  socketClosed : ClientRef → Bool
  eventsClosed : ClientRef → Bool
  routerClosed : Bool
  listening : Bool
  closedCalls : Nat

def core (s : Room) : Core where
  config := s.config
  clients := s.clients
  added := s.added
  clientId := fun r => (s.client r).clientId
  socketClosed := fun r => (s.client r).socketClosed
  eventsClosed := fun r => (s.client r).eventsClosed
  routerClosed := s.router.closed
  listening := s.router.listening
  closedCalls := s.closedCalls

theorem core_send (s : Room) (r : ClientRef) (m : ServerMessage) : (s.send r m).core = s.core := by
  rw [send_frame]; rfl

theorem core_finish (s : Room) (h : HandlerRef) : (s.finish h).core = s.core := rfl

/-- An assignment to the other fields of a client. -/
theorem core_modify {s : Room} {r : ClientRef} {f : Client → Client}
    (hf : (f (s.client r)).clientId = (s.client r).clientId ∧
      (f (s.client r)).socketClosed = (s.client r).socketClosed ∧
      (f (s.client r)).eventsClosed = (s.client r).eventsClosed) :
    (s.modify r f).core = s.core := by
  obtain ⟨h₁, h₂, h₃⟩ := hf
  simp only [core, client_modify, Core.mk.injEq]
  refine ⟨rfl, rfl, rfl, ?_, ?_, ?_, rfl, rfl, rfl⟩ <;>
  · funext q
    split
    · next e => subst e; assumption
    · rfl

theorem core_consumeFrom (s : Room) (h : HandlerRef) (r : ClientRef) (loop : Loop)
    (call : ConsumeCall) : (s.consumeFrom h r loop call).core = s.core := by
  obtain ⟨a, ha⟩ := consumeFrom_frame s h r loop call
  rw [ha]; rfl

theorem core_runLoop (s : Room) (h : HandlerRef) (r : ClientRef) (loop : Loop) :
    (s.runLoop h r loop).core = s.core := by
  obtain ⟨x, out, e⟩ := runLoop_frame s h r loop
  rw [e]; rfl

/-! ### Closing -/

theorem foldl_eq {α β : Type*} {f : Room → α → Room} (g : Room → β)
    (hf : ∀ s x, g (f s x) = g s) : ∀ (l : List α) (s : Room), g (l.foldl f s) = g s
  | [],     _ => rfl
  | x :: l, s => (foldl_eq g hf l (f s x)).trans (hf s x)

theorem core_closeProducer (s : Room) (p : ProducerId) : (s.closeProducer p).core = s.core := by
  rw [closeProducer]
  split
  · rfl
  · split
    · rfl
    · rw [core_modify ⟨rfl, rfl, rfl⟩]; rfl

theorem core_closeConsumer (s : Room) (k : ConsumerId) : (s.closeConsumer k).core = s.core := by
  rw [closeConsumer]
  split
  · rfl
  · split
    · rfl
    · rw [core_send, core_modify ⟨rfl, rfl, rfl⟩]; rfl

theorem core_closeTransport (s : Room) (t : TransportId) : (s.closeTransport t).core = s.core := by
  rw [closeTransport]
  split
  · rfl
  · split
    · rfl
    · simp only [closeObjects, foldl_eq core core_closeConsumer, foldl_eq core core_closeProducer]
      rfl

theorem core_closeTransport? (s : Room) (o : Option TransportId) :
    (s.closeTransport? o).core = s.core := by
  cases o with
  | none => rfl
  | some t => exact core_closeTransport s t

theorem closeAt_closed {s : Room} (h : s.router.closed = true) : ∀ n, closeAt n s = s
  | 0     => rfl
  | _ + 1 => by simp [closeAt, h]

theorem closed_foldl (s : Room) (l : List TransportId) :
    (l.foldl closeTransport s).router.closed = s.router.closed :=
  congrArg Core.routerClosed (foldl_eq core core_closeTransport l s)

/-- The listener of the room finds the router closed and returns: closing a router only closes
its objects. -/
theorem closeRouter_closeAt {s : Room} (h : s.router.closed = false) (n : Nat) :
    closeRouter (closeAt n) s =
      let s₁ := (List.range s.router.transports.length).foldl closeTransport
        { s with router.closed := true }
      { s₁ with router.listening := false } := by
  have hc := closed_foldl { s with router.closed := true }
    (List.range s.router.transports.length)
  simp only [closeRouter, h, Bool.false_eq_true, if_false]
  split
  · rw [closeAt_closed (by simpa using hc)]
  · next hl =>
      simp only [Bool.not_eq_true] at hl
      rw [← hl]

/-- `MediasoupRoom.close`, as the source has it: its depth is not a bound. -/
theorem close_eq (s : Room) :
    s.close =
      if s.router.closed then s
      else { closeRouter close s with closedCalls := (closeRouter close s).closedCalls + 1 } := by
  by_cases h : s.router.closed = true
  · simp [close, closeAt, h]
  · simp only [Bool.not_eq_true] at h
    have e : closeRouter close s = closeRouter (closeAt 1) s := by
      rw [closeRouter_closeAt h 1]; exact closeRouter_closeAt h 2
    simp only [h, Bool.false_eq_true, if_false, e]
    simp [close, closeAt, h]

theorem close_of_closed {s : Room} (h : s.router.closed = true) : s.close = s := by
  rw [close_eq, if_pos h]

/-- A router that closes is closed, its observer has emitted `close`, and nothing else of the
core has changed. -/
theorem core_closeRouter {s : Room} (h : s.router.closed = false) :
    (closeRouter close s).core = { s.core with routerClosed := true, listening := false } := by
  rw [show closeRouter close s = _ from closeRouter_closeAt h 2]
  have e := foldl_eq core core_closeTransport (List.range s.router.transports.length)
    { s with router.closed := true }
  exact Core.ext (congrArg Core.config e :) (congrArg Core.clients e :) (congrArg Core.added e :)
    (congrArg Core.clientId e :) (congrArg Core.socketClosed e :) (congrArg Core.eventsClosed e :)
    (congrArg Core.routerClosed e :) rfl (congrArg Core.closedCalls e :)

theorem core_close {s : Room} (h : s.router.closed = false) :
    s.close.core = { s.core with
      routerClosed := true, listening := false, closedCalls := s.closedCalls + 1 } := by
  have e := core_closeRouter h
  rw [close_eq, h]
  exact Core.ext (congrArg Core.config e :) (congrArg Core.clients e :) (congrArg Core.added e :)
    (congrArg Core.clientId e :) (congrArg Core.socketClosed e :) (congrArg Core.eventsClosed e :)
    (congrArg Core.routerClosed e :) (congrArg Core.listening e :)
    (congrArg (fun c : Core => c.closedCalls + 1) e :)

/-! ### The core as a machine -/

namespace Core

def add (c : Core) (ctx : ClientContext) : Core :=
  { c with
    clients := c.clients.set ctx.clientId c.added
    added := c.added + 1
    clientId := Function.update c.clientId c.added ctx.clientId
    socketClosed := Function.update c.socketClosed c.added ctx.socketClosed
    eventsClosed := Function.update c.eventsClosed c.added false }

def close (c : Core) : Core :=
  if c.routerClosed then c
  else { c with routerClosed := true, listening := false, closedCalls := c.closedCalls + 1 }

def forget (c : Core) (r : ClientRef) : Core :=
  { c with clients := c.clients.delete (c.clientId r) }

/-- The room forgets the client id of `r`, and closes if it has no other. -/
def leave (c : Core) (r : ClientRef) : Core :=
  if (c.forget r).clients.size < 1 then (c.forget r).close else c.forget r

def closeSocket (c : Core) (r : ClientRef) : Core :=
  if c.eventsClosed r then { c with socketClosed := Function.update c.socketClosed r true }
  else leave { c with
    socketClosed := Function.update c.socketClosed r true
    eventsClosed := Function.update c.eventsClosed r true } r

def step (c : Core) : Event → Option Core
  | .add ctx        => some (c.add ctx)
  | .socketClosed r =>
      if r < c.added ∧ c.socketClosed r = false then some (c.closeSocket r) else none
  | .routerClosed   =>
      some (if c.routerClosed then c else { c with routerClosed := true, listening := false })
  | .close          => some c.close
  | _               => some c

/-- Only `add` stores a client. -/
theorem stored_back {c c' : Core} {e : Event} (h : c.step e = some c') {r : ClientRef}
    (hr : r < c.added) (hs : c'.clients.get (c'.clientId r) = some r) :
    c.clients.get (c.clientId r) = some r := by
  have close : ∀ {d : Core}, d.close.clients.get (d.close.clientId r) = some r →
      d.clients.get (d.clientId r) = some r := by
    intro d hd
    rw [Core.close] at hd
    split at hd <;> exact hd
  have leave : ∀ {d : Core} {q : ClientRef}, (d.leave q).clients.get ((d.leave q).clientId r) =
      some r → d.clients.get (d.clientId r) = some r := by
    intro d q hd
    rw [Core.leave] at hd
    split at hd
    · exact LiveMap.get_of_get_delete (close hd)
    · exact LiveMap.get_of_get_delete hd
  cases e with
  | add ctx =>
      cases h
      simp only [Core.add, Function.update_apply, Nat.ne_of_lt hr, if_false] at hs
      rw [LiveMap.get_set] at hs
      split at hs
      · exact absurd (Option.some.inj hs) (Nat.ne_of_gt hr)
      · exact hs
  | socketClosed q =>
      simp only [Core.step] at h
      split at h
      · cases h
        rw [Core.closeSocket] at hs
        split at hs
        · exact hs
        · have h' := leave hs
          exact h'
      · cases h
  | routerClosed =>
      cases h
      split at hs <;> exact hs
  | close => cases h; exact close hs
  | message | transportCreated | transportFailed | transportConnected | produced | produceFailed
  | producerSwitched | consumed | consumeFailed | resumed | consumerClosed | elapsed =>
      cases h; exact hs

/-- A turn closes the router or leaves it as it is; every close but that of the router by itself
calls `onClosed`, once. -/
theorem closing_step {c c' : Core} {e : Event} (h : c.step e = some c') :
    c'.config = c.config ∧
      (c'.routerClosed = c.routerClosed ∧ c'.closedCalls = c.closedCalls ∨
        c.routerClosed = false ∧ c'.routerClosed = true ∧
          (c'.closedCalls = c.closedCalls + 1 ∨
            e = .routerClosed ∧ c'.closedCalls = c.closedCalls)) := by
  have close : ∀ d : Core, d.close.config = d.config ∧
      (d.close.routerClosed = d.routerClosed ∧ d.close.closedCalls = d.closedCalls ∨
        d.routerClosed = false ∧ d.close.routerClosed = true ∧
          d.close.closedCalls = d.closedCalls + 1) := by
    intro d
    rw [Core.close]
    split
    · exact ⟨rfl, .inl ⟨rfl, rfl⟩⟩
    · next hc => exact ⟨rfl, .inr ⟨by simpa using hc, rfl, rfl⟩⟩
  have of_close : ∀ {d : Core}, d.config = c.config → d.routerClosed = c.routerClosed →
      d.closedCalls = c.closedCalls → d.close.config = c.config ∧
      (d.close.routerClosed = c.routerClosed ∧ d.close.closedCalls = c.closedCalls ∨
        c.routerClosed = false ∧ d.close.routerClosed = true ∧
          (d.close.closedCalls = c.closedCalls + 1 ∨
            e = .routerClosed ∧ d.close.closedCalls = c.closedCalls)) := by
    intro d h₁ h₂ h₃
    obtain ⟨hconf, h⟩ := close d
    refine ⟨hconf.trans h₁, ?_⟩
    rw [← h₂, ← h₃]
    exact h.imp_right fun ⟨a, b, hc⟩ => ⟨a, b, .inl hc⟩
  cases e with
  | add ctx => cases h; exact ⟨rfl, .inl ⟨rfl, rfl⟩⟩
  | socketClosed q =>
      simp only [Core.step] at h
      split at h
      · cases h
        rw [Core.closeSocket]
        split
        · exact ⟨rfl, .inl ⟨rfl, rfl⟩⟩
        · rw [Core.leave]
          split
          · exact of_close rfl rfl rfl
          · exact ⟨rfl, .inl ⟨rfl, rfl⟩⟩
      · cases h
  | routerClosed =>
      cases h
      split
      · exact ⟨rfl, .inl ⟨rfl, rfl⟩⟩
      · next hc => exact ⟨rfl, .inr ⟨by simpa using hc, rfl, .inr ⟨rfl, rfl⟩⟩⟩
  | close => cases h; exact of_close rfl rfl rfl
  | message | transportCreated | transportFailed | transportConnected | produced | produceFailed
  | producerSwitched | consumed | consumeFailed | resumed | consumerClosed | elapsed =>
      cases h; exact ⟨rfl, .inl ⟨rfl, rfl⟩⟩

/-- Only the close of its own websocket closes a client's events. -/
theorem eventsClosed_same {c c' : Core} {e : Event} (h : c.step e = some c') {r : ClientRef}
    (hr : r < c.added) (he : e ≠ .socketClosed r) : c'.eventsClosed r = c.eventsClosed r := by
  have close : ∀ d : Core, d.close.eventsClosed = d.eventsClosed := fun d => by
    rw [Core.close]
    split <;> rfl
  cases e with
  | add ctx => cases h; simp [Core.add, Nat.ne_of_lt hr]
  | socketClosed q =>
      simp only [Core.step] at h
      split at h
      · cases h
        have hq : r ≠ q := by rintro rfl; exact he rfl
        have hd : Function.update c.eventsClosed q true r = c.eventsClosed r :=
          Function.update_of_ne hq _ _
        rw [Core.closeSocket]
        split
        · rfl
        · rw [Core.leave]
          split
          · rw [close]; exact hd
          · exact hd
      · cases h
  | routerClosed =>
      cases h
      split <;> rfl
  | close => cases h; rw [close]
  | message | transportCreated | transportFailed | transportConnected | produced | produceFailed
  | producerSwitched | consumed | consumeFailed | resumed | consumerClosed | elapsed =>
      cases h; rfl

/-- What is closed stays closed. -/
theorem eventsClosed_step {c c' : Core} {e : Event} (h : c.step e = some c') {r : ClientRef}
    (hr : r < c.added) (he : c.eventsClosed r = true) : c'.eventsClosed r = true := by
  by_cases hs : e = .socketClosed r
  · subst hs
    simp only [Core.step] at h
    split at h
    · cases h
      simp [closeSocket, he]
    · cases h
  · rw [eventsClosed_same h hr hs]
    exact he

/-- Only `add` makes a client. -/
theorem added_same {c c' : Core} {e : Event} (h : c.step e = some c') (he : ∀ ctx, e ≠ .add ctx) :
    c'.added = c.added := by
  have close : ∀ d : Core, d.close.added = d.added := fun d => by
    unfold Core.close; split <;> rfl
  cases e with
  | add ctx => exact absurd rfl (he ctx)
  | socketClosed q =>
      simp only [Core.step] at h
      split at h
      · cases h
        rw [Core.closeSocket]
        split
        · rfl
        · rw [Core.leave]
          split
          · exact close _
          · rfl
      · cases h
  | routerClosed =>
      cases h
      split <;> rfl
  | close => cases h; exact close c
  | message | transportCreated | transportFailed | transportConnected | produced | produceFailed
  | producerSwitched | consumed | consumeFailed | resumed | consumerClosed | elapsed =>
      cases h; rfl

theorem added_step {c c' : Core} {e : Event} (h : c.step e = some c') : c.added ≤ c'.added := by
  by_cases he : ∃ ctx, e = .add ctx
  · obtain ⟨ctx, rfl⟩ := he
    cases h
    exact Nat.le_succ _
  · exact Nat.le_of_eq (added_same h fun ctx e' => he ⟨ctx, e'⟩).symm

end Core

theorem core_add (s : Room) (ctx : ClientContext) : (s.add ctx).core = s.core.add ctx := by
  refine Core.ext rfl rfl rfl ?_ ?_ ?_ rfl rfl rfl <;>
  · funext r
    simp only [core, add, Core.add, Function.update_apply]
    split <;> rfl

theorem core_close' (s : Room) : s.close.core = s.core.close := by
  by_cases h : s.router.closed = true
  · rw [close_of_closed h]
    simp [Core.close, core, h]
  · simp only [Bool.not_eq_true] at h
    rw [core_close h]
    simp [Core.close, core, h]

theorem core_closeTransports (s : Room) (r : ClientRef) : (s.closeTransports r).core = s.core :=
  (core_closeTransport? _ _).trans (core_closeTransport? _ _)

theorem core_clientClosed (s : Room) (r : ClientRef) :
    (s.clientClosed r).core = s.core.leave r := by
  have e := core_closeTransports s r
  rw [clientClosed]
  generalize s.closeTransports r = s₁ at e
  rw [← e]
  show core (if (s₁.clients.delete (s₁.client r).clientId).size < 1 then _ else _) =
    if (s₁.clients.delete (s₁.client r).clientId).size < 1 then _ else _
  split
  · exact core_close' _
  · rfl

theorem core_socketClosed (s : Room) (r : ClientRef) :
    (s.socketClosed r).core = s.core.closeSocket r := by
  have he : ((s.modify r fun c => { c with socketClosed := true }).client r).eventsClosed =
      s.core.eventsClosed r := by simp [core]
  rw [socketClosed, Core.closeSocket]
  simp only [he]
  split
  · refine Core.ext rfl rfl rfl ?_ ?_ ?_ rfl rfl rfl <;>
    · funext q
      simp only [core, client_modify, Function.update_apply]
      split
      · next e => simp [e]
      · rfl
  · rw [core_clientClosed]
    congr 1
    refine Core.ext rfl rfl rfl ?_ ?_ ?_ rfl rfl rfl <;>
    · funext q
      simp only [core, client_modify, Function.update_apply]
      split
      · next e => simp [e]
      · rfl

theorem core_joinCallRequest (s : Room) (r : ClientRef) (q : RequestId) :
    (s.joinCallRequest r q).core = s.core := core_runLoop _ _ _ _

theorem core_receive (s : Room) (r : ClientRef) (m : ClientMessage) :
    (s.receive r m).core = s.core := by
  unfold receive
  split
  · rfl
  · cases m with
    | getRouterCapabilitiesRequest q => exact core_send _ _ _
    | clientRtpCapabilities caps => exact core_modify ⟨rfl, rfl, rfl⟩
    | createTransportRequest q role =>
        simp only [createTransportRequest]
        split <;> rfl
    | joinCallRequest q => exact core_joinCallRequest _ _ _
    | transportConnectedNotification q role dtls =>
        simp only [transportConnectedNotification]
        split <;> rfl
    | createProducerRequest q kind rtp u =>
        simp only [createProducerRequest]
        split <;> rfl
    | pauseProducerRequest q p | resumeProducerRequest q p =>
        simp only [switchProducerRequest]
        split <;> rfl
    | getClientStatsRequest q id => rfl

theorem core_transportCreated (s : Room) (h : HandlerRef) (r : ClientRef) (q : RequestId)
    (role : Role) (info : TransportInfo) : (s.transportCreated h r q role info).core = s.core := by
  rw [transportCreated]
  rw [core_finish, core_send, core_modify (by cases role <;> exact ⟨rfl, rfl, rfl⟩)]
  rfl

theorem core_produced (s : Room) (h : HandlerRef) (r : ClientRef) (q : RequestId)
    (t : TransportId) (kind : MediaKind) : (s.produced h r q t kind).core = s.core := by
  rw [produced]
  rw [core_runLoop, core_send, core_modify ⟨rfl, rfl, rfl⟩]
  rfl

theorem core_consumed (s : Room) (h : HandlerRef) (r : ClientRef) (loop : Loop)
    (call : ConsumeCall) (options : ConsumeOptions) (rtp : RtpParameters) :
    (s.consumed h r loop call options rtp).core = s.core := by
  rw [consumed]
  rw [core_consumeFrom, core_send, core_modify ⟨rfl, rfl, rfl⟩]
  rfl

theorem message_step {s s' : Room} {r : ClientRef} {m : ClientMessage}
    (he : s.step (.message r m) = some s') : r < s.added ∧ s' = s.receive r m := by
  simp only [step] at he
  split at he
  · next hg => cases he; exact ⟨hg.1, rfl⟩
  · cases he

/-- **The room follows its core.** -/
theorem core_step {s s' : Room} {e : Event} (h : s.step e = some s') :
    s.core.step e = some s'.core := by
  cases e with
  | add ctx => cases h; exact congrArg some (core_add s ctx).symm
  | socketClosed r =>
      simp only [step] at h
      split at h
      · next hg =>
          cases h
          simp only [Core.step]
          rw [if_pos (show r < s.core.added ∧ s.core.socketClosed r = false from hg),
            core_socketClosed]
      · cases h
  | routerClosed =>
      cases h
      by_cases hc : s.router.closed = true
      · simp [Core.step, closeRouter, core, hc]
      · simp only [Bool.not_eq_true] at hc
        rw [core_closeRouter hc]
        simp [Core.step, core, hc]
  | close => cases h; exact congrArg some (core_close' s).symm
  | elapsed ms => cases h; rfl
  | message r m =>
      obtain ⟨-, rfl⟩ := message_step h
      exact congrArg some (core_receive s r m).symm
  | consumerClosed k =>
      simp only [step] at h
      split at h
      · cases h; exact congrArg some (core_closeConsumer s k).symm
      · cases h
  | transportCreated g info =>
      simp only [step] at h
      split at h
      · cases h; exact congrArg some (core_transportCreated ..).symm
      · cases h
  | produced g =>
      simp only [step] at h
      split at h
      · cases h; exact congrArg some (core_produced ..).symm
      · cases h
  | consumed g rtp =>
      simp only [step] at h
      split at h
      · cases h; exact congrArg some (core_consumed ..).symm
      · cases h
  | resumed g =>
      simp only [step] at h
      split at h
      · cases h; exact congrArg some (core_runLoop ..).symm
      · cases h
  | producerSwitched g =>
      simp only [step] at h
      split at h
      · cases h; exact congrArg some (by rw [core_finish, core_send])
      · cases h; exact congrArg some (by rw [core_finish, core_send])
      · cases h
  | transportFailed g | transportConnected g ok | produceFailed g | consumeFailed g =>
      simp only [step] at h
      split at h
      · cases h; rfl
      · cases h

theorem closing_step {s s' : Room} {e : Event} (h : s.step e = some s') :
    s'.roomId = s.roomId ∧
      (s'.router.closed = s.router.closed ∧ s'.closedCalls = s.closedCalls ∨
        s.router.closed = false ∧ s'.router.closed = true ∧
          (s'.closedCalls = s.closedCalls + 1 ∨
            e = .routerClosed ∧ s'.closedCalls = s.closedCalls)) := by
  obtain ⟨hconf, hc⟩ := Core.closing_step (core_step h)
  exact ⟨congrArg RoomConfig.roomId hconf, hc⟩

end DemoApp.Sfu.Room
