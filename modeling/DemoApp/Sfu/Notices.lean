import DemoApp.Sfu.TransportOrder
import DemoApp.Sfu.Wire

/-!
# Sfu — Notices

A client learns of a consumer by a `ConsumerCreatedNotification` and that it is gone by a
`ConsumerClosedNotification`.  Everything in a room that concerns them is one of four updates: a
consumer is made and announced, a consumer closes and is withdrawn, another message is sent, a
client is added.  The rest leaves the consumers and what was sent alone (`Still`).

`Survives P` says that `P` survives these updates; `Survives.receive`, `Survives.step`,
`Survives.clientClosed` and `Survives.wire` that it then survives every function of the room, every
turn, and whatever frames the clients send.
-/

namespace DemoApp.Sfu

/-- What a message says of a consumer. -/
inductive Notice where
  | announced (k : ConsumerId)
  | withdrawn (k : ConsumerId)
  deriving DecidableEq

def ServerMessage.notice : ServerMessage → Option Notice
  | .consumerCreatedNotification k _ _ _ _ => some (.announced k)
  | .consumerClosedNotification k => some (.withdrawn k)
  | .getRouterCapabilitiesResponse _ _ | .createTransportResponse _ _ _ | .joinCallResponse _ _ _
  | .createProducerResponse _ _ | .pauseProducerResponse _ => none

namespace Room

/-- Nothing has changed that the notices concern; events may have closed. -/
structure Still (s s' : Room) : Prop where
  added : s'.added = s.added
  consumers : s'.router.consumers = s.router.consumers
  sent : s'.sent = s.sent
  held : ∀ c, (s'.client c).consumers = (s.client c).consumers
  closed : ∀ c, (s.client c).eventsClosed = true → (s'.client c).eventsClosed = true

/-- A new consumer of the client `c` is stored and announced by the message. -/
def announce (s : Room) (c : ClientRef) (x : Consumer) (m : ServerMessage) : Room :=
  (modify { s with router.consumers := s.router.consumers ++ [x] } c fun client =>
    { client with
      consumers := client.consumers.set s.router.consumers.length x.producerId }).send c m

/-- `P` survives the updates that a room is made of. -/
structure Survives (P : Room → Prop) : Prop where
  still : ∀ {s s' : Room}, P s → Still s s' → P s'
  send : ∀ {s : Room} (r : ClientRef) {m : ServerMessage}, P s → m.notice = none → P (s.send r m)
  close : ∀ {s : Room} (k : ConsumerId), P s → P (s.closeConsumer k)
  announce : ∀ {s : Room} {c : ClientRef} {x : Consumer} {m : ServerMessage}, P s → c < s.added →
    x.owner = c → x.closed = false → m.notice = some (.announced s.router.consumers.length) →
      P (s.announce c x m)
  add : ∀ {s : Room} (ctx : ClientContext), P s → P (s.add ctx)

/-! ### What is still -/

namespace Still

variable {s s' s'' : Room}

theorem frame {hs n} : Still s { s with handlers := hs, now := n } :=
  ⟨rfl, rfl, rfl, fun _ => rfl, fun _ => id⟩

/-- Other fields of a client may change, and its events may close. -/
theorem modify {r : ClientRef} {f : Client → Client}
    (hk : (f (s.client r)).consumers = (s.client r).consumers)
    (he : (s.client r).eventsClosed = true → (f (s.client r)).eventsClosed = true) :
    Still s (s.modify r f) := by
  refine ⟨rfl, rfl, rfl, fun c => ?_, fun c hc => ?_⟩
  · rw [client_modify]
    split
    · next e => rw [hk, e]
    · rfl
  · rw [client_modify]
    split
    · next e => exact he (e ▸ hc)
    · exact hc

end Still

theorem consumed_announce (s : Room) (h : HandlerRef) (r : ClientRef) (loop : Loop)
    (call : ConsumeCall) (o : ConsumeOptions) (rtp : RtpParameters) :
    s.consumed h r loop call o rtp =
      (s.announce call.consuming ⟨call.consuming, o.transport, o.producerId, false⟩
        (.consumerCreatedNotification s.router.consumers.length o.producerId o.kind rtp
          ⟨(s.client call.producing).userId, call.producingClientId⟩)).consumeFrom h r loop call :=
  rfl

/-! ### The rule -/

namespace Survives

variable {P : Room → Prop} {s s' : Room}

theorem frame (hP : Survives P) (h : P s) {hs n} : P { s with handlers := hs, now := n } :=
  hP.still h .frame

theorem consumeFrom (hP : Survives P) (h : P s) (g : HandlerRef) (r : ClientRef) (loop : Loop)
    (call : ConsumeCall) : P (s.consumeFrom g r loop call) := by
  obtain ⟨a, e⟩ := consumeFrom_frame s g r loop call
  rw [e]
  exact hP.frame h

theorem runLoop (hP : Survives P) (h : P s) (g : HandlerRef) (r : ClientRef) (loop : Loop) :
    P (s.runLoop g r loop) := by
  rcases runLoop_cases s g r loop with ⟨e, -⟩ | ⟨cursor, id, e, -⟩ <;> rw [e]
  · refine hP.frame ?_
    cases loop.kind with
    | join q => exact hP.send r h rfl
    | push => exact h
  · obtain ⟨a, e'⟩ := consumeClient_frame s g r { loop with cursor }
      (Loop.pair loop.kind (s.client r).clientId id).1
      (Loop.pair loop.kind (s.client r).clientId id).2
    rw [e']
    exact hP.frame h

theorem closeProducer (hP : Survives P) (h : P s) (p : ProducerId) : P (s.closeProducer p) := by
  rw [Room.closeProducer]
  split
  · exact h
  · split
    · exact h
    · refine hP.still (hP.still h ?_) (.modify rfl id)
      exact ⟨rfl, rfl, rfl, fun _ => rfl, fun _ => id⟩

theorem foldl {α : Type} {f : Room → α → Room} (hf : ∀ s x, P s → P (f s x)) :
    ∀ (l : List α) {s : Room}, P s → P (l.foldl f s)
  | [],     _, h => h
  | x :: l, s, h => foldl hf l (hf s x h)

theorem closeTransport (hP : Survives P) (h : P s) (t : TransportId) : P (s.closeTransport t) := by
  rw [Room.closeTransport]
  split
  · exact h
  · split
    · exact h
    · refine foldl (P := P) (f := Room.closeConsumer) (fun _ k h => hP.close k h) _ ?_
      refine foldl (P := P) (f := Room.closeProducer) (fun _ p h => hP.closeProducer h p) _ ?_
      exact hP.still h ⟨rfl, rfl, rfl, fun _ => rfl, fun _ => id⟩

theorem closeTransport? (hP : Survives P) (h : P s) (o : Option TransportId) :
    P (s.closeTransport? o) := by
  cases o with
  | none => exact h
  | some t => exact hP.closeTransport h t

theorem closeRouter (hP : Survives P) {listener : Room → Room} (hl : ∀ s, P s → P (listener s))
    (h : P s) : P (Room.closeRouter listener s) := by
  rw [Room.closeRouter]
  split
  · exact h
  · have h₁ : P { s with router.closed := true } :=
      hP.still h ⟨rfl, rfl, rfl, fun _ => rfl, fun _ => id⟩
    have h₂ := foldl (P := P) (f := Room.closeTransport) (fun _ t h => hP.closeTransport h t)
      (List.range s.router.transports.length) h₁
    dsimp only
    split
    · exact hl _ (hP.still h₂ ⟨rfl, rfl, rfl, fun _ => rfl, fun _ => id⟩)
    · exact h₂

theorem closeAt (hP : Survives P) : ∀ (n : Nat) {s : Room}, P s → P (Room.closeAt n s)
  | 0,     _, h => h
  | n + 1, s, h => by
      rw [Room.closeAt]
      split
      · exact h
      · exact hP.still (hP.closeRouter (fun _ h => hP.closeAt n h) h)
          ⟨rfl, rfl, rfl, fun _ => rfl, fun _ => id⟩

theorem closeRoom (hP : Survives P) (h : P s) : P s.close := hP.closeAt 2 h

theorem clientClosed (hP : Survives P) (h : P s) (r : ClientRef) : P (s.clientClosed r) := by
  have h₁ : P (s.closeTransports r) := hP.closeTransport? (hP.closeTransport? h _) _
  have h₂ : ∀ m, P { s.closeTransports r with clients := m } := fun m =>
    hP.still h₁ ⟨rfl, rfl, rfl, fun _ => rfl, fun _ => id⟩
  rw [Room.clientClosed]
  dsimp only
  split
  · exact hP.closeRoom (h₂ _)
  · exact h₂ _

theorem socketClosed (hP : Survives P) (h : P s) (r : ClientRef) : P (s.socketClosed r) := by
  have h₁ : P (s.modify r fun c => { c with socketClosed := true }) :=
    hP.still h (.modify rfl id)
  unfold Room.socketClosed
  dsimp only
  split
  · exact h₁
  · exact hP.clientClosed (hP.still h₁ (.modify rfl fun _ => rfl)) r

theorem receive (hP : Survives P) (h : P s) (r : ClientRef) (m : ClientMessage) :
    P (s.receive r m) := by
  have spawn : ∀ a, P (s.spawn r a) := fun _ => hP.frame h
  unfold Room.receive
  split
  · exact h
  · cases m with
    | getRouterCapabilitiesRequest q => exact hP.send r h rfl
    | clientRtpCapabilities caps => exact hP.still h (.modify rfl id)
    | createTransportRequest q role =>
        simp only [createTransportRequest]
        split
        · exact h
        · exact spawn _
    | joinCallRequest q => exact hP.runLoop (hP.frame h) _ _ _
    | transportConnectedNotification q role dtls =>
        simp only [transportConnectedNotification]
        split
        · exact spawn _
        · exact h
    | createProducerRequest q kind rtp u =>
        simp only [createProducerRequest]
        split
        · exact h
        · exact spawn _
    | pauseProducerRequest q p | resumeProducerRequest q p =>
        simp only [switchProducerRequest]
        split
        · exact h
        · exact spawn _
    | getClientStatsRequest q id => exact h

theorem transportCreated (hP : Survives P) (h : P s) (g : HandlerRef) (r : ClientRef)
    (q : RequestId) (role : Role) (info : TransportInfo) :
    P (s.transportCreated g r q role info) := by
  refine hP.frame (hP.send r (hP.still (hP.still h ?_) (.modify ?_ ?_)) rfl)
  · exact ⟨rfl, rfl, rfl, fun _ => rfl, fun _ => id⟩
  · cases role <;> rfl
  · cases role <;> exact id

theorem produced (hP : Survives P) (h : P s) (g : HandlerRef) (r : ClientRef) (q : RequestId)
    (t : TransportId) (kind : MediaKind) : P (s.produced g r q t kind) := by
  refine hP.runLoop (hP.send r (hP.still (hP.still h ?_) (.modify rfl id)) rfl) _ _ _
  exact ⟨rfl, rfl, rfl, fun _ => rfl, fun _ => id⟩

/-- **Every turn of the room.** -/
theorem step (hP : Survives P) (h : P s) {e : Event}
    (hc : ∀ g c p, s.pendingConsume g = some (c, p) → c < s.added) (he : s.step e = some s') :
    P s' := by
  cases e with
  | add ctx => cases he; exact hP.add ctx h
  | socketClosed r =>
      simp only [Room.step] at he
      split at he <;> cases he
      exact hP.socketClosed h r
  | message r m =>
      obtain ⟨-, rfl⟩ := message_step he
      exact hP.receive h r m
  | transportCreated g info =>
      simp only [Room.step] at he
      split at he <;> cases he
      exact hP.transportCreated h _ _ _ _ _
  | produced g =>
      simp only [Room.step] at he
      split at he <;> cases he
      exact hP.produced h _ _ _ _ _
  | consumed g rtp =>
      simp only [Room.step] at he
      split at he
      · next r loop call o hs =>
        cases he
        have hlt := hc g _ _ (pendingConsume_eq_some.mpr ⟨r, loop, call, o, hs, rfl, rfl⟩)
        rw [consumed_announce]
        exact hP.consumeFrom (hP.announce h hlt rfl rfl rfl) _ _ _ _
      · cases he
  | resumed g =>
      simp only [Room.step] at he
      split at he <;> cases he
      exact hP.runLoop h _ _ _
  | producerSwitched g =>
      simp only [Room.step] at he
      split at he <;> cases he <;> exact hP.frame (hP.send _ h rfl)
  | transportFailed g | transportConnected g ok | produceFailed g | consumeFailed g =>
      simp only [Room.step] at he
      split at he <;> cases he
      exact hP.frame h
  | consumerClosed k =>
      simp only [Room.step] at he
      split at he <;> cases he
      exact hP.close k h
  | routerClosed => cases he; exact hP.closeRouter (fun _ h => hP.closeRoom h) h
  | close => cases he; exact hP.closeRoom h
  | elapsed ms => cases he; exact hP.frame h

end Survives

/-! ### Who has been added -/

/-- A client that has a transport, or that one is created or consumed for, was added. -/
structure Known (s : Room) : Prop where
  port : ∀ {c role t}, (s.client c).transport role = some t → c < s.added
  creating : ∀ {g c role}, s.creating g = some (c, role) → c < s.added
  pending : ∀ {g c p}, s.pendingConsume g = some (c, p) → c < s.added

namespace Known

variable {s s' : Room}

theorem keep (h : s.Known) (ha : s.added ≤ s'.added) (hh : s'.handlers = s.handlers)
    (ht : ∀ c role, (s'.client c).transport role = (s.client c).transport role) : s'.Known := by
  have hs : ∀ g, s'.suspended g = s.suspended g := fun g => by rw [suspended, suspended, hh]
  refine ⟨fun {c role t} hp => ?_, fun {g c role} hg => ?_, fun {g c p} hg => ?_⟩
  · exact Nat.lt_of_lt_of_le (h.port (ht c role ▸ hp)) ha
  · rw [Room.creating, hs] at hg
    exact Nat.lt_of_lt_of_le (h.creating hg) ha
  · rw [pendingConsume_congr (hs g)] at hg
    exact Nat.lt_of_lt_of_le (h.pending hg) ha

theorem modify (h : s.Known) {r : ClientRef} {f : Client → Client}
    (hf : ∀ role, (f (s.client r)).transport role = (s.client r).transport role) :
    (s.modify r f).Known := by
  refine h.keep (Nat.le_refl _) rfl fun c role => ?_
  rw [client_modify]
  split
  · next e => rw [hf, e]
  · rfl

theorem closes (h : s.Known) {T : TransportId → Prop} (hc : Closes T s s') : s'.Known := by
  refine h.keep (Nat.le_of_eq hc.added.symm) hc.handlers fun c role => ?_
  cases role with
  | producing => exact hc.sndTransport c
  | consuming => exact hc.rcvTransport c

theorem clientClosed (h : s.Known) (r : ClientRef) : (s.clientClosed r).Known := by
  have h₁ := h.closes (closeTransports_closes s r)
  have h₂ : ∀ m, Known { s.closeTransports r with clients := m } := fun m =>
    h₁.keep (Nat.le_refl _) rfl fun _ _ => rfl
  rw [Room.clientClosed]
  dsimp only
  split
  · exact (h₂ _).closes (closes_of_close _)
  · exact h₂ _

theorem turn (h : s.Known) {e : Event} (ht : Turn s e s') (ha : s.added ≤ s'.added) : s'.Known := by
  refine ⟨fun {c role t} hp => ?_, fun {g c role} hg => ?_, fun {g c p} hg => ?_⟩
  · by_cases hc : ∃ g info, e = .transportCreated g info
    · obtain ⟨g, info, rfl⟩ := hc
      cases ht with
      | ended hend => exact hend.elim
      | @transportCreated _ _ r q role' o hs =>
          rw [(client_transportCreated s g r q role' info c).2] at hp
          split at hp
          · next e =>
              obtain ⟨rfl, rfl⟩ := e
              exact Nat.lt_of_lt_of_le (h.creating (creating_eq_some.mpr ⟨q, o, hs⟩)) ha
          · exact Nat.lt_of_lt_of_le (h.port hp) ha
    · have hsame := SamePorts.turn ht fun g info e => hc ⟨g, info, e⟩
      exact Nat.lt_of_lt_of_le (h.port (hsame.port hp)) ha
  · rcases creating_back ht hg with ⟨hg, -⟩ | ⟨-, -, hlt, -⟩
    · exact Nat.lt_of_lt_of_le (h.creating hg) ha
    · exact Nat.lt_of_lt_of_le hlt ha
  · rcases pending_back ht hg with hg | hr
    · exact Nat.lt_of_lt_of_le (h.pending hg) ha
    · obtain ⟨t, ht⟩ := Option.isSome_iff_exists.mp hr
      exact Nat.lt_of_lt_of_le (h.port (show (s.client c).transport .consuming = some t from ht)) ha

end Known

end Room

/-! ### The wire -/

namespace Wire
open Machine ClientEvents

variable {reader : Reader} {w w' : Wire} {P : Room → Prop}

theorem known_emitClose (h : w.room.Known) (r : ClientRef) (cause : Cause) :
    (w.emitClose r cause).room.Known := by
  rw [emitClose]
  split
  · exact h.clientClosed r
  · exact h

theorem known_closeEvents (h : w.room.Known) (r : ClientRef) (cause : Cause) :
    (w.closeEvents r cause).room.Known := by
  rw [Wire.closeEvents]
  split
  · exact h
  · have h₁ : (w.room.modify r fun c => { c with eventsClosed := true }).Known :=
      h.modify fun role => by cases role <;> rfl
    exact known_emitClose (w := { w with
      room := w.room.modify r fun c => { c with eventsClosed := true } }) h₁ r cause

theorem known_step {e : Event} (h : w.room.Known) (he : w.step reader e = some w') :
    w'.room.Known := by
  cases step_turn he with
  | @frame r frame hr =>
      rw [receive]
      cases ClientEvents.receive (w.listens r) frame with
      | throws | dropped => exact h
      | emitted name message =>
          dsimp only
          split
          · next type ht =>
              cases ClientEvents.read reader message type with
              | message m =>
                  refine h.turn (Room.turn_receive m hr) (Nat.le_of_eq ?_)
                  exact (congrArg Room.Core.added (Room.core_receive w.room r m)).symm
              | noCapabilities =>
                  have h₁ : (w.room.modify r fun c => { c with rtpCapabilities := none }).Known :=
                    h.modify fun role => by cases role <;> rfl
                  exact h₁
              | otherRole | nothing => exact h
          · exact known_emitClose h r _
  | @socketClosed r hr =>
      have h₁ : (w.room.modify r fun c => { c with socketClosed := true }).Known :=
        h.modify fun role => by cases role <;> rfl
      exact known_closeEvents (w := { w with
        room := w.room.modify r fun c => { c with socketClosed := true } }) h₁ r _
  | closeEvents hr => exact known_closeEvents h _ _
  | @strayCreated n r q info =>
      rw [Wire.strayCreated, Room.send_frame]
      exact h.keep (Nat.le_refl _) rfl fun _ _ => rfl
  | room hi hroom =>
      exact h.turn (Room.step_turn hroom) (Room.Core.added_step (Room.core_step hroom))

theorem known_of_run {config : RoomConfig} {id : CallId} {caps : RtpCapabilities}
    {es : List Event} (hx : exec (step reader) (start config id caps) es = some w) :
    w.room.Known := by
  refine exec_invariant_of_step (I := fun w : Wire => w.room.Known)
    (fun _ _ _ h he => known_step h he) ?_ hx
  refine ⟨fun {c role t} h => ?_, fun {g c role} h => ?_, fun {g c p} h => ?_⟩
  · cases role <;> cases h
  · cases h
  · cases h

theorem survives_emitClose (hP : Room.Survives P) (h : P w.room) (r : ClientRef) (cause : Cause) :
    P (w.emitClose r cause).room := by
  rw [emitClose]
  split
  · exact hP.clientClosed h r
  · exact h

theorem survives_closeEvents (hP : Room.Survives P) (h : P w.room) (r : ClientRef)
    (cause : Cause) : P (w.closeEvents r cause).room := by
  rw [Wire.closeEvents]
  split
  · exact h
  · have h₁ : P (w.room.modify r fun c => { c with eventsClosed := true }) :=
      hP.still h (.modify rfl fun _ => rfl)
    exact survives_emitClose (w := { w with
      room := w.room.modify r fun c => { c with eventsClosed := true } }) hP h₁ r cause

/-- **Whatever arrives.** -/
theorem survives_step (hP : Room.Survives P) {e : Event} (h : P w.room) (hk : w.room.Known)
    (he : w.step reader e = some w') : P w'.room := by
  cases step_turn he with
  | @frame r frame hr =>
      rw [receive]
      cases ClientEvents.receive (w.listens r) frame with
      | throws | dropped => exact h
      | emitted name message =>
          dsimp only
          split
          · next type ht =>
              cases ClientEvents.read reader message type with
              | message m => exact hP.receive h r m
              | noCapabilities =>
                  have h₁ : P (w.room.modify r fun c => { c with rtpCapabilities := none }) :=
                    hP.still h (.modify rfl id)
                  exact h₁
              | otherRole | nothing => exact h
          · exact survives_emitClose hP h r _
  | @socketClosed r hr =>
      have h₁ : P (w.room.modify r fun c => { c with socketClosed := true }) :=
        hP.still h (.modify rfl id)
      exact survives_closeEvents (w := { w with
        room := w.room.modify r fun c => { c with socketClosed := true } }) hP h₁ r _
  | closeEvents hr => exact survives_closeEvents hP h _ _
  | @strayCreated n r q info =>
      exact hP.send r (hP.still h ⟨rfl, rfl, rfl, fun _ => rfl, fun _ => id⟩) rfl
  | room hi hroom => exact hP.step h (fun _ _ _ => hk.pending) hroom

end Wire

end DemoApp.Sfu
