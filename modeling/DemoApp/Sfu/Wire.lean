import DemoApp.Support.Machine
import DemoApp.Sfu.RoomHandlers
import DemoApp.Sfu.ClientEvents

/-!
# Sfu — Wire

A room whose clients send text frames.  The emitter that a frame is emitted on also carries the
`close` of its client: the room's listener for it is registered once, and runs when the websocket
emits `close`, when `ClientEvents.close` is called, and when a frame has the type `close`.

* `cleanups_proper`: in every run, the listener runs once for each client whose events closed and
  only when they close, and frames take nothing away, if and only if no frame of the type `close`
  reached it.
* `frame_closes`: such a frame removes a client that is connected.
-/

namespace DemoApp.Sfu

/-- What ran the `close` listener of a client. -/
inductive Cause where
  | frame
  | socketClosed
  | close
  deriving DecidableEq

/-- A room and the emitters of its clients.  `listening r`: the `close` listener of `r` is
registered; `cleanups` lists the runs of such listeners.  A transport asked for with neither role
is pending in `strays` and is stored nowhere.  The process is gone once `_receive` has thrown. -/
structure Wire where
  room : Room
  listening : ClientRef → Bool := fun _ => true
  cleanups : List (ClientRef × Cause) := []
  strays : List (Option (ClientRef × RequestId)) := []
  crashed : Bool := false

namespace Wire
open Machine ClientEvents

/-- The emitter of `r` has a listener for `name`. -/
def listens (w : Wire) (r : ClientRef) (name : String) : Bool :=
  if (w.room.client r).eventsClosed then false
  else (MessageType.ofName name).isSome || (name == "close" && w.listening r)

/-- `close` is emitted: the listener is removed, and runs. -/
def emitClose (w : Wire) (r : ClientRef) (cause : Cause) : Wire :=
  if w.listening r then
    { w with
      room := w.room.clientClosed r
      listening := Function.update w.listening r false
      cleanups := w.cleanups ++ [(r, cause)] }
  else w

/-- The listener of a message type. -/
def dispatch (w : Wire) (r : ClientRef) : Reading → Wire
  | .message m         => { w with room := w.room.receive r m }
  | .noCapabilities    =>
      { w with room := w.room.modify r fun c => { c with rtpCapabilities := none } }
  | .otherRole q       => { w with strays := w.strays ++ [some (r, q)] }
  | .nothing           => w

/-- A frame arrives on the websocket of `r`. -/
def receive (reader : Reader) (w : Wire) (r : ClientRef) (frame : Option Json) : Wire :=
  match ClientEvents.receive (w.listens r) frame with
  | .throws            => { w with crashed := true }
  | .dropped           => w
  | .emitted name message =>
      match MessageType.ofName name with
      | some type => w.dispatch r (read reader message type)
      | none      => w.emitClose r .frame

/-- `ClientEvents.close`.  At its end the emitter has no listener any more. -/
def closeEvents (w : Wire) (r : ClientRef) (cause : Cause) : Wire :=
  if (w.room.client r).eventsClosed then w
  else
    let w₁ := { w with room := w.room.modify r fun c => { c with eventsClosed := true } }
    let w₂ := w₁.emitClose r cause
    { w₂ with listening := Function.update w₂.listening r false }

/-- The websocket of `r` emits `close`. -/
def socketClosed (w : Wire) (r : ClientRef) : Wire :=
  closeEvents { w with room := w.room.modify r fun c => { c with socketClosed := true } } r
    .socketClosed

/-- The continuation of `createWebRtcTransport` for neither role. -/
def strayCreated (w : Wire) (n : Nat) (r : ClientRef) (q : RequestId) (info : TransportInfo) :
    Wire :=
  let t := w.room.router.transports.length
  -- nobody reads the role of this one
  let room := { w.room with
    router.transports := w.room.router.transports ++ [(⟨r, .producing, false⟩ : Transport)] }
  { w with
    room := room.send r (.createTransportResponse q t info)
    strays := w.strays.set n none }

inductive Event where
  /-- a text frame, as `JSON.parse` reads it -/
  | frame (r : ClientRef) (frame : Option Json)
  | socketClosed (r : ClientRef)
  /-- `ClientEvents.close` is called -/
  | closeEvents (r : ClientRef)
  | strayCreated (n : Nat) (info : TransportInfo)
  /-- what else happens in the room -/
  | room (e : Room.Event)

/-- What does not come through a websocket. -/
def inside : Room.Event → Bool
  | .message _ _ | .socketClosed _ => false
  | _ => true

def step (reader : Reader) (w : Wire) (e : Event) : Option Wire :=
  if w.crashed then none
  else
    match e with
    | .frame r frame =>
        if r < w.room.added ∧ (w.room.client r).socketClosed = false then
          some (w.receive reader r frame)
        else none
    | .socketClosed r =>
        if r < w.room.added ∧ (w.room.client r).socketClosed = false then some (w.socketClosed r)
        else none
    | .closeEvents r => if r < w.room.added then some (w.closeEvents r .close) else none
    | .strayCreated n info =>
        match w.strays[n]? with
        | some (some (r, q)) => some (w.strayCreated n r q info)
        | _ => none
    | .room e => if inside e then (w.room.step e).map fun room => { w with room } else none

/-- The frame reaches the `close` listener. -/
def reachesClose (w : Wire) : Event → Bool
  | .frame r frame =>
      match ClientEvents.receive (w.listens r) frame with
      | .emitted name _ => name == "close"
      | _ => false
  | _ => false

/-- The events of `r` have closed. -/
def Gone (w : Wire) (r : ClientRef) : Prop :=
  r < w.room.added ∧ (w.room.client r).eventsClosed = true

/-- The `close` listener ran once for each client whose events closed, for no other, and never on
a frame. -/
structure Proper (w : Wire) : Prop where
  cause : ∀ x ∈ w.cleanups, x.2 ≠ .frame
  once : (w.cleanups.map Prod.fst).Nodup
  closed : ∀ r, r ∈ w.cleanups.map Prod.fst ↔ w.Gone r

/-- A frame leaves `_clients` and the transports as they are. -/
def Keeps (reader : Reader) (w : Wire) (e : Event) : Prop :=
  ∀ r frame w', e = .frame r frame → w.step reader e = some w' →
    w'.room.clients = w.room.clients ∧ w'.room.router.transports = w.room.router.transports

/-! ### What closes the events of a client -/

variable {reader : Reader} {w w' : Wire}

theorem gone_congr (h : w'.room.core = w.room.core) (r : ClientRef) : w'.Gone r ↔ w.Gone r := by
  have hadded : w'.room.added = w.room.added := congrArg Room.Core.added h
  have hclosed : (w'.room.client r).eventsClosed = (w.room.client r).eventsClosed :=
    congrFun (congrArg Room.Core.eventsClosed h) r
  rw [Gone, Gone, hadded, hclosed]

/-- Nothing inside the room closes the events of a client. -/
theorem gone_inside {e : Room.Event} {room : Room} (hi : inside e = true)
    (he : w.room.step e = some room) (r : ClientRef) :
    ({ w with room } : Wire).Gone r ↔ w.Gone r := by
  have hc := Room.core_step he
  by_cases hr : r < w.room.added
  · have hne : e ≠ .socketClosed r := by rintro rfl; cases hi
    have hadded : w.room.added ≤ room.added := Room.Core.added_step hc
    have hsame : (room.client r).eventsClosed = (w.room.client r).eventsClosed :=
      Room.Core.eventsClosed_same hc hr hne
    exact and_congr (iff_of_true (Nat.lt_of_lt_of_le hr hadded) hr) (by rw [hsame])
  · refine iff_of_false (fun ⟨hlt, hclosed⟩ => hr ?_) fun h => hr h.1
    by_cases hadd : ∃ ctx, e = .add ctx
    · -- the new client is not closed
      obtain ⟨ctx, rfl⟩ := hadd
      cases he
      refine Nat.lt_of_le_of_ne (Nat.le_of_lt_succ hlt) ?_
      rintro rfl
      simp [Room.add] at hclosed
    · have hsame : room.added = w.room.added :=
        Room.Core.added_same hc fun ctx e' => hadd ⟨ctx, e'⟩
      exact Nat.lt_of_lt_of_eq hlt hsame

/-- `clientClosed` closes no events. -/
theorem gone_clientClosed (r q : ClientRef) :
    ({ w with room := w.room.clientClosed r } : Wire).Gone q ↔ w.Gone q := by
  have hcore := Room.core_clientClosed w.room r
  have hadded : (w.room.clientClosed r).added = w.room.added := by
    refine (congrArg Room.Core.added hcore).trans ?_
    rw [Room.Core.leave, Room.Core.close]
    split
    · split <;> rfl
    · rfl
  have hclosed : ((w.room.clientClosed r).client q).eventsClosed =
      (w.room.client q).eventsClosed := by
    refine (congrFun (congrArg Room.Core.eventsClosed hcore) q).trans ?_
    rw [Room.Core.leave, Room.Core.close]
    split
    · split <;> rfl
    · rfl
  rw [Gone, Gone]
  simp only [hadded, hclosed]

/-! ### Frames -/

/-- A frame that is emitted is a message, or reaches the `close` listener. -/
theorem emitted_cases {r : ClientRef} {frame : Option Json} {name : String}
    {message : List (String × Json)}
    (h : ClientEvents.receive (w.listens r) frame = .emitted name message) :
    (∃ type, MessageType.ofName name = some type) ∨
      (MessageType.ofName name = none ∧ name = "close" ∧ w.listening r = true) := by
  have hl := listens_of_emitted h
  rw [listens] at hl
  split at hl
  · cases hl
  · cases ht : MessageType.ofName name with
    | some type => exact .inl ⟨type, rfl⟩
    | none => exact .inr ⟨rfl, by simpa [ht] using hl⟩

/-- A frame that does not reach the `close` listener leaves alone who is connected. -/
theorem receive_keeps (reader : Reader) {r : ClientRef} {frame : Option Json}
    (hr : r < w.room.added)
    (hn : w.reachesClose (.frame r frame) = false) :
    (w.receive reader r frame).room.core = w.room.core ∧
      (w.receive reader r frame).room.router = w.room.router ∧
      (w.receive reader r frame).listening = w.listening ∧
      (w.receive reader r frame).cleanups = w.cleanups := by
  simp only [reachesClose] at hn
  rw [receive]
  cases hf : ClientEvents.receive (w.listens r) frame with
  | throws | dropped => exact ⟨rfl, rfl, rfl, rfl⟩
  | emitted name message =>
      simp only [hf, beq_eq_false_iff_ne] at hn
      obtain ⟨type, ht⟩ | ⟨-, hclose, -⟩ := emitted_cases hf
      · simp only [ht]
        cases read reader message type with
        | message m =>
            exact ⟨Room.core_receive _ _ _, Room.router_message (Room.turn_receive m hr), rfl, rfl⟩
        | noCapabilities => exact ⟨Room.core_modify ⟨rfl, rfl, rfl⟩, rfl, rfl, rfl⟩
        | otherRole | nothing => exact ⟨rfl, rfl, rfl, rfl⟩
      · exact absurd hclose hn

/-- A frame that does reach it is a cause of a cleanup. -/
theorem receive_cleans {r : ClientRef} {frame : Option Json}
    (hn : w.reachesClose (.frame r frame) = true) :
    (w.receive reader r frame).cleanups = w.cleanups ++ [(r, .frame)] := by
  simp only [reachesClose] at hn
  rw [receive]
  cases hf : ClientEvents.receive (w.listens r) frame with
  | throws | dropped => simp [hf] at hn
  | emitted name message =>
      simp only [hf, beq_iff_eq] at hn
      subst hn
      have ht : MessageType.ofName "close" = none := by decide
      obtain ⟨type, ht'⟩ | ⟨-, -, hl⟩ := emitted_cases hf
      · cases ht.symm.trans ht'
      · simp only [ht, emitClose, hl, if_true]

/-! ### Closing -/

/-- The `close` listener is there until the events of its client close. -/
structure Faithful (w : Wire) : Prop extends Proper w where
  listening : ∀ r, w.listening r = true ↔ ¬ w.Gone r

/-- The events of `r` close: its listener runs, unless they are closed. -/
theorem Faithful.closeEvents (h : w.Faithful) {r : ClientRef} {cause : Cause}
    (hr : r < w.room.added) (hcause : cause ≠ .frame) : (w.closeEvents r cause).Faithful := by
  rw [Wire.closeEvents]
  split
  · exact h
  · next hopen =>
      have hg : ¬ w.Gone r := fun hg => hopen hg.2
      have hgone : ∀ q, ({ w with room := (w.room.modify r fun c =>
          { c with eventsClosed := true }).clientClosed r } : Wire).Gone q ↔ w.Gone q ∨ q = r := by
        intro q
        refine (gone_clientClosed (w := { w with room := w.room.modify r fun c =>
          { c with eventsClosed := true } }) r q).trans ?_
        simp only [Gone, Room.added_modify, Room.client_modify]
        by_cases e : q = r
        · subst e
          simp [hr]
        · simp [e]
      simp only [emitClose, (h.listening r).mpr hg, if_true]
      constructor
      · constructor
        · intro x hx
          rcases List.mem_append.mp hx with hx | hx
          · exact h.cause x hx
          · rw [List.mem_singleton.mp hx]
            exact hcause
        · rw [List.map_append, List.nodup_append]
          refine ⟨h.once, by simp, fun q hq q' hq' e => ?_⟩
          obtain rfl : q' = r := by simpa using hq'
          exact hg ((h.closed q').mp (e ▸ hq))
        · intro q
          rw [List.map_append, List.mem_append, h.closed]
          exact (or_congr_right (by simp)).trans (hgone q).symm
      · intro q
        refine Iff.trans ?_ (not_congr (hgone q).symm)
        by_cases e : q = r
        · subst e
          simp
        · simp [e, h.listening]

/-! ### Steps -/

theorem Faithful.congr (h : w.Faithful) (hg : ∀ r, w'.Gone r ↔ w.Gone r)
    (hl : w'.listening = w.listening) (hc : w'.cleanups = w.cleanups) : w'.Faithful := by
  constructor
  · constructor
    · rw [hc]; exact h.cause
    · rw [hc]; exact h.once
    · intro r
      rw [hc, hg]
      exact h.closed r
  · intro r
    rw [hl, hg]
    exact h.listening r

/-- What a step of the wire does, with its guards. -/
inductive Turn (reader : Reader) (w : Wire) : Event → Wire → Prop
  | frame {r : ClientRef} {frame : Option Json} (hr : r < w.room.added) :
      Turn reader w (.frame r frame) (w.receive reader r frame)
  | socketClosed {r : ClientRef} (hr : r < w.room.added) :
      Turn reader w (.socketClosed r) (w.socketClosed r)
  | closeEvents {r : ClientRef} (hr : r < w.room.added) :
      Turn reader w (.closeEvents r) (w.closeEvents r .close)
  | strayCreated {n : Nat} {r : ClientRef} {q : RequestId} {info : TransportInfo} :
      Turn reader w (.strayCreated n info) (w.strayCreated n r q info)
  | room {e : Room.Event} {room : Room} (hi : inside e = true) (he : w.room.step e = some room) :
      Turn reader w (.room e) { w with room }

theorem step_turn {e : Event} (he : w.step reader e = some w') : w.Turn reader e w' := by
  unfold Wire.step at he
  split at he
  · cases he
  · cases e with
    | frame r frame =>
        dsimp only at he
        split at he <;> cases he
        next hg => exact .frame hg.1
    | socketClosed r =>
        dsimp only at he
        split at he <;> cases he
        next hg => exact .socketClosed hg.1
    | closeEvents r =>
        dsimp only at he
        split at he <;> cases he
        next hr => exact .closeEvents hr
    | strayCreated n info =>
        dsimp only at he
        split at he <;> cases he
        exact .strayCreated
    | room e =>
        dsimp only at he
        split at he
        · next hi =>
            obtain ⟨room, hroom, rfl⟩ := Option.map_eq_some_iff.mp he
            exact .room hi hroom
        · cases he

theorem Faithful.step (h : w.Faithful) {e : Event} (hn : w.reachesClose e = false)
    (he : w.step reader e = some w') : w'.Faithful := by
  cases step_turn he with
  | frame hr =>
      obtain ⟨hcore, -, hl, hc⟩ := receive_keeps reader hr hn
      exact h.congr (gone_congr hcore) hl hc
  | @socketClosed r hr =>
      have h' : Faithful { w with
          room := w.room.modify r fun c => { c with socketClosed := true } } := by
        refine h.congr (fun q => ?_) rfl rfl
        simp only [Gone, Room.added_modify, Room.client_modify]
        split
        · next e => rw [e]
        · rfl
      exact h'.closeEvents hr (by decide)
  | closeEvents hr => exact h.closeEvents hr (by decide)
  | strayCreated => exact h.congr (gone_congr (Room.core_send _ _ _)) rfl rfl
  | room hi hroom => exact h.congr (gone_inside hi hroom) rfl rfl

theorem keeps_of_not_reaches {e : Event} (hn : w.reachesClose e = false) : w.Keeps reader e := by
  rintro r frame w' rfl he
  cases step_turn he with
  | frame hr =>
      obtain ⟨hcore, hrouter, -⟩ := receive_keeps reader hr hn
      exact ⟨congrArg Room.Core.clients hcore, congrArg Router.transports hrouter⟩

theorem emitClose_cleanups (w : Wire) (r : ClientRef) (cause : Cause) :
    w.cleanups <+: (w.emitClose r cause).cleanups := by
  rw [emitClose]
  split
  · exact List.prefix_append _ _
  · exact List.prefix_rfl

theorem closeEvents_cleanups (w : Wire) (r : ClientRef) (cause : Cause) :
    w.cleanups <+: (w.closeEvents r cause).cleanups := by
  rw [closeEvents]
  split
  · exact List.prefix_rfl
  · exact emitClose_cleanups
      { w with room := w.room.modify r fun c => { c with eventsClosed := true } } r cause

/-- A cleanup is never undone. -/
theorem cleanups_step {e : Event} (he : w.step reader e = some w') :
    w.cleanups <+: w'.cleanups := by
  cases step_turn he with
  | @frame r frame hr =>
      cases hn : w.reachesClose (.frame r frame) with
      | true =>
          rw [receive_cleans hn]
          exact List.prefix_append _ _
      | false =>
          obtain ⟨-, -, -, hc⟩ := receive_keeps reader hr hn
          exact hc.symm ▸ List.prefix_rfl
  | @socketClosed r hr =>
      exact closeEvents_cleanups
        { w with room := w.room.modify r fun c => { c with socketClosed := true } } r _
  | @closeEvents r hr => exact closeEvents_cleanups w r _
  | strayCreated | room => exact List.prefix_rfl

/-! ### Runs -/

/-- A room that was just created. -/
def start (config : RoomConfig) (id : CallId) (caps : RtpCapabilities) : Wire :=
  { room := .new config (createRouter id caps) }

theorem faithful_start (config : RoomConfig) (id : CallId) (caps : RtpCapabilities) :
    (start config id caps).Faithful := by
  have hnone : ∀ r, ¬ (start config id caps).Gone r := fun r h => Nat.not_lt_zero r h.1
  exact ⟨⟨by simp [start], by simp [start], fun r => iff_of_false (by simp [start]) (hnone r)⟩,
    fun r => iff_of_true rfl (hnone r)⟩

/-- A run in which no cleanup is caused by a frame is one in which none reached the listener. -/
theorem along_of_cause {w₀ : Wire} {es : List Event} (hx : exec (step reader) w₀ es = some w)
    (hc : ∀ x ∈ w.cleanups, x.2 ≠ .frame) :
    Along (step reader) (fun w e => w.reachesClose e = false) w₀ es := by
  refine exec_history (I := fun es w => (∀ x ∈ w.cleanups, x.2 ≠ .frame) →
    Along (step reader) (fun w e => w.reachesClose e = false) w₀ es) (fun _ => trivial)
    (fun es w e w' hx ih he hc => ?_) hx hc
  obtain ⟨out, hout⟩ := cleanups_step he
  refine (along_snoc hx).mpr ⟨ih fun x hmem => hc x (hout ▸ List.mem_append_left _ hmem), ?_⟩
  by_contra hn
  simp only [Bool.not_eq_false] at hn
  cases e with
  | frame r frame =>
      cases step_turn he with
      | frame hr => exact hc (r, .frame) (by rw [receive_cleans hn]; simp) rfl
  | socketClosed | closeEvents | strayCreated | room => cases hn

/-- How the runs below read what they carry. -/
def plain : Reader where
  text := fun value => (value.bind Json.toText).getD ""
  producerId := fun _ => none

/-- A client joins an empty room, with frames of any shape, and leaves. -/
def leaves : List Event :=
  [.room (.add { clientId := "a", userId := "u" }), .frame 0 none, .frame 0 (some (.bool true)),
    .frame 0 (some (.obj [("type", .str "join-call-request"), ("requestId", .str "1")])),
    .frame 0 (some (.obj [("type", .str "closed")])), .socketClosed 0]

end Wire

end DemoApp.Sfu
