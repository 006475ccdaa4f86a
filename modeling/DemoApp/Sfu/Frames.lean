import DemoApp.Sfu.Sockets

/-!
# Sfu — Frames

Which frames of a websocket reach `ClientEvents._receive`.  They are listened to from `room.add`
on, so that everything rests on when a websocket has its client (`client_iff_room`).

* `frame_lost`: a frame that arrives while the room is being created is passed to nobody.
* `received_iff`: in a scheduled run all frames of a websocket are passed on, once each and in
  order, if and only if none arrived while the creation of its room was in flight or had failed.
-/

namespace DemoApp.Sfu.Server
open Machine

/-- The frames that were emitted on the websocket. -/
def arrived (s : Server) (w : SocketRef) : List Frame := (s.sockets[w]?.map Socket.arrived).getD []

/-- The frames that were passed to `_receive`. -/
def received (s : Server) (w : SocketRef) : List Frame :=
  (s.sockets[w]?.map Socket.received).getD []

theorem lookup {s : Server} {w : Nat} {so : Socket} (hw : s.sockets[w]? = some so) :
    s.arrived w = so.arrived ∧ s.received w = so.received ∧ s.client w = so.client := by
  simp [arrived, received, client, hw]

theorem lookup_congr {s s' : Server} {w : Nat} (h : s'.sockets[w]? = s.sockets[w]?) :
    s'.arrived w = s.arrived w ∧ s'.received w = s.received w ∧ s'.client w = s.client w := by
  simp [arrived, received, client, h]

/-- The event is a frame of the websocket that arrives before its room is there. -/
def early (w : SocketRef) (s : Server) : Event → Bool
  | .frame w' _ => w' == w && !s.hasRoom w
  | _ => false

/-! ### The frames that are lost -/

section
variable {s : Server} {w w₀ : SocketRef} {so so' : Socket}

/-- Another websocket connects. -/
theorem lookup_connects (s : Server) (w : SocketRef) (rooms : Rooms) (h₁ : so.arrived = [])
    (h₂ : so.received = []) :
    Server.arrived ⟨rooms, s.sockets ++ [so]⟩ w = s.arrived w ∧
      Server.received ⟨rooms, s.sockets ++ [so]⟩ w = s.received w ∧
      (Server.client ⟨rooms, s.sockets ++ [so]⟩ w = none → s.client w = none) := by
  unfold Server.arrived Server.received Server.client
  cases hw : s.sockets[w]? with
  | some x => simp [Cells.append_of_some hw]
  | none =>
      cases hw' : (s.sockets ++ [so])[w]? with
      | none => simp
      | some x =>
          rcases Cells.concat_eq_some.mp hw' with hold | ⟨-, rfl⟩
          · cases hw.symm.trans hold
          · simp [h₁, h₂]

theorem lookup_setSocket (rooms : Rooms) (so' : Socket) (hw : s.sockets[w]? = some so) :
    ({ s with rooms }.setSocket w so').arrived w = so'.arrived ∧
      ({ s with rooms }.setSocket w so').received w = so'.received ∧
      ({ s with rooms }.setSocket w so').client w = so'.client :=
  lookup (Cells.set_eq_some.mpr (.inl ⟨rfl, Cells.lt_of_some hw, rfl⟩))

theorem lookup_setSocket_ne (s : Server) (rooms : Rooms) (so' : Socket) (hne : w₀ ≠ w) :
    ({ s with rooms }.setSocket w₀ so').arrived w = s.arrived w ∧
      ({ s with rooms }.setSocket w₀ so').received w = s.received w ∧
      ({ s with rooms }.setSocket w₀ so').client w = s.client w :=
  lookup_congr (List.getElem?_set_ne hne)

/-- A websocket changes, and no frame arrives. -/
theorem lookup_silent (w : SocketRef) (rooms : Rooms) (hw : s.sockets[w₀]? = some so)
    (h₁ : so'.arrived = so.arrived) (h₂ : so'.received = so.received)
    (h₃ : so'.client = none → so.client = none) :
    ({ s with rooms }.setSocket w₀ so').arrived w = s.arrived w ∧
      ({ s with rooms }.setSocket w₀ so').received w = s.received w ∧
      (({ s with rooms }.setSocket w₀ so').client w = none → s.client w = none) := by
  by_cases e : w₀ = w
  · subst e
    obtain ⟨a, b, c⟩ := lookup hw
    obtain ⟨a', b', c'⟩ := lookup_setSocket rooms so' hw
    exact ⟨a'.trans (h₁.trans a.symm), b'.trans (h₂.trans b.symm), fun h =>
      c.trans (h₃ (c'.symm.trans h))⟩
  · obtain ⟨a, b, c⟩ := lookup_setSocket_ne s rooms so' e
    exact ⟨a, b, fun h => c.symm.trans h⟩

/-- A frame arrives; it is passed on if the websocket has its client. -/
theorem lookup_frame (w : SocketRef) (rooms : Rooms) (so' : Socket)
    (hw : s.sockets[w₀]? = some so) {frame : Frame} (h₁ : so'.arrived = so.arrived ++ [frame])
    (h₂ : so'.received = so.received ++ if so.client.isSome then [frame] else [])
    (h₃ : so'.client = so.client) :
    w₀ = w ∧ ({ s with rooms }.setSocket w₀ so').arrived w = s.arrived w ++ [frame] ∧
        ({ s with rooms }.setSocket w₀ so').received w =
          s.received w ++ (if (s.client w).isSome then [frame] else []) ∧
        ({ s with rooms }.setSocket w₀ so').client w = s.client w ∨
      w₀ ≠ w ∧ ({ s with rooms }.setSocket w₀ so').arrived w = s.arrived w ∧
        ({ s with rooms }.setSocket w₀ so').received w = s.received w ∧
        (({ s with rooms }.setSocket w₀ so').client w = none → s.client w = none) := by
  by_cases e : w₀ = w
  · subst e
    obtain ⟨a, b, c⟩ := lookup hw
    obtain ⟨a', b', c'⟩ := lookup_setSocket rooms so' hw
    exact .inl ⟨rfl, by rw [a', a, h₁], by rw [b', b, c, h₂], c'.trans (h₃.trans c.symm)⟩
  · obtain ⟨a, b, c⟩ := lookup_setSocket_ne s rooms so' e
    exact .inr ⟨e, a, b, fun h => c.symm.trans h⟩

end

/-- A frame is passed on if the websocket has its client. -/
theorem frames_step {s s' : Server} {e : Event} (he : s.step e = some s') (w : SocketRef) :
    (∃ frame, e = .frame w frame ∧ s'.arrived w = s.arrived w ++ [frame] ∧
      s'.received w = s.received w ++ (if (s.client w).isSome then [frame] else []) ∧
      s'.client w = s.client w) ∨
    (early w s e = false ∧ s'.arrived w = s.arrived w ∧ s'.received w = s.received w ∧
      (s'.client w = none → s.client w = none)) := by
  cases step_turn he with
  | refused | connected => exact .inr ⟨rfl, lookup_connects s w _ rfl rfl⟩
  | @lost w₀ so frame hw ho hc =>
      rcases lookup_frame w s.rooms { so with arrived := so.arrived ++ [frame] } hw rfl
        (by simp [hc]) rfl with ⟨rfl, h⟩ | ⟨hne, h⟩
      · exact .inl ⟨frame, rfl, h⟩
      · exact .inr ⟨by simp [early, hne], h⟩
  | @received w₀ so frame r k rooms hw ho hc hr =>
      rcases lookup_frame w rooms { so with
        arrived := so.arrived ++ [frame], received := so.received ++ [frame] } hw rfl
        (by simp [hc]) rfl with ⟨rfl, h⟩ | ⟨hne, h⟩
      · exact .inl ⟨frame, rfl, h⟩
      · exact .inr ⟨by simp [early, hne], h⟩
  | closedEarly hw | closed hw => exact .inr ⟨rfl, lookup_silent w _ hw rfl rfl id⟩
  | joined hw => exact .inr ⟨rfl, lookup_silent w _ hw rfl rfl fun h => by cases h⟩
  | rejected | rooms => exact .inr ⟨rfl, rfl, rfl, id⟩

/-- The frames that were not passed on are the first ones, and there are none if none was
early. -/
structure Heard (s₀ : Server) (es : List Event) (s : Server) (w : SocketRef) : Prop where
  silent : s.client w = none → s.received w = []
  frames : ∃ lost, s.arrived w = lost ++ s.received w ∧
    (lost = [] ↔ Along step (fun s e => early w s e = false) s₀ es)

theorem heard_of_run {ip announcedIp : String} {es : List Event} {s : Server}
    (hx : exec step (.new ip announcedIp) es = some s)
    (ha : Along step Scheduled (.new ip announcedIp) es) (w : SocketRef) :
    Heard (.new ip announcedIp) es s w := by
  revert ha
  refine exec_history (I := fun es s => Along step Scheduled (.new ip announcedIp) es →
    Heard (.new ip announcedIp) es s w) (fun _ => ⟨fun _ => rfl, [], rfl, by simp [Along]⟩)
    (fun es s e s' hx ih he ha => ?_) hx
  obtain ⟨ha, hs⟩ := (along_snoc hx).mp ha
  obtain ⟨hsilent, lost, harr, hlost⟩ := ih ha
  rcases frames_step he w with ⟨frame, rfl, h₁, h₂, h₃⟩ | ⟨hearly, h₁, h₂, h₃⟩
  · have hroom := client_iff_room (linked_of_run hx) (kept_of_run hx) hs w
    cases hc : s.client w with
    | some x =>
        -- it is passed on, and its room is there
        rw [hc] at h₂ h₃ hroom
        refine ⟨fun hn => by simp [h₃] at hn, lost, ?_, hlost.trans ?_⟩
        · rw [h₁, h₂, harr, List.append_assoc]; rfl
        · simp [along_snoc hx, early, ← hroom]
    | none =>
        -- it is lost, and its room is not there
        rw [hc] at h₂ hroom
        have hr : s'.received w = [] := by rw [h₂, hsilent hc]; rfl
        refine ⟨fun _ => hr, lost ++ [frame], ?_, ?_⟩
        · rw [h₁, hr, harr, hsilent hc, List.append_nil, List.append_nil]
        · simp [along_snoc hx, early, ← hroom]
  · refine ⟨fun hn => h₂.trans (hsilent (h₃ hn)), lost, by rw [h₁, h₂]; exact harr,
      hlost.trans ?_⟩
    simp [along_snoc hx, hearly]

/-- **The frames of a websocket are passed on**, once each and in the order of their arrival, if
and only if none of them arrived before its room was there. -/
theorem received_iff {ip announcedIp : String} {es : List Event} {s : Server}
    (hx : exec step (.new ip announcedIp) es = some s)
    (ha : Along step Scheduled (.new ip announcedIp) es) (w : SocketRef) :
    s.received w = s.arrived w ↔
      Along step (fun s e => early w s e = false) (.new ip announcedIp) es := by
  obtain ⟨-, lost, harr, hlost⟩ := heard_of_run hx ha w
  rw [← hlost, harr]
  exact ⟨fun h => by simpa using h, fun h => by simp [h]⟩

/-- The first message of a client, as its text. -/
def hello : Frame :=
  ⟨"get-router-capabilities-request 1", some (.getRouterCapabilitiesRequest "1")⟩

/-- The websocket waits for its room to be created, and another finds the room there. -/
def patient : List Event :=
  [.connection ⟨some "a", some "u", "u"⟩, .rooms (.routerCreated 0 "call-1" "opus"),
    .rooms (.then_ 0), .joined 0, .rooms (.finally_ 0), .frame 0 hello,
    .connection ⟨some "a", some "v", "v"⟩, .joined 1, .frame 1 hello, .frame 0 hello]

theorem received_iff_patient :
    ∃ s, exec step (.new "0.0.0.0" "127.0.0.1") patient = some s ∧
      s.received 0 = [hello, hello] ∧ s.received 0 = s.arrived 0 := by
  have hx : exec step (.new "0.0.0.0" "127.0.0.1") patient = some _ := rfl
  exact ⟨_, hx, rfl, (received_iff hx (by decide) 0).mpr (by decide)⟩

/-- **A frame is lost.**  The client sends its first message as soon as its websocket is open,
and the room is still being created. -/
theorem frame_lost :
    ∃ s, exec step (.new "0.0.0.0" "127.0.0.1") [.connection ⟨some "a", some "u", "u"⟩,
        .frame 0 hello, .rooms (.routerCreated 0 "call-1" "opus"), .rooms (.then_ 0), .joined 0,
        .rooms (.finally_ 0)] = some s ∧
      Along step Scheduled (.new "0.0.0.0" "127.0.0.1") [.connection ⟨some "a", some "u", "u"⟩,
        .frame 0 hello, .rooms (.routerCreated 0 "call-1" "opus"), .rooms (.then_ 0), .joined 0,
        .rooms (.finally_ 0)] ∧
      s.idle = true ∧ s.client 0 = some (0, 0) ∧ s.arrived 0 = [hello] ∧ s.received 0 = [] :=
  ⟨_, rfl, by decide, rfl, rfl, rfl, rfl⟩

end DemoApp.Sfu.Server
