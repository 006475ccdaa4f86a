import DemoApp.Sfu.Room

/-!
# Sfu — Rooms

`MediasoupRooms` of `media/Rooms.ts` with its rooms.  A room, a creation and a call of
`getOrCreateRoom` are addressed by the order in which they were made.

* A `Creation` is one promise chain `createRouter(…).then(…).finally(…)`; each of its callbacks is
  an event of its own, so that anything can slip in between two of them.
* A call of `getOrCreateRoom` is answered with a room that is stored, or with the promise of the
  creation that is stored, which it settles as.
* A room whose `close` calls `onClosed` is deleted from `_rooms` in the same turn.
-/

namespace DemoApp.Sfu

/-- The position of a room in the order of construction. -/
abbrev RoomRef := Nat

/-- The position of a creation in the order of the calls of `worker.createRouter`. -/
abbrev CreationRef := Nat

/-- The position of a call of `getOrCreateRoom`. -/
abbrev CallRef := Nat

/-- What a promise of a room settles as: a room, or the error of `createRouter`. -/
abbrev Outcome := Except String RoomRef

/-- How far a creation is. -/
inductive Stage where
  /-- `worker.createRouter` is in flight -/
  | creating
  /-- it settled, and the callback of `then` is to run -/
  | created (result : Except String Router)
  /-- `creatingRoom` is settled, and the callback of `finally` is to run -/
  | settled (outcome : Outcome)
  /-- the callback of `finally` has run -/
  | done (outcome : Outcome)

/-- What `creatingRoom` is settled as. -/
def Stage.outcome : Stage → Option Outcome
  | .creating | .created _ => none
  | .settled outcome | .done outcome => some outcome

structure Creation where
  roomId : RoomId
  stage : Stage := .creating

/-- What `getOrCreateRoom` returns. -/
inductive Promised where
  | room (r : RoomRef)
  | creation (k : CreationRef)
  deriving DecidableEq

/-- A call of `getOrCreateRoom`, and what its promise has settled as. -/
structure Call where
  roomId : RoomId
  promised : Promised
  outcome : Option Outcome := none

/-- `ip` and `announcedIp` are those of `worker.appData`. -/
structure Rooms where
  ip : String
  announcedIp : String
  creatingRooms : LiveMap RoomId CreationRef := .empty
  rooms : LiveMap RoomId RoomRef := .empty
  creations : List Creation := []
  room : List Room := []
  calls : List Call := []

namespace Rooms

/-- `getOrCreateRoom`. -/
def getOrCreateRoom (s : Rooms) (roomId : RoomId) : Rooms :=
  match s.rooms.get roomId with
  | some r => { s with calls := s.calls ++ [{ roomId, promised := .room r }] }
  | none   =>
      match s.creatingRooms.get roomId with
      | some k => { s with calls := s.calls ++ [{ roomId, promised := .creation k }] }
      | none   =>
          { s with
            creations := s.creations ++ [{ roomId }]
            creatingRooms := s.creatingRooms.set roomId s.creations.length
            calls := s.calls ++ [{ roomId, promised := .creation s.creations.length }] }

def setStage (s : Rooms) (k : CreationRef) (roomId : RoomId) (stage : Stage) : Rooms :=
  { s with creations := s.creations.set k { roomId, stage } }

/-- The callback of `then`: the room is constructed and stored.  A rejection passes through. -/
def then_ (s : Rooms) (k : CreationRef) (roomId : RoomId) : Except String Router → Rooms
  | .ok router   =>
      let s₁ := { s with
        room := s.room ++ [Room.new ⟨s.ip, s.announcedIp, roomId⟩ router]
        rooms := s.rooms.set roomId s.room.length }
      s₁.setStage k roomId (.settled (.ok s.room.length))
  | .error error => s.setStage k roomId (.settled (.error error))

/-- The callback of `finally`. -/
def finally_ (s : Rooms) (k : CreationRef) (roomId : RoomId) (outcome : Outcome) : Rooms :=
  { s with creatingRooms := s.creatingRooms.delete roomId }.setStage k roomId (.done outcome)

/-- What the promise of a call can settle as now. -/
def promisedOutcome (s : Rooms) : Promised → Option Outcome
  | .room r     => some (.ok r)
  | .creation k => s.creations[k]?.bind fun creation => creation.stage.outcome

/-- The room `r` has become `room`; if it called `onClosed`, it is deleted from `_rooms`. -/
def setRoom (s : Rooms) (r : RoomRef) (before room : Room) : Rooms :=
  { s with
    room := s.room.set r room
    rooms := if before.closedCalls < room.closedCalls then s.rooms.delete before.roomId
      else s.rooms }

inductive Event where
  | getOrCreateRoom (roomId : RoomId)
  /-- `worker.createRouter` resolves -/
  | routerCreated (k : CreationRef) (id : CallId) (rtpCapabilities : RtpCapabilities)
  /-- `worker.createRouter` rejects -/
  | routerFailed (k : CreationRef) (error : String)
  | then_ (k : CreationRef)
  | finally_ (k : CreationRef)
  /-- the promise of a call settles -/
  | settled (c : CallRef)
  /-- a turn of the room `r` -/
  | room (r : RoomRef) (e : Room.Event)

def step (s : Rooms) : Event → Option Rooms
  | .getOrCreateRoom roomId => some (s.getOrCreateRoom roomId)
  | .routerCreated k id caps =>
      match s.creations[k]? with
      | some ⟨roomId, .creating⟩ =>
          some (s.setStage k roomId (.created (.ok (createRouter id caps))))
      | _ => none
  | .routerFailed k error =>
      match s.creations[k]? with
      | some ⟨roomId, .creating⟩ => some (s.setStage k roomId (.created (.error error)))
      | _ => none
  | .then_ k =>
      match s.creations[k]? with
      | some ⟨roomId, .created result⟩ => some (s.then_ k roomId result)
      | _ => none
  | .finally_ k =>
      match s.creations[k]? with
      | some ⟨roomId, .settled outcome⟩ => some (s.finally_ k roomId outcome)
      | _ => none
  | .settled c =>
      match s.calls[c]? with
      | some ⟨roomId, promised, none⟩ =>
          match s.promisedOutcome promised with
          | some outcome =>
              some { s with calls := s.calls.set c ⟨roomId, promised, some outcome⟩ }
          | none => none
      | _ => none
  | .room r e =>
      match s.room[r]? with
      | some room => (room.step e).map (s.setRoom r room)
      | none => none

/-- A new registry. -/
def new (ip announcedIp : String) : Rooms := { ip, announcedIp }

/-! ### What a step does -/

/-- One constructor for each way a step can go. -/
inductive Turn (s : Rooms) : Event → Rooms → Prop where
  | getOrCreateRoom (roomId : RoomId) : Turn s (.getOrCreateRoom roomId) (s.getOrCreateRoom roomId)
  | routerCreated {k : CreationRef} {roomId : RoomId} (id : CallId) (caps : RtpCapabilities) :
      s.creations[k]? = some ⟨roomId, .creating⟩ →
      Turn s (.routerCreated k id caps)
        (s.setStage k roomId (.created (.ok (createRouter id caps))))
  | routerFailed {k : CreationRef} {roomId : RoomId} (error : String) :
      s.creations[k]? = some ⟨roomId, .creating⟩ →
      Turn s (.routerFailed k error) (s.setStage k roomId (.created (.error error)))
  | then_ {k : CreationRef} {roomId : RoomId} {result : Except String Router} :
      s.creations[k]? = some ⟨roomId, .created result⟩ → Turn s (.then_ k) (s.then_ k roomId result)
  | finally_ {k : CreationRef} {roomId : RoomId} {outcome : Outcome} :
      s.creations[k]? = some ⟨roomId, .settled outcome⟩ →
      Turn s (.finally_ k) (s.finally_ k roomId outcome)
  | settled {c : CallRef} {roomId : RoomId} {promised : Promised} {outcome : Outcome} :
      s.calls[c]? = some ⟨roomId, promised, none⟩ → s.promisedOutcome promised = some outcome →
      Turn s (.settled c) { s with calls := s.calls.set c ⟨roomId, promised, some outcome⟩ }
  | room {r : RoomRef} {room room' : Room} {e : Room.Event} :
      s.room[r]? = some room → room.step e = some room' →
      Turn s (.room r e) (s.setRoom r room room')

theorem step_turn {s s' : Rooms} {e : Event} (he : s.step e = some s') : s.Turn e s' := by
  cases e with
  | getOrCreateRoom roomId => cases he; exact .getOrCreateRoom roomId
  | routerCreated k id caps =>
      simp only [step] at he
      split at he
      · next hk => cases he; exact .routerCreated id caps hk
      · cases he
  | routerFailed k error =>
      simp only [step] at he
      split at he
      · next hk => cases he; exact .routerFailed error hk
      · cases he
  | then_ k =>
      simp only [step] at he
      split at he
      · next hk => cases he; exact .then_ hk
      · cases he
  | finally_ k =>
      simp only [step] at he
      split at he
      · next hk => cases he; exact .finally_ hk
      · cases he
  | settled c =>
      simp only [step] at he
      split at he
      · next hc =>
          split at he
          · next ho => cases he; exact .settled hc ho
          · cases he
      · cases he
  | room r e =>
      simp only [step] at he
      split at he
      · next hr =>
          obtain ⟨room', h, rfl⟩ := Option.map_eq_some_iff.mp he
          exact .room hr h
      · cases he

end Rooms

end DemoApp.Sfu
