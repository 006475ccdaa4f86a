import DemoApp.Sfu.Rooms
import DemoApp.Support.Script

/-!
# Sfu — Server

The `websocket-connection` handler of `main.ts` over the rooms, with the part of
`media/ClientEvents.ts` that listens to a websocket.

* A websocket emits `message` and `close` to the listeners that are registered at that moment.
  They are registered by `room.add`, in the continuation of `getOrCreateRoom`: a websocket has
  its `client` from then on.
* A callback of a promise is an event of its own.  A run is scheduled as Node does it when
  everything else happens only while no callback is due (`Scheduled`).
-/

namespace DemoApp.Sfu

/-- The position of a websocket in the order of the connections. -/
abbrev SocketRef := Nat

/-- What `url.parse` finds in the query string; a `userId` that is missing is the empty text. -/
structure Query where
  roomId : Option String
  clientId : Option String
  userId : UserId

/-- The `roomId` and the `clientId`, if both are given. -/
def Query.ids (query : Query) : Option (RoomId × ClientId) := do
  let roomId ← truthy query.roomId
  let clientId ← truthy query.clientId
  some (roomId, clientId)

/-- A text frame, and the message of the protocol it parses to, if it does. -/
structure Frame where
  text : String
  message : Option ClientMessage
  deriving DecidableEq

/-- A websocket.  `refused` is the close that the handler asked for; otherwise `call` is the call
of `getOrCreateRoom` made for it, and `client` the client object made for it, with its room.
`arrived` lists the frames that were emitted on it, and `received` those that were passed to
`_receive`. -/
structure Socket where
  query : Query
  closed : Bool := false
  refused : Option CloseRequest := none
  call : Option CallRef := none
  client : Option (RoomRef × ClientRef) := none
  arrived : List Frame := []
  received : List Frame := []

/-- `ClientEvents._receive`: a frame that does not parse is dropped. -/
def Rooms.receive (s : Rooms) (r : RoomRef) (c : ClientRef) (frame : Frame) : Option Rooms :=
  match frame.message with
  | none   => some s
  | some m => s.step (.room r (.message c m))

/-- The handler closes a websocket whose query has no room id or no client id. -/
def refusal : CloseRequest :=
  ⟨4001, "No roomId or clientId was provided in websocket query string"⟩

structure Server where
  rooms : Rooms
  sockets : List Socket := []

namespace Server

def setSocket (s : Server) (w : SocketRef) (socket : Socket) : Server :=
  { s with sockets := s.sockets.set w socket }

/-- The continuation of `getOrCreateRoom`: the client is added, whether or not its websocket is
still open. -/
def joined (s : Server) (w : SocketRef) (socket : Socket) (clientId : ClientId) (c : CallRef) :
    Option Server := do
  let call ← s.rooms.calls[c]?
  let rooms ← s.rooms.step (.settled c)
  match ← s.rooms.promisedOutcome call.promised with
  | .ok r    =>
      let room ← rooms.room[r]?
      let rooms' ← rooms.step (.room r (.add ⟨socket.closed, clientId, socket.query.userId⟩))
      some ({ s with rooms := rooms' }.setSocket w { socket with client := some (r, room.added) })
  -- nothing catches the rejection
  | .error _ => some { s with rooms }

inductive Event where
  | connection (query : Query)
  | frame (w : SocketRef) (frame : Frame)
  | socketClosed (w : SocketRef)
  /-- the continuation of `getOrCreateRoom` in the handler of the websocket -/
  | joined (w : SocketRef)
  /-- something else happens in the rooms -/
  | rooms (e : Rooms.Event)

/-- What happens in the rooms without a websocket. -/
def apart : Rooms.Event → Bool
  | .getOrCreateRoom _ | .settled _ => false
  | .room _ (.add _) | .room _ (.socketClosed _) | .room _ (.message _ _) | .room _ .close => false
  | _ => true

def step (s : Server) : Event → Option Server
  | .connection query =>
      match query.ids with
      | none             =>
          some { s with sockets := s.sockets ++ [{ query, refused := some refusal }] }
      | some (roomId, _) =>
          some
            { rooms := s.rooms.getOrCreateRoom roomId
              sockets := s.sockets ++ [{ query, call := some s.rooms.calls.length }] }
  | .frame w frame =>
      match s.sockets[w]? with
      | some socket =>
          if socket.closed then none
          else
            match socket.client with
            | none        =>
                some (s.setSocket w { socket with arrived := socket.arrived ++ [frame] })
            | some (r, c) =>
                (s.rooms.receive r c frame).map fun rooms =>
                  { s with rooms }.setSocket w
                    { socket with
                      arrived := socket.arrived ++ [frame]
                      received := socket.received ++ [frame] }
      | none => none
  | .socketClosed w =>
      match s.sockets[w]? with
      | some socket =>
          if socket.closed then none
          else
            match socket.client with
            | none        => some (s.setSocket w { socket with closed := true })
            | some (r, c) =>
                (s.rooms.step (.room r (.socketClosed c))).map fun rooms =>
                  { s with rooms }.setSocket w { socket with closed := true }
      | none => none
  | .joined w =>
      match s.sockets[w]? with
      | some socket =>
          match socket.query.ids, socket.call with
          | some (_, clientId), some c => s.joined w socket clientId c
          | _, _ => none
      | none => none
  | .rooms e => if apart e then (s.rooms.step e).map fun rooms => { s with rooms } else none

/-- A server with a new registry. -/
def new (ip announcedIp : String) : Server := { rooms := .new ip announcedIp }

end Server

/-! ### Callbacks -/

/-- A callback of the creation is due. -/
def Stage.due : Stage → Bool
  | .created _ | .settled _ => true
  | .creating | .done _ => false

/-- What the promise that `getOrCreateRoom` returned for the websocket can settle as now. -/
def Socket.outcome (socket : Socket) (rooms : Rooms) : Option Outcome := do
  let call ← rooms.calls[← socket.call]?
  rooms.promisedOutcome call.promised

/-- The continuation in the handler of the websocket is due. -/
def Socket.due (socket : Socket) (rooms : Rooms) : Bool :=
  (socket.outcome rooms).isSome &&
    ((socket.call.bind fun c => rooms.calls[c]?).any fun call => call.outcome.isNone)

namespace Server

/-- No callback is due. -/
def idle (s : Server) : Bool :=
  (s.rooms.creations.all fun creation => !creation.stage.due) &&
    s.sockets.all fun socket => !socket.due s.rooms

/-- A callback of a promise. -/
def Event.callback : Event → Bool
  | .joined _ | .rooms (.then_ _) | .rooms (.finally_ _) | .rooms (.room _ (.resumed _)) => true
  | _ => false

/-- Only a callback happens while one is due. -/
def Scheduled (s : Server) (e : Event) : Prop := (e.callback || s.idle) = true

instance (s : Server) (e : Event) : Decidable (Scheduled s e) :=
  inferInstanceAs (Decidable (_ = true))

/-! ### What a step does -/

/-- One constructor for each way a step can go. -/
inductive Turn (s : Server) : Event → Server → Prop where
  | refused {query : Query} :
      query.ids = none →
      Turn s (.connection query)
        { s with sockets := s.sockets ++ [{ query, refused := some refusal }] }
  | connected {query : Query} {roomId : RoomId} {clientId : ClientId} :
      query.ids = some (roomId, clientId) →
      Turn s (.connection query)
        { rooms := s.rooms.getOrCreateRoom roomId
          sockets := s.sockets ++ [{ query, call := some s.rooms.calls.length }] }
  | lost {w : SocketRef} {socket : Socket} (frame : Frame) :
      s.sockets[w]? = some socket → socket.closed = false → socket.client = none →
      Turn s (.frame w frame) (s.setSocket w { socket with arrived := socket.arrived ++ [frame] })
  | received {w : SocketRef} {socket : Socket} {frame : Frame} {r : RoomRef} {c : ClientRef}
      {rooms : Rooms} :
      s.sockets[w]? = some socket → socket.closed = false → socket.client = some (r, c) →
      s.rooms.receive r c frame = some rooms →
      Turn s (.frame w frame) ({ s with rooms }.setSocket w
        { socket with
          arrived := socket.arrived ++ [frame]
          received := socket.received ++ [frame] })
  | closedEarly {w : SocketRef} {socket : Socket} :
      s.sockets[w]? = some socket → socket.closed = false → socket.client = none →
      Turn s (.socketClosed w) (s.setSocket w { socket with closed := true })
  | closed {w : SocketRef} {socket : Socket} {r : RoomRef} {c : ClientRef} {rooms : Rooms} :
      s.sockets[w]? = some socket → socket.closed = false → socket.client = some (r, c) →
      s.rooms.step (.room r (.socketClosed c)) = some rooms →
      Turn s (.socketClosed w) ({ s with rooms }.setSocket w { socket with closed := true })
  | rejected {w : SocketRef} {socket : Socket} {c : CallRef} {error : String} {rooms : Rooms} :
      s.sockets[w]? = some socket → socket.call = some c →
      socket.outcome s.rooms = some (.error error) → s.rooms.step (.settled c) = some rooms →
      Turn s (.joined w) { s with rooms }
  | joined {w : SocketRef} {socket : Socket} {roomId : RoomId} {clientId : ClientId} {c : CallRef}
      {r : RoomRef} {room : Room} {rooms rooms' : Rooms} :
      s.sockets[w]? = some socket → socket.query.ids = some (roomId, clientId) →
      socket.call = some c → socket.outcome s.rooms = some (.ok r) →
      s.rooms.step (.settled c) = some rooms → rooms.room[r]? = some room →
      rooms.step (.room r (.add ⟨socket.closed, clientId, socket.query.userId⟩)) = some rooms' →
      Turn s (.joined w) ({ s with rooms := rooms' }.setSocket w
        { socket with client := some (r, room.added) })
  | rooms {e : Rooms.Event} {rooms : Rooms} :
      apart e = true → s.rooms.step e = some rooms → Turn s (.rooms e) { s with rooms }

theorem joined_turn {s s' : Server} {w : SocketRef} {socket : Socket} {roomId : RoomId}
    {clientId : ClientId} {c : CallRef} (hw : s.sockets[w]? = some socket)
    (hid : socket.query.ids = some (roomId, clientId)) (hc : socket.call = some c)
    (h : s.joined w socket clientId c = some s') : s.Turn (.joined w) s' := by
  simp only [joined, Option.bind_eq_bind, Option.bind_eq_some_iff] at h
  obtain ⟨call, hcall, rooms, hrooms, outcome, ho, h⟩ := h
  have ho' : socket.outcome s.rooms = some outcome := by
    simp only [Socket.outcome, hc, hcall, Option.bind_eq_bind, Option.bind_some, ho]
  cases outcome with
  | error error => cases h; exact .rejected hw hc ho' hrooms
  | ok r =>
      simp only [Option.bind_eq_some_iff] at h
      obtain ⟨room, hroom, rooms', hrooms', h⟩ := h
      cases h
      exact .joined hw hid hc ho' hrooms hroom hrooms'

theorem step_turn {s s' : Server} {e : Event} (he : s.step e = some s') : s.Turn e s' := by
  cases e with
  | connection query =>
      simp only [step] at he
      split at he
      · next hid => cases he; exact .refused hid
      · next hid => cases he; exact .connected hid
  | frame w frame =>
      simp only [step] at he
      split at he
      · next hw =>
          split at he
          · cases he
          · next ho =>
              simp only [Bool.not_eq_true] at ho
              split at he
              · next hc => cases he; exact .lost frame hw ho hc
              · next hc =>
                  obtain ⟨rooms, hr, rfl⟩ := Option.map_eq_some_iff.mp he
                  exact .received hw ho hc hr
      · cases he
  | socketClosed w =>
      simp only [step] at he
      split at he
      · next hw =>
          split at he
          · cases he
          · next ho =>
              simp only [Bool.not_eq_true] at ho
              split at he
              · next hc => cases he; exact .closedEarly hw ho hc
              · next hc =>
                  obtain ⟨rooms, hr, rfl⟩ := Option.map_eq_some_iff.mp he
                  exact .closed hw ho hc hr
      · cases he
  | joined w =>
      simp only [step] at he
      split at he
      · next hw =>
          split at he
          · next hid hc => exact joined_turn hw hid hc he
          · cases he
      · cases he
  | rooms e =>
      simp only [step] at he
      split at he
      · next ha =>
          obtain ⟨rooms, hr, rfl⟩ := Option.map_eq_some_iff.mp he
          exact .rooms ha hr
      · cases he

end Server

end DemoApp.Sfu
