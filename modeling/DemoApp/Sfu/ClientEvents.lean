import DemoApp.Support.Json
import DemoApp.Sfu.Protocol

/-!
# Sfu — ClientEvents

`media/ClientEvents.ts` as the peer sees it: a text frame is parsed, and emitted under the name
that its `type` spells, whatever that is.  The listeners of `MediasoupRoom.add` destructure the
message they get; `read` says what they find in one that need not be of the protocol.
-/

namespace DemoApp.Sfu

/-- The messages that a room listens for. -/
inductive MessageType where
  | getRouterCapabilitiesRequest
  | clientRtpCapabilities
  | createTransportRequest
  | joinCallRequest
  | transportConnectedNotification
  | createProducerRequest
  | pauseProducerRequest
  | resumeProducerRequest
  deriving DecidableEq

def MessageType.name : MessageType → String
  | .getRouterCapabilitiesRequest   => "get-router-capabilities-request"
  | .clientRtpCapabilities          => "client-rtp-capabilities"
  | .createTransportRequest         => "create-transport-request"
  | .joinCallRequest                => "join-call-request"
  | .transportConnectedNotification => "transport-connected-notification"
  | .createProducerRequest          => "create-producer-request"
  | .pauseProducerRequest           => "pause-producer-request"
  | .resumeProducerRequest          => "resume-producer-request"

/-- The message type of a name. -/
def MessageType.ofName (name : String) : Option MessageType :=
  [getRouterCapabilitiesRequest, clientRtpCapabilities, createTransportRequest, joinCallRequest,
    transportConnectedNotification, createProducerRequest, pauseProducerRequest,
    resumeProducerRequest].find? fun type => type.name == name

namespace ClientEvents

/-- What becomes of a frame. -/
inductive Received where
  /-- `_receive` throws, out of the listener of the websocket -/
  | throws
  /-- it is dropped with a warning -/
  | dropped
  | emitted (messageType : String) (message : List (String × Json))

/-- `_receive`, on what `JSON.parse` makes of the frame.  `listens name` says that the emitter has
a listener for `name`. -/
def receive (listens : String → Bool) : Option Json → Received
  | none                => .dropped
  -- `null` cannot be destructured
  | some .null          => .throws
  | some (.obj message) =>
      let type := Json.field message "type"
      if !Json.truthy type then .dropped
      else
        -- the emitter takes the type for the name of a property
        match type.bind Json.toText with
        | none      => .throws
        | some name => if listens name then .emitted name message else .dropped
  -- no other value has a property `type`
  | some _              => .dropped

/-- What is emitted has a listener. -/
theorem listens_of_emitted {listens : String → Bool} {frame : Option Json} {name : String}
    {message : List (String × Json)} (h : receive listens frame = .emitted name message) :
    listens name = true := by
  unfold receive at h
  split at h
  · cases h
  · cases h
  · dsimp only at h
    split at h
    · cases h
    · split at h
      · cases h
      · split at h
        · next hl => cases h; exact hl
        · cases h
  · cases h

/-! ### What the listeners find -/

/-- How values that nobody here looks at are carried, and which values are ids of producers. -/
structure Reader where
  text : Option Json → String
  producerId : Option Json → Option ProducerId

/-- What a listener finds in a message. -/
inductive Reading where
  | message (m : ClientMessage)
  /-- a `client-rtp-capabilities` without capabilities -/
  | noCapabilities
  /-- a `create-transport-request` for neither role -/
  | otherRole (requestId : RequestId)
  /-- an unknown producer, or a kind of media that `produce` rejects -/
  | nothing

/-- `role === 'producing'` and `role === 'consuming'`. -/
def role : Option Json → Option Role
  | some (.str s) =>
      if s = "producing" then some .producing
      else if s = "consuming" then some .consuming else none
  | _ => none

def kind : Option Json → Option MediaKind
  | some (.str s) =>
      if s = "audio" then some .audio else if s = "video" then some .video else none
  | _ => none

/-- The destructuring of a message by the listener of its type. -/
def read (reader : Reader) (message : List (String × Json)) : MessageType → Reading :=
  let field := Json.field message
  let requestId := reader.text (field "requestId")
  fun
  | .getRouterCapabilitiesRequest => .message (.getRouterCapabilitiesRequest requestId)
  | .clientRtpCapabilities =>
      if Json.truthy (field "rtpCapabilities") then
        .message (.clientRtpCapabilities (reader.text (field "rtpCapabilities")))
      else .noCapabilities
  | .createTransportRequest =>
      match role (field "role") with
      | some role => .message (.createTransportRequest requestId role)
      | none      => .otherRole requestId
  | .joinCallRequest => .message (.joinCallRequest requestId)
  | .transportConnectedNotification =>
      -- whatever is not `'consuming'` counts as `'producing'`
      .message (.transportConnectedNotification requestId
        ((role (field "role")).getD .producing) (reader.text (field "dtlsParameters")))
  | .createProducerRequest =>
      match kind (field "kind") with
      | some kind =>
          .message (.createProducerRequest requestId kind (reader.text (field "rtpParameters"))
            (reader.text (field "userId")))
      | none => .nothing
  | .pauseProducerRequest =>
      match reader.producerId (field "producerId") with
      | some p => .message (.pauseProducerRequest requestId p)
      | none   => .nothing
  | .resumeProducerRequest =>
      match reader.producerId (field "producerId") with
      | some p => .message (.resumeProducerRequest requestId p)
      | none   => .nothing

end ClientEvents

end DemoApp.Sfu
