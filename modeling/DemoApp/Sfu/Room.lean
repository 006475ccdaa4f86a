import DemoApp.Support.LiveMap
import DemoApp.Sfu.Protocol
import Mathlib.Logic.Function.Basic

/-!
# Sfu — Room

`media/Room.ts` with the part of `media/ClientEvents.ts` and of mediasoup it rests on.  A room is
a state; what runs between two suspensions of the event loop is one function on it.

* A client object is a cell of `client`, addressed by the order in which it was added: `_clients`
  maps a client id to one of these cells, and a handler keeps the cell it was registered for.
* A handler suspended at an `await` is a cell of `handlers`: the client it was registered for and
  the `Await` it stands at, with the local variables it still needs.
* The loops over `_clients.keys()` and `producers.values()` are live iterators: a cursor into the
  slots of a `LiveMap`.
* mediasoup's objects are the tables of the `Router`.  An object that closes runs its observer's
  `close` listener at once.
-/

namespace DemoApp.Sfu

/-- The position of a client object in the order of `MediasoupRoom.add`. -/
abbrev ClientRef := Nat

/-- The position of a handler in the order in which the handlers started. -/
abbrev HandlerRef := Nat

/-! ### mediasoup -/

structure Transport where
  owner : ClientRef
  role : Role
  closed : Bool := false

structure Producer where
  owner : ClientRef
  transport : TransportId
  kind : MediaKind
  closed : Bool := false

structure Consumer where
  owner : ClientRef
  transport : TransportId
  producerId : ProducerId
  closed : Bool := false

/-- A mediasoup router, with every transport, producer and consumer made through it.
`listening`: the room's `observer.once('close')` has not fired. -/
structure Router where
  id : CallId
  rtpCapabilities : RtpCapabilities
  closed : Bool := false
  listening : Bool := false
  transports : List Transport := []
  producers : List Producer := []
  consumers : List Consumer := []

/-- What `worker.createRouter` resolves to: a router that has made nothing yet. -/
def createRouter (id : CallId) (rtpCapabilities : RtpCapabilities) : Router :=
  { id, rtpCapabilities }

/-! ### The state of a room -/

/-- What `main.ts` passes to `add`; of the websocket, whether it has emitted `close`. -/
structure ClientContext where
  socketClosed : Bool := false
  clientId : ClientId
  userId : UserId

/-- `Client`.  `socketClosed` is the websocket's state, `eventsClosed` is `clientEvents._closed`.
A producer stands in its map with its kind and a consumer with its `producerId`, the fields the
room reads. -/
structure Client where
  clientId : ClientId
  userId : UserId
  socketClosed : Bool := false
  eventsClosed : Bool := false
  rtpCapabilities : Option RtpCapabilities := none
  sndTransport : Option TransportId := none
  rcvTransport : Option TransportId := none
  producers : LiveMap ProducerId MediaKind := .empty
  consumers : LiveMap ConsumerId ProducerId := .empty

/-- The transport of a role. -/
def Client.transport (c : Client) : Role → Option TransportId
  | .producing => c.sndTransport
  | .consuming => c.rcvTransport

def Client.setTransport (c : Client) (role : Role) (t : TransportId) : Client :=
  match role with
  | .producing => { c with sndTransport := some t }
  | .consuming => { c with rcvTransport := some t }

/-- Which handler runs the loop over `this._clients.keys()`. -/
inductive LoopKind where
  | join (requestId : RequestId)
  | push

/-- That loop: its handler and the cursor of its iterator. -/
structure Loop where
  kind : LoopKind
  cursor : Nat

/-- The frame of a call of `_consumeClient`, with the cursor of its iterator over the
producers. -/
structure ConsumeCall where
  producingClientId : ClientId
  producing : ClientRef
  consuming : ClientRef
  cursor : Nat

/-- The arguments of `consumingTransport.consume`, with the kind of the producer. -/
structure ConsumeOptions where
  transport : TransportId
  producerId : ProducerId
  rtpCapabilities : RtpCapabilities
  kind : MediaKind

/-- The `listenIps` of `createWebRtcTransport`. -/
structure WebRtcTransportOptions where
  ip : String
  announcedIp : String

/-- Where a handler is suspended. -/
inductive Await where
  | createTransport (requestId : RequestId) (role : Role) (options : WebRtcTransportOptions)
  | connect (role : Role) (dtlsParameters : DtlsParameters)
  | produce (requestId : RequestId) (transport : TransportId) (kind : MediaKind)
      (rtpParameters : RtpParameters)
  | pause (requestId : RequestId)
  | resume (requestId : RequestId)
  /-- at `await consumingTransport.consume(…)` -/
  | consume (loop : Loop) (call : ConsumeCall) (options : ConsumeOptions)
  /-- at `await this._consumeClient(…)`, after the call returned -/
  | returned (loop : Loop)

structure Handler where
  client : ClientRef
  await : Await

structure RoomConfig where
  ip : String
  announcedIp : String
  roomId : RoomId

/-- A `MediasoupRoom`.  `sent` lists what was handed to each client's websocket, and
`closedCalls` counts the calls of the abstract `onClosed`. -/
structure Room where
  config : RoomConfig
  router : Router
  clients : LiveMap ClientId ClientRef := .empty
  added : Nat := 0
  client : ClientRef → Client := fun _ => { clientId := "", userId := "" }
  handlers : List (Option Handler) := []
  sent : List (ClientRef × ServerMessage) := []
  now : Nat := 0
  closedCalls : Nat := 0

/-- The constructor: the room listens once to the router's `close`. -/
def Room.new (config : RoomConfig) (router : Router) : Room :=
  { config, router := { router with listening := true } }

namespace Room

def roomId (s : Room) : RoomId := s.config.roomId

def callId (s : Room) : CallId := s.router.id

/-- The suspended handler `h`, if it has not ended. -/
def suspended (s : Room) (h : HandlerRef) : Option Handler := s.handlers[h]?.join

/-- Assign to the fields of a client object. -/
def modify (s : Room) (r : ClientRef) (f : Client → Client) : Room :=
  { s with client := Function.update s.client r (f (s.client r)) }

/-- `clientEvents.send`. -/
def send (s : Room) (r : ClientRef) (m : ServerMessage) : Room :=
  if (s.client r).eventsClosed then s else { s with sent := s.sent ++ [(r, m)] }

/-- A new handler of the client `r`, suspended at `a`. -/
def spawn (s : Room) (r : ClientRef) (a : Await) : Room :=
  { s with handlers := s.handlers ++ [some ⟨r, a⟩] }

/-- The handler `h` of the client `r` suspends at `a`. -/
def suspend (s : Room) (h : HandlerRef) (r : ClientRef) (a : Await) : Room :=
  { s with handlers := s.handlers.set h (some ⟨r, a⟩) }

/-- The handler `h` ends. -/
def finish (s : Room) (h : HandlerRef) : Room := { s with handlers := s.handlers.set h none }

/-! ### Closing -/

/-- A producer closes: its listener removes it from its client's map. -/
def closeProducer (s : Room) (p : ProducerId) : Room :=
  match s.router.producers[p]? with
  | none          => s
  | some producer =>
      if producer.closed then s
      else
        modify
          { s with
            router.producers := s.router.producers.set p { producer with closed := true } }
          producer.owner fun c => { c with producers := c.producers.delete p }

/-- A consumer closes: its listener removes it from its client's map and tells the client, unless
the client's events are closed. -/
def closeConsumer (s : Room) (k : ConsumerId) : Room :=
  match s.router.consumers[k]? with
  | none          => s
  | some consumer =>
      if consumer.closed then s
      else
        (modify
          { s with
            router.consumers := s.router.consumers.set k { consumer with closed := true } }
          consumer.owner fun c => { c with consumers := c.consumers.delete k }).send
          consumer.owner (.consumerClosedNotification k)

def producersOn (s : Room) (t : TransportId) : List ProducerId :=
  (List.range s.router.producers.length).filter fun p =>
    (s.router.producers[p]?).any fun producer => producer.transport == t

def consumersOn (s : Room) (t : TransportId) : List ConsumerId :=
  (List.range s.router.consumers.length).filter fun k =>
    (s.router.consumers[k]?).any fun consumer => consumer.transport == t

/-- The producers on a transport close, then the consumers on it. -/
def closeObjects (s : Room) (t : TransportId) : Room :=
  let s₁ := (s.producersOn t).foldl closeProducer s
  (s₁.consumersOn t).foldl closeConsumer s₁

/-- `transport.close()`. -/
def closeTransport (s : Room) (t : TransportId) : Room :=
  match s.router.transports[t]? with
  | none           => s
  | some transport =>
      if transport.closed then s
      else
        closeObjects
          { s with
            router.transports := s.router.transports.set t { transport with closed := true } } t

/-- `router.close()`: the router, then its transports; then its observer emits `close`, with
`router.closed` already true, to the room's listener if it is still registered. -/
def closeRouter (listener : Room → Room) (s : Room) : Room :=
  if s.router.closed then s
  else
    let s₁ := { s with router.closed := true }
    let s₂ := (List.range s₁.router.transports.length).foldl closeTransport s₁
    if s₂.router.listening then listener { s₂ with router.listening := false } else s₂

/-- `MediasoupRoom.close`, entered again by the listener it triggers, at most `n` deep. -/
def closeAt : Nat → Room → Room
  | 0,     s => s
  | n + 1, s =>
      if s.router.closed then s
      else
        let s₁ := closeRouter (closeAt n) s
        { s₁ with closedCalls := s₁.closedCalls + 1 }

/-- `MediasoupRoom.close`: the call and the one it triggers (`close_eq`). -/
def close (s : Room) : Room := closeAt 2 s

/-- `client.sndTransport?.close()` and its twin. -/
def closeTransport? (s : Room) : Option TransportId → Room
  | none   => s
  | some t => s.closeTransport t

def closeTransports (s : Room) (r : ClientRef) : Room :=
  let s₁ := s.closeTransport? (s.client r).sndTransport
  s₁.closeTransport? (s₁.client r).rcvTransport

/-- The room's `close` listener of the client `r`. -/
def clientClosed (s : Room) (r : ClientRef) : Room :=
  let s₁ := s.closeTransports r
  let s₂ := { s₁ with clients := s₁.clients.delete (s₁.client r).clientId }
  if s₂.clients.size < 1 then s₂.close else s₂

/-- The websocket of `r` emits `close`: `ClientEvents` closes, unless it is closed. -/
def socketClosed (s : Room) (r : ClientRef) : Room :=
  let s₁ := s.modify r fun c => { c with socketClosed := true }
  if (s₁.client r).eventsClosed then s₁
  else clientClosed (s₁.modify r fun c => { c with eventsClosed := true }) r

/-! ### Consuming -/

end Room

/-- The loop over `consumingClient.consumers.values()`: some consumer consumes `p`. -/
def Client.consumes (c : Client) (p : ProducerId) : Bool :=
  (c.consumers.next 0 fun _ producerId => if producerId = p then some () else none).isSome

/-- The body of the loop over the producers up to its `await`: the arguments of `consume`, unless
one of the `continue`s is taken. -/
def Client.toConsume (c : Client) (p : ProducerId) (kind : MediaKind) : Option ConsumeOptions :=
  if c.consumes p then none
  else do
    let rtpCapabilities ← c.rtpCapabilities
    let transport ← c.rcvTransport
    some ⟨transport, p, rtpCapabilities, kind⟩

namespace Room

/-- The loop of `_consumeClient` from the cursor of `call`, up to its next `await` or its end. -/
def consumeFrom (s : Room) (h : HandlerRef) (r : ClientRef) (loop : Loop) (call : ConsumeCall) :
    Room :=
  match (s.client call.producing).producers.next call.cursor
      (s.client call.consuming).toConsume with
  | none                      => s.suspend h r (.returned loop)
  | some (cursor, _, options) => s.suspend h r (.consume loop { call with cursor } options)

/-- `_consumeClient`, called by the handler `h` of the client `r` in the body of `loop`. -/
def consumeClient (s : Room) (h : HandlerRef) (r : ClientRef) (loop : Loop)
    (producingClientId consumingClientId : ClientId) : Room :=
  match s.clients.get producingClientId, s.clients.get consumingClientId with
  | some producing, some consuming =>
      s.consumeFrom h r loop ⟨producingClientId, producing, consuming, 0⟩
  | _, _ => s.suspend h r (.returned loop)

/-- The token of `join-call-request`. -/
def observerAccessToken (s : Room) (r : ClientRef) : ObserverAccessToken where
  roomId := s.roomId
  clientId := (s.client r).clientId
  callId := s.callId
  expires := s.now + 4 * 60 * 1000
  secret := "no-client-secret"

/-- What a handler does after its loop. -/
def afterLoop (s : Room) (r : ClientRef) : LoopKind → Room
  | .join requestId =>
      s.send r (.joinCallResponse requestId s.callId (s.observerAccessToken r))
  | .push           => s

/-- `if (clientId === id) continue;`. -/
def skip (clientId : ClientId) (id : ClientId) (_ : ClientRef) : Option ClientId :=
  if clientId = id then none else some id

/-- The loop over `this._clients.keys()` from its cursor, up to the next `await` or the end of
the handler: a join consumes from every other client, and a new producer is consumed by every
other client. -/
def runLoop (s : Room) (h : HandlerRef) (r : ClientRef) (loop : Loop) : Room :=
  match s.clients.next loop.cursor (skip (s.client r).clientId) with
  | none                 => (s.afterLoop r loop.kind).finish h
  | some (cursor, _, id) =>
      match loop.kind with
      | .join _ => s.consumeClient h r { loop with cursor } id (s.client r).clientId
      | .push   => s.consumeClient h r { loop with cursor } (s.client r).clientId id

/-! ### The handlers -/

/-- `add`. -/
def add (s : Room) (ctx : ClientContext) : Room :=
  { s with
    client := Function.update s.client s.added
      { clientId := ctx.clientId, userId := ctx.userId, socketClosed := ctx.socketClosed }
    clients := s.clients.set ctx.clientId s.added
    added := s.added + 1 }

/-- `create-transport-request`, up to `await this._router.createWebRtcTransport(…)`. -/
def createTransportRequest (s : Room) (r : ClientRef) (requestId : RequestId) (role : Role) :
    Room :=
  if ((s.client r).transport role).isSome then s
  else s.spawn r (.createTransport requestId role ⟨s.config.ip, s.config.announcedIp⟩)

/-- Its continuation. -/
def transportCreated (s : Room) (h : HandlerRef) (r : ClientRef) (requestId : RequestId)
    (role : Role) (info : TransportInfo) : Room :=
  let t := s.router.transports.length
  let s₁ := { s with router.transports := s.router.transports ++ [(⟨r, role, false⟩ : Transport)] }
  let s₂ := s₁.modify r fun c => c.setTransport role t
  (s₂.send r (.createTransportResponse requestId t info)).finish h

/-- `join-call-request`. -/
def joinCallRequest (s : Room) (r : ClientRef) (requestId : RequestId) : Room :=
  runLoop { s with handlers := s.handlers ++ [none] } s.handlers.length r ⟨.join requestId, 0⟩

/-- `transport-connected-notification`, up to its `await`. -/
def transportConnectedNotification (s : Room) (r : ClientRef) (role : Role)
    (dtlsParameters : DtlsParameters) : Room :=
  if ((s.client r).transport role).isSome then s.spawn r (.connect role dtlsParameters) else s

/-- `create-producer-request`, up to `await transport.produce(…)`. -/
def createProducerRequest (s : Room) (r : ClientRef) (requestId : RequestId) (kind : MediaKind)
    (rtpParameters : RtpParameters) : Room :=
  match (s.client r).sndTransport with
  | none           => s
  | some transport => s.spawn r (.produce requestId transport kind rtpParameters)

/-- Its continuation, up to its first `await` in the loop over the clients. -/
def produced (s : Room) (h : HandlerRef) (r : ClientRef) (requestId : RequestId)
    (transport : TransportId) (kind : MediaKind) : Room :=
  let p := s.router.producers.length
  let s₁ := { s with
    router.producers := s.router.producers ++ [(⟨r, transport, kind, false⟩ : Producer)] }
  let s₂ := s₁.modify r fun c => { c with producers := c.producers.set p kind }
  (s₂.send r (.createProducerResponse requestId p)).runLoop h r ⟨.push, 0⟩

/-- `pause-producer-request` (`await` is `.pause`) and `resume-producer-request` (`.resume`). -/
def switchProducerRequest (s : Room) (r : ClientRef) (producerId : ProducerId) (a : Await) :
    Room :=
  match (s.client r).producers.get producerId with
  | none   => s
  | some _ => s.spawn r a

/-- The continuation of `await consumingTransport.consume(…)` in `_consumeClient`. -/
def consumed (s : Room) (h : HandlerRef) (r : ClientRef) (loop : Loop) (call : ConsumeCall)
    (options : ConsumeOptions) (rtpParameters : RtpParameters) : Room :=
  let k := s.router.consumers.length
  let p := options.producerId
  let s₁ := { s with
    router.consumers := s.router.consumers ++
      [(⟨call.consuming, options.transport, p, false⟩ : Consumer)] }
  let s₂ := s₁.modify call.consuming fun c => { c with consumers := c.consumers.set k p }
  let s₃ := s₂.send call.consuming (.consumerCreatedNotification k p options.kind rtpParameters
    ⟨(s.client call.producing).userId, call.producingClientId⟩)
  s₃.consumeFrom h r loop call

/-- `ClientEvents._receive` on a message of the protocol: the listener of its type, which is
there unless the events are closed. -/
def receive (s : Room) (r : ClientRef) (m : ClientMessage) : Room :=
  if (s.client r).eventsClosed then s
  else
    match m with
    | .getRouterCapabilitiesRequest requestId =>
        s.send r (.getRouterCapabilitiesResponse requestId s.router.rtpCapabilities)
    | .clientRtpCapabilities caps => s.modify r fun c => { c with rtpCapabilities := some caps }
    | .createTransportRequest requestId role => s.createTransportRequest r requestId role
    | .joinCallRequest requestId => s.joinCallRequest r requestId
    | .transportConnectedNotification _ role dtls => s.transportConnectedNotification r role dtls
    | .createProducerRequest requestId kind rtp _ => s.createProducerRequest r requestId kind rtp
    | .pauseProducerRequest requestId p => s.switchProducerRequest r p (.pause requestId)
    | .resumeProducerRequest requestId p => s.switchProducerRequest r p (.resume requestId)
    -- the room registers no listener for it
    | .getClientStatsRequest _ _ => s

/-! ### Events -/

/-- What the event loop can run next in a room. -/
inductive Event where
  | add (ctx : ClientContext)
  | socketClosed (r : ClientRef)
  | message (r : ClientRef) (m : ClientMessage)
  /-- `createWebRtcTransport` resolves -/
  | transportCreated (h : HandlerRef) (info : TransportInfo)
  /-- `createWebRtcTransport` rejects -/
  | transportFailed (h : HandlerRef)
  /-- `transport.connect` settles -/
  | transportConnected (h : HandlerRef) (connected : Bool)
  /-- `transport.produce` resolves -/
  | produced (h : HandlerRef)
  /-- `transport.produce` rejects -/
  | produceFailed (h : HandlerRef)
  /-- `producer.pause` or `producer.resume` settles -/
  | producerSwitched (h : HandlerRef)
  /-- `consumingTransport.consume` resolves -/
  | consumed (h : HandlerRef) (rtpParameters : RtpParameters)
  /-- `consumingTransport.consume` rejects -/
  | consumeFailed (h : HandlerRef)
  /-- the `await` of a `_consumeClient` that returned continues -/
  | resumed (h : HandlerRef)
  /-- a consumer learns that its producer closed -/
  | consumerClosed (k : ConsumerId)
  /-- the router closes by itself -/
  | routerClosed
  /-- `MediasoupRoom.close` is called from outside -/
  | close
  | elapsed (ms : Nat)

/-- A consumer closes by itself only after its producer closed. -/
def producerGone (s : Room) (k : ConsumerId) : Bool :=
  (s.router.consumers[k]?).any fun consumer =>
    (s.router.producers[consumer.producerId]?).any fun producer => producer.closed

/-- One turn of the event loop. -/
def step (s : Room) : Event → Option Room
  | .add ctx => some (s.add ctx)
  | .socketClosed r =>
      if r < s.added ∧ (s.client r).socketClosed = false then some (s.socketClosed r) else none
  | .message r m =>
      if r < s.added ∧ (s.client r).socketClosed = false then some (s.receive r m) else none
  | .transportCreated h info =>
      match s.suspended h with
      | some ⟨r, .createTransport requestId role _⟩ =>
          some (s.transportCreated h r requestId role info)
      | _ => none
  | .transportFailed h =>
      match s.suspended h with
      -- nothing catches the rejection
      | some ⟨_, .createTransport _ _ _⟩ => some (s.finish h)
      | _ => none
  | .transportConnected h _ =>
      match s.suspended h with
      | some ⟨_, .connect _ _⟩ => some (s.finish h)
      | _ => none
  | .produced h =>
      match s.suspended h with
      | some ⟨r, .produce requestId transport kind _⟩ =>
          some (s.produced h r requestId transport kind)
      | _ => none
  | .produceFailed h =>
      match s.suspended h with
      | some ⟨_, .produce _ _ _ _⟩ => some (s.finish h)
      | _ => none
  | .producerSwitched h =>
      match s.suspended h with
      | some ⟨r, .pause requestId⟩ => some ((s.send r (.pauseProducerResponse requestId)).finish h)
      -- the source answers a resume with a `PauseProducerResponse`
      | some ⟨r, .resume requestId⟩ =>
          some ((s.send r (.pauseProducerResponse requestId)).finish h)
      | _ => none
  | .consumed h rtpParameters =>
      match s.suspended h with
      | some ⟨r, .consume loop call options⟩ =>
          some (s.consumed h r loop call options rtpParameters)
      | _ => none
  | .consumeFailed h =>
      match s.suspended h with
      -- nothing catches the rejection: `_consumeClient` and its caller end here
      | some ⟨_, .consume _ _ _⟩ => some (s.finish h)
      | _ => none
  | .resumed h =>
      match s.suspended h with
      | some ⟨r, .returned loop⟩ => some (s.runLoop h r loop)
      | _ => none
  | .consumerClosed k => if s.producerGone k then some (s.closeConsumer k) else none
  | .routerClosed => some (s.closeRouter close)
  | .close => some s.close
  | .elapsed ms => some { s with now := s.now + ms }

/-- A room with nobody in it, where the concrete runs below start. -/
def lobby : Room :=
  .new ⟨"0.0.0.0", "127.0.0.1", "lobby"⟩ (createRouter "call-1" "opus, VP8")

/-- The client `0` produces the producer `0`, and the client `1` gets ready to join. -/
def joining : List Event :=
  [.add { clientId := "a", userId := "u" }, .message 0 (.createTransportRequest "1" .producing),
    .transportCreated 0 ⟨"ice", [], "dtls"⟩,
    .message 0 (.createProducerRequest "2" .audio "opus" "u"), .produced 1,
    .add { clientId := "b", userId := "v" }, .message 1 (.clientRtpCapabilities "opus"),
    .message 1 (.createTransportRequest "3" .consuming), .transportCreated 2 ⟨"ice", [], "dtls"⟩]

end Room

end DemoApp.Sfu
