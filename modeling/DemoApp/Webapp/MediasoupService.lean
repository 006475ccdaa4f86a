import DemoApp.Support.Machine
import DemoApp.Support.Cells
import DemoApp.Webapp.ServerConnection

/-!
# Webapp — MediasoupService

`contexts/MediasoupService.tsx`: the client's side of a room.  What runs between two suspensions
is one function on its state, as on the server's.

* `Connecting` is where the call of `connect` stands, and `TransportCall` a call of
  `_createTransport` in its `Promise.all`.
* A handler suspended at `await this._rcvTransport.consume(…)` is a cell of `consuming`.
* What runs in a continuation of a promise of a request is an event of its own; `Scheduled` says
  that the websocket delivers nothing while one is due.
-/

namespace DemoApp.Webapp
open Sfu

/-- Tracks are numbered by the calls of `consume` that made them. -/
abbrev TrackId := Nat

structure Track where
  id : TrackId
  kind : MediaKind
  deriving DecidableEq, Repr

/-- A consumer of mediasoup-client. -/
structure Consumer where
  track : Track
  appData : RemoteClient
  deriving DecidableEq, Repr

/-- The arguments of `_rcvTransport.consume`. -/
structure ConsumeOptions where
  transport : TransportId
  id : ConsumerId
  kind : MediaKind
  rtpParameters : RtpParameters
  producerId : ProducerId
  appData : RemoteClient
  deriving DecidableEq

/-- `MediaServiceEvents`. -/
inductive MediaServiceEvent where
  | addedMediaConsumer (track : Track) (remoteClientId : ClientId) (userId : UserId)
  | removedMediaConsumer (trackId : TrackId)
  deriving DecidableEq, Repr

/-- Where a call of `_createTransport` stands. -/
inductive TransportCall where
  | requested (p : PromiseRef)
  | created (t : TransportId)

/-- Where `connect` stands. -/
inductive Connecting where
  | idle
  /-- at `await this._serverConnection.connect()`, which does not wait for the websocket -/
  | server
  | capabilities (p : PromiseRef)
  /-- at `await this._device.load(…)` -/
  | loading (routerRtpCapabilities : RtpCapabilities)
  /-- at `await Promise.all(…)` -/
  | transports (snd rcv : TransportCall)
  | joining (p : PromiseRef)
  | connected
  | failed

/-- The promise that a call of `_createTransport` waits for. -/
def TransportCall.awaits : TransportCall → List PromiseRef
  | .requested p => [p]
  | .created _   => []

/-- The calls of `_createTransport` that the `Promise.all` waits for, by their roles. -/
def Connecting.call : Connecting → Role → Option TransportCall
  | .transports snd _, .producing => some snd
  | .transports _ rcv, .consuming => some rcv
  | _, _ => none

def Connecting.setCall : Connecting → Role → TransportCall → Connecting
  | .transports _ rcv, .producing, call => .transports call rcv
  | .transports snd _, .consuming, call => .transports snd call
  | c, _, _ => c

/-- `MediasoupService`.  `rejected` lists the notifications that met no receiving transport,
`emitted` what `_emitter` emitted, and `uuids` counts the calls of `uuid`. -/
structure MediasoupService where
  serverConnection : ServerConnection
  sndTransport : Option TransportId := none
  rcvTransport : Option TransportId := none
  consumers : LiveMap ConsumerId Consumer := .empty
  consuming : List (Option ConsumeOptions) := []
  connecting : Connecting := .idle
  uuids : Nat := 0
  rejected : List ConsumerId := []
  emitted : List MediaServiceEvent := []

namespace MediasoupService

/-- The constructor. -/
def new (config : ServerConnectionConfig) : MediasoupService := { serverConnection := { config } }

def _emit (s : MediasoupService) (event : MediaServiceEvent) : MediasoupService :=
  { s with emitted := s.emitted ++ [event] }

/-! ### The listeners -/

/-- `consumer-created-notification`, up to `await this._rcvTransport.consume(…)`. -/
def consumerCreated (s : MediasoupService) (consumerId : ConsumerId)
    (remoteProducerId : ProducerId) (kind : MediaKind) (rtpParameters : RtpParameters)
    (remoteClient : RemoteClient) : MediasoupService :=
  match s.rcvTransport with
  | none   => { s with rejected := s.rejected ++ [consumerId] }
  | some t =>
      { s with consuming := s.consuming ++
          [some ⟨t, consumerId, kind, rtpParameters, remoteProducerId, remoteClient⟩] }

/-- Its continuation, for the call `n` of `consume`. -/
def consumed (s : MediasoupService) (n : Nat) (options : ConsumeOptions) : MediasoupService :=
  let consumer : Consumer := ⟨⟨n, options.kind⟩, options.appData⟩
  _emit
    { s with
      consuming := s.consuming.set n none
      consumers := s.consumers.set options.id consumer }
    (.addedMediaConsumer consumer.track options.appData.clientId options.appData.userId)

/-- `consumer-closed-notification`. -/
def consumerClosed (s : MediasoupService) (consumerId : ConsumerId) : MediasoupService :=
  match s.consumers.get consumerId with
  | some consumer => s._emit (.removedMediaConsumer consumer.track.id)
  | none          => s

/-- `ws.onmessage`. -/
def onmessage (s : MediasoupService) (m : ServerMessage) : MediasoupService :=
  match m with
  | .consumerCreatedNotification consumerId producerId kind rtpParameters remoteClient =>
      s.consumerCreated consumerId producerId kind rtpParameters remoteClient
  | .consumerClosedNotification consumerId => s.consumerClosed consumerId
  | response => { s with serverConnection := s.serverConnection.resolveRequest response }

/-! ### `connect` -/

section Connect

variable (uuid : Nat → RequestId)

/-- `_serverConnection.request(new …(uuid(), …))`, for the promise that the call returns. -/
def request (s : MediasoupService) (message : RequestId → ClientMessage) : MediasoupService :=
  { s with
    serverConnection := s.serverConnection.request (uuid s.uuids) (message (uuid s.uuids))
    uuids := s.uuids + 1 }

/-- The promise of the next request. -/
def promise (s : MediasoupService) : PromiseRef := s.serverConnection.promises.length

/-- `connect` continues after `await this._device.load(…)`. -/
def loaded (s : MediasoupService) (rtpCapabilities : RtpCapabilities) : MediasoupService :=
  let s₁ := { s with
    serverConnection := s.serverConnection.sendMessage (.clientRtpCapabilities rtpCapabilities) }
  let s₂ := s₁.request uuid fun q => .createTransportRequest q .producing
  let s₃ := s₂.request uuid fun q => .createTransportRequest q .consuming
  { s₃ with connecting := .transports (.requested s₁.promise) (.requested s₂.promise) }

/-- A call of `_createTransport` continues after its request. -/
def transportCreated (s : MediasoupService) (role : Role) : Option MediasoupService :=
  match s.connecting.call role with
  | some (.requested p) =>
      match s.serverConnection.settled p with
      | some (.createTransportResponse _ t _) =>
          some { s with connecting := s.connecting.setCall role (.created t) }
      -- the options of the transport are missing, and `Promise.all` rejects
      | some _ => some { s with connecting := .failed }
      | none   => none
  | _ => none

/-- `connect` continues. -/
def continued (s : MediasoupService) : Option MediasoupService :=
  match s.connecting with
  | .server =>
      some { s.request uuid .getRouterCapabilitiesRequest with
        connecting := .capabilities s.promise }
  | .capabilities p =>
      match s.serverConnection.settled p with
      | some (.getRouterCapabilitiesResponse _ rtpCapabilities) =>
          some { s with connecting := .loading rtpCapabilities }
      | some _ => some { s with connecting := .failed }
      | none   => none
  | .transports (.created snd) (.created rcv) =>
      some { ({ s with sndTransport := some snd, rcvTransport := some rcv }.request uuid
          .joinCallRequest) with connecting := .joining s.promise }
  | .joining p => (s.serverConnection.settled p).map fun _ => { s with connecting := .connected }
  | _ => none

/-! ### Events -/

inductive Event where
  /-- `connect` is called; the provider does it once -/
  | connect
  /-- the websocket is open, and stored -/
  | opened
  /-- the resend timer fires -/
  | tick
  | elapsed (ms : Nat)
  /-- the websocket delivers a message -/
  | message (m : ServerMessage)
  /-- `connect` continues -/
  | continued
  /-- `_device.load` resolves, and the device has these capabilities -/
  | loaded (rtpCapabilities : RtpCapabilities)
  /-- a call of `_createTransport` continues -/
  | transportCreated (role : Role)
  /-- a call of `_rcvTransport.consume` resolves -/
  | consumed (n : Nat)
  /-- a consumer emits `close` -/
  | consumerClosed (consumerId : ConsumerId)
  /-- a transport emits `connect` -/
  | transportConnect (role : Role) (dtlsParameters : DtlsParameters)
  /-- the sending transport emits `produce` -/
  | produce (kind : MediaKind) (rtpParameters : RtpParameters)

/-- The transport of a role. -/
def transport (s : MediasoupService) : Role → Option TransportId
  | .producing => s.sndTransport
  | .consuming => s.rcvTransport

/-- One turn of the event loop. -/
def step (s : MediasoupService) : Event → Option MediasoupService
  | .connect =>
      match s.connecting with
      | .idle => some { s with connecting := .server }
      | _     => none
  | .opened => some { s with serverConnection.ws := true }
  | .tick =>
      if s.serverConnection.ticking then
        some { s with serverConnection := s.serverConnection.tick }
      else none
  | .elapsed ms => some { s with serverConnection.now := s.serverConnection.now + ms }
  | .message m => if s.serverConnection.ws then some (s.onmessage m) else none
  | .continued => s.continued uuid
  | .loaded rtpCapabilities =>
      match s.connecting with
      | .loading _ => some (s.loaded uuid rtpCapabilities)
      | _ => none
  | .transportCreated role => s.transportCreated role
  | .consumed n =>
      match s.consuming[n]? with
      | some (some options) => some (s.consumed n options)
      | _ => none
  | .consumerClosed consumerId =>
      match s.consumers.get consumerId with
      | some _ => some { s with consumers := s.consumers.delete consumerId }
      | none   => none
  | .transportConnect role dtlsParameters =>
      if (s.transport role).isSome then
        some (s.request uuid fun q => .transportConnectedNotification q role dtlsParameters)
      else none
  | .produce kind rtpParameters =>
      if s.sndTransport.isSome then
        some (s.request uuid fun q => .createProducerRequest q kind rtpParameters "userId")
      else none

end Connect

/-! ### Continuations -/

/-- A continuation in `connect` is due. -/
def due (s : MediasoupService) : Bool :=
  match s.connecting with
  | .server => true
  | .capabilities p | .joining p => (s.serverConnection.settled p).isSome
  | .transports (.created _) (.created _) => true
  | .transports snd rcv =>
      (snd.awaits ++ rcv.awaits).any fun p => (s.serverConnection.settled p).isSome
  | .idle | .loading _ | .connected | .failed => false

/-- The websocket delivers a message. -/
def Event.isMessage : Event → Bool
  | .message _ => true
  | _ => false

/-- The websocket delivers no message while a continuation is due. -/
def Scheduled (s : MediasoupService) (e : Event) : Prop := e.isMessage = true → s.due = false

instance (s : MediasoupService) (e : Event) : Decidable (Scheduled s e) :=
  inferInstanceAs (Decidable (_ → _))

/-! ### Turns -/

section Turns

variable {uuid : Nat → RequestId} {s s' : MediasoupService} {e : Event}

/-- What a turn of the event loop can do. -/
inductive Turn (uuid : Nat → RequestId) (s : MediasoupService) :
    Event → MediasoupService → Prop
  | connect (hc : s.connecting = .idle) : Turn uuid s .connect { s with connecting := .server }
  | opened : Turn uuid s .opened { s with serverConnection.ws := true }
  | tick : Turn uuid s .tick { s with serverConnection := s.serverConnection.tick }
  | elapsed {ms : Nat} :
      Turn uuid s (.elapsed ms) { s with serverConnection.now := s.serverConnection.now + ms }
  | message {m : ServerMessage} (hw : s.serverConnection.ws = true) :
      Turn uuid s (.message m) (s.onmessage m)
  | server (hc : s.connecting = .server) :
      Turn uuid s .continued { s.request uuid .getRouterCapabilitiesRequest with
        connecting := .capabilities s.promise }
  | capabilities {p : PromiseRef} {q : RequestId} {caps : RtpCapabilities}
      (hc : s.connecting = .capabilities p)
      (hp : s.serverConnection.settled p = some (.getRouterCapabilitiesResponse q caps)) :
      Turn uuid s .continued { s with connecting := .loading caps }
  | loaded {routerCaps caps : RtpCapabilities} (hc : s.connecting = .loading routerCaps) :
      Turn uuid s (.loaded caps) (s.loaded uuid caps)
  | transportCreated {role : Role} {p : PromiseRef} {q : RequestId} {t : TransportId}
      {info : TransportInfo} (hc : s.connecting.call role = some (.requested p))
      (hp : s.serverConnection.settled p = some (.createTransportResponse q t info)) :
      Turn uuid s (.transportCreated role)
        { s with connecting := s.connecting.setCall role (.created t) }
  | transports {snd rcv : TransportId}
      (hc : s.connecting = .transports (.created snd) (.created rcv)) :
      Turn uuid s .continued { ({ s with
          sndTransport := some snd, rcvTransport := some rcv }.request uuid .joinCallRequest) with
        connecting := .joining s.promise }
  | joined {p : PromiseRef} {m : ServerMessage} (hc : s.connecting = .joining p)
      (hp : s.serverConnection.settled p = some m) :
      Turn uuid s .continued { s with connecting := .connected }
  /-- The response is of another type than the one that was asked for. -/
  | incapable {p : PromiseRef} {m : ServerMessage} (hc : s.connecting = .capabilities p)
      (hp : s.serverConnection.settled p = some m)
      (hm : ∀ q caps, m ≠ .getRouterCapabilitiesResponse q caps) :
      Turn uuid s .continued { s with connecting := .failed }
  | transportFailed {role : Role} {p : PromiseRef} {m : ServerMessage}
      (hc : s.connecting.call role = some (.requested p))
      (hp : s.serverConnection.settled p = some m)
      (hm : ∀ q t info, m ≠ .createTransportResponse q t info) :
      Turn uuid s (.transportCreated role) { s with connecting := .failed }
  | consumed {n : Nat} {options : ConsumeOptions} (hn : s.consuming[n]? = some (some options)) :
      Turn uuid s (.consumed n) (s.consumed n options)
  | consumerClosed {consumerId : ConsumerId} :
      Turn uuid s (.consumerClosed consumerId)
        { s with consumers := s.consumers.delete consumerId }
  | transportConnect {role : Role} {dtls : DtlsParameters} (ht : (s.transport role).isSome = true) :
      Turn uuid s (.transportConnect role dtls)
        (s.request uuid fun q => .transportConnectedNotification q role dtls)
  | produce {kind : MediaKind} {rtp : RtpParameters} (ht : s.sndTransport.isSome = true) :
      Turn uuid s (.produce kind rtp)
        (s.request uuid fun q => .createProducerRequest q kind rtp "userId")

theorem step_turn (he : s.step uuid e = some s') : Turn uuid s e s' := by
  cases e with
  | connect =>
      simp only [step] at he
      split at he
      · next hc => cases he; exact .connect hc
      · cases he
  | opened => cases he; exact .opened
  | tick =>
      simp only [step] at he
      split at he <;> cases he
      exact .tick
  | elapsed ms => cases he; exact .elapsed
  | message m =>
      simp only [step] at he
      split at he <;> cases he
      next hw => exact .message hw
  | continued =>
      simp only [step, continued] at he
      split at he
      · next hc => cases he; exact .server hc
      · next p hc =>
        split at he
        · next hp => cases he; exact .capabilities hc hp
        · next m hm hp => cases he; exact .incapable hc hp hm
        · cases he
      · next hc => cases he; exact .transports hc
      · next p hc =>
        obtain ⟨m, hp, rfl⟩ := Option.map_eq_some_iff.mp he
        exact .joined hc hp
      · cases he
  | loaded caps =>
      simp only [step] at he
      split at he
      · next hc => cases he; exact .loaded hc
      · cases he
  | transportCreated role =>
      simp only [step, transportCreated] at he
      split at he
      · next hc =>
        split at he
        · next hp => cases he; exact .transportCreated hc hp
        · next m hm hp => cases he; exact .transportFailed hc hp hm
        · cases he
      · cases he
  | consumed n =>
      simp only [step] at he
      split at he
      · next hn => cases he; exact .consumed hn
      · cases he
  | consumerClosed consumerId =>
      simp only [step] at he
      split at he <;> cases he
      exact .consumerClosed
  | transportConnect role dtls =>
      simp only [step] at he
      split at he <;> cases he
      next ht => exact .transportConnect ht
  | produce kind rtp =>
      simp only [step] at he
      split at he <;> cases he
      next ht => exact .produce ht

end Turns

end MediasoupService

end DemoApp.Webapp
