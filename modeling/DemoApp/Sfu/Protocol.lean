/-!
# Sfu — Protocol

The messages of `media/MessageProtocol.ts` that a room receives and sends.  Identifiers a peer
chooses are strings; identifiers mediasoup allots are the positions of the objects in the order
of their creation, so that a new object has a fresh one.  The parameters that mediasoup produces
and nobody here reads (RTP, ICE, DTLS) are carried as their texts.
-/

namespace DemoApp.Sfu

abbrev ClientId := String
abbrev UserId := String
abbrev RoomId := String
abbrev CallId := String
abbrev RequestId := String
abbrev RtpCapabilities := String
abbrev RtpParameters := String
abbrev DtlsParameters := String

abbrev TransportId := Nat
abbrev ProducerId := Nat
abbrev ConsumerId := Nat

inductive MediaKind where
  | audio
  | video
  deriving DecidableEq, Repr

/-- The two transports of a client. -/
inductive Role where
  | producing
  | consuming
  deriving DecidableEq, Repr

/-- What `createWebRtcTransport` answers with, beside the id. -/
structure TransportInfo where
  iceParameters : String
  iceCandidates : List String
  dtlsParameters : DtlsParameters
  deriving DecidableEq, Repr

/-- What a client sends. -/
inductive ClientMessage where
  | getRouterCapabilitiesRequest (requestId : RequestId)
  | clientRtpCapabilities (rtpCapabilities : RtpCapabilities)
  | createTransportRequest (requestId : RequestId) (role : Role)
  | joinCallRequest (requestId : RequestId)
  | transportConnectedNotification (requestId : RequestId) (role : Role)
      (dtlsParameters : DtlsParameters)
  | createProducerRequest (requestId : RequestId) (kind : MediaKind)
      (rtpParameters : RtpParameters) (userId : UserId)
  | pauseProducerRequest (requestId : RequestId) (producerId : ProducerId)
  | resumeProducerRequest (requestId : RequestId) (producerId : ProducerId)
  | getClientStatsRequest (requestId : RequestId) (remoteClientId : ClientId)
  deriving DecidableEq, Repr

/-- The claims and the secret of the token `jwt.sign` makes for the observer. -/
structure ObserverAccessToken where
  roomId : RoomId
  clientId : ClientId
  callId : CallId
  expires : Nat
  secret : String
  deriving DecidableEq, Repr

/-- `remoteClient` of a `ConsumerCreatedNotification`. -/
structure RemoteClient where
  userId : UserId
  clientId : ClientId
  deriving DecidableEq, Repr

/-- What the room sends. -/
inductive ServerMessage where
  | getRouterCapabilitiesResponse (requestId : RequestId) (rtpCapabilities : RtpCapabilities)
  | createTransportResponse (requestId : RequestId) (id : TransportId) (info : TransportInfo)
  | joinCallResponse (requestId : RequestId) (callId : CallId)
      (observerAccessToken : ObserverAccessToken)
  | createProducerResponse (requestId : RequestId) (producerId : ProducerId)
  | pauseProducerResponse (requestId : RequestId)
  | consumerCreatedNotification (consumerId : ConsumerId) (remoteProducerId : ProducerId)
      (kind : MediaKind) (rtpParameters : RtpParameters) (remoteClient : RemoteClient)
  | consumerClosedNotification (consumerId : ConsumerId)
  deriving DecidableEq, Repr

end DemoApp.Sfu
