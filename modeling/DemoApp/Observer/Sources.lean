import DemoApp.Support.LiveMap
import DemoApp.Support.Script

/-!
# Observer — Sources

`sources/ObservedClients.ts` and its twin `sources/ObservedSfus.ts`: the websockets of the clients
(of the SFUs) and the sources of the observer that their samples are handed to.

* The twins are one machine, over a `Kind` that holds what they differ in.
* An observed client is a cell of `observed`: `entries` maps an id to one of these cells, and the
  listeners of a websocket keep the cell they were registered for.
* The observer, its sources and the decoder are not part of the repository.  Of a source stand
  what it was created with, whether it is closed, and the samples it was handed before and after
  that; the decoder is a parameter.
-/

namespace DemoApp.Observer

/-- The position of a websocket in the order of the connections. -/
abbrev SocketRef := Nat

/-- The position of an `ObservedClient` in the order of their construction. -/
abbrev ObservedRef := Nat

/-- The position of a source in the order of the calls of `createClientSource`. -/
abbrev SourceRef := Nat

/-- A value in the query string: a parameter that is given more than once is an array, and two
arrays are one key of a `Map` only if they are the same object `ref`. -/
inductive QueryValue where
  | text (s : String)
  | texts (ref : Nat) (values : List String)
  deriving DecidableEq

/-- A value that is neither missing nor the empty text. -/
def QueryValue.given (value : Option QueryValue) : Option QueryValue :=
  value.filter fun value => value ≠ .text ""

/-- What `url.parse` finds in the query string. -/
structure Query where
  clientId : Option QueryValue := none
  roomId : Option QueryValue := none
  callId : Option QueryValue := none
  sfuId : Option QueryValue := none
  serviceId : Option QueryValue := none
  mediaUnitId : Option QueryValue := none

/-- A source of the observer.  `closes` counts the calls of `source.close`, and `late` lists the
samples it was handed when it was closed. -/
structure Source (ι σ : Type) where
  info : ι
  closed : Bool := false
  closes : Nat := 0
  accepted : List σ := []
  late : List σ := []

/-- `source.accept`. -/
def Source.accept {ι σ : Type} (source : Source ι σ) (sample : σ) : Source ι σ :=
  if source.closed then { source with late := source.late ++ [sample] }
  else { source with accepted := source.accepted ++ [sample] }

/-- `source.close`. -/
def Source.close {ι σ : Type} (source : Source ι σ) : Source ι σ :=
  { source with closed := true, closes := source.closes + 1 }

/-- `ObservedClient`. -/
structure Observed (δ : Type) where
  id : QueryValue
  source : SourceRef
  decoder : δ
  disconnected : Option Nat := none
  webSocket : Option SocketRef := none

/-- `if (observedClient.disconnected)`. -/
def Observed.isDisconnected {δ : Type} (x : Observed δ) : Bool := truthyNumber x.disconnected

/-- A websocket: the close that was asked for if it was refused, else the cell its listeners are
registered for. -/
structure Socket where
  refused : Option CloseRequest := none
  observed : Option ObservedRef := none
  closed : Bool := false

/-- What the twins differ in: sources are created with a `ι`, and a decoder with the state `δ`
decodes to a `σ`, or throws. -/
structure Kind (ι δ σ : Type) where
  /-- the id and the arguments of `createClientSource`, if the mandatory fields are there -/
  observe : Query → Option (QueryValue × ι)
  refusal : CloseRequest
  newDecoder : δ
  decodeFromBase64 : δ → String → δ × Option σ
  /-- `_disconnect` forgets the websocket -/
  dropsSocket : Bool

/-- `ObservedClients`, `ObservedSfus`, with the clock. -/
structure Sources (ι δ σ : Type) where
  maxDisconnectingTimeInMs : Int
  now : Nat
  observed : List (Observed δ) := []
  entries : LiveMap QueryValue ObservedRef := .empty
  sources : List (Source ι σ) := []
  sockets : List Socket := []

namespace Sources

variable {ι δ σ : Type}

/-- `_setup`, for a new websocket. -/
def setup (s : Sources ι δ σ) (o : ObservedRef) : Sources ι δ σ :=
  { s with
    observed := s.observed.modify o fun x =>
      { x with webSocket := some s.sockets.length, disconnected := none }
    sockets := s.sockets ++ [{ observed := some o }] }

/-- `accept`. -/
def accept (kind : Kind ι δ σ) (s : Sources ι δ σ) (query : Query) : Sources ι δ σ :=
  match kind.observe query with
  | none            => { s with sockets := s.sockets ++ [{ refused := some kind.refusal }] }
  | some (id, info) =>
      match s.entries.get id with
      | some o => s.setup o
      | none   =>
          setup
            { s with
              sources := s.sources ++ [{ info }]
              observed := s.observed ++
                [{ id, source := s.sources.length, decoder := kind.newDecoder }]
              entries := s.entries.set id s.observed.length }
            s.observed.length

/-- `_disconnect`. -/
def disconnect (kind : Kind ι δ σ) (s : Sources ι δ σ) (id : QueryValue) : Sources ι δ σ :=
  match s.entries.get id with
  | none   => s
  | some o =>
      { s with
        observed := s.observed.modify o fun x =>
          if x.isDisconnected then x
          else
            { x with
              disconnected := some s.now
              webSocket := if kind.dropsSocket then none else x.webSocket } }

/-- `_remove`. -/
def remove (s : Sources ι δ σ) (id : QueryValue) : Sources ι δ σ :=
  match s.entries.get id with
  | none   => s
  | some o =>
      { s with
        entries := s.entries.delete id
        sources :=
          match s.observed[o]? with
          | some x =>
              s.sources.modify x.source fun source =>
                if source.closed then source else source.close
          | none   => s.sources }

/-- The client has been disconnected for longer than it may be. -/
def expired (s : Sources ι δ σ) (x : Observed δ) : Bool :=
  x.isDisconnected &&
    x.disconnected.any fun t => s.maxDisconnectingTimeInMs < (s.now : Int) - (t : Int)

/-- The body of the loop of `check`. -/
def expire (s : Sources ι δ σ) (o : ObservedRef) : Sources ι δ σ :=
  match s.observed[o]? with
  | some x => if s.expired x then s.remove x.id else s
  | none   => s

/-- `check`. -/
def check (s : Sources ι δ σ) : Sources ι δ σ := s.entries.values.foldl expire s

/-- `clear`. -/
def clear (kind : Kind ι δ σ) (s : Sources ι δ σ) : Sources ι δ σ :=
  { s.entries.keys.foldl (disconnect kind) s with entries := .empty }

/-- The `message` listener that was registered for the cell `o`. -/
def message (kind : Kind ι δ σ) (s : Sources ι δ σ) (o : ObservedRef) (data : String) :
    Sources ι δ σ :=
  match s.observed[o]? with
  | none   => s
  | some x =>
      let (decoder, sample) := kind.decodeFromBase64 x.decoder data
      { s with
        observed := s.observed.modify o fun x => { x with decoder }
        sources :=
          match sample with
          | some sample => s.sources.modify x.source fun source => source.accept sample
          | none        => s.sources }

/-- The `close` listener that was registered for the cell `o`. -/
def socketClosed (kind : Kind ι δ σ) (s : Sources ι δ σ) (o : ObservedRef) : Sources ι δ σ :=
  match s.observed[o]? with
  | none   => s
  | some x => s.disconnect kind x.id

inductive Event where
  | accept (query : Query)
  | message (w : SocketRef) (data : String)
  | socketClosed (w : SocketRef)
  | check
  | clear
  | elapsed (ms : Nat)

/-- A websocket emits `message` and `close` to its listeners, and nothing after `close`. -/
def step (kind : Kind ι δ σ) (s : Sources ι δ σ) : Event → Option (Sources ι δ σ)
  | .accept query => some (s.accept kind query)
  | .message w data =>
      match s.sockets[w]? with
      | some ⟨_, some o, false⟩ => some (s.message kind o data)
      | some ⟨_, none, false⟩   => some s
      | _ => none
  | .socketClosed w =>
      match s.sockets[w]? with
      | some ⟨refused, some o, false⟩ =>
          some (socketClosed kind { s with sockets := s.sockets.set w ⟨refused, some o, true⟩ } o)
      | some ⟨refused, none, false⟩   =>
          some { s with sockets := s.sockets.set w ⟨refused, none, true⟩ }
      | _ => none
  | .check => some s.check
  | .clear => some (s.clear kind)
  | .elapsed ms => some { s with now := s.now + ms }

/-- The constructor. -/
def new (maxDisconnectingTimeInMs : Int) (now : Nat) : Sources ι δ σ :=
  { maxDisconnectingTimeInMs, now }

end Sources

/-! ### The twins -/

section Twins

variable {δ σ : Type}

/-- What `createClientSource` is called with. -/
structure ClientSourceConfig where
  serviceId : Option QueryValue
  mediaUnitId : Option QueryValue
  callId : QueryValue
  clientId : QueryValue
  roomId : QueryValue
  deriving DecidableEq

def observedClients (newDecoder : δ) (decodeFromBase64 : δ → String → δ × Option σ) :
    Kind ClientSourceConfig δ σ where
  observe query := do
    let clientId ← QueryValue.given query.clientId
    let roomId ← QueryValue.given query.roomId
    let callId ← QueryValue.given query.callId
    some (clientId,
      ⟨query.serviceId, query.mediaUnitId, callId, clientId, roomId⟩)
  refusal := ⟨4001, "clientId, roomId, callId are mandatory fields in query string"⟩
  newDecoder
  decodeFromBase64
  dropsSocket := false

/-- What `createSfuSource` is called with. -/
structure SfuSourceConfig where
  serviceId : Option QueryValue
  mediaUnitId : Option QueryValue
  sfuId : QueryValue
  deriving DecidableEq

def observedSfus (newDecoder : δ) (decodeFromBase64 : δ → String → δ × Option σ) :
    Kind SfuSourceConfig δ σ where
  observe query := do
    let sfuId ← QueryValue.given query.sfuId
    some (sfuId, ⟨query.serviceId, query.mediaUnitId, sfuId⟩)
  refusal := ⟨4001, "sfuId, is mandatory field in query string"⟩
  newDecoder
  decodeFromBase64
  dropsSocket := true

end Twins

namespace Sources

/-- A sample that stands for itself. -/
def plain : Unit → String → Unit × Option String := fun _ data => ((), some data)

def someClient : Query := 
  { clientId := some (.text "u"), roomId := some (.text "a"), callId := some (.text "call-1") }

def someSfu : Query := { sfuId := some (.text "sfu-1") }

end Sources

end DemoApp.Observer
