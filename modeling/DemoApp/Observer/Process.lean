import DemoApp.Observer.Attribution
import DemoApp.Observer.Books

/-!
# Observer — Process

The observer as `main.ts` puts it together: the protocol of a websocket decides which store it is
handed to, and a text that a decoder throws on ends the process.

* Nothing calls `check` or `clear` of the stores.
* `Recorded`: both stores, as a function of the connections and messages so far.
* `sources_recorded`: at any time a store has one source for each client id (SFU id) that connected
  with its protocol, with the values of the first connection, which is open and accepted exactly
  what the messages of all connections under the id decode to, in the order of their arrival.
* `crashed_iff`: the process ends with the first text that the decoder of its id throws on.
-/

namespace DemoApp.Observer

/-- The decoders of the two kinds of samples, with the states they start in. -/
structure Decoders (δ σ δ' σ' : Type) where
  newClientSampleDecoder : δ
  decodeClientSample : δ → String → δ × Option σ
  newSfuSampleDecoder : δ'
  decodeSfuSample : δ' → String → δ' × Option σ'

/-- Where a websocket of the server was handed to, or the close that was asked for. -/
inductive Route where
  | client (w : SocketRef)
  | sfu (w : SocketRef)
  | unrecognized (refused : CloseRequest) (closed : Bool)

/-- The stores, and the websockets in the order of their connections. -/
structure Process (δ σ δ' σ' : Type) where
  observedClients : Sources ClientSourceConfig δ σ
  observedSfus : Sources SfuSourceConfig δ' σ'
  webSockets : List Route := []
  crashed : Bool := false

section

variable {δ σ δ' σ' : Type}

def Decoders.clients (d : Decoders δ σ δ' σ') : Kind ClientSourceConfig δ σ :=
  observedClients d.newClientSampleDecoder d.decodeClientSample

def Decoders.sfus (d : Decoders δ σ δ' σ') : Kind SfuSourceConfig δ' σ' :=
  observedSfus d.newSfuSampleDecoder d.decodeSfuSample

/-- The decoder of the websocket `w` throws on the text. -/
def Sources.throws {ι : Type} (kind : Kind ι δ σ) (s : Sources ι δ σ) (w : SocketRef)
    (data : String) : Bool :=
  match (s.sockets[w]?).bind Socket.observed with
  | some o => (s.observed[o]?).any fun x => (kind.decodeFromBase64 x.decoder data).2.isNone
  | none   => false

namespace Process
open Machine

/-- The listener of `websocket-connection`. -/
def connection (d : Decoders δ σ δ' σ') (s : Process δ σ δ' σ') (protocol : String)
    (query : Query) : Process δ σ δ' σ' :=
  if protocol = "client-sample" then
    { s with
      observedClients := s.observedClients.accept d.clients query
      webSockets := s.webSockets ++ [.client s.observedClients.sockets.length] }
  else if protocol = "sfu-sample" then
    { s with
      observedSfus := s.observedSfus.accept d.sfus query
      webSockets := s.webSockets ++ [.sfu s.observedSfus.sockets.length] }
  else
    { s with
      webSockets := s.webSockets ++
        [.unrecognized ⟨4001, "Unrecognized protocol " ++ protocol⟩ false] }

inductive Event where
  | connection (protocol : String) (query : Query)
  | message (n : Nat) (data : String)
  | closed (n : Nat)
  | elapsed (ms : Nat)

def step (d : Decoders δ σ δ' σ') (s : Process δ σ δ' σ') (e : Event) :
    Option (Process δ σ δ' σ') :=
  if s.crashed then none
  else
    match e with
    | .connection protocol query => some (s.connection d protocol query)
    | .message n data =>
        match s.webSockets[n]? with
        | some (.client w) =>
            (s.observedClients.step d.clients (.message w data)).map fun observedClients =>
              { s with observedClients, crashed := s.observedClients.throws d.clients w data }
        | some (.sfu w) =>
            (s.observedSfus.step d.sfus (.message w data)).map fun observedSfus =>
              { s with observedSfus, crashed := s.observedSfus.throws d.sfus w data }
        | some (.unrecognized _ false) => some s
        | _ => none
    | .closed n =>
        match s.webSockets[n]? with
        | some (.client w) =>
            (s.observedClients.step d.clients (.socketClosed w)).map fun observedClients =>
              { s with observedClients }
        | some (.sfu w) =>
            (s.observedSfus.step d.sfus (.socketClosed w)).map fun observedSfus =>
              { s with observedSfus }
        | some (.unrecognized refused false) =>
            some { s with webSockets := s.webSockets.set n (.unrecognized refused true) }
        | _ => none
    | .elapsed ms =>
        some { s with
          observedClients := { s.observedClients with now := s.observedClients.now + ms }
          observedSfus := { s.observedSfus with now := s.observedSfus.now + ms } }

/-- `main`, up to the listeners. -/
def new (now : Nat) : Process δ σ δ' σ' :=
  { observedClients := .new 5000 now, observedSfus := .new 5000 now }

/-! ### The history -/

/-- The connections, in the order of their websockets. -/
def connections (es : List Event) : List (String × Query) :=
  es.filterMap fun
    | .connection protocol query => some (protocol, query)
    | _ => none

/-- One of the stores: the protocol it is for, what its listeners do, and where it stands. -/
structure Door (δ σ δ' σ' ι τ ρ : Type) where
  protocol : String
  kind : Kind ι τ ρ
  store : Process δ σ δ' σ' → Sources ι τ ρ
  route : SocketRef → Route
  route_inj : ∀ {w w'}, route w = route w' → w = w'

def clientDoor (d : Decoders δ σ δ' σ') : Door δ σ δ' σ' ClientSourceConfig δ σ where
  protocol := "client-sample"
  kind := d.clients
  store := observedClients
  route := .client
  route_inj h := by cases h; rfl

def sfuDoor (d : Decoders δ σ δ' σ') : Door δ σ δ' σ' SfuSourceConfig δ' σ' where
  protocol := "sfu-sample"
  kind := d.sfus
  store := observedSfus
  route := .sfu
  route_inj h := by cases h; rfl

namespace Door

variable {ι τ ρ : Type}

/-- The id of a connection with the values it gives, if the store accepts it. -/
def observe (D : Door δ σ δ' σ' ι τ ρ) (connection : String × Query) : Option (QueryValue × ι) :=
  if connection.1 = D.protocol then D.kind.observe connection.2 else none

/-- The id that the messages of the websocket `n` come under. -/
def idAt (D : Door δ σ δ' σ' ι τ ρ) (es : List Event) (n : Nat) : Option QueryValue :=
  ((connections es)[n]?.bind D.observe).map Prod.fst

/-- The ids that connected, each with the values of its first connection. -/
def firsts (D : Door δ σ δ' σ' ι τ ρ) (es : List Event) : List (QueryValue × ι) :=
  firstValues ((connections es).filterMap D.observe)

/-- The messages under an id, in the order of their arrival. -/
def heard (D : Door δ σ δ' σ' ι τ ρ) (es : List Event) (id : QueryValue) : List String :=
  es.filterMap fun
    | .message n data => if D.idAt es n = some id then some data else none
    | _ => none

/-- The decoder of its id throws on the text that arrives on the websocket `n`. -/
def Undecodable (D : Door δ σ δ' σ' ι τ ρ) (es : List Event) (n : Nat) (data : String) : Prop :=
  ∃ id, D.idAt es n = some id ∧
    (D.kind.decodeFromBase64 (D.kind.decodeAll (D.heard es id)).1 data).2 = none

/-! ### What a step is for one store -/

/-- A connection for the store, a message or a close on one of its websockets, time, or something
that it does not notice. -/
inductive Seen (D : Door δ σ δ' σ' ι τ ρ) (s s' : Process δ σ δ' σ') : Event → Prop where
  | connected {query : Query} :
      D.store s' = (D.store s).accept D.kind query →
      s'.webSockets = s.webSockets ++ [D.route (D.store s).sockets.length] →
      Seen D s s' (.connection D.protocol query)
  | message {n : Nat} {w : SocketRef} {data : String} :
      s.webSockets[n]? = some (D.route w) →
      (D.store s).step D.kind (.message w data) = some (D.store s') →
      s'.webSockets = s.webSockets → Seen D s s' (.message n data)
  | closed {n : Nat} {w : SocketRef} :
      s.webSockets[n]? = some (D.route w) →
      (D.store s).step D.kind (.socketClosed w) = some (D.store s') →
      s'.webSockets = s.webSockets → Seen D s s' (.closed n)
  | elapsed {ms : Nat} :
      D.store s' = { D.store s with now := (D.store s).now + ms } →
      s'.webSockets = s.webSockets → Seen D s s' (.elapsed ms)
  | connectedElsewhere {protocol : String} {query : Query} {route : Route} :
      protocol ≠ D.protocol → (∀ w, route ≠ D.route w) → D.store s' = D.store s →
      s'.webSockets = s.webSockets ++ [route] → Seen D s s' (.connection protocol query)
  | messageElsewhere {n : Nat} {route : Route} {data : String} :
      s.webSockets[n]? = some route → (∀ w, route ≠ D.route w) → D.store s' = D.store s →
      s'.webSockets = s.webSockets → Seen D s s' (.message n data)
  | closedElsewhere {n : Nat} {route route' : Route} :
      s.webSockets[n]? = some route → (∀ w, route ≠ D.route w) → (∀ w, route' ≠ D.route w) →
      D.store s' = D.store s → s'.webSockets = s.webSockets.set n route' → Seen D s s' (.closed n)

end Door

variable {d : Decoders δ σ δ' σ'} {s s' : Process δ σ δ' σ'} {e : Event}

/-- A step is something for one store, and for the other something that it does not notice. -/
theorem seen_step (he : s.step d e = some s') :
    (clientDoor d).Seen s s' e ∧ (sfuDoor d).Seen s s' e := by
  unfold step at he
  split at he
  · cases he
  · cases e with
    | connection protocol query =>
        cases he
        rw [connection]
        split
        · next hp =>
            subst hp
            have hne : "client-sample" ≠ "sfu-sample" := by decide
            exact ⟨.connected rfl rfl, .connectedElsewhere hne (by intro w e; cases e) rfl rfl⟩
        · next hp =>
            split
            · next hs =>
                subst hs
                exact ⟨.connectedElsewhere hp (by intro w e; cases e) rfl rfl, .connected rfl rfl⟩
            · next hs =>
                exact ⟨.connectedElsewhere hp (by intro w e; cases e) rfl rfl,
                  .connectedElsewhere hs (by intro w e; cases e) rfl rfl⟩
    | message n data =>
        dsimp only at he
        split at he
        · next w hw =>
            obtain ⟨store, hstore, rfl⟩ := Option.map_eq_some_iff.mp he
            exact ⟨.message hw hstore rfl, .messageElsewhere hw (by intro w e; cases e) rfl rfl⟩
        · next w hw =>
            obtain ⟨store, hstore, rfl⟩ := Option.map_eq_some_iff.mp he
            exact ⟨.messageElsewhere hw (by intro w e; cases e) rfl rfl, .message hw hstore rfl⟩
        · next refused hw =>
            cases he
            exact ⟨.messageElsewhere hw (by intro w e; cases e) rfl rfl,
              .messageElsewhere hw (by intro w e; cases e) rfl rfl⟩
        · cases he
    | closed n =>
        dsimp only at he
        split at he
        · next w hw =>
            obtain ⟨store, hstore, rfl⟩ := Option.map_eq_some_iff.mp he
            exact ⟨.closed hw hstore rfl, .closedElsewhere hw (by intro w e; cases e)
              (by intro w e; cases e) rfl (Cells.set_of_some hw).symm⟩
        · next w hw =>
            obtain ⟨store, hstore, rfl⟩ := Option.map_eq_some_iff.mp he
            exact ⟨.closedElsewhere hw (by intro w e; cases e) (by intro w e; cases e) rfl
              (Cells.set_of_some hw).symm, .closed hw hstore rfl⟩
        · next refused hw =>
            cases he
            exact ⟨.closedElsewhere hw (by intro w e; cases e) (by intro w e; cases e) rfl rfl,
              .closedElsewhere hw (by intro w e; cases e) (by intro w e; cases e) rfl rfl⟩
        · cases he
    | elapsed ms => cases he; exact ⟨.elapsed rfl rfl, .elapsed rfl rfl⟩

theorem seen_clients (he : s.step d e = some s') : (clientDoor d).Seen s s' e := (seen_step he).1

theorem seen_sfus (he : s.step d e = some s') : (sfuDoor d).Seen s s' e := (seen_step he).2

/-! ### The history of a store -/

section History

variable {ι τ ρ : Type} {D : Door δ σ δ' σ' ι τ ρ} {es : List Event} {n : Nat}

theorem connections_snoc : connections (es ++ [e]) = connections es ++ connections [e] :=
  List.filterMap_append

theorem connections_snoc_of (he : ∀ protocol query, e ≠ .connection protocol query) :
    connections (es ++ [e]) = connections es := by
  rw [connections_snoc]
  cases e with
  | connection protocol query => exact absurd rfl (he protocol query)
  | message | closed | elapsed => exact List.append_nil _

theorem idAt_append {fs : List Event} (hn : n < (connections es).length) :
    D.idAt (es ++ fs) n = D.idAt es n := by
  have e : connections (es ++ fs) = connections es ++ connections fs := List.filterMap_append
  rw [Door.idAt, Door.idAt, e, List.getElem?_append_left hn]

theorem idAt_snoc_of (he : ∀ protocol query, e ≠ .connection protocol query) :
    D.idAt (es ++ [e]) n = D.idAt es n := by
  rw [Door.idAt, Door.idAt, connections_snoc_of he]

theorem idAt_connection {protocol : String} {query : Query} {id : QueryValue} :
    D.idAt (es ++ [.connection protocol query]) n = some id ↔ D.idAt es n = some id ∨
      n = (connections es).length ∧ (D.observe (protocol, query)).map Prod.fst = some id := by
  have e' : connections (es ++ [.connection protocol query]) =
      connections es ++ [(protocol, query)] := connections_snoc
  rw [Door.idAt, e']
  rcases Nat.lt_trichotomy n (connections es).length with hlt | rfl | hgt
  · rw [List.getElem?_append_left hlt, ← Door.idAt]
    simp [Nat.ne_of_lt hlt]
  · have hnone : D.idAt es (connections es).length = none := by
      simp [Door.idAt]
    rw [List.getElem?_concat_length, hnone]
    simp
  · have hnone : D.idAt es n = none := by
      rw [Door.idAt, List.getElem?_eq_none (Nat.le_of_lt hgt)]
      rfl
    rw [List.getElem?_eq_none (by simpa using Nat.succ_le_of_lt hgt), hnone]
    simp [Nat.ne_of_gt hgt]

/-- Both stores, after the events so far. -/
structure Recorded (D : Door δ σ δ' σ' ι τ ρ) (es : List Event) (s : Process δ σ δ' σ') :
    Prop where
  count : s.webSockets.length = (connections es).length
  spoken : ∀ {n data}, Event.message n data ∈ es → n < (connections es).length
  ours : ∀ {n : Nat} {w}, s.webSockets[n]? = some (D.route w) → ∃ query,
    (connections es)[n]? = some (D.protocol, query) ∧
      (D.store s).owners[w]? = some (D.kind.idOf query)
  theirs : ∀ {n : Nat} {route}, s.webSockets[n]? = some route → (∀ w, route ≠ D.route w) →
    ∃ protocol query, (connections es)[n]? = some (protocol, query) ∧ protocol ≠ D.protocol
  books : Sources.Books D.kind (D.store s) (D.firsts es) (D.heard es)

namespace Recorded

theorem idAt_ours (h : Recorded D es s) {w : SocketRef}
    (hn : s.webSockets[n]? = some (D.route w)) :
    (D.store s).owners[w]? = some (D.idAt es n) := by
  obtain ⟨query, hq, hw⟩ := h.ours hn
  rw [hw, Door.idAt, hq]
  simp [Door.observe, Kind.idOf]

theorem idAt_theirs (h : Recorded D es s) {route : Route} (hn : s.webSockets[n]? = some route)
    (hr : ∀ w, route ≠ D.route w) : D.idAt es n = none := by
  obtain ⟨protocol, query, hq, hp⟩ := h.theirs hn hr
  rw [Door.idAt, hq]
  simp [Door.observe, hp]

/-- What an event adds to the messages under an id. -/
theorem heard_snoc (h : Recorded D es s) (e : Event) (id : QueryValue) :
    D.heard (es ++ [e]) id = D.heard es id ++
      match e with
      | .message n data => if D.idAt (es ++ [e]) n = some id then [data] else []
      | _ => [] := by
  rw [Door.heard, List.filterMap_append]
  congr 1
  · refine List.filterMap_congr fun f hf => ?_
    cases f with
    | message n data => simp only [idAt_append (h.spoken hf)]
    | connection | closed | elapsed => rfl
  · cases e with
    | message n data =>
        by_cases hid : D.idAt (es ++ [.message n data]) n = some id <;> simp [hid]
    | connection | closed | elapsed => rfl

theorem heard_snoc_of (h : Recorded D es s) (he : ∀ n data, e ≠ .message n data) :
    D.heard (es ++ [e]) = D.heard es := by
  funext id
  rw [h.heard_snoc]
  cases e with
  | message n data => exact absurd rfl (he n data)
  | connection | closed | elapsed => exact List.append_nil _

theorem heard_message (h : Recorded D es s) {data : String} (hn : n < (connections es).length) :
    D.heard (es ++ [.message n data]) = match D.idAt es n with
      | some id => Function.update (D.heard es) id (D.heard es id ++ [data])
      | none    => D.heard es := by
  funext id
  rw [h.heard_snoc]
  dsimp only
  rw [idAt_append hn]
  cases hid : D.idAt es n with
  | none => exact List.append_nil _
  | some id' =>
      by_cases e : id = id'
      · subst e
        simp
      · simp [Function.update_of_ne e, Ne.symm e]

theorem spoken_snoc (h : Recorded D es s)
    (he : ∀ n data, e = .message n data → n < (connections es).length) {data : String}
    (hm : Event.message n data ∈ es ++ [e]) : n < (connections (es ++ [e])).length := by
  rw [connections_snoc, List.length_append]
  rcases List.mem_append.mp hm with hm | hm
  · exact Nat.lt_add_right _ (h.spoken hm)
  · exact Nat.lt_add_right _ (he n data (List.mem_singleton.mp hm).symm)

/-- What a message, a close and the clock leave alone. -/
theorem congr (h : Recorded D es s) (hc : ∀ protocol query, e ≠ .connection protocol query)
    (hm : ∀ n data, e = .message n data → n < (connections es).length)
    (hlen : s'.webSockets.length = s.webSockets.length)
    (hours : ∀ {n : Nat} {w}, s'.webSockets[n]? = some (D.route w) →
      s.webSockets[n]? = some (D.route w))
    (htheirs : ∀ {n : Nat} {route}, s'.webSockets[n]? = some route → (∀ w, route ≠ D.route w) →
      ∃ route', s.webSockets[n]? = some route' ∧ ∀ w, route' ≠ D.route w)
    (howners : (D.store s').owners = (D.store s).owners)
    (hbooks : Sources.Books D.kind (D.store s') (D.firsts es) (D.heard (es ++ [e]))) :
    Recorded D (es ++ [e]) s' := by
  have e' : connections (es ++ [e]) = connections es := connections_snoc_of hc
  constructor
  · rw [hlen, h.count, e']
  · exact h.spoken_snoc hm
  · intro n w hn
    rw [e', howners]
    exact h.ours (hours hn)
  · intro n route hn hr
    obtain ⟨route', hn', hr'⟩ := htheirs hn hr
    rw [e']
    exact h.theirs hn' hr'
  · rw [Door.firsts, e']
    exact hbooks

/-- A websocket connects. -/
theorem connect (h : Recorded D es s) {protocol : String} {query : Query} {route : Route}
    (hsockets : s'.webSockets = s.webSockets ++ [route])
    (hours : ∀ w, route = D.route w → protocol = D.protocol ∧
      (D.store s').owners[w]? = some (D.kind.idOf query))
    (htheirs : (∀ w, route ≠ D.route w) → protocol ≠ D.protocol)
    (howners : ∃ more, (D.store s').owners = (D.store s).owners ++ more)
    (hbooks : Sources.Books D.kind (D.store s') (D.firsts (es ++ [.connection protocol query]))
      (D.heard es)) :
    Recorded D (es ++ [.connection protocol query]) s' := by
  have e' : connections (es ++ [.connection protocol query]) =
      connections es ++ [(protocol, query)] := connections_snoc
  constructor
  · rw [hsockets, e', List.length_append, List.length_append, h.count]
    rfl
  · exact h.spoken_snoc fun _ _ e => by cases e
  · intro n w hn
    rw [hsockets] at hn
    rw [e']
    rcases Cells.concat_eq_some.mp hn with hn | ⟨rfl, hw⟩
    · obtain ⟨query', hq, hw⟩ := h.ours hn
      obtain ⟨more, hmore⟩ := howners
      exact ⟨query', Cells.append_of_some hq, by rw [hmore]; exact Cells.append_of_some hw⟩
    · obtain ⟨rfl, hw⟩ := hours w hw.symm
      exact ⟨query, by rw [h.count]; exact List.getElem?_concat_length, hw⟩
  · intro n route' hn hr
    rw [hsockets] at hn
    rw [e']
    rcases Cells.concat_eq_some.mp hn with hn | ⟨rfl, rfl⟩
    · obtain ⟨protocol', query', hq, hp⟩ := h.theirs hn hr
      exact ⟨protocol', query', Cells.append_of_some hq, hp⟩
    · exact ⟨protocol, query, by rw [h.count]; exact List.getElem?_concat_length, htheirs hr⟩
  · rw [h.heard_snoc_of fun _ _ e => by cases e]
    exact hbooks

theorem firsts_connection (D : Door δ σ δ' σ' ι τ ρ) (es : List Event) (protocol : String)
    (query : Query) :
    D.firsts (es ++ [.connection protocol query]) =
      firstValues
        ((connections es).filterMap D.observe ++ (D.observe (protocol, query)).toList) := by
  have e' : connections (es ++ [.connection protocol query]) =
      connections es ++ [(protocol, query)] := connections_snoc
  rw [Door.firsts, e', List.filterMap_append]
  cases h : D.observe (protocol, query) <;> simp [h]

/-- What was heard came under the id of a connection. -/
theorem heard_eq_nil {id : QueryValue}
    (hid : id ∉ (D.firsts es).map Prod.fst) : D.heard es id = [] := by
  refine List.filterMap_eq_nil_iff.mpr fun f hf => ?_
  cases f with
  | message n data =>
      refine if_neg fun hn => hid (mem_firstValues.mpr ?_)
      obtain ⟨x, hx, rfl⟩ := Option.map_eq_some_iff.mp hn
      obtain ⟨connection, hc, hx⟩ := Option.bind_eq_some_iff.mp hx
      exact List.mem_map.mpr
        ⟨x, List.mem_filterMap.mpr ⟨connection, List.mem_of_getElem? hc, hx⟩, rfl⟩
  | connection | closed | elapsed => rfl

/-- A websocket connects for this store. -/
theorem connect_ours (h : Recorded D es s) {query : Query}
    (hstore : D.store s' = (D.store s).accept D.kind query) :
    Sources.Books D.kind (D.store s') (D.firsts (es ++ [.connection D.protocol query]))
      (D.heard es) := by
  have hobserve : D.observe (D.protocol, query) = D.kind.observe query := if_pos rfl
  rw [hstore, firsts_connection, hobserve]
  cases hq : D.kind.observe query with
  | none =>
      rw [Option.toList_none, List.append_nil]
      exact h.books.refuse hq
  | some x =>
      obtain ⟨id, info⟩ := x
      by_cases hid : id ∈ (D.firsts es).map Prod.fst
      · rw [Option.toList_some, firstValues_snoc_of_mem hid]
        exact h.books.again hq hid
      · rw [Option.toList_some, firstValues_snoc_of_not_mem hid]
        exact h.books.first hq hid (heard_eq_nil hid)

/-- The socket of a websocket of the store is the one of its id. -/
theorem socket_ours (h : Recorded D es s) {w : SocketRef}
    (hn : s.webSockets[n]? = some (D.route w)) :
    ∃ so, (D.store s).sockets[w]? = some so ∧ (D.store s).ownerOf so = D.idAt es n := by
  have howner := h.idAt_ours hn
  rw [Sources.owners, List.getElem?_map] at howner
  exact Option.map_eq_some_iff.mp howner

/-- A message arrives on a websocket of this store. -/
theorem message_ours (h : Recorded D es s) {w : SocketRef} {data : String}
    (hn : s.webSockets[n]? = some (D.route w))
    (hstore : (D.store s).step D.kind (.message w data) = some (D.store s')) :
    Sources.Books D.kind (D.store s') (D.firsts es) (D.heard (es ++ [.message n data])) := by
  rw [h.heard_message (h.count ▸ Cells.lt_of_some hn)]
  obtain ⟨so, hso, howner⟩ := h.socket_ours hn
  cases ho : so.observed with
  | none =>
      rw [← howner, Sources.ownerOf, ho, Option.bind_none]
      exact h.books.unheard hstore hso ho
  | some o =>
      obtain ⟨x, hx⟩ : ∃ x, (D.store s).observed[o]? = some x :=
        ⟨_, List.getElem?_eq_getElem (h.books.stored.socket hso ho)⟩
      rw [← howner, Sources.ownerOf, ho, Option.bind_some, hx, Option.map_some]
      exact h.books.hear hstore hso ho hx

/-- **A step keeps the books.** -/
theorem step (h : Recorded D es s) (he : D.Seen s s' e) : Recorded D (es ++ [e]) s' := by
  cases he with
  | @connected query hstore hsockets =>
      have howners : (D.store s').owners = (D.store s).owners ++ [D.kind.idOf query] := by
        rw [hstore]
        exact Sources.owners_accept h.books.stored query
      refine h.connect hsockets (fun w hw => ⟨rfl, ?_⟩) (fun hr => absurd rfl (hr _))
        ⟨_, howners⟩ (h.connect_ours hstore)
      have hlen : (D.store s).owners.length = w := by
        rw [Sources.owners, List.length_map]
        exact D.route_inj hw
      rw [howners, ← hlen]
      exact List.getElem?_concat_length
  | @message n w data hn hstore hsockets =>
      refine h.congr (fun _ _ e => by cases e) (fun n' data' e => ?_) (by rw [hsockets])
        (fun hn => hsockets ▸ hn) (fun hn hr => ⟨_, hsockets ▸ hn, hr⟩)
        (Sources.owners_step hstore (.inl ⟨_, _, rfl⟩)) (h.message_ours hn hstore)
      cases e
      exact h.count ▸ Cells.lt_of_some hn
  | @closed n w hn hstore hsockets =>
      refine h.congr (fun _ _ e => by cases e) (fun _ _ e => by cases e) (by rw [hsockets])
        (fun hn => hsockets ▸ hn) (fun hn hr => ⟨_, hsockets ▸ hn, hr⟩)
        (Sources.owners_step hstore (.inr ⟨_, rfl⟩)) ?_
      rw [h.heard_snoc_of fun _ _ e => by cases e]
      exact h.books.disconnect hstore
  | elapsed hstore hsockets =>
      refine h.congr (fun _ _ e => by cases e) (fun _ _ e => by cases e) (by rw [hsockets])
        (fun hn => hsockets ▸ hn) (fun hn hr => ⟨_, hsockets ▸ hn, hr⟩) (by rw [hstore]; rfl) ?_
      rw [h.heard_snoc_of (fun _ _ e => by cases e), hstore]
      exact h.books.elapse _
  | @connectedElsewhere protocol query route hp hr hstore hsockets =>
      refine h.connect hsockets (fun w hw => absurd hw (hr w)) (fun _ => hp)
        ⟨[], by rw [hstore, List.append_nil]⟩ ?_
      rw [firsts_connection, hstore, Door.observe, if_neg hp, Option.toList_none, List.append_nil]
      exact h.books
  | @messageElsewhere n route data hn hr hstore hsockets =>
      have hlt := h.count ▸ Cells.lt_of_some hn
      refine h.congr (fun _ _ e => by cases e) (fun n' data' e => by cases e; exact hlt)
        (by rw [hsockets]) (fun hn => hsockets ▸ hn) (fun hn hr => ⟨_, hsockets ▸ hn, hr⟩)
        (by rw [hstore]) ?_
      rw [h.heard_message hlt, h.idAt_theirs hn hr, hstore]
      exact h.books
  | @closedElsewhere n route route' hn hr hr' hstore hsockets =>
      refine h.congr (fun _ _ e => by cases e) (fun _ _ e => by cases e)
        (by rw [hsockets, List.length_set]) (fun hn' => ?_) (fun hn' hr'' => ?_)
        (by rw [hstore]) ?_
      · rw [hsockets] at hn'
        rcases Cells.set_eq_some.mp hn' with ⟨-, -, e⟩ | ⟨-, hn'⟩
        · exact absurd e.symm (hr' _)
        · exact hn'
      · rw [hsockets] at hn'
        rcases Cells.set_eq_some.mp hn' with ⟨rfl, -, -⟩ | ⟨-, hn'⟩
        · exact ⟨route, hn, hr⟩
        · exact ⟨_, hn', hr''⟩
      · rw [h.heard_snoc_of (fun _ _ e => by cases e), hstore]
        exact h.books

theorem throws_iff (h : Recorded D es s) {w : SocketRef} {data : String}
    (hn : s.webSockets[n]? = some (D.route w)) :
    (D.store s).throws D.kind w data = true ↔ D.Undecodable es n data := by
  obtain ⟨so, hso, howner⟩ := h.socket_ours hn
  rw [Sources.throws, hso, Option.bind_some, Door.Undecodable, ← howner, Sources.ownerOf]
  cases ho : so.observed with
  | none => simp
  | some o =>
      obtain ⟨x, hx⟩ : ∃ x, (D.store s).observed[o]? = some x :=
        ⟨_, List.getElem?_eq_getElem (h.books.stored.socket hso ho)⟩
      simp [hx, h.books.decoder hx]

theorem not_undecodable (h : Recorded D es s) {route : Route}
    (hn : s.webSockets[n]? = some route) (hr : ∀ w, route ≠ D.route w) (data : String) :
    ¬D.Undecodable es n data := by
  rintro ⟨id, hid, -⟩
  cases (h.idAt_theirs hn hr).symm.trans hid

end Recorded

/-- **Every run keeps the books.** -/
theorem recorded_of_run {now : Nat}
    (hseen : ∀ {s s' : Process δ σ δ' σ'} {e}, s.step d e = some s' → D.Seen s s' e)
    (hnew : D.store (.new now) = .new 5000 now) (hx : exec (step d) (.new now) es = some s) :
    Recorded D es s := by
  refine exec_history ⟨rfl, ?_, ?_, ?_, ?_⟩ (fun es s e s' _ h he => h.step (hseen he)) hx
  · intro n data hm
    cases hm
  · intro n w hn
    cases hn
  · intro n route hn
    cases hn
  · rw [hnew]
    exact .new D.kind 5000 now

end History

section Runs

variable {now : Nat} {es : List Event}

theorem recorded_clients (hx : exec (step d) (.new now) es = some s) :
    Recorded (clientDoor d) es s :=
  recorded_of_run seen_clients rfl hx

theorem recorded_sfus (hx : exec (step d) (.new now) es = some s) : Recorded (sfuDoor d) es s :=
  recorded_of_run seen_sfus rfl hx

/-- **What the observer holds**, in every run: for each id that connected with the protocol of a
store, one source with the values of its first connection.  It is open, it was never closed, and
it accepted what all the messages under the id decode to, one after the other. -/
theorem sources_recorded (hx : exec (step d) (.new now) es = some s) :
    s.observedClients.sources =
        ((clientDoor d).firsts es).map (d.clients.record ((clientDoor d).heard es)) ∧
      s.observedSfus.sources =
        ((sfuDoor d).firsts es).map (d.sfus.record ((sfuDoor d).heard es)) :=
  ⟨(recorded_clients hx).books.sources, (recorded_sfus hx).books.sources⟩

/-- The texts that end the observer. -/
theorem crashed_step (hclients : Recorded (clientDoor d) es s) (hsfus : Recorded (sfuDoor d) es s)
    (he : s.step d e = some s') :
    s'.crashed = true ↔ ∃ n data, e = .message n data ∧
      ((clientDoor d).Undecodable es n data ∨ (sfuDoor d).Undecodable es n data) := by
  unfold step at he
  split at he
  · cases he
  · next hcrash =>
      have hcrash : s.crashed = false := by simpa using hcrash
      cases e with
      | connection protocol query =>
          cases he
          have hsame : (s.connection d protocol query).crashed = s.crashed := by
            rw [connection]
            split
            · rfl
            · split <;> rfl
          simp [hsame, hcrash]
      | message n data =>
          dsimp only at he
          split at he
          · next w hw =>
              obtain ⟨store, hstore, rfl⟩ := Option.map_eq_some_iff.mp he
              have hno := hsfus.not_undecodable hw (by intro w e; cases e) data
              have hthrows : s.observedClients.throws d.clients w data = true ↔
                (clientDoor d).Undecodable es n data := hclients.throws_iff hw
              simp [hno, hthrows]
          · next w hw =>
              obtain ⟨store, hstore, rfl⟩ := Option.map_eq_some_iff.mp he
              have hno := hclients.not_undecodable hw (by intro w e; cases e) data
              have hthrows : s.observedSfus.throws d.sfus w data = true ↔
                (sfuDoor d).Undecodable es n data := hsfus.throws_iff hw
              simp [hno, hthrows]
          · next refused hw =>
              cases he
              have hno := hclients.not_undecodable hw (by intro w e; cases e) data
              have hno' := hsfus.not_undecodable hw (by intro w e; cases e) data
              simp [hno, hno', hcrash]
          · cases he
      | closed n =>
          dsimp only at he
          split at he
          · obtain ⟨store, hstore, rfl⟩ := Option.map_eq_some_iff.mp he
            simp [hcrash]
          · obtain ⟨store, hstore, rfl⟩ := Option.map_eq_some_iff.mp he
            simp [hcrash]
          · cases he
            simp [hcrash]
          · cases he
      | elapsed ms =>
          cases he
          simp [hcrash]

end Runs

/-- Samples that stand for themselves; the empty text is none. -/
def plainDecoders : Decoders Unit String Unit String where
  newClientSampleDecoder := ()
  decodeClientSample _ data := ((), if data = "" then none else some data)
  newSfuSampleDecoder := ()
  decodeSfuSample _ data := ((), if data = "" then none else some data)

/-- A client comes back long after its websocket closed, for another call, beside an SFU with the
id of the client and a websocket with another protocol. -/
def twoDoors : List Event :=
  [.connection "client-sample" Sources.someClient, .connection "sfu-sample" Sources.someSfu,
    .connection "chat" Sources.someClient, .message 0 "a", .message 2 "b", .message 1 "c",
    .closed 0, .elapsed 60000, .connection "client-sample" Sources.anotherCall, .message 3 "d",
    .closed 2]

theorem sources_recorded_twoDoors :
    ∃ s, exec (step plainDecoders) (.new 1) twoDoors = some s ∧
      s.observedClients.sources = [{
        info := ⟨none, none, .text "call-1", .text "u", .text "a"⟩, accepted := ["a", "d"] }] ∧
      s.observedClients.sources = ((clientDoor plainDecoders).firsts twoDoors).map
        (plainDecoders.clients.record ((clientDoor plainDecoders).heard twoDoors)) := by
  obtain ⟨s, hx, hs⟩ : ∃ s, exec (step plainDecoders) (.new 1) twoDoors = some s ∧
      s.observedClients.sources = [{
        info := ⟨none, none, .text "call-1", .text "u", .text "a"⟩, accepted := ["a", "d"] }] :=
    ⟨_, rfl, rfl⟩
  exact ⟨s, hx, hs, (sources_recorded hx).1⟩

end Process

end

end DemoApp.Observer
