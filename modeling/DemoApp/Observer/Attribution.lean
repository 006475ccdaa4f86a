import DemoApp.Observer.Store

/-!
# Observer — Attribution

Whose samples are they?  A source is created with the values of one connection, and is handed the
samples of every connection that finds it stored under its client id.

* `Attributed`: the websockets stand in the order of the connections, and each hands its samples
  to a source with the values of its own connection or, if its client was stored when it
  connected, of an earlier one with the same client id.
* `samples_attributed`: the same, read at a message.
* `wrong_call`: a client that comes back with another call is recorded under the old one.
-/

namespace DemoApp.Observer

namespace Sources
open Machine

variable {ι δ σ : Type} {kind : Kind ι δ σ} {s₀ s s' : Sources ι δ σ} {es : List Event}
variable {e : Event} {w : SocketRef} {id : QueryValue} {info : ι}

/-- The query of a connection. -/
def Event.query : Event → Option Query
  | .accept query => some query
  | _             => none

/-- The queries of the connections, in the order of their websockets. -/
def connections (es : List Event) : List Query := es.filterMap Event.query

/-- The connection `w` is one of the client `id`, with the values `info`. -/
def Gives (kind : Kind ι δ σ) (es : List Event) (w : SocketRef) (id : QueryValue)
    (info : ι) : Prop :=
  ∃ query, (connections es)[w]? = some query ∧ kind.observe query = some (id, info)

/-- When `w` connected, its client `id` was stored. -/
def FoundStored (kind : Kind ι δ σ) (s₀ : Sources ι δ σ) (es : List Event) (w : SocketRef)
    (id : QueryValue) : Prop :=
  ∃ earlier query later s o, es = earlier ++ .accept query :: later ∧
    (connections earlier).length = w ∧ exec (step kind) s₀ earlier = some s ∧
    s.entries.get id = some o

/-- A source of `w` may have the values `info`: they are those of `w`, or `w` found its client
stored and they are those of an earlier connection of that client. -/
def Fits (kind : Kind ι δ σ) (s₀ : Sources ι δ σ) (es : List Event) (w : SocketRef)
    (info : ι) : Prop :=
  ∃ id own, Gives kind es w id own ∧
    (own = info ∨ FoundStored kind s₀ es w id ∧ ∃ w₀ < w, Gives kind es w₀ id info)

/-! ### The invariant -/

structure Attributed (kind : Kind ι δ σ) (s₀ : Sources ι δ σ) (es : List Event)
    (s : Sources ι δ σ) : Prop where
  count : s.sockets.length = (connections es).length
  made : ∀ {o : Nat} {x source}, s.observed[o]? = some x → s.sources[o]? = some source →
    ∃ w, Gives kind es w x.id source.info
  heard : ∀ {w : Nat} {so o source}, s.sockets[w]? = some so → so.observed = some o →
    s.sources[o]? = some source → Fits kind s₀ es w source.info
  refused : ∀ {w : Nat} {so}, s.sockets[w]? = some so → so.observed = none →
    ∃ query, (connections es)[w]? = some query ∧ kind.observe query = none

theorem connections_concat : connections (es ++ [e]) = connections es ++ e.query.toList := by
  cases e <;> simp [connections, Event.query]

theorem Gives.concat (h : Gives kind es w id info) (e : Event) :
    Gives kind (es ++ [e]) w id info := by
  obtain ⟨query, hw, hq⟩ := h
  exact ⟨query, by rw [connections_concat]; exact Cells.append_of_some hw, hq⟩

theorem FoundStored.concat (h : FoundStored kind s₀ es w id) (e : Event) :
    FoundStored kind s₀ (es ++ [e]) w id := by
  obtain ⟨earlier, query, later, s, o, rfl, hrest⟩ := h
  exact ⟨earlier, query, later ++ [e], s, o, by simp, hrest⟩

theorem Fits.concat (h : Fits kind s₀ es w info) (e : Event) : Fits kind s₀ (es ++ [e]) w info := by
  obtain ⟨id, own, hown, hinfo⟩ := h
  exact ⟨id, own, hown.concat e, hinfo.imp_right fun ⟨hfound, w₀, hlt, h₀⟩ =>
    ⟨hfound.concat e, w₀, hlt, h₀.concat e⟩⟩

namespace Attributed

/-- No websocket connects, and what the cells and the sources were made with stays. -/
theorem congr (h : Attributed kind s₀ es s) (he : e.query = none)
    (hk : s'.observed.map Observed.key = s.observed.map Observed.key)
    (hi : s'.sources.map Source.info = s.sources.map Source.info)
    (hs : s'.sockets.map Socket.observed = s.sockets.map Socket.observed) :
    Attributed kind s₀ (es ++ [e]) s' := by
  have hc : connections (es ++ [e]) = connections es := by simp [connections_concat, he]
  constructor
  · rw [hc, ← h.count]
    simpa using congrArg List.length hs
  · intro o x source hx hsource
    obtain ⟨y, hy, ek⟩ := Cells.some_of_map hk.symm hx
    obtain ⟨source', hsource', ei⟩ := Cells.some_of_map hi.symm hsource
    obtain ⟨w, hw⟩ := h.made hy hsource'
    have hid : y.id = x.id := congrArg Prod.fst ek
    rw [← ei, ← hid]
    exact ⟨w, hw.concat e⟩
  · intro w so o source hw ho hsource
    obtain ⟨so', hw', es⟩ := Cells.some_of_map hs.symm hw
    obtain ⟨source', hsource', ei⟩ := Cells.some_of_map hi.symm hsource
    rw [← ei]
    exact (h.heard hw' (es.trans ho) hsource').concat e
  · intro w so hw ho
    obtain ⟨so', hw', es⟩ := Cells.some_of_map hs.symm hw
    rw [hc]
    exact h.refused hw' (es.trans ho)

/-- A websocket connects, and is refused. -/
theorem refuse (h : Attributed kind s₀ es s) {query : Query} (hq : kind.observe query = none)
    {so : Socket} (hso : so.observed = none) :
    Attributed kind s₀ (es ++ [.accept query]) { s with sockets := s.sockets ++ [so] } := by
  have hc : connections (es ++ [.accept query]) = connections es ++ [query] := connections_concat
  constructor
  · rw [hc, List.length_append, List.length_append, h.count]
    rfl
  · intro o x source hx hsource
    obtain ⟨w, hw⟩ := h.made hx hsource
    exact ⟨w, hw.concat _⟩
  · intro w so' o source hw ho hsource
    rcases Cells.concat_eq_some.mp hw with hw | ⟨-, rfl⟩
    · exact (h.heard hw ho hsource).concat _
    · cases hso.symm.trans ho
  · intro w so' hw ho
    rw [hc]
    rcases Cells.concat_eq_some.mp hw with hw | ⟨rfl, -⟩
    · obtain ⟨query', hw', hq'⟩ := h.refused hw ho
      exact ⟨query', Cells.append_of_some hw', hq'⟩
    · exact ⟨query, by rw [h.count]; exact List.getElem?_concat_length, hq⟩

/-- The websockets that were refused, when another connects that is not. -/
theorem refused_concat (h : Attributed kind s₀ es s) {query : Query} {w : Nat} {so so' : Socket}
    (hnew : so'.observed ≠ none) (hw : (s.sockets ++ [so'])[w]? = some so)
    (hso : so.observed = none) :
    ∃ query', (connections (es ++ [.accept query]))[w]? = some query' ∧
      kind.observe query' = none := by
  rcases Cells.concat_eq_some.mp hw with hw | ⟨-, rfl⟩
  · obtain ⟨query', hw', hq'⟩ := h.refused hw hso
    exact ⟨query', by rw [connections_concat]; exact Cells.append_of_some hw', hq'⟩
  · exact absurd hso hnew

/-- A websocket of a stored client connects. -/
theorem again (h : Attributed kind s₀ es s) (hs : s.Stored) (hx : exec (step kind) s₀ es = some s)
    {query : Query} {o : ObservedRef} (hq : kind.observe query = some (id, info))
    (ho : s.entries.get id = some o) :
    Attributed kind s₀ (es ++ [.accept query]) (s.setup o) := by
  have hc : connections (es ++ [.accept query]) = connections es ++ [query] := connections_concat
  have hk : (s.setup o).observed.map Observed.key = s.observed.map Observed.key :=
    Cells.map_modify (fun _ => by rfl) _ _
  have hown : Gives kind (es ++ [.accept query]) s.sockets.length id info :=
    ⟨query, by rw [hc, h.count]; exact List.getElem?_concat_length, hq⟩
  constructor
  · rw [hc, List.length_append, ← h.count]
    exact List.length_append
  · intro q x source hx hsource
    obtain ⟨y, hy, ek⟩ := Cells.some_of_map hk.symm hx
    have hid : y.id = x.id := congrArg Prod.fst ek
    obtain ⟨w, hw⟩ := h.made hy hsource
    exact ⟨w, hid ▸ hw.concat _⟩
  · intro w so q source hw hq hsource
    rcases Cells.concat_eq_some.mp hw with hw | ⟨rfl, rfl⟩
    · exact (h.heard hw hq hsource).concat _
    · -- its source was made for an earlier one
      cases hq
      obtain ⟨x, hcell, rfl⟩ := hs.entry ho
      obtain ⟨w₀, query₀, hw₀, hq₀⟩ := h.made hcell hsource
      refine ⟨x.id, info, hown, .inr ⟨⟨es, query, [], s, o, by simp, h.count.symm, hx, ho⟩, w₀, ?_,
        query₀, by rw [hc]; exact Cells.append_of_some hw₀, hq₀⟩⟩
      rw [h.count]
      exact Cells.lt_of_some hw₀
  · intro w so hw hso
    exact h.refused_concat (by simp) hw hso

/-- The first websocket of a client connects. -/
theorem first (h : Attributed kind s₀ es s) (hs : s.Stored) {query : Query}
    (hq : kind.observe query = some (id, info)) :
    Attributed kind s₀ (es ++ [.accept query])
      ((s.create kind id info).setup s.observed.length) := by
  have hc : connections (es ++ [.accept query]) = connections es ++ [query] := connections_concat
  have hk : ((s.create kind id info).setup s.observed.length).observed.map Observed.key =
      (s.create kind id info).observed.map Observed.key := Cells.map_modify (fun _ => by rfl) _ _
  have hown : Gives kind (es ++ [.accept query]) s.sockets.length id info :=
    ⟨query, by rw [hc, h.count]; exact List.getElem?_concat_length, hq⟩
  have hlen := hs.paired
  constructor
  · rw [hc, List.length_append, ← h.count]
    exact List.length_append
  · intro o x source hx hsource
    obtain ⟨y, hy, ek⟩ := Cells.some_of_map hk.symm hx
    have hid : y.id = x.id := congrArg Prod.fst ek
    rw [← hid]
    rcases Cells.concat_eq_some.mp hsource with hsource | ⟨rfl, rfl⟩ <;>
      rcases Cells.concat_eq_some.mp hy with hy | ⟨e, rfl⟩
    · obtain ⟨w, hw⟩ := h.made hy hsource
      exact ⟨w, hw.concat _⟩
    · exact absurd (Cells.lt_of_some hsource) (by omega)
    · exact absurd (Cells.lt_of_some hy) (by omega)
    · exact ⟨s.sockets.length, hown⟩
  · intro w so o source hw ho hsource
    rcases Cells.concat_eq_some.mp hw with hw | ⟨rfl, rfl⟩ <;>
      rcases Cells.concat_eq_some.mp hsource with hsource | ⟨e, rfl⟩
    · exact (h.heard hw ho hsource).concat _
    · have hlt := hs.socket hw ho
      exact absurd (e ▸ hlt) (hlen ▸ Nat.lt_irrefl _)
    · cases ho
      exact absurd (Cells.lt_of_some hsource) (by omega)
    · exact ⟨id, info, hown, .inl rfl⟩
  · intro w so hw hso
    exact h.refused_concat (by simp) hw hso

theorem step (h : Attributed kind s₀ es s) (hs : s.Stored)
    (hx : exec (Sources.step kind) s₀ es = some s) (he : s.step kind e = some s') :
    Attributed kind s₀ (es ++ [e]) s' := by
  cases step_turn he with
  | refused hq => exact h.refuse hq rfl
  | again hq ho => exact h.again hs hx hq ho
  | first hq => exact h.first hs hq
  | unheard | elapsed => exact h.congr rfl rfl rfl rfl
  | @message w so o data =>
      obtain ⟨cells, sources, e, hk, -, -, hi⟩ := message_frame kind s o data
      rw [e]
      exact h.congr rfl hk hi rfl
  | forgotten hw => exact h.congr rfl rfl rfl (Cells.map_set_of_some hw (by rfl))
  | @socketClosed w so o hw =>
      obtain ⟨cells, e, hk⟩ := socketClosed_frame kind { s with sockets := _ } o
      rw [e]
      exact h.congr rfl hk rfl (Cells.map_set_of_some hw (by rfl))
  | check =>
      obtain ⟨c, ⟨entries, e, -⟩, -⟩ := check_spec hs
      rw [e]
      exact h.congr rfl rfl (Cells.map_mapIdx (fun n => closeIf_info (c n)) _) rfl
  | clear =>
      obtain ⟨cells, e, hk⟩ := clear_frame kind s
      rw [e]
      exact h.congr rfl hk rfl rfl

end Attributed

theorem attributed_of_run {max : Int} {now : Nat}
    (hx : exec (step kind) (.new max now) es = some s) : Attributed kind (.new max now) es s := by
  refine exec_history ⟨rfl, ?_, ?_, ?_⟩
    (fun es s e s' hx h he => h.step (stored_of_run hx) hx he) hx
  all_goals simp [new]

/-! ### Samples -/

/-- The source was created with exactly the values of this query. -/
def CreatedWith (config : ClientSourceConfig) (query : Query) : Prop :=
  config.serviceId = query.serviceId ∧ config.mediaUnitId = query.mediaUnitId ∧
    some config.callId = query.callId ∧ some config.clientId = query.clientId ∧
    some config.roomId = query.roomId

instance (config : ClientSourceConfig) (query : Query) : Decidable (CreatedWith config query) :=
  inferInstanceAs (Decidable (_ ∧ _))

theorem given_eq_some {t : Option QueryValue} {a : QueryValue} (h : QueryValue.given t = some a) :
    some a = t :=
  ((Option.filter_eq_some_iff.mp h).1).symm

theorem createdWith_of_observe {newDecoder : δ} {decodeFromBase64 : δ → String → δ × Option σ}
    {query : Query} {config : ClientSourceConfig}
    (h : (observedClients newDecoder decodeFromBase64).observe query = some (id, config)) :
    config.clientId = id ∧ CreatedWith config query := by
  simp only [observedClients, Option.bind_eq_bind, Option.bind_eq_some_iff] at h
  obtain ⟨clientId, hclient, roomId, hroom, callId, hcall, h⟩ := h
  cases h
  exact ⟨rfl, rfl, rfl, given_eq_some hcall, given_eq_some hclient, given_eq_some hroom⟩

/-- The values of the source that the websocket `w` hands its samples to: they are exactly those
of its own query, unless its client was already stored when it connected; then they are exactly
those of an earlier connection that gave the same client id. -/
def RecordedUnder (kind : Kind ClientSourceConfig δ σ) (s₀ : Sources ClientSourceConfig δ σ)
    (es : List Event) (w : SocketRef) (query : Query) (config : ClientSourceConfig) : Prop :=
  some config.clientId = query.clientId ∧
    (CreatedWith config query ∨ FoundStored kind s₀ es w config.clientId ∧
      ∃ w₀ < w, ∃ query₀, (connections es)[w₀]? = some query₀ ∧ CreatedWith config query₀)

def anotherCall : Query :=
  { someClient with roomId := some (.text "b"), callId := some (.text "call-2") }

/-- The client comes back with another room and another call. -/
def changesCall : List Event := [.accept someClient, .socketClosed 0, .accept anotherCall]

end Sources

end DemoApp.Observer
