import DemoApp.Webapp.Agreement

/-!
# Webapp — Publishing

What the service produces: `produceMedia`, the `produce` listener of its sending transport, and
`pauseMedia` and `resumeMedia`, with the room at the other end.

* `Production` is where a call of `produceMedia` stands.  Calls overlap: each has its own request,
  and the room resolves them in any order.
* `Tracked`: the calls against the requests and the responses of the client.
* `producers_agree`: in every run, whatever the order, a call stores the producer that the room made
  for it, of the kind of its track, and the room has no other producers of the client.
-/

namespace DemoApp.Webapp
open Sfu Machine

/-- A producer of mediasoup-client. -/
structure Producer where
  track : Track
  paused : Bool
  deriving DecidableEq, Repr

/-- Where a call of `produceMedia` stands. -/
inductive Production where
  /-- in `this._sndTransport.produce`, which has not emitted `produce` -/
  | started (track : Track)
  /-- its `produce` listener awaits the response -/
  | requested (track : Track) (p : PromiseRef)
  /-- it has stored its producer, under `undefined` if the response has no `producerId` -/
  | stored (track : Track) (p : PromiseRef) (id : Option ProducerId)
  /-- it threw -/
  | rejected (error : String)
  deriving DecidableEq, Repr

/-- The track of a call that has made its request, and the promise of that request. -/
def Production.asked : Production → Option (Track × PromiseRef)
  | .requested track p | .stored track p _ => some (track, p)
  | .started _ | .rejected _ => none

/-- What `_findMediaObjectByTrack` returns. -/
inductive MediaObject where
  | producer (id : Option ProducerId) (producer : Producer)
  | consumer (consumer : Consumer)

/-- A session whose client produces.  `paused` says of the track of a consumer whether the consumer
is paused. -/
structure Publishing where
  session : Session
  producers : LiveMap (Option ProducerId) Producer := .empty
  productions : List Production := []
  paused : TrackId → Bool := fun _ => false

namespace Publishing

/-- A session in which nothing was produced. -/
def new (config : RoomConfig) (id : CallId) (caps : RtpCapabilities)
    (connection : ServerConnectionConfig) : Publishing where
  session := .new config id caps connection

/-! ### The media of the client -/

/-- `produceMedia`, up to its `await`. -/
def produceMedia (s : Publishing) (track : Track) : Publishing :=
  match s.session.service.sndTransport with
  | none =>
      { s with
        productions := s.productions ++
          [.rejected "Cannot produce track without a sending transport"] }
  | some _ => { s with productions := s.productions ++ [.started track] }

/-- The `producerId` of a response. -/
def producerIdOf : ServerMessage → Option ProducerId
  | .createProducerResponse _ id => some id
  | _ => none

/-- The call `n` of `produceMedia` continues. -/
def produced (s : Publishing) (n : Nat) (track : Track) (p : PromiseRef) (response : ServerMessage)
    (paused : Bool) : Publishing :=
  let id := producerIdOf response
  { s with
    producers := s.producers.set id ⟨track, paused⟩
    productions := s.productions.set n (.stored track p id) }

/-- `_findMediaObjectByTrack`: the producers first. -/
def _findMediaObjectByTrack (s : Publishing) (track : Track) : Option MediaObject :=
  match s.producers.next 0 fun _ producer =>
      if producer.track.id = track.id then some producer else none with
  | some (_, id, producer) => some (.producer id producer)
  | none =>
      (s.session.service.consumers.next 0 fun _ consumer =>
        if consumer.track.id = track.id then some consumer else none).map fun x =>
          .consumer x.2.2

/-- `paused` of a producer or a consumer. -/
def isPaused (s : Publishing) : MediaObject → Bool
  | .producer _ producer => producer.paused
  | .consumer consumer   => s.paused consumer.track.id

/-- `pause` and `resume` of a producer or a consumer. -/
def setPaused (s : Publishing) (paused : Bool) : MediaObject → Publishing
  | .producer id producer =>
      { s with producers := s.producers.set id { producer with paused } }
  | .consumer consumer =>
      { s with paused := Function.update s.paused consumer.track.id paused }

/-- The body that `pauseMedia` and `resumeMedia` share. -/
def switchMedia (s : Publishing) (track : Track) (paused : Bool) : Publishing :=
  match s._findMediaObjectByTrack track with
  | none => s
  | some mediaObj =>
      -- paused or played already
      if s.isPaused mediaObj = paused then s
      else s.setPaused paused mediaObj

def pauseMedia (s : Publishing) (track : Track) : Publishing := s.switchMedia track true

def resumeMedia (s : Publishing) (track : Track) : Publishing := s.switchMedia track false

/-! ### Events -/

inductive Event where
  /-- a turn of the session, but for the `produce` listener -/
  | session (e : Session.Event)
  | produceMedia (track : Track)
  /-- the sending transport emits `produce` for the call `n` -/
  | produce (n : Nat) (rtpParameters : RtpParameters)
  /-- `produce` rejects for the call `n` -/
  | produceFailed (n : Nat) (error : String)
  /-- the call `n` continues after its request, with a producer that may be paused -/
  | produced (n : Nat) (paused : Bool)
  /-- a producer emits `close` -/
  | producerClosed (id : Option ProducerId)
  | pauseMedia (track : Track)
  | resumeMedia (track : Track)

/-- The sending transport emits `produce`. -/
def emitsProduce : Session.Event → Bool
  | .service (.produce _ _) => true
  | _ => false

section Steps

variable (uuid : Nat → RequestId) (r : ClientRef)

/-- One turn of either side. -/
def step (s : Publishing) : Event → Option Publishing
  | .session e =>
      if emitsProduce e then none
      else (s.session.step uuid r e).map fun session => { s with session }
  | .produceMedia track => some (s.produceMedia track)
  | .produce n rtpParameters =>
      match s.productions[n]? with
      | some (.started track) =>
          (s.session.step uuid r (.service (.produce track.kind rtpParameters))).map fun session =>
            { s with
              session
              productions := s.productions.set n (.requested track s.session.service.promise) }
      | _ => none
  | .produceFailed n error =>
      match s.productions[n]? with
      | some (.started _) => some { s with productions := s.productions.set n (.rejected error) }
      | _ => none
  | .produced n paused =>
      match s.productions[n]? with
      | some (.requested track p) =>
          (s.session.service.serverConnection.settled p).map fun response =>
            s.produced n track p response paused
      | _ => none
  | .producerClosed id => some { s with producers := s.producers.delete id }
  | .pauseMedia track => some (s.pauseMedia track)
  | .resumeMedia track => some (s.resumeMedia track)

/-- The session is orderly. -/
def Orderly (s : Publishing) : Event → Prop
  | .session e => s.session.Orderly e
  | _ => True

instance (s : Publishing) : (e : Event) → Decidable (Orderly s e)
  | .session e => inferInstanceAs (Decidable (s.session.Orderly e))
  | .produceMedia _ | .produce _ _ | .produceFailed _ _ | .produced _ _ | .producerClosed _
  | .pauseMedia _ | .resumeMedia _ => isTrue trivial

end Steps

end Publishing

/-! ### What the client sends -/

namespace MediasoupService

/-- The message is a new request if it is one, and asks for a producer only when the transport
emits `produce`. -/
structure Fresh (uuid : Nat → RequestId) (n : Nat) (e : Event) (m : ClientMessage) : Prop where
  id : ∀ {a}, m.asks = some a → ∃ i, n ≤ i ∧ a.requestId = uuid i
  produce : asksProducer m = true →
    ∃ kind rtp, e = .produce kind rtp ∧ m = .createProducerRequest (uuid n) kind rtp "userId"

/-- What a turn puts behind what is to be sent is fresh. -/
theorem outgoing_turn {uuid : Nat → RequestId} {s s' : MediasoupService} {e : Event}
    (ht : Turn uuid s e s') :
    s.uuids ≤ s'.uuids ∧ ∀ {m}, m ∈ s'.serverConnection.outgoing →
      m ∈ s.serverConnection.outgoing ∨ Fresh uuid s.uuids e m := by
  have plain : ∀ {m : ClientMessage}, m.asks = none → asksProducer m = false →
      Fresh uuid s.uuids e m := fun ha hp =>
    ⟨fun h => (by rw [ha] at h; cases h), fun h => (by rw [hp] at h; cases h)⟩
  have asked : ∀ {m : ClientMessage} {a i}, m.asks = some a → asksProducer m = false →
      s.uuids ≤ i → a.requestId = uuid i → Fresh uuid s.uuids e m := fun ha hp hi hq =>
    ⟨fun h => ⟨_, hi, Option.some.inj (ha.symm.trans h) ▸ hq⟩, fun h => (by rw [hp] at h; cases h)⟩
  cases ht with
  | connect | opened | elapsed | capabilities | transportCreated | joined | incapable
  | transportFailed | consumed | consumerClosed => exact ⟨Nat.le_refl _, .inl⟩
  | tick => exact ⟨Nat.le_refl _, fun h => .inl (ServerConnection.outgoing_of_tick h)⟩
  | @message m =>
      refine ⟨Nat.le_of_eq (s.onmessage_course m).2.1.symm, fun h => .inl ?_⟩
      rw [serverConnection_onmessage, ServerConnection.resolveRequest] at h
      split at h <;> exact h
  | server =>
      refine ⟨Nat.le_succ _, fun h => (ServerConnection.outgoing_of_request h).imp_right ?_⟩
      rintro rfl
      exact asked rfl rfl (Nat.le_refl _) rfl
  | loaded =>
      refine ⟨Nat.le_succ_of_le (Nat.le_succ _), fun h => ?_⟩
      rcases ServerConnection.outgoing_of_request h with h | rfl
      · rcases ServerConnection.outgoing_of_request h with h | rfl
        · refine (ServerConnection.outgoing_of_sendMessage h).imp_right ?_
          rintro rfl
          exact plain rfl rfl
        · exact .inr (asked rfl rfl (Nat.le_refl _) rfl)
      · exact .inr (asked rfl rfl (Nat.le_succ _) rfl)
  | transports =>
      refine ⟨Nat.le_succ _, fun h => (ServerConnection.outgoing_of_request h).imp_right ?_⟩
      rintro rfl
      exact asked rfl rfl (Nat.le_refl _) rfl
  | transportConnect =>
      refine ⟨Nat.le_succ _, fun h => (ServerConnection.outgoing_of_request h).imp_right ?_⟩
      rintro rfl
      exact plain rfl rfl
  | @produce kind rtp =>
      refine ⟨Nat.le_succ _, fun h => (ServerConnection.outgoing_of_request h).imp_right ?_⟩
      rintro rfl
      refine ⟨fun h => ⟨s.uuids, Nat.le_refl _, ?_⟩, fun _ => ⟨kind, rtp, rfl, rfl⟩⟩
      cases h
      rfl

end MediasoupService

namespace Publishing

/-! ### The calls of `produceMedia` -/

/-- The request number `p`, if it is to be sent, asks for a producer of this kind. -/
def AsksFor (uuid : Nat → RequestId) (out : List ClientMessage) (p : Nat) (kind : MediaKind) :
    Prop :=
  ∀ {m a}, m ∈ out → m.asks = some a → a.requestId = uuid p →
    ∃ rtp, m = .createProducerRequest (uuid p) kind rtp "userId"

/-- The calls of a client that is to send `out`, has made `n` requests and was delivered `D`: each
has a request of its own for its kind, and the producer of the response to it. -/
structure Tracked (uuid : Nat → RequestId) (D : List ServerMessage) (out : List ClientMessage)
    (n : Nat) (s : Publishing) : Prop where
  asked : ∀ {i : Nat} {x track p}, s.productions[i]? = some x → x.asked = some (track, p) →
    p < n ∧ AsksFor uuid out p track.kind
  own : ∀ {i j : Nat} {x y track track' p}, s.productions[i]? = some x →
    s.productions[j]? = some y → x.asked = some (track, p) → y.asked = some (track', p) → i = j
  answered : ∀ {i : Nat} {track p id}, s.productions[i]? = some (.stored track p id) →
    ∃ P, id = some P ∧ .createProducerResponse (uuid p) P ∈ D
  held : ∀ {id x}, s.producers.get id = some x →
    ∃ (i : Nat) (p : PromiseRef), s.productions[i]? = some (.stored x.track p id)
  wanted : ∀ {q kind rtp u}, .createProducerRequest q kind rtp u ∈ out →
    ∃ (i : Nat) (x : Production) (track : Track) (p : PromiseRef),
      s.productions[i]? = some x ∧ x.asked = some (track, p) ∧ track.kind = kind

section Turns

variable {uuid : Nat → RequestId} {D D' : List ServerMessage} {out : List ClientMessage} {n : Nat}
  {s : Publishing}

/-- The service takes a turn, or is delivered a message. -/
theorem Tracked.service {v v' : MediasoupService} {e : MediasoupService.Event}
    (h : Tracked uuid D v.serverConnection.outgoing v.uuids s) (hu : uuid.Injective)
    (ht : MediasoupService.Turn uuid v e v') (hD : D ⊆ D')
    (he : ∀ kind rtp, e ≠ .produce kind rtp) :
    Tracked uuid D' v'.serverConnection.outgoing v'.uuids s := by
  obtain ⟨hn, hout⟩ := MediasoupService.outgoing_turn ht
  refine ⟨fun hx ha => ?_, h.own, fun hx => ?_, h.held, fun hm => ?_⟩
  · obtain ⟨hp, hasks⟩ := h.asked hx ha
    refine ⟨Nat.lt_of_lt_of_le hp hn, fun hm hma hq => ?_⟩
    rcases hout hm with hm | hf
    · exact hasks hm hma hq
    · obtain ⟨i, hi, hid⟩ := hf.id hma
      obtain rfl := hu (hid.symm.trans hq)
      exact absurd hp (Nat.not_lt_of_le hi)
  · obtain ⟨P, e, hm⟩ := h.answered hx
    exact ⟨P, e, hD hm⟩
  · rcases hout hm with hm | hf
    · exact h.wanted hm
    · obtain ⟨kind, rtp, e', -⟩ := hf.produce rfl
      exact absurd e' (he kind rtp)

/-- The calls that have made a request stay as they are but for what came of it. -/
theorem Tracked.frame {s' : Publishing} (h : Tracked uuid D out n s)
    (hold : ∀ {i : Nat} {x a}, s'.productions[i]? = some x → x.asked = some a →
      ∃ y, s.productions[i]? = some y ∧ y.asked = some a)
    (hnew : ∀ {i : Nat} {y a}, s.productions[i]? = some y → y.asked = some a →
      ∃ x, s'.productions[i]? = some x ∧ x.asked = some a)
    (hanswered : ∀ {i : Nat} {track p id}, s'.productions[i]? = some (.stored track p id) →
      ∃ P, id = some P ∧ .createProducerResponse (uuid p) P ∈ D)
    (hheld : ∀ {id x}, s'.producers.get id = some x →
      ∃ (i : Nat) (p : PromiseRef), s'.productions[i]? = some (.stored x.track p id)) :
    Tracked uuid D out n s' := by
  refine ⟨fun hx ha => ?_, fun hx hy ha hb => ?_, hanswered, hheld, fun hm => ?_⟩
  · obtain ⟨y, hy, hya⟩ := hold hx ha
    exact h.asked hy hya
  · obtain ⟨x', hx', ha'⟩ := hold hx ha
    obtain ⟨y', hy', hb'⟩ := hold hy hb
    exact h.own hx' hy' ha' hb'
  · obtain ⟨i, x, track, p, hi, ha, hk⟩ := h.wanted hm
    obtain ⟨y, hy, hya⟩ := hnew hi ha
    exact ⟨i, y, track, p, hy, hya, hk⟩

/-- The producers are the same, or some are gone or paused. -/
theorem Tracked.switched (h : Tracked uuid D out n s) {m : LiveMap (Option ProducerId) Producer}
    {f : TrackId → Bool}
    (hm : ∀ {id x}, m.get id = some x → ∃ y, s.producers.get id = some y ∧ x.track = y.track) :
    Tracked uuid D out n { s with producers := m, paused := f } := by
  refine h.frame (fun hx ha => ⟨_, hx, ha⟩) (fun hy ha => ⟨_, hy, ha⟩) h.answered fun hx => ?_
  obtain ⟨y, hy, e⟩ := hm hx
  rw [e]
  exact h.held hy

/-- A call begins. -/
theorem Tracked.begins (h : Tracked uuid D out n s) {x : Production} (hx : x.asked = none) :
    Tracked uuid D out n { s with productions := s.productions ++ [x] } := by
  have old : ∀ {i : Nat} {y a}, (s.productions ++ [x])[i]? = some y → y.asked = some a →
      s.productions[i]? = some y := fun hy ha => by
    rcases Cells.concat_eq_some.mp hy with hy | ⟨-, rfl⟩
    · exact hy
    · rw [hx] at ha
      cases ha
  refine h.frame (fun hy ha => ⟨_, old hy ha, ha⟩) (fun hy ha => ⟨_, Cells.append_of_some hy, ha⟩)
    (fun hy => h.answered (old hy rfl)) fun hy => ?_
  obtain ⟨i, p, hi⟩ := h.held hy
  exact ⟨i, p, Cells.append_of_some hi⟩

/-- A call that has made no request ends. -/
theorem Tracked.ends (h : Tracked uuid D out n s) {i : Nat} {x y : Production}
    (hi : s.productions[i]? = some x) (hx : x.asked = none) (hy : y.asked = none) :
    Tracked uuid D out n { s with productions := s.productions.set i y } := by
  have old : ∀ {j : Nat} {z a}, (s.productions.set i y)[j]? = some z → z.asked = some a →
      s.productions[j]? = some z := fun hz ha => by
    rcases Cells.set_eq_some.mp hz with ⟨-, -, rfl⟩ | ⟨-, hz⟩
    · rw [hy] at ha
      cases ha
    · exact hz
  have new : ∀ {j : Nat} {z a}, s.productions[j]? = some z → z.asked = some a →
      (s.productions.set i y)[j]? = some z := fun hz ha => by
    refine Cells.set_eq_some.mpr (.inr ⟨?_, hz⟩)
    rintro rfl
    cases hi.symm.trans hz
    rw [hx] at ha
    cases ha
  refine h.frame (fun hz ha => ⟨_, old hz ha, ha⟩) (fun hz ha => ⟨_, new hz ha, ha⟩)
    (fun hz => h.answered (old hz rfl)) fun hz => ?_
  obtain ⟨j, p, hj⟩ := h.held hz
  exact ⟨j, p, new hj rfl⟩

/-- The `produce` listener makes the request number `n`. -/
theorem Tracked.requests {v : MediasoupService}
    (h : Tracked uuid D v.serverConnection.outgoing v.uuids s) (hu : uuid.Injective)
    (hr : Requests uuid D v.serverConnection v.uuids) {i : Nat} {track : Track}
    (hi : s.productions[i]? = some (.started track)) (rtp : RtpParameters) :
    let v' := v.request uuid fun q => .createProducerRequest q track.kind rtp "userId"
    Tracked uuid D v'.serverConnection.outgoing v'.uuids
      { s with productions := s.productions.set i (.requested track v.promise) } := by
  intro v'
  have hpromise : v.promise = v.uuids := hr.promises
  have hout : ∀ {m}, m ∈ v'.serverConnection.outgoing → m ∈ v.serverConnection.outgoing ∨
      m = .createProducerRequest (uuid v.uuids) track.kind rtp "userId" :=
    ServerConnection.outgoing_of_request
  -- a call that has made a request is another one
  have other : ∀ {j : Nat} {x a}, s.productions[j]? = some x → x.asked = some a → j ≠ i := by
    rintro j x a hx ha rfl
    cases hi.symm.trans hx
    cases ha
  have old : ∀ {j : Nat} {x a}, (s.productions.set i (.requested track v.promise))[j]? = some x →
      x.asked = some a → (j = i ∧ a = (track, v.uuids)) ∨ s.productions[j]? = some x :=
    fun hx ha => by
      rcases Cells.set_eq_some.mp hx with ⟨e, -, rfl⟩ | ⟨-, hx⟩
      · cases ha
        exact .inl ⟨e, by rw [hpromise]⟩
      · exact .inr hx
  refine ⟨fun hx ha => ?_, fun hx hy ha hb => ?_, fun hx => ?_, fun hx => ?_, fun hm => ?_⟩
  · rcases old hx ha with ⟨-, e⟩ | hx
    · cases e
      refine ⟨Nat.lt_succ_self _, fun hm hma hq => ?_⟩
      rcases hout hm with hm | rfl
      · -- the requests before have other numbers
        obtain ⟨k, hk, hid, -⟩ := hr.asked hm hma
        obtain rfl := hu (hid.symm.trans hq)
        exact absurd hk (Nat.lt_irrefl _)
      · exact ⟨rtp, rfl⟩
    · obtain ⟨hp, hasks⟩ := h.asked hx ha
      refine ⟨Nat.lt_succ_of_lt hp, fun hm hma hq => ?_⟩
      rcases hout hm with hm | rfl
      · exact hasks hm hma hq
      · cases hma
        obtain rfl := hu hq
        exact absurd hp (Nat.lt_irrefl _)
  · rcases old hx ha with ⟨rfl, e⟩ | hx'
    · rcases old hy hb with ⟨rfl, -⟩ | hy'
      · rfl
      · cases e
        exact absurd (h.asked hy' hb).1 (Nat.lt_irrefl _)
    · rcases old hy hb with ⟨rfl, e⟩ | hy'
      · cases e
        exact absurd (h.asked hx' ha).1 (Nat.lt_irrefl _)
      · exact h.own hx' hy' ha hb
  · rcases Cells.set_eq_some.mp hx with ⟨-, -, e⟩ | ⟨-, hx⟩
    · cases e
    · exact h.answered hx
  · obtain ⟨j, p, hj⟩ := h.held hx
    exact ⟨j, p, Cells.set_eq_some.mpr (.inr ⟨other hj rfl, hj⟩)⟩
  · rcases hout hm with hm | e
    · obtain ⟨j, x, track', p, hj, ha, hk⟩ := h.wanted hm
      exact ⟨j, x, track', p, Cells.set_eq_some.mpr (.inr ⟨other hj ha, hj⟩), ha, hk⟩
    · cases e
      exact ⟨i, _, track, v.promise, Cells.set_eq_some.mpr (.inl ⟨rfl, Cells.lt_of_some hi, rfl⟩),
        rfl, rfl⟩

/-- A call stores the producer of the response to its request. -/
theorem Tracked.stores {c : ServerConnection} (h : Tracked uuid D c.outgoing n s)
    (hr : Requests uuid D c n) {i : Nat} {track : Track} {p : PromiseRef}
    (hi : s.productions[i]? = some (.requested track p)) {response : ServerMessage}
    (hp : c.settled p = some response) (paused : Bool) :
    Tracked uuid D c.outgoing n (s.produced i track p response paused) := by
  -- the response answers the request, and has a `producerId`
  obtain ⟨P, rfl⟩ : ∃ P, response = .createProducerResponse (uuid p) P := by
    obtain ⟨hm, hq⟩ := hr.settled hp
    obtain ⟨b, hb, hid⟩ := responseTo_eq_some.mp hq
    obtain ⟨m, hsent, a, ha, hf⟩ := hr.answered hm hb
    obtain ⟨rtp, rfl⟩ := (h.asked hi rfl).2 (List.mem_append_left _ hsent) ha
      (hf.requestId.symm.trans hid)
    cases ha
    have htype : b.type = .createProducer := hf.type (by simp)
    cases response <;> simp only [ServerMessage.answer, Option.some.injEq, reduceCtorEq] at hb <;>
      subst hb <;> first | exact ⟨_, by rw [← hid]⟩ | cases htype
  have hset : (s.productions.set i (.stored track p (some P)))[i]? =
      some (.stored track p (some P)) :=
    Cells.set_eq_some.mpr (.inl ⟨rfl, Cells.lt_of_some hi, rfl⟩)
  refine h.frame (fun hx ha => ?_) (fun {j y a} hy ha => ?_) (fun hx => ?_) fun {id x} hx => ?_
  · rcases Cells.set_eq_some.mp hx with ⟨rfl, -, rfl⟩ | ⟨-, hx⟩
    · exact ⟨_, hi, ha⟩
    · exact ⟨_, hx, ha⟩
  · by_cases hji : j = i
    · subst hji
      cases hi.symm.trans hy
      exact ⟨_, hset, ha⟩
    · exact ⟨y, Cells.set_eq_some.mpr (.inr ⟨hji, hy⟩), ha⟩
  · rcases Cells.set_eq_some.mp hx with ⟨-, -, e⟩ | ⟨-, hx⟩
    · cases e
      exact ⟨P, rfl, (hr.settled hp).1⟩
    · exact h.answered hx
  · change (s.producers.set (some P) _).get id = some x at hx
    rw [LiveMap.get_set] at hx
    split at hx
    · next e =>
        subst e
        cases hx
        exact ⟨i, p, hset⟩
    · obtain ⟨j, p', hj⟩ := h.held hx
      refine ⟨j, p', Cells.set_eq_some.mpr (.inr ⟨?_, hj⟩)⟩
      rintro rfl
      cases hi.symm.trans hj

/-- The session goes on. -/
theorem Tracked.session (h : Tracked uuid D out n s) (session : Session) :
    Tracked uuid D out n { s with session } :=
  ⟨h.asked, h.own, h.answered, h.held, h.wanted⟩

/-- The object of a track is in its map, with a track of that id. -/
theorem found_producer {track : Track} {id : Option ProducerId} {x : Producer}
    (h : s._findMediaObjectByTrack track = some (.producer id x)) :
    s.producers.get id = some x ∧ x.track.id = track.id := by
  rw [_findMediaObjectByTrack] at h
  split at h
  · next hn =>
      obtain ⟨w, ha, hf⟩ := LiveMap.exists_of_next hn
      split at hf <;> cases hf
      cases h
      next e => exact ⟨ha.get, e⟩
  · obtain ⟨y, -, e⟩ := Option.map_eq_some_iff.mp h
    cases e

/-- A switch changes neither the session nor the calls. -/
theorem switchMedia_fields (s : Publishing) (track : Track) (paused : Bool) :
    (s.switchMedia track paused).session = s.session ∧
      (s.switchMedia track paused).productions = s.productions := by
  rw [Publishing.switchMedia]
  split
  · exact ⟨rfl, rfl⟩
  · next obj _ =>
      split
      · exact ⟨rfl, rfl⟩
      · cases obj <;> exact ⟨rfl, rfl⟩

theorem Tracked.switchMedia (h : Tracked uuid D out n s) (track : Track) (paused : Bool) :
    Tracked uuid D out n (s.switchMedia track paused) := by
  rw [Publishing.switchMedia]
  split
  · exact h
  · next obj hobj =>
      split
      · exact h
      · cases obj with
        | consumer c => exact h.switched fun hx => ⟨_, hx, rfl⟩
        | producer id x =>
            refine h.switched (f := s.paused) fun {id' y} hy => ?_
            rw [LiveMap.get_set] at hy
            split at hy
            · next e =>
                cases hy
                exact ⟨x, e ▸ (found_producer hobj).1, rfl⟩
            · exact ⟨y, hy, rfl⟩

end Turns

/-! ### Runs -/

/-- The producers of the client against those of the room. -/
structure OwnProducers (s : Publishing) (r : ClientRef) : Prop where
  stored : ∀ {i : Nat} {track p id}, s.productions[i]? = some (.stored track p id) →
    ∃ (P : Nat) (x : Sfu.Producer), id = some P ∧ s.session.room.router.producers[P]? = some x ∧
      x.owner = r ∧ x.kind = track.kind ∧ s.session.service.sndTransport = some x.transport
  own : ∀ {i j : Nat} {track track' p p' id}, s.productions[i]? = some (.stored track p id) →
    s.productions[j]? = some (.stored track' p' id) → i = j
  held : ∀ {id x}, s.producers.get id = some x →
    ∃ (i : Nat) (p : PromiseRef), s.productions[i]? = some (.stored x.track p id)
  made : ∀ {P : Nat} {x}, s.session.room.router.producers[P]? = some x → x.owner = r →
    ∃ (i : Nat) (y : Production) (track : Track) (p : PromiseRef),
      s.productions[i]? = some y ∧ y.asked = some (track, p) ∧ track.kind = x.kind

section Runs

variable {uuid : Nat → RequestId} {r : ClientRef} {config : RoomConfig} {id : CallId}
  {caps : RtpCapabilities} {connection : ServerConnectionConfig} {s s' : Publishing}
  {es : List Event}

/-- The client goes by what it was told. -/
structure Keeps (uuid : Nat → RequestId) (r : ClientRef) (room₀ : Room) (s : Publishing) :
    Prop where
  agreeing : s.session.Agreeing uuid r room₀
  tracked : Tracked uuid ((s.session.room.toClient r).take s.session.delivered)
    s.session.service.serverConnection.outgoing s.session.service.uuids s

/-- The session does not change. -/
theorem Keeps.apart {room₀ : Room} (h : Keeps uuid r room₀ s) (hs : s'.session = s.session)
    (ht : Tracked uuid ((s.session.room.toClient r).take s.session.delivered)
      s.session.service.serverConnection.outgoing s.session.service.uuids s') :
    Keeps uuid r room₀ s' := by
  refine ⟨hs ▸ h.agreeing, ?_⟩
  rw [hs]
  exact ht

/-- A turn of the session, but for the `produce` listener. -/
theorem Keeps.session (hu : uuid.Injective)
    (h : Keeps uuid r (.new config (createRouter id caps)) s) {e : Session.Event}
    {session : Session} (he : s.session.step uuid r e = some session) (hp : emitsProduce e = false)
    (ho : s.session.Orderly e) :
    Keeps uuid r (.new config (createRouter id caps)) { s with session } := by
  refine ⟨h.agreeing.step hu he ho, ?_⟩
  obtain ⟨⟨rs, hl⟩, -⟩ := h.agreeing
  cases Session.step_turn he with
  | room _ hr | up _ hr => exact (hl.delivered_room hr).symm ▸ h.tracked.session _
  | @service f _ _ hs =>
      have ht := MediasoupService.step_turn hs
      refine (h.tracked.service hu ht (List.Subset.refl _) ?_).session _
      rintro kind rtp rfl
      cases hp
  | @down m hm hw =>
      have ht : MediasoupService.Turn uuid s.session.service (.message m) _ := .message hw
      have hD : (s.session.room.toClient r).take s.session.delivered ⊆
          (s.session.room.toClient r).take (s.session.delivered + 1) := by
        rw [Session.take_succ_of_some hm]
        exact List.subset_append_left _ _
      exact (h.tracked.service hu ht hD fun _ _ e => (by cases e)).session _

/-- **One turn.** -/
theorem Keeps.step (hu : uuid.Injective)
    (h : Keeps uuid r (.new config (createRouter id caps)) s) {e : Event}
    (he : s.step uuid r e = some s') (ho : s.Orderly e) :
    Keeps uuid r (.new config (createRouter id caps)) s' := by
  obtain ⟨rs, hl⟩ := h.agreeing.linked
  have hr := hl.connects.requests
  cases e with
  | session e =>
      simp only [Publishing.step] at he
      split at he
      · cases he
      · next hp =>
          obtain ⟨session, hs, rfl⟩ := Option.map_eq_some_iff.mp he
          exact h.session hu hs (by simpa using hp) ho
  | produceMedia track =>
      cases he
      rw [Publishing.produceMedia]
      split <;> exact h.apart rfl (h.tracked.begins rfl)
  | produce n rtp =>
      simp only [Publishing.step] at he
      split at he
      · next track hn =>
          obtain ⟨session, hs, rfl⟩ := Option.map_eq_some_iff.mp he
          refine ⟨h.agreeing.step hu hs trivial, ?_⟩
          cases Session.step_turn hs with
          | service _ hv =>
              cases MediasoupService.step_turn hv with
              | produce => exact (h.tracked.requests hu hr hn rtp).session _
      · cases he
  | produceFailed n error =>
      simp only [Publishing.step] at he
      split at he
      · next hn => cases he; exact h.apart rfl (h.tracked.ends hn rfl rfl)
      · cases he
  | produced n paused =>
      simp only [Publishing.step] at he
      split at he
      · next track p hn =>
          obtain ⟨response, hp, rfl⟩ := Option.map_eq_some_iff.mp he
          exact h.apart rfl (h.tracked.stores hr hn hp paused)
      · cases he
  | producerClosed id =>
      cases he
      exact h.apart rfl (h.tracked.switched (f := s.paused) fun hx =>
        ⟨_, LiveMap.get_of_get_delete hx, rfl⟩)
  | pauseMedia track | resumeMedia track =>
      cases he
      exact h.apart (s.switchMedia_fields track _).1 (h.tracked.switchMedia track _)

theorem keeps_of_run (hu : uuid.Injective)
    (hx : exec (step uuid r) (new config id caps connection) es = some s)
    (ho : Along (step uuid r) Orderly (new config id caps connection) es) :
    Keeps uuid r (.new config (createRouter id caps)) s := by
  refine exec_invariant (fun _ _ _ h ho he => Keeps.step hu h he ho) ?_ ho hx
  refine ⟨⟨⟨[], rfl, trivial, rfl, Nat.le_refl _, MediasoupService.connects_new uuid connection,
    Nat.le_refl _⟩, MediasoupService.uses_new uuid connection⟩, ?_⟩
  exact ⟨fun hx => (by cases hx), fun hx => (by cases hx), fun hx => (by cases hx),
    fun hx => (by cases hx), fun hm => (by cases hm)⟩

theorem Keeps.ownProducers (hu : uuid.Injective)
    (h : Keeps uuid r (.new config (createRouter id caps)) s) : s.OwnProducers r := by
  obtain ⟨hagree, ht⟩ := h
  obtain ⟨rs, hl⟩ := hagree.linked
  have htold := Room.toldProducers_of_run hl.run
  have answer : ∀ {i : Nat} {track p id}, s.productions[i]? = some (.stored track p id) →
      ∃ P, id = some P ∧ (r, .createProducerResponse (uuid p) P) ∈ s.session.room.sent := by
    intro i track p id hi
    obtain ⟨P, e, hm⟩ := ht.answered hi
    exact ⟨P, e, Room.mem_sentTo.mp (List.mem_of_mem_take hm)⟩
  refine ⟨fun hi => ?_, fun hi hj => ?_, ht.held, fun hP howner => ?_⟩
  · obtain ⟨P, e, hm⟩ := answer hi
    obtain ⟨x, rtp, u, hP, howner, hreq⟩ := htold.told hm
    obtain ⟨_, hm'⟩ := (ht.asked hi rfl).2 (hl.sent_of_received hreq) rfl rfl
    have hkind : x.kind = _ := (ClientMessage.createProducerRequest.inj hm').2.1
    exact ⟨P, x, e, hP, howner, hkind, (hagree.agrees hu).producing hP howner⟩
  · obtain ⟨P, e, hm⟩ := answer hi
    obtain ⟨P', e', hm'⟩ := answer hj
    obtain rfl : P = P' := Option.some.inj (e.symm.trans e')
    obtain rfl := hu (htold.once hm hm')
    exact ht.own hi hj rfl rfl
  · obtain ⟨q, rtp, u, hreq⟩ := htold.made hP
    exact ht.wanted (hl.sent_of_received (howner ▸ hreq))

/-- **A call stores its own producer.**  In every run of a room and one client's service, with any
other clients and with its calls of `produceMedia` overlapping in any order, a call that has stored
its producer stored one that the room made for the client, of the kind of its track, on the sending
transport, and no two calls the same one; `_producers` holds nothing else, and the room has no
producer of the client that no call asked for. -/
theorem producers_agree (hu : uuid.Injective)
    (hx : exec (step uuid r) (new config id caps connection) es = some s)
    (ho : Along (step uuid r) Orderly (new config id caps connection) es) : s.OwnProducers r :=
  (keeps_of_run hu hx ho).ownProducers hu

end Runs

/-- After `pushed`, the client `1` produces its audio and its video, and the room makes the producer
of the video first. -/
def overlapping : List Event :=
  Session.pushed.map .session ++
    [.produceMedia ⟨10, .audio⟩, .produceMedia ⟨11, .video⟩, .produce 0 "opus", .produce 1 "VP8",
      .session .up, .session .up, .session .up, .session (.room (.produced 6)),
      .session (.room (.produced 5)), .session .down, .session .down, .produced 1 false,
      .produced 0 false, .pauseMedia ⟨10, .audio⟩]

theorem producers_agree_overlapping :
    ∃ s, exec (step Nat.repr 1)
        (new ⟨"0.0.0.0", "127.0.0.1", "lobby"⟩ "call-1" "opus, VP8" ⟨-1, -1⟩) overlapping = some s ∧
      s.producers.get (some 1) = some ⟨⟨11, .video⟩, false⟩ ∧
      s.producers.get (some 2) = some ⟨⟨10, .audio⟩, true⟩ ∧ s.OwnProducers 1 := by
  obtain ⟨s, hx, hvideo, haudio⟩ : ∃ s, exec (step Nat.repr 1)
        (new ⟨"0.0.0.0", "127.0.0.1", "lobby"⟩ "call-1" "opus, VP8" ⟨-1, -1⟩) overlapping = some s ∧
      s.producers.get (some 1) = some ⟨⟨11, .video⟩, false⟩ ∧
      s.producers.get (some 2) = some ⟨⟨10, .audio⟩, true⟩ := ⟨_, rfl, rfl, rfl⟩
  exact ⟨s, hx, hvideo, haudio, producers_agree Session.repr_injective hx (by decide)⟩

end Publishing

end DemoApp.Webapp
