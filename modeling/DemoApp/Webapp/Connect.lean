import DemoApp.Sfu.TransportOrder
import DemoApp.Webapp.MediasoupService

/-!
# Webapp — Connect

The course of `connect`, for whatever the websocket delivers meanwhile.  The request number `i` of
the client has the id `uuid i` and its promise is the promise `i`; `connect` asks first for the
capabilities and then for its two transports (`plan`).

* `Connects.turn` and `Connects.message`: if every response answers a request that was sent, and a
  `ConsumerCreatedNotification` comes after the responses for both transports, then none meets
  `connect` before it has stored its receiving transport.
-/

namespace DemoApp.Webapp
open Sfu

/-! ### Requests and responses -/

/-- A message that was sent asks for this response. -/
def AskedFor (sent : List ClientMessage) (b : Answer) : Prop :=
  ∃ c ∈ sent, ∃ a, c.asks = some a ∧ a.Fits b

theorem responseTo_eq_some {m : ServerMessage} {q : RequestId} :
    responseTo m = some q ↔ ∃ b, m.answer = some b ∧ b.requestId = q := by
  cases m <;> simp [responseTo, ServerMessage.answer]

theorem capabilities_of_answer {m : ServerMessage} {b : Answer} (hb : m.answer = some b)
    (ht : b.type = .getRouterCapabilities) :
    ∃ q caps, m = .getRouterCapabilitiesResponse q caps := by
  cases m <;> simp only [ServerMessage.answer, Option.some.injEq, reduceCtorEq] at hb <;>
    subst hb <;> first | exact ⟨_, _, rfl⟩ | cases ht

theorem transport_of_answer {m : ServerMessage} {b : Answer} (hb : m.answer = some b)
    (ht : b.type = .createTransport) : ∃ q t info, m = .createTransportResponse q t info := by
  cases m <;> simp only [ServerMessage.answer, Option.some.injEq, reduceCtorEq] at hb <;>
    subst hb <;> first | exact ⟨_, _, _, rfl⟩ | cases ht

/-- The requests that `connect` makes before its transports are there, by their numbers. -/
def plan (uuid : Nat → RequestId) : Nat → Option ClientMessage
  | 0 => some (.getRouterCapabilitiesRequest (uuid 0))
  | 1 => some (.createTransportRequest (uuid 1) .producing)
  | 2 => some (.createTransportRequest (uuid 2) .consuming)
  | _ => none

/-- Those among the first `n` that ask for a transport. -/
def planned (uuid : Nat → RequestId) (n : Nat) : List (RequestId × Role) :=
  (List.range n).filterMap fun i => (plan uuid i).bind ClientMessage.transportRequest

/-- The message can be the request number `n`. -/
structure Plans (uuid : Nat → RequestId) (n : Nat) (m : ClientMessage) : Prop where
  id : ∀ {a}, m.asks = some a → a.requestId = uuid n
  transport : m.transportRequest = (plan uuid n).bind ClientMessage.transportRequest
  planned : ∀ {c}, plan uuid n = some c → m = c

theorem plans_later {uuid : Nat → RequestId} {n : Nat} {m : ClientMessage} (hn : 3 ≤ n)
    (hid : ∀ {a}, m.asks = some a → a.requestId = uuid n) (hm : m.transportRequest = none) :
    Plans uuid n m := by
  have hnone : plan uuid n = none := by
    obtain ⟨k, rfl⟩ := Nat.exists_eq_add_of_le' hn
    rfl
  exact ⟨hid, by rw [hm, hnone]; rfl, by simp [hnone]⟩

theorem planned_early (uuid : Nat → RequestId) (n : Nat) :
    planned uuid n <+: [(uuid 1, .producing), (uuid 2, .consuming)] := by
  have later : ∀ k, planned uuid (k + 3) = [(uuid 1, .producing), (uuid 2, .consuming)] := by
    intro k
    induction k with
    | zero => rfl
    | succ k ih =>
        rw [planned, List.range_succ, List.filterMap_append]
        change planned uuid (k + 3) ++ [] = _
        rw [List.append_nil, ih]
  rcases n with _ | _ | _ | k
  · exact List.nil_prefix
  · exact List.nil_prefix
  · exact ⟨[(uuid 2, .consuming)], rfl⟩
  · exact (later k).symm ▸ List.prefix_rfl

/-- The requests of a client, `n` of which were made, when the messages in `D` were delivered. -/
structure Requests (uuid : Nat → RequestId) (D : List ServerMessage) (s : ServerConnection)
    (n : Nat) : Prop where
  promises : s.promises.length = n
  get : ∀ {q p}, s.requests.get q = some p ↔ p < n ∧ q = uuid p
  settled : ∀ {p m}, s.settled p = some m → m ∈ D ∧ responseTo m = some (uuid p)
  delivered : ∀ {m i}, m ∈ D → responseTo m = some (uuid i) → (s.settled i).isSome = true
  opened : D ≠ [] → s.ws = true
  answered : ∀ {m b}, m ∈ D → m.answer = some b → AskedFor s.sent b
  asked : ∀ {c a}, c ∈ s.outgoing → c.asks = some a →
    ∃ i < n, a.requestId = uuid i ∧ ∀ {c'}, plan uuid i = some c' → c = c'
  sent : s.sent.filterMap ClientMessage.transportRequest = planned uuid n
  buffered : ∀ {c}, c ∈ s.buffer.map Prod.fst → c.transportRequest = none

namespace Requests

variable {uuid : Nat → RequestId} {D : List ServerMessage} {s s' : ServerConnection} {n : Nat}

theorem settled_lt (h : Requests uuid D s n) {p : PromiseRef} (hp : (s.settled p).isSome = true) :
    p < n := by
  rw [← h.promises]
  by_contra hge
  simp [ServerConnection.settled, List.getElem?_eq_none (Nat.le_of_not_lt hge)] at hp

/-- What the first requests were answered with. -/
theorem answer (hu : uuid.Injective) (h : Requests uuid D s n) {p : PromiseRef} {m : ServerMessage}
    (hp : s.settled p = some m) {c : ClientMessage} (hc : plan uuid p = some c) :
    ∃ a b, c.asks = some a ∧ m.answer = some b ∧ a.Fits b := by
  obtain ⟨hm, hq⟩ := h.settled hp
  obtain ⟨b, hb, hid⟩ := responseTo_eq_some.mp hq
  obtain ⟨c', hc', a, ha, hf⟩ := h.answered hm hb
  obtain ⟨i, -, hi, hplan⟩ := h.asked (List.mem_append_left _ hc') ha
  obtain rfl : i = p := hu (hi.symm.trans (hf.requestId.symm.trans hid))
  cases hplan hc
  exact ⟨a, b, ha, hb, hf⟩

theorem nil (uuid : Nat → RequestId) (config : ServerConnectionConfig) :
    Requests uuid [] { config } 0 where
  promises := rfl
  get := by simp
  settled := by simp [ServerConnection.settled]
  delivered := by simp
  opened := fun h => absurd rfl h
  answered := by simp
  asked := by simp [ServerConnection.outgoing]
  sent := rfl
  buffered := by simp

/-- The requests and promises stay, and of what waits a part is sent. -/
theorem frame (h : Requests uuid D s n) (hp : s'.promises = s.promises)
    (hr : s'.requests = s.requests) (hw : s.ws = true → s'.ws = true)
    {l : List ClientMessage} (hs : s'.sent = s.sent ++ l)
    (hl : ∀ c ∈ l, c ∈ s.buffer.map Prod.fst ∨ c.asks = none ∧ c.transportRequest = none)
    (hb : ∀ c ∈ s'.buffer.map Prod.fst,
      c ∈ s.buffer.map Prod.fst ∨ c.asks = none ∧ c.transportRequest = none) :
    Requests uuid D s' n := by
  have hsettled : ∀ p, s'.settled p = s.settled p := fun p => by
    rw [ServerConnection.settled, ServerConnection.settled, hp]
  have old : ∀ {c a}, c.asks = some a →
      c ∈ s.buffer.map Prod.fst ∨ c.asks = none ∧ c.transportRequest = none →
      c ∈ s.buffer.map Prod.fst := by
    rintro c a ha (hc | ⟨hn, -⟩)
    · exact hc
    · rw [hn] at ha
      cases ha
  refine ⟨hp ▸ h.promises, hr ▸ h.get, fun hm => h.settled (hsettled _ ▸ hm),
    fun hm hq => hsettled _ ▸ h.delivered hm hq, fun hD => hw (h.opened hD), fun hm hb => ?_,
    fun hc ha => ?_, ?_, fun hc => ?_⟩
  · obtain ⟨c, hc, a, ha, hf⟩ := h.answered hm hb
    exact ⟨c, hs ▸ List.mem_append_left _ hc, a, ha, hf⟩
  · refine h.asked ?_ ha
    rw [ServerConnection.outgoing, hs, List.append_assoc] at hc
    rcases List.mem_append.mp hc with hc | hc
    · exact List.mem_append_left _ hc
    · refine List.mem_append_right _ (old ha ?_)
      exact (List.mem_append.mp hc).elim (hl _) (hb _)
  · have hnone : l.filterMap ClientMessage.transportRequest = [] := by
      rw [List.filterMap_eq_nil_iff]
      exact fun c hc => (hl c hc).elim h.buffered And.right
    rw [hs, List.filterMap_append, hnone, List.append_nil, h.sent]
  · exact (hb _ hc).elim h.buffered And.right

theorem opens (h : Requests uuid D s n) : Requests uuid D { s with ws := true } n :=
  h.frame rfl rfl (fun _ => rfl) (l := []) (by simp) (by simp) fun _ hc => .inl hc

theorem elapsed (h : Requests uuid D s n) (ms : Nat) :
    Requests uuid D { s with now := s.now + ms } n :=
  h.frame rfl rfl id (l := []) (by simp) (by simp) fun _ hc => .inl hc

theorem tick (h : Requests uuid D s n) : Requests uuid D s.tick n := by
  rcases s.tick_cases with e | ⟨l, hl, e⟩ <;> rw [e]
  · exact h
  · exact h.frame rfl rfl id rfl (fun c hc => .inl (hl c hc)) (by simp)

/-- A message that is no request. -/
theorem sendMessage (h : Requests uuid D s n) {m : ClientMessage} (hm : m.asks = none)
    (ht : m.transportRequest = none) : Requests uuid D (s.sendMessage m) n := by
  rcases s.sendMessage_cases m with ⟨-, e⟩ | ⟨-, buffer, timer, ticking, e, hb⟩ <;> rw [e]
  · exact h.frame rfl rfl id rfl (fun c hc => .inr (by simp_all)) fun c hc => .inl hc
  · refine h.frame rfl rfl id (l := []) (by simp) (by simp) fun c hc => ?_
    rcases hb c hc with hc | rfl
    · exact .inl hc
    · exact .inr ⟨hm, ht⟩

/-- The next request. -/
theorem request (hu : uuid.Injective) (h : Requests uuid D s n) {m : ClientMessage}
    (hm : Plans uuid n m) (hw : m.transportRequest = none ∨ s.ws = true) :
    Requests uuid D (s.request (uuid n) m) (n + 1) := by
  obtain ⟨t, ht, hp, hr, hws, l, hs, hl, hb⟩ : ∃ t, s.request (uuid n) m = t ∧
      t.promises = s.promises ++ [none] ∧ t.requests = s.requests.set (uuid n) n ∧ t.ws = s.ws ∧
      ∃ l, t.sent = s.sent ++ l ∧ (l = [m] ∨ l = [] ∧ m.transportRequest = none) ∧
      ∀ c ∈ t.buffer.map Prod.fst,
        c ∈ s.buffer.map Prod.fst ∨ c = m ∧ m.transportRequest = none := by
    refine ⟨_, rfl, ?_⟩
    rw [ServerConnection.request]
    rw [h.promises]
    rcases ServerConnection.sendMessage_cases { s with
        requests := s.requests.set (uuid n) n, promises := s.promises ++ [none] } m with
      ⟨-, e⟩ | ⟨hwf, buffer, timer, ticking, e, hb⟩ <;> rw [e]
    · exact ⟨rfl, rfl, rfl, [m], rfl, .inl rfl, fun c hc => .inl hc⟩
    · have hshut : s.ws = false := hwf
      have hnone : m.transportRequest = none := hw.resolve_right (by simp [hshut])
      exact ⟨rfl, rfl, rfl, [], by simp, .inr ⟨rfl, hnone⟩,
        fun c hc => (hb c hc).imp_right fun e => ⟨e, hnone⟩⟩
  rw [ht]
  have hsettled : ∀ p, t.settled p = s.settled p := fun p => by
    rw [ServerConnection.settled, ServerConnection.settled, hp]
    rcases Nat.lt_trichotomy p s.promises.length with hlt | rfl | hgt
    · rw [List.getElem?_append_left hlt]
    · simp
    · rw [List.getElem?_eq_none (by simp; omega), List.getElem?_eq_none (Nat.le_of_lt hgt)]
  refine ⟨?_, fun {q p} => ?_, fun hm => h.settled (hsettled _ ▸ hm),
    fun hm hq => hsettled _ ▸ h.delivered hm hq, fun hD => hws ▸ h.opened hD, fun hm hb => ?_,
    fun {c a} hc ha => ?_, ?_, fun hc => ?_⟩
  · rw [hp, List.length_append, h.promises]
    rfl
  · rw [hr, LiveMap.get_set]
    split
    · next e =>
        subst e
        constructor
        · intro e
          cases e
          exact ⟨Nat.lt_succ_self _, rfl⟩
        · rintro ⟨-, e⟩
          exact congrArg some (hu e)
    · next hne =>
        rw [h.get]
        constructor
        · rintro ⟨hlt, e⟩
          exact ⟨Nat.lt_succ_of_lt hlt, e⟩
        · rintro ⟨hlt, rfl⟩
          exact ⟨Nat.lt_of_le_of_ne (Nat.le_of_lt_succ hlt) fun e => hne (e ▸ rfl), rfl⟩
  · obtain ⟨c, hc, a, ha, hf⟩ := h.answered hm hb
    exact ⟨c, hs ▸ List.mem_append_left _ hc, a, ha, hf⟩
  · have hnew : c ∈ s.outgoing ∨ c = m := by
      rw [ServerConnection.outgoing, hs, List.append_assoc] at hc
      rcases List.mem_append.mp hc with hc | hc
      · exact .inl (List.mem_append_left _ hc)
      · rcases List.mem_append.mp hc with hc | hc
        · rcases hl with rfl | ⟨rfl, -⟩
          · exact .inr (List.mem_singleton.mp hc)
          · cases hc
        · exact (hb c hc).imp (List.mem_append_right _) And.left
    rcases hnew with hc | rfl
    · obtain ⟨i, hi, hid, hplan⟩ := h.asked hc ha
      exact ⟨i, Nat.lt_succ_of_lt hi, hid, hplan⟩
    · exact ⟨n, Nat.lt_succ_self _, hm.id ha, hm.planned⟩
  · rw [hs, List.filterMap_append, h.sent, planned, planned, List.range_succ,
      List.filterMap_append]
    congr 1
    rcases hl with rfl | ⟨rfl, hnone⟩
    · simp only [List.filterMap_cons, List.filterMap_nil, hm.transport]
    · simp [← hm.transport, hnone]
  · rcases hb _ hc with hc | ⟨rfl, hnone⟩
    · exact h.buffered hc
    · exact hnone

/-- The websocket delivers a message. -/
theorem resolveRequest (hu : uuid.Injective) (h : Requests uuid D s n) (hw : s.ws = true)
    {m : ServerMessage} (hm : ∀ b, m.answer = some b → AskedFor s.sent b) :
    Requests uuid (D ++ [m]) (s.resolveRequest m) n := by
  obtain ⟨hp, hr, hws, hs, hb⟩ : (s.resolveRequest m).promises.length = s.promises.length ∧
      (s.resolveRequest m).requests = s.requests ∧ (s.resolveRequest m).ws = s.ws ∧
      (s.resolveRequest m).sent = s.sent ∧ (s.resolveRequest m).buffer = s.buffer := by
    rw [ServerConnection.resolveRequest]
    split
    · exact ⟨rfl, rfl, rfl, rfl, rfl⟩
    · exact ⟨List.length_modify .., rfl, rfl, rfl, rfl⟩
  refine ⟨hp.trans h.promises, hr ▸ h.get, fun {p m'} hm' => ?_, fun {m' i} hm' hq => ?_,
    fun _ => hws.trans hw, fun hm' hb' => ?_, ?_, hs ▸ h.sent, hb ▸ h.buffered⟩
  · rw [s.settled_resolveRequest] at hm'
    split at hm'
    · next hc =>
        cases hold : s.settled p with
        | some x =>
            rw [hold] at hm'
            cases hm'
            exact ⟨List.mem_append_left _ (h.settled hold).1, (h.settled hold).2⟩
        | none =>
            rw [hold] at hm'
            cases hm'
            obtain ⟨q, hq, hg⟩ := Option.bind_eq_some_iff.mp hc.1
            exact ⟨by simp, (h.get.mp hg).2 ▸ hq⟩
    · exact ⟨List.mem_append_left _ (h.settled hm').1, (h.settled hm').2⟩
  · rw [s.settled_resolveRequest]
    split
    · rfl
    · next hc =>
        rcases List.mem_append.mp hm' with hm' | hm'
        · exact h.delivered hm' hq
        · -- the response to the request `i`, which was made
          obtain rfl := List.mem_singleton.mp hm'
          obtain ⟨b, hb, hid⟩ := responseTo_eq_some.mp hq
          obtain ⟨c, hc', a, ha, hf⟩ := hm b hb
          obtain ⟨j, hj, hid', -⟩ := h.asked (List.mem_append_left _ hc') ha
          obtain rfl : j = i := hu (hid'.symm.trans (hf.requestId.symm.trans hid))
          refine absurd ⟨?_, h.promises ▸ hj⟩ hc
          rw [hq]
          exact h.get.mpr ⟨hj, rfl⟩
  · rw [hs]
    rcases List.mem_append.mp hm' with hm' | hm'
    · exact h.answered hm' hb'
    · obtain rfl := List.mem_singleton.mp hm'
      exact hm _ hb'
  · rw [ServerConnection.outgoing, hs, hb]
    exact h.asked

end Requests

/-! ### The course of `connect` -/

namespace MediasoupService

/-- Where `connect` stands after `n` requests: it has asked for its transports in order, and it has
stored them when it asks to join. -/
def Stage (s : MediasoupService) : Prop :=
  match s.connecting with
  | .idle | .server => s.uuids = 0 ∧ s.sndTransport = none ∧ s.rcvTransport = none
  | .capabilities p => p = 0 ∧ s.uuids = 1 ∧ s.sndTransport = none ∧ s.rcvTransport = none
  | .loading _ =>
      s.serverConnection.ws = true ∧ s.uuids = 1 ∧ s.sndTransport = none ∧ s.rcvTransport = none
  | .transports snd rcv =>
      (∀ p, snd = .requested p → p = 1) ∧ (∀ p, rcv = .requested p → p = 2) ∧ s.uuids = 3 ∧
        s.sndTransport = none ∧ s.rcvTransport = none
  | .joining _ | .connected => 3 ≤ s.uuids ∧ s.rcvTransport.isSome = true
  | .failed => False

/-- The messages in `D` were delivered, and no notification was turned away. -/
structure Connects (uuid : Nat → RequestId) (D : List ServerMessage) (s : MediasoupService) :
    Prop where
  requests : Requests uuid D s.serverConnection s.uuids
  stage : s.Stage
  accepted : s.rejected = []

section Turns

variable {uuid : Nat → RequestId} {D : List ServerMessage} {s s' : MediasoupService} {e : Event}

theorem connects_new (uuid : Nat → RequestId) (config : ServerConnectionConfig) :
    Connects uuid [] (.new config) :=
  ⟨.nil uuid config, ⟨rfl, rfl, rfl⟩, rfl⟩

/-- With a transport, `connect` is past them. -/
theorem Stage.past (h : s.Stage)
    (ht : s.sndTransport.isSome = true ∨ s.rcvTransport.isSome = true) :
    3 ≤ s.uuids ∧ s.rcvTransport.isSome = true ∧
      ((∃ p, s.connecting = .joining p) ∨ s.connecting = .connected) := by
  have none : s.sndTransport = none → s.rcvTransport = none → False := fun h₁ h₂ => by
    simp [h₁, h₂] at ht
  cases hc : s.connecting with
  | idle | server =>
      simp only [Stage, hc] at h
      exact (none h.2.1 h.2.2).elim
  | capabilities | loading =>
      simp only [Stage, hc] at h
      exact (none h.2.2.1 h.2.2.2).elim
  | transports =>
      simp only [Stage, hc] at h
      exact (none h.2.2.2.1 h.2.2.2.2).elim
  | joining p =>
      simp only [Stage, hc] at h
      exact ⟨h.1, h.2, .inl ⟨p, rfl⟩⟩
  | connected =>
      simp only [Stage, hc] at h
      exact ⟨h.1, h.2, .inr rfl⟩
  | failed => simp only [Stage, hc] at h

theorem Stage.serverConnection (h : s.Stage) {c : ServerConnection}
    (hw : s.serverConnection.ws = true → c.ws = true) :
    Stage { s with serverConnection := c } := by
  cases hc : s.connecting with
  | loading caps =>
      simp only [Stage, hc] at h ⊢
      exact ⟨hw h.1, h.2⟩
  | failed => simp only [Stage, hc] at h
  | _ => simpa only [Stage, hc] using h

/-- The promises that the calls of `_createTransport` wait for. -/
theorem Stage.requested (h : s.Stage) (uuid : Nat → RequestId) {role : Role} {p : PromiseRef}
    (hc : s.connecting.call role = some (.requested p)) :
    plan uuid p = some (.createTransportRequest (uuid p) role) := by
  cases hs : s.connecting with
  | transports snd rcv =>
      simp only [Stage, hs] at h
      rw [hs] at hc
      cases role with
      | producing =>
          obtain rfl := h.1 p (by simpa [Connecting.call] using hc)
          rfl
      | consuming =>
          obtain rfl := h.2.1 p (by simpa [Connecting.call] using hc)
          rfl
  | _ =>
      rw [hs] at hc
      cases role <;> cases hc

/-- A call of `_createTransport` goes on. -/
theorem Stage.setCall (h : s.Stage) (role : Role) (t : TransportId) :
    Stage { s with connecting := s.connecting.setCall role (.created t) } := by
  cases hs : s.connecting with
  | transports snd rcv =>
      simp only [Stage, hs] at h
      cases role with
      | producing => exact ⟨by simp, h.2⟩
      | consuming => exact ⟨h.1, by simp, h.2.2⟩
  | failed => simp only [Stage, hs] at h
  | _ => cases role <;> simpa only [Stage, hs, Connecting.setCall] using h

/-- A request of a client whose transports are there. -/
theorem Connects.request (hu : uuid.Injective) (h : Connects uuid D s)
    (ht : s.sndTransport.isSome = true ∨ s.rcvTransport.isSome = true)
    {message : RequestId → ClientMessage}
    (hid : ∀ {q a}, (message q).asks = some a → a.requestId = q)
    (hm : ∀ q, (message q).transportRequest = none) : Connects uuid D (s.request uuid message) := by
  obtain ⟨hn, hr, hc⟩ := h.stage.past ht
  refine ⟨h.requests.request hu (plans_later hn hid (hm _)) (.inl (hm _)), ?_, h.accepted⟩
  rcases hc with ⟨p, hc⟩ | hc <;>
  · simp only [Stage, MediasoupService.request, hc]
    exact ⟨Nat.le_succ_of_le hn, hr⟩

/-- `connect` asks for its two transports, on an open websocket. -/
theorem Connects.loaded (hu : uuid.Injective) (h : Connects uuid D s) {routerCaps : RtpCapabilities}
    (hc : s.connecting = .loading routerCaps) (caps : RtpCapabilities) :
    Connects uuid D (s.loaded uuid caps) := by
  have hs := h.stage
  simp only [Stage, hc] at hs
  obtain ⟨hw, hn, hsnd, hrcv⟩ := hs
  have plans : ∀ {i r}, plan uuid i = some (.createTransportRequest (uuid i) r) →
      Plans uuid i (.createTransportRequest (uuid i) r) := fun hp =>
    ⟨by simp [ClientMessage.asks], by rw [hp]; rfl, by simp [hp]⟩
  have h₀ := h.requests
  rw [hn] at h₀
  have h₁ := h₀.sendMessage (m := .clientRtpCapabilities caps) rfl rfl
  have hw₁ := (s.serverConnection.ws_sendMessage (.clientRtpCapabilities caps)).trans hw
  have h₂ := h₁.request hu (plans (r := .producing) rfl) (.inr hw₁)
  have h₃ := h₂.request hu (plans (r := .consuming) rfl)
    (.inr ((ServerConnection.ws_request _ _ _).trans hw₁))
  refine ⟨?_, ?_, h.accepted⟩
  · simp only [MediasoupService.loaded, MediasoupService.request, hn]
    exact h₃
  · refine ⟨fun p e => ?_, fun p e => ?_, congrArg (· + 2) hn, hsnd, hrcv⟩
    · cases e
      exact h₁.promises
    · cases e
      simp only [promise, MediasoupService.request, hn]
      exact h₂.promises

/-- **One turn of `connect`** in which the websocket delivers nothing. -/
theorem Connects.turn (hu : uuid.Injective) (h : Connects uuid D s) (ht : Turn uuid s e s')
    (he : e.isMessage = false) : Connects uuid D s' := by
  cases ht with
  | connect hc =>
      have hs := h.stage
      simp only [Stage, hc] at hs
      exact ⟨h.requests, hs, h.accepted⟩
  | opened =>
      exact ⟨h.requests.opens, h.stage.serverConnection fun _ => rfl, h.accepted⟩
  | tick =>
      exact ⟨h.requests.tick, h.stage.serverConnection s.serverConnection.ws_tick.trans, h.accepted⟩
  | elapsed => exact ⟨h.requests.elapsed _, h.stage, h.accepted⟩
  | message => cases he
  | server hc =>
      have hs := h.stage
      simp only [Stage, hc] at hs
      obtain ⟨hn, hsnd, hrcv⟩ := hs
      refine ⟨?_, ?_, h.accepted⟩
      · refine h.requests.request hu ⟨?_, ?_, ?_⟩ (.inl rfl)
        · simp [ClientMessage.asks]
        · simp [hn, plan, ClientMessage.transportRequest]
        · simp [hn, plan]
      · simp only [Stage, MediasoupService.request, hn, hsnd, hrcv, promise, h.requests.promises]
        simp
  | capabilities hc hp =>
      have hs := h.stage
      simp only [Stage, hc] at hs
      exact ⟨h.requests, ⟨h.requests.opened (List.ne_nil_of_mem (h.requests.settled hp).1), hs.2⟩,
        h.accepted⟩
  | loaded hc => exact h.loaded hu hc _
  | @transportCreated role p q t info hc hp =>
      exact ⟨h.requests, h.stage.setCall role t, h.accepted⟩
  | transports hc =>
      have hs := h.stage
      simp only [Stage, hc] at hs
      obtain ⟨-, -, hn, -, -⟩ := hs
      refine ⟨?_, ?_, h.accepted⟩
      · exact h.requests.request hu (plans_later (Nat.le_of_eq hn.symm)
          (by simp [ClientMessage.asks]) rfl) (.inl rfl)
      · simp [Stage, MediasoupService.request, hn]
  | joined hc hp =>
      have hs := h.stage
      simp only [Stage, hc] at hs
      exact ⟨h.requests, hs, h.accepted⟩
  | @incapable p m hc hp hm =>
      have hs := h.stage
      simp only [Stage, hc] at hs
      obtain ⟨a, b, ha, hb, hf⟩ := h.requests.answer hu hp
        (c := .getRouterCapabilitiesRequest (uuid 0)) (by rw [hs.1]; rfl)
      cases ha
      obtain ⟨q, caps, rfl⟩ := capabilities_of_answer hb (hf.type (by simp))
      exact absurd rfl (hm q caps)
  | transportFailed hc hp hm =>
      obtain ⟨a, b, ha, hb, hf⟩ := h.requests.answer hu hp (h.stage.requested uuid hc)
      cases ha
      obtain ⟨q, t, info, rfl⟩ := transport_of_answer hb (hf.type (by simp))
      exact absurd rfl (hm q t info)
  | consumed hn => exact ⟨h.requests, h.stage, h.accepted⟩
  | consumerClosed => exact ⟨h.requests, h.stage, h.accepted⟩
  | @transportConnect role dtls ht =>
      refine h.request hu ?_ (by simp [ClientMessage.asks]) fun _ => rfl
      cases role with
      | producing => exact .inl ht
      | consuming => exact .inr ht
  | produce ht => exact h.request hu (.inl ht) (by simp [ClientMessage.asks]) fun _ => rfl

theorem serverConnection_onmessage (s : MediasoupService) (m : ServerMessage) :
    (s.onmessage m).serverConnection = s.serverConnection.resolveRequest m := by
  cases m with
  | consumerCreatedNotification k p kind rtp c =>
      simp only [onmessage, consumerCreated]
      split <;> rfl
  | consumerClosedNotification k =>
      simp only [onmessage, consumerClosed]
      split <;> rfl
  | _ => rfl

/-- When both transports were answered and no continuation is due, the receiving transport is
there. -/
theorem Connects.ready (h : Connects uuid D s) (hdue : s.due = false)
    (h₁ : (s.serverConnection.settled 1).isSome = true)
    (h₂ : (s.serverConnection.settled 2).isSome = true) : s.rcvTransport.isSome = true := by
  have hs := h.stage
  have hlt := h.requests.settled_lt h₂
  cases hc : s.connecting with
  | idle | server | capabilities | loading =>
      simp only [Stage, hc] at hs
      simp [hs] at hlt
  | transports snd rcv =>
      simp only [Stage, hc] at hs
      obtain ⟨hsnd, hrcv, -⟩ := hs
      -- a call of `_createTransport` that was answered goes on, and so does `Promise.all`
      exfalso
      cases snd with
      | requested p =>
          obtain rfl := hsnd p rfl
          cases rcv <;> simp [due, hc, TransportCall.awaits, h₁] at hdue
      | created snd =>
          cases rcv with
          | requested p =>
              obtain rfl := hrcv p rfl
              simp [due, hc, TransportCall.awaits, h₂] at hdue
          | created rcv => simp [due, hc] at hdue
  | joining | connected =>
      simp only [Stage, hc] at hs
      exact hs.2
  | failed => simp only [Stage, hc] at hs

/-- **A message is delivered** when no continuation is due. -/
theorem Connects.message (hu : uuid.Injective) (h : Connects uuid D s)
    (hw : s.serverConnection.ws = true) (hdue : s.due = false) {m : ServerMessage}
    (hm : ∀ b, m.answer = some b → AskedFor s.serverConnection.sent b)
    (hn : ∀ k p kind rtp c, m = .consumerCreatedNotification k p kind rtp c →
      (∃ t info, .createTransportResponse (uuid 1) t info ∈ D) ∧
        ∃ t info, .createTransportResponse (uuid 2) t info ∈ D) :
    Connects uuid (D ++ [m]) (s.onmessage m) := by
  have hr : Requests uuid (D ++ [m]) (s.onmessage m).serverConnection s.uuids :=
    serverConnection_onmessage s m ▸ h.requests.resolveRequest hu hw hm
  cases m with
  | consumerCreatedNotification k p kind rtp c =>
      obtain ⟨⟨t₁, i₁, hm₁⟩, t₂, i₂, hm₂⟩ := hn k p kind rtp c rfl
      obtain ⟨t, ht⟩ := Option.isSome_iff_exists.mp
        (h.ready hdue (h.requests.delivered hm₁ rfl) (h.requests.delivered hm₂ rfl))
      have e : s.onmessage (.consumerCreatedNotification k p kind rtp c) =
          { s with consuming := s.consuming ++ [some ⟨t, k, kind, rtp, p, c⟩] } := by
        simp only [onmessage, consumerCreated]
        split
        · next hnone => cases hnone.symm.trans ht
        · next t' ht' =>
            cases ht'.symm.trans ht
            rfl
      rw [e] at hr ⊢
      exact ⟨hr, h.stage, h.accepted⟩
  | consumerClosedNotification k =>
      simp only [onmessage, consumerClosed] at hr ⊢
      split at hr <;> exact ⟨hr, h.stage, h.accepted⟩
  | _ =>
      exact ⟨hr, h.stage.serverConnection fun _ => hr.opened (by simp), h.accepted⟩

end Turns

end MediasoupService

end DemoApp.Webapp
