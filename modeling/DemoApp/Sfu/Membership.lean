import DemoApp.Sfu.Ghosts
import DemoApp.Sfu.Provenance

/-!
# Sfu — Membership

Who is in which room.  A websocket names its room and its client in the query string, and gets there
by way of a call of `getOrCreateRoom`, a creation and a room.

* `Rooms.Lived`: what a room of the registry has been through is a run of the room by itself, so
  that what holds in every run of a room holds of every room of the server.
* `Rooms.Aimed`: a call is answered with a room of the id it was made for.
* `members_connected`: every client of every room is the client of one websocket, which asked for
  this room under the ids that the room has for it.
* `media_stays_in_room`: a client is told of media only of a client whose websocket asked for the
  same room, and under the ids that that websocket gave.
-/

namespace DemoApp.Sfu
open Machine

/-! ### The rooms -/

namespace Rooms

variable {s s' : Rooms} {e : Event}

/-- A room stays, with what it never changes. -/
theorem room_kept (he : s.step e = some s') {r : Nat} {x : Room} (h : s.room[r]? = some x) :
    ∃ x', s'.room[r]? = some x' ∧ x.Later x' := by
  cases step_turn he with
  | getOrCreateRoom id =>
      refine ⟨x, ?_, .refl x⟩
      rw [Rooms.getOrCreateRoom]
      split
      · exact h
      · split <;> exact h
  | routerCreated | routerFailed | finally_ | settled => exact ⟨x, h, .refl x⟩
  | @then_ _ _ result =>
      cases result with
      | error => exact ⟨x, h, .refl x⟩
      | ok => exact ⟨x, Cells.append_of_some h, .refl x⟩
  | @room q y y' e' hr hx =>
      by_cases e : r = q
      · subst e
        cases h.symm.trans hr
        exact ⟨y', Cells.set_eq_some.mpr (.inl ⟨rfl, Cells.lt_of_some h, rfl⟩),
          Room.later_turn (Room.step_turn hx)⟩
      · exact ⟨x, Cells.set_eq_some.mpr (.inr ⟨e, h⟩), .refl x⟩

theorem roomId_later {x x' : Room} (h : x.Later x') : x'.roomId = x.roomId := by
  rw [Room.roomId, Room.roomId, h.config]

/-- Every room has come to where it is by a run of its own. -/
structure Lived (s : Rooms) : Prop where
  fresh : ∀ {k : Nat} {id router}, s.creations[k]? = some ⟨id, .created (.ok router)⟩ →
    ∃ callId caps, router = createRouter callId caps
  room : ∀ {r : Nat} {x}, s.room[r]? = some x → ∃ config callId caps es,
    exec Room.step (.new config (createRouter callId caps)) es = some x

namespace Lived

/-- A creation goes on to a stage that holds no router. -/
theorem fresh_set (h : s.Lived) {k : CreationRef} {id : RoomId} {stage : Stage}
    (hs : ∀ router, stage = .created (.ok router) →
      ∃ callId caps, router = createRouter callId caps)
    {j : Nat} {id' router}
    (hj : (s.creations.set k ⟨id, stage⟩)[j]? = some ⟨id', .created (.ok router)⟩) :
    ∃ callId caps, router = createRouter callId caps := by
  rcases Cells.set_eq_some.mp hj with ⟨-, -, e⟩ | ⟨-, hj⟩
  · exact hs router (congrArg Creation.stage e).symm
  · exact h.fresh hj

theorem step (h : s.Lived) (he : s.step e = some s') : s'.Lived := by
  cases step_turn he with
  | getOrCreateRoom id =>
      rw [Rooms.getOrCreateRoom]
      split
      · exact ⟨h.fresh, h.room⟩
      · split
        · exact ⟨h.fresh, h.room⟩
        · refine ⟨fun {k id' router} hk => ?_, h.room⟩
          rcases Cells.concat_eq_some.mp hk with hk | ⟨-, e⟩
          · exact h.fresh hk
          · cases congrArg Creation.stage e
  | routerCreated id caps hk =>
      refine ⟨h.fresh_set fun router e => ?_, h.room⟩
      cases e
      exact ⟨id, caps, rfl⟩
  | routerFailed _ hk => exact ⟨h.fresh_set (by intro _ e; cases e), h.room⟩
  | finally_ hk => exact ⟨h.fresh_set (by intro _ e; cases e), h.room⟩
  | @then_ k id result hk =>
      cases result with
      | error => exact ⟨h.fresh_set (by intro _ e; cases e), h.room⟩
      | ok router =>
          refine ⟨h.fresh_set (by intro _ e; cases e), fun {r x} hx => ?_⟩
          rcases Cells.concat_eq_some.mp hx with hx | ⟨-, rfl⟩
          · exact h.room hx
          · obtain ⟨callId, caps, rfl⟩ := h.fresh hk
            exact ⟨_, callId, caps, [], rfl⟩
  | settled => exact ⟨h.fresh, h.room⟩
  | @room r x x' e' hr hx =>
      refine ⟨h.fresh, fun {q y} hy => ?_⟩
      rcases Cells.set_eq_some.mp hy with ⟨rfl, -, rfl⟩ | ⟨-, hy⟩
      · obtain ⟨config, callId, caps, es, hes⟩ := h.room hr
        exact ⟨config, callId, caps, es ++ [e'], exec_snoc.mpr ⟨x, hes, hx⟩⟩
      · exact h.room hy

end Lived

/-- A creation makes a room of its id, and a call is promised one of the id it was made for. -/
structure Aimed (s : Rooms) : Prop where
  creation : ∀ {k : Nat} {id stage r}, s.creations[k]? = some ⟨id, stage⟩ →
    stage.outcome = some (.ok r) → ∃ x, s.room[r]? = some x ∧ x.roomId = id
  room : ∀ {c : Nat} {id r o}, s.calls[c]? = some ⟨id, .room r, o⟩ →
    ∃ x, s.room[r]? = some x ∧ x.roomId = id
  promised : ∀ {c : Nat} {id k o}, s.calls[c]? = some ⟨id, .creation k, o⟩ →
    ∃ stage, s.creations[k]? = some ⟨id, stage⟩

namespace Aimed

theorem outcome (h : s.Aimed) {c : Nat} {call : Call} (hc : s.calls[c]? = some call) {r : RoomRef}
    (ho : s.promisedOutcome call.promised = some (.ok r)) :
    ∃ x, s.room[r]? = some x ∧ x.roomId = call.roomId := by
  obtain ⟨id, p, o⟩ := call
  cases p with
  | room q => cases ho; exact h.room hc
  | creation k =>
      obtain ⟨stage, hk⟩ := h.promised hc
      simp only [promisedOutcome, hk, Option.bind_some] at ho
      exact h.creation hk ho

/-- A room stays where it is. -/
theorem room_later (he : s.step e = some s') {r : Nat} {id : RoomId}
    (h : ∃ x, s.room[r]? = some x ∧ x.roomId = id) :
    ∃ x, s'.room[r]? = some x ∧ x.roomId = id := by
  obtain ⟨x, hx, hid⟩ := h
  obtain ⟨x', hx', hl⟩ := room_kept he hx
  exact ⟨x', hx', (roomId_later hl).trans hid⟩

theorem getOrCreateRoom (h : s.Aimed) (hf : s.Flight) (id : RoomId) :
    (s.getOrCreateRoom id).Aimed := by
  rw [Rooms.getOrCreateRoom]
  split
  · next r hr =>
      -- the room is stored under this id
      refine ⟨h.creation, fun {c id' q o} hc => ?_, fun {c id' k o} hc => ?_⟩
      · rcases Cells.concat_eq_some.mp hc with hc | ⟨-, e⟩
        · exact h.room hc
        · cases e; exact hf.stored hr
      · rcases Cells.concat_eq_some.mp hc with hc | ⟨-, e⟩
        · exact h.promised hc
        · cases e
  · split
    · next k hk =>
        -- its creation is under way
        refine ⟨h.creation, fun {c id' q o} hc => ?_, fun {c id' k' o} hc => ?_⟩
        · rcases Cells.concat_eq_some.mp hc with hc | ⟨-, e⟩
          · exact h.room hc
          · cases e
        · rcases Cells.concat_eq_some.mp hc with hc | ⟨-, e⟩
          · exact h.promised hc
          · cases e
            obtain ⟨stage, hs, -⟩ := hf.entry hk
            exact ⟨stage, hs⟩
    · refine ⟨fun {k id' stage r} hk ho => ?_, fun {c id' q o} hc => ?_, fun {c id' k o} hc => ?_⟩
      · rcases Cells.concat_eq_some.mp hk with hk | ⟨-, e⟩
        · exact h.creation hk ho
        · cases e; cases ho
      · rcases Cells.concat_eq_some.mp hc with hc | ⟨-, e⟩
        · exact h.room hc
        · cases e
      · rcases Cells.concat_eq_some.mp hc with hc | ⟨-, e⟩
        · obtain ⟨stage, hs⟩ := h.promised hc
          exact ⟨stage, Cells.append_of_some hs⟩
        · cases e
          exact ⟨_, List.getElem?_concat_length⟩

/-- A creation goes on, and is settled as a room of its id. -/
theorem setStage (h : s.Aimed) {rooms : List Room} {k : CreationRef} {id : RoomId}
    {before stage : Stage} (hk : s.creations[k]? = some ⟨id, before⟩)
    (hr : ∀ {r : Nat} {i}, (∃ x, s.room[r]? = some x ∧ x.roomId = i) →
      ∃ x, rooms[r]? = some x ∧ x.roomId = i)
    (ho : ∀ r, stage.outcome = some (.ok r) → ∃ x, rooms[r]? = some x ∧ x.roomId = id)
    {m : LiveMap RoomId CreationRef} {m' : LiveMap RoomId RoomRef} :
    Aimed { s with
      creations     := s.creations.set k ⟨id, stage⟩
      room          := rooms
      creatingRooms := m
      rooms         := m' } := by
  refine ⟨fun {j id' st r} hj hout => ?_, fun hc => hr (h.room hc), fun {c id' j o} hc => ?_⟩
  · rcases Cells.set_eq_some.mp hj with ⟨-, -, e⟩ | ⟨-, hj⟩
    · cases e; exact ho r hout
    · exact hr (h.creation hj hout)
  · obtain ⟨st, hj⟩ := h.promised hc
    by_cases e : j = k
    · subst e
      cases hk.symm.trans hj
      exact ⟨stage, Cells.set_eq_some.mpr (.inl ⟨rfl, Cells.lt_of_some hk, rfl⟩)⟩
    · exact ⟨st, Cells.set_eq_some.mpr (.inr ⟨e, hj⟩)⟩

theorem step (h : s.Aimed) (hf : s.Flight) (he : s.step e = some s') : s'.Aimed := by
  have hlater : ∀ {r : Nat} {id}, (∃ x, s.room[r]? = some x ∧ x.roomId = id) →
      ∃ x, s'.room[r]? = some x ∧ x.roomId = id := room_later he
  cases step_turn he with
  | getOrCreateRoom id => exact h.getOrCreateRoom hf id
  | routerCreated id caps hk => exact h.setStage hk (fun h => h) (by intro r e; cases e)
  | routerFailed _ hk => exact h.setStage hk (fun h => h) (by intro r e; cases e)
  | @finally_ k id outcome hk =>
      have ho : ∀ r, (Stage.done outcome).outcome = some (.ok r) →
          ∃ x, s.room[r]? = some x ∧ x.roomId = id := fun r ho => h.creation hk ho
      exact h.setStage hk (fun h => h) ho
  | @then_ k id result hk =>
      cases result with
      | error => exact h.setStage hk (fun h => h) (by intro r e; cases e)
      | ok router =>
          refine h.setStage hk hlater fun r ho => ?_
          cases ho
          exact ⟨_, List.getElem?_concat_length, rfl⟩
  | @settled c id p o hc hp =>
      refine ⟨h.creation, fun {c' id' r o'} hc' => ?_, fun {c' id' k o'} hc' => ?_⟩
      · rcases Cells.set_eq_some.mp hc' with ⟨rfl, -, e⟩ | ⟨-, hc'⟩
        · cases e; exact h.room hc
        · exact h.room hc'
      · rcases Cells.set_eq_some.mp hc' with ⟨rfl, -, e⟩ | ⟨-, hc'⟩
        · cases e; exact h.promised hc
        · exact h.promised hc'
  | room => exact ⟨fun hk ho => hlater (h.creation hk ho), fun hc => hlater (h.room hc), h.promised⟩

end Aimed

/-- A call stays one for its room. -/
theorem call_kept (he : s.step e = some s') {c : Nat} {call : Call} (hc : s.calls[c]? = some call) :
    ∃ call', s'.calls[c]? = some call' ∧ call'.roomId = call.roomId := by
  rcases calls_step he with ⟨id, p, -, e⟩ | ⟨c', id, p, o, -, hc', -, e⟩ | e <;> rw [e]
  · exact ⟨call, Cells.append_of_some hc, rfl⟩
  · by_cases e : c = c'
    · subst e
      cases hc.symm.trans hc'
      exact ⟨_, Cells.set_eq_some.mpr (.inl ⟨rfl, Cells.lt_of_some hc, rfl⟩), rfl⟩
    · exact ⟨call, Cells.set_eq_some.mpr (.inr ⟨e, hc⟩), rfl⟩
  · exact ⟨call, hc, rfl⟩

end Rooms

/-! ### The websockets -/

namespace Server

variable {s s' : Server} {e : Event}

theorem room_kept (he : s.step e = some s') {r : Nat} {x : Room} (h : s.rooms.room[r]? = some x) :
    ∃ x', s'.rooms.room[r]? = some x' ∧ x.Later x' :=
  rooms_step (I := fun y => ∃ x', y.room[r]? = some x' ∧ x.Later x') he
    (fun _ _ _ _ ⟨_, hy, hl⟩ hstep => by
      obtain ⟨x', hx', hl'⟩ := Rooms.room_kept hstep hy
      exact ⟨x', hx', hl.trans hl'⟩)
    ⟨x, h, .refl x⟩

theorem call_kept (he : s.step e = some s') {c : Nat} {call : Call}
    (h : s.rooms.calls[c]? = some call) :
    ∃ call', s'.rooms.calls[c]? = some call' ∧ call'.roomId = call.roomId :=
  rooms_step (I := fun y => ∃ call', y.calls[c]? = some call' ∧ call'.roomId = call.roomId) he
    (fun _ _ _ _ ⟨_, hy, hl⟩ hstep => by
      obtain ⟨call', hc', hl'⟩ := Rooms.call_kept hstep hy
      exact ⟨call', hc', hl'.trans hl⟩)
    ⟨call, h, rfl⟩

/-- The websocket asked for this room under these ids. -/
def AskedAs (so : Socket) (x : Room) (c : ClientRef) : Prop :=
  so.query.ids = some (x.roomId, (x.client c).clientId) ∧ so.query.userId = (x.client c).userId

/-- The calls and the clients of the websockets are those their queries ask for. -/
structure Named (s : Server) : Prop where
  call : ∀ {w : Nat} {so c}, s.sockets[w]? = some so → so.call = some c →
    ∃ roomId clientId call, so.query.ids = some (roomId, clientId) ∧
      s.rooms.calls[c]? = some call ∧ call.roomId = roomId
  client : ∀ {w : Nat} {so r c}, s.sockets[w]? = some so → so.client = some (r, c) →
    ∃ x, s.rooms.room[r]? = some x ∧ c < x.added ∧ AskedAs so x c
  own : ∀ {w w' : Nat} {so so' x}, s.sockets[w]? = some so → s.sockets[w']? = some so' →
    so.client = some x → so'.client = some x → w = w'

theorem askedAs_later {so : Socket} {x x' : Room} {c : ClientRef} (h : AskedAs so x c)
    (hc : c < x.added) (hl : x.Later x') : AskedAs so x' c := by
  obtain ⟨h₁, h₂⟩ := h
  refine ⟨?_, h₂.trans (hl.userId c hc).symm⟩
  rw [Rooms.roomId_later hl, hl.clientId c hc]
  exact h₁

namespace Named

/-- The websockets keep their queries, their calls and their clients. -/
theorem same (h : s.Named) (he : s.step e = some s')
    (hs : ∀ {w : Nat} {so'}, s'.sockets[w]? = some so' → ∃ so, s.sockets[w]? = some so ∧
      so'.query = so.query ∧ so'.call = so.call ∧ so'.client = so.client) : s'.Named := by
  refine ⟨fun {w so' c} hw hc => ?_, fun {w so' r c} hw hc => ?_,
    fun {w w' so₁ so₂ x} hw hw' hc hc' => ?_⟩
  · obtain ⟨so, hso, eq, ec, -⟩ := hs hw
    obtain ⟨roomId, clientId, call, hid, hcall, hr⟩ := h.call hso (ec ▸ hc)
    obtain ⟨call', hcall', hr'⟩ := call_kept he hcall
    exact ⟨roomId, clientId, call', by rw [eq]; exact hid, hcall', hr'.trans hr⟩
  · obtain ⟨so, hso, eq, -, ecl⟩ := hs hw
    obtain ⟨x, hx, hlt, ha⟩ := h.client hso (ecl ▸ hc)
    obtain ⟨x', hx', hl⟩ := room_kept he hx
    refine ⟨x', hx', Nat.lt_of_lt_of_le hlt hl.added, ?_⟩
    rw [AskedAs, eq]
    exact askedAs_later ha hlt hl
  · obtain ⟨y, hy, -, -, ey⟩ := hs hw
    obtain ⟨z, hz, -, -, ez⟩ := hs hw'
    exact h.own hy hz (ey ▸ hc) (ez ▸ hc')

/-- One websocket changes, but for these. -/
theorem setSocket (h : s.Named) {rooms : Rooms} {w : Nat} {so so' : Socket}
    (he : s.step e = some ({ s with rooms }.setSocket w so')) (hw : s.sockets[w]? = some so)
    (hq : so'.query = so.query) (hc : so'.call = so.call) (hcl : so'.client = so.client) :
    ({ s with rooms }.setSocket w so').Named := by
  refine h.same he fun {w' y} hy => ?_
  rcases Cells.set_eq_some.mp hy with ⟨rfl, -, rfl⟩ | ⟨-, hy⟩
  · exact ⟨so, hw, hq, hc, hcl⟩
  · exact ⟨y, hy, rfl, rfl, rfl⟩

/-- Another websocket connects, which has no client yet. -/
theorem connect (h : s.Named) {rooms : Rooms} {so : Socket}
    (he : s.step e = some ⟨rooms, s.sockets ++ [so]⟩) (hn : so.client = none)
    (hcall : ∀ c, so.call = some c → ∃ roomId clientId call,
      so.query.ids = some (roomId, clientId) ∧ rooms.calls[c]? = some call ∧
        call.roomId = roomId) :
    Named ⟨rooms, s.sockets ++ [so]⟩ := by
  refine ⟨fun {w so' c} hw hc => ?_, fun {w so' r c} hw hc => ?_,
    fun {w w' so₁ so₂ x} hw hw' hc hc' => ?_⟩
  · rcases Cells.concat_eq_some.mp hw with hw | ⟨-, rfl⟩
    · obtain ⟨roomId, clientId, call, hid, hcall, hr⟩ := h.call hw hc
      obtain ⟨call', hcall', hr'⟩ := call_kept he hcall
      exact ⟨roomId, clientId, call', hid, hcall', hr'.trans hr⟩
    · exact hcall c hc
  · rcases Cells.concat_eq_some.mp hw with hw | ⟨-, rfl⟩
    · obtain ⟨x, hx, hlt, ha⟩ := h.client hw hc
      obtain ⟨x', hx', hl⟩ := room_kept he hx
      exact ⟨x', hx', Nat.lt_of_lt_of_le hlt hl.added, askedAs_later ha hlt hl⟩
    · cases hn.symm.trans hc
  · rcases Cells.concat_eq_some.mp hw with hw | ⟨-, rfl⟩
    · rcases Cells.concat_eq_some.mp hw' with hw' | ⟨-, rfl⟩
      · exact h.own hw hw' hc hc'
      · cases hn.symm.trans hc'
    · cases hn.symm.trans hc

/-- The client of a websocket is added to the room it asked for. -/
theorem join (h : s.Named) (ha : s.rooms.Aimed) {w : Nat} {so : Socket} {roomId : RoomId}
    {clientId : ClientId} {c : CallRef} {r : RoomRef} {x : Room} {rooms rooms' : Rooms}
    (he : s.step e = some ({ s with rooms := rooms' }.setSocket w
      { so with client := some (r, x.added) }))
    (hw : s.sockets[w]? = some so) (hid : so.query.ids = some (roomId, clientId))
    (hc : so.call = some c) (ho : so.outcome s.rooms = some (.ok r))
    (hr : s.rooms.step (.settled c) = some rooms) (hx : rooms.room[r]? = some x)
    (hr' : rooms.step (.room r (.add ⟨so.closed, clientId, so.query.userId⟩)) = some rooms') :
    ({ s with rooms := rooms' }.setSocket w { so with client := some (r, x.added) }).Named := by
  -- the room was there, under the id that the websocket asked for
  obtain ⟨roomId', clientId', call, hid', hcall, rfl⟩ := h.call hw hc
  cases hid.symm.trans hid'
  rw [outcome_eq hc hcall] at ho
  obtain ⟨x₀, hx₀, hroom⟩ := ha.outcome hcall ho
  obtain rfl : x₀ = x := by
    cases Rooms.step_turn hr with
    | settled => exact Option.some.inj (hx₀.symm.trans hx)
  have hnew : rooms'.room[r]? = some (x₀.add ⟨so.closed, clientId, so.query.userId⟩) := by
    cases Rooms.step_turn hr' with
    | room hy hstep =>
        cases hx.symm.trans hy
        cases hstep
        exact Cells.set_eq_some.mpr (.inl ⟨rfl, Cells.lt_of_some hx, rfl⟩)
  -- the others are as they were
  have back : ∀ {w' : Nat} {so'}, ({ s with rooms := rooms' }.setSocket w
      { so with client := some (r, x₀.added) }).sockets[w']? = some so' →
      (w' = w ∧ so' = { so with client := some (r, x₀.added) }) ∨
        w' ≠ w ∧ s.sockets[w']? = some so' := fun hw' =>
    (Cells.set_eq_some.mp hw').imp_left fun ⟨e, _, e'⟩ => ⟨e, e'⟩
  have fresh : ∀ {w' : Nat} {so'}, s.sockets[w']? = some so' →
      so'.client ≠ some (r, x₀.added) := fun hw' hcl => by
    obtain ⟨y, hy, hlt, -⟩ := h.client hw' hcl
    cases hx₀.symm.trans hy
    exact Nat.lt_irrefl _ hlt
  refine ⟨fun {w' so' d} hw' hd => ?_, fun {w' so' q d} hw' hd => ?_,
    fun {w₁ w₂ so₁ so₂ z} hw₁ hw₂ hd₁ hd₂ => ?_⟩
  · have old : ∃ so₀, s.sockets[w']? = some so₀ ∧ so'.query = so₀.query ∧
        so₀.call = so'.call := by
      rcases back hw' with ⟨rfl, rfl⟩ | ⟨-, hw'⟩
      · exact ⟨so, hw, rfl, rfl⟩
      · exact ⟨so', hw', rfl, rfl⟩
    obtain ⟨so₀, hso₀, eq, ec⟩ := old
    obtain ⟨i, j, call', hij, hcall', hi⟩ := h.call hso₀ (ec.trans hd)
    obtain ⟨call'', hcall'', hi'⟩ := call_kept he hcall'
    exact ⟨i, j, call'', by rw [eq]; exact hij, hcall'', hi'.trans hi⟩
  · rcases back hw' with ⟨rfl, rfl⟩ | ⟨-, hw'⟩
    · cases hd
      refine ⟨_, hnew, Nat.lt_succ_self _, ?_, by simp [Room.add]⟩
      rw [show (x₀.add ⟨so.closed, clientId, so.query.userId⟩).roomId = x₀.roomId from rfl, hroom]
      simpa [Room.add] using hid
    · obtain ⟨y, hy, hlt, hask⟩ := h.client hw' hd
      obtain ⟨y', hy', hl⟩ := room_kept he hy
      exact ⟨y', hy', Nat.lt_of_lt_of_le hlt hl.added, askedAs_later hask hlt hl⟩
  · rcases back hw₁ with ⟨rfl, rfl⟩ | ⟨-, ho₁⟩ <;> rcases back hw₂ with ⟨rfl, rfl⟩ | ⟨-, ho₂⟩
    · rfl
    · cases hd₁; exact absurd hd₂ (fresh ho₂)
    · cases hd₂; exact absurd hd₁ (fresh ho₁)
    · exact h.own ho₁ ho₂ hd₁ hd₂

theorem step (h : s.Named) (ha : s.rooms.Aimed) (he : s.step e = some s') : s'.Named := by
  cases step_turn he with
  | refused => exact h.connect he rfl nofun
  | @connected query roomId clientId hid =>
      refine h.connect he rfl fun c hc => ?_
      cases hc
      obtain ⟨p, hp⟩ := Rooms.calls_getOrCreateRoom s.rooms roomId
      exact ⟨roomId, clientId, _, hid, by rw [hp]; exact List.getElem?_concat_length, rfl⟩
  | lost _ hw | received hw | closedEarly hw | closed hw => exact h.setSocket he hw rfl rfl rfl
  | rejected | rooms => exact h.same he fun hw => ⟨_, hw, rfl, rfl, rfl⟩
  | joined hw hid hc ho hr hx hr' => exact h.join ha he hw hid hc ho hr hx hr'

end Named

/-! ### Runs -/

theorem lived_of_run {ip announcedIp : String} {es : List Event} {s : Server}
    (hx : exec step (.new ip announcedIp) es = some s) : s.rooms.Lived :=
  exec_invariant_of_step (I := fun s => s.rooms.Lived)
    (fun _ _ _ h he => rooms_step he (fun _ _ _ _ h hstep => h.step hstep) h)
    ⟨by simp [new, Rooms.new], by simp [new, Rooms.new]⟩ hx

theorem named_of_run {ip announcedIp : String} {es : List Event} {s : Server}
    (hx : exec step (.new ip announcedIp) es = some s) : s.Named := by
  have h := exec_invariant_of_step
    (I := fun s => (s.rooms.Flight ∧ s.rooms.Aimed) ∧ s.Named) (fun s e s' h he => ⟨?_, ?_⟩) ?_ hx
  · exact h.2
  · exact rooms_step (I := fun x => x.Flight ∧ x.Aimed) he
      (fun x e' x' hc h hstep => ⟨h.1.step hstep, h.2.step h.1 hstep⟩) h.1
  · exact h.2.step h.1.2 he
  · refine ⟨⟨Rooms.flight_of_run (exec_nil (Rooms.new ip announcedIp)), ?_, ?_, ?_⟩, ?_, ?_, ?_⟩ <;>
    simp [new, Rooms.new]

theorem member_of_run {ip announcedIp : String} {es : List Event} {s : Server}
    (hx : exec step (.new ip announcedIp) es = some s) {r : Nat} {x : Room} {c : ClientRef}
    (hr : s.rooms.room[r]? = some x) (hc : c < x.added) : ∃ (w : Nat) (so : Socket),
      s.sockets[w]? = some so ∧ so.client = some (r, c) ∧ AskedAs so x c := by
  obtain ⟨w, so, hw, hcl, -⟩ := (housed_of_run hx).home hr hc
  obtain ⟨x', hx', -, ha⟩ := (named_of_run hx).client hw hcl
  cases hr.symm.trans hx'
  exact ⟨w, so, hw, hcl, ha⟩

/-- **Every client is somebody's.**  In every run of the server, every client that a room ever had
is the client of exactly one websocket, which asked for this room, with the client id and the user
id that the room has for it. -/
theorem members_connected {ip announcedIp : String} {es : List Event} {s : Server}
    (hx : exec step (.new ip announcedIp) es = some s) {r : Nat} {x : Room} {c : ClientRef}
    (hr : s.rooms.room[r]? = some x) (hc : c < x.added) :
    ∃! w : Nat, ∃ so, s.sockets[w]? = some so ∧ so.client = some (r, c) ∧ AskedAs so x c := by
  obtain ⟨w, so, hw, hcl, ha⟩ := member_of_run hx hr hc
  refine ⟨w, ⟨so, hw, hcl, ha⟩, ?_⟩
  rintro w' ⟨so', hw', hcl', -⟩
  exact (named_of_run hx).own hw' hw hcl' hcl

/-- A text frame with this message. -/
def speaks (w : SocketRef) (m : ClientMessage) : Event := .frame w ⟨"", some m⟩

/-- Two websockets ask for one room; the first produces, and the second joins and consumes. -/
def conversation : List Event :=
  [.connection ⟨some "a", some "u", "U"⟩, .connection ⟨some "a", some "v", "V"⟩,
    .rooms (.routerCreated 0 "call-1" "opus"), .rooms (.then_ 0), .joined 1, .joined 0,
    .rooms (.finally_ 0), speaks 0 (.createTransportRequest "1" .producing),
    .rooms (.room 0 (.transportCreated 0 ⟨"ice", [], "dtls"⟩)),
    speaks 0 (.createProducerRequest "2" .audio "opus" "U"), .rooms (.room 0 (.produced 1)),
    speaks 1 (.clientRtpCapabilities "opus"), speaks 1 (.createTransportRequest "3" .consuming),
    .rooms (.room 0 (.transportCreated 2 ⟨"ice", [], "dtls"⟩)), speaks 1 (.joinCallRequest "4"),
    .rooms (.room 0 (.consumed 3 "opus"))]

theorem members_connected_conversation :
    ∃ s x, exec step (.new "0.0.0.0" "127.0.0.1") conversation = some s ∧
      s.rooms.room[0]? = some x ∧ ∃! w : Nat, ∃ so, s.sockets[w]? = some so ∧
        so.client = some (0, 1) ∧ AskedAs so x 1 := by
  have hx : exec step (.new "0.0.0.0" "127.0.0.1") conversation = some _ := rfl
  exact ⟨_, _, hx, rfl, members_connected hx rfl (by decide)⟩

/-- **The media of a room stay in the room.**  In every run of the server, a client is told of new
media only of a client whose websocket asked for the same room, under another client id, and it is
told the client id and the user id that that websocket gave. -/
theorem media_stays_in_room {ip announcedIp : String} {es : List Event} {s : Server}
    (hx : exec step (.new ip announcedIp) es = some s) {r : Nat} {x : Room} {c : ClientRef}
    {k p : Nat} {kind : MediaKind} {rtp : RtpParameters} {remote : RemoteClient}
    (hr : s.rooms.room[r]? = some x)
    (hm : (c, .consumerCreatedNotification k p kind rtp remote) ∈ x.sent) :
    ∃ (w w' : Nat) (so so' : Socket) (roomId : RoomId) (clientId : ClientId),
      s.sockets[w]? = some so ∧ so.client = some (r, c) ∧ so.query.ids = some (roomId, clientId) ∧
      s.sockets[w']? = some so' ∧ so'.query.ids = some (roomId, remote.clientId) ∧
      so'.query.userId = remote.userId ∧ remote.clientId ≠ clientId := by
  obtain ⟨config, callId, caps, fs, hfs⟩ := (lived_of_run hx).room hr
  obtain ⟨hc, z, y, -, -, -, -, -, hy, rfl, hne⟩ := Room.proper_of_run hfs hm
  obtain ⟨w, so, hw, hcl, ha⟩ := member_of_run hx hr hc
  obtain ⟨w', so', hw', -, ha'⟩ := member_of_run hx hr hy
  exact ⟨w, w', so, so', _, _, hw, hcl, ha.1, hw', ha'.1, ha'.2, hne⟩

theorem media_stays_in_room_conversation :
    ∃ s, exec step (.new "0.0.0.0" "127.0.0.1") conversation = some s ∧
      ∃ (w : Nat) (so : Socket) (roomId : RoomId), s.sockets[w]? = some so ∧
        so.query.ids = some (roomId, "u") ∧ so.query.userId = "U" := by
  obtain ⟨s, x, hx, hr, hm⟩ : ∃ s x,
      exec step (.new "0.0.0.0" "127.0.0.1") conversation = some s ∧
        s.rooms.room[0]? = some x ∧ ((0 : ClientRef),
          ServerMessage.consumerCreatedNotification 0 0 .audio "opus" ⟨"U", "u"⟩) ∈ x.sent :=
    ⟨_, _, rfl, rfl, by decide⟩
  obtain ⟨-, w, -, so, roomId, -, -, -, -, hw, hid, hu, -⟩ := media_stays_in_room hx hr hm
  exact ⟨s, hx, w, so, roomId, hw, hid, hu⟩

end Server

end DemoApp.Sfu
