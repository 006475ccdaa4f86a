import DemoApp.Sfu.SingleFlight
import DemoApp.Sfu.Server

/-!
# Sfu — Sockets

The rooms and the websockets in a run of the server.

* `rooms_step`: a step of the server makes steps of the rooms, and what these keep it keeps; what
  they are is known from the event (`Causes`).
* `Linked`: a websocket has its client, in the right room, once its call has settled as a room.
* `client_iff_room`: while no callback is due, it has its client if and only if its room is there.
-/

namespace DemoApp.Sfu.Server
open Machine

/-! ### The rooms in a run of the server -/

/-- A step of the server on `e` may make this step of the rooms, in this state of theirs. -/
inductive Causes (s : Server) (e : Event) : Rooms → Rooms.Event → Prop where
  | call {x : Rooms} {query : Query} (roomId : RoomId) :
      e = .connection query → Causes s e x (.getOrCreateRoom roomId)
  | message {x : Rooms} (r : RoomRef) (c : ClientRef) (m : ClientMessage) :
      Causes s e x (.room r (.message c m))
  | socketClosed {x : Rooms} (r : RoomRef) (c : ClientRef) :
      Causes s e x (.room r (.socketClosed c))
  | settled {x : Rooms} (c : CallRef) : Causes s e x (.settled c)
  | add {x : Rooms} {w : SocketRef} {so : Socket} {r : RoomRef} {ctx : ClientContext} :
      e = .joined w → s.sockets[w]? = some so → so.outcome s.rooms = some (.ok r) →
      ctx.socketClosed = so.closed → Causes s e x (.room r (.add ctx))
  | rooms {e' : Rooms.Event} : e = .rooms e' → apart e' = true → Causes s e s.rooms e'

/-- What the steps of the rooms keep, a step of the server keeps. -/
theorem rooms_step {I : Rooms → Prop} {s s' : Server} {e : Event} (he : s.step e = some s')
    (hstep : ∀ x e' x', s.Causes e x e' → I x → Rooms.step x e' = some x' → I x')
    (hI : I s.rooms) : I s'.rooms := by
  cases step_turn he with
  | refused | lost | closedEarly => exact hI
  | connected => exact hstep _ _ _ (.call _ rfl) hI rfl
  | received _ _ _ hr =>
      rw [Rooms.receive] at hr
      split at hr
      · cases hr; exact hI
      · exact hstep _ _ _ (.message _ _ _) hI hr
  | closed _ _ _ hr => exact hstep _ _ _ (.socketClosed _ _) hI hr
  | rejected _ _ _ hr => exact hstep _ _ _ (.settled _) hI hr
  | joined hw _ _ ho hr _ hr' =>
      exact hstep _ _ _ (.add rfl hw ho rfl) (hstep _ _ _ (.settled _) hI hr) hr'
  | rooms ha hr => exact hstep _ _ _ (.rooms rfl ha) hI hr

theorem kept_of_run {ip announcedIp : String} {es : List Event} {s : Server}
    (hx : exec step (.new ip announcedIp) es = some s) : s.rooms.Kept :=
  exec_invariant_of_step (I := fun s => s.rooms.Kept)
    (fun _ _ _ h he => rooms_step he (fun _ _ _ _ h he => h.step he) h)
    (Rooms.kept_of_run (exec_nil (Rooms.new ip announcedIp))) hx

/-! ### The client of a websocket -/

/-- A websocket has a client once its call has settled as a room. -/
structure Linked (s : Server) : Prop where
  call : ∀ {w : Nat} {so c}, s.sockets[w]? = some so → so.call = some c →
    ∃ call, s.rooms.calls[c]? = some call ∧
      ∀ r, so.client.map Prod.fst = some r ↔ call.outcome = some (.ok r)
  own : ∀ {w w' : Nat} {so so' c}, s.sockets[w]? = some so → s.sockets[w']? = some so' →
    so.call = some c → so'.call = some c → w = w'
  refused : ∀ {w : Nat} {so}, s.sockets[w]? = some so → so.call = none → so.client = none

namespace Linked

variable {s s' : Server}

/-- A step that changes nothing of it. -/
theorem same (h : s.Linked) (hcalls : s'.rooms.calls = s.rooms.calls)
    (hs : ∀ {w : Nat} {so'}, s'.sockets[w]? = some so' → ∃ so, s.sockets[w]? = some so ∧
      so.call = so'.call ∧ so.client = so'.client) : s'.Linked := by
  constructor
  · intro w so' c hw hc
    obtain ⟨so, hso, e, e'⟩ := hs hw
    rw [hcalls, ← e']
    exact h.call hso (e.trans hc)
  · intro w w' so₁ so₂ c hw hw' hc hc'
    obtain ⟨so, hso, e, -⟩ := hs hw
    obtain ⟨so', hso', e', -⟩ := hs hw'
    exact h.own hso hso' (e.trans hc) (e'.trans hc')
  · intro w so' hw hc
    obtain ⟨so, hso, e, e'⟩ := hs hw
    rw [← e']
    exact h.refused hso (e.trans hc)

/-- A websocket changes in other respects. -/
theorem setSocket (h : s.Linked) {rooms : Rooms} (hcalls : rooms.calls = s.rooms.calls) {w : Nat}
    {so so' : Socket} (hw : s.sockets[w]? = some so) (hc : so.call = so'.call)
    (hcl : so.client = so'.client) :
    ({ s with rooms }.setSocket w so').Linked := by
  refine h.same hcalls fun {w' so''} hw' => ?_
  rcases Cells.set_eq_some.mp hw' with ⟨rfl, -, rfl⟩ | ⟨-, hw'⟩
  · exact ⟨so, hw, hc, hcl⟩
  · exact ⟨so'', hw', rfl, rfl⟩

theorem refuse (h : s.Linked) (query : Query) :
    Linked { s with sockets := s.sockets ++ [{ query, refused := some refusal }] } := by
  constructor
  · intro w so c hw hc
    rcases Cells.concat_eq_some.mp hw with hw | ⟨-, rfl⟩
    · exact h.call hw hc
    · cases hc
  · intro w w' so so' c hw hw' hc hc'
    rcases Cells.concat_eq_some.mp hw with hw | ⟨-, rfl⟩
    · rcases Cells.concat_eq_some.mp hw' with hw' | ⟨-, rfl⟩
      · exact h.own hw hw' hc hc'
      · cases hc'
    · cases hc
  · intro w so hw hc
    rcases Cells.concat_eq_some.mp hw with hw | ⟨-, rfl⟩
    · exact h.refused hw hc
    · rfl

/-- A new websocket has a new call. -/
theorem connect (h : s.Linked) (query : Query) (roomId : RoomId) :
    Linked
      { rooms := s.rooms.getOrCreateRoom roomId
        sockets := s.sockets ++ [{ query, call := some s.rooms.calls.length }] } := by
  obtain ⟨p, hp⟩ := Rooms.calls_getOrCreateRoom s.rooms roomId
  have old : ∀ {w : Nat} {so}, s.sockets[w]? = some so → so.call ≠ some s.rooms.calls.length := by
    intro w so hw hc
    obtain ⟨call, hcall, -⟩ := h.call hw hc
    exact Nat.lt_irrefl _ (Cells.lt_of_some hcall)
  constructor
  · intro w so c hw hc
    rw [hp]
    rcases Cells.concat_eq_some.mp hw with hw | ⟨-, rfl⟩
    · obtain ⟨call, hcall, hiff⟩ := h.call hw hc
      exact ⟨call, Cells.append_of_some hcall, hiff⟩
    · cases hc
      exact ⟨_, List.getElem?_concat_length, by simp⟩
  · intro w w' so so' c hw hw' hc hc'
    rcases Cells.concat_eq_some.mp hw with hw | ⟨rfl, rfl⟩ <;>
      rcases Cells.concat_eq_some.mp hw' with hw' | ⟨rfl, rfl⟩
    · exact h.own hw hw' hc hc'
    · cases hc'; exact absurd hc (old hw)
    · cases hc; exact absurd hc' (old hw')
    · rfl
  · intro w so hw hc
    rcases Cells.concat_eq_some.mp hw with hw | ⟨-, rfl⟩
    · exact h.refused hw hc
    · rfl

/-- A websocket has no client before its call settles. -/
theorem unsettled (h : s.Linked) {rooms : Rooms} {w : Nat} {so : Socket} {c : CallRef}
    (hw : s.sockets[w]? = some so) (hc : so.call = some c)
    (hr : s.rooms.step (.settled c) = some rooms) : so.client = none := by
  cases Rooms.step_turn hr with
  | settled hcell =>
      obtain ⟨call, hcall, hiff⟩ := h.call hw hc
      cases hcell.symm.trans hcall
      cases hcl : so.client with
      | none => rfl
      | some x => exact nomatch (hiff x.1).mp (by rw [hcl]; rfl)

/-- The call of a websocket settles: with a room its client is made, with an error it is not. -/
theorem settle (h : s.Linked) (so' : Socket) {rooms : Rooms} {w : Nat} {so : Socket}
    {c : CallRef} {o : Outcome} (hw : s.sockets[w]? = some so) (hc : so.call = some c)
    (ho : so.outcome s.rooms = some o) (hr : s.rooms.step (.settled c) = some rooms)
    (hcalls : s'.rooms.calls = rooms.calls)
    (hs : ∀ {w' : Nat} {so''}, s'.sockets[w']? = some so'' →
      (w' = w ∧ so'' = so') ∨ (w' ≠ w ∧ s.sockets[w']? = some so''))
    (hc' : so.call = so'.call)
    (hcl : so.client = none → ∀ r, so'.client.map Prod.fst = some r ↔ o = .ok r) : s'.Linked := by
  have hnone := h.unsettled hw hc hr
  cases Rooms.step_turn hr with
  | @settled _ id p outcome hcell hp =>
      simp only [Socket.outcome, hc, hcell, Option.bind_eq_bind, Option.bind_some] at ho
      cases ho.symm.trans hp
      constructor
      · intro w' so'' d hw' hd
        rw [hcalls]
        rcases hs hw' with ⟨rfl, rfl⟩ | ⟨hne, hw'⟩
        · cases hd.symm.trans (hc'.symm.trans hc)
          refine ⟨⟨id, p, some o⟩, Cells.set_eq_some.mpr (.inl ⟨rfl, Cells.lt_of_some hcell, rfl⟩),
            ?_⟩
          simpa using hcl hnone
        · obtain ⟨call, hcall, hiff⟩ := h.call hw' hd
          refine ⟨call, Cells.set_eq_some.mpr (.inr ⟨?_, hcall⟩), hiff⟩
          rintro rfl
          exact hne (h.own hw' hw hd hc)
      · intro w₁ w₂ so₁ so₂ d hw₁ hw₂ hd hd'
        have back : ∀ {w' : Nat} {so''}, s'.sockets[w']? = some so'' → so''.call = some d →
            ∃ so, s.sockets[w']? = some so ∧ so.call = some d := by
          intro w' so'' hw' hd
          rcases hs hw' with ⟨rfl, rfl⟩ | ⟨-, hw'⟩
          · exact ⟨so, hw, hc'.trans hd⟩
          · exact ⟨so'', hw', hd⟩
        obtain ⟨x, hx, hxd⟩ := back hw₁ hd
        obtain ⟨y, hy, hyd⟩ := back hw₂ hd'
        exact h.own hx hy hxd hyd
      · intro w' so'' hw' hn
        rcases hs hw' with ⟨rfl, rfl⟩ | ⟨-, hw'⟩
        · cases hn.symm.trans (hc'.symm.trans hc)
        · exact h.refused hw' hn

/-- What happens to a room leaves the calls as they are. -/
theorem calls_room {rooms rooms' : Rooms} {r : RoomRef} {e : Room.Event}
    (h : rooms.step (.room r e) = some rooms') : rooms'.calls = rooms.calls := by
  cases Rooms.step_turn h with
  | room => rfl

theorem calls_receive {rooms rooms' : Rooms} {r : RoomRef} {c : ClientRef} {frame : Frame}
    (h : rooms.receive r c frame = some rooms') : rooms'.calls = rooms.calls := by
  rw [Rooms.receive] at h
  split at h
  · cases h; rfl
  · exact calls_room h

theorem step {e : Event} (h : s.Linked) (he : s.step e = some s') : s'.Linked := by
  cases step_turn he with
  | refused => exact h.refuse _
  | connected => exact h.connect _ _
  | lost _ hw => exact h.setSocket rfl hw rfl rfl
  | received hw _ _ hr => exact h.setSocket (calls_receive hr) hw rfl rfl
  | closedEarly hw => exact h.setSocket rfl hw rfl rfl
  | closed hw _ _ hr => exact h.setSocket (calls_room hr) hw rfl rfl
  | @rejected w so c error rooms hw hc ho hr =>
      refine h.settle so hw hc ho hr rfl (fun {w' so''} hw' => ?_) rfl
        fun hn => by simp [hn]
      by_cases e : w' = w
      · subst e; exact .inl ⟨rfl, Option.some.inj (hw'.symm.trans hw)⟩
      · exact .inr ⟨e, hw'⟩
  | @joined w so _ _ c r room _ _ hw _ hc ho hr _ hr' =>
      refine h.settle { so with client := some (r, room.added) } hw hc ho hr (calls_room hr')
        (fun {w' so''} hw' => ?_) rfl fun _ => by simp
      rcases Cells.set_eq_some.mp hw' with ⟨e, -, e'⟩ | hw'
      · exact .inl ⟨e, e'⟩
      · exact .inr hw'
  | @rooms e rooms ha hr =>
      refine h.same ?_ fun {w so} hw => ⟨so, hw, rfl, rfl⟩
      rcases Rooms.calls_step hr with ⟨id, p, rfl, -⟩ | ⟨c, id, p, o, rfl, -⟩ | e
      · cases ha
      · cases ha
      · exact e

end Linked

theorem linked_of_run {ip announcedIp : String} {es : List Event} {s : Server}
    (hx : exec step (.new ip announcedIp) es = some s) : s.Linked :=
  exec_invariant_of_step (fun _ _ _ h he => h.step he)
    ⟨by simp [new], by simp [new], by simp [new]⟩ hx

/-! ### When a websocket has its client -/

/-- The client of the websocket. -/
def client (s : Server) (w : SocketRef) : Option (RoomRef × ClientRef) :=
  s.sockets[w]?.bind Socket.client

/-- The room of the websocket is there: the creation that its call was promised has made it. -/
def hasRoom (s : Server) (w : SocketRef) : Bool :=
  match s.sockets[w]?.bind fun so => so.outcome s.rooms with
  | some (.ok _) => true
  | _ => false

theorem outcome_eq {s : Server} {so : Socket} {c : CallRef} {call : Call} (hc : so.call = some c)
    (hcall : s.rooms.calls[c]? = some call) :
    so.outcome s.rooms = s.rooms.promisedOutcome call.promised := by
  simp only [Socket.outcome, hc, hcall, Option.bind_eq_bind, Option.bind_some]

/-- While no callback is due, the client of a websocket is in the room it was promised, and is
there if and only if the room is. -/
theorem Linked.client_room {s : Server} (hl : s.Linked) (hk : s.rooms.Kept) (hi : s.idle = true)
    {w : Nat} {so : Socket} (hw : s.sockets[w]? = some so) (r : RoomRef) :
    so.client.map Prod.fst = some r ↔ so.outcome s.rooms = some (.ok r) := by
  cases hc : so.call with
  | none => simp [hl.refused hw hc, Socket.outcome, hc]
  | some c =>
      obtain ⟨call, hcall, hiff⟩ := hl.call hw hc
      rw [hiff r, outcome_eq hc hcall]
      refine ⟨hk c call _ hcall, fun ho => ?_⟩
      cases hout : call.outcome with
      | some o => exact (hk c call o hcall hout).symm.trans ho
      | none =>
          -- its continuation is not due, so the call cannot settle yet
          have hdue : so.due s.rooms = false := by
            simp only [idle, Bool.and_eq_true, List.all_eq_true] at hi
            simpa using hi.2 so (List.mem_of_getElem? hw)
          simp [Socket.due, outcome_eq hc hcall, ho, hc, hcall, hout] at hdue

theorem client_iff_room {s : Server} (hl : s.Linked) (hk : s.rooms.Kept) (hi : s.idle = true)
    (w : SocketRef) : (s.client w).isSome = s.hasRoom w := by
  rw [client, hasRoom]
  cases hw : s.sockets[w]? with
  | none => rfl
  | some so =>
      have h := hl.client_room hk hi hw
      simp only [Option.bind_some]
      cases hc : so.client with
      | some x => rw [(h x.1).mp (by rw [hc]; rfl)]; rfl
      | none =>
          split
          · next r ho => exact nomatch hc ▸ (h r).mpr ho
          · rfl

end DemoApp.Sfu.Server
