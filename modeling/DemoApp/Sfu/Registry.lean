import DemoApp.Sfu.SingleFlight

/-!
# Sfu — Registry

The rooms of `_rooms` and their routers.  `MediasoupRoom.close` deregisters the room behind a
guard on `router.closed`, and a router that closes by itself is closed when the room's listener
calls it:

* `dead_room_stays`: the router of a registered room closes by itself, `onClosed` is not called,
  and the dead room stays in `_rooms`.
* `registry_live`: as long as no router of an open room closes by itself, every room in `_rooms`
  is open and `onClosed` was called once for every closed room, whoever closed it.
-/

namespace DemoApp.Sfu.Rooms
open Machine

/-- Every room in `_rooms` has an open router. -/
def Live (s : Rooms) : Prop :=
  ∀ id r x, s.rooms.get id = some r → s.room[r]? = some x → x.router.closed = false

/-- `onClosed` was called once for every room whose router is closed, and for no other. -/
def ClosedOnce (s : Rooms) : Prop :=
  ∀ (r : Nat) x, s.room[r]? = some x → x.closedCalls = if x.router.closed then 1 else 0

/-- The event is not the router of an open room closing by itself. -/
def closedByRoom (s : Rooms) : Event → Bool
  | .room r .routerClosed => s.room[r]?.all fun x => x.router.closed
  | _ => true

/-! ### The invariant -/

structure Registered (s : Rooms) : Prop where
  fresh : ∀ {k : Nat} {id router}, s.creations[k]? = some ⟨id, .created (.ok router)⟩ →
    router.closed = false
  live : s.Live
  once : s.ClosedOnce

namespace Registered

variable {s : Rooms}

/-- A creation goes on to a stage that holds no closed router. -/
theorem fresh_set (h : s.Registered) {k : CreationRef} {id : RoomId} {stage : Stage}
    (hs : ∀ router, stage = .created (.ok router) → router.closed = false) {j : Nat} {id' router}
    (hj : (s.creations.set k ⟨id, stage⟩)[j]? = some ⟨id', .created (.ok router)⟩) :
    router.closed = false := by
  rcases Cells.set_eq_some.mp hj with ⟨-, -, e⟩ | ⟨-, hj⟩
  · exact hs router (congrArg Creation.stage e).symm
  · exact h.fresh hj

theorem getOrCreateRoom (h : s.Registered) (roomId : RoomId) :
    (s.getOrCreateRoom roomId).Registered := by
  rw [Rooms.getOrCreateRoom]
  split
  · exact ⟨h.fresh, h.live, h.once⟩
  · split
    · exact ⟨h.fresh, h.live, h.once⟩
    · refine ⟨fun {k id router} hk => ?_, h.live, h.once⟩
      rcases Cells.concat_eq_some.mp hk with hk | ⟨-, e⟩
      · exact h.fresh hk
      · cases e

/-- The room of a new router is stored, and open. -/
theorem then_ (h : s.Registered) {k : CreationRef} {id : RoomId} {result : Except String Router}
    (hk : s.creations[k]? = some ⟨id, .created result⟩) : (s.then_ k id result).Registered := by
  cases result with
  | error => exact ⟨h.fresh_set (fun _ e => by cases e), h.live, h.once⟩
  | ok router =>
      have ho := h.fresh hk
      refine ⟨h.fresh_set (fun _ e => by cases e), fun id' r x hg hx => ?_, fun r x hx => ?_⟩
      · rcases Cells.concat_eq_some.mp hx with hold | ⟨rfl, rfl⟩
        · by_cases e : id' = id
          · subst e
            cases (LiveMap.get_set_self _ _ _).symm.trans hg
            exact absurd (Cells.lt_of_some hold) (Nat.lt_irrefl _)
          · exact h.live _ _ _ ((LiveMap.get_set_of_ne e).symm.trans hg) hold
        · exact ho
      · rcases Cells.concat_eq_some.mp hx with hx | ⟨rfl, rfl⟩
        · exact h.once r x hx
        · simp only [Room.new, ho]; rfl

/-- A room that closes by its own `close` calls `onClosed`, once, and is deleted. -/
theorem setRoom (h : s.Registered) (hf : s.Flight) {r : RoomRef} {x x' : Room} {e : Room.Event}
    (hx : s.room[r]? = some x) (he : x.step e = some x')
    (hG : e = .routerClosed → x.router.closed = true) : (s.setRoom r x x').Registered := by
  obtain ⟨hid, hcl⟩ := Room.closing_step he
  have honce := h.once r x hx
  -- the router stays as it is, or it closes in a call of `close`
  have hcl' : (x'.router.closed = x.router.closed ∧ x'.closedCalls = x.closedCalls) ∨
      (x.router.closed = false ∧ x'.router.closed = true ∧
        x'.closedCalls = x.closedCalls + 1) := by
    rcases hcl with hsame | ⟨ho, hc, hcalls | ⟨rfl, -⟩⟩
    · exact .inl hsame
    · exact .inr ⟨ho, hc, hcalls⟩
    · rw [hG rfl] at ho; cases ho
  refine ⟨h.fresh, fun id q y hg hy => ?_, fun q y hy => ?_⟩
  · rcases Cells.set_eq_some.mp hy with ⟨rfl, -, rfl⟩ | ⟨-, hy⟩
    · rcases hcl' with ⟨hc, hcalls⟩ | ⟨-, -, hcalls⟩
      · simp only [Rooms.setRoom, hcalls, Nat.lt_irrefl, if_false] at hg
        exact hc.trans (h.live id q x hg hx)
      · -- its own id is the one it was stored under
        simp only [Rooms.setRoom, hcalls, Nat.lt_succ_self, if_true] at hg
        rw [LiveMap.get_delete] at hg
        split at hg
        · cases hg
        · next hne =>
            obtain ⟨z, hz, hzid⟩ := hf.stored hg
            cases hx.symm.trans hz
            exact absurd hzid.symm hne
    · have hg' : s.rooms.get id = some q := by
        simp only [Rooms.setRoom] at hg
        split at hg
        · exact LiveMap.get_of_get_delete hg
        · exact hg
      exact h.live id q y hg' hy
  · rcases Cells.set_eq_some.mp hy with ⟨rfl, -, rfl⟩ | ⟨-, hy⟩
    · rcases hcl' with ⟨hc, hcalls⟩ | ⟨ho, hc, hcalls⟩
      · rw [hc, hcalls]; exact honce
      · rw [hc, hcalls, honce, ho]; rfl
    · exact h.once q y hy

theorem step {s' : Rooms} {e : Event} (h : s.Registered) (hf : s.Flight)
    (hG : s.closedByRoom e = true) (he : s.step e = some s') : s'.Registered := by
  cases step_turn he with
  | getOrCreateRoom roomId => exact h.getOrCreateRoom roomId
  | routerCreated _ _ hk => exact ⟨h.fresh_set (fun _ e => by cases e; rfl), h.live, h.once⟩
  | routerFailed _ hk => exact ⟨h.fresh_set (fun _ e => by cases e), h.live, h.once⟩
  | then_ hk => exact h.then_ hk
  | finally_ hk => exact ⟨h.fresh_set (fun _ e => by cases e), h.live, h.once⟩
  | settled => exact ⟨h.fresh, h.live, h.once⟩
  | room hr hx =>
      refine h.setRoom hf hr hx ?_
      rintro rfl
      simpa [closedByRoom, hr] using hG

end Registered

/-! ### Runs -/

/-- **No dead room is registered**, in every run in which no router of an open room closes by
itself: every room in `_rooms` is open, and every closed room has called `onClosed` once. -/
theorem registry_live {ip announcedIp : String} {es : List Event} {s : Rooms}
    (hx : exec step (.new ip announcedIp) es = some s)
    (ha : Along step (fun s e => s.closedByRoom e = true) (.new ip announcedIp) es) :
    s.Live ∧ s.ClosedOnce := by
  have hI := exec_invariant (I := fun s => s.Flight ∧ s.Registered)
    (fun _ _ _ h hG he => ⟨h.1.step he, h.2.step h.1 hG he⟩)
    ⟨flight_of_run (exec_nil (new ip announcedIp)), by simp [new], by simp [Live, new],
      by simp [ClosedOnce, new]⟩ ha hx
  exact ⟨hI.2.live, hI.2.once⟩

/-- A room is created, left by its only client, created again and closed from outside. -/
def twice : List Event :=
  [.getOrCreateRoom "a", .routerCreated 0 "call-1" "opus", .then_ 0, .finally_ 0,
    .room 0 (.add { clientId := "u", userId := "u" }), .room 0 (.socketClosed 0),
    .room 0 .routerClosed, .getOrCreateRoom "a", .routerCreated 1 "call-2" "opus", .then_ 1,
    .room 1 .close]

theorem registry_live_twice :
    ∃ s, exec step (.new "0.0.0.0" "127.0.0.1") twice = some s ∧ s.Live ∧ s.ClosedOnce ∧
      s.room.length = 2 := by
  have hx : exec step (.new "0.0.0.0" "127.0.0.1") twice = some _ := rfl
  obtain ⟨hlive, honce⟩ := registry_live hx (by decide)
  exact ⟨_, hx, hlive, honce, rfl⟩

/-- **A dead room stays.**  The router closes by itself: the room is never told through
`onClosed`, and the next call gets the dead room. -/
theorem dead_room_stays :
    ∃ s, exec step (.new "0.0.0.0" "127.0.0.1") [.getOrCreateRoom "a",
        .routerCreated 0 "call-1" "opus", .then_ 0, .finally_ 0, .room 0 .routerClosed,
        .getOrCreateRoom "a", .settled 1] = some s ∧
      s.settledAs 1 = some (.ok 0) ∧ ¬ s.Live ∧ ¬ s.ClosedOnce := by
  refine ⟨_, rfl, rfl, fun h => ?_, fun h => ?_⟩
  · exact absurd (h "a" 0 _ rfl rfl) (by decide)
  · exact absurd (h 0 _ rfl) (by decide)

end DemoApp.Sfu.Rooms
