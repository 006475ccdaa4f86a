import DemoApp.Sfu.Registry
import DemoApp.Sfu.Sockets

/-!
# Sfu — Ghosts

Clients without a websocket and rooms without a client.  A room listens to a websocket from
`room.add` on, so that a `close` emitted before is missed:

* `ghost_stays`: a websocket closes while its room is being created.  The client is added all the
  same, nothing will ever remove it, and the room stays in `_rooms`.
* `no_ghosts`: as long as every websocket is open when its client is added, and no router closes
  by itself, whenever no callback is due every stored client has an open websocket and every room
  in `_rooms` has such a client.
-/

namespace DemoApp.Sfu

/-! ### One room -/

namespace Room.Core

/-- Every stored client is open and listens, and a room that anybody was added to is closed or
has a client. -/
structure Sound (c : Core) : Prop where
  stored : ∀ {id r}, c.clients.get id = some r → r < c.added ∧ c.clientId r = id ∧
    c.socketClosed r = false
  listens : ∀ {r}, r < c.added → c.socketClosed r = false → c.eventsClosed r = false
  peopled : c.added = 0 ∨ c.routerClosed = true ∨ 0 < c.clients.size

namespace Sound

variable {c : Core}

theorem add (h : c.Sound) {ctx : ClientContext} (ho : ctx.socketClosed = false) :
    (c.add ctx).Sound := by
  refine ⟨fun {id r} hr => ?_, fun {r} hr hs => ?_,
    .inr (.inr (LiveMap.size_of_get (LiveMap.get_set_self c.clients ctx.clientId c.added)))⟩
  · simp only [Core.add, LiveMap.get_set] at hr
    split at hr
    · next e =>
        cases hr
        subst e
        simp [Core.add, ho]
    · obtain ⟨hlt, hid, hs⟩ := h.stored hr
      simp only [Core.add, Function.update_apply, Nat.ne_of_lt hlt, if_false]
      exact ⟨Nat.lt_succ_of_lt hlt, hid, hs⟩
  · simp only [Core.add, Function.update_apply] at hr hs ⊢
    split
    · rfl
    · next hne =>
        rw [if_neg hne] at hs
        exact h.listens (Nat.lt_of_le_of_ne (Nat.le_of_lt_succ hr) hne) hs

theorem close (h : c.Sound) : c.close.Sound := by
  rw [Core.close]
  split
  · exact h
  · exact ⟨h.stored, h.listens, .inr (.inl rfl)⟩

/-- A websocket closes: its client is forgotten, and the room closes if it was the last. -/
theorem closeSocket (h : c.Sound) {r : ClientRef} (hr : r < c.added)
    (ho : c.socketClosed r = false) : (c.closeSocket r).Sound := by
  have stored : ∀ {id q}, (c.clients.delete (c.clientId r)).get id = some q → q < c.added ∧
      c.clientId q = id ∧ Function.update c.socketClosed r true q = false := by
    intro id q hq
    obtain ⟨hlt, hid, hs⟩ := h.stored (LiveMap.get_of_get_delete hq)
    refine ⟨hlt, hid, ?_⟩
    rw [Function.update_of_ne]
    · exact hs
    · rintro rfl
      rw [← hid, LiveMap.get_delete_self] at hq
      cases hq
  have listens : ∀ {q}, q < c.added → Function.update c.socketClosed r true q = false →
      Function.update c.eventsClosed r true q = false := by
    intro q hq hs
    by_cases e : q = r
    · subst e; simp at hs
    · rw [Function.update_of_ne e] at hs ⊢
      exact h.listens hq hs
  rw [Core.closeSocket]
  rw [if_neg (by simp [h.listens hr ho])]
  rw [Core.leave]
  split
  · rw [Core.close]
    split
    · next hc => exact ⟨stored, listens, .inr (.inl hc)⟩
    · exact ⟨stored, listens, .inr (.inl rfl)⟩
  · next hs => exact ⟨stored, listens, .inr (.inr (Nat.not_lt.mp hs))⟩

theorem step {c' : Core} {e : Event} (h : c.Sound) (he : c.step e = some c')
    (ho : ∀ ctx, e = .add ctx → ctx.socketClosed = false) : c'.Sound := by
  cases e with
  | add ctx => cases he; exact h.add (ho ctx rfl)
  | socketClosed r =>
      simp only [Core.step] at he
      split at he
      · next hr => cases he; exact h.closeSocket hr.1 hr.2
      · cases he
  | routerClosed =>
      cases he
      split
      · exact h
      · exact ⟨h.stored, h.listens, .inr (.inl rfl)⟩
  | close => cases he; exact h.close
  | message | transportCreated | transportFailed | transportConnected | produced | produceFailed
  | producerSwitched | consumed | consumeFailed | resumed | consumerClosed | elapsed =>
      cases he; exact h

end Sound

/-- Only `add` and the close of a websocket change who is there. -/
theorem attended_same {c c' : Core} {e : Event} (h : c.step e = some c')
    (hadd : ∀ ctx, e ≠ .add ctx) (hclosed : ∀ r, e ≠ .socketClosed r) :
    c'.added = c.added ∧ c'.socketClosed = c.socketClosed := by
  cases e with
  | add ctx => exact absurd rfl (hadd ctx)
  | socketClosed r => exact absurd rfl (hclosed r)
  | routerClosed => cases h; split <;> exact ⟨rfl, rfl⟩
  | close =>
      cases h
      rw [Core.close]
      split <;> exact ⟨rfl, rfl⟩
  | message | transportCreated | transportFailed | transportConnected | produced | produceFailed
  | producerSwitched | consumed | consumeFailed | resumed | consumerClosed | elapsed =>
      cases h; exact ⟨rfl, rfl⟩

/-- A websocket that closes is marked, and nobody is added. -/
theorem attended_closed {c c' : Core} {r : ClientRef} (h : c.step (.socketClosed r) = some c') :
    c'.added = c.added ∧ c'.socketClosed = Function.update c.socketClosed r true := by
  simp only [Core.step] at h
  split at h
  · cases h
    rw [Core.closeSocket]
    split
    · exact ⟨rfl, rfl⟩
    · rw [Core.leave, Core.close]
      split
      · split <;> exact ⟨rfl, rfl⟩
      · exact ⟨rfl, rfl⟩
  · cases h

end Room.Core

/-! ### The rooms -/

namespace Rooms

/-- A room is an old one, or has made a turn, or is new. -/
theorem room_back {s s' : Rooms} {e : Event} (he : s.step e = some s') {r : Nat} {x' : Room}
    (h : s'.room[r]? = some x') : s.room[r]? = some x' ∨
      (∃ x e', e = .room r e' ∧ s.room[r]? = some x ∧ x.step e' = some x') ∨
      ∃ k config router, s'.promisedOutcome (.creation k) = some (.ok r) ∧
        x' = Room.new config router := by
  cases step_turn he with
  | getOrCreateRoom id =>
      left
      rw [Rooms.getOrCreateRoom] at h
      split at h
      · exact h
      · split at h <;> exact h
  | routerCreated | routerFailed | finally_ | settled => exact .inl h
  | @then_ k id result hk =>
      cases result with
      | error => exact .inl h
      | ok router =>
          rcases Cells.concat_eq_some.mp h with h | ⟨rfl, rfl⟩
          · exact .inl h
          · refine .inr (.inr ⟨k, _, _, ?_, rfl⟩)
            have hset : (s.then_ k id (.ok router)).creations[k]? =
                some ⟨id, .settled (.ok s.room.length)⟩ :=
              Cells.set_eq_some.mpr (.inl ⟨rfl, Cells.lt_of_some hk, rfl⟩)
            exact Option.bind_eq_some_iff.mpr ⟨_, hset, rfl⟩
  | room hr hx =>
      rcases Cells.set_eq_some.mp h with ⟨rfl, -, rfl⟩ | ⟨-, h⟩
      · exact .inr (.inl ⟨_, _, rfl, hr, hx⟩)
      · exact .inl h

/-- A room stays, with the clients that were added to it. -/
theorem room_later {s s' : Rooms} {e : Event} (he : s.step e = some s') {r : Nat} {x : Room}
    (h : s.room[r]? = some x) : ∃ x', s'.room[r]? = some x' ∧ x.added ≤ x'.added := by
  cases step_turn he with
  | getOrCreateRoom id =>
      refine ⟨x, ?_, Nat.le_refl _⟩
      rw [Rooms.getOrCreateRoom]
      split
      · exact h
      · split <;> exact h
  | routerCreated | routerFailed | finally_ | settled => exact ⟨x, h, Nat.le_refl _⟩
  | @then_ _ _ result =>
      cases result with
      | error => exact ⟨x, h, Nat.le_refl _⟩
      | ok => exact ⟨x, Cells.append_of_some h, Nat.le_refl _⟩
  | @room q y y' e' hr hx =>
      by_cases e : r = q
      · subst e
        cases h.symm.trans hr
        exact ⟨y', Cells.set_eq_some.mpr (.inl ⟨rfl, Cells.lt_of_some h, rfl⟩),
          Room.Core.added_step (Room.core_step hx)⟩
      · exact ⟨x, Cells.set_eq_some.mpr (.inr ⟨e, h⟩), Nat.le_refl _⟩

/-- Every room is `Sound`. -/
def Sound (s : Rooms) : Prop := ∀ (r : Nat) x, s.room[r]? = some x → x.core.Sound

theorem Sound.step {s s' : Rooms} {e : Event} (h : s.Sound) (he : s.step e = some s')
    (ho : ∀ r ctx, e = .room r (.add ctx) → ctx.socketClosed = false) : s'.Sound := by
  intro r x' hx'
  rcases room_back he hx' with hx | ⟨x, e', rfl, hx, hstep⟩ | ⟨k, config, router, -, rfl⟩
  · exact h r x' hx
  · exact (h r x hx).step (Room.core_step hstep) fun ctx e => ho r ctx (by rw [e])
  · refine ⟨fun {id q} hq => ?_, fun {q} hq => absurd hq (Nat.not_lt_zero q), .inl rfl⟩
    simp [Room.core, Room.new] at hq

/-- Every room has come of a creation. -/
def Born (s : Rooms) : Prop :=
  ∀ (r : Nat) x, s.room[r]? = some x → ∃ k, s.promisedOutcome (.creation k) = some (.ok r)

theorem Born.step {s s' : Rooms} {e : Event} (h : s.Born) (he : s.step e = some s') :
    s'.Born := by
  intro r x' hx'
  rcases room_back he hx' with hx | ⟨x, e', rfl, hx, hstep⟩ | ⟨k, config, router, hk, rfl⟩
  · obtain ⟨k, hk⟩ := h r x' hx
    exact ⟨k, promisedOutcome_later he hk⟩
  · obtain ⟨k, hk⟩ := h r x hx
    exact ⟨k, promisedOutcome_later he hk⟩
  · exact ⟨k, hk⟩

/-- Nobody comes or goes, in any room. -/
structure Undisturbed (s s' : Rooms) : Prop where
  back : ∀ {r : Nat} {x'}, s'.room[r]? = some x' → x'.added = 0 ∨ ∃ x, s.room[r]? = some x ∧
    x'.added = x.added ∧ ∀ c, (x'.client c).socketClosed = (x.client c).socketClosed
  later : ∀ {r : Nat} {x}, s.room[r]? = some x → ∃ x', s'.room[r]? = some x' ∧ x.added ≤ x'.added

theorem Undisturbed.refl (s : Rooms) : s.Undisturbed s :=
  ⟨fun h => .inr ⟨_, h, rfl, fun _ => rfl⟩, fun h => ⟨_, h, Nat.le_refl _⟩⟩

theorem undisturbed {s s' : Rooms} {e : Event} (he : s.step e = some s')
    (hadd : ∀ r ctx, e ≠ .room r (.add ctx)) (hclosed : ∀ r c, e ≠ .room r (.socketClosed c)) :
    s.Undisturbed s' := by
  refine ⟨fun {r x'} hx' => ?_, room_later he⟩
  rcases room_back he hx' with hx | ⟨x, e', rfl, hx, hstep⟩ | ⟨k, config, router, -, rfl⟩
  · exact .inr ⟨x', hx, rfl, fun _ => rfl⟩
  · obtain ⟨h₁, h₂⟩ := Room.Core.attended_same (Room.core_step hstep)
      (fun ctx e => hadd r ctx (by rw [e])) (fun c e => hclosed r c (by rw [e]))
    exact .inr ⟨x, hx, h₁, congrFun h₂⟩
  · exact .inl rfl

/-- A creation is an old one, or a call has just been promised it. -/
theorem creation_back {s s' : Rooms} {e : Event} (he : s.step e = some s') {k : Nat}
    {creation' : Creation} (h : s'.creations[k]? = some creation') :
    (∃ creation, s.creations[k]? = some creation) ∨
      (∃ id, e = .getOrCreateRoom id) ∧ s'.Follows s.calls.length k := by
  have set : ∀ {j : Nat} {x y : Creation}, s.creations[j]? = some x →
      (s.creations.set j y)[k]? = some creation' → ∃ creation, s.creations[k]? = some creation := by
    intro j x y hj hk
    rcases Cells.set_eq_some.mp hk with ⟨rfl, -, -⟩ | ⟨-, hk⟩
    · exact ⟨x, hj⟩
    · exact ⟨_, hk⟩
  cases step_turn he with
  | getOrCreateRoom id =>
      unfold Rooms.getOrCreateRoom at h ⊢
      split at h
      · exact .inl ⟨_, h⟩
      · split at h
        · exact .inl ⟨_, h⟩
        · rcases Cells.concat_eq_some.mp h with h | ⟨rfl, -⟩
          · exact .inl ⟨_, h⟩
          · exact .inr ⟨⟨id, rfl⟩, _, List.getElem?_concat_length, rfl⟩
  | routerCreated _ _ hk | routerFailed _ hk | finally_ hk => exact .inl (set hk h)
  | @then_ _ _ result hk => cases result <;> exact .inl (set hk h)
  | settled | room => exact .inl ⟨_, h⟩

end Rooms

/-! ### The websockets -/

namespace Server
open Machine

/-- An open websocket is that of the client `c` of the room `r`. -/
def HasSocket (s : Server) (r : RoomRef) (c : ClientRef) : Prop :=
  ∃ (w : Nat) (so : Socket), s.sockets[w]? = some so ∧ so.client = some (r, c) ∧
    so.closed = false

theorem no_socket {s : Server} (h : (s.sockets.all fun so => so.closed) = true) {r : RoomRef}
    {c : ClientRef} : ¬ s.HasSocket r c := by
  rintro ⟨w, so, hw, -, ho⟩
  have hc := List.all_eq_true.mp h so (List.mem_of_getElem? hw)
  simp [ho] at hc

/-- Every stored client has an open websocket. -/
def NoGhosts (s : Server) : Prop :=
  ∀ (r : Nat) x id c, s.rooms.room[r]? = some x → x.clients.get id = some c → s.HasSocket r c

/-- Every room in `_rooms` has a stored client with an open websocket. -/
def NoLeaks (s : Server) : Prop :=
  ∀ id r x, s.rooms.rooms.get id = some r → s.rooms.room[r]? = some x →
    ∃ clientId c, x.clients.get clientId = some c ∧ s.HasSocket r c

/-- The event is not the continuation that adds the client of a closed websocket. -/
def addsOpen (s : Server) : Event → Bool
  | .joined w => !s.hasRoom w || s.sockets[w]?.all fun so => !so.closed
  | _ => true

/-- The event is not the router of an open room closing by itself. -/
def routersStay (s : Server) : Event → Bool
  | .rooms e => s.rooms.closedByRoom e
  | _ => true

/-- A client that was added has a websocket, and the room knows whether that is closed. -/
structure Housed (s : Server) : Prop where
  home : ∀ {r : Nat} {x c}, s.rooms.room[r]? = some x → c < x.added →
    ∃ (w : Nat) (so : Socket), s.sockets[w]? = some so ∧ so.client = some (r, c) ∧
      so.closed = (x.client c).socketClosed
  real : ∀ {w : Nat} {so r c}, s.sockets[w]? = some so → so.client = some (r, c) → ∃ x,
    s.rooms.room[r]? = some x ∧ c < x.added

namespace Housed

variable {s s' : Server}

/-- Nobody comes or goes, and the websockets of the clients stay as they are. -/
theorem same (h : s.Housed) (hu : s.rooms.Undisturbed s'.rooms)
    (hs : ∀ {w : Nat} {so x}, s.sockets[w]? = some so → so.client = some x → ∃ so',
      s'.sockets[w]? = some so' ∧ so'.client = some x ∧ so'.closed = so.closed)
    (hs' : ∀ {w : Nat} {so' x}, s'.sockets[w]? = some so' → so'.client = some x → ∃ so,
      s.sockets[w]? = some so ∧ so.client = some x) : s'.Housed := by
  constructor
  · intro r x' c hx' hc
    rcases hu.back hx' with h₀ | ⟨x, hx, hadded, hflag⟩
    · exact absurd hc (by simp [h₀])
    · obtain ⟨w, so, hw, hcl, hclosed⟩ := h.home hx (hadded ▸ hc)
      obtain ⟨so', hw', hcl', hclosed'⟩ := hs hw hcl
      exact ⟨w, so', hw', hcl', hclosed'.trans (hclosed.trans (hflag c).symm)⟩
  · intro w so' r c hw' hcl'
    obtain ⟨so, hw, hcl⟩ := hs' hw' hcl'
    obtain ⟨x, hx, hc⟩ := h.real hw hcl
    obtain ⟨x', hx', hle⟩ := hu.later hx
    exact ⟨x', hx', Nat.lt_of_lt_of_le hc hle⟩

/-- Another websocket connects. -/
theorem connect (h : s.Housed) {rooms : Rooms} (hu : s.rooms.Undisturbed rooms) {so : Socket}
    (hn : so.client = none) : Housed ⟨rooms, s.sockets ++ [so]⟩ := by
  refine h.same hu (fun hw hc => ⟨_, Cells.append_of_some hw, hc, rfl⟩) fun {w so' x} hw hc => ?_
  rcases Cells.concat_eq_some.mp hw with hw | ⟨-, rfl⟩
  · exact ⟨so', hw, hc⟩
  · cases hn.symm.trans hc

/-- A websocket changes in other respects, or has no client. -/
theorem setSocket (h : s.Housed) {rooms : Rooms} (hu : s.rooms.Undisturbed rooms) {w : Nat}
    {so so' : Socket} (hw : s.sockets[w]? = some so) (hc : so'.client = so.client)
    (hcl : so.client = none ∨ so'.closed = so.closed) :
    ({ s with rooms }.setSocket w so').Housed := by
  refine h.same hu (fun {w' y x} hy hx => ?_) fun {w' y x} hy hx => ?_
  · by_cases e : w' = w
    · subst e
      cases hw.symm.trans hy
      refine ⟨so', Cells.set_eq_some.mpr (.inl ⟨rfl, Cells.lt_of_some hw, rfl⟩), hc.trans hx,
        hcl.resolve_left fun hn => ?_⟩
      cases hn.symm.trans hx
    · exact ⟨y, Cells.set_eq_some.mpr (.inr ⟨e, hy⟩), hx, rfl⟩
  · rcases Cells.set_eq_some.mp hy with ⟨rfl, -, rfl⟩ | ⟨-, hy⟩
    · exact ⟨so, hw, hc.symm.trans hx⟩
    · exact ⟨y, hy, hx⟩

/-- The websocket of a client closes, and the room hears of it. -/
theorem close (h : s.Housed) {rooms : Rooms} {w : Nat} {so : Socket} {r : RoomRef}
    {c : ClientRef} (hw : s.sockets[w]? = some so) (hc : so.client = some (r, c))
    (hr : s.rooms.step (.room r (.socketClosed c)) = some rooms) :
    ({ s with rooms }.setSocket w { so with closed := true }).Housed := by
  have self : ({ s with rooms }.setSocket w { so with closed := true }).sockets[w]? =
      some { so with closed := true } :=
    Cells.set_eq_some.mpr (.inl ⟨rfl, Cells.lt_of_some hw, rfl⟩)
  -- a client that is another one keeps its websocket
  have other : ∀ {q : Nat} {y d}, s.rooms.room[q]? = some y → d < y.added → (q, d) ≠ (r, c) →
      ∃ (w' : Nat) (so' : Socket),
        ({ s with rooms }.setSocket w { so with closed := true }).sockets[w']? = some so' ∧
          so'.client = some (q, d) ∧ so'.closed = (y.client d).socketClosed := by
    intro q y d hy hd hne
    obtain ⟨w', so', hw', hcl, hclosed⟩ := h.home hy hd
    refine ⟨w', so', Cells.set_eq_some.mpr (.inr ⟨?_, hw'⟩), hcl, hclosed⟩
    rintro rfl
    cases hw.symm.trans hw'
    exact hne (Option.some.inj (hcl.symm.trans hc))
  constructor
  · intro q y' d hy' hd
    cases Rooms.step_turn hr with
    | @room _ x x' _ hx hstep =>
        obtain ⟨hsame, hflags⟩ := Room.Core.attended_closed (Room.core_step hstep)
        have hadded : x'.added = x.added := hsame
        have hflag : ∀ d, (x'.client d).socketClosed =
            Function.update (fun d => (x.client d).socketClosed) c true d := congrFun hflags
        rcases Cells.set_eq_some.mp hy' with ⟨rfl, -, rfl⟩ | ⟨hne, hy⟩
        · by_cases e : d = c
          · subst e
            exact ⟨w, _, self, hc, by rw [hflag, Function.update_self]⟩
          · obtain ⟨w', so', hw', hcl, hclosed⟩ := other hx (hadded ▸ hd) (by simp [e])
            exact ⟨w', so', hw', hcl, by rw [hflag, Function.update_of_ne e]; exact hclosed⟩
        · exact other hy hd (by simp [hne])
  · intro w' so' q d hw' hcl
    have hback : ∃ so₀, s.sockets[w']? = some so₀ ∧ so₀.client = some (q, d) := by
      rcases Cells.set_eq_some.mp hw' with ⟨rfl, -, rfl⟩ | ⟨-, hw'⟩
      · exact ⟨so, hw, hcl⟩
      · exact ⟨so', hw', hcl⟩
    obtain ⟨so₀, hso₀, hcl₀⟩ := hback
    obtain ⟨y, hy, hd⟩ := h.real hso₀ hcl₀
    obtain ⟨y', hy', hle⟩ := Rooms.room_later hr hy
    exact ⟨y', hy', Nat.lt_of_lt_of_le hd hle⟩

/-- The client of a websocket is added, as open as the websocket is. -/
theorem join (h : s.Housed) {rooms rooms' : Rooms} {w : Nat} {so : Socket} {r : RoomRef}
    {x : Room} {ctx : ClientContext} (hu : s.rooms.Undisturbed rooms)
    (hw : s.sockets[w]? = some so) (hc : so.client = none) (hx : rooms.room[r]? = some x)
    (hr : rooms.step (.room r (.add ctx)) = some rooms') (hctx : ctx.socketClosed = so.closed) :
    ({ s with rooms := rooms' }.setSocket w { so with client := some (r, x.added) }).Housed := by
  have h' : Housed { s with rooms } := h.same hu (fun hw hc => ⟨_, hw, hc, rfl⟩)
    fun hw hc => ⟨_, hw, hc⟩
  have self : ({ s with rooms := rooms' }.setSocket w
      { so with client := some (r, x.added) }).sockets[w]? =
        some { so with client := some (r, x.added) } :=
    Cells.set_eq_some.mpr (.inl ⟨rfl, Cells.lt_of_some hw, rfl⟩)
  -- the clients that were there keep their websockets
  have other : ∀ {q : Nat} {y d}, rooms.room[q]? = some y → d < y.added →
      ∃ (w' : Nat) (so' : Socket), ({ s with rooms := rooms' }.setSocket w
        { so with client := some (r, x.added) }).sockets[w']? = some so' ∧
          so'.client = some (q, d) ∧ so'.closed = (y.client d).socketClosed := by
    intro q y d hy hd
    obtain ⟨w', so', hw', hcl, hclosed⟩ := h'.home hy hd
    refine ⟨w', so', Cells.set_eq_some.mpr (.inr ⟨?_, hw'⟩), hcl, hclosed⟩
    rintro rfl
    cases hw.symm.trans hw'
    cases hc.symm.trans hcl
  cases Rooms.step_turn hr with
  | @room _ y y' _ hy hstep =>
      cases hx.symm.trans hy
      cases hstep
      constructor
      · intro q z d hz hd
        rcases Cells.set_eq_some.mp hz with ⟨rfl, -, rfl⟩ | ⟨-, hz⟩
        · by_cases e : d = x.added
          · subst e
            exact ⟨w, _, self, rfl, by simp [Room.add, hctx]⟩
          · have hd' : d < x.added := Nat.lt_of_le_of_ne (Nat.le_of_lt_succ hd) e
            obtain ⟨w', so', hw', hcl, hclosed⟩ := other hx hd'
            refine ⟨w', so', hw', hcl, hclosed.trans ?_⟩
            simp [Room.add, Function.update_of_ne e]
        · exact other hz hd
      · intro w' so' q d hw' hcl
        have hnew : (rooms.setRoom r x (x.add ctx)).room[r]? = some (x.add ctx) :=
          Cells.set_eq_some.mpr (.inl ⟨rfl, Cells.lt_of_some hx, rfl⟩)
        rcases Cells.set_eq_some.mp hw' with ⟨rfl, -, rfl⟩ | ⟨-, hw'⟩
        · cases hcl
          exact ⟨_, hnew, Nat.lt_succ_self _⟩
        · obtain ⟨z, hz, hd⟩ := h'.real hw' hcl
          obtain ⟨z', hz', hle⟩ := Rooms.room_later hr hz
          exact ⟨z', hz', Nat.lt_of_lt_of_le hd hle⟩

theorem step {e : Event} (h : s.Housed) (hl : s.Linked) (he : s.step e = some s') :
    s'.Housed := by
  cases step_turn he with
  | refused => exact h.connect (.refl _) rfl
  | connected =>
      exact h.connect (Rooms.undisturbed (e := .getOrCreateRoom _) rfl (by simp) (by simp)) rfl
  | lost _ hw _ hc => exact h.setSocket (.refl _) hw rfl (.inl hc)
  | received hw _ _ hr =>
      refine h.setSocket ?_ hw rfl (.inr rfl)
      rw [Rooms.receive] at hr
      split at hr
      · cases hr; exact .refl _
      · exact Rooms.undisturbed hr (by simp) (by simp)
  | closedEarly hw _ hc => exact h.setSocket (.refl _) hw rfl (.inl hc)
  | closed hw _ hc hr => exact h.close hw hc hr
  | rejected _ _ _ hr =>
      exact h.same (Rooms.undisturbed hr (by simp) (by simp)) (fun hw hc => ⟨_, hw, hc, rfl⟩)
        fun hw hc => ⟨_, hw, hc⟩
  | joined hw _ hc ho hr hx hr' =>
      exact h.join (Rooms.undisturbed hr (by simp) (by simp)) hw (hl.unsettled hw hc hr) hx hr' rfl
  | @rooms e rooms ha hr =>
      refine h.same (Rooms.undisturbed hr ?_ ?_) (fun hw hc => ⟨_, hw, hc, rfl⟩)
        fun hw hc => ⟨_, hw, hc⟩
      · rintro r ctx rfl; cases ha
      · rintro r c rfl; cases ha

end Housed

theorem socket_later {s s' : Server} {e : Event} (he : s.step e = some s') {w : Nat} {so : Socket}
    (hw : s.sockets[w]? = some so) :
    ∃ so', s'.sockets[w]? = some so' ∧ so'.call = so.call := by
  have set : ∀ {rooms : Rooms} {w' : Nat} {x y : Socket}, s.sockets[w']? = some x →
      y.call = x.call → ∃ so', ({ s with rooms }.setSocket w' y).sockets[w]? = some so' ∧
        so'.call = so.call := by
    intro rooms w' x y hx hc
    by_cases e : w = w'
    · subst e
      cases hw.symm.trans hx
      exact ⟨y, Cells.set_eq_some.mpr (.inl ⟨rfl, Cells.lt_of_some hw, rfl⟩), hc⟩
    · exact ⟨so, Cells.set_eq_some.mpr (.inr ⟨e, hw⟩), rfl⟩
  cases step_turn he with
  | refused | connected => exact ⟨so, Cells.append_of_some hw, rfl⟩
  | lost _ hx | received hx | closedEarly hx | closed hx | joined hx => exact set hx rfl
  | rejected | rooms => exact ⟨so, hw, rfl⟩

/-- Every creation was started for a websocket. -/
def Asked (s : Server) : Prop :=
  ∀ (k : Nat) creation, s.rooms.creations[k]? = some creation →
    ∃ (w : Nat) (so : Socket) (c : CallRef), s.sockets[w]? = some so ∧ so.call = some c ∧
      s.rooms.Follows c k

theorem Asked.step {s s' : Server} {e : Event} (h : s.Asked) (he : s.step e = some s') :
    s'.Asked := by
  have other : (∀ query, e ≠ .connection query) → s'.Asked := by
    intro hne k creation' hk
    have hI := rooms_step (I := fun x => ∀ (k : Nat) creation, x.creations[k]? = some creation →
      ∃ (w : Nat) (so : Socket) (c : CallRef), s.sockets[w]? = some so ∧ so.call = some c ∧
        x.Follows c k) he (fun x e' x' hc hI hstep k creation' hk => ?_) h
    · obtain ⟨w, so, c, hw, hc, hf⟩ := hI k creation' hk
      obtain ⟨so', hw', hc'⟩ := socket_later he hw
      exact ⟨w, so', c, hw', hc'.trans hc, hf⟩
    · rcases Rooms.creation_back hstep hk with ⟨creation, hk⟩ | ⟨⟨id, rfl⟩, -⟩
      · obtain ⟨w, so, c, hw, hc, hf⟩ := hI k creation hk
        exact ⟨w, so, c, hw, hc, Rooms.follows_step hf hstep⟩
      · cases hc with
        | call _ e => exact absurd e (hne _)
        | rooms _ ha => cases ha
  cases e with
  | connection query =>
      cases step_turn he with
      | refused =>
          intro k creation hk
          obtain ⟨w, so, c, hw, hc, hf⟩ := h k creation hk
          exact ⟨w, so, c, Cells.append_of_some hw, hc, hf⟩
      | @connected _ roomId =>
          intro k creation' hk
          have hcall : s.rooms.step (.getOrCreateRoom roomId) =
            some (s.rooms.getOrCreateRoom roomId) := rfl
          rcases Rooms.creation_back hcall hk with ⟨creation, hk⟩ | ⟨-, hf⟩
          · obtain ⟨w, so, c, hw, hc, hf⟩ := h k creation hk
            exact ⟨w, so, c, Cells.append_of_some hw, hc, Rooms.follows_step hf hcall⟩
          · exact ⟨_, _, _, List.getElem?_concat_length, rfl, hf⟩
  | frame | socketClosed | joined | rooms => exact other (by simp)

/-! ### Runs -/

theorem housed_of_run {ip announcedIp : String} {es : List Event} {s : Server}
    (hx : exec step (.new ip announcedIp) es = some s) : s.Housed := by
  have hI := exec_invariant_of_step (I := fun s => s.Linked ∧ s.Housed)
    (fun _ _ _ h he => ⟨h.1.step he, h.2.step h.1 he⟩)
    ⟨linked_of_run (exec_nil (new ip announcedIp)), by simp [new, Rooms.new], by simp [new]⟩ hx
  exact hI.2

theorem sound_of_run {ip announcedIp : String} {es : List Event} {s : Server}
    (hx : exec step (.new ip announcedIp) es = some s)
    (ha : Along step (fun s e => addsOpen s e = true) (.new ip announcedIp) es) :
    s.rooms.Sound := by
  refine exec_invariant (I := fun s => s.rooms.Sound) (fun s e s' h hG he => ?_)
    (by simp [Rooms.Sound, new, Rooms.new]) ha hx
  refine rooms_step he (fun x e' x' hc hI hstep => hI.step hstep ?_) h
  rintro r ctx rfl
  cases hc with
  | add e hw ho hclosed =>
      subst e
      rw [hclosed]
      simpa [addsOpen, hasRoom, hw, ho] using hG
  | rooms _ ha => cases ha

theorem registered_of_run {ip announcedIp : String} {es : List Event} {s : Server}
    (hx : exec step (.new ip announcedIp) es = some s)
    (ha : Along step (fun s e => routersStay s e = true) (.new ip announcedIp) es) :
    s.rooms.Registered := by
  have hI := exec_invariant (I := fun s => s.rooms.Flight ∧ s.rooms.Registered)
    (fun s e s' h hG he => rooms_step (I := fun x => x.Flight ∧ x.Registered) he
      (fun x e' x' hc hI hstep => ⟨hI.1.step hstep, hI.2.step hI.1 ?_ hstep⟩) h) ?_ ha hx
  · exact hI.2
  · cases hc with
    | rooms e _ => subst e; exact hG
    | call | message | socketClosed | settled | add => rfl
  · exact ⟨Rooms.flight_of_run (exec_nil (Rooms.new ip announcedIp)), by simp [new, Rooms.new],
      by simp [Rooms.Live, new, Rooms.new], by simp [Rooms.ClosedOnce, new, Rooms.new]⟩

/-- **No ghost clients and no leaked rooms**, in every run in which each websocket is open when
its client is added and no router of an open room closes by itself: whenever no callback is due,
every stored client has an open websocket, and every room in `_rooms` has such a client. -/
theorem no_ghosts {ip announcedIp : String} {es : List Event} {s : Server}
    (hx : exec step (.new ip announcedIp) es = some s)
    (ha : Along step (fun s e => addsOpen s e = true) (.new ip announcedIp) es)
    (hr : Along step (fun s e => routersStay s e = true) (.new ip announcedIp) es)
    (hi : s.idle = true) : s.NoGhosts ∧ s.NoLeaks := by
  have hsound := sound_of_run hx ha
  have hhoused := housed_of_run hx
  have hghosts : s.NoGhosts := by
    intro r x id c hx' hc
    obtain ⟨hlt, -, ho⟩ := (hsound r x hx').stored hc
    obtain ⟨w, so, hw, hcl, hclosed⟩ := hhoused.home hx' hlt
    exact ⟨w, so, hw, hcl, hclosed.trans ho⟩
  refine ⟨hghosts, fun id r x hg hx' => ?_⟩
  -- the creation of the room was started for a websocket, whose client was added to it
  obtain ⟨k, hk⟩ := exec_invariant_of_step (I := fun s => s.rooms.Born)
    (fun _ _ _ h he => rooms_step he (fun _ _ _ _ h hstep => h.step hstep) h)
    (by simp [Rooms.Born, new, Rooms.new]) hx r x hx'
  obtain ⟨creation, hcr, -⟩ := Option.bind_eq_some_iff.mp hk
  obtain ⟨w, so, c, hw, hc, call, hcall, hp⟩ := exec_invariant_of_step (I := Asked)
    (fun _ _ _ h he => h.step he) (by simp [Asked, new, Rooms.new]) hx k creation hcr
  have ho : so.outcome s.rooms = some (.ok r) := by rw [outcome_eq hc hcall, hp, hk]
  have hroom := ((linked_of_run hx).client_room (kept_of_run hx) hi hw r).mpr ho
  obtain ⟨⟨r', q⟩, hcl, rfl⟩ := Option.map_eq_some_iff.mp hroom
  obtain ⟨y, hy, hlt⟩ := hhoused.real hw hcl
  cases hx'.symm.trans hy
  -- the room is open, so it has a client still
  have hopen := (registered_of_run hx hr).live id r' x hg hx'
  rcases (hsound r' x hx').peopled with h₀ | hclosed | hsize
  · exact absurd hlt (by rw [show x.added = 0 from h₀]; exact Nat.not_lt_zero q)
  · cases hopen.symm.trans hclosed
  · obtain ⟨clientId, c, hstored⟩ := LiveMap.exists_of_size hsize
    exact ⟨clientId, c, hstored, hghosts r' x clientId c hx' hstored⟩

/-- Two clients come to one room and one of them leaves; a third opens a room and leaves it. -/
def comings : List Event :=
  [.connection ⟨some "a", some "u", "u"⟩, .connection ⟨some "b", some "v", "v"⟩,
    .rooms (.routerCreated 1 "call-2" "opus"), .rooms (.then_ 1), .joined 1, .rooms (.finally_ 1),
    .socketClosed 1, .rooms (.routerCreated 0 "call-1" "opus"), .rooms (.then_ 0), .joined 0,
    .rooms (.finally_ 0), .connection ⟨some "a", some "w", "w"⟩, .joined 2, .socketClosed 0]

theorem no_ghosts_comings :
    ∃ s, exec step (.new "0.0.0.0" "127.0.0.1") comings = some s ∧ s.NoGhosts ∧ s.NoLeaks ∧
      s.rooms.rooms.get "a" = some 1 ∧ s.rooms.rooms.get "b" = none := by
  have hx : exec step (.new "0.0.0.0" "127.0.0.1") comings = some _ := rfl
  obtain ⟨hghosts, hleaks⟩ := no_ghosts hx (by decide) (by decide) rfl
  exact ⟨_, hx, hghosts, hleaks, rfl, rfl⟩

/-- The websocket closes while its room is being created. -/
def impatient : List Event :=
  [.connection ⟨some "a", some "u", "u"⟩, .socketClosed 0,
    .rooms (.routerCreated 0 "call-1" "opus"), .rooms (.then_ 0), .joined 0, .rooms (.finally_ 0)]

/-- **A ghost stays.**  The only client is added after its websocket has closed.  No callback and
no creation is due, and the room stays in `_rooms` with nobody in it. -/
theorem ghost_stays :
    ∃ s, exec step (.new "0.0.0.0" "127.0.0.1") impatient = some s ∧
      Along step Scheduled (.new "0.0.0.0" "127.0.0.1") impatient ∧
      Along step (fun s e => routersStay s e = true) (.new "0.0.0.0" "127.0.0.1") impatient ∧
      s.idle = true ∧ (s.rooms.creations.map Creation.stage) = [.done (.ok 0)] ∧
      s.rooms.rooms.get "a" = some 0 ∧ ¬ s.NoGhosts ∧ ¬ s.NoLeaks := by
  have hx : exec step (.new "0.0.0.0" "127.0.0.1") impatient = some _ := rfl
  refine ⟨_, hx, by decide, by decide, rfl, rfl, rfl, fun h => ?_, fun h => ?_⟩
  · exact no_socket rfl (h 0 _ "u" 0 rfl rfl)
  · obtain ⟨clientId, c, -, hs⟩ := h "a" 0 _ rfl rfl
    exact no_socket rfl hs

end Server

end DemoApp.Sfu
