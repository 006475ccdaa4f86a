import DemoApp.Support.Machine
import DemoApp.Sfu.RoomCore

/-!
# Sfu — Reconnect

A client may connect again under its id before the room learns that its old websocket closed.
The `close` listener deletes by client id, whichever websocket it belongs to:

* `late_close_drops_client`: the close of the old websocket drops the new client, and closes the
  room under it.
* `reconnect_safe`: as long as every websocket closes as the only open one of its client id, the
  latest client of every id is the stored one, and no close handler closes a room in which a
  websocket is open.
-/

namespace DemoApp.Sfu.Room
open Machine

/-- Every client with an open websocket that is the latest under its id is the stored one. -/
def LatestStored (s : Room) : Prop :=
  ∀ r < s.added, (s.client r).socketClosed = false →
    (∀ q < s.added, r < q → (s.client q).clientId ≠ (s.client r).clientId) →
    s.clients.get (s.client r).clientId = some r

/-- The step is the close handler of a client closing the room, and some websocket is open. -/
def ClosedUnder (s : Room) (e : Event) (s' : Room) : Prop :=
  (∃ r, e = .socketClosed r) ∧ s.router.closed = false ∧ s'.router.closed = true ∧
    ∃ q < s'.added, (s'.client q).socketClosed = false

/-- A websocket closes only as the one open websocket of its client id. -/
def SoleSocket (s : Room) : Event → Prop
  | .socketClosed r =>
      ∀ q < s.added, q ≠ r → (s.client q).clientId = (s.client r).clientId →
        (s.client q).socketClosed = true
  | _ => True

instance (s : Room) : (e : Event) → Decidable (SoleSocket s e)
  | .socketClosed r => inferInstanceAs (Decidable (∀ q < s.added, q ≠ r →
      (s.client q).clientId = (s.client r).clientId → (s.client q).socketClosed = true))
  | .add _ | .message _ _ | .transportCreated _ _ | .transportFailed _ | .transportConnected _ _
  | .produced _ | .produceFailed _ | .producerSwitched _ | .consumed _ _ | .consumeFailed _
  | .resumed _ | .consumerClosed _ | .routerClosed | .close | .elapsed _ => isTrue trivial

/-! ### The invariant, on the core -/

/-- The latest open client of every id is stored, and the id of every open client is a key. -/
structure Core.Latest (c : Core) : Prop where
  stored : ∀ r < c.added, c.socketClosed r = false →
    (∀ q < c.added, r < q → c.clientId q ≠ c.clientId r) → c.clients.get (c.clientId r) = some r
  key : ∀ r < c.added, c.socketClosed r = false → (c.clients.get (c.clientId r)).isSome

namespace Core.Latest

variable {c : Core}

theorem add (h : c.Latest) (ctx : ClientContext) : (c.add ctx).Latest := by
  have old : ∀ r, r < c.added + 1 → r ≠ c.added → r < c.added := fun r h₁ h₂ => by omega
  constructor
  · intro r hr ho hl
    simp only [Core.add, Function.update_apply] at hr ho hl ⊢
    by_cases e : r = c.added
    · simp [e]
    · simp only [e, if_false] at ho hl ⊢
      have hne : c.clientId r ≠ ctx.clientId := fun e' =>
        hl c.added (Nat.lt_succ_self _) (old r hr e) (by simp [e'])
      rw [LiveMap.get_set_of_ne hne]
      refine h.stored r (old r hr e) ho fun q hq hrq => ?_
      have := hl q (Nat.lt_succ_of_lt hq) hrq
      rwa [if_neg (Nat.ne_of_lt hq)] at this
  · intro r hr ho
    simp only [Core.add, Function.update_apply] at hr ho ⊢
    by_cases e : r = c.added
    · simp [e]
    · simp only [e, if_false] at ho ⊢
      rw [LiveMap.get_set]
      split
      · rfl
      · exact h.key r (old r hr e) ho

/-- The maps and flags of a room that closes are what they were. -/
theorem close (h : c.Latest) : c.close.Latest := by
  rw [Core.close]
  split
  · exact h
  · exact ⟨h.stored, h.key⟩

/-- The only open websocket of its id closes: the id is deleted, and no open one misses it. -/
theorem closeSocket (h : c.Latest) {r : ClientRef}
    (hs : ∀ q < c.added, q ≠ r → c.clientId q = c.clientId r → c.socketClosed q = true) :
    (c.closeSocket r).Latest := by
  have still : ∀ q < c.added, Function.update c.socketClosed r true q = false →
      c.socketClosed q = false ∧ c.clientId q ≠ c.clientId r := by
    intro q hq ho
    rw [Function.update_apply] at ho
    split at ho
    · cases ho
    · next e => exact ⟨ho, fun hid => by simp [hs q hq e hid] at ho⟩
  have kept : Latest { c with socketClosed := Function.update c.socketClosed r true } :=
    ⟨fun q hq ho => h.stored q hq (still q hq ho).1, fun q hq ho => h.key q hq (still q hq ho).1⟩
  have left : Latest (forget { c with
      socketClosed := Function.update c.socketClosed r true
      eventsClosed := Function.update c.eventsClosed r true } r) := by
    constructor
    · intro q hq ho hl
      obtain ⟨ho', hid⟩ := still q hq ho
      exact (LiveMap.get_delete_of_ne hid).trans (h.stored q hq ho' hl)
    · intro q hq ho
      obtain ⟨ho', hid⟩ := still q hq ho
      exact (congrArg Option.isSome (LiveMap.get_delete_of_ne hid)).trans (h.key q hq ho')
  rw [Core.closeSocket, Core.leave]
  split
  · exact kept
  · split
    · exact left.close
    · exact left

/-- If every open client's id is a key, a room that a close handler closes has no open client. -/
theorem closed_of_close (h : c.Latest) {r : ClientRef}
    (hs : ∀ q < c.added, q ≠ r → c.clientId q = c.clientId r → c.socketClosed q = true)
    (hopen : c.routerClosed = false) (hclosed : (c.closeSocket r).routerClosed = true) :
    ∀ q < (c.closeSocket r).added, (c.closeSocket r).socketClosed q = true := by
  have hL := h.closeSocket hs
  have hempty : (c.closeSocket r).clients.size = 0 := by
    unfold Core.closeSocket Core.leave at hclosed ⊢
    split at hclosed
    · simp [hopen] at hclosed
    · next he =>
        rw [if_neg he]
        split at hclosed
        · next hsize =>
            rw [if_pos hsize]
            simpa [Core.close, forget, hopen] using hsize
        · simp [forget, hopen] at hclosed
  intro q hq
  by_contra ho
  have := hL.key q hq (by simpa using ho)
  rw [LiveMap.get_eq_none_of_size hempty] at this
  cases this

theorem step {c' : Core} {e : Event} (h : c.Latest)
    (hs : ∀ r, e = .socketClosed r → ∀ q < c.added, q ≠ r → c.clientId q = c.clientId r →
      c.socketClosed q = true) (he : c.step e = some c') : c'.Latest := by
  cases e with
  | add ctx => cases he; exact h.add ctx
  | socketClosed r =>
      simp only [Core.step] at he
      split at he
      · cases he; exact h.closeSocket (hs r rfl)
      · cases he
  | routerClosed =>
      cases he
      split
      · exact h
      · exact ⟨h.stored, h.key⟩
  | close => cases he; exact h.close
  | message | transportCreated | transportFailed | transportConnected | produced | produceFailed
  | producerSwitched | consumed | consumeFailed | resumed | consumerClosed | elapsed =>
      cases he; exact h

end Core.Latest

/-! ### Runs -/

theorem latest_of_run {config : RoomConfig} {router : Router} {es : List Event} {s : Room}
    (hx : exec step (.new config router) es = some s)
    (ha : Along step SoleSocket (.new config router) es) : s.core.Latest := by
  refine exec_invariant (I := fun s => s.core.Latest) (fun s e s' hI hG he => ?_) ?_ ha hx
  · refine hI.step ?_ (core_step he)
    rintro r rfl
    exact hG
  · constructor <;> intro r hr <;> exact absurd hr (Nat.not_lt_zero r)

/-- **Reconnection safety.**  In every run in which each websocket closes as the only open one
of its client id, the latest client of every id is the stored one, and a close handler does not
close the room while a websocket is open. -/
theorem reconnect_safe {config : RoomConfig} {router : Router} {es : List Event} {s : Room}
    (hx : exec step (.new config router) es = some s)
    (ha : Along step SoleSocket (.new config router) es) :
    s.LatestStored ∧
      ∀ e s', s.SoleSocket e → s.step e = some s' → ¬ s.ClosedUnder e s' := by
  have hL := latest_of_run hx ha
  refine ⟨hL.stored, ?_⟩
  rintro e s' hG he ⟨⟨r, rfl⟩, hopen, hclosed, q, hq, ho⟩
  have hc := core_step he
  simp only [Core.step] at hc
  split at hc
  · have e' : s.core.closeSocket r = s'.core := Option.some.inj hc
    have hq' := hL.closed_of_close hG hopen (by rw [e']; exact hclosed) q (by rw [e']; exact hq)
    rw [e'] at hq'
    exact absurd (hq'.symm.trans ho) (by decide)
  · cases hc

/-- A client leaves and comes back while another stays. -/
def rejoin : List Event :=
  [.add { clientId := "a", userId := "u" }, .add { clientId := "b", userId := "v" },
    .socketClosed 0, .add { clientId := "a", userId := "u" }]

theorem reconnect_safe_rejoin : ∃ s, exec step lobby rejoin = some s ∧ s.LatestStored := by
  have hx : exec step lobby rejoin = some _ := rfl
  exact ⟨_, hx, (reconnect_safe hx (by decide)).1⟩

/-- **A late close drops the client.**  The websocket `0` closes after the client connected
again: the new client is dropped from `_clients` with its websocket open, and the room closes. -/
theorem late_close_drops_client :
    ∃ s s', exec step lobby [.add { clientId := "a", userId := "u" },
        .add { clientId := "a", userId := "u" }] = some s ∧
      s.step (.socketClosed 0) = some s' ∧ ¬ s'.LatestStored ∧
      s.ClosedUnder (.socketClosed 0) s' := by
  refine ⟨_, _, rfl, rfl, fun h => ?_, ⟨0, rfl⟩, rfl, rfl, 1, by decide, rfl⟩
  exact absurd (h 1 (by decide) rfl (by decide)) (by decide)

end DemoApp.Sfu.Room
