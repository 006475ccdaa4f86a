import DemoApp.Sfu.TransportOrder
import Mathlib.Data.Nat.Find

/-!
# Sfu — Obligations

What the room still owes to a client.

* `Served.step`: a request that was let in is answered, or a handler owes its response, as long as
  no call of mediasoup fails.
* `proceeds`: whoever owes something can go on: its handler can, or a transport can be created
  that was asked for before.
-/

namespace DemoApp.Sfu.Room
open Machine

/-- The client `r` was sent the response `a`, or a handler owes it, unless its events are closed. -/
def Served (s : Room) (r : ClientRef) (a : Answer) : Prop :=
  r < s.added ∧ ((s.client r).eventsClosed = true ∨
    (∃ m ∈ s.toClient r, ∃ b, m.answer = some b ∧ a.Fits b) ∨ ∃ h, s.owes h = some (r, a))

variable {s s' : Room} {e : Event} {r : ClientRef} {a : Answer}

/-- What was said was sent. -/
theorem sent_of_said {b : Answer} (h : (r, b) ∈ said s s') :
    ∃ m ∈ s'.toClient r, m.answer = some b := by
  obtain ⟨⟨c, m⟩, hm, hb⟩ := List.mem_filterMap.mp h
  obtain ⟨b', hb', e⟩ := Option.map_eq_some_iff.mp hb
  cases e
  exact ⟨m, mem_sentTo.mpr (List.mem_of_mem_drop hm), hb'⟩

/-- What was owed is owed, or paid in the turn. -/
theorem served_of_settles {h : HandlerRef} (he : s.step e = some s') (hr : r < s.added)
    (hs : Settles s s' (some (r, a)) h) : s'.Served r a := by
  have hcore := core_step he
  refine ⟨Nat.lt_of_lt_of_le hr (Core.added_step hcore), ?_⟩
  rcases hs with ⟨-, howes⟩ | ⟨-, ⟨b, hsaid, hf⟩ | ⟨-, hc⟩⟩
  · exact .inr (.inr ⟨h, howes⟩)
  · obtain ⟨m, hm, hb⟩ := sent_of_said (hsaid ▸ List.mem_singleton_self _)
    exact .inr (.inl ⟨m, hm, b, hb, hf⟩)
  · exact .inl (Core.eventsClosed_step hcore hr hc)

/-- **One turn** in which no call of mediasoup fails. -/
theorem Served.step (h : s.Served r a) (he : s.step e = some s') (hok : e.fails = false) :
    s'.Served r a := by
  obtain ⟨hr, hs⟩ := h
  have hcore := core_step he
  have hr' := Nat.lt_of_lt_of_le hr (Core.added_step hcore)
  rcases hs with hc | ⟨m, hm, hb⟩ | ⟨g, hg⟩
  · exact ⟨hr', .inl (Core.eventsClosed_step hcore hr hc)⟩
  · exact ⟨hr', .inr (.inl ⟨m, (toClient_turn (step_turn he) r).subset hm, hb⟩)⟩
  · by_cases hh : e.handler = some g
    · exact served_of_settles he hr (hg ▸ continued_settles he hh hok)
    · have hlt : g < s.handlers.length := by
        obtain ⟨x, hx, -⟩ := Option.bind_eq_some_iff.mp hg
        exact suspended_lt hx
      exact ⟨hr', .inr (.inr ⟨g, (owes_turn he hlt hh).trans hg⟩)⟩

/-- A request arrives and is let in. -/
theorem served_message {m : ClientMessage} (he : s.step (.message r m) = some s')
    (ha : m.asks = some a) (hadmits : s.admits r m = true) : s'.Served r a := by
  obtain ⟨hr, hsettles⟩ := message_turn he
  rcases hsettles with ⟨-, hc⟩ | hsettles
  · have hcore := core_step he
    exact ⟨Nat.lt_of_lt_of_le hr (Core.added_step hcore),
      .inl (Core.eventsClosed_step hcore hr hc)⟩
  · rw [claims, if_pos hadmits, ha] at hsettles
    exact served_of_settles he hr hsettles

/-- Of the handlers that wait for a transport, the first can go on. -/
theorem creation_proceeds {h : HandlerRef} {x : ClientRef × Role} (hc : s.creating h = some x) :
    ∃ g info s', s.InOrder (.transportCreated g info) ∧
      s.step (.transportCreated g info) = some s' := by
  obtain ⟨g, hg, hfirst⟩ : ∃ g, s.creating g ≠ none ∧ ∀ k < g, s.creating k = none := by
    classical
    have hex : ∃ g, s.creating g ≠ none := ⟨h, by simp [hc]⟩
    refine ⟨Nat.find hex, Nat.find_spec hex, fun k hk => ?_⟩
    exact not_not.mp (Nat.find_min hex hk)
  obtain ⟨⟨c, role⟩, hg⟩ := Option.ne_none_iff_exists'.mp hg
  obtain ⟨q, o, hs⟩ := creating_eq_some.mp hg
  exact ⟨g, ⟨"", [], ""⟩, s.transportCreated g c q role ⟨"", [], ""⟩, hfirst, by simp [step, hs]⟩

/-- **A suspended handler can go on**, or the handler does whose transport is created before. -/
theorem proceeds {h : HandlerRef} {x : Handler} (hs : s.suspended h = some x) :
    ∃ e s', s.step e = some s' ∧ s.InOrder e ∧ e.fails = false ∧
      (e.handler = some h ∨ ∃ g info, e = .transportCreated g info) := by
  obtain ⟨c, await⟩ := x
  cases await with
  | createTransport q role o =>
      obtain ⟨g, info, s', ho, he⟩ :=
        creation_proceeds (creating_eq_some.mpr ⟨q, o, hs⟩)
      exact ⟨_, s', he, ho, rfl, .inr ⟨g, info, rfl⟩⟩
  | connect role dtls =>
      have he : s.step (.transportConnected h true) = some (s.finish h) := by
        simp only [step, hs]
      exact ⟨_, _, he, trivial, rfl, .inl rfl⟩
  | produce q t kind rtp =>
      have he : s.step (.produced h) = some (s.produced h c q t kind) := by
        simp only [step, hs]
      exact ⟨_, _, he, trivial, rfl, .inl rfl⟩
  | pause q | resume q =>
      have he : s.step (.producerSwitched h) =
          some ((s.send c (.pauseProducerResponse q)).finish h) := by
        simp only [step, hs]
      exact ⟨_, _, he, trivial, rfl, .inl rfl⟩
  | consume loop call o =>
      have he : s.step (.consumed h "") = some (s.consumed h c loop call o "") := by
        simp only [step, hs]
      exact ⟨_, _, he, trivial, rfl, .inl rfl⟩
  | returned loop =>
      have he : s.step (.resumed h) = some (s.runLoop h c loop) := by
        simp only [step, hs]
      exact ⟨_, _, he, trivial, rfl, .inl rfl⟩

end DemoApp.Sfu.Room
