import DemoApp.Sfu.RoomClosing
import DemoApp.Sfu.RoomTurn

/-!
# Sfu — RoomHandlers

What a turn does to the suspended handlers and to what was sent: it leaves every handler alone but
the one it continues (`suspended_turn`), a handler without a loop is where it was or was started by
a message (`suspended_back`), and what was sent stays sent (`sent_turn`).
-/

namespace DemoApp.Sfu.Room

/-! ### The handlers -/

theorem suspended_runLoop {s : Room} {h g : HandlerRef} {r : ClientRef} {loop : Loop}
    (hg : g ≠ h) : (s.runLoop h r loop).suspended g = s.suspended g := by
  obtain ⟨x, out, e⟩ := runLoop_frame s h r loop
  rw [e]
  exact (suspended_set (s := s)).trans (if_neg hg)

theorem suspended_consumeFrom {s : Room} {h g : HandlerRef} {r : ClientRef} {loop : Loop}
    {call : ConsumeCall} (hg : g ≠ h) :
    (s.consumeFrom h r loop call).suspended g = s.suspended g := by
  obtain ⟨a, e⟩ := consumeFrom_frame s h r loop call
  rw [e]
  exact (suspended_set (s := s)).trans (if_neg hg)

/-- The close of a websocket whose events are closed adds nothing to the tables. -/
theorem socketClosed_grown {s : Room} {r : ClientRef} (he : (s.client r).eventsClosed = true) :
    s.socketClosed r =
      (s.grown [] [] []).modify r fun c => { c with socketClosed := true } := by
  rw [grown_nil, socketClosed_of_closed he]

theorem handlers_socketClosed (s : Room) (r : ClientRef) :
    (s.socketClosed r).handlers = s.handlers := by
  by_cases he : (s.client r).eventsClosed = true
  · rw [socketClosed_of_closed he, handlers_modify]
  · obtain ⟨s₂, hc, -, -, e⟩ := socketClosed_spec (by simpa using he)
    rw [e]
    split
    · exact (closes_of_close s₂).handlers.trans hc.handlers
    · exact hc.handlers

/-- A turn leaves every handler alone but the one it continues. -/
theorem suspended_turn {s s' : Room} {e : Event} (ht : Turn s e s') {g : HandlerRef}
    (hg : g < s.handlers.length) (he : e.handler ≠ some g) : s'.suspended g = s.suspended g := by
  have ne : ∀ {h : HandlerRef}, e.handler = some h → g ≠ h := fun e' e'' => he (e''  ▸ e')
  cases ht with
  | add | capabilities | ignored | answered | elapsed => rfl
  | socketClosed => simp [suspended, handlers_socketClosed]
  | joinCallRequest =>
      refine (suspended_runLoop (Nat.ne_of_lt hg)).trans ?_
      exact suspended_append.trans (if_neg (Nat.ne_of_lt hg))
  | spawn => exact suspended_append.trans (if_neg (Nat.ne_of_lt hg))
  | @transportCreated h info r q role o hs =>
      obtain ⟨out, -, e'⟩ := transportCreated_eq s h r q role info
      rw [e']
      exact suspended_finish.trans (if_neg (ne rfl))
  | @produced h r q t kind rtp hs =>
      obtain ⟨out, -, e'⟩ := produced_eq s h r q t kind
      rw [e']
      exact suspended_runLoop (ne rfl)
  | consumed =>
      rw [consumed_eq]
      exact suspended_consumeFrom (ne rfl)
  | resumed => exact suspended_runLoop (ne rfl)
  | consumeFailed => exact suspended_finish.trans (if_neg (ne rfl))
  | @ended _ h x out hend =>
      refine suspended_finish.trans (if_neg (ne ?_))
      cases e <;> first | exact congrArg some hend | exact hend.elim
  | consumerClosed => exact (closes_of_closeConsumer _ _).suspended g
  | routerClosed => exact (closes_of_closeRouter s).suspended g
  | close => exact (closes_of_close s).suspended g

theorem loop_of_consumeFrom {s : Room} {h g : HandlerRef} {r : ClientRef} {loop : Loop}
    {call : ConsumeCall} {x : Handler} (hx : (s.consumeFrom h r loop call).suspended g = some x)
    (hk : x.await.loopKind = none) : s.suspended g = some x ∧ g ≠ h := by
  have set : ∀ {a : Await}, a.loopKind ≠ none → (s.suspend h r a).suspended g = some x →
      s.suspended g = some x ∧ g ≠ h := by
    intro a ha hs
    rw [suspend, suspended_set] at hs
    split at hs
    · split at hs
      · cases hs; exact absurd hk ha
      · cases hs
    · next hg => exact ⟨hs, hg⟩
  rcases consumeFrom_cases s h r loop call with ⟨e, -⟩ | ⟨_, _, _, _, e, -⟩ <;> rw [e] at hx
  · exact set (by simp [Await.loopKind]) hx
  · exact set (by simp [Await.loopKind]) hx

theorem loop_of_runLoop {s : Room} {h g : HandlerRef} {r : ClientRef} {loop : Loop}
    {x : Handler} (hx : (s.runLoop h r loop).suspended g = some x)
    (hk : x.await.loopKind = none) : s.suspended g = some x ∧ g ≠ h := by
  by_cases hg : g = h
  · subst hg
    exfalso
    rcases runLoop_cases s g r loop with ⟨e, -⟩ | ⟨cursor, id, e, -⟩ <;> rw [e] at hx
    · rw [suspended_finish, if_pos rfl] at hx
      cases hx
    · rcases consumeClient_cases s g r { loop with cursor }
        (Loop.pair loop.kind (s.client r).clientId id).1
        (Loop.pair loop.kind (s.client r).clientId id).2 with ⟨-, e'⟩ | ⟨_, _, -, -, e'⟩ <;>
        rw [e'] at hx
      · rw [suspend, suspended_set, if_pos rfl] at hx
        split at hx
        · cases hx; cases hk
        · cases hx
      · exact (loop_of_consumeFrom hx hk).2 rfl
  · exact ⟨(suspended_runLoop hg).symm.trans hx, hg⟩

/-- A handler without a loop was suspended where it is before the turn, or a message started it. -/
theorem suspended_back {s s' : Room} {e : Event} (ht : Turn s e s') {g : HandlerRef} {x : Handler}
    (hx : s'.suspended g = some x) (hk : x.await.loopKind = none) :
    (s.suspended g = some x ∧ e.handler ≠ some g) ∨ ∃ m, e = .message x.client m ∧
      s.Awaits x.client m x.await ∧ x.client < s.added ∧
      (s.client x.client).eventsClosed = false ∧ g = s.handlers.length := by
  have other : ∀ {h : HandlerRef}, g ≠ h → some h ≠ some g := fun hg e =>
    hg (Option.some.inj e).symm
  cases ht with
  | add | capabilities | ignored | answered | elapsed => exact .inl ⟨hx, by simp [Event.handler]⟩
  | socketClosed =>
      refine .inl ⟨?_, by simp [Event.handler]⟩
      simpa [suspended, handlers_socketClosed] using hx
  | joinCallRequest =>
      refine .inl ⟨?_, by simp [Event.handler]⟩
      obtain ⟨hs, hg⟩ := loop_of_runLoop hx hk
      exact (suspended_append.trans (if_neg hg)).symm.trans hs
  | @spawn r m a hr he ha =>
      rw [suspended_spawn] at hx
      split at hx
      · next hg => cases hx; exact .inr ⟨m, rfl, ha, hr, he, hg⟩
      · exact .inl ⟨hx, by simp [Event.handler]⟩
  | @transportCreated h info r q role o hs =>
      obtain ⟨out, -, e'⟩ := transportCreated_eq s h r q role info
      rw [e'] at hx
      have hf := suspended_finish.symm.trans hx
      split at hf
      · cases hf
      · next hg => exact .inl ⟨hf, other hg⟩
  | @produced h r q t kind rtp hs =>
      obtain ⟨out, -, e'⟩ := produced_eq s h r q t kind
      rw [e'] at hx
      obtain ⟨hs, hg⟩ := loop_of_runLoop hx hk
      exact .inl ⟨hs, other hg⟩
  | consumed =>
      rw [consumed_eq] at hx
      obtain ⟨hs, hg⟩ := loop_of_consumeFrom hx hk
      exact .inl ⟨hs, other hg⟩
  | resumed =>
      obtain ⟨hs, hg⟩ := loop_of_runLoop hx hk
      exact .inl ⟨hs, other hg⟩
  | consumeFailed =>
      rw [suspended_finish] at hx
      split at hx
      · cases hx
      · next hg => exact .inl ⟨hx, other hg⟩
  | @ended _ h x' out hend =>
      have hf := suspended_finish.symm.trans hx
      split at hf
      · cases hf
      · next hg =>
          refine .inl ⟨hf, ?_⟩
          cases e <;> first | exact hend ▸ other hg | exact hend.elim
  | consumerClosed =>
      refine .inl ⟨?_, by simp [Event.handler]⟩
      exact ((closes_of_closeConsumer _ _).suspended g).symm.trans hx
  | routerClosed =>
      exact .inl ⟨((closes_of_closeRouter s).suspended g).symm.trans hx, by simp [Event.handler]⟩
  | close =>
      exact .inl ⟨((closes_of_close s).suspended g).symm.trans hx, by simp [Event.handler]⟩

/-! ### What was sent -/

theorem sent_consumeFrom (s : Room) (h : HandlerRef) (r : ClientRef) (loop : Loop)
    (call : ConsumeCall) : (s.consumeFrom h r loop call).sent = s.sent := by
  obtain ⟨a, e⟩ := consumeFrom_frame s h r loop call
  rw [e]; rfl

theorem Closes.sent_grows {T : TransportId → Prop} {s s' : Room} (h : Closes T s s') :
    s.sent <+: s'.sent := by
  obtain ⟨out, e⟩ := h.sent
  exact ⟨_, e.symm⟩

theorem runLoop_sent (s : Room) (h : HandlerRef) (r : ClientRef) (loop : Loop) :
    s.sent <+: (s.runLoop h r loop).sent := by
  obtain ⟨x, out, e⟩ := runLoop_frame s h r loop
  rw [e]
  exact List.prefix_append _ _

/-- What was sent stays sent. -/
theorem sent_turn {s s' : Room} {e : Event} (ht : Turn s e s') : s.sent <+: s'.sent := by
  cases ht with
  | add | capabilities | ignored | spawn | consumeFailed | elapsed => exact List.prefix_rfl
  | answered | ended => exact List.prefix_append _ _
  | @socketClosed r =>
      by_cases he : (s.client r).eventsClosed = true
      · rw [socketClosed_of_closed he]
        exact List.prefix_rfl
      · obtain ⟨s₂, hc, -, -, e⟩ := socketClosed_spec (by simpa using he)
        rw [e]
        split
        · exact (hc.sent_grows : s.sent <+: _).trans (closes_of_close s₂).sent_grows
        · exact hc.sent_grows
  | joinCallRequest => exact runLoop_sent { s with handlers := s.handlers ++ [none] } _ _ _
  | @transportCreated h info r q role o hs =>
      obtain ⟨out, -, e'⟩ := transportCreated_eq s h r q role info
      rw [e']
      exact List.prefix_append _ _
  | @produced h r q t kind rtp hs =>
      obtain ⟨out, -, e'⟩ := produced_eq s h r q t kind
      rw [e']
      refine List.IsPrefix.trans ?_ (runLoop_sent _ _ _ _)
      exact List.prefix_append _ _
  | consumed =>
      rw [consumed_eq, sent_consumeFrom]
      exact List.prefix_append _ _
  | resumed => exact runLoop_sent _ _ _ _
  | consumerClosed => exact (closes_of_closeConsumer _ _).sent_grows
  | routerClosed => exact (closes_of_closeRouter s).sent_grows
  | close => exact (closes_of_close s).sent_grows

end DemoApp.Sfu.Room
