import DemoApp.Webapp.Attempts

/-!
# Webapp — Signalling order

A connection that buffers without limit should hand its messages to the websocket in the order of
the calls of `sendMessage`.  Before the websocket is there they wait for the resend timer, and after
that they go to it at once.

* `in_order_iff`: at every moment what was handed over, followed by what waits, is what was passed,
  if and only if no message was passed while the websocket was there and another one waited.
* `overtaken`: a message that is passed between the opening and the next tick comes first.
-/

namespace DemoApp.Webapp
open Sfu Machine

namespace ServerConnection

variable {s : ServerConnection}

/-- The buffer is unlimited, and nothing in it expires. -/
structure Unlimited (config : ServerConnectionConfig) : Prop where
  maxBufferSize : config.maxBufferSize < 0
  maxBufferTimeInMs : config.maxBufferTimeInMs ≤ 0

theorem outgoing_request (q : RequestId) (m : ClientMessage) :
    (s.request q m).outgoing = (s.sendMessage m).outgoing := by
  by_cases hw : s.ws = true <;> simp [request, sendMessage, outgoing, hw]

theorem config_sendMessage (m : ClientMessage) : (s.sendMessage m).config = s.config := by
  rcases s.sendMessage_cases m with ⟨-, e⟩ | ⟨-, _, _, _, e, -⟩ <;> rw [e]

theorem config_tick : s.tick.config = s.config := by
  rcases s.tick_cases with e | ⟨_, -, e⟩ <;> rw [e]

/-- Without a websocket the message waits behind the others. -/
theorem outgoing_sendMessage_shut (hc : Unlimited s.config) (hw : s.ws = false)
    (m : ClientMessage) : (s.sendMessage m).outgoing = s.outgoing ++ [m] := by
  simp [sendMessage, outgoing, hw, hc.maxBufferSize]

/-- With a websocket it goes before those that wait. -/
theorem outgoing_sendMessage_open (hw : s.ws = true) (m : ClientMessage) :
    (s.sendMessage m).outgoing = s.sent ++ m :: s.buffer.map Prod.fst := by
  simp [sendMessage, outgoing, hw]

theorem foldl_sendMessage {f : ServerConnection → ClientMessage × Nat → ServerConnection}
    {config : ServerConnectionConfig}
    (hf : ∀ s, s.config = config → ∀ x, f s x = s.sendMessage x.1) :
    ∀ (buffer : List (ClientMessage × Nat)) (s : ServerConnection), s.config = config →
      s.ws = true → buffer.foldl f s = { s with sent := s.sent ++ buffer.map Prod.fst }
  | [],          s, _,  _  => by simp
  | x :: buffer, s, hc, hw => by
      have hs : s.sendMessage x.1 = { s with sent := s.sent ++ [x.1] } := by
        simp [sendMessage, hw]
      rw [List.foldl_cons, hf s hc, hs,
        foldl_sendMessage hf buffer { s with sent := s.sent ++ [x.1] } hc hw]
      simp

/-- The resend timer leaves the order alone. -/
theorem outgoing_tick (hc : Unlimited s.config) : s.tick.outgoing = s.outgoing := by
  have hle := hc.maxBufferTimeInMs
  rw [tick]
  split
  · rfl
  · next hw =>
    have hf : ∀ t : ServerConnection, t.config = s.config → ∀ x : ClientMessage × Nat,
        (if 0 < t.config.maxBufferTimeInMs ∧ t.config.maxBufferTimeInMs < t.now - x.2 then t
          else t.sendMessage x.1) = t.sendMessage x.1 := by
      intro t ht x
      refine if_neg ?_
      rw [ht]
      omega
    have hsent := foldl_sendMessage hf s.buffer { s with buffer := [], ticking := false } rfl
      (by simpa using hw)
    exact (congrArg outgoing hsent).trans (by simp [outgoing])

end ServerConnection

namespace Attempts
open ServerConnection

variable {s s' : Attempts} {e : Event} {config : ServerConnectionConfig} {m : Int}

/-- The message that the event passes to `sendMessage`. -/
def Event.passes : Event → Option ClientMessage
  | .sendMessage m | .request _ m => some m
  | _ => none

/-- The messages passed to `sendMessage`, in call order. -/
def passed (es : List Event) : List ClientMessage := es.filterMap Event.passes

/-- What was handed to the websocket, followed by what waits, is what was passed. -/
def InOrder (es : List Event) (s : Attempts) : Prop := s.connection.outgoing = passed es

instance (es : List Event) (s : Attempts) : Decidable (InOrder es s) :=
  inferInstanceAs (Decidable (_ = _))

/-- A message that is passed while the websocket is there finds no other one waiting. -/
def passesInTurn (s : Attempts) (e : Event) : Bool :=
  e.passes.all fun m => !s.connection.ws || s.connection.buffer.all fun x => x.1 = m

theorem passed_snoc (es : List Event) (e : Event) :
    passed (es ++ [e]) = passed es ++ e.passes.toList := by
  rw [passed, List.filterMap_append]
  cases h : e.passes <;> simp [passed, h]

/-- What a step does with the messages. -/
theorem outgoing_step (hc : Unlimited s.connection.config) (he : s.step e = some s') :
    s'.connection.config = s.connection.config ∧
      s'.connection.outgoing =
        e.passes.elim s.connection.outgoing fun m => (s.connection.sendMessage m).outgoing := by
  cases e with
  | sendMessage m => cases he; exact ⟨config_sendMessage m, rfl⟩
  | request q m => cases he; exact ⟨config_sendMessage m, outgoing_request q m⟩
  | tick =>
      obtain ⟨-, he⟩ := Option.ite_none_right_eq_some.mp he
      cases he
      exact ⟨config_tick, outgoing_tick hc⟩
  | elapsed ms => cases he; exact ⟨rfl, rfl⟩
  | message m =>
      obtain ⟨-, he⟩ := Option.ite_none_right_eq_some.mp he
      cases he
      simp only [ServerConnection.resolveRequest]
      split <;> exact ⟨rfl, rfl⟩
  | connect =>
      cases he
      rw [Attempts.connect]
      split
      · exact ⟨rfl, rfl⟩
      · split <;> exact ⟨rfl, rfl⟩
  | opened w =>
      cases step_turn he with
      | opened => exact ⟨rfl, rfl⟩
      | other ha => cases ha
  | failed w =>
      cases step_turn he with
      | failed => exact ⟨rfl, rfl⟩
      | other ha => cases ha
  | timeout w =>
      cases step_turn he with
      | timeout => exact ⟨rfl, rfl⟩
      | other ha => cases ha

/-- A message in front of a list or behind it makes the same list of it, if it is all there is. -/
theorem cons_eq_concat {α : Type} {x : α} :
    ∀ {l : List α}, x :: l = l ++ [x] ↔ ∀ y ∈ l, y = x
  | []     => by simp
  | y :: l => by
      rw [List.cons_append, List.cons.injEq, List.forall_mem_cons, eq_comm]
      refine and_congr_right ?_
      rintro rfl
      exact cons_eq_concat

theorem inOrder_step {es : List Event} (hc : Unlimited s.connection.config) (h : InOrder es s)
    (he : s.step e = some s') : InOrder (es ++ [e]) s' ↔ s.passesInTurn e = true := by
  rw [InOrder, passesInTurn]
  rw [(outgoing_step hc he).2, passed_snoc, ← h]
  cases e.passes with
  | none => simp
  | some m =>
      simp only [Option.elim_some, Option.toList_some, Option.all_some]
      cases hw : s.connection.ws with
      | false => simp [outgoing_sendMessage_shut hc hw]
      | true =>
          rw [outgoing_sendMessage_open hw, outgoing, List.append_assoc, List.append_cancel_left_eq,
            cons_eq_concat]
          simp

/-- **Signalling keeps its order**, for every unlimited buffer, in every run: at every moment what
was handed to the websocket, followed by what waits, is what was passed to `sendMessage`, if and
only if no message was passed while the websocket was there and another one waited. -/
theorem in_order_iff {es : List Event} (hc : Unlimited config)
    (hx : exec step (new config m) es = some s) :
    Throughout step InOrder (new config m) es ↔
      Along step (fun s e => s.passesInTurn e = true) (new config m) es := by
  refine throughout_iff_along (I := fun es s => InOrder es s ∧ s.connection.config = config)
    ⟨show InOrder [] (new config m) from rfl, rfl⟩ (fun _ _ h => h.1)
    (fun es s e s' _ h he ha => ?_) (fun es s e s' _ h he ha => ?_) hx
  · have hu : Unlimited s.connection.config := h.2.symm ▸ hc
    exact ⟨(inOrder_step hu h.1 he).mpr ha, (outgoing_step hu he).1.trans h.2⟩
  · have hu : Unlimited s.connection.config := h.2.symm ▸ hc
    exact fun hin => ha ((inOrder_step hu h.1 he).mp hin)

/-- The buffer as the app configures it. -/
def appConfig : ServerConnectionConfig := { maxBufferTimeInMs := -1, maxBufferSize := -1 }

/-- Messages are passed before the websocket is there, and again when the buffer was sent. -/
def sendsInTurn : List Event :=
  [.connect, .request "q" (.getRouterCapabilitiesRequest "q"), .failed 0, .tick, .timeout 0,
    .sendMessage (.joinCallRequest "r"), .opened 1, .tick, .sendMessage (.joinCallRequest "s")]

theorem in_order_iff_inTurn :
    ∃ s, exec step (new appConfig (-1)) sendsInTurn = some s ∧
      s.connection.sent = passed sendsInTurn ∧
      Throughout step InOrder (new appConfig (-1)) sendsInTurn := by
  have hx : exec step (new appConfig (-1)) sendsInTurn = some _ := rfl
  exact ⟨_, hx, rfl, (in_order_iff ⟨by decide, by decide⟩ hx).mpr (by decide)⟩

/-- A message is passed between the opening and the next tick. -/
def sendsEarly : List Event :=
  [.connect, .request "q" (.getRouterCapabilitiesRequest "q"), .opened 0,
    .sendMessage (.joinCallRequest "r"), .tick]

/-- **Overtaken.**  The message passed second is the first one on the websocket. -/
theorem overtaken :
    ∃ s, exec step (new appConfig (-1)) sendsEarly = some s ∧
      s.connection.sent = [.joinCallRequest "r", .getRouterCapabilitiesRequest "q"] ∧
      passed sendsEarly = [.getRouterCapabilitiesRequest "q", .joinCallRequest "r"] ∧
      ¬Throughout step InOrder (new appConfig (-1)) sendsEarly := by
  refine ⟨_, rfl, rfl, rfl, fun h => ?_⟩
  exact absurd (h sendsEarly _ (List.prefix_refl _) rfl) (by decide)

end Attempts

end DemoApp.Webapp
