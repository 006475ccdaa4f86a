import DemoApp.Support.LiveMap
import DemoApp.Sfu.Protocol

/-!
# Webapp — ServerConnection

`contexts/ServerConnection.tsx`: messages wait in a buffer until the websocket is there, and a
request is a promise that the response with its id resolves.  Here the websocket is set at once; the
attempts of `connect` to open it are in `Attempts.lean`.
-/

namespace DemoApp.Webapp
open Sfu

/-- The position of the promise of a request in the order of the calls of `request`. -/
abbrev PromiseRef := Nat

structure ServerConnectionConfig where
  maxBufferTimeInMs : Int
  maxBufferSize : Int

/-- `ServerConnection`.  `ws`: the websocket is open and stored; `timer`: `_timer` is set, and
`ticking`: its timeout is pending.  `promises` holds what the promises of the requests resolved
with, and `sent` lists what was handed to the websocket. -/
structure ServerConnection where
  config : ServerConnectionConfig
  ws : Bool := false
  requests : LiveMap RequestId PromiseRef := .empty
  timer : Bool := false
  ticking : Bool := false
  buffer : List (ClientMessage × Nat) := []
  promises : List (Option ServerMessage) := []
  sent : List ClientMessage := []
  now : Nat := 0

/-- The `requestId` of a response. -/
def responseTo : ServerMessage → Option RequestId
  | .getRouterCapabilitiesResponse q _ | .createTransportResponse q _ _ | .joinCallResponse q _ _
  | .createProducerResponse q _ | .pauseProducerResponse q => some q
  | .consumerCreatedNotification _ _ _ _ _ | .consumerClosedNotification _ => none

namespace ServerConnection

/-- What the promise `p` has resolved with. -/
def settled (s : ServerConnection) (p : PromiseRef) : Option ServerMessage := s.promises[p]?.join

/-- `sendMessage`. -/
def sendMessage (s : ServerConnection) (message : ClientMessage) : ServerConnection :=
  if s.ws then { s with sent := s.sent ++ [message] }
  else
    { s with
      buffer :=
        if s.config.maxBufferSize < 0 ∨ s.buffer.length < s.config.maxBufferSize then
          s.buffer ++ [(message, s.now)]
        else s.buffer
      timer := true
      ticking := s.ticking || !s.timer }

/-- The callback of the resend timer. -/
def tick (s : ServerConnection) : ServerConnection :=
  if !s.ws then s
  else
    s.buffer.foldl (fun s (message, timestamp) =>
        if 0 < s.config.maxBufferTimeInMs ∧ s.config.maxBufferTimeInMs < s.now - timestamp then s
        else s.sendMessage message)
      { s with buffer := [], ticking := false }

/-- `request`. -/
def request (s : ServerConnection) (requestId : RequestId) (message : ClientMessage) :
    ServerConnection :=
  sendMessage
    { s with
      requests := s.requests.set requestId s.promises.length
      promises := s.promises ++ [none] } message

/-- `resolveRequest`. -/
def resolveRequest (s : ServerConnection) (response : ServerMessage) : ServerConnection :=
  match (responseTo response).bind s.requests.get with
  | none   => s
  | some p =>
      -- a promise resolves once
      { s with promises := s.promises.modify p fun x => some (x.getD response) }

/-- What was handed to the websocket, and what waits for it. -/
def outgoing (s : ServerConnection) : List ClientMessage := s.sent ++ s.buffer.map Prod.fst

/-! ### The operations -/

section Operations

variable (s : ServerConnection)

theorem settled_resolveRequest (m : ServerMessage) (p : PromiseRef) :
    (s.resolveRequest m).settled p =
      if (responseTo m).bind s.requests.get = some p ∧ p < s.promises.length then
        some ((s.settled p).getD m)
      else s.settled p := by
  rw [resolveRequest]
  split
  · next h => simp [h]
  · next p' h =>
      simp only [settled, List.getElem?_modify, h, Option.some.injEq]
      by_cases hp : p' = p
      · subst hp
        by_cases hlt : p' < s.promises.length
        · simp [hlt]
        · simp [hlt]
      · simp [hp]

/-- A message is handed over, or waits, or is dropped. -/
theorem sendMessage_cases (m : ClientMessage) :
    (s.ws = true ∧ s.sendMessage m = { s with sent := s.sent ++ [m] }) ∨
      s.ws = false ∧ ∃ buffer timer ticking, s.sendMessage m = { s with buffer, timer, ticking } ∧
        ∀ c ∈ buffer.map Prod.fst, c ∈ s.buffer.map Prod.fst ∨ c = m := by
  rw [sendMessage]
  by_cases hw : s.ws = true
  · exact .inl ⟨hw, if_pos hw⟩
  · refine .inr ⟨by simpa using hw, _, _, _, if_neg hw, fun c hc => ?_⟩
    split at hc
    · simpa [or_comm] using hc
    · exact .inl hc

theorem foldl_sends {f : ServerConnection → ClientMessage × Nat → ServerConnection}
    (hf : ∀ s x, f s x = s ∨ f s x = s.sendMessage x.1) :
    ∀ (buffer : List (ClientMessage × Nat)) {s : ServerConnection}, s.ws = true →
      ∃ l, (∀ c ∈ l, c ∈ buffer.map Prod.fst) ∧
        buffer.foldl f s = { s with sent := s.sent ++ l }
  | [], s, _ => ⟨[], by simp, by simp⟩
  | x :: buffer, s, hw => by
      rcases hf s x with e | e
      · obtain ⟨l, hl, e'⟩ := foldl_sends hf buffer hw
        exact ⟨l, fun c hc => List.mem_cons_of_mem _ (hl c hc), by rw [List.foldl_cons, e, e']⟩
      · have hs : s.sendMessage x.1 = { s with sent := s.sent ++ [x.1] } := by
          simp [sendMessage, hw]
        obtain ⟨l, hl, e'⟩ := foldl_sends hf buffer
          (s := { s with sent := s.sent ++ [x.1] }) hw
        refine ⟨x.1 :: l, fun c hc => ?_, ?_⟩
        · rcases List.mem_cons.mp hc with rfl | hc
          · exact List.mem_cons_self
          · exact List.mem_cons_of_mem _ (hl c hc)
        · rw [List.foldl_cons, e, hs, e']
          simp

/-- The resend timer sends what waits, or part of it. -/
theorem tick_cases : s.tick = s ∨ ∃ l, (∀ c ∈ l, c ∈ s.buffer.map Prod.fst) ∧
    s.tick = { s with buffer := [], ticking := false, sent := s.sent ++ l } := by
  rw [tick]
  by_cases hw : s.ws = true
  · right
    rw [if_neg (by simp [hw])]
    exact foldl_sends (s := { s with buffer := [], ticking := false })
      (fun s x => by dsimp only; split <;> simp) s.buffer hw
  · simp [hw]

theorem ws_sendMessage (m : ClientMessage) : (s.sendMessage m).ws = s.ws := by
  rcases s.sendMessage_cases m with ⟨-, e⟩ | ⟨-, _, _, _, e, -⟩ <;> rw [e]

theorem ws_request (q : RequestId) (m : ClientMessage) : (s.request q m).ws = s.ws :=
  ws_sendMessage _ m

theorem ws_tick : s.tick.ws = s.ws := by
  rcases s.tick_cases with e | ⟨_, -, e⟩ <;> rw [e]

theorem ws_resolveRequest (m : ServerMessage) : (s.resolveRequest m).ws = s.ws := by
  rw [resolveRequest]
  split <;> rfl

end Operations

end ServerConnection

end DemoApp.Webapp
