import DemoApp.Support.Machine
import DemoApp.Support.Cells

/-!
# Samples — ObserverServiceClient

`utils/ObserverServiceClient.ts` of the web app and its twin `common/ObserverServiceClient.ts` of
the SFU: samples are sent on a websocket that is opened again when it closes, and are kept in a
buffer while there is none.

* The twins are one machine, over a `Variant` that holds what they differ in.
* A call of `connect` that connects is a `Run`: the attempts of `connecting()` and the promise
  `_connecting` that they settle.
* What runs in a continuation of a promise is an event of its own; `Scheduled` says that a
  websocket emits nothing while one is due.
-/

namespace DemoApp.Samples

/-- The position of a websocket in the order of their construction. -/
abbrev SocketRef := Nat

/-- The position of a run in the order of the calls of `connect` that made one. -/
abbrev RunRef := Nat

/-- A websocket: the arguments of its construction, the attempt it is made in, the listeners that
are registered for it and the events it has emitted.  `closing`: `close` was called on it. `sent`
lists what it was handed while it was open, and `lost` what it was handed at other times. -/
structure WebSocket where
  url : String
  protocol : String
  queryString : String
  run : RunRef
  tried : Nat
  /-- `reconnect` listens to `error` and to `close` -/
  watched : Bool
  /-- `closeListener` listens to `close` -/
  tracked : Bool := false
  opened : Bool := false
  errored : Bool := false
  closed : Bool := false
  closing : Bool := false
  sent : List String := []
  lost : List String := []

/-- Where the promise `_connecting` of a run stands. -/
inductive Progress where
  /-- the websocket `w` has not opened -/
  | trying (w : SocketRef)
  /-- the timer before the attempt `tried` is running -/
  | waiting (tried : Nat)
  /-- the promise of the attempt has resolved with `w`, and its `then` is due -/
  | opened (w : SocketRef)
  | fulfilled
  | rejected

/-- `cleared`: the callback of `finally` has run. -/
structure Run where
  queryString : String
  progress : Progress
  cleared : Bool := false

/-- A call that waits for a promise `_connecting`. -/
inductive Call where
  | disconnect (c : RunRef)
  /-- of a `close` without `_connecting` the continuation is due at once -/
  | close (c : Option RunRef)

/-- What the twins differ in, with the encoder: a sample `α` is encoded in the state `δ`. -/
structure Variant (δ α : Type) where
  protocol : String
  maxAttempt : Nat
  /-- `reconnect` is registered for `error` and `close` -/
  watches : Bool
  /-- `closeListener` is registered -/
  tracks : Bool
  /-- the condition of the first `return` of `closeListener` -/
  returns : (canConnect closed : Bool) → Bool
  /-- `_connecting` is unset when it settles -/
  unsets : Bool
  /-- an `error` that nobody listens to is thrown -/
  throws : Bool
  newEncoder : δ
  encodeToBase64 : δ → α → δ × String

/-- `ObserverServiceClient`, with the websockets, the runs and the calls it made.  `handed` lists
what was handed to the websockets, in order. -/
structure ObserverServiceClient (δ : Type) where
  wsAddress : String
  reconnect : Bool
  encoder : δ
  ws : Option SocketRef := none
  connecting : Option RunRef := none
  closed : Bool := false
  buffer : List String := []
  canConnect : Bool := true
  sockets : List WebSocket := []
  runs : List Run := []
  calls : List (Option Call) := []
  handed : List (SocketRef × String) := []
  crashed : Bool := false

namespace ObserverServiceClient

variable {δ α : Type}

/-- `connecting(tried)`, up to the construction of its websocket. -/
def connectingTo (v : Variant δ α) (s : ObserverServiceClient δ) (c : RunRef)
    (queryString : String) (tried : Nat) : ObserverServiceClient δ :=
  { s with
    sockets := s.sockets ++
      [{ url := s.wsAddress ++ "?" ++ queryString
         protocol := v.protocol
         queryString
         run := c
         tried
         watched := v.watches }]
    runs := s.runs.modify c fun run => { run with progress := .trying s.sockets.length } }

/-- `connect`. -/
def connect (v : Variant δ α) (s : ObserverServiceClient δ) (queryString : String) :
    ObserverServiceClient δ :=
  -- it throws
  if s.closed then s
  else if s.connecting.isSome then s
  else
    connectingTo v
      { s with
        canConnect := true
        connecting := some s.runs.length
        runs := s.runs ++ [{ queryString, progress := .waiting 0 }] }
      s.runs.length queryString 0

/-- The listener `reconnect` of the websocket `w`. -/
def reconnecting (v : Variant δ α) (s : ObserverServiceClient δ) (w : SocketRef) (x : WebSocket) :
    ObserverServiceClient δ :=
  { s with
    sockets := s.sockets.modify w fun x => { x with watched := false }
    runs := s.runs.modify x.run fun run =>
      { run with
        progress := if v.maxAttempt < x.tried then .rejected else .waiting (x.tried + 1) } }

/-- The listener `done` of the websocket `w`. -/
def done (s : ObserverServiceClient δ) (w : SocketRef) (x : WebSocket) : ObserverServiceClient δ :=
  { s with
    sockets := s.sockets.modify w fun x => { x with opened := true, watched := false }
    runs := s.runs.modify x.run fun run => { run with progress := .opened w } }

/-- The callback of `connecting().then(…)`. -/
def continued (v : Variant δ α) (s : ObserverServiceClient δ) (c : RunRef) (w : SocketRef) :
    ObserverServiceClient δ :=
  { s with
    sockets := s.sockets.modify w fun x => { x with tracked := v.tracks }
    ws := some w
    runs := s.runs.modify c fun run => { run with progress := .fulfilled } }

/-- `close`. -/
def close (s : ObserverServiceClient δ) : ObserverServiceClient δ :=
  if s.closed then s
  else { s with closed := true, calls := s.calls ++ [some (.close s.connecting)] }

/-- `this._ws?.close()`. -/
def closeSocket (s : ObserverServiceClient δ) : ObserverServiceClient δ :=
  match s.ws with
  | some w => { s with sockets := s.sockets.modify w fun x => { x with closing := true } }
  | none   => s

/-- `disconnect`, up to its `await`. -/
def disconnect (s : ObserverServiceClient δ) : ObserverServiceClient δ :=
  -- it throws
  if s.closed then s
  else
    match s.connecting with
    | some c => { s with calls := s.calls ++ [some (.disconnect c)] }
    | none   => closeSocket { s with canConnect := false }

/-- The listener `closeListener` of the websocket `w`. -/
def closeListener (v : Variant δ α) (s : ObserverServiceClient δ) (w : SocketRef) (x : WebSocket)
    (code : Nat) : ObserverServiceClient δ :=
  let s₁ := { s with
    sockets := s.sockets.modify w fun x => { x with tracked := false }
    ws := none }
  if v.returns s₁.canConnect s₁.closed then s₁
  else if !s₁.reconnect || 4000 ≤ code then s₁.close
  else s₁.connect v x.queryString

/-- `error` is emitted on the websocket `w`. -/
def socketErrored (v : Variant δ α) (s : ObserverServiceClient δ) (w : SocketRef) (x : WebSocket) :
    ObserverServiceClient δ :=
  let s₁ := { s with sockets := s.sockets.modify w fun x => { x with errored := true } }
  if x.watched then reconnecting v s₁ w x
  else { s₁ with crashed := v.throws }

/-- `close` is emitted on the websocket `w`. -/
def socketClosed (v : Variant δ α) (s : ObserverServiceClient δ) (w : SocketRef) (x : WebSocket)
    (code : Nat) : ObserverServiceClient δ :=
  let s₁ := { s with sockets := s.sockets.modify w fun x => { x with closed := true } }
  let s₂ := if x.watched then reconnecting v s₁ w x else s₁
  if x.tracked then closeListener v s₂ w x code else s₂

/-- Texts are handed to the websocket `w`, one after the other. -/
def hand (s : ObserverServiceClient δ) (w : SocketRef) (texts : List String) :
    ObserverServiceClient δ :=
  { s with
    handed := s.handed ++ texts.map fun text => (w, text)
    sockets := s.sockets.modify w fun x =>
      if x.opened && !x.closed then { x with sent := x.sent ++ texts }
      else { x with lost := x.lost ++ texts } }

/-- `send`. -/
def send (v : Variant δ α) (s : ObserverServiceClient δ) (sample : α) : ObserverServiceClient δ :=
  -- it throws
  if s.closed then s
  else
    let (encoder, text) := v.encodeToBase64 s.encoder sample
    match s.ws with
    | none   => { s with encoder, buffer := s.buffer ++ [text] }
    | some w => hand { s with encoder, buffer := [] } w (s.buffer ++ [text])

/-! ### Events -/

inductive Event (α : Type) where
  | connect (queryString : String)
  | disconnect
  | close
  | send (sample : α)
  /-- a websocket emits `open`, `error`, `close` -/
  | opened (w : SocketRef)
  | errored (w : SocketRef)
  | closed (w : SocketRef) (code : Nat)
  /-- the timer before the next attempt of a run fires -/
  | timeout (c : RunRef)
  /-- the callback of `connecting().then(…)` runs -/
  | continued (c : RunRef)
  /-- the callback of `_connecting.finally(…)` runs -/
  | settled (c : RunRef)
  /-- a call that waits for a promise continues -/
  | resumed (n : Nat)

/-- Whether the promise of a run has settled, and how. -/
def outcome (s : ObserverServiceClient δ) (c : RunRef) : Option Bool :=
  match s.runs[c]? with
  | some ⟨_, .fulfilled, _⟩ => some true
  | some ⟨_, .rejected, _⟩  => some false
  | _ => none

/-- Whether the promise that a call waits for has settled, and how. -/
def awaited (s : ObserverServiceClient δ) : Call → Option Bool
  | .disconnect c | .close (some c) => s.outcome c
  | .close none => some true

/-- The continuation of a call. -/
def resume (s : ObserverServiceClient δ) : Call → ObserverServiceClient δ
  | .disconnect _ => closeSocket { s with canConnect := false }
  | .close _      => s.closeSocket

/-- A websocket emits `open` once, on a connection that did not fail, and `close` last. -/
def step (v : Variant δ α) (s : ObserverServiceClient δ) (e : Event α) :
    Option (ObserverServiceClient δ) :=
  if s.crashed then none
  else
    match e with
    | .connect queryString => some (s.connect v queryString)
    | .disconnect          => some s.disconnect
    | .close               => some s.close
    | .send sample         => some (s.send v sample)
    | .opened w            =>
        match s.sockets[w]? with
        | some x =>
            if x.opened || x.errored || x.closed || x.closing then none else some (s.done w x)
        | none   => none
    | .errored w           =>
        match s.sockets[w]? with
        | some x => if x.errored || x.closed then none else some (s.socketErrored v w x)
        | none   => none
    | .closed w code       =>
        match s.sockets[w]? with
        | some x => if x.closed then none else some (s.socketClosed v w x code)
        | none   => none
    | .timeout c           =>
        match s.runs[c]? with
        | some ⟨queryString, .waiting tried, _⟩ => some (s.connectingTo v c queryString tried)
        | _ => none
    | .continued c         =>
        match s.runs[c]? with
        | some ⟨_, .opened w, _⟩ => some (s.continued v c w)
        | _ => none
    | .settled c           =>
        match s.runs[c]? with
        | some ⟨_, _, cleared⟩ =>
            if v.unsets && (s.outcome c).isSome && !cleared then
              some { s with
                connecting := none
                runs := s.runs.modify c fun run => { run with cleared := true } }
            else none
        | none => none
    | .resumed n           =>
        match s.calls[n]? with
        | some (some call) =>
            match s.awaited call with
            | some true  => some { s.resume call with calls := s.calls.set n none }
            -- the call rejects
            | some false => some { s with calls := s.calls.set n none }
            | none       => none
        | _ => none

/-! ### Continuations -/

/-- A continuation of the promise of a run is due. -/
def Run.isDue (v : Variant δ α) (run : Run) : Bool :=
  match run.progress with
  | .opened _ => true
  | .fulfilled | .rejected => v.unsets && !run.cleared
  | .trying _ | .waiting _ => false

/-- A continuation is due. -/
def due (v : Variant δ α) (s : ObserverServiceClient δ) : Bool :=
  s.runs.any (Run.isDue v) ||
    s.calls.any fun call => call.any fun call => (s.awaited call).isSome

/-- A websocket emits something. -/
def Event.ofSocket : Event α → Bool
  | .opened _ | .errored _ | .closed _ _ => true
  | _ => false

/-- No websocket emits anything while a continuation is due. -/
def Scheduled (v : Variant δ α) (s : ObserverServiceClient δ) (e : Event α) : Prop :=
  e.ofSocket = true → s.due v = false

instance (v : Variant δ α) (s : ObserverServiceClient δ) (e : Event α) :
    Decidable (Scheduled v s e) :=
  inferInstanceAs (Decidable (_ → _))

/-! ### Turns -/

/-- What a step can do. -/
inductive Turn (v : Variant δ α) (s : ObserverServiceClient δ) :
    Event α → ObserverServiceClient δ → Prop
  | connect {queryString : String} : Turn v s (.connect queryString) (s.connect v queryString)
  | disconnect : Turn v s .disconnect s.disconnect
  | close : Turn v s .close s.close
  | send {sample : α} : Turn v s (.send sample) (s.send v sample)
  | opened {w : SocketRef} {x : WebSocket} (hx : s.sockets[w]? = some x) (ho : x.opened = false)
      (hc : x.closed = false) : Turn v s (.opened w) (s.done w x)
  | errored {w : SocketRef} {x : WebSocket} (hx : s.sockets[w]? = some x)
      (hc : x.closed = false) : Turn v s (.errored w) (s.socketErrored v w x)
  | closed {w : SocketRef} {x : WebSocket} {code : Nat} (hx : s.sockets[w]? = some x)
      (hc : x.closed = false) : Turn v s (.closed w code) (s.socketClosed v w x code)
  | timeout {c : RunRef} {run : Run} {tried : Nat} (hr : s.runs[c]? = some run)
      (hp : run.progress = .waiting tried) :
      Turn v s (.timeout c) (s.connectingTo v c run.queryString tried)
  | continued {c : RunRef} {run : Run} {w : SocketRef} (hr : s.runs[c]? = some run)
      (hp : run.progress = .opened w) : Turn v s (.continued c) (s.continued v c w)
  | settled {c : RunRef} (hu : v.unsets = true) (ho : (s.outcome c).isSome = true) :
      Turn v s (.settled c) { s with
        connecting := none
        runs := s.runs.modify c fun run => { run with cleared := true } }
  | resumed {n : Nat} {call : Call} (hn : s.calls[n]? = some (some call))
      (ha : s.awaited call = some true) :
      Turn v s (.resumed n) { s.resume call with calls := s.calls.set n none }
  | rejected {n : Nat} {call : Call} (hn : s.calls[n]? = some (some call))
      (ha : s.awaited call = some false) :
      Turn v s (.resumed n) { s with calls := s.calls.set n none }

theorem step_turn {v : Variant δ α} {s s' : ObserverServiceClient δ} {e : Event α}
    (he : s.step v e = some s') : s.crashed = false ∧ Turn v s e s' := by
  unfold step at he
  split at he
  · cases he
  · next hcr =>
    refine ⟨by simpa using hcr, ?_⟩
    cases e with
    | connect queryString => cases he; exact .connect
    | disconnect => cases he; exact .disconnect
    | close => cases he; exact .close
    | send sample => cases he; exact .send
    | opened w =>
        dsimp only at he
        split at he
        · next x hx =>
          split at he <;> cases he
          next h =>
          simp only [Bool.or_eq_true, not_or, Bool.not_eq_true] at h
          exact .opened hx h.1.1.1 h.1.2
        · cases he
    | errored w =>
        dsimp only at he
        split at he
        · next x hx =>
          split at he <;> cases he
          next h =>
          simp only [Bool.or_eq_true, not_or, Bool.not_eq_true] at h
          exact .errored hx h.2
        · cases he
    | closed w code =>
        dsimp only at he
        split at he
        · next x hx =>
          split at he <;> cases he
          next h => exact .closed hx (by simpa using h)
        · cases he
    | timeout c =>
        dsimp only at he
        split at he <;> cases he
        next hr => exact .timeout hr rfl
    | continued c =>
        dsimp only at he
        split at he <;> cases he
        next hr => exact .continued hr rfl
    | settled c =>
        dsimp only at he
        split at he
        · split at he <;> cases he
          next h =>
          simp only [Bool.and_eq_true] at h
          exact .settled h.1.1 h.1.2
        · cases he
    | resumed n =>
        dsimp only at he
        split at he
        · next hn =>
          split at he <;> cases he
          · next ha => exact .resumed hn ha
          · next ha => exact .rejected hn ha
        · cases he

/-! ### What the operations keep -/

section Rules

variable {v : Variant δ α} {P : ObserverServiceClient δ → Prop} {s : ObserverServiceClient δ}

theorem connect_of (h : P s) (queryString : String)
    (hrun : s.closed = false → s.connecting = none → P (connectingTo v
      { s with
        canConnect := true
        connecting := some s.runs.length
        runs := s.runs ++ [{ queryString, progress := .waiting 0 }] }
      s.runs.length queryString 0)) :
    P (s.connect v queryString) := by
  rw [connect]
  split
  · exact h
  · next hc =>
    split
    · exact h
    · next hn => exact hrun (by simpa using hc) (by simpa using hn)

theorem close_of (h : P s)
    (hclose : P { s with closed := true, calls := s.calls ++ [some (.close s.connecting)] }) :
    P s.close := by
  rw [close]
  split
  · exact h
  · exact hclose

theorem closeSocket_of (h : P s)
    (hclosing : ∀ w, P { s with
      sockets := s.sockets.modify w fun x => { x with closing := true } }) : P s.closeSocket := by
  rw [closeSocket]
  split
  · exact hclosing _
  · exact h

theorem disconnect_of (h : P s)
    (hcall : ∀ c, P { s with calls := s.calls ++ [some (.disconnect c)] })
    (hsocket : P (closeSocket { s with canConnect := false })) : P s.disconnect := by
  rw [disconnect]
  split
  · exact h
  · split
    · exact hcall _
    · exact hsocket

theorem send_of (h : P s) (sample : α)
    (hbuffer : ∀ encoder text, P { s with encoder, buffer := s.buffer ++ [text] })
    (hhand : ∀ encoder text w, s.ws = some w →
      P (hand { s with encoder, buffer := [] } w (s.buffer ++ [text]))) :
    P (s.send v sample) := by
  rw [send]
  split
  · exact h
  · dsimp only
    split
    · exact hbuffer _ _
    · next w hw => exact hhand _ _ w hw

end Rules

/-- What `connect`, `close` and the listeners keep, a `close` that is emitted keeps. -/
theorem socketClosed_of {v : Variant δ α} {P : ObserverServiceClient δ → Prop} {w : SocketRef}
    {x : WebSocket} {s : ObserverServiceClient δ} (code : Nat)
    (hclosed : P { s with sockets := s.sockets.modify w fun x => { x with closed := true } })
    (hreconnecting : ∀ t, P t → P (t.reconnecting v w x))
    (hunset : ∀ t : ObserverServiceClient δ, P t → P { t with
      sockets := t.sockets.modify w fun x => { x with tracked := false }
      ws := none })
    (hclose : ∀ t : ObserverServiceClient δ, P t → P t.close)
    (hconnect : ∀ t : ObserverServiceClient δ, P t → P (t.connect v x.queryString)) :
    P (s.socketClosed v w x code) := by
  have listened : ∀ t : ObserverServiceClient δ, P t → P (t.closeListener v w x code) := by
    intro t ht
    rw [closeListener]
    dsimp only
    split
    · exact hunset t ht
    · split
      · exact hclose _ (hunset t ht)
      · exact hconnect _ (hunset t ht)
  cases ht : x.tracked <;> cases hw : x.watched <;>
    simp only [socketClosed, ht, hw, Bool.false_eq_true, if_false, if_true]
  · exact hclosed
  · exact hreconnecting _ hclosed
  · exact listened _ hclosed
  · exact listened _ (hreconnecting _ hclosed)

/-- The constructor. -/
def new (v : Variant δ α) (wsAddress : String) (reconnect : Bool) : ObserverServiceClient δ :=
  { wsAddress, reconnect, encoder := v.newEncoder }

end ObserverServiceClient

/-! ### The twins -/

section Twins

variable {δ α : Type}

def webappClient (newEncoder : δ) (encodeToBase64 : δ → α → δ × String) : Variant δ α where
  protocol := "client-sample"
  maxAttempt := 10
  watches := true
  tracks := true
  returns canConnect closed := !canConnect || closed
  unsets := true
  throws := false
  newEncoder
  encodeToBase64

/-- The SFU removes the listeners where the web app adds them, and never unsets `_connecting`. -/
def sfuClient (newEncoder : δ) (encodeToBase64 : δ → α → δ × String) : Variant δ α where
  protocol := "sfu-sample"
  maxAttempt := 2
  watches := false
  tracks := false
  returns canConnect closed := !canConnect || !closed
  unsets := false
  throws := true
  newEncoder
  encodeToBase64

end Twins

end DemoApp.Samples
