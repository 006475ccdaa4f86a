import DemoApp.Support.Cells
import DemoApp.Support.Machine
import DemoApp.Webapp.ServerConnection

/-!
# Webapp — The attempts of connect

`ServerConnection.connect` opens a websocket, and again after a pause when that fails.  A caller
should be released once `_ws` is set, and when the retries are used up every caller should learn of
it and a later call start over.

* `connect_outcome_iff`: in a run the outcome is so at every moment if and only if `connect` was
  never called.  The call that starts the attempts does not wait for them.
* `givesUp_iff`: a run that has failed gives up if and only if it is not the last allowed retry that
  fails.
* `joined_of_exec`: the other callers are released only once `_ws` is set, and never rejected.
* `attempts_le`: there are up to `maxRetry + 2` attempts.
* `lost_stays`: when they all failed, `_connecting` stays and nobody connects any more.
-/

namespace DemoApp.Webapp
open Sfu

/-- The position of a run of `connecting` among the runs. -/
abbrev RunRef := Nat

/-- The position of a websocket among the websockets. -/
abbrev SocketRef := Nat

inductive ReadyState where
  | connecting
  | opened
  | failed
  deriving DecidableEq

/-- A websocket, with the run and the number of its attempt. -/
structure WebSocket where
  run : RunRef
  retried : Nat
  state : ReadyState := .connecting

/-- Where the attempts of a run stand. -/
inductive Progress where
  /-- the websocket `w` has not opened -/
  | trying (w : SocketRef)
  /-- the timer before the attempt `retried` is running -/
  | waiting (retried : Nat)
  /-- `_connecting` has resolved -/
  | fulfilled
  /-- `_connecting` was rejected -/
  | rejected
  /-- the promise of a later attempt was rejected, which no `catch` handles -/
  | lost
  deriving DecidableEq

/-- What a call of `connect` returned. -/
inductive Caller where
  /-- it found `_ws` set -/
  | found
  /-- it started the run, and its promise is not that of the run -/
  | started (c : RunRef)
  /-- it returned the `_connecting` of the run -/
  | joined (c : RunRef)
  deriving DecidableEq

inductive Outcome where
  | pending
  | resolved
  | rejected
  deriving DecidableEq

/-- A `ServerConnection` with its `_connecting`, and with the runs, the websockets and the calls it
made. -/
structure Attempts where
  connection : ServerConnection
  maxRetry : Int
  connecting : Option RunRef := none
  runs : List Progress := []
  sockets : List WebSocket := []
  callers : List Caller := []

namespace Attempts

def new (config : ServerConnectionConfig) (maxRetry : Int) : Attempts :=
  { connection := { config }, maxRetry }

/-- `connecting(url, retried)`. -/
def connectingTo (s : Attempts) (c : RunRef) (retried : Nat) : Attempts :=
  { s with
    sockets := s.sockets ++ [{ run := c, retried }]
    runs := s.runs.modify c fun _ => .trying s.sockets.length }

/-- `connect`. -/
def connect (s : Attempts) : Attempts :=
  if s.connection.ws then { s with callers := s.callers ++ [.found] }
  else
    match s.connecting with
    | some c => { s with callers := s.callers ++ [.joined c] }
    | none   =>
        connectingTo
          { s with
            connecting := some s.runs.length
            runs := s.runs ++ [.waiting 0]
            callers := s.callers ++ [.started s.runs.length] }
          s.runs.length 0

/-- The websocket has opened: its promise resolves those of the attempts before it, and the `then`
of the first one runs. -/
def opened (s : Attempts) (w : SocketRef) (x : WebSocket) : Attempts :=
  { s with
    sockets := s.sockets.modify w fun x => { x with state := .opened }
    runs := s.runs.modify x.run fun _ => .fulfilled
    connection := { s.connection with ws := true }
    connecting := none }

/-- The websocket has failed. -/
def failed (s : Attempts) (w : SocketRef) (x : WebSocket) : Attempts :=
  { s with
    sockets := s.sockets.modify w fun x => { x with state := .failed }
    runs := s.runs.modify x.run fun _ =>
      if 0 < s.maxRetry ∧ s.maxRetry < x.retried then
        -- the timeout passes on that `connecting(url, retried + 1)` resolves, and nothing else
        if x.retried = 0 then .rejected else .lost
      else .waiting (x.retried + 1) }

inductive Event where
  | connect
  | opened (w : SocketRef)
  | failed (w : SocketRef)
  /-- the pause before the next attempt is over -/
  | timeout (c : RunRef)
  | sendMessage (m : ClientMessage)
  | request (q : RequestId) (m : ClientMessage)
  /-- the resend timer fires -/
  | tick
  | elapsed (ms : Nat)
  | message (m : ServerMessage)

/-- One turn of the event loop. -/
def step (s : Attempts) : Event → Option Attempts
  | .connect => some s.connect
  | .opened w =>
      match s.sockets[w]? with
      | some x => if x.state = .connecting then some (s.opened w x) else none
      | none   => none
  | .failed w =>
      match s.sockets[w]? with
      | some x => if x.state = .connecting then some (s.failed w x) else none
      | none   => none
  | .timeout c =>
      match s.runs[c]? with
      | some (.waiting retried) => some (s.connectingTo c retried)
      | _ => none
  | .sendMessage m => some { s with connection := s.connection.sendMessage m }
  | .request q m => some { s with connection := s.connection.request q m }
  | .tick =>
      if s.connection.ticking then some { s with connection := s.connection.tick } else none
  | .elapsed ms => some { s with connection.now := s.connection.now + ms }
  | .message m =>
      if s.connection.ws then some { s with connection := s.connection.resolveRequest m } else none

/-- What has become of the promise that a call returned. -/
def outcome (s : Attempts) : Caller → Outcome
  | .found | .started _ => .resolved
  | .joined c =>
      match s.runs[c]? with
      | some .fulfilled => .resolved
      | some .rejected => .rejected
      | _ => .pending

/-- The websockets of a run. -/
def attempts (s : Attempts) (c : RunRef) : List WebSocket :=
  s.sockets.filter fun x => x.run = c

/-- Some attempt has succeeded, and `_ws` is set. -/
def Connected (s : Attempts) : Prop :=
  s.connection.ws = true ∧ ∃ x ∈ s.sockets, x.state = .opened

/-- A run that failed at first and at all its retries is over: it makes no further attempt, its
callers were told, and `connect` may start another. -/
structure GivesUp (s : Attempts) : Prop where
  bounded : ∀ c, ((s.attempts c).length : Int) ≤ s.maxRetry + 1
  exhausted : ∀ c, ((s.attempts c).length : Int) = s.maxRetry + 1 →
    (∀ x ∈ s.attempts c, x.state = .failed) → s.connecting ≠ some c ∧
      ∀ k ∈ s.callers, k = .started c ∨ k = .joined c → s.outcome k = .rejected

/-- Whoever is released finds `_ws` set, and a run that has failed gives up. -/
structure Kept (s : Attempts) : Prop where
  released : ∀ k ∈ s.callers, s.outcome k = .resolved → s.Connected
  givesUp : s.GivesUp

/-! ### Steps -/

open Machine

variable {s s' : Attempts} {e : Event} {config : ServerConnectionConfig} {m : Int}

/-- The event may concern the attempts. -/
def Event.attempts : Event → Bool
  | .connect | .opened _ | .failed _ | .timeout _ => true
  | _ => false

/-- What a step does: `connect` is called, a websocket or the timer of a run is heard, or the
attempts stay as they are. -/
inductive Turn (s : Attempts) : Event → Attempts → Prop
  | connect : Turn s .connect s.connect
  | opened {w : SocketRef} {x : WebSocket} (hx : s.sockets[w]? = some x)
      (hc : x.state = .connecting) : Turn s (.opened w) (s.opened w x)
  | failed {w : SocketRef} {x : WebSocket} (hx : s.sockets[w]? = some x)
      (hc : x.state = .connecting) : Turn s (.failed w) (s.failed w x)
  | timeout {c : RunRef} {retried : Nat} (hc : s.runs[c]? = some (.waiting retried)) :
      Turn s (.timeout c) (s.connectingTo c retried)
  | other {e : Event} {connection : ServerConnection} (ha : e.attempts = false)
      (hw : connection.ws = s.connection.ws) : Turn s e { s with connection }

theorem step_turn (he : s.step e = some s') : Turn s e s' := by
  cases e with
  | connect => cases he; exact .connect
  | opened w =>
      simp only [step] at he
      split at he
      · next x hx =>
        obtain ⟨hc, he⟩ := Option.ite_none_right_eq_some.mp he
        cases he
        exact .opened hx hc
      · cases he
  | failed w =>
      simp only [step] at he
      split at he
      · next x hx =>
        obtain ⟨hc, he⟩ := Option.ite_none_right_eq_some.mp he
        cases he
        exact .failed hx hc
      · cases he
  | timeout c =>
      simp only [step] at he
      split at he
      · next hc => cases he; exact .timeout hc
      · cases he
  | sendMessage m => cases he; exact .other rfl (s.connection.ws_sendMessage m)
  | request q m => cases he; exact .other rfl (s.connection.ws_request q m)
  | tick =>
      obtain ⟨-, he⟩ := Option.ite_none_right_eq_some.mp he
      cases he
      exact .other rfl s.connection.ws_tick
  | elapsed ms => cases he; exact .other rfl rfl
  | message m =>
      obtain ⟨-, he⟩ := Option.ite_none_right_eq_some.mp he
      cases he
      exact .other rfl (s.connection.ws_resolveRequest m)

/-! ### The course of the attempts -/

/-- The websocket of an attempt that failed, of the first run. -/
def failedSocket (retried : Nat) : WebSocket := { run := 0, retried, state := .failed }

/-- The first attempts, all failed. -/
def failedSockets (n : Nat) : List WebSocket := (List.range n).map failedSocket

/-- An attempt that may still fail, or succeed. -/
def Allowed (maxRetry : Int) (retried : Nat) : Prop := 0 < maxRetry → retried ≤ maxRetry + 1

/-- Where the run stands, and the websockets it has made. -/
inductive Stage (s : Attempts) : Progress → Prop
  | trying {r : Nat} (hs : s.sockets = failedSockets r ++ [{ run := 0, retried := r }])
      (hr : Allowed s.maxRetry r) (hw : s.connection.ws = false) (hc : s.connecting = some 0) :
      Stage s (.trying r)
  | waiting {r : Nat} (hs : s.sockets = failedSockets r) (hr : Allowed s.maxRetry r)
      (hw : s.connection.ws = false) (hc : s.connecting = some 0) : Stage s (.waiting r)
  | fulfilled {r : Nat}
      (hs : s.sockets = failedSockets r ++ [{ run := 0, retried := r, state := .opened }])
      (hr : Allowed s.maxRetry r) (hw : s.connection.ws = true) (hc : s.connecting = none) :
      Stage s .fulfilled
  | lost {r : Nat} (hs : s.sockets = failedSockets (r + 1)) (hm : 0 < s.maxRetry)
      (hr : r = s.maxRetry + 1) (hw : s.connection.ws = false) (hc : s.connecting = some 0) :
      Stage s .lost

/-- There is one run at most, and it never ends but with `_ws` set. -/
inductive Course (s : Attempts) : Prop
  | idle (hr : s.runs = []) (hs : s.sockets = []) (hw : s.connection.ws = false)
      (hc : s.connecting = none) (hk : s.callers = [])
  | run {p : Progress} (hr : s.runs = [p]) (hp : Stage s p)

@[simp] theorem length_failedSockets (n : Nat) : (failedSockets n).length = n := by
  simp [failedSockets]

theorem failedSockets_succ (n : Nat) :
    failedSockets (n + 1) = failedSockets n ++ [failedSocket n] := by
  simp [failedSockets, List.range_succ]

theorem of_mem_failedSockets {n : Nat} {x : WebSocket} (h : x ∈ failedSockets n) :
    x.run = 0 ∧ x.state = .failed := by
  obtain ⟨i, -, rfl⟩ := List.mem_map.mp h
  exact ⟨rfl, rfl⟩

/-- Of the websockets only the last one is heard. -/
theorem last_of_connecting {n : Nat} {x y : WebSocket} {w : SocketRef}
    (hx : (failedSockets n ++ [y])[w]? = some x) (hc : x.state = .connecting) : w = n ∧ x = y := by
  rcases Cells.concat_eq_some.mp hx with hx | ⟨rfl, rfl⟩
  · cases (of_mem_failedSockets (List.mem_of_getElem? hx)).2.symm.trans hc
  · exact ⟨length_failedSockets n, rfl⟩

theorem not_connecting {n : Nat} {x : WebSocket} {w : SocketRef}
    (hx : (failedSockets n)[w]? = some x) : x.state ≠ .connecting := by
  intro hc
  cases (of_mem_failedSockets (List.mem_of_getElem? hx)).2.symm.trans hc

theorem modify_last (f : WebSocket → WebSocket) (n : Nat) (y : WebSocket) :
    (failedSockets n ++ [y]).modify n f = failedSockets n ++ [f y] := by
  simpa using Cells.modify_concat f (failedSockets n) y

theorem sockets_failed {w : SocketRef}
    (hs : s.sockets = failedSockets w ++ [{ run := 0, retried := w }]) :
    (s.failed w { run := 0, retried := w }).sockets = failedSockets (w + 1) := by
  simp only [Attempts.failed, hs]
  exact (modify_last ..).trans (failedSockets_succ w).symm

/-- The stage reads no call and nothing of the connection but `_ws`. -/
theorem Stage.keep {p : Progress} (hp : Stage s p) (hs : s'.sockets = s.sockets)
    (hm : s'.maxRetry = s.maxRetry) (hw : s'.connection.ws = s.connection.ws)
    (hc : s'.connecting = s.connecting) : Stage s' p := by
  cases hp with
  | trying hs' hr hw' hc' =>
      exact .trying (hs.trans hs') (hm ▸ hr) (hw.trans hw') (hc.trans hc')
  | waiting hs' hr hw' hc' =>
      exact .waiting (hs.trans hs') (hm ▸ hr) (hw.trans hw') (hc.trans hc')
  | fulfilled hs' hr hw' hc' =>
      exact .fulfilled (hs.trans hs') (hm ▸ hr) (hw.trans hw') (hc.trans hc')
  | lost hs' hm' hr hw' hc' =>
      exact .lost (hs.trans hs') (hm ▸ hm') (hm ▸ hr) (hw.trans hw') (hc.trans hc')

/-- Only the run that is trying has a websocket that is heard. -/
theorem Stage.trying_of_connecting {p : Progress} (hp : Stage s p) {w : SocketRef} {x : WebSocket}
    (hx : s.sockets[w]? = some x) (hc : x.state = .connecting) :
    p = .trying w ∧ s.sockets = failedSockets w ++ [x] ∧ x = { run := 0, retried := w } ∧
      Allowed s.maxRetry w ∧ s.connection.ws = false ∧ s.connecting = some 0 := by
  cases hp with
  | trying hs hr hw hcon =>
      rw [hs] at hx
      obtain ⟨rfl, rfl⟩ := last_of_connecting hx hc
      exact ⟨rfl, hs, rfl, hr, hw, hcon⟩
  | waiting hs | lost hs =>
      rw [hs] at hx
      exact absurd hc (not_connecting hx)
  | fulfilled hs =>
      rw [hs] at hx
      obtain ⟨-, rfl⟩ := last_of_connecting hx hc
      cases hc

namespace Course

theorem connect (h : Course s) : Course s.connect := by
  cases h with
  | idle hr hs hw hc hk =>
      have e : s.connect = connectingTo
          { s with
            connecting := some s.runs.length
            runs := s.runs ++ [.waiting 0]
            callers := s.callers ++ [.started s.runs.length] }
          s.runs.length 0 := by
        simp [Attempts.connect, hw, hc]
      rw [e]
      refine .run (p := .trying 0) (by simp [connectingTo, hr, hs]) (.trying ?_ ?_ hw ?_)
      · simp [connectingTo, hr, hs, failedSockets]
      · intro hm
        change 0 < s.maxRetry at hm
        change ((0 : Nat) : Int) ≤ s.maxRetry + 1
        omega
      · simp [connectingTo, hr]
  | @run p hr hp =>
      have e : ∃ callers, s.connect = { s with callers } := by
        rw [Attempts.connect]
        cases hp with
        | trying _ _ hw hc | waiting _ _ hw hc | lost _ _ _ hw hc =>
            simp only [hw, hc, Bool.false_eq_true, if_false]
            exact ⟨_, rfl⟩
        | fulfilled _ _ hw => exact ⟨_, if_pos hw⟩
      obtain ⟨callers, e⟩ := e
      rw [e]
      exact .run hr (hp.keep rfl rfl rfl rfl)

theorem opened (h : Course s) {w : SocketRef} {x : WebSocket} (hx : s.sockets[w]? = some x)
    (hc : x.state = .connecting) : Course (s.opened w x) := by
  cases h with
  | idle _ hs =>
      rw [hs] at hx
      cases hx
  | run hr hp =>
      obtain ⟨rfl, hs, rfl, hallowed, -, -⟩ := hp.trying_of_connecting hx hc
      refine .run (p := .fulfilled) (by simp [Attempts.opened, hr]) (.fulfilled ?_ hallowed rfl rfl)
      simp only [Attempts.opened, hs]
      exact modify_last ..

theorem failed (h : Course s) {w : SocketRef} {x : WebSocket} (hx : s.sockets[w]? = some x)
    (hc : x.state = .connecting) : Course (s.failed w x) := by
  cases h with
  | idle _ hs =>
      rw [hs] at hx
      cases hx
  | run hr hp =>
      obtain ⟨rfl, hs, rfl, hallowed, hw, hcon⟩ := hp.trying_of_connecting hx hc
      have hs' := sockets_failed hs
      by_cases hm : 0 < s.maxRetry ∧ s.maxRetry < w
      · obtain ⟨hpos, hlt⟩ := hm
        have hle : (w : Int) ≤ s.maxRetry + 1 := hallowed hpos
        have hne : w ≠ 0 := by
          rintro rfl
          exact Int.lt_irrefl 0 (Int.lt_trans hpos hlt)
        refine .run (p := .lost) (by simp [Attempts.failed, hr, hpos, hlt, hne])
          (.lost hs' hpos ?_ hw hcon)
        change (w : Int) = s.maxRetry + 1
        omega
      · refine .run (p := .waiting (w + 1)) ?_ (.waiting hs' ?_ hw hcon)
        · simp only [Attempts.failed, hr, if_neg hm]
          rfl
        · intro hpos
          change 0 < s.maxRetry at hpos
          change ((w + 1 : Nat) : Int) ≤ s.maxRetry + 1
          push_cast
          omega

theorem timeout (h : Course s) {c : RunRef} {retried : Nat}
    (hc : s.runs[c]? = some (.waiting retried)) : Course (s.connectingTo c retried) := by
  cases h with
  | idle hr =>
      rw [hr] at hc
      cases hc
  | run hr hp =>
      rw [hr] at hc
      obtain ⟨rfl, rfl⟩ : c = 0 ∧ _ = Progress.waiting retried := by
        cases c with
        | zero => exact ⟨rfl, by simpa using hc⟩
        | succ c => cases hc
      cases hp with
      | waiting hs hallowed hw hcon =>
          refine .run (p := .trying retried) (by simp [connectingTo, hr, hs])
            (.trying ?_ hallowed hw hcon)
          simp [connectingTo, hs]

theorem step (h : Course s) (he : s.step e = some s') : Course s' := by
  cases step_turn he with
  | connect => exact h.connect
  | opened hx hc => exact h.opened hx hc
  | failed hx hc => exact h.failed hx hc
  | timeout hc => exact h.timeout hc
  | other _ hw =>
      cases h with
      | idle hr hs hw' hc hk => exact .idle hr hs (hw.trans hw') hc hk
      | run hr hp => exact .run hr (hp.keep rfl rfl hw rfl)

end Course

theorem course_of_exec {es : List Event} (hx : exec step (new config m) es = some s) : Course s :=
  exec_invariant_of_step (fun _ _ _ h he => h.step he) (.idle rfl rfl rfl rfl rfl) hx

theorem maxRetry_step (he : s.step e = some s') : s'.maxRetry = s.maxRetry := by
  cases step_turn he with
  | connect =>
      rw [Attempts.connect]
      split
      · rfl
      · split <;> rfl
  | opened | failed | timeout | other => rfl

theorem maxRetry_of_exec {es : List Event} (hx : exec step (new config m) es = some s) :
    s.maxRetry = m :=
  exec_invariant_of_step (I := fun s => s.maxRetry = m)
    (fun _ _ _ h he => (maxRetry_step he).trans h) rfl hx

/-! ### What holds of every run -/

/-- **The callers that joined** learn of a success once `_ws` is set, and of nothing else. -/
theorem joined_of_exec {es : List Event} (hx : exec step (new config m) es = some s) (c : RunRef) :
    s.outcome (.joined c) ≠ .rejected ∧ (s.outcome (.joined c) = .resolved → s.Connected) := by
  have none_of : s.runs[c]? = none → s.outcome (.joined c) = .pending := by
    intro hn
    simp only [outcome, hn]
  cases course_of_exec hx with
  | idle hr =>
      rw [none_of (by rw [hr]; rfl)]
      simp
  | @run p hr hp =>
      cases c with
      | succ c =>
          rw [none_of (by rw [hr]; rfl)]
          simp
      | zero =>
          have e : s.runs[0]? = some p := by rw [hr]; rfl
          cases hp with
          | trying | waiting | lost => simp [outcome, e]
          | @fulfilled r hs hallowed hw =>
              refine ⟨by simp [outcome, e], fun _ =>
                ⟨hw, { run := 0, retried := r, state := .opened }, ?_, rfl⟩⟩
              rw [hs]
              exact List.mem_concat_self

/-- **At most two attempts more than `maxRetry`**, where the first is not a retry. -/
theorem attempts_le {es : List Event} (hx : exec step (new config m) es = some s) (hm : 0 < m) :
    (s.sockets.length : Int) ≤ m + 2 := by
  have hms := maxRetry_of_exec hx
  cases course_of_exec hx with
  | idle _ hs =>
      rw [hs]
      change (0 : Int) ≤ m + 2
      omega
  | run hr hp =>
      cases hp with
      | trying hs hallowed | fulfilled hs hallowed =>
          have hle := hallowed (hms.symm ▸ hm)
          rw [hs, List.length_append, length_failedSockets, List.length_singleton]
          push_cast
          omega
      | waiting hs hallowed =>
          have hle := hallowed (hms.symm ▸ hm)
          rw [hs, length_failedSockets]
          omega
      | lost hs _ he =>
          rw [hs, length_failedSockets]
          push_cast
          omega

/-- **A failure that stays.**  When the last attempt has failed, nobody is told, nobody connects any
more, and whoever calls `connect` waits. -/
theorem lost_stays {es fs : List Event} (hx : exec step (new config m) es = some s)
    (hl : .lost ∈ s.runs) (hx' : exec step s fs = some s') :
    s'.runs = s.runs ∧ s'.sockets = s.sockets ∧ s'.connecting = s.connecting ∧
      ∀ k ∈ s'.callers, k ∈ s.callers ∨ s'.outcome k = .pending := by
  obtain ⟨hr, hp⟩ : s.runs = [.lost] ∧ Stage s .lost := by
    cases course_of_exec hx with
    | idle hr =>
        rw [hr] at hl
        cases hl
    | run hr hp =>
        obtain rfl : Progress.lost = _ := by simpa [hr] using hl
        exact ⟨hr, hp⟩
  suffices h : Stage s' .lost ∧ s'.runs = s.runs ∧ s'.sockets = s.sockets ∧
      s'.connecting = s.connecting ∧ ∀ k ∈ s'.callers, k ∈ s.callers ∨ k = .joined 0 by
    obtain ⟨-, hr', hs', hc', hk⟩ := h
    refine ⟨hr', hs', hc', fun k hmem => (hk k hmem).imp_right ?_⟩
    rintro rfl
    simp [outcome, hr', hr]
  refine exec_invariant_of_step (I := fun t => Stage t .lost ∧ t.runs = s.runs ∧
    t.sockets = s.sockets ∧ t.connecting = s.connecting ∧
      ∀ k ∈ t.callers, k ∈ s.callers ∨ k = .joined 0) (fun t e t' h he => ?_)
    ⟨hp, rfl, rfl, rfl, fun k hk => .inl hk⟩ hx'
  obtain ⟨hp', hr', hs', hc', hk⟩ := h
  cases step_turn he with
  | connect =>
      have e : t.connect = { t with callers := t.callers ++ [.joined 0] } := by
        cases hp' with
        | lost _ _ _ hw hcon => simp [Attempts.connect, hw, hcon]
      rw [e]
      refine ⟨hp'.keep rfl rfl rfl rfl, hr', hs', hc', fun k hmem => ?_⟩
      rcases List.mem_append.mp hmem with hmem | hmem
      · exact hk k hmem
      · exact .inr (List.mem_singleton.mp hmem)
  | opened hx hc | failed hx hc => cases (hp'.trying_of_connecting hx hc).1
  | timeout hc =>
      rw [hr', hr] at hc
      rcases List.mem_singleton.mp (List.mem_of_getElem? hc)
  | other _ hw => exact ⟨hp'.keep rfl rfl hw rfl, hr', hs', hc', hk⟩

/-! ### When a run gives up -/

/-- The last retry fails that `maxRetry` allows. -/
def lastRetryFails (s : Attempts) : Event → Bool
  | .failed w => s.sockets[w]?.any fun x => x.retried = s.maxRetry
  | _ => false

theorem failed_of_lastRetryFails (ha : s.lastRetryFails e = true) :
    ∃ w x, e = .failed w ∧ s.sockets[w]? = some x ∧ (x.retried : Int) = s.maxRetry := by
  cases e with
  | failed w =>
      obtain ⟨x, hx, hr⟩ := (Option.any_eq_true _ _).mp ha
      exact ⟨w, x, rfl, hx, by simpa using hr⟩
  | _ => cases ha

/-- Every attempt that failed leaves a retry. -/
def LeavesRetry (s : Attempts) : Prop :=
  ∀ x ∈ s.sockets, x.state = .failed → (x.retried : Int) < s.maxRetry

theorem LeavesRetry.le (h : LeavesRetry s) (hm : 0 < s.maxRetry) {n : Nat}
    (hs : ∀ x ∈ failedSockets n, x ∈ s.sockets) : (n : Int) ≤ s.maxRetry := by
  cases n with
  | zero => exact Int.le_of_lt hm
  | succ n =>
      have hlast : failedSocket n ∈ failedSockets (n + 1) := by
        rw [failedSockets_succ]
        exact List.mem_concat_self
      have hlt : (n : Int) < s.maxRetry := h _ (hs _ hlast) rfl
      push_cast
      omega

theorem Course.givesUp (h : Course s) (hl : LeavesRetry s) (hm : 0 < s.maxRetry) : GivesUp s := by
  -- in each stage the first `n` attempts have failed, and the one after them has not
  have of_stage : ∀ {n : Nat} {l : List WebSocket}, s.sockets = failedSockets n ++ l →
      l.length ≤ 1 → (∀ x ∈ l, x.run = 0 ∧ x.state ≠ .failed) → GivesUp s := by
    intro n l hs hlen hne
    have hle := hl.le hm (n := n) fun x hx => hs ▸ List.mem_append_left _ hx
    have hsub : ∀ c, (s.attempts c).length ≤ n + l.length := by
      intro c
      have h := List.length_filter_le (fun x : WebSocket => decide (x.run = c)) s.sockets
      rw [hs, List.length_append, length_failedSockets] at h
      rw [attempts, hs]
      exact h
    refine ⟨fun c => ?_, fun c hlen' hfailed => ?_⟩
    · have := hsub c
      omega
    · have hc := hsub c
      obtain ⟨x, hx⟩ : ∃ x, x ∈ l := by
        refine List.exists_mem_of_length_pos ?_
        omega
      have hx' : x ∈ s.sockets := by
        rw [hs]
        exact List.mem_append_right _ hx
      have hzero : c = 0 := by
        obtain ⟨y, hy⟩ : ∃ y, y ∈ s.attempts c := by
          refine List.exists_mem_of_length_pos ?_
          omega
        obtain ⟨hy, hrun⟩ := List.mem_filter.mp hy
        have hrun : y.run = c := by simpa using hrun
        rw [hs] at hy
        rcases List.mem_append.mp hy with hy | hy
        · exact hrun.symm.trans (of_mem_failedSockets hy).1
        · exact hrun.symm.trans (hne y hy).1
      subst hzero
      refine absurd (hfailed x (List.mem_filter.mpr ⟨hx', ?_⟩)) (hne x hx).2
      simp [(hne x hx).1]
  cases h with
  | idle _ hs => exact of_stage (n := 0) (l := []) hs (by simp) (by simp)
  | run _ hp =>
      cases hp with
      | trying hs => exact of_stage hs (by simp) (by simp)
      | waiting hs | lost hs =>
          exact of_stage (l := []) (hs.trans (List.append_nil _).symm) (by simp) (by simp)
      | fulfilled hs => exact of_stage hs (by simp) (by simp)

theorem Course.leavesRetry (h : Course s) (hl : LeavesRetry s) (hm : 0 < s.maxRetry)
    (ha : s.lastRetryFails e = false) (he : s.step e = some s') : LeavesRetry s' := by
  have appended : ∀ {l : List WebSocket} {y : WebSocket}, y.state ≠ .failed →
      (∀ x ∈ l, x.state = .failed → (x.retried : Int) < s.maxRetry) →
      ∀ x ∈ l ++ [y], x.state = .failed → (x.retried : Int) < s.maxRetry := by
    intro l y hy hold x hx hf
    rcases List.mem_append.mp hx with hx | hx
    · exact hold x hx hf
    · cases List.mem_singleton.mp hx
      exact absurd hf hy
  cases step_turn he with
  | connect =>
      rw [Attempts.connect]
      split
      · exact hl
      · split
        · exact hl
        · exact appended (by simp) hl
  | opened hx hc =>
      intro y hy hf
      rcases Cells.mem_modify hy with hy | ⟨z, -, rfl⟩
      · exact hl y hy hf
      · cases hf
  | @failed w x hx hc =>
      intro y hy hf
      obtain ⟨n, hn⟩ := List.mem_iff_getElem?.mp hy
      rcases Cells.modify_eq_some.mp hn with ⟨rfl, z, hz, rfl⟩ | ⟨-, hn⟩
      · cases hx.symm.trans hz
        change (x.retried : Int) < s.maxRetry
        have hne : (x.retried : Int) ≠ s.maxRetry := by
          simpa [lastRetryFails, hx] using ha
        cases h with
        | idle _ hs =>
            rw [hs] at hx
            cases hx
        | run _ hp =>
            obtain ⟨-, hs, rfl, -⟩ := hp.trying_of_connecting hx hc
            have hle := hl.le hm fun y hy => hs ▸ List.mem_append_left _ hy
            dsimp only at hne ⊢
            omega
      · exact hl y (List.mem_of_getElem? hn) hf
  | timeout => exact appended (by simp) hl
  | other => exact hl

theorem Course.not_givesUp (h : Course s) (ha : s.lastRetryFails e = true)
    (he : s.step e = some s') : ¬GivesUp s' := by
  obtain ⟨w, x, rfl, hx, hr⟩ := failed_of_lastRetryFails ha
  cases step_turn he with
  | other hne => cases hne
  | failed hx' hc =>
      cases hx.symm.trans hx'
      cases h with
      | idle _ hs =>
          rw [hs] at hx
          cases hx
      | run _ hp =>
          obtain ⟨-, hs, rfl, -, -, hcon⟩ := hp.trying_of_connecting hx hc
          have hall : (s.failed w { run := 0, retried := w }).attempts 0 =
              failedSockets (w + 1) := by
            rw [attempts, sockets_failed hs, List.filter_eq_self]
            intro y hy
            simp [(of_mem_failedSockets hy).1]
          intro hg
          refine (hg.exhausted 0 ?_ ?_).1 hcon
          · rw [hall, length_failedSockets]
            change ((w + 1 : Nat) : Int) = s.maxRetry + 1
            rw [← hr]
            rfl
          · intro y hy
            exact (of_mem_failedSockets (hall ▸ hy)).2

/-- **When a run gives up.**  There are `maxRetry` retries at most, and then everyone is told, if
and only if the last of them has not failed. -/
theorem givesUp_iff {es : List Event} (hm : 0 < m) (hx : exec step (new config m) es = some s) :
    Throughout step (fun _ => GivesUp) (new config m) es ↔
      Along step (fun s e => s.lastRetryFails e = false) (new config m) es := by
  refine throughout_iff_along (I := fun _ s => Course s ∧ LeavesRetry s ∧ s.maxRetry = m)
    ⟨.idle rfl rfl rfl rfl rfl, by simp [LeavesRetry, new], rfl⟩ (fun _ s h => ?_)
    (fun _ s e s' _ h he ha => ?_) (fun _ s e s' _ h he ha => ?_) hx
  · exact h.1.givesUp h.2.1 (h.2.2.symm ▸ hm)
  · exact ⟨h.1.step he, h.1.leavesRetry h.2.1 (h.2.2.symm ▸ hm) ha he,
      (maxRetry_step he).trans h.2.2⟩
  · exact h.1.not_givesUp (by simpa using ha) he

/-! ### The outcome of connect -/

/-- Nobody has called `connect`. -/
structure Untried (s : Attempts) : Prop where
  runs : s.runs = []
  sockets : s.sockets = []
  ws : s.connection.ws = false
  connecting : s.connecting = none
  callers : s.callers = []

theorem Untried.step (h : Untried s) (hne : e ≠ .connect) (he : s.step e = some s') :
    Untried s' := by
  cases step_turn he with
  | connect => exact absurd rfl hne
  | opened hx | failed hx =>
      rw [h.sockets] at hx
      cases hx
  | timeout hc =>
      rw [h.runs] at hc
      cases hc
  | other _ hw => exact ⟨h.runs, h.sockets, hw.trans h.ws, h.connecting, h.callers⟩

theorem Untried.kept (h : Untried s) (hm : 0 < s.maxRetry) : Kept s := by
  refine ⟨fun k hk => ?_, Course.givesUp ?_ ?_ hm⟩
  · rw [h.callers] at hk
    cases hk
  · exact .idle h.runs h.sockets h.ws h.connecting h.callers
  · intro x hx
    rw [h.sockets] at hx
    cases hx

/-- The first call is released before it has made its websocket. -/
theorem Untried.not_kept_connect (h : Untried s) : ¬Kept s.connect := by
  have e : s.connect = connectingTo
      { s with
        connecting := some s.runs.length
        runs := s.runs ++ [.waiting 0]
        callers := s.callers ++ [.started s.runs.length] }
      s.runs.length 0 := by
    simp [Attempts.connect, h.ws, h.connecting]
  intro hk
  rw [e] at hk
  have hws := (hk.released _ List.mem_concat_self rfl).1
  cases h.ws.symm.trans hws

/-- **The outcome of `connect`**, for any number of retries, in every run: at every moment whoever
was released finds `_ws` set, and a run that has failed gives up, if and only if nobody has called
`connect`. -/
theorem connect_outcome_iff {es : List Event} (hm : 0 < m)
    (hx : exec step (new config m) es = some s) :
    Throughout step (fun _ => Kept) (new config m) es ↔ .connect ∉ es := by
  have hiff : Along step (fun _ e => e ≠ .connect) (new config m) es ↔ .connect ∉ es := by
    rw [along_iff_forall hx]
    exact List.forall_mem_ne'
  rw [← hiff]
  refine throughout_iff_along (I := fun _ s => Untried s ∧ s.maxRetry = m)
    ⟨⟨rfl, rfl, rfl, rfl, rfl⟩, rfl⟩ (fun _ s h => h.1.kept (h.2.symm ▸ hm))
    (fun _ s e s' _ h he hne => ⟨h.1.step hne he, (maxRetry_step he).trans h.2⟩)
    (fun _ s e s' _ h he hne => ?_) hx
  obtain rfl := not_not.mp hne
  cases he
  exact h.1.not_kept_connect

/-- `connect` is called twice, three attempts fail, and it is called again. -/
def failing : List Event :=
  [.connect, .connect, .failed 0, .timeout 0, .failed 1, .timeout 0, .failed 2, .connect]

/-- **Released too early, or never.**  The first call is released at once.  The second retry is made
although one is allowed, and when it has failed the other calls wait, and no attempt goes on. -/
theorem released_early :
    (∃ s, exec step (new { maxBufferTimeInMs := -1, maxBufferSize := -1 } 1) [.connect] = some s ∧
      s.callers.map s.outcome = [.resolved] ∧ s.connection.ws = false ∧ ¬Kept s) ∧
    ∃ s, exec step (new { maxBufferTimeInMs := -1, maxBufferSize := -1 } 1) failing = some s ∧
      s.sockets.map WebSocket.state = [.failed, .failed, .failed] ∧
      s.callers.map s.outcome = [.resolved, .pending, .pending] ∧ s.connecting = some 0 ∧
      ¬GivesUp s := by
  refine ⟨⟨_, rfl, rfl, rfl, fun h => ?_⟩, _, rfl, rfl, rfl, rfl, fun h => ?_⟩
  · exact absurd (h.released (.started 0) (by decide) rfl).1 (by decide)
  · exact absurd (h.bounded 0) (by decide)

/-- The connection is used before `connect` is called, and after. -/
theorem connect_outcome_iff_sending :
    Throughout step (fun _ => Kept) (new { maxBufferTimeInMs := -1, maxBufferSize := -1 } 2)
        [.sendMessage (.joinCallRequest "q"), .tick] ∧
      ¬Throughout step (fun _ => Kept) (new { maxBufferTimeInMs := -1, maxBufferSize := -1 } 2)
        [.sendMessage (.joinCallRequest "q"), .connect, .failed 0, .timeout 0, .opened 1] := by
  refine ⟨(connect_outcome_iff (by decide) rfl).mpr (by simp), fun h => ?_⟩
  exact (connect_outcome_iff (by decide) rfl).mp h (by simp)

end Attempts

end DemoApp.Webapp
