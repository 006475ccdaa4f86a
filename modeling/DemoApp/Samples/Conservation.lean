import DemoApp.Samples.ObserverServiceClient

/-!
# Samples — Conservation

No sample is lost between `send` and the websockets.

* `ledger_step`: only `send` touches what was handed over, the buffer and the encoder.
* `Live`: `_ws` is a websocket that has opened and not closed, and nothing was handed to another.
  It is kept by every step that closes no websocket whose `closeListener` is missing or due
  (`closesTracked`).
* `samples_conserved`: in every run of the web app's client, what was handed to the websockets,
  followed by the buffer, is what was passed to `send`.
-/

namespace DemoApp.Samples.ObserverServiceClient
open Machine

variable {δ α : Type} {v : Variant δ α} {s s' : ObserverServiceClient δ} {e : Event α}

/-! ### The ledger -/

/-- The sample of a `send`. -/
def Event.sample : Event α → Option α
  | .send sample => some sample
  | _            => none

/-- The samples passed to `send`, in order. -/
def samples (es : List (Event α)) : List α := es.filterMap Event.sample

/-- The samples, encoded one after the other. -/
def encodeAll (v : Variant δ α) (samples : List α) : δ × List String :=
  samples.foldl (fun (encoder, texts) sample =>
    let (encoder', text) := v.encodeToBase64 encoder sample
    (encoder', texts ++ [text])) (v.newEncoder, [])

/-- The encoder, and the texts that were handed over or are in the buffer. -/
def ledger (s : ObserverServiceClient δ) : δ × List String :=
  (s.encoder, s.handed.map Prod.snd ++ s.buffer)

theorem encodeAll_concat (v : Variant δ α) (samples : List α) (sample : α) :
    encodeAll v (samples ++ [sample]) =
      ((v.encodeToBase64 (encodeAll v samples).1 sample).1,
        (encodeAll v samples).2 ++ [(v.encodeToBase64 (encodeAll v samples).1 sample).2]) := by
  simp [encodeAll, List.foldl_append]

@[simp] theorem ledger_connect (s : ObserverServiceClient δ) (queryString : String) :
    (s.connect v queryString).ledger = s.ledger :=
  connect_of (P := fun t => t.ledger = s.ledger) rfl _ fun _ _ => rfl

@[simp] theorem ledger_close (s : ObserverServiceClient δ) : s.close.ledger = s.ledger :=
  close_of (P := fun t => t.ledger = s.ledger) rfl rfl

@[simp] theorem ledger_closeSocket (s : ObserverServiceClient δ) :
    s.closeSocket.ledger = s.ledger :=
  closeSocket_of (P := fun t => t.ledger = s.ledger) rfl fun _ => rfl

theorem ledger_disconnect (s : ObserverServiceClient δ) : s.disconnect.ledger = s.ledger :=
  disconnect_of (P := fun t => t.ledger = s.ledger) rfl (fun _ => rfl) (ledger_closeSocket _)

/-- A `send` appends its sample, encoded. -/
theorem ledger_send (hc : s.closed = false) (sample : α) :
    (s.send v sample).ledger = ((v.encodeToBase64 s.ledger.1 sample).1,
      s.ledger.2 ++ [(v.encodeToBase64 s.ledger.1 sample).2]) := by
  simp only [send, hc, Bool.false_eq_true, if_false]
  split <;> simp [ledger, hand, Function.comp_def]

/-- Only `send` touches the ledger. -/
theorem ledger_step (he : s.step v e = some s') (hs : e.sample = none) :
    s'.ledger = s.ledger := by
  cases (step_turn he).2 with
  | connect => exact ledger_connect _ _
  | disconnect => exact ledger_disconnect _
  | close => exact ledger_close _
  | send => cases hs
  | errored =>
      rw [socketErrored]
      dsimp only
      split <;> rfl
  | closed =>
      refine socketClosed_of (P := fun t => t.ledger = s.ledger) _ rfl (fun t ht => ht)
        (fun t ht => ht) (fun t ht => ?_) fun t ht => ?_
      · rw [ledger_close]; exact ht
      · rw [ledger_connect]; exact ht
  | @resumed n call => cases call <;> exact ledger_closeSocket _
  | opened | timeout | continued | settled | rejected => rfl

/-! ### Closing -/

theorem connect_closed (hc : s.closed = true) (queryString : String) :
    s.connect v queryString = s := by
  rw [connect, hc]; rfl

@[simp] theorem close_closed (s : ObserverServiceClient δ) : s.close.closed = true := by
  rw [close]
  split
  · assumption
  · rfl

@[simp] theorem closeSocket_closed (s : ObserverServiceClient δ) :
    s.closeSocket.closed = s.closed :=
  closeSocket_of (P := fun t => t.closed = s.closed) rfl fun _ => rfl

/-- A client that was closed stays closed. -/
theorem closed_step (he : s.step v e = some s') (hc : s.closed = true) : s'.closed = true := by
  cases (step_turn he).2 with
  | connect => rw [connect_closed hc]; exact hc
  | disconnect => rw [disconnect, hc]; exact hc
  | close => exact close_closed s
  | send => rw [send, hc]; exact hc
  | errored =>
      rw [socketErrored]
      dsimp only
      split <;> exact hc
  | closed =>
      exact socketClosed_of (P := fun t => t.closed = true) _ hc (fun t ht => ht) (fun t ht => ht)
        (fun t _ => close_closed t) fun t ht => by rw [connect_closed ht]; exact ht
  | @resumed n call => cases call <;> exact (closeSocket_closed _).trans hc
  | opened | timeout | continued | settled | rejected => exact hc

/-! ### Live websockets -/

/-- The websocket `w` has opened and not closed. -/
def IsOpen (s : ObserverServiceClient δ) (w : SocketRef) : Prop :=
  ∃ x, s.sockets[w]? = some x ∧ x.opened = true ∧ x.closed = false

/-- The promise of an attempt has resolved with `w`, and its `then` is due. -/
def Resolved (s : ObserverServiceClient δ) (w : SocketRef) : Prop :=
  ∃ run ∈ s.runs, run.progress = .opened w

/-- Nothing was lost, and what is handed over now is not. -/
structure Live (v : Variant δ α) (s : ObserverServiceClient δ) : Prop where
  ws : ∀ w, s.ws = some w → s.IsOpen w
  tracked : ∀ w x, s.ws = some w → s.sockets[w]? = some x → x.tracked = v.tracks
  resolved : ∀ w, s.Resolved w → s.IsOpen w
  lost : ∀ x ∈ s.sockets, x.lost = []

/-- The websockets of `xs` are there, no more of them closed, and no other has lost anything. -/
structure Kept (xs xs' : List WebSocket) : Prop where
  sockets : ∀ (w : SocketRef) (x : WebSocket), xs[w]? = some x → ∃ x', xs'[w]? = some x' ∧
    (x.opened = true → x'.opened = true) ∧ x'.closed = x.closed ∧ x'.tracked = x.tracked
  lost : (∀ x ∈ xs, x.lost = []) → ∀ x ∈ xs', x.lost = []

theorem Kept.refl (xs : List WebSocket) : Kept xs xs :=
  ⟨fun _ x hx => ⟨x, hx, id, rfl, rfl⟩, id⟩

theorem lost_modify {f : WebSocket → WebSocket} (hl : ∀ x, (f x).lost = x.lost)
    {xs : List WebSocket} (h : ∀ x ∈ xs, x.lost = []) (w : SocketRef) :
    ∀ x ∈ xs.modify w f, x.lost = [] :=
  Cells.forall_modify (fun x hx => (hl x).trans hx) h w

theorem Kept.modify {f : WebSocket → WebSocket} (xs : List WebSocket) (w : SocketRef)
    (ho : ∀ x : WebSocket, x.opened = true → (f x).opened = true)
    (hc : ∀ x, (f x).closed = x.closed)
    (ht : ∀ x, (f x).tracked = x.tracked) (hl : ∀ x, (f x).lost = x.lost) :
    Kept xs (xs.modify w f) := by
  refine ⟨fun w' x hx => ?_, fun h => lost_modify hl h w⟩
  by_cases e : w' = w
  · subst e
    exact ⟨f x, Cells.modify_of_some hx, ho x, hc x, ht x⟩
  · exact ⟨x, Cells.modify_eq_some.mpr (.inr ⟨e, hx⟩), id, rfl, rfl⟩

theorem Kept.concat (xs : List WebSocket) {x : WebSocket} (hl : x.lost = []) :
    Kept xs (xs ++ [x]) := by
  refine ⟨fun w y hy => ⟨y, Cells.append_of_some hy, id, rfl, rfl⟩, fun hlost y hy => ?_⟩
  rcases List.mem_append.mp hy with hy | hy
  · exact hlost y hy
  · rw [List.mem_singleton.mp hy]; exact hl

/-- No further promise of an attempt has resolved. -/
def Unresolved (runs runs' : List Run) : Prop :=
  ∀ run' ∈ runs', ∀ w, run'.progress = .opened w → ∃ run ∈ runs, run.progress = .opened w

theorem Unresolved.refl (runs : List Run) : Unresolved runs runs :=
  fun run hr _ hp => ⟨run, hr, hp⟩

theorem Unresolved.modify {g : Run → Run}
    (hg : ∀ run w, (g run).progress = .opened w → run.progress = .opened w) (runs : List Run)
    (c : RunRef) : Unresolved runs (runs.modify c g) := by
  intro run' hr w hp
  rcases Cells.mem_modify hr with hr | ⟨run, hrun, rfl⟩
  · exact ⟨run', hr, hp⟩
  · exact ⟨run, hrun, hg run w hp⟩

theorem Live.keep (h : Live v s) (hs : Kept s.sockets s'.sockets)
    (hr : Unresolved s.runs s'.runs) (hws : ∀ w, s'.ws = some w → s.ws = some w) : Live v s' := by
  have keeps : ∀ {w}, s.IsOpen w → s'.IsOpen w := by
    rintro w ⟨x, hx, ho, hc⟩
    obtain ⟨x', hx', ho', hc', -⟩ := hs.sockets w x hx
    exact ⟨x', hx', ho' ho, hc'.trans hc⟩
  refine ⟨fun w hw => keeps (h.ws w (hws w hw)), fun w x' hw hx' => ?_, ?_, hs.lost h.lost⟩
  · obtain ⟨x, hx, -⟩ := h.ws w (hws w hw)
    obtain ⟨x₁, hx₁, -, -, ht⟩ := hs.sockets w x hx
    cases hx₁.symm.trans hx'
    exact ht.trans (h.tracked w x (hws w hw) hx)
  · rintro w ⟨run', hmem, hp⟩
    exact keeps (h.resolved w (hr run' hmem w hp))

theorem Live.connectingTo (h : Live v s) (c : RunRef) (queryString : String) (tried : Nat) :
    Live v (s.connectingTo v c queryString tried) :=
  h.keep (.concat _ rfl) (.modify (fun _ _ hp => by cases hp) _ _) fun _ => id

theorem Live.connect (h : Live v s) (queryString : String) : Live v (s.connect v queryString) := by
  refine connect_of h _ fun _ _ => Live.connectingTo ?_ _ _ _
  refine h.keep (.refl _) (fun run' hr w hp => ?_) fun _ => id
  rcases List.mem_append.mp hr with hr | hr
  · exact ⟨run', hr, hp⟩
  · rw [List.mem_singleton.mp hr] at hp
    cases hp

theorem Live.close (h : Live v s) : Live v s.close :=
  close_of h (h.keep (.refl _) (.refl _) fun _ => id)

theorem Live.closeSocket (h : Live v s) : Live v s.closeSocket :=
  closeSocket_of h fun _ =>
    h.keep (.modify _ _ (fun _ => id) (fun _ => rfl) (fun _ => rfl) fun _ => rfl) (.refl _)
      fun _ => id

theorem Live.disconnect (h : Live v s) : Live v s.disconnect :=
  disconnect_of h (fun _ => h.keep (.refl _) (.refl _) fun _ => id)
    (Live.closeSocket (h.keep (.refl _) (.refl _) fun _ => id))

theorem Live.reconnecting (h : Live v s) (w : SocketRef) (x : WebSocket) :
    Live v (s.reconnecting v w x) := by
  refine h.keep (.modify _ _ (fun _ => id) (fun _ => rfl) (fun _ => rfl) fun _ => rfl)
    (.modify (fun run w' hp => ?_) _ _) fun _ => id
  dsimp only at hp
  split at hp <;> cases hp

theorem Live.socketErrored (h : Live v s) (w : SocketRef) (x : WebSocket) :
    Live v (s.socketErrored v w x) := by
  have h₁ : Live v { s with
      sockets := s.sockets.modify w fun x => { x with errored := true } } :=
    h.keep (.modify _ _ (fun _ => id) (fun _ => rfl) (fun _ => rfl) fun _ => rfl) (.refl _)
      fun _ => id
  rw [ObserverServiceClient.socketErrored]
  dsimp only
  split
  · exact h₁.reconnecting w x
  · exact h₁.keep (.refl _) (.refl _) fun _ => id

/-- What is handed to `_ws` is sent. -/
theorem Live.hand (h : Live v s) {w : SocketRef} (hw : s.ws = some w) (texts : List String) :
    Live v (s.hand w texts) := by
  obtain ⟨x, hx, ho, hc⟩ := h.ws w hw
  refine h.keep ⟨fun w' y hy => ?_, fun hlost y hy => ?_⟩ (.refl _) fun _ => id
  · by_cases e : w' = w
    · subst e
      refine ⟨_, Cells.modify_of_some hy, ?_⟩
      split <;> simp
    · exact ⟨y, Cells.modify_eq_some.mpr (.inr ⟨e, hy⟩), id, rfl, rfl⟩
  · obtain ⟨w', hw'⟩ := List.mem_iff_getElem?.mp hy
    rcases Cells.modify_eq_some.mp hw' with ⟨rfl, x', hx', rfl⟩ | ⟨-, hy⟩
    · cases hx.symm.trans hx'
      simp only [ho, hc, Bool.not_false, Bool.and_self, if_true]
      exact hlost x (List.mem_of_getElem? hx)
    · exact hlost y (List.mem_of_getElem? hy)

theorem Live.send (h : Live v s) (sample : α) : Live v (s.send v sample) := by
  refine send_of h sample (fun _ _ => h.keep (.refl _) (.refl _) fun _ => id) fun _ _ w hw => ?_
  refine Live.hand ?_ ?_ _
  · exact h.keep (.refl _) (.refl _) fun _ => id
  · exact hw

/-- A websocket that opens is one more that may become `_ws`. -/
theorem Live.done (h : Live v s) {w : SocketRef} {x : WebSocket} (hx : s.sockets[w]? = some x)
    (hc : x.closed = false) : Live v (s.done w x) := by
  have hs : Kept s.sockets (s.done w x).sockets :=
    .modify _ _ (fun _ _ => rfl) (fun _ => rfl) (fun _ => rfl) fun _ => rfl
  have keeps : ∀ {w'}, s.IsOpen w' → (s.done w x).IsOpen w' := by
    rintro w' ⟨y, hy, ho, hyc⟩
    obtain ⟨y', hy', ho', hc', -⟩ := hs.sockets w' y hy
    exact ⟨y', hy', ho' ho, hc'.trans hyc⟩
  refine ⟨fun w' hw => keeps (h.ws w' hw), fun w' y' hw hy' => ?_, ?_, hs.lost h.lost⟩
  · obtain ⟨y, hy, -⟩ := h.ws w' hw
    obtain ⟨y₁, hy₁, -, -, ht⟩ := hs.sockets w' y hy
    cases hy₁.symm.trans hy'
    exact ht.trans (h.tracked w' y hw hy)
  · rintro w' ⟨run', hmem, hp⟩
    rcases Cells.mem_modify hmem with hmem | ⟨run, -, rfl⟩
    · exact keeps (h.resolved w' ⟨run', hmem, hp⟩)
    · cases hp
      exact ⟨_, Cells.modify_of_some hx, rfl, hc⟩

theorem Live.continued (h : Live v s) {c : RunRef} {run : Run} {w : SocketRef}
    (hr : s.runs[c]? = some run) (hp : run.progress = .opened w) : Live v (s.continued v c w) := by
  obtain ⟨x, hx, ho, hc⟩ := h.resolved w ⟨run, List.mem_of_getElem? hr, hp⟩
  have hx' : (s.continued v c w).sockets[w]? = some { x with tracked := v.tracks } :=
    Cells.modify_of_some hx
  refine ⟨fun w' hw => ?_, fun w' y hw hy => ?_, ?_, lost_modify (fun _ => by rfl) h.lost w⟩
  · cases hw
    exact ⟨_, hx', ho, hc⟩
  · cases hw
    cases hx'.symm.trans hy
    rfl
  · rintro w' ⟨run', hmem, hp'⟩
    obtain ⟨run₁, hmem₁, hp₁⟩ := Unresolved.modify (fun _ _ h => by cases h) _ _ run' hmem w' hp'
    obtain ⟨y, hy, hyo, hyc⟩ := h.resolved w' ⟨run₁, hmem₁, hp₁⟩
    by_cases e : w' = w
    · subst e
      cases hx.symm.trans hy
      exact ⟨_, hx', ho, hc⟩
    · exact ⟨y, Cells.modify_eq_some.mpr (.inr ⟨e, hy⟩), hyo, hyc⟩

/-- No websocket closes while a promise of an attempt has resolved, or without a listener. -/
def Tracked (v : Variant δ α) (s : ObserverServiceClient δ) (e : Event α) : Prop :=
  ∀ w code, e = .closed w code → v.tracks = true ∧ ∀ w', ¬s.Resolved w'

/-- `closeListener` unsets `_ws`, whichever websocket it is. -/
theorem live_closeListener (hr : ∀ w, ¬s.Resolved w) (hl : ∀ x ∈ s.sockets, x.lost = [])
    (w : SocketRef) (x : WebSocket) (code : Nat) : Live v (s.closeListener v w x code) := by
  have h₁ : Live v { s with
      sockets := s.sockets.modify w fun x => { x with tracked := false }
      ws := none } :=
    ⟨fun _ hw => (by cases hw), fun _ _ hw => (by cases hw), fun w' h => (hr w' h).elim,
      lost_modify (fun _ => by rfl) hl w⟩
  rw [closeListener]
  dsimp only
  split
  · exact h₁
  · split
    · exact h₁.close
    · exact h₁.connect _

theorem unresolved_reconnecting (hr : ∀ w, ¬s.Resolved w) (w : SocketRef) (x : WebSocket) :
    ∀ w', ¬(s.reconnecting v w x).Resolved w' := by
  rintro w' ⟨run', hmem, hp'⟩
  rcases Cells.mem_modify hmem with hmem | ⟨run, -, rfl⟩
  · exact hr w' ⟨run', hmem, hp'⟩
  · dsimp only at hp'
    split at hp' <;> cases hp'

theorem Live.socketClosed (h : Live v s) {w : SocketRef} {x : WebSocket}
    (hx : s.sockets[w]? = some x) (code : Nat) (ht : v.tracks = true)
    (hr : ∀ w', ¬s.Resolved w') : Live v (s.socketClosed v w x code) := by
  have hl : ∀ y ∈ s.sockets.modify w fun x => { x with closed := true }, y.lost = [] :=
    lost_modify (fun _ => by rfl) h.lost w
  -- a websocket without its `closeListener` is not `_ws`
  have other : x.tracked = false → Live v { s with
      sockets := s.sockets.modify w fun x => { x with closed := true } } := by
    intro hxt
    have ne : ∀ {w'}, s.ws = some w' → w' ≠ w := by
      rintro w' hw' rfl
      have := h.tracked w' x hw' hx
      rw [hxt, ht] at this
      cases this
    refine ⟨fun w' hw' => ?_, fun w' y hw' hy => ?_, fun w' hw' => (hr w' hw').elim, hl⟩
    · obtain ⟨y, hy, ho⟩ := h.ws w' hw'
      exact ⟨y, Cells.modify_eq_some.mpr (.inr ⟨ne hw', hy⟩), ho⟩
    · rcases Cells.modify_eq_some.mp hy with ⟨e, -⟩ | ⟨-, hy⟩
      · exact (ne hw' e).elim
      · exact h.tracked w' y hw' hy
  cases hxt : x.tracked <;> cases hw : x.watched <;>
    simp only [ObserverServiceClient.socketClosed, hxt, hw, Bool.false_eq_true, if_false, if_true]
  · exact other hxt
  · exact (other hxt).reconnecting w x
  · refine live_closeListener ?_ hl w x code
    exact hr
  · refine live_closeListener (unresolved_reconnecting ?_ w x) ?_ w x code
    · exact hr
    · exact lost_modify (fun _ => by rfl) hl w

theorem live_step (h : Live v s) (hc : Tracked v s e) (he : s.step v e = some s') :
    Live v s' := by
  cases (step_turn he).2 with
  | connect => exact h.connect _
  | disconnect => exact h.disconnect
  | close => exact h.close
  | send => exact h.send _
  | opened hx _ hcl => exact h.done hx hcl
  | errored => exact h.socketErrored _ _
  | closed hx => exact h.socketClosed hx _ (hc _ _ rfl).1 (hc _ _ rfl).2
  | timeout => exact h.connectingTo _ _ _
  | continued hr hp => exact h.continued hr hp
  | settled =>
      refine h.keep (.refl _) (.modify ?_ _ _) fun _ => id
      exact fun _ _ hp => hp
  | @resumed n call =>
      have h₁ : Live v (s.resume call) := by
        cases call with
        | disconnect => exact Live.closeSocket (h.keep (.refl _) (.refl _) fun _ => id)
        | close => exact h.closeSocket
      exact h₁.keep (.refl _) (.refl _) fun _ => id
  | rejected => exact h.keep (.refl _) (.refl _) fun _ => id

/-! ### Runs -/

/-- What was handed over and what is in the buffer, while the client is not closed. -/
theorem ledger_of_run {wsAddress : String} {reconnect : Bool} {es : List (Event α)}
    (hx : exec (step v) (.new v wsAddress reconnect) es = some s) (hc : s.closed = false) :
    s.ledger = encodeAll v (samples es) := by
  revert hc
  refine exec_history (I := fun es s => s.closed = false → s.ledger = encodeAll v (samples es))
    (fun _ => rfl) (fun es s e s' _ ih he hc' => ?_) hx
  have hc : s.closed = false := by
    cases hc : s.closed with
    | false => rfl
    | true => cases hc'.symm.trans (closed_step he hc)
  cases hs : e.sample with
  | none =>
      have hes : samples (es ++ [e]) = samples es := by simp [samples, hs]
      rw [ledger_step he hs, hes, ih hc]
  | some sample =>
      cases e <;> cases hs
      cases (step_turn he).2
      have hes : samples (es ++ [.send sample]) = samples es ++ [sample] := by
        simp [samples, Event.sample]
      rw [ledger_send hc, hes, encodeAll_concat, ih hc]

theorem live_new (v : Variant δ α) (wsAddress : String) (reconnect : Bool) :
    Live v (.new v wsAddress reconnect) where
  ws _ hw := by cases hw
  tracked _ _ hw := by cases hw
  resolved := by
    rintro w ⟨run, hmem, -⟩
    cases hmem
  lost _ hmem := by cases hmem

theorem live_of_run {wsAddress : String} {reconnect : Bool} {es : List (Event α)}
    (hx : exec (step v) (.new v wsAddress reconnect) es = some s)
    (ha : Along (step v) (Tracked v) (.new v wsAddress reconnect) es) : Live v s :=
  exec_invariant (fun _ _ _ h hc he => live_step h hc he) (live_new v wsAddress reconnect) ha hx

/-- Where the listeners are registered, a websocket that closes is unset. -/
theorem Scheduled.tracked (ht : v.tracks = true) (h : Scheduled v s e) : Tracked v s e := by
  rintro w code rfl
  refine ⟨ht, fun w' ⟨run, hmem, hp⟩ => ?_⟩
  have hd : s.due v = true := by
    refine Bool.or_eq_true_iff.mpr (.inl (List.any_eq_true.mpr ⟨run, hmem, ?_⟩))
    rw [Run.isDue, hp]
  cases hd.symm.trans (h rfl)

/-- **No sample is lost.**  What was handed to the websockets, followed by the buffer, is what was
passed to `send`, and nothing was handed to a websocket before it opened or after it closed. -/
theorem samples_conserved {newEncoder : δ} {encodeToBase64 : δ → α → δ × String}
    {wsAddress : String} {reconnect : Bool} {es : List (Event α)} {s : ObserverServiceClient δ}
    (hx : exec (step (webappClient newEncoder encodeToBase64))
      (.new (webappClient newEncoder encodeToBase64) wsAddress reconnect) es = some s)
    (ha : Along (step (webappClient newEncoder encodeToBase64))
      (Scheduled (webappClient newEncoder encodeToBase64))
      (.new (webappClient newEncoder encodeToBase64) wsAddress reconnect) es)
    (hc : s.closed = false) :
    s.handed.map Prod.snd ++ s.buffer =
        (encodeAll (webappClient newEncoder encodeToBase64) (samples es)).2 ∧
      ∀ x ∈ s.sockets, x.lost = [] :=
  ⟨congrArg Prod.snd (ledger_of_run hx hc),
    (live_of_run hx (ha.mono fun _ _ h => h.tracked rfl)).lost⟩

/-- An encoder that numbers the samples. -/
def numbered (n : Nat) (sample : String) : Nat × String := (n + 1, sample ++ toString n)

/-- The client connects twice, and the first of its websockets closes. -/
def overlapping : List (Event String) :=
  [.send "a", .connect "q", .opened 0, .continued 0, .settled 0, .send "b", .connect "q",
    .send "c", .opened 1, .continued 1, .settled 1, .send "d", .closed 0 1006, .send "e",
    .errored 2, .closed 2 1006, .timeout 2, .opened 3, .continued 2, .settled 2, .send "f"]

theorem samples_conserved_overlapping :
    ∃ s, exec (step (webappClient 0 numbered)) (.new (webappClient 0 numbered) "a" true)
        overlapping = some s ∧
      s.handed = [(0, "a0"), (0, "b1"), (0, "c2"), (1, "d3"), (3, "e4"), (3, "f5")] ∧
      s.handed.map Prod.snd ++ s.buffer =
        (encodeAll (webappClient 0 numbered) (samples overlapping)).2 ∧
      ∀ x ∈ s.sockets, x.lost = [] := by
  have hx : exec (step (webappClient 0 numbered)) (.new (webappClient 0 numbered) "a" true)
    overlapping = some _ := rfl
  exact ⟨_, hx, by decide, samples_conserved hx (by decide) rfl⟩

end DemoApp.Samples.ObserverServiceClient
