import DemoApp.Samples.Conservation

/-!
# Samples — Lost connections

The SFU's client does not outlive its connection.

* `Single`: it never has a second websocket, and listens to nothing but the `open` of the first.
* `survives_iff`: a run loses no sample and repeats what has failed if and only if nothing has
  failed: no websocket has emitted an `error` or a `close`.
* `sample_lost`: a sample is handed to a websocket that has closed, and nobody connects again.
-/

namespace DemoApp.Samples.ObserverServiceClient
open Machine

variable {δ α : Type} {v : Variant δ α} {s s' : ObserverServiceClient δ} {e : Event α}
  {newEncoder : δ} {encodeToBase64 : δ → α → δ × String}

/-- The connection of `x` was lost, or its attempt has failed and is not the last one. -/
def hasFailed (v : Variant δ α) (x : WebSocket) : Bool :=
  if x.opened then x.closed else (x.errored || x.closed) && decide (x.tried ≤ v.maxAttempt)

/-- After `w` another attempt was made, or its timer is running. -/
def Retried (s : ObserverServiceClient δ) (w : SocketRef) : Prop :=
  w + 1 < s.sockets.length ∨ ∃ run ∈ s.runs, ∃ tried, run.progress = .waiting tried

/-- The delivery has survived the events `es`. -/
structure Survives (v : Variant δ α) (es : List (Event α)) (s : ObserverServiceClient δ) :
    Prop where
  running : s.crashed = false
  conserved : s.handed.map Prod.snd ++ s.buffer = (encodeAll v (samples es)).2
  lost : ∀ x ∈ s.sockets, x.lost = []
  retried : ∀ w x, s.sockets[w]? = some x → hasFailed v x = true → s.Retried w

/-- A websocket emits `error` or `close`. -/
def Event.fails : Event α → Bool
  | .errored _ | .closed _ _ => true
  | _ => false

/-! ### A single websocket -/

/-- There is one run with one websocket, or nothing yet. -/
structure Single (s : ObserverServiceClient δ) : Prop where
  one : s.sockets.length ≤ 1
  first : s.connecting = none → s.sockets = [] ∧ s.runs = []
  deaf : ∀ x ∈ s.sockets, x.watched = false ∧ x.tracked = false ∧ x.tried = 0
  attempts : ∀ run ∈ s.runs, ∀ tried, run.progress ≠ .waiting tried

theorem Single.keep (h : Single s) (hs : s'.sockets.length = s.sockets.length)
    (hr : s'.runs.length = s.runs.length) (hc : s'.connecting = s.connecting)
    (hd : ∀ x ∈ s'.sockets, x.watched = false ∧ x.tracked = false ∧ x.tried = 0)
    (ha : ∀ run ∈ s'.runs, ∀ tried, run.progress ≠ .waiting tried) : Single s' := by
  refine ⟨hs ▸ h.one, fun hn => ?_, hd, ha⟩
  obtain ⟨h₁, h₂⟩ := h.first (hc ▸ hn)
  rw [h₁] at hs
  rw [h₂] at hr
  exact ⟨List.eq_nil_of_length_eq_zero hs, List.eq_nil_of_length_eq_zero hr⟩

theorem Single.connect (h : Single s) (queryString : String) :
    Single (s.connect (sfuClient newEncoder encodeToBase64) queryString) := by
  refine connect_of h _ fun _ hn => ?_
  obtain ⟨h₁, h₂⟩ := h.first hn
  simp only [connectingTo, h₁, h₂]
  exact ⟨by simp, fun hn => by simp at hn, by simp [sfuClient], by simp⟩

theorem Single.closeSocket (h : Single s) : Single s.closeSocket :=
  closeSocket_of h fun _ => h.keep (List.length_modify ..) rfl rfl
    (Cells.forall_modify (fun _ hx => by exact hx) h.deaf _) h.attempts

theorem Single.disconnect (h : Single s) : Single s.disconnect := by
  refine disconnect_of h (fun _ => ?_) (Single.closeSocket ?_)
  · exact h.keep rfl rfl rfl h.deaf h.attempts
  · exact h.keep rfl rfl rfl h.deaf h.attempts

theorem Single.close (h : Single s) : Single s.close :=
  close_of h (h.keep rfl rfl rfl h.deaf h.attempts)

theorem Single.send (h : Single s) (sample : α) : Single (s.send v sample) := by
  refine send_of h sample (fun _ _ => ?_) fun _ _ w _ => ?_
  · exact h.keep rfl rfl rfl h.deaf h.attempts
  · refine h.keep (List.length_modify ..) rfl rfl
      (Cells.forall_modify (fun x hx => ?_) h.deaf _) h.attempts
    split <;> exact hx

theorem socketErrored_of_deaf {w : SocketRef} {x : WebSocket} (hw : x.watched = false) :
    s.socketErrored v w x = { s with
      sockets := s.sockets.modify w fun x => { x with errored := true }
      crashed := v.throws } := by
  simp [socketErrored, hw]

theorem socketClosed_of_deaf {w : SocketRef} {x : WebSocket} {code : Nat} (hw : x.watched = false)
    (ht : x.tracked = false) : s.socketClosed v w x code = { s with
      sockets := s.sockets.modify w fun x => { x with closed := true } } := by
  simp [socketClosed, hw, ht]

theorem single_step (h : Single s) (he : s.step (sfuClient newEncoder encodeToBase64) e = some s') :
    Single s' := by
  cases (step_turn he).2 with
  | connect => exact h.connect _
  | disconnect => exact h.disconnect
  | close => exact h.close
  | send => exact h.send _
  | opened =>
      refine h.keep (List.length_modify ..) (List.length_modify ..) rfl
        (Cells.forall_modify (fun x hx => ?_) h.deaf _)
        (Cells.forall_modify (fun run _ tried hp => by cases hp) h.attempts _)
      exact ⟨rfl, hx.2⟩
  | errored hx =>
      rw [socketErrored_of_deaf (h.deaf _ (List.mem_of_getElem? hx)).1]
      exact h.keep (List.length_modify ..) rfl rfl
        (Cells.forall_modify (fun _ hx => by exact hx) h.deaf _) h.attempts
  | closed hx =>
      obtain ⟨hw, ht, -⟩ := h.deaf _ (List.mem_of_getElem? hx)
      rw [socketClosed_of_deaf hw ht]
      exact h.keep (List.length_modify ..) rfl rfl
        (Cells.forall_modify (fun _ hx => by exact hx) h.deaf _) h.attempts
  | timeout hr hp => exact (h.attempts _ (List.mem_of_getElem? hr) _ hp).elim
  | continued =>
      refine h.keep (List.length_modify ..) (List.length_modify ..) rfl
        (Cells.forall_modify (fun x hx => ?_) h.deaf _)
        (Cells.forall_modify (fun run _ tried hp => by cases hp) h.attempts _)
      exact ⟨hx.1, rfl, hx.2.2⟩
  | settled hu => cases hu
  | @resumed n call =>
      have h₁ : Single (s.resume call) := by
        cases call with
        | disconnect =>
            refine Single.closeSocket ?_
            exact h.keep rfl rfl rfl h.deaf h.attempts
        | close => exact h.closeSocket
      exact h₁.keep rfl rfl rfl h₁.deaf h₁.attempts
  | rejected => exact h.keep rfl rfl rfl h.deaf h.attempts

/-! ### Failures -/

/-- A websocket has closed. -/
def Shut (s : ObserverServiceClient δ) : Prop := ∃ x ∈ s.sockets, x.closed = true

theorem Shut.connectingTo (h : Shut s) (c : RunRef) (queryString : String) (tried : Nat) :
    Shut (s.connectingTo v c queryString tried) := by
  obtain ⟨x, hx, hc⟩ := h
  exact ⟨x, List.mem_append_left _ hx, hc⟩

theorem Shut.connect (h : Shut s) (queryString : String) : Shut (s.connect v queryString) := by
  refine connect_of h _ fun _ _ => Shut.connectingTo ?_ _ _ _
  exact h

theorem Shut.close (h : Shut s) : Shut s.close := close_of h h

theorem Shut.closeSocket (h : Shut s) : Shut s.closeSocket :=
  closeSocket_of h fun _ => Cells.exists_modify (fun _ hc => by exact hc) h _

theorem Shut.disconnect (h : Shut s) : Shut s.disconnect := by
  refine disconnect_of h (fun _ => h) (Shut.closeSocket ?_)
  exact h

theorem Shut.send (h : Shut s) (sample : α) : Shut (s.send v sample) := by
  refine send_of h sample (fun _ _ => h) fun _ _ w _ => ?_
  refine Cells.exists_modify (fun x hc => ?_) h _
  split <;> exact hc

/-- A websocket that has closed stays closed. -/
theorem shut_step (h : Shut s) (he : s.step v e = some s') : Shut s' := by
  cases (step_turn he).2 with
  | connect => exact h.connect _
  | disconnect => exact h.disconnect
  | close => exact h.close
  | send => exact h.send _
  | opened | continued => exact Cells.exists_modify (fun _ hc => by exact hc) h _
  | @errored w x =>
      have h₁ : Shut { s with
          sockets := s.sockets.modify w fun x => { x with errored := true } } :=
        Cells.exists_modify (fun _ hc => by exact hc) h _
      rw [socketErrored]
      dsimp only
      split
      · exact Cells.exists_modify (fun _ hc => by exact hc) h₁ _
      · exact h₁
  | closed =>
      exact socketClosed_of (P := Shut) _ (Cells.exists_modify (fun _ _ => by rfl) h _)
        (fun _ ht => Cells.exists_modify (fun _ hc => by exact hc) ht _)
        (fun _ ht => Cells.exists_modify (fun _ hc => by exact hc) ht _)
        (fun _ ht => ht.close) fun _ ht => ht.connect _
  | timeout => exact h.connectingTo _ _ _
  | settled | rejected => exact h
  | @resumed n call =>
      cases call with
      | disconnect =>
          refine Shut.closeSocket ?_
          exact h
      | close => exact h.closeSocket

/-- An event that fails shuts a websocket, or ends the program. -/
theorem shut_of_fails (h : Single s) (hf : e.fails = true)
    (he : s.step (sfuClient newEncoder encodeToBase64) e = some s') :
    s'.crashed = true ∨ Shut s' := by
  cases (step_turn he).2 <;> cases hf
  case errored hx _ =>
    rw [socketErrored_of_deaf (h.deaf _ (List.mem_of_getElem? hx)).1]
    exact .inl rfl
  case closed hx _ =>
    obtain ⟨hw, ht, -⟩ := h.deaf _ (List.mem_of_getElem? hx)
    rw [socketClosed_of_deaf hw ht]
    exact .inr ⟨_, List.mem_of_getElem? (Cells.modify_of_some hx), rfl⟩

/-- Nobody makes another attempt when the websocket has closed. -/
theorem not_survives_of_shut {es : List (Event α)} (h : Single s) (hs : Shut s) :
    ¬Survives (sfuClient newEncoder encodeToBase64) es s := by
  obtain ⟨x, hmem, hc⟩ := hs
  obtain ⟨w, hw⟩ := List.mem_iff_getElem?.mp hmem
  have hf : hasFailed (sfuClient newEncoder encodeToBase64) x = true := by
    simp [hasFailed, hc, (h.deaf x hmem).2.2]
  intro hsurvives
  rcases hsurvives.retried w x hw hf with hlt | ⟨run, hr, tried, hp⟩
  · exact absurd (Nat.lt_of_lt_of_le hlt h.one) (by simp)
  · exact h.attempts run hr tried hp

/-- Nothing has failed, and the client was not closed. -/
structure Intact (s : ObserverServiceClient δ) : Prop where
  running : s.crashed = false
  closed : s.closed = false
  sockets : ∀ x ∈ s.sockets, x.errored = false ∧ x.closed = false

theorem Intact.connect (h : Intact s) (queryString : String) :
    Intact (s.connect v queryString) := by
  refine connect_of h _ fun _ _ => ⟨h.running, h.closed, fun x hx => ?_⟩
  rcases List.mem_append.mp hx with hx | hx
  · exact h.sockets x hx
  · rw [List.mem_singleton.mp hx]
    exact ⟨rfl, rfl⟩

theorem Intact.closeSocket (h : Intact s) : Intact s.closeSocket :=
  closeSocket_of h fun _ =>
    ⟨h.running, h.closed, Cells.forall_modify (fun _ hx => by exact hx) h.sockets _⟩

theorem Intact.disconnect (h : Intact s) : Intact s.disconnect := by
  refine disconnect_of h (fun _ => ⟨h.running, h.closed, h.sockets⟩) (Intact.closeSocket ?_)
  exact ⟨h.running, h.closed, h.sockets⟩

theorem Intact.send (h : Intact s) (sample : α) : Intact (s.send v sample) := by
  refine send_of h sample (fun _ _ => ⟨h.running, h.closed, h.sockets⟩) fun _ _ w _ => ?_
  refine ⟨h.running, h.closed, Cells.forall_modify (fun x hx => ?_) h.sockets _⟩
  split <;> exact hx

theorem intact_step (h : Intact s) (hf : e.fails = false) (hne : e ≠ .close)
    (he : s.step v e = some s') : Intact s' := by
  cases (step_turn he).2 with
  | connect => exact h.connect _
  | disconnect => exact h.disconnect
  | close => exact (hne rfl).elim
  | send => exact h.send _
  | opened | continued =>
      exact ⟨h.running, h.closed, Cells.forall_modify (fun _ hx => by exact hx) h.sockets _⟩
  | errored | closed => cases hf
  | timeout =>
      refine ⟨h.running, h.closed, fun x hx => ?_⟩
      rcases List.mem_append.mp hx with hx | hx
      · exact h.sockets x hx
      · rw [List.mem_singleton.mp hx]
        exact ⟨rfl, rfl⟩
  | settled | rejected => exact ⟨h.running, h.closed, h.sockets⟩
  | @resumed n call =>
      have h₁ : Intact (s.resume call) := by
        cases call with
        | disconnect =>
            refine Intact.closeSocket ?_
            exact ⟨h.running, h.closed, h.sockets⟩
        | close => exact h.closeSocket
      exact ⟨h₁.running, h₁.closed, h₁.sockets⟩

/-! ### Runs -/

theorem single_new (v : Variant δ α) (wsAddress : String) : Single (.new v wsAddress true) where
  one := Nat.zero_le 1
  first _ := ⟨rfl, rfl⟩
  deaf _ hx := by cases hx
  attempts _ hr := by cases hr

theorem single_of_run {wsAddress : String} {es : List (Event α)}
    (hx : exec (step (sfuClient newEncoder encodeToBase64))
      (.new (sfuClient newEncoder encodeToBase64) wsAddress true) es = some s) : Single s :=
  exec_invariant_of_step (fun _ _ _ h he => single_step h he) (single_new _ wsAddress) hx

/-- A run that reaches beyond a failure has shut its websocket. -/
theorem shut_of_run {wsAddress : String} {es : List (Event α)}
    (hx : exec (step (sfuClient newEncoder encodeToBase64))
      (.new (sfuClient newEncoder encodeToBase64) wsAddress true) es = some s)
    (he : ∃ e ∈ es, e.fails = true) : s.crashed = true ∨ Shut s := by
  revert he
  refine exec_history (I := fun es s => (∃ e ∈ es, e.fails = true) → s.crashed = true ∨ Shut s)
    (fun h => ?_) (fun es s e s' hx ih he hf => ?_) hx
  · obtain ⟨e, hmem, -⟩ := h
    cases hmem
  · obtain ⟨e', hmem, hf⟩ := hf
    rcases List.mem_append.mp hmem with hmem | hmem
    · rcases ih ⟨e', hmem, hf⟩ with hc | hs
      · cases hc.symm.trans (step_turn he).1
      · exact .inr (shut_step hs he)
    · cases List.mem_singleton.mp hmem
      exact shut_of_fails (single_of_run hx) hf he

theorem intact_of_run {wsAddress : String} {es : List (Event α)}
    (hx : exec (step v) (.new v wsAddress true) es = some s)
    (hclose : .close ∉ es) (hf : ∀ e ∈ es, e.fails = false) : Intact s := by
  have ha : Along (step v) (fun _ e => e.fails = false ∧ e ≠ .close) (.new v wsAddress true) es :=
    along_of_forall fun e he _ => ⟨hf e he, fun h => hclose (h ▸ he)⟩
  exact exec_invariant (fun _ _ _ h hG he => intact_step h hG.1 hG.2 he)
    ⟨rfl, rfl, fun _ hx => by cases hx⟩ ha hx

/-- **The delivery survives a run** in which the client is not closed if and only if no websocket
has emitted an `error` or a `close`. -/
theorem survives_iff {wsAddress : String} {es : List (Event α)} {s : ObserverServiceClient δ}
    (hx : exec (step (sfuClient newEncoder encodeToBase64))
      (.new (sfuClient newEncoder encodeToBase64) wsAddress true) es = some s)
    (hclose : .close ∉ es) :
    Survives (sfuClient newEncoder encodeToBase64) es s ↔ ∀ e ∈ es, e.fails = false := by
  constructor
  · intro h e he
    by_contra hf
    rcases shut_of_run hx ⟨e, he, by simpa using hf⟩ with hc | hs
    · cases hc.symm.trans h.running
    · exact not_survives_of_shut (single_of_run hx) hs h
  · intro hf
    have hi := intact_of_run hx hclose hf
    have ha : Along (step (sfuClient newEncoder encodeToBase64))
        (Tracked (sfuClient newEncoder encodeToBase64))
        (.new (sfuClient newEncoder encodeToBase64) wsAddress true) es := by
      refine along_of_forall fun e he _ w code heq => ?_
      cases (hf _ he).symm.trans (heq ▸ rfl : e.fails = true)
    refine ⟨hi.running, congrArg Prod.snd (ledger_of_run hx hi.closed), (live_of_run hx ha).lost,
      fun w x hw hfailed => ?_⟩
    obtain ⟨h₁, h₂⟩ := hi.sockets x (List.mem_of_getElem? hw)
    simp [hasFailed, h₁, h₂] at hfailed

/-- The client connects, and sends what was in its buffer. -/
theorem survives_iff_connects :
    ∃ s, exec (step (sfuClient 0 numbered)) (.new (sfuClient 0 numbered) "a" true)
        [.connect "q", .send "a", .opened 0, .continued 0, .send "b"] = some s ∧
      s.handed = [(0, "a0"), (0, "b1")] ∧ Survives (sfuClient 0 numbered)
        [.connect "q", .send "a", .opened 0, .continued 0, .send "b"] s := by
  have hx : exec (step (sfuClient 0 numbered)) (.new (sfuClient 0 numbered) "a" true)
    [.connect "q", .send "a", .opened 0, .continued 0, .send "b"] = some _ := rfl
  exact ⟨_, hx, by decide, (survives_iff hx (by simp)).mpr (by decide)⟩

/-- **Samples are lost.**  The websocket closes, the next sample is handed to it, and nobody
connects again. -/
theorem sample_lost :
    ∃ s, exec (step (sfuClient 0 numbered)) (.new (sfuClient 0 numbered) "a" true)
        [.connect "q", .opened 0, .continued 0, .closed 0 1006, .send "a"] = some s ∧
      Along (step (sfuClient 0 numbered)) (Scheduled (sfuClient 0 numbered))
        (.new (sfuClient 0 numbered) "a" true)
        [.connect "q", .opened 0, .continued 0, .closed 0 1006, .send "a"] ∧
      s.sockets.map WebSocket.lost = [["a0"]] ∧ s.buffer = [] ∧
      s.due (sfuClient 0 numbered) = false ∧
      ¬Survives (sfuClient 0 numbered)
        [.connect "q", .opened 0, .continued 0, .closed 0 1006, .send "a"] s := by
  refine ⟨_, rfl, by decide, by decide, rfl, by decide, fun h => ?_⟩
  exact absurd (h.lost _ List.mem_cons_self) (by decide)

end DemoApp.Samples.ObserverServiceClient
