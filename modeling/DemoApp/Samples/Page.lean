import DemoApp.Samples.Conservation

/-!
# Samples — Page

What the client of a page keeps, beside its ledger.

* `Addressed`: every websocket is constructed with the protocol of the client and with a query
  string that `connect` was called with.
* `Unclosed`: while the page calls neither `disconnect` nor `close`, and no websocket closes the
  client, `close` is called on no websocket.
* `handed_step`: a step hands over texts to `_ws` alone.
-/

namespace DemoApp.Samples
open Machine

/-- The arguments that a websocket was constructed with. -/
def WebSocket.address (x : WebSocket) : String × String × String :=
  (x.protocol, x.url, x.queryString)

namespace ObserverServiceClient

variable {ε α : Type} {v : Variant ε α} {s s' : ObserverServiceClient ε} {e : Event α}
variable {wsAddress : String} {Q : String → Prop}

/-- The websockets were constructed with the protocol of the client, and with query strings that
`connect` was called with. -/
structure Addressed (v : Variant ε α) (wsAddress : String) (Q : String → Prop)
    (s : ObserverServiceClient ε) : Prop where
  address : s.wsAddress = wsAddress
  socket : ∀ x ∈ s.sockets, x.protocol = v.protocol ∧ x.url = wsAddress ++ "?" ++ x.queryString ∧
    Q x.queryString
  run : ∀ run ∈ s.runs, Q run.queryString

namespace Addressed

theorem congr (h : Addressed v wsAddress Q s) (ha : s'.wsAddress = s.wsAddress)
    (hs : s'.sockets.map WebSocket.address = s.sockets.map WebSocket.address)
    (hr : s'.runs.map Run.queryString = s.runs.map Run.queryString) :
    Addressed v wsAddress Q s' := by
  refine ⟨ha.trans h.address, fun x hx => ?_, fun run hrun => ?_⟩
  · obtain ⟨w, hw⟩ := List.mem_iff_getElem?.mp hx
    obtain ⟨y, hy, e⟩ := Cells.some_of_map hs.symm hw
    obtain ⟨hp, hu, hq⟩ : y.protocol = x.protocol ∧ y.url = x.url ∧
        y.queryString = x.queryString := by simpa [WebSocket.address] using e
    rw [← hp, ← hu, ← hq]
    exact h.socket y (List.mem_of_getElem? hy)
  · obtain ⟨c, hc⟩ := List.mem_iff_getElem?.mp hrun
    obtain ⟨run', hrun', e⟩ := Cells.some_of_map hr.symm hc
    rw [← e]
    exact h.run run' (List.mem_of_getElem? hrun')

theorem connectingTo (h : Addressed v wsAddress Q s) (c : RunRef) {queryString : String}
    (hq : Q queryString) (tried : Nat) :
    Addressed v wsAddress Q (s.connectingTo v c queryString tried) := by
  refine ⟨h.address, fun x hx => ?_, ?_⟩
  · rcases List.mem_append.mp hx with hx | hx
    · exact h.socket x hx
    · rw [List.mem_singleton.mp hx]
      exact ⟨rfl, by rw [← h.address], hq⟩
  · exact Cells.forall_modify (P := fun run : Run => Q run.queryString)
      (fun _ hQ => by exact hQ) h.run c

theorem connect (h : Addressed v wsAddress Q s) {queryString : String} (hq : Q queryString) :
    Addressed v wsAddress Q (s.connect v queryString) := by
  have h₁ : Addressed v wsAddress Q { s with
      canConnect := true
      connecting := some s.runs.length
      runs := s.runs ++ [{ queryString, progress := .waiting 0 }] } := by
    refine ⟨h.address, h.socket, fun run hrun => ?_⟩
    rcases List.mem_append.mp hrun with hrun | hrun
    · exact h.run run hrun
    · rw [List.mem_singleton.mp hrun]
      exact hq
  exact connect_of h _ fun _ _ => h₁.connectingTo _ hq _

theorem close (h : Addressed v wsAddress Q s) : Addressed v wsAddress Q s.close :=
  close_of h (h.congr rfl rfl rfl)

theorem closeSocket (h : Addressed v wsAddress Q s) : Addressed v wsAddress Q s.closeSocket :=
  closeSocket_of h fun _ => h.congr rfl (Cells.map_modify (fun _ => by rfl) _ _) rfl

theorem reconnecting (h : Addressed v wsAddress Q s) (w : SocketRef) (x : WebSocket) :
    Addressed v wsAddress Q (s.reconnecting v w x) :=
  h.congr rfl (Cells.map_modify (fun _ => by rfl) _ _) (Cells.map_modify (fun _ => by rfl) _ _)

theorem step (h : Addressed v wsAddress Q s) (he : s.step v e = some s')
    (hQ : ∀ queryString, e = .connect queryString → Q queryString) :
    Addressed v wsAddress Q s' := by
  cases (step_turn he).2 with
  | connect => exact h.connect (hQ _ rfl)
  | disconnect =>
      exact disconnect_of h (fun _ => h.congr rfl rfl rfl) (closeSocket (h.congr rfl rfl rfl))
  | close => exact h.close
  | send =>
      refine send_of (P := Addressed v wsAddress Q) h _ (fun _ _ => h.congr rfl rfl rfl)
        fun _ _ _ _ => ?_
      exact h.congr rfl (Cells.map_modify (fun x => by split <;> rfl) _ _) rfl
  | opened =>
      exact h.congr rfl (Cells.map_modify (fun _ => by rfl) _ _)
        (Cells.map_modify (fun _ => by rfl) _ _)
  | @errored w x =>
      rw [socketErrored]
      dsimp only
      have h₁ : Addressed v wsAddress Q { s with
          sockets := s.sockets.modify w fun x => { x with errored := true } } :=
        h.congr rfl (Cells.map_modify (fun _ => by rfl) _ _) rfl
      split
      · exact h₁.reconnecting w x
      · exact h₁.congr rfl rfl rfl
  | @closed w x code hx =>
      refine socketClosed_of code (h.congr rfl (Cells.map_modify (fun _ => by rfl) _ _) rfl)
        (fun _ ht => ht.reconnecting w x) (fun _ ht => ?_) (fun _ ht => ht.close) fun _ ht => ?_
      · exact ht.congr rfl (Cells.map_modify (fun _ => by rfl) _ _) rfl
      · exact ht.connect (h.socket x (List.mem_of_getElem? hx)).2.2
  | timeout hr => exact h.connectingTo _ (h.run _ (List.mem_of_getElem? hr)) _
  | continued =>
      exact h.congr rfl (Cells.map_modify (fun _ => by rfl) _ _)
        (Cells.map_modify (fun _ => by rfl) _ _)
  | settled => exact h.congr rfl rfl (Cells.map_modify (fun _ => by rfl) _ _)
  | @resumed n call =>
      have h₁ : Addressed v wsAddress Q (s.resume call) := by
        cases call with
        | disconnect => exact closeSocket (h.congr rfl rfl rfl)
        | close => exact h.closeSocket
      exact h₁.congr rfl rfl rfl
  | rejected => exact h.congr rfl rfl rfl

end Addressed

/-- Nobody closes it: the page calls neither `disconnect` nor `close`. -/
def Event.keeps : Event α → Bool
  | .disconnect | .close => false
  | _ => true

/-- No call waits, and `close` was called on no websocket. -/
structure Unclosed (s : ObserverServiceClient ε) : Prop where
  calls : s.calls = []
  closing : ∀ x ∈ s.sockets, x.closing = false

namespace Unclosed

theorem modify (h : Unclosed s) (hc : s'.calls = s.calls) {f : WebSocket → WebSocket}
    {w : SocketRef} (hs : s'.sockets = s.sockets.modify w f)
    (hf : ∀ x, (f x).closing = x.closing) : Unclosed s' := by
  refine ⟨hc.trans h.calls, ?_⟩
  rw [hs]
  exact Cells.forall_modify (fun x hx => (hf x).trans hx) h.closing w

theorem connectingTo (h : Unclosed s) (c : RunRef) (queryString : String) (tried : Nat) :
    Unclosed (s.connectingTo v c queryString tried) := by
  refine ⟨h.calls, fun x hx => ?_⟩
  rcases List.mem_append.mp hx with hx | hx
  · exact h.closing x hx
  · rw [List.mem_singleton.mp hx]

theorem connect (h : Unclosed s) (queryString : String) : Unclosed (s.connect v queryString) :=
  connect_of h _ fun _ _ => connectingTo (s := { s with
    canConnect := true
    connecting := some s.runs.length
    runs := s.runs ++ [{ queryString, progress := .waiting 0 }] }) ⟨h.calls, h.closing⟩ _ _ _

theorem step (h : Unclosed s) (he : s.step v e = some s') (hk : e.keeps = true)
    (hc : s'.closed = false) : Unclosed s' := by
  cases (step_turn he).2 with
  | connect => exact h.connect _
  | disconnect | close => cases hk
  | send =>
      refine send_of h _ (fun _ _ => ⟨h.calls, h.closing⟩) fun _ _ w _ => ?_
      refine h.modify rfl rfl fun x => ?_
      split <;> rfl
  | opened => exact h.modify rfl rfl fun _ => rfl
  | @errored w x =>
      rw [socketErrored]
      dsimp only
      have h₁ : Unclosed { s with
        sockets := s.sockets.modify w fun x => { x with errored := true } } :=
          h.modify rfl rfl fun _ => rfl
      split
      · exact h₁.modify rfl rfl fun _ => rfl
      · exact ⟨h₁.calls, h₁.closing⟩
  | @closed w x code =>
      -- where it is closed afterwards there is nothing to show
      refine socketClosed_of (P := fun t => t.closed = false → Unclosed t) code
        (fun _ => h.modify rfl rfl fun _ => rfl) (fun t ht hct => ?_) (fun t ht hct => ?_)
        (fun t _ hct => ?_) (fun t ht hct => ?_) hc
      · exact (ht hct).modify rfl rfl fun _ => rfl
      · exact (ht hct).modify rfl rfl fun _ => rfl
      · cases (close_closed t).symm.trans hct
      · cases htc : t.closed with
        | false => exact (ht htc).connect _
        | true =>
            rw [connect_closed htc] at hct
            cases htc.symm.trans hct
  | timeout => exact h.connectingTo _ _ _
  | continued => exact h.modify rfl rfl fun _ => rfl
  | settled => exact ⟨h.calls, h.closing⟩
  | resumed hn | rejected hn =>
      rw [h.calls] at hn
      cases hn

theorem of_run {wsAddress : String} {reconnect : Bool} {es : List (Event α)}
    (hx : exec (ObserverServiceClient.step v) (.new v wsAddress reconnect) es = some s)
    (hk : ∀ e ∈ es, e.keeps = true) (hc : s.closed = false) : Unclosed s := by
  refine exec_invariant (G := fun _ e => e.keeps = true)
    (I := fun s => s.closed = false → Unclosed s) (fun s e s' h hG he hc' => ?_)
    (fun _ => ⟨rfl, fun x hx => by cases hx⟩) (along_of_forall fun e he _ => hk e he) hx hc
  refine (h ?_).step he hG hc'
  cases hcs : s.closed with
  | false => rfl
  | true => cases (closed_step he hcs).symm.trans hc'

end Unclosed

theorem Addressed.of_run {reconnect : Bool} {es : List (Event α)}
    (hx : exec (ObserverServiceClient.step v) (.new v wsAddress reconnect) es = some s)
    (hQ : ∀ queryString, .connect queryString ∈ es → Q queryString) :
    Addressed v wsAddress Q s := by
  refine exec_invariant (G := fun _ e => ∀ queryString, e = .connect queryString → Q queryString)
    (fun s e s' h hG he => h.step he hG) ⟨rfl, ?_, ?_⟩
    (along_of_forall fun e he _ queryString e' => hQ queryString (by rw [← e']; exact he)) hx
  · intro x hx
    cases hx
  · intro run hrun
    cases hrun

/-! ### What is handed over -/

theorem handed_closeSocket (s : ObserverServiceClient ε) : s.closeSocket.handed = s.handed :=
  closeSocket_of (P := fun t => t.handed = s.handed) rfl fun _ => rfl

theorem handed_connect (s : ObserverServiceClient ε) (queryString : String) :
    (s.connect v queryString).handed = s.handed :=
  connect_of (P := fun t => t.handed = s.handed) rfl _ fun _ _ => rfl

theorem handed_close (s : ObserverServiceClient ε) : s.close.handed = s.handed :=
  close_of (P := fun t => t.handed = s.handed) rfl rfl

/-- Texts are handed to `_ws`, which stays where it is. -/
theorem handed_step (he : s.step v e = some s') : ∃ new, s'.handed = s.handed ++ new ∧
    ∀ x ∈ new, s'.ws = some x.1 := by
  have none : ∀ {t : ObserverServiceClient ε}, t.handed = s.handed →
      ∃ new, t.handed = s.handed ++ new ∧ ∀ x ∈ new, t.ws = some x.1 :=
    fun h => ⟨[], by rw [h, List.append_nil], fun x hx => by cases hx⟩
  cases (step_turn he).2 with
  | connect => exact none (handed_connect _ _)
  | disconnect =>
      exact none (disconnect_of (P := fun t => t.handed = s.handed) rfl (fun _ => rfl)
        (handed_closeSocket _))
  | close => exact none (handed_close _)
  | send =>
      refine send_of (P := fun t => ∃ new, t.handed = s.handed ++ new ∧
        ∀ x ∈ new, t.ws = some x.1) (none rfl) _ (fun _ _ => none rfl) fun _ text w hw => ?_
      refine ⟨_, rfl, fun x hx => ?_⟩
      obtain ⟨_, -, rfl⟩ := List.mem_map.mp hx
      exact hw
  | errored =>
      rw [socketErrored]
      dsimp only
      split <;> exact none rfl
  | closed =>
      refine none (socketClosed_of (P := fun t => t.handed = s.handed) _ rfl (fun _ ht => ht)
        (fun _ ht => ht) (fun _ ht => ?_) fun _ ht => ?_)
      · rw [handed_close]
        exact ht
      · rw [handed_connect]
        exact ht
  | @resumed n call => cases call <;> exact none (handed_closeSocket _)
  | opened | timeout | continued | settled | rejected => exact none rfl

/-- What a step hands over goes to a websocket that is open. -/
theorem open_of_handed (hl : Live v s') (hu : Unclosed s') {new : List (SocketRef × String)}
    (hnew : ∀ x ∈ new, s'.ws = some x.1) :
    ∀ x ∈ new, ∃ y, s'.sockets[x.1]? = some y ∧ y.opened = true ∧ y.closed = false ∧
      y.closing = false := by
  intro x hx
  obtain ⟨y, hy, ho, hc⟩ := hl.ws x.1 (hnew x hx)
  exact ⟨y, hy, ho, hc, hu.closing y (List.mem_of_getElem? hy)⟩

/-! ### Encoding -/

theorem length_encodeAll (v : Variant ε α) (samples : List α) :
    (encodeAll v samples).2.length = samples.length := by
  induction samples using List.reverseRecOn with
  | nil => rfl
  | append_singleton samples sample ih =>
      rw [encodeAll_concat, List.length_append, List.length_append, ih]
      rfl

theorem encodeAll_append (v : Variant ε α) (first later : List α) :
    (encodeAll v first).2 <+: (encodeAll v (first ++ later)).2 := by
  induction later using List.reverseRecOn with
  | nil => exact ⟨[], by rw [List.append_nil, List.append_nil]⟩
  | append_singleton later sample ih =>
      rw [← List.append_assoc, encodeAll_concat]
      exact ih.trans (List.prefix_append _ _)

/-- The first texts are those of the first samples. -/
theorem eq_encodeAll_of_prefix {samples : List α} {texts : List String}
    (h : texts <+: (encodeAll v samples).2) :
    texts = (encodeAll v (samples.take texts.length)).2 := by
  have hlen : texts.length ≤ samples.length := by
    rw [← length_encodeAll v samples]
    exact h.length_le
  have h' := encodeAll_append v (samples.take texts.length) (samples.drop texts.length)
  rw [List.take_append_drop] at h'
  refine (List.prefix_of_prefix_length_le h h' ?_).eq_of_length ?_ <;>
    simp [length_encodeAll, hlen]

end ObserverServiceClient

end DemoApp.Samples
