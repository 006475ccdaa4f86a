import DemoApp.Samples.ObserverServiceClient

/-!
# Samples — One connection

The web app's client should have one connection at a time.  The guard of `connect` is the promise
`_connecting`, and it is unset once the connection is there.

* `Sole`: whoever is connecting or open is `_ws`, or belongs to the run that `_connecting` is the
  promise of; and there is no such run while `_ws` is set.
* `Ended`: after `close`, either its continuation is still to come or nothing is open.
* `one_connection_iff`: in a run there is one live websocket at a time, it is `_ws` if that is set,
  and none is left open after `close`, if and only if `connect` was never called with `_ws` set.
* `two_connections`: the client connects twice.
-/

namespace DemoApp.Samples

/-- The websocket is connecting or open: it has emitted neither `error` nor `close`, and `close`
was not called on it. -/
def WebSocket.isLive (x : WebSocket) : Bool := !x.errored && !x.closed && !x.closing

/-- The attempts of the run go on. -/
def Progress.isPending : Progress → Bool
  | .trying _ | .waiting _ | .opened _ => true
  | .fulfilled | .rejected => false

/-- The websocket of the current attempt. -/
def Progress.socket : Progress → Option SocketRef
  | .trying w | .opened w => some w
  | .waiting _ | .fulfilled | .rejected => none

theorem Progress.isPending_of_socket :
    ∀ {p : Progress} {w : SocketRef}, p.socket = some w → p.isPending = true
  | .trying _, _, _ | .opened _, _, _ => rfl

namespace ObserverServiceClient
open Machine

variable {δ α : Type} {v : Variant δ α} {s s' : ObserverServiceClient δ} {e : Event α}

def IsLive (s : ObserverServiceClient δ) (w : SocketRef) : Prop :=
  ∃ x, s.sockets[w]? = some x ∧ x.isLive = true

/-- At most one websocket is connecting or open, no other than `_ws` if that is set; and none when
the client was closed, no attempt is pending and no continuation is due. -/
structure OneLive (v : Variant δ α) (s : ObserverServiceClient δ) : Prop where
  one : ∀ w w', s.IsLive w → s.IsLive w' → w = w'
  current : ∀ w w', s.ws = some w → s.IsLive w' → w' = w
  closed : s.closed = true → (∀ run ∈ s.runs, run.progress.isPending = false) → s.due v = false →
    ∀ w, ¬s.IsLive w

/-- Where `connect` makes a websocket, `_ws` is unset. -/
def connectsAlone (s : ObserverServiceClient δ) : Event α → Bool
  | .connect _ => s.closed || s.connecting.isSome || s.ws.isNone
  | _ => true

/-! ### What a websocket and a run may be -/

/-- Whoever is live is `_ws` or belongs to the pending run, and not both are there. -/
structure Sole (s : ObserverServiceClient δ) : Prop where
  unopened : ∀ (w : SocketRef) x, s.sockets[w]? = some x → x.opened = false → x.errored = false →
    x.closed = false → x.watched = true
  watched : ∀ (w : SocketRef) x, s.sockets[w]? = some x → x.watched = true →
    ∃ run, s.runs[x.run]? = some run ∧ run.progress = .trying w
  opened : ∀ (w : SocketRef) x, s.sockets[w]? = some x → x.opened = true → x.isLive = true →
    s.ws = some w ∨ ∃ run ∈ s.runs, run.progress = .opened w
  tracked : ∀ (w : SocketRef) x, s.sockets[w]? = some x → x.tracked = true → s.ws = some w
  made : ∀ w, (s.ws = some w ∨ ∃ run ∈ s.runs, run.progress.socket = some w) → w < s.sockets.length
  there : ∀ c, s.connecting = some c → c < s.runs.length
  pending : ∀ (c : RunRef) run, s.runs[c]? = some run → run.progress.isPending = true →
    run.cleared = false
  uncleared : ∀ (c : RunRef) run, s.runs[c]? = some run → run.cleared = false →
    s.connecting = some c
  unset : ∀ (c : RunRef) run, s.runs[c]? = some run → s.connecting = some c →
    run.progress ≠ .fulfilled → s.ws = none

namespace Sole

theorem unset_of_pending (h : Sole s) {c : RunRef} {run : Run} (hr : s.runs[c]? = some run)
    (hp : run.progress.isPending = true) : s.connecting = some c ∧ s.ws = none := by
  have hc := h.uncleared c run hr (h.pending c run hr hp)
  refine ⟨hc, h.unset c run hr hc fun e => ?_⟩
  rw [e] at hp
  cases hp

/-- Who is live is `_ws`, or the websocket of a pending run. -/
theorem holder (h : Sole s) {w : SocketRef} (hl : s.IsLive w) :
    s.ws = some w ∨
      ∃ (c : RunRef) (run : Run), s.runs[c]? = some run ∧ run.progress.socket = some w := by
  obtain ⟨x, hx, hlive⟩ := hl
  cases ho : x.opened with
  | true =>
      refine (h.opened w x hx ho hlive).imp_right ?_
      rintro ⟨run, hmem, hp⟩
      obtain ⟨c, hc⟩ := List.mem_iff_getElem?.mp hmem
      exact ⟨c, run, hc, by rw [hp]; rfl⟩
  | false =>
      simp only [WebSocket.isLive, Bool.and_eq_true, Bool.not_eq_true'] at hlive
      obtain ⟨run, hr, hp⟩ := h.watched w x hx (h.unopened w x hx ho hlive.1.1 hlive.1.2)
      exact .inr ⟨_, run, hr, by rw [hp]; rfl⟩

theorem one (h : Sole s) {w w' : SocketRef} (hl : s.IsLive w) (hl' : s.IsLive w') : w = w' := by
  rcases h.holder hl with hw | ⟨c, run, hr, hw⟩ <;>
    rcases h.holder hl' with hw' | ⟨c', run', hr', hw'⟩
  · cases hw.symm.trans hw'
    rfl
  · cases hw.symm.trans (h.unset_of_pending hr' (Progress.isPending_of_socket hw')).2
  · cases hw'.symm.trans (h.unset_of_pending hr (Progress.isPending_of_socket hw)).2
  · have hc := (h.unset_of_pending hr (Progress.isPending_of_socket hw)).1
    cases hc.symm.trans (h.unset_of_pending hr' (Progress.isPending_of_socket hw')).1
    cases hr.symm.trans hr'
    cases hw.symm.trans hw'
    rfl

theorem current (h : Sole s) {w w' : SocketRef} (hw : s.ws = some w) (hl : s.IsLive w') :
    w' = w := by
  rcases h.holder hl with hw' | ⟨c, run, hr, hw'⟩
  · cases hw'.symm.trans hw
    rfl
  · cases hw.symm.trans (h.unset_of_pending hr (Progress.isPending_of_socket hw')).2

end Sole

/-! ### Steps -/

/-- The websocket has changed in nothing that keeps it alive. -/
structure Tame (x x' : WebSocket) : Prop where
  run : x'.run = x.run
  opened : x'.opened = x.opened
  watched : x'.watched = x.watched
  tracked : x'.tracked = true → x.tracked = true
  errored : x'.errored = false → x.errored = false
  closed : x'.closed = false → x.closed = false
  live : x'.isLive = true → x.isLive = true

def Tamed (xs xs' : List WebSocket) : Prop :=
  xs'.length = xs.length ∧ ∀ (w : SocketRef) x', xs'[w]? = some x' →
    ∃ x, xs[w]? = some x ∧ Tame x x'

theorem Tame.refl (x : WebSocket) : Tame x x := ⟨rfl, rfl, rfl, id, id, id, id⟩

theorem Tamed.refl (xs : List WebSocket) : Tamed xs xs := ⟨rfl, fun _ x hx => ⟨x, hx, .refl x⟩⟩

theorem Tamed.modify {f : WebSocket → WebSocket} (hf : ∀ x, Tame x (f x)) (xs : List WebSocket)
    (w : SocketRef) : Tamed xs (xs.modify w f) := by
  refine ⟨List.length_modify .., fun w' x' hx' => ?_⟩
  rcases Cells.modify_eq_some.mp hx' with ⟨-, x, hx, rfl⟩ | ⟨-, hx⟩
  · exact ⟨x, hx, hf x⟩
  · exact ⟨x', hx, .refl x'⟩

/-- A websocket that fails or is being closed. -/
theorem Tamed.closing (xs : List WebSocket) (w : SocketRef) :
    Tamed xs (xs.modify w fun x => { x with closing := true }) := by
  refine .modify (fun x => ?_) xs w
  exact ⟨rfl, rfl, rfl, id, id, id, by simp [WebSocket.isLive]⟩

theorem Tamed.errored (xs : List WebSocket) (w : SocketRef) :
    Tamed xs (xs.modify w fun x => { x with errored := true }) := by
  refine .modify (fun x => ?_) xs w
  exact ⟨rfl, rfl, rfl, id, by simp, id, by simp [WebSocket.isLive]⟩

theorem Tamed.closed (xs : List WebSocket) (w : SocketRef) :
    Tamed xs (xs.modify w fun x => { x with closed := true }) := by
  refine .modify (fun x => ?_) xs w
  exact ⟨rfl, rfl, rfl, id, id, by simp, by simp [WebSocket.isLive]⟩

namespace Sole

theorem keep (h : Sole s) (hs : Tamed s.sockets s'.sockets) (hr : s'.runs = s.runs)
    (hc : s'.connecting = s.connecting) (hw : s'.ws = s.ws) : Sole s' := by
  obtain ⟨hlen, hs⟩ := hs
  constructor
  · intro w x' hx' ho he hc
    obtain ⟨x, hx, t⟩ := hs w x' hx'
    exact t.watched.trans (h.unopened w x hx (t.opened.symm.trans ho) (t.errored he) (t.closed hc))
  · intro w x' hx' hwatched
    obtain ⟨x, hx, t⟩ := hs w x' hx'
    rw [hr, t.run]
    exact h.watched w x hx (t.watched.symm.trans hwatched)
  · intro w x' hx' ho hl
    obtain ⟨x, hx, t⟩ := hs w x' hx'
    rw [hw, hr]
    exact h.opened w x hx (t.opened.symm.trans ho) (t.live hl)
  · intro w x' hx' ht
    obtain ⟨x, hx, t⟩ := hs w x' hx'
    exact hw.trans (h.tracked w x hx (t.tracked ht))
  · intro w hm
    rw [hw, hr] at hm
    exact hlen ▸ h.made w hm
  · intro c hcon
    rw [hr]
    exact h.there c (hc ▸ hcon)
  · intro c run hrun
    exact h.pending c run (hr ▸ hrun)
  · intro c run hrun hcl
    exact hc.trans (h.uncleared c run (hr ▸ hrun) hcl)
  · intro c run hrun hcon hp
    exact hw.trans (h.unset c run (hr ▸ hrun) (hc ▸ hcon) hp)

/-- While a run is pending, a watched websocket is its own. -/
theorem watched_by (h : Sole s) {c : RunRef} {run : Run} (hr : s.runs[c]? = some run)
    (hp : run.progress.isPending = true) {w : SocketRef} {x : WebSocket}
    (hx : s.sockets[w]? = some x) (hw : x.watched = true) :
    x.run = c ∧ run.progress = .trying w := by
  obtain ⟨run', hr', hp'⟩ := h.watched w x hx hw
  have hc := (h.unset_of_pending hr hp).1
  cases hc.symm.trans (h.unset_of_pending hr' (by rw [hp']; rfl)).1
  cases hr.symm.trans hr'
  exact ⟨rfl, hp'⟩

/-- While a run is pending, an open websocket is its own. -/
theorem opened_by (h : Sole s) {c : RunRef} {run : Run} (hr : s.runs[c]? = some run)
    (hp : run.progress.isPending = true) {w : SocketRef} {x : WebSocket}
    (hx : s.sockets[w]? = some x) (ho : x.opened = true) (hl : x.isLive = true) :
    run.progress = .opened w := by
  obtain ⟨hc, hws⟩ := h.unset_of_pending hr hp
  rcases h.opened w x hx ho hl with hw | ⟨run', hmem, hp'⟩
  · cases hws.symm.trans hw
  · obtain ⟨c', hr'⟩ := List.mem_iff_getElem?.mp hmem
    cases hc.symm.trans (h.unset_of_pending hr' (by rw [hp']; rfl)).1
    cases hr.symm.trans hr'
    exact hp'

/-- The pending run moves on. -/
theorem move (h : Sole s) {c : RunRef} {run : Run} {p : Progress} (hr : s.runs[c]? = some run)
    (hp : run.progress.isPending = true)
    (hruns : s'.runs = s.runs.modify c fun run => { run with progress := p })
    (hcon : s'.connecting = s.connecting) (hws : p ≠ .fulfilled → s'.ws = none)
    (hunopened : ∀ (w : SocketRef) x, s'.sockets[w]? = some x → x.opened = false →
      x.errored = false → x.closed = false → x.watched = true)
    (hwatched : ∀ (w : SocketRef) x, s'.sockets[w]? = some x → x.watched = true →
      x.run = c ∧ p = .trying w)
    (hopened : ∀ (w : SocketRef) x, s'.sockets[w]? = some x → x.opened = true →
      x.isLive = true → s'.ws = some w ∨ p = .opened w)
    (htracked : ∀ (w : SocketRef) x, s'.sockets[w]? = some x → x.tracked = true → s'.ws = some w)
    (hmade : ∀ w, s'.ws = some w ∨ p.socket = some w → w < s'.sockets.length) : Sole s' := by
  obtain ⟨hc, -⟩ := h.unset_of_pending hr hp
  have hcl := h.pending c run hr hp
  have hr' : s'.runs[c]? = some { run with progress := p } := hruns ▸ Cells.modify_of_some hr
  have cases' : ∀ {c' : RunRef} {run' : Run}, s'.runs[c']? = some run' →
      (c' = c ∧ run' = { run with progress := p }) ∨ c' ≠ c ∧ s.runs[c']? = some run' := by
    intro c' run' hrun'
    rw [hruns] at hrun'
    rcases Cells.modify_eq_some.mp hrun' with ⟨rfl, y, hy, rfl⟩ | hrun'
    · cases hr.symm.trans hy
      exact .inl ⟨rfl, rfl⟩
    · exact .inr hrun'
  -- no other run is pending
  have other : ∀ {c' : RunRef} {run' : Run}, c' ≠ c → s.runs[c']? = some run' →
      run'.cleared = true := by
    intro c' run' hne hrun'
    by_contra hcl'
    cases hc.symm.trans (h.uncleared c' run' hrun' (by simpa using hcl'))
    exact hne rfl
  refine ⟨hunopened, fun w x hx hw => ?_, fun w x hx ho hl => ?_, htracked, fun w hm => ?_,
    fun c' hc' => ?_, fun c' run' hrun' hp' => ?_, fun c' run' hrun' hcl' => ?_,
    fun c' run' hrun' hc' hp' => ?_⟩
  · obtain ⟨rfl, hp'⟩ := hwatched w x hx hw
    exact ⟨_, hr', hp'⟩
  · exact (hopened w x hx ho hl).imp_right fun hp' => ⟨_, List.mem_of_getElem? hr', hp'⟩
  · refine hmade w (hm.imp_right ?_)
    rintro ⟨run', hmem, hw⟩
    obtain ⟨c', hc'⟩ := List.mem_iff_getElem?.mp hmem
    rcases cases' hc' with ⟨-, rfl⟩ | ⟨hne, hc'⟩
    · exact hw
    · cases (other hne hc').symm.trans (h.pending c' run' hc' (Progress.isPending_of_socket hw))
  · rw [hruns, List.length_modify]
    exact h.there c' (hcon ▸ hc')
  · rcases cases' hrun' with ⟨-, rfl⟩ | ⟨-, hrun'⟩
    · exact hcl
    · exact h.pending c' run' hrun' hp'
  · rcases cases' hrun' with ⟨rfl, rfl⟩ | ⟨-, hrun'⟩
    · exact hcon.trans hc
    · exact hcon.trans (h.uncleared c' run' hrun' hcl')
  · rcases cases' hrun' with ⟨rfl, rfl⟩ | ⟨hne, -⟩
    · exact hws hp'
    · cases hc.symm.trans (hcon.symm.trans hc')
      exact absurd rfl hne

/-- A pending run without a websocket makes one. -/
theorem connectingTo (h : Sole s) (hv : v.watches = true) {c : RunRef} {run : Run} {tried : Nat}
    (hr : s.runs[c]? = some run) (hp : run.progress = .waiting tried) (queryString : String)
    (tried' : Nat) : Sole (s.connectingTo v c queryString tried') := by
  have hp' : run.progress.isPending = true := by rw [hp]; rfl
  obtain ⟨-, hws⟩ := h.unset_of_pending hr hp'
  refine h.move hr hp' rfl rfl (fun _ => hws) (fun w x hx ho he hc => ?_) (fun w x hx hw => ?_)
    (fun w x hx ho hl => ?_) (fun w x hx ht => ?_) fun w hw => ?_
  · rcases Cells.concat_eq_some.mp hx with hx | ⟨-, rfl⟩
    · exact h.unopened w x hx ho he hc
    · exact hv
  · rcases Cells.concat_eq_some.mp hx with hx | ⟨rfl, rfl⟩
    · cases hp.symm.trans (h.watched_by hr hp' hx hw).2
    · exact ⟨rfl, rfl⟩
  · rcases Cells.concat_eq_some.mp hx with hx | ⟨rfl, rfl⟩
    · cases hp.symm.trans (h.opened_by hr hp' hx ho hl)
    · cases ho
  · rcases Cells.concat_eq_some.mp hx with hx | ⟨rfl, rfl⟩
    · exact h.tracked w x hx ht
    · cases ht
  · change w < (s.sockets ++ [_]).length
    rw [List.length_append]
    rcases hw with hw | hw
    · cases hws.symm.trans hw
    · cases hw
      exact Nat.lt_succ_self _

/-- The websocket of the pending run opens. -/
theorem done (h : Sole s) {w : SocketRef} {x : WebSocket} (hx : s.sockets[w]? = some x)
    (hw : x.watched = true) : Sole (s.done w x) := by
  obtain ⟨run, hr, hp⟩ := h.watched w x hx hw
  have hp' : run.progress.isPending = true := by rw [hp]; rfl
  obtain ⟨-, hws⟩ := h.unset_of_pending hr hp'
  refine h.move hr hp' rfl rfl (fun _ => hws) (fun w' x' hx' ho he hc => ?_)
    (fun w' x' hx' hw' => ?_) (fun w' x' hx' ho hl => ?_) (fun w' x' hx' ht => ?_) fun w' hw' => ?_
  · rcases Cells.modify_eq_some.mp hx' with ⟨-, y, -, rfl⟩ | ⟨-, hx'⟩
    · cases ho
    · exact h.unopened w' x' hx' ho he hc
  · rcases Cells.modify_eq_some.mp hx' with ⟨-, y, -, rfl⟩ | ⟨hne, hx'⟩
    · cases hw'
    · cases hp.symm.trans (h.watched_by hr hp' hx' hw').2
      exact absurd rfl hne
  · rcases Cells.modify_eq_some.mp hx' with ⟨rfl, y, -, rfl⟩ | ⟨-, hx'⟩
    · exact .inr rfl
    · cases hp.symm.trans (h.opened_by hr hp' hx' ho hl)
  · rcases Cells.modify_eq_some.mp hx' with ⟨rfl, y, hy, rfl⟩ | ⟨-, hx'⟩
    · exact h.tracked w' y hy ht
    · exact h.tracked w' x' hx' ht
  · change w' < (s.sockets.modify w _).length
    rw [List.length_modify]
    rcases hw' with hw' | hw'
    · cases hws.symm.trans hw'
    · cases hw'
      exact Cells.lt_of_some hx

/-- The websocket of the pending run has failed. -/
theorem reconnecting (h : Sole s) {w : SocketRef} {x y : WebSocket} (hy : s.sockets[w]? = some y)
    (hrun : x.run = y.run) (hw : y.watched = true) (hf : y.errored = true ∨ y.closed = true) :
    Sole (s.reconnecting v w x) := by
  obtain ⟨run, hr, hp⟩ := h.watched w y hy hw
  have hp' : run.progress.isPending = true := by rw [hp]; rfl
  obtain ⟨-, hws⟩ := h.unset_of_pending hr hp'
  rw [← hrun] at hr
  refine h.move hr hp' rfl rfl (fun _ => hws) (fun w' x' hx' ho he hc => ?_)
    (fun w' x' hx' hw' => ?_) (fun w' x' hx' ho hl => ?_) (fun w' x' hx' ht => ?_) fun w' hw' => ?_
  · rcases Cells.modify_eq_some.mp hx' with ⟨rfl, z, hz, rfl⟩ | ⟨-, hx'⟩
    · cases hy.symm.trans hz
      rcases hf with hf | hf
      · cases hf.symm.trans he
      · cases hf.symm.trans hc
    · exact h.unopened w' x' hx' ho he hc
  · rcases Cells.modify_eq_some.mp hx' with ⟨-, z, -, rfl⟩ | ⟨hne, hx'⟩
    · cases hw'
    · cases hp.symm.trans (h.watched_by hr hp' hx' hw').2
      exact absurd rfl hne
  · rcases Cells.modify_eq_some.mp hx' with ⟨rfl, z, hz, rfl⟩ | ⟨-, hx'⟩
    · cases hp.symm.trans (h.opened_by hr hp' hz ho hl)
    · cases hp.symm.trans (h.opened_by hr hp' hx' ho hl)
  · rcases Cells.modify_eq_some.mp hx' with ⟨rfl, z, hz, rfl⟩ | ⟨-, hx'⟩
    · exact h.tracked w' z hz ht
    · exact h.tracked w' x' hx' ht
  · rcases hw' with hw' | hw'
    · cases hws.symm.trans hw'
    · split at hw' <;> cases hw'

/-- The websocket of the pending run becomes `_ws`. -/
theorem continued (h : Sole s) {c : RunRef} {run : Run} {w : SocketRef}
    (hr : s.runs[c]? = some run) (hp : run.progress = .opened w) : Sole (s.continued v c w) := by
  have hp' : run.progress.isPending = true := by rw [hp]; rfl
  obtain ⟨-, hws⟩ := h.unset_of_pending hr hp'
  refine h.move hr hp' rfl rfl (fun hn => absurd rfl hn) (fun w' x' hx' ho he hc => ?_)
    (fun w' x' hx' hw' => ?_) (fun w' x' hx' ho hl => ?_) (fun w' x' hx' ht => ?_) fun w' hw' => ?_
  · rcases Cells.modify_eq_some.mp hx' with ⟨rfl, z, hz, rfl⟩ | ⟨-, hx'⟩
    · exact h.unopened w' z hz ho he hc
    · exact h.unopened w' x' hx' ho he hc
  · rcases Cells.modify_eq_some.mp hx' with ⟨rfl, z, hz, rfl⟩ | ⟨-, hx'⟩
    · cases hp.symm.trans (h.watched_by hr hp' hz hw').2
    · cases hp.symm.trans (h.watched_by hr hp' hx' hw').2
  · rcases Cells.modify_eq_some.mp hx' with ⟨rfl, z, hz, rfl⟩ | ⟨-, hx'⟩
    · exact .inl rfl
    · cases hp.symm.trans (h.opened_by hr hp' hx' ho hl)
      exact .inl rfl
  · rcases Cells.modify_eq_some.mp hx' with ⟨rfl, z, hz, rfl⟩ | ⟨-, hx'⟩
    · rfl
    · cases hws.symm.trans (h.tracked w' x' hx' ht)
  · change w' < (s.sockets.modify w _).length
    rw [List.length_modify]
    rcases hw' with hw' | hw'
    · cases hw'
      exact h.made w (.inr ⟨run, List.mem_of_getElem? hr, by rw [hp]; rfl⟩)
    · cases hw'

/-- `connect`, where `_ws` is unset. -/
theorem connect (h : Sole s) (hv : v.watches = true)
    (hn : s.closed = false → s.connecting = none → s.ws = none) (queryString : String) :
    Sole (s.connect v queryString) := by
  refine connect_of h _ fun hclosed hcon => ?_
  have hws := hn hclosed hcon
  -- every run so far has been cleared
  have cleared : ∀ {c : RunRef} {run : Run}, s.runs[c]? = some run → run.cleared = true := by
    intro c run hr
    by_contra hcl
    cases hcon.symm.trans (h.uncleared c run hr (by simpa using hcl))
  have notPending : ∀ {c : RunRef} {run : Run}, s.runs[c]? = some run →
      run.progress.isPending ≠ true := by
    intro c run hr hp
    cases (cleared hr).symm.trans (h.pending c run hr hp)
  have h₁ : Sole { s with
      canConnect := true
      connecting := some s.runs.length
      runs := s.runs ++ [{ queryString, progress := .waiting 0 }] } := by
    refine ⟨h.unopened, fun w x hx hw => ?_, fun w x hx ho hl => ?_, h.tracked, fun w hw => ?_,
      fun c hc => ?_, fun c run hr hp => ?_, fun c run hr hcl => ?_, fun c run hr hc hp => hws⟩
    · obtain ⟨run, hr, hp⟩ := h.watched w x hx hw
      exact absurd (by rw [hp]; rfl) (notPending hr)
    · exact (h.opened w x hx ho hl).imp_right fun ⟨run, hmem, hp⟩ =>
        ⟨run, List.mem_append_left _ hmem, hp⟩
    · rcases hw with hw | ⟨run, hmem, hw⟩
      · exact h.made w (.inl hw)
      · rcases List.mem_append.mp hmem with hmem | hmem
        · exact h.made w (.inr ⟨run, hmem, hw⟩)
        · rw [List.mem_singleton.mp hmem] at hw
          cases hw
    · cases hc
      simp
    · rcases Cells.concat_eq_some.mp hr with hr | ⟨-, rfl⟩
      · exact absurd hp (notPending hr)
      · rfl
    · rcases Cells.concat_eq_some.mp hr with hr | ⟨rfl, -⟩
      · cases (cleared hr).symm.trans hcl
      · rfl
  exact h₁.connectingTo hv (Cells.concat_eq_some.mpr (.inr ⟨rfl, rfl⟩)) rfl _ _

theorem close (h : Sole s) : Sole s.close := close_of h (h.keep (.refl _) rfl rfl rfl)

theorem closeSocket (h : Sole s) : Sole s.closeSocket :=
  closeSocket_of h fun _ => h.keep (.closing _ _) rfl rfl rfl

theorem disconnect (h : Sole s) : Sole s.disconnect :=
  disconnect_of h (fun _ => h.keep (.refl _) rfl rfl rfl)
    (closeSocket (h.keep (.refl _) rfl rfl rfl))

theorem send (h : Sole s) (sample : α) : Sole (s.send v sample) := by
  refine send_of h sample (fun _ _ => h.keep (.refl _) rfl rfl rfl) fun _ _ w _ => ?_
  refine h.keep (.modify (fun x => ?_) _ _) rfl rfl rfl
  split <;> exact ⟨rfl, rfl, rfl, id, id, id, id⟩

theorem socketErrored (h : Sole s) {w : SocketRef} {x : WebSocket}
    (hx : s.sockets[w]? = some x) : Sole (s.socketErrored v w x) := by
  have h₁ : Sole { s with
      sockets := s.sockets.modify w fun x => { x with errored := true } } :=
    h.keep (.errored _ _) rfl rfl rfl
  rw [ObserverServiceClient.socketErrored]
  dsimp only
  split
  · next hw => exact h₁.reconnecting (Cells.modify_of_some hx) rfl hw (.inl rfl)
  · exact h₁.keep (.refl _) rfl rfl rfl

/-- `closeListener` unsets `_ws`, which is the websocket that closed. -/
theorem unset_ws (h : Sole s) {w : SocketRef} {x : WebSocket} (hx : s.sockets[w]? = some x)
    (ht : x.tracked = true) (hc : x.closed = true) : Sole { s with
      sockets := s.sockets.modify w fun x => { x with tracked := false }
      ws := none } := by
  have hws := h.tracked w x hx ht
  have hlive : ∀ {y : WebSocket}, s.sockets[w]? = some y → y.isLive ≠ true := by
    intro y hy
    cases hx.symm.trans hy
    simp [WebSocket.isLive, hc]
  constructor
  · intro w' x' hx' ho he hcl
    rcases Cells.modify_eq_some.mp hx' with ⟨rfl, z, hz, rfl⟩ | ⟨-, hx'⟩
    · exact h.unopened w' z hz ho he hcl
    · exact h.unopened w' x' hx' ho he hcl
  · intro w' x' hx' hw'
    rcases Cells.modify_eq_some.mp hx' with ⟨rfl, z, hz, rfl⟩ | ⟨-, hx'⟩
    · exact h.watched w' z hz hw'
    · exact h.watched w' x' hx' hw'
  · intro w' x' hx' ho hl
    rcases Cells.modify_eq_some.mp hx' with ⟨rfl, z, hz, rfl⟩ | ⟨hne, hx'⟩
    · exact absurd (show z.isLive = true from hl) (hlive hz)
    · refine (h.opened w' x' hx' ho hl).imp_left fun hw' => ?_
      cases hws.symm.trans hw'
      exact absurd rfl hne
  · intro w' x' hx' ht'
    rcases Cells.modify_eq_some.mp hx' with ⟨-, z, -, rfl⟩ | ⟨hne, hx'⟩
    · cases ht'
    · cases hws.symm.trans (h.tracked w' x' hx' ht')
      exact absurd rfl hne
  · intro w' hw'
    change w' < (s.sockets.modify w _).length
    rw [List.length_modify]
    exact h.made w' (hw'.imp_left fun hn => by cases hn)
  · exact h.there
  · exact h.pending
  · exact h.uncleared
  · intro c run hr hcon hp
    rfl

theorem closeListener (h : Sole s) (hv : v.watches = true) {w : SocketRef} {x y : WebSocket}
    (hy : s.sockets[w]? = some y) (ht : y.tracked = true) (hc : y.closed = true) (code : Nat) :
    Sole (s.closeListener v w x code) := by
  have h₁ := h.unset_ws hy ht hc
  rw [ObserverServiceClient.closeListener]
  dsimp only
  split
  · exact h₁
  · split
    · exact h₁.close
    · exact h₁.connect hv (fun _ _ => rfl) _

theorem socketClosed (h : Sole s) (hv : v.watches = true) {w : SocketRef} {x : WebSocket}
    (hx : s.sockets[w]? = some x) (code : Nat) : Sole (s.socketClosed v w x code) := by
  have h₁ : Sole { s with
      sockets := s.sockets.modify w fun x => { x with closed := true } } :=
    h.keep (.closed _ _) rfl rfl rfl
  have hx₁ : (s.sockets.modify w fun x => { x with closed := true })[w]? =
      some { x with closed := true } := Cells.modify_of_some hx
  cases ht : x.tracked <;> cases hw : x.watched <;>
    simp only [ObserverServiceClient.socketClosed, ht, hw, Bool.false_eq_true, if_false, if_true]
  · exact h₁
  · exact h₁.reconnecting hx₁ rfl hw (.inr rfl)
  · exact h₁.closeListener hv hx₁ ht rfl code
  · have h₂ := h₁.reconnecting (v := v) (x := x) hx₁ rfl hw (.inr rfl)
    exact h₂.closeListener hv (Cells.modify_of_some hx₁) ht rfl code

/-- The promise of a run is unset when it has settled. -/
theorem settled (h : Sole s) {c : RunRef} {run : Run} (hr : s.runs[c]? = some run)
    (hcl : run.cleared = false) (hp : run.progress.isPending = false) : Sole { s with
      connecting := none
      runs := s.runs.modify c fun run => { run with cleared := true } } := by
  have hc := h.uncleared c run hr hcl
  have only : ∀ {c' : RunRef} {run' : Run}, s.runs[c']? = some run' → run'.cleared = false →
      c' = c := by
    intro c' run' hr' hcl'
    cases hc.symm.trans (h.uncleared c' run' hr' hcl')
    rfl
  constructor
  · exact h.unopened
  · intro w x hx hw
    obtain ⟨run', hr', hp'⟩ := h.watched w x hx hw
    refine ⟨run', Cells.modify_eq_some.mpr (.inr ⟨?_, hr'⟩), hp'⟩
    intro e
    rw [e] at hr'
    cases hr.symm.trans hr'
    rw [hp'] at hp
    cases hp
  · intro w x hx ho hl
    refine (h.opened w x hx ho hl).imp_right fun hex => ?_
    refine Cells.exists_modify (P := fun run : Run => run.progress = .opened w) (fun _ hp => ?_)
      hex c
    exact hp
  · exact h.tracked
  · intro w hw
    refine h.made w (hw.imp_right ?_)
    rintro ⟨run', hmem, hw'⟩
    rcases Cells.mem_modify hmem with hmem | ⟨run₁, hmem₁, rfl⟩
    · exact ⟨run', hmem, hw'⟩
    · exact ⟨run₁, hmem₁, hw'⟩
  · intro c' hc'
    cases hc'
  · intro c' run' hr' hp'
    rcases Cells.modify_eq_some.mp hr' with ⟨rfl, z, hz, rfl⟩ | ⟨-, hr'⟩
    · cases hr.symm.trans hz
      cases hp.symm.trans hp'
    · exact h.pending c' run' hr' hp'
  · intro c' run' hr' hcl'
    rcases Cells.modify_eq_some.mp hr' with ⟨-, z, -, rfl⟩ | ⟨hne, hr'⟩
    · cases hcl'
    · exact absurd (only hr' hcl') hne
  · intro c' run' hr' hc' hp'
    cases hc'

/-- A websocket opens when it is watched. -/
theorem opened_step (h : Sole s) {w : SocketRef} (he : s.step v (.opened w) = some s') :
    ∃ x, s.sockets[w]? = some x ∧ x.watched = true ∧ s' = s.done w x := by
  unfold ObserverServiceClient.step at he
  split at he
  · cases he
  · dsimp only at he
    split at he
    · next x hx =>
      split at he <;> cases he
      next hg =>
      simp only [Bool.or_eq_true, not_or, Bool.not_eq_true] at hg
      exact ⟨x, hx, h.unopened w x hx hg.1.1.1 hg.1.1.2 hg.1.2, rfl⟩
    · cases he

end Sole

/-- A promise is unset once. -/
theorem settled_step {c : RunRef} (he : s.step v (.settled c) = some s') :
    ∃ run, s.runs[c]? = some run ∧ run.cleared = false ∧ run.progress.isPending = false ∧
      s' = { s with
        connecting := none
        runs := s.runs.modify c fun run => { run with cleared := true } } := by
  unfold ObserverServiceClient.step at he
  split at he
  · cases he
  · dsimp only at he
    split at he
    · next queryString progress cleared hr =>
      split at he <;> cases he
      next hg =>
      simp only [Bool.and_eq_true, Bool.not_eq_true'] at hg
      refine ⟨_, hr, hg.2, ?_, rfl⟩
      have ho := hg.1.2
      simp only [outcome, hr] at ho
      cases progress with
      | fulfilled | rejected => rfl
      | trying | waiting | opened => cases ho
    · cases he

namespace Sole

theorem step (h : Sole s) (hv : v.watches = true) (ha : s.connectsAlone e = true)
    (he : s.step v e = some s') : Sole s' := by
  cases (step_turn he).2 with
  | connect =>
      refine h.connect hv (fun hc hn => ?_) _
      simpa [connectsAlone, hc, hn] using ha
  | disconnect => exact h.disconnect
  | close => exact h.close
  | send => exact h.send _
  | opened =>
      obtain ⟨x, hx, hw, e⟩ := h.opened_step he
      exact e ▸ h.done hx hw
  | errored hx => exact h.socketErrored hx
  | closed hx => exact h.socketClosed hv hx _
  | timeout hr hp => exact h.connectingTo hv hr hp _ _
  | continued hr hp => exact h.continued hr hp
  | settled =>
      obtain ⟨run, hr, hcl, hp, e⟩ := settled_step he
      exact e ▸ h.settled hr hcl hp
  | @resumed n call =>
      have h₁ : Sole (s.resume call) := by
        cases call with
        | disconnect => exact closeSocket (h.keep (.refl _) rfl rfl rfl)
        | close => exact h.closeSocket
      exact h₁.keep (.refl _) rfl rfl rfl
  | rejected => exact h.keep (.refl _) rfl rfl rfl

end Sole

/-! ### After `close` -/

/-- The continuation of `close` waits for `o`: if a run is pending, for its promise. -/
structure Ending (s : ObserverServiceClient δ) (o : Option RunRef) : Prop where
  call : ∃ n : Nat, s.calls[n]? = some (some (.close o))
  pending : ∀ (c : RunRef) run, s.runs[c]? = some run → run.progress.isPending = true → o = some c
  run : ∀ c, o = some c → ∃ run, s.runs[c]? = some run ∧ (run.progress ≠ .fulfilled → s.ws = none)

/-- Nothing is open, and nothing will be. -/
structure Quiet (s : ObserverServiceClient δ) : Prop where
  runs : ∀ (c : RunRef) run, s.runs[c]? = some run → run.progress.isPending = false
  live : ∀ w, ¬s.IsLive w

/-- A call that goes on closes `_ws`, if it is there. -/
theorem resume_frame (s : ObserverServiceClient δ) (call : Call) :
    Tamed s.sockets (s.resume call).sockets ∧ (s.resume call).closed = s.closed ∧
      (s.resume call).runs = s.runs ∧ (s.resume call).ws = s.ws := by
  have h : ∀ t : ObserverServiceClient δ, Tamed t.sockets t.closeSocket.sockets ∧
      t.closeSocket.closed = t.closed ∧ t.closeSocket.runs = t.runs ∧
      t.closeSocket.ws = t.ws := by
    intro t
    rw [closeSocket]
    split
    · exact ⟨.closing _ _, rfl, rfl, rfl⟩
    · exact ⟨.refl _, rfl, rfl, rfl⟩
  cases call with
  | disconnect => exact h { s with canConnect := false }
  | close => exact h s

def Ended (s : ObserverServiceClient δ) : Prop := s.closed = true → (∃ o, s.Ending o) ∨ s.Quiet

namespace Ended

theorem keep (h : Ended s) (hclosed : s'.closed = s.closed) (hcalls : s'.calls = s.calls)
    (hlen : s'.runs.length = s.runs.length)
    (hruns : ∀ (c : RunRef) run', s'.runs[c]? = some run' → ∃ run, s.runs[c]? = some run ∧
      (run'.progress.isPending = true → run.progress.isPending = true) ∧
      (run'.progress ≠ .fulfilled → run.progress ≠ .fulfilled))
    (hws : s.ws = none → s'.ws = none) (hlive : s.Quiet → ∀ w, s'.IsLive w → s.IsLive w) :
    Ended s' := by
  intro hc
  rcases h (hclosed ▸ hc) with ⟨o, h⟩ | h
  · refine .inl ⟨o, hcalls ▸ h.call, fun c run' hr' hp' => ?_, fun c ho => ?_⟩
    · obtain ⟨run, hr, hp, -⟩ := hruns c run' hr'
      exact h.pending c run hr (hp hp')
    · obtain ⟨run, hr, hn⟩ := h.run c ho
      obtain ⟨run', hr'⟩ : ∃ run', s'.runs[c]? = some run' :=
        ⟨_, List.getElem?_eq_getElem (hlen ▸ Cells.lt_of_some hr)⟩
      obtain ⟨run₁, hr₁, -, hf⟩ := hruns c run' hr'
      cases hr.symm.trans hr₁
      exact ⟨run', hr', fun hp' => hws (hn (hf hp'))⟩
  · refine .inr ⟨fun c run' hr' => ?_, fun w hl => h.live w (hlive h w hl)⟩
    obtain ⟨run, hr, hp, -⟩ := hruns c run' hr'
    by_contra hp'
    cases (h.runs c run hr).symm.trans (hp (by simpa using hp'))

/-- Only the websockets have changed, and none has come to life. -/
theorem tame (h : Ended s) (hs : Tamed s.sockets s'.sockets) (hclosed : s'.closed = s.closed)
    (hcalls : s'.calls = s.calls) (hruns : s'.runs = s.runs) (hws : s.ws = none → s'.ws = none) :
    Ended s' := by
  refine h.keep hclosed hcalls (by rw [hruns]) (fun c run' hr' => ?_) hws fun _ w hl => ?_
  · exact ⟨run', hruns ▸ hr', id, id⟩
  · obtain ⟨x', hx', hl⟩ := hl
    obtain ⟨x, hx, t⟩ := hs.2 w x' hx'
    exact ⟨x, hx, t.live hl⟩

/-- The pending run moves on, and stays pending or fails. -/
theorem move (h : Ended s) {c : RunRef} {run : Run} {p : Progress} (hr : s.runs[c]? = some run)
    (hp : run.progress.isPending = true) (hclosed : s'.closed = s.closed)
    (hcalls : s'.calls = s.calls)
    (hruns : s'.runs = s.runs.modify c fun run => { run with progress := p })
    (hws : s'.ws = s.ws) : Ended s' := by
  refine h.keep hclosed hcalls (by rw [hruns, List.length_modify]) (fun c' run' hr' => ?_)
    (fun hw => hws.trans hw) fun hq => ?_
  · rw [hruns] at hr'
    rcases Cells.modify_eq_some.mp hr' with ⟨rfl, y, hy, rfl⟩ | ⟨-, hr'⟩
    · cases hr.symm.trans hy
      refine ⟨run, hr, fun _ => hp, fun _ e => ?_⟩
      rw [e] at hp
      cases hp
    · exact ⟨run', hr', id, id⟩
  · cases (hq.runs c run hr).symm.trans hp

theorem close (hs : Sole s) (h : Ended s) : Ended s.close := by
  refine close_of h fun _ => .inl ⟨s.connecting, ⟨s.calls.length, List.getElem?_concat_length⟩,
    fun c run hr hp => (hs.unset_of_pending hr hp).1, fun c hc => ?_⟩
  obtain ⟨run, hr⟩ : ∃ run, s.runs[c]? = some run :=
    ⟨_, List.getElem?_eq_getElem (hs.there c hc)⟩
  exact ⟨run, hr, hs.unset c run hr hc⟩

theorem socketErrored (hs : Sole s) (h : Ended s) {w : SocketRef} {x : WebSocket}
    (hx : s.sockets[w]? = some x) : Ended (s.socketErrored v w x) := by
  have h₁ : Ended { s with
      sockets := s.sockets.modify w fun x => { x with errored := true } } :=
    h.tame (.errored _ _) rfl rfl rfl id
  rw [ObserverServiceClient.socketErrored]
  dsimp only
  split
  · next hw =>
    obtain ⟨run, hr, hp⟩ := hs.watched w x hx hw
    exact h₁.move hr (by rw [hp]; rfl) rfl rfl rfl rfl
  · exact h₁.tame (.refl _) rfl rfl rfl id

theorem closeListener (hs : Sole s) (h : Ended s) {w : SocketRef} {x y : WebSocket}
    (hy : s.sockets[w]? = some y) (ht : y.tracked = true) (hc : y.closed = true) (code : Nat) :
    Ended (s.closeListener v w x code) := by
  have h₁ : Ended { s with
      sockets := s.sockets.modify w fun x => { x with tracked := false }
      ws := none } := by
    refine h.tame (.modify (fun z => ?_) _ _) rfl rfl rfl fun _ => rfl
    exact ⟨rfl, rfl, rfl, by simp, id, id, id⟩
  rw [ObserverServiceClient.closeListener]
  dsimp only
  split
  · exact h₁
  · split
    · exact close (hs.unset_ws hy ht hc) h₁
    · refine connect_of h₁ _ fun hclosed _ hc' => ?_
      cases hclosed.symm.trans hc'

theorem socketClosed (hs : Sole s) (h : Ended s) {w : SocketRef} {x : WebSocket}
    (hx : s.sockets[w]? = some x) (code : Nat) : Ended (s.socketClosed v w x code) := by
  have hs₁ : Sole { s with
      sockets := s.sockets.modify w fun x => { x with closed := true } } :=
    hs.keep (.closed _ _) rfl rfl rfl
  have h₁ : Ended { s with
      sockets := s.sockets.modify w fun x => { x with closed := true } } :=
    h.tame (.closed _ _) rfl rfl rfl id
  have hx₁ : (s.sockets.modify w fun x => { x with closed := true })[w]? =
      some { x with closed := true } := Cells.modify_of_some hx
  have reconnected : x.watched = true → Ended (reconnecting v { s with
      sockets := s.sockets.modify w fun x => { x with closed := true } } w x) := by
    intro hw
    obtain ⟨run, hr, hp⟩ := hs.watched w x hx hw
    exact h₁.move hr (by rw [hp]; rfl) rfl rfl rfl rfl
  cases ht : x.tracked <;> cases hw : x.watched <;>
    simp only [ObserverServiceClient.socketClosed, ht, hw, Bool.false_eq_true, if_false, if_true]
  · exact h₁
  · exact reconnected hw
  · exact closeListener hs₁ h₁ hx₁ ht rfl code
  · exact closeListener (hs₁.reconnecting hx₁ rfl hw (.inr rfl)) (reconnected hw)
      (Cells.modify_of_some hx₁) ht rfl code

/-- The run that `close` waits for has fulfilled. -/
theorem continued (h : Ended s) {c : RunRef} {run : Run} {w : SocketRef}
    (hr : s.runs[c]? = some run) (hp : run.progress = .opened w) : Ended (s.continued v c w) := by
  have hp' : run.progress.isPending = true := by rw [hp]; rfl
  intro hc
  rcases h hc with ⟨o, h⟩ | h
  · obtain rfl := h.pending c run hr hp'
    refine .inl ⟨some c, h.call, fun c' run' hr' hpend => ?_, fun c' e => ?_⟩
    · rcases Cells.modify_eq_some.mp hr' with ⟨rfl, -⟩ | ⟨-, hr'⟩
      · rfl
      · exact h.pending c' run' hr' hpend
    · cases e
      exact ⟨_, Cells.modify_of_some hr, fun hn => absurd rfl hn⟩
  · cases (h.runs c run hr).symm.trans hp'

/-- The continuation of `close` closes what there is. -/
theorem quiet (hs : Sole s) {o : Option RunRef} (h : s.Ending o)
    (ha : s.awaited (.close o) = some true) : s.closeSocket.Quiet := by
  have hruns : ∀ (c : RunRef) run, s.runs[c]? = some run → run.progress.isPending = false := by
    intro c run hr
    by_contra hp
    obtain rfl := h.pending c run hr (by simpa using hp)
    simp only [awaited, outcome] at ha
    cases hprog : run.progress with
    | fulfilled | rejected => simp [hprog, Progress.isPending] at hp
    | trying | waiting | opened =>
        obtain ⟨queryString, progress, cleared⟩ := run
        cases hprog
        simp [hr] at ha
  have hold : ∀ {w}, s.IsLive w → s.ws = some w := by
    intro w hl
    rcases hs.holder hl with hw | ⟨c, run, hr, hw⟩
    · exact hw
    · cases (hruns c run hr).symm.trans (Progress.isPending_of_socket hw)
  rw [ObserverServiceClient.closeSocket]
  split
  · next w hw =>
    refine ⟨hruns, ?_⟩
    rintro w' ⟨x', hx', hl⟩
    rcases Cells.modify_eq_some.mp hx' with ⟨-, x, -, rfl⟩ | ⟨hne, hx'⟩
    · simp [WebSocket.isLive] at hl
    · cases hw.symm.trans (hold ⟨x', hx', hl⟩)
      exact hne rfl
  · next hn =>
    refine ⟨hruns, fun w hl => ?_⟩
    cases hn.symm.trans (hold hl)

/-- A call on a closed client does nothing. -/
theorem same (h : Ended s) (hc : s'.closed = s.closed) (hs : s.closed = true → s' = s) :
    Ended s' := by
  intro hc'
  obtain rfl := hs (hc ▸ hc')
  exact h hc'

/-- A call that waits for a promise goes on, and waits no longer. -/
theorem resume (h : Ended s) {n : Nat} {call : Call} {t : ObserverServiceClient δ}
    (hn : s.calls[n]? = some (some call)) (hs : Tamed s.sockets t.sockets)
    (hclosed : t.closed = s.closed) (hruns : t.runs = s.runs) (hws : t.ws = s.ws) (hquiet : ∀ o,
      call = .close o → s.Ending o → t.Quiet) : Ended { t with calls := s.calls.set n none } := by
  intro hc
  rcases h (hclosed ▸ hc) with ⟨o, ho⟩ | hq
  · obtain ⟨m, hm⟩ := ho.call
    by_cases e : m = n
    · subst e
      cases hn.symm.trans hm
      have hq := hquiet o rfl ho
      exact .inr ⟨hq.runs, hq.live⟩
    · refine .inl ⟨o, ⟨m, ?_⟩, fun c run hr => ho.pending c run (hruns ▸ hr), fun c hco => ?_⟩
      · exact Cells.set_eq_some.mpr (.inr ⟨e, hm⟩)
      · obtain ⟨run, hr, hu⟩ := ho.run c hco
        exact ⟨run, hruns ▸ hr, fun hp => hws.trans (hu hp)⟩
  · refine .inr ⟨fun c run hr => hq.runs c run (hruns ▸ hr), ?_⟩
    rintro w ⟨x', hx', hl⟩
    obtain ⟨x, hx, t⟩ := hs.2 w x' hx'
    exact hq.live w ⟨x, hx, t.live hl⟩

/-- A `close` whose run was rejected has nothing to close. -/
theorem quiet_of_rejected (hs : Sole s) {o : Option RunRef} (h : s.Ending o)
    (ha : s.awaited (.close o) = some false) : s.Quiet := by
  cases o with
  | none => cases ha
  | some c =>
      obtain ⟨⟨queryString, progress, cleared⟩, hr, hu⟩ := h.run c rfl
      simp only [awaited, outcome, hr] at ha
      cases progress with
      | trying | waiting | opened | fulfilled => cases ha
      | rejected =>
          have hruns : ∀ (c' : RunRef) run, s.runs[c']? = some run →
              run.progress.isPending = false := by
            intro c' run' hr'
            by_contra hp
            cases h.pending c' run' hr' (by simpa using hp)
            cases hr.symm.trans hr'
            exact hp rfl
          refine ⟨hruns, fun w hl => ?_⟩
          rcases hs.holder hl with hw | ⟨c', run', hr', hw⟩
          · cases (hu (by simp)).symm.trans hw
          · cases (hruns c' run' hr').symm.trans (Progress.isPending_of_socket hw)

theorem step (hs : Sole s) (h : Ended s) (he : s.step v e = some s') : Ended s' := by
  cases (step_turn he).2 with
  | connect =>
      refine connect_of h _ fun hclosed _ hc' => ?_
      cases hclosed.symm.trans hc'
  | disconnect =>
      refine h.same ?_ fun hc => by simp [ObserverServiceClient.disconnect, hc]
      refine disconnect_of (P := fun t => t.closed = s.closed) rfl (fun _ => rfl) ?_
      exact closeSocket_of (P := fun t => t.closed = s.closed) rfl fun _ => rfl
  | close => exact close hs h
  | send =>
      refine h.same ?_ fun hc => by simp [ObserverServiceClient.send, hc]
      exact send_of (P := fun t => t.closed = s.closed) rfl _ (fun _ _ => rfl) fun _ _ _ _ => rfl
  | opened =>
      obtain ⟨x, hx, hw, e⟩ := hs.opened_step he
      obtain ⟨run, hr, hp⟩ := hs.watched _ x hx hw
      rw [e]
      exact h.move hr (by rw [hp]; rfl) rfl rfl rfl rfl
  | errored hx => exact socketErrored hs h hx
  | closed hx => exact socketClosed hs h hx _
  | timeout hr hp => exact h.move hr (by rw [hp]; rfl) rfl rfl rfl rfl
  | continued hr hp => exact h.continued hr hp
  | settled =>
      refine h.keep rfl rfl (List.length_modify ..) (fun c run' hr' => ?_) id fun _ _ hl => hl
      rcases Cells.modify_eq_some.mp hr' with ⟨rfl, run, hr, rfl⟩ | ⟨-, hr⟩
      · exact ⟨run, hr, id, id⟩
      · exact ⟨run', hr, id, id⟩
  | @resumed n call hn ha =>
      obtain ⟨hs', hclosed, hruns, hws⟩ := resume_frame s call
      refine h.resume hn hs' hclosed hruns hws fun o e ho => ?_
      subst e
      exact quiet hs ho ha
  | @rejected n call hn ha =>
      refine h.resume hn (.refl _) rfl rfl rfl fun o e ho => ?_
      subst e
      exact quiet_of_rejected hs ho ha

end Ended

/-! ### Runs -/

theorem oneLive_of_sole (h : Sole s) (hc : Ended s) : OneLive v s := by
  refine ⟨fun _ _ => h.one, fun _ _ => h.current, fun hclosed hpending hdue => ?_⟩
  rcases hc hclosed with ⟨o, ho⟩ | hq
  · -- the continuation of `close` is due
    obtain ⟨n, hn⟩ := ho.call
    have ha : (s.awaited (.close o)).isSome = true := by
      cases o with
      | none => rfl
      | some c =>
          obtain ⟨⟨queryString, progress, cleared⟩, hr, -⟩ := ho.run c rfl
          have hp := hpending _ (List.mem_of_getElem? hr)
          simp only [awaited, outcome, hr]
          cases progress with
          | fulfilled | rejected => rfl
          | trying | waiting | opened => cases hp
    have hd : s.due v = true := by
      refine Bool.or_eq_true_iff.mpr (.inr (List.any_eq_true.mpr ⟨_, List.mem_of_getElem? hn, ?_⟩))
      simpa using ha
    cases hd.symm.trans hdue
  · exact hq.live

theorem sole_new (v : Variant δ α) (wsAddress : String) (reconnect : Bool) :
    Sole (.new v wsAddress reconnect) := by
  constructor <;> simp [new]

/-- A second connection is no longer one. -/
theorem not_oneLive_connect (h : Sole s) (ha : s.connectsAlone e = false)
    (he : s.step v e = some s') : ¬OneLive v s' := by
  cases (step_turn he).2 with
  | @connect queryString =>
      simp only [connectsAlone, Bool.or_eq_false_iff, Option.isSome_eq_false_iff,
        Option.isNone_iff_eq_none, Option.isNone_eq_false_iff] at ha
      obtain ⟨⟨hclosed, hcon⟩, hws⟩ := ha
      obtain ⟨w, hw⟩ := Option.isSome_iff_exists.mp hws
      intro hone
      have hs : s.connect v queryString = connectingTo v
          { s with
            canConnect := true
            connecting := some s.runs.length
            runs := s.runs ++ [{ queryString, progress := .waiting 0 }] }
          s.runs.length queryString 0 := by
        simp [connect, hclosed, hcon]
      have hlive : (s.connect v queryString).IsLive s.sockets.length := by
        rw [hs]
        exact ⟨_, List.getElem?_concat_length, rfl⟩
      have hws' : (s.connect v queryString).ws = some w := by
        rw [hs]
        exact hw
      have := hone.current w _ hws' hlive
      exact absurd (h.made w (.inl hw)) (this ▸ Nat.lt_irrefl _)
  | _ => cases ha

/-- **One live connection**, in every run of the web app's client: at every moment at most one
websocket is connecting or open, no other than `_ws` if that is set, and none is left after
`close`, if and only if `connect` was never called with `_ws` set. -/
theorem one_connection_iff {newEncoder : δ} {encodeToBase64 : δ → α → δ × String}
    {wsAddress : String} {reconnect : Bool} {es : List (Event α)}
    (hx : exec (step (webappClient newEncoder encodeToBase64))
      (.new (webappClient newEncoder encodeToBase64) wsAddress reconnect) es = some s) :
    Throughout (step (webappClient newEncoder encodeToBase64))
        (fun _ => OneLive (webappClient newEncoder encodeToBase64))
        (.new (webappClient newEncoder encodeToBase64) wsAddress reconnect) es ↔
      Along (step (webappClient newEncoder encodeToBase64)) (fun s e => s.connectsAlone e = true)
        (.new (webappClient newEncoder encodeToBase64) wsAddress reconnect) es := by
  refine throughout_iff_along (I := fun _ s => Sole s ∧ Ended s) ⟨sole_new _ _ _, ?_⟩
    (fun _ _ h => oneLive_of_sole h.1 h.2) (fun _ s e s' _ h he ha => ?_)
    (fun _ s e s' _ h he ha => ?_) hx
  · intro hc
    cases hc
  · exact ⟨h.1.step rfl ha he, h.2.step h.1 he⟩
  · exact not_oneLive_connect h.1 (by simpa using ha) he

/-- The client connects, loses its connection, connects again, is disconnected and closed. -/
def connectsInTurn : List (Event String) :=
  [.connect "q", .connect "q", .opened 0, .continued 0, .settled 0, .closed 0 1006, .opened 1,
    .continued 1, .settled 1, .disconnect, .closed 1 1000, .connect "q", .close, .opened 2,
    .continued 2, .settled 2, .resumed 0]

theorem one_connection_iff_inTurn :
    ∃ s, exec (step (webappClient () Prod.mk)) (.new (webappClient () Prod.mk) "a" true)
        connectsInTurn = some s ∧
      s.sockets.map WebSocket.isLive = [false, false, false] ∧ s.closed = true ∧
      Throughout (step (webappClient () Prod.mk)) (fun _ => OneLive (webappClient () Prod.mk))
        (.new (webappClient () Prod.mk) "a" true) connectsInTurn := by
  have hx : exec (step (webappClient () Prod.mk)) (.new (webappClient () Prod.mk) "a" true)
    connectsInTurn = some _ := rfl
  exact ⟨_, hx, by decide, rfl, (one_connection_iff hx).mpr (by decide)⟩

/-- The client connects. -/
def connectsOnce : List (Event String) := [.connect "q", .opened 0, .continued 0, .settled 0]

/-- **Two connections.**  A client that is connected connects again; and one that was disconnected
connects before its websocket has closed, which then unsets `_ws` and connects once more. -/
theorem two_connections :
    (∃ s, exec (step (webappClient () Prod.mk)) (.new (webappClient () Prod.mk) "a" true)
        (connectsOnce ++ [.connect "q"]) = some s ∧
      s.sockets.map WebSocket.isLive = [true, true] ∧ ¬OneLive (webappClient () Prod.mk) s) ∧
    ∃ s, exec (step (webappClient () Prod.mk)) (.new (webappClient () Prod.mk) "a" true)
        (connectsOnce ++ [.disconnect, .connect "q", .opened 1, .continued 1, .settled 1,
          .closed 0 1000]) = some s ∧
      s.sockets.map WebSocket.isLive = [false, true, true] ∧ s.ws = none ∧
      ¬OneLive (webappClient () Prod.mk) s := by
  refine ⟨⟨_, rfl, rfl, fun h => ?_⟩, _, rfl, rfl, rfl, fun h => ?_⟩
  · exact absurd (h.one 0 1 ⟨_, rfl, rfl⟩ ⟨_, rfl, rfl⟩) (by decide)
  · exact absurd (h.one 1 2 ⟨_, rfl, rfl⟩ ⟨_, rfl, rfl⟩) (by decide)

end ObserverServiceClient

end DemoApp.Samples
