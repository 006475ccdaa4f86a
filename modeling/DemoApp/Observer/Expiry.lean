import DemoApp.Observer.Store

/-!
# Observer — Expiry

When a client is given up.  The `close` listener of a websocket disconnects its client id,
whichever websocket the client has by then:

* `live_client_expires`: the old websocket of a client closes after the client connected again,
  the next `check` removes the client and closes its source, and a sample that arrives on the
  open websocket is handed to the closed source.
* `live_kept`: as long as every websocket closes as the only open one of its client id, a client
  whose latest websocket is open is neither disconnected nor removed, and no sample is handed to
  a closed source.  This is about every kind of source, so about the clients and the SFUs.
-/

namespace DemoApp.Observer.Sources
open Machine

variable {ι δ σ : Type} {kind : Kind ι δ σ}

/-- The client id that the websocket was accepted under. -/
def clientOf (s : Sources ι δ σ) (w : SocketRef) : Option QueryValue :=
  (s.sockets[w]?.bind Socket.observed).bind fun o => s.observed[o]?.map Observed.id

theorem clientOf_none {s : Sources ι δ σ} {w : SocketRef} (h : s.sockets.length ≤ w) :
    s.clientOf w = none := by
  simp [clientOf, List.getElem?_eq_none h]

theorem clientOf_eq_some {s : Sources ι δ σ} {w : SocketRef} {id : QueryValue} :
    s.clientOf w = some id ↔ ∃ so o x, s.sockets[w]? = some so ∧ so.observed = some o ∧
      s.observed[o]? = some x ∧ x.id = id := by
  simp only [clientOf, Option.bind_eq_some_iff, Option.map_eq_some_iff]
  constructor
  · rintro ⟨o, ⟨so, hw, ho⟩, x, hx, hid⟩
    exact ⟨so, o, x, hw, ho, hx, hid⟩
  · rintro ⟨so, o, x, hw, ho, hx, hid⟩
    exact ⟨o, ⟨so, hw, ho⟩, x, hx, hid⟩

def isOpen (s : Sources ι δ σ) (w : SocketRef) : Bool := s.sockets[w]?.any fun so => !so.closed

/-- The client is stored, not disconnected, and its source is open. -/
def Kept (s : Sources ι δ σ) (id : QueryValue) : Prop :=
  ∃ o x source, s.entries.get id = some o ∧ s.observed[o]? = some x ∧ x.disconnected = none ∧
    s.sources[x.source]? = some source ∧ source.closed = false

/-- Every client whose latest websocket is open is kept. -/
def LiveKept (s : Sources ι δ σ) : Prop :=
  ∀ w id, s.clientOf w = some id → s.isOpen w = true → (∀ w' > w, s.clientOf w' ≠ some id) →
    s.Kept id

/-- No sample was handed to a closed source. -/
def NoneLate (s : Sources ι δ σ) : Prop := ∀ source ∈ s.sources, source.late = []

/-- A websocket closes only as the one open websocket of its client id. -/
def closesAlone (s : Sources ι δ σ) : Event → Bool
  | .socketClosed w =>
      match s.clientOf w with
      | none    => true
      | some id =>
          (List.range s.sockets.length).all fun w' =>
            w' == w || !s.isOpen w' || s.clientOf w' != some id
  | _ => true

theorem isOpen_iff {s : Sources ι δ σ} {w : SocketRef} :
    s.isOpen w = true ↔ ∃ so, s.sockets[w]? = some so ∧ so.closed = false := by
  simp [isOpen, Option.any_eq_true]

theorem closesAlone_iff {s : Sources ι δ σ} {w : SocketRef} :
    s.closesAlone (.socketClosed w) = true ↔ ∀ id, s.clientOf w = some id →
      ∀ w', w' ≠ w → s.isOpen w' = true → s.clientOf w' ≠ some id := by
  cases hw : s.clientOf w with
  | none => simp [closesAlone, hw]
  | some id =>
      simp only [closesAlone, hw, List.all_eq_true, List.mem_range, Bool.or_eq_true, beq_iff_eq,
        Bool.not_eq_true', bne_iff_ne, Option.some.injEq, forall_eq']
      constructor
      · intro h w' hne hopen hid
        obtain ⟨so, hso, -⟩ := isOpen_iff.mp hopen
        rcases h w' (Cells.lt_of_some hso) with (e | hc) | hn
        · exact hne e
        · cases hc.symm.trans hopen
        · exact hn hid
      · intro h w' _
        by_cases e : w' = w
        · exact .inl (.inl e)
        · by_cases hopen : s.isOpen w' = true
          · exact .inr (h w' e hopen)
          · exact .inl (.inr (by simpa using hopen))

/-! ### The invariant -/

structure Alive (s : Sources ι δ σ) : Prop where
  entry : ∀ {id o}, s.entries.get id = some o → ∃ x source, s.observed[o]? = some x ∧ x.id = id ∧
    s.sources[x.source]? = some source ∧ source.closed = false
  live : ∀ {w : Nat} {so o}, s.sockets[w]? = some so → so.closed = false → so.observed = some o →
    ∃ x, s.observed[o]? = some x ∧ s.entries.get x.id = some o ∧ x.disconnected = none
  own : ∀ {o o' : Nat} {x x'}, s.observed[o]? = some x → s.observed[o']? = some x' →
    x.source = x'.source → o = o'
  made : ∀ {o : Nat} {x}, s.observed[o]? = some x → x.source < s.sources.length
  late : ∀ {n : Nat} {source}, s.sources[n]? = some source → source.late = []

/-- The clients of open websockets are stored and connected. -/
def Connected (s : Sources ι δ σ) : Prop :=
  ∀ (w : Nat) so o, s.sockets[w]? = some so → so.closed = false → so.observed = some o →
    ∃ x, s.observed[o]? = some x ∧ s.entries.get x.id = some o ∧ x.disconnected = none

variable {s s' : Sources ι δ σ}

theorem alive_of_stored (hs : s.Stored) (hc : s.Connected)
    (hlate : ∀ {n : Nat} {source}, s.sources[n]? = some source → source.late = []) : s.Alive where
  entry := fun ho => by
    obtain ⟨x, hx, hid⟩ := hs.entry ho
    obtain ⟨source, hsource, hopen⟩ := hs.opened ho
    exact ⟨x, source, hx, hid, by rw [hs.source hx]; exact hsource, hopen⟩
  live := fun hw ho hso => hc _ _ _ hw ho hso
  own := fun hx hx' e => (hs.source hx).symm.trans (e.trans (hs.source hx'))
  made := fun hx => by
    rw [hs.source hx, ← hs.paired]
    exact Cells.lt_of_some hx
  late := hlate

namespace Connected

/-- A new websocket of a stored client: the client is connected again. -/
theorem setup (h : s.Connected) {o : ObservedRef} {x : Observed δ} (hx : s.observed[o]? = some x)
    (ho : s.entries.get x.id = some o) : (s.setup o).Connected := by
  intro w so q hw hopen hso
  have self : ∃ y, (s.setup o).observed[o]? = some y ∧ s.entries.get y.id = some o ∧
      y.disconnected = none := ⟨_, Cells.modify_of_some hx, ho, rfl⟩
  rcases Cells.concat_eq_some.mp hw with hw | ⟨-, rfl⟩
  · by_cases e : q = o
    · subst e; exact self
    · obtain ⟨y, hy, hget, hd⟩ := h w so q hw hopen hso
      exact ⟨y, Cells.modify_eq_some.mpr (.inr ⟨e, hy⟩), hget, hd⟩
  · cases hso
    exact self

theorem create (h : s.Connected) {id : QueryValue} (hn : s.entries.get id = none) (info : ι) :
    (s.create kind id info).Connected := by
  intro w so o hw hopen hso
  obtain ⟨x, hx, hget, hd⟩ := h w so o hw hopen hso
  refine ⟨x, Cells.append_of_some hx, (LiveMap.get_set_of_ne fun e => ?_).trans hget, hd⟩
  rw [e, hn] at hget
  cases hget

/-- A websocket is marked as closed. -/
theorem closeSocket (h : s.Connected) {w : Nat} {so : Socket} (hc : so.closed = true) :
    Connected { s with sockets := s.sockets.set w so } := by
  intro w' so' o hw hopen hso
  rcases Cells.set_eq_some.mp hw with ⟨-, -, rfl⟩ | ⟨-, hw⟩
  · cases hc.symm.trans hopen
  · exact h w' so' o hw hopen hso

/-- A client without an open websocket is disconnected. -/
theorem disconnect (hs : s.Stored) (h : s.Connected) {id : QueryValue}
    (hid : ∀ (w : Nat) so o x, s.sockets[w]? = some so → so.closed = false →
      so.observed = some o → s.observed[o]? = some x → x.id ≠ id) :
    (s.disconnect kind id).Connected := by
  intro w so o hw hopen hso
  unfold Sources.disconnect at hw ⊢
  cases hget : s.entries.get id with
  | none =>
      rw [hget] at hw
      exact h w so o hw hopen hso
  | some q =>
      rw [hget] at hw
      obtain ⟨x, hx, ho, hd⟩ := h w so o hw hopen hso
      have e : o ≠ q := by
        rintro rfl
        exact hid w so o x hw hopen hso hx (hs.inj ho hget)
      exact ⟨x, Cells.modify_eq_some.mpr (.inr ⟨e, hx⟩), ho, hd⟩

/-- `check` keeps whoever is connected. -/
theorem check (hs : s.Stored) (h : s.Connected) : s.check.Connected := by
  obtain ⟨c, ⟨entries, e, hentries⟩, hc⟩ := check_spec hs
  rw [e]
  intro w so o hw hopen hso
  obtain ⟨x, hx, hget, hd⟩ := h w so o hw hopen hso
  refine ⟨x, hx, (hentries x.id).trans ?_, hd⟩
  have ho : c o = false := by
    by_contra hn
    have hover := ((hc o).mp (by simpa using hn)).2
    simp [overdue, expired, hx, hd] at hover
  simp [hget, ho]

theorem step {e : Event} (hs : s.Stored) (h : s.Connected) (hG : s.closesAlone e = true)
    (hc : e ≠ .clear) (he : s.step kind e = some s') : s'.Connected := by
  cases step_turn he with
  | refused =>
      intro w so o hw hopen hso
      rcases Cells.concat_eq_some.mp hw with hw | ⟨-, rfl⟩
      · exact h w so o hw hopen hso
      · cases hso
  | again _ ho =>
      obtain ⟨x, hx, rfl⟩ := hs.entry ho
      exact h.setup hx ho
  | first _ hn =>
      exact (h.create hn _).setup List.getElem?_concat_length (LiveMap.get_set_self _ _ _)
  | unheard => exact h
  | @message w so o data =>
      obtain ⟨cells, sources, e, hk, hd, -⟩ := message_frame kind s o data
      rw [e]
      intro w so o hw hopen hso
      obtain ⟨x, hx, hget, hnone⟩ := h w so o hw hopen hso
      obtain ⟨y, hy, ek⟩ := Cells.some_of_map hk hx
      obtain ⟨z, hz, ed⟩ := Cells.some_of_map hd hx
      cases hy.symm.trans hz
      have hid : y.id = x.id := congrArg Prod.fst ek
      exact ⟨y, hy, hid ▸ hget, ed.trans hnone⟩
  | forgotten => exact h.closeSocket rfl
  | @socketClosed w so o hw hopen hso =>
      have h' : Connected { s with sockets := s.sockets.set w { so with closed := true } } :=
        h.closeSocket rfl
      have hs' : Stored { s with sockets := s.sockets.set w { so with closed := true } } :=
        hs.closeSocket hw rfl
      rw [Sources.socketClosed]
      split
      · exact h'
      · next x hx =>
          refine h'.disconnect hs' fun w' so' q y hw' hopen' hso' hy hid => ?_
          -- an open websocket is another one, of another client
          rcases Cells.set_eq_some.mp hw' with ⟨-, -, rfl⟩ | ⟨hne, hw'⟩
          · cases hopen'
          · have hx' : s.observed[o]? = some x := hx
            have hy' : s.observed[q]? = some y := hy
            exact closesAlone_iff.mp hG x.id (clientOf_eq_some.mpr ⟨so, o, x, hw, hso, hx', rfl⟩) w'
              hne (isOpen_iff.mpr ⟨so', hw', hopen'⟩)
              (clientOf_eq_some.mpr ⟨so', q, y, hw', hso', hy', hid⟩)
  | check => exact h.check hs
  | clear => exact absurd rfl hc
  | elapsed => exact h

end Connected

/-- No sample was handed to a closed source. -/
theorem late_step {e : Event} (hs : s.Stored) (h : s.Connected)
    (hlate : ∀ {n : Nat} {source}, s.sources[n]? = some source → source.late = [])
    (he : s.step kind e = some s') {n : Nat} {source : Source ι σ}
    (hn : s'.sources[n]? = some source) : source.late = [] := by
  cases step_turn he with
  | refused | again | unheard | forgotten | elapsed => exact hlate hn
  | first =>
      rcases Cells.concat_eq_some.mp hn with hn | ⟨-, rfl⟩
      · exact hlate hn
      · rfl
  | @message w so o data hw hopen hso =>
      obtain ⟨x, hx, hget, -⟩ := h w so o hw hopen hso
      obtain ⟨open', hopen', hc⟩ := hs.opened hget
      simp only [Sources.message, hx] at hn
      split at hn
      · rcases Cells.modify_eq_some.mp hn with ⟨rfl, source, hsource, rfl⟩ | ⟨-, hn⟩
        · rw [hs.source hx] at hsource
          cases hsource.symm.trans hopen'
          simp [Source.accept, hc, hlate hsource]
        · exact hlate hn
      · exact hlate hn
  | socketClosed =>
      obtain ⟨cells, e, -⟩ := socketClosed_frame kind { s with sockets := _ } _
      rw [e] at hn
      exact hlate hn
  | check =>
      obtain ⟨c, ⟨entries, e, -⟩, -⟩ := check_spec hs
      rw [e] at hn
      simp only [List.getElem?_mapIdx, Option.map_eq_some_iff] at hn
      obtain ⟨source', hsource, rfl⟩ := hn
      rw [closeIf_late]
      exact hlate hsource
  | clear =>
      obtain ⟨cells, e, -⟩ := clear_frame kind s
      rw [e] at hn
      exact hlate hn

theorem Alive.step {e : Event} (hs : s.Stored) (h : s.Alive) (hG : s.closesAlone e = true)
    (hc : e ≠ .clear) (he : s.step kind e = some s') : s'.Alive := by
  have h' : s.Connected := fun _ _ _ hw ho hso => h.live hw ho hso
  exact alive_of_stored (hs.step he) (h'.step hs hG hc he) fun hn => late_step hs h' h.late he hn

theorem alive_of_run {max : Int} {now : Nat} {es : List Event}
    (hx : exec (Sources.step kind) (.new max now) es = some s) (hc : .clear ∉ es)
    (ha : Along (Sources.step kind) (fun s e => s.closesAlone e = true) (.new max now) es) :
    s.Alive := by
  have hne : Along (Sources.step kind) (fun _ e => e ≠ .clear) (.new max now) es :=
    along_of_forall fun e he _ e' => hc (e' ▸ he)
  have h : s.Stored ∧ s.Alive := exec_invariant (I := fun s : Sources ι δ σ => s.Stored ∧ s.Alive)
    (fun _ _ _ h hG he => ⟨h.1.step he, h.2.step h.1 hG.1 hG.2 he⟩)
    ⟨stored_new max now, alive_of_stored (stored_new max now) (fun _ _ _ hw => by simp [new] at hw)
      fun hn => by simp [new] at hn⟩ (ha.and hne) hx
  exact h.2

/-! ### Runs -/

/-- **Live clients are kept**, in every run of `accept`, messages, closes and `check` in which
each websocket closes as the only open one of its client id: every client whose latest websocket
is open is stored, connected, and has an open source, and no sample was handed to a closed one. -/
theorem live_kept {max : Int} {now : Nat} {es : List Event} {s : Sources ι δ σ}
    (hx : exec (step kind) (.new max now) es = some s) (hc : .clear ∉ es)
    (ha : Along (step kind) (fun s e => s.closesAlone e = true) (.new max now) es) :
    s.LiveKept ∧ s.NoneLate := by
  have h := alive_of_run hx hc ha
  refine ⟨fun w id hid hopen _ => ?_, fun source hs => ?_⟩
  · obtain ⟨so, o, x, hw, hso, hx, rfl⟩ := clientOf_eq_some.mp hid
    obtain ⟨y, hy, hget, hd⟩ := h.live hw (by simpa [isOpen, hw] using hopen) hso
    cases hx.symm.trans hy
    obtain ⟨z, source, hz, -, hsource, hopen'⟩ := h.entry hget
    cases hx.symm.trans hz
    exact ⟨o, x, source, hget, hx, hd, hsource, hopen'⟩
  · obtain ⟨n, hn⟩ := List.mem_iff_getElem?.mp hs
    exact h.late hn

/-- A client comes back in time. -/
def comesBack (query : Query) : List Event :=
  [.accept query, .message 0 "sample", .socketClosed 0, .elapsed 4000, .check, .accept query,
    .elapsed 9000, .check, .message 1 "sample"]

theorem live_kept_comesBack :
    (∃ s, exec (step (observedClients () plain)) (new 5000 1) (comesBack someClient) = some s ∧
      s.LiveKept ∧ s.NoneLate ∧ s.isOpen 1 = true) ∧
    ∃ s, exec (step (observedSfus () plain)) (new 5000 1) (comesBack someSfu) = some s ∧
      s.LiveKept ∧ s.NoneLate ∧ s.isOpen 1 = true := by
  have hclients : exec (step (observedClients () plain)) (new 5000 1) (comesBack someClient) =
    some _ := rfl
  have hsfus : exec (step (observedSfus () plain)) (new 5000 1) (comesBack someSfu) =
    some _ := rfl
  obtain ⟨h₁, h₂⟩ := live_kept hclients (by simp [comesBack]) (by decide)
  obtain ⟨h₃, h₄⟩ := live_kept hsfus (by simp [comesBack]) (by decide)
  exact ⟨⟨_, hclients, h₁, h₂, rfl⟩, _, hsfus, h₃, h₄, rfl⟩

/-- A client connects again before its old websocket closes, and sends a sample after the next
`check`. -/
def overlaps (query : Query) : List Event :=
  [.accept query, .accept query, .socketClosed 0, .elapsed 5001, .check, .message 1 "sample"]

/-- **A live client expires**, and a live SFU. -/
theorem live_client_expires :
    (∃ s, exec (step (observedClients () plain)) (new 5000 1) (overlaps someClient) = some s ∧
      ¬ s.LiveKept ∧ ¬ s.NoneLate) ∧
    ∃ s, exec (step (observedSfus () plain)) (new 5000 1) (overlaps someSfu) = some s ∧
      ¬ s.LiveKept ∧ ¬ s.NoneLate := by
  refine ⟨⟨_, rfl, fun h => ?_, fun h => ?_⟩, _, rfl, fun h => ?_, fun h => ?_⟩
  · obtain ⟨o, x, source, hget, -⟩ :=
      h 1 (.text "u") rfl rfl fun w' hw' e => nomatch (clientOf_none hw').symm.trans e
    cases hget
  · exact absurd (h _ List.mem_cons_self) (by decide)
  · obtain ⟨o, x, source, hget, -⟩ :=
      h 1 (.text "sfu-1") rfl rfl fun w' hw' e => nomatch (clientOf_none hw').symm.trans e
    cases hget
  · exact absurd (h _ List.mem_cons_self) (by decide)

end DemoApp.Observer.Sources
