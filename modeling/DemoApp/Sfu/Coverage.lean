import DemoApp.Sfu.RoomTables

/-!
# Sfu — Coverage

Which suspended handler is responsible for a consumer that does not exist yet.  `Covered s h c p P`:
the client `c` consumes the producer `P` of `p`, or the handler `h` will come to it, because `h`
waits in `consume` for it, or its loop over the producers of `p` has `P` before it, or its loop
over the clients has the pair before it.

One turn keeps a pair covered by its handler as long as both clients are stored, `P` is in the
producers of `p`, and the turn is not a rejection that ends `h` (`covered_turn`).
-/

namespace DemoApp.Sfu.Room

/-- `r` is the client stored under its id. -/
def Stored (s : Room) (r : ClientRef) : Prop := s.clients.get (s.client r).clientId = some r

/-- `c` has what a call of `consume` for it needs. -/
def Ready (s : Room) (c : ClientRef) : Prop :=
  (s.client c).rtpCapabilities.isSome ∧ (s.client c).rcvTransport.isSome

/-- A ready client is passed over for a producer only if it consumes it. -/
theorem Ready.consumes {s : Room} {c : ClientRef} (h : s.Ready c) {P : ProducerId}
    {kind : MediaKind} (hn : (s.client c).toConsume P kind = none) :
    (s.client c).consumes P = true := by
  obtain ⟨hcaps, hrcv⟩ := h
  rcases toConsume_eq_none.mp hn with hn | hn | hn
  · exact hn
  · rw [hn] at hcaps; cases hcaps
  · rw [hn] at hrcv; cases hrcv

/-- Two different clients in the room and a producer of the second. -/
structure Pair (s : Room) (c p : ClientRef) (P : ProducerId) : Prop where
  consuming : s.Stored c
  producing : s.Stored p
  other : c ≠ p
  producer : ((s.client p).producers.get P).isSome

/-- The loop over the clients still comes to the pair of `c` and `p`. -/
def LoopAhead (s : Room) (r : ClientRef) (loop : Loop) (c p : ClientRef) : Prop :=
  match loop.kind with
  | .join _ => r = c ∧ s.clients.Ahead loop.cursor (s.client p).clientId p
  | .push   => r = p ∧ s.clients.Ahead loop.cursor (s.client c).clientId c

/-- A suspended handler that will come to `c` consuming `P` of `p`. -/
def Covers (s : Room) (x : Handler) (c p : ClientRef) (P : ProducerId) : Prop :=
  match x.await with
  | .consume loop call o =>
      (call.producing = p ∧ call.consuming = c ∧
        (o.producerId = P ∨ ∃ kind, (s.client p).producers.Ahead call.cursor P kind)) ∨
      s.LoopAhead x.client loop c p
  | .returned loop => s.LoopAhead x.client loop c p
  | _ => False

def Covered (s : Room) (h : HandlerRef) (c p : ClientRef) (P : ProducerId) : Prop :=
  (s.client c).consumes P = true ∨ ∃ x, s.suspended h = some x ∧ s.Covers x c p P

theorem Pair.at {s : Room} {c p : ClientRef} {P : ProducerId} (h : s.Pair c p P) :
    ∃ i kind, (s.client p).producers.At i P kind := by
  obtain ⟨kind, hk⟩ := Option.isSome_iff_exists.mp h.producer
  obtain ⟨i, hi⟩ := LiveMap.get_eq_some.mp hk
  exact ⟨i, kind, hi⟩

/-- Two different stored clients have different ids. -/
theorem Pair.id_ne {s : Room} {c p : ClientRef} {P : ProducerId} (h : s.Pair c p P) :
    (s.client c).clientId ≠ (s.client p).clientId := fun e => by
  have hc : s.clients.get (s.client p).clientId = some c := e ▸ h.consuming
  exact h.other (Option.some.inj (hc.symm.trans h.producing))

/-! ### The loops -/

section Loops

variable {s : Room} {h : HandlerRef} {r c p : ClientRef} {P : ProducerId} {loop : Loop}

theorem covered_suspend {a : Await} (hh : h < s.handlers.length) (ha : s.Covers ⟨r, a⟩ c p P) :
    Covered (s.suspend h r a) h c p P :=
  .inr ⟨⟨r, a⟩, by rw [suspended_suspend hh, if_pos rfl], ha⟩

/-- Whatever `_consumeClient` comes to next, the loop that called it goes on. -/
theorem covered_consumeFrom_loop {call : ConsumeCall} (hh : h < s.handlers.length)
    (hl : s.LoopAhead r loop c p) : Covered (s.consumeFrom h r loop call) h c p P := by
  rcases consumeFrom_cases s h r loop call with ⟨e, -⟩ | ⟨cursor, q, kind, o, e, -⟩ <;> rw [e]
  · exact covered_suspend hh hl
  · exact covered_suspend hh (.inr hl)

/-- `_consumeClient` comes to every producer before its iterator. -/
theorem covered_consumeFrom {call : ConsumeCall} (hh : h < s.handlers.length) (hr : s.Ready c)
    (hp : call.producing = p) (hc : call.consuming = c) {kind : MediaKind}
    (ha : (s.client p).producers.Ahead call.cursor P kind) :
    Covered (s.consumeFrom h r loop call) h c p P := by
  rcases consumeFrom_cases s h r loop call with ⟨e, hall⟩ | ⟨cursor, q, l, o, e, -, ho, hall⟩ <;>
    rw [e]
  · exact .inl (hr.consumes (hc ▸ hall P kind (hp ▸ ha)))
  · rcases hall P kind (hp ▸ ha) with hn | rfl | ha'
    · exact .inl (hr.consumes (hc ▸ hn))
    · refine covered_suspend hh (.inl ⟨hp, hc, .inl ?_⟩)
      exact (toConsume_eq_some.mp ho).2.2.2.1
    · exact covered_suspend hh (.inl ⟨hp, hc, .inr ⟨kind, hp ▸ ha'⟩⟩)

/-- The loop over the clients comes to every pair before its iterator. -/
theorem covered_runLoop (hpair : s.Pair c p P) (hr : s.Ready c) (hh : h < s.handlers.length)
    (hl : s.LoopAhead r loop c p) : Covered (s.runLoop h r loop) h c p P := by
  obtain ⟨i, kind, hi⟩ := hpair.at
  -- the other client of the pair, as an entry before the iterator
  obtain ⟨id, q, hq, hne, hid⟩ : ∃ id q, s.clients.Ahead loop.cursor id q ∧
      id ≠ (s.client r).clientId ∧
      Loop.pair loop.kind (s.client r).clientId id =
        ((s.client p).clientId, (s.client c).clientId) ∧
      ∀ cursor, s.clients.Ahead cursor id q → s.LoopAhead r { loop with cursor } c p := by
    unfold LoopAhead at hl ⊢
    cases hk : loop.kind with
    | join _ =>
        rw [hk] at hl
        obtain ⟨rfl, ha⟩ := hl
        exact ⟨_, _, ha, hpair.id_ne.symm, rfl, fun _ h => ⟨rfl, h⟩⟩
    | push =>
        rw [hk] at hl
        obtain ⟨rfl, ha⟩ := hl
        exact ⟨_, _, ha, hpair.id_ne, rfl, fun _ h => ⟨rfl, h⟩⟩
  obtain ⟨hids, hahead⟩ := hid
  rcases runLoop_cases s h r loop with ⟨-, hall⟩ | ⟨cursor, id', e, hall⟩
  · exact absurd (hall id q hq) hne
  · rw [e]
    rcases hall id q hq hne with rfl | ha
    · rw [hids]
      rcases consumeClient_cases s h r { loop with cursor } (s.client p).clientId
        (s.client c).clientId with ⟨hn | hn, -⟩ | ⟨p', c', hp', hc', e'⟩
      · rw [hpair.producing] at hn; cases hn
      · rw [hpair.consuming] at hn; cases hn
      · rw [e']
        refine covered_consumeFrom hh hr (Option.some.inj (hp'.symm.trans hpair.producing))
          (Option.some.inj (hc'.symm.trans hpair.consuming)) (?_ : LiveMap.Ahead _ _ P kind)
        exact ⟨i, Nat.zero_le _, hi⟩
    · have hl' := hahead cursor ha
      rcases consumeClient_cases s h r { loop with cursor }
        (Loop.pair loop.kind (s.client r).clientId id').1
        (Loop.pair loop.kind (s.client r).clientId id').2 with ⟨-, e'⟩ | ⟨p', c', -, -, e'⟩ <;>
        rw [e']
      · exact covered_suspend hh hl'
      · exact covered_consumeFrom_loop hh hl'

end Loops

/-! ### What other turns leave alone -/

/-- From `s` to `s'` the entries of the pair stay where they are, and what `c` consumed of `P` it
still consumes. -/
structure Follows (c p : ClientRef) (P : ProducerId) (s s' : Room) : Prop where
  clients : ∀ r, r = c ∨ r = p → ∀ j, s.clients.At j (s.client r).clientId r →
    s'.clients.At j (s'.client r).clientId r
  producers : ∀ j kind, (s.client p).producers.At j P kind → (s'.client p).producers.At j P kind
  consumes : (s.client c).consumes P = true → (s'.client c).consumes P = true

namespace Follows

variable {c p : ClientRef} {P : ProducerId} {s s' s'' : Room}

theorem trans (h : Follows c p P s s') (h' : Follows c p P s' s'') : Follows c p P s s'' where
  clients := fun r hr j ha => h'.clients r hr j (h.clients r hr j ha)
  producers := fun j kind ha => h'.producers j kind (h.producers j kind ha)
  consumes := fun hc => h'.consumes (h.consumes hc)

/-- Only the handlers, what was sent and the time. -/
theorem frame {hs out n} : Follows c p P s { s with handlers := hs, sent := out, now := n } :=
  ⟨fun _ _ _ h => h, fun _ _ h => h, id⟩

theorem loopAhead (h : Follows c p P s s') {r : ClientRef} {loop : Loop}
    (hl : s.LoopAhead r loop c p) : s'.LoopAhead r loop c p := by
  unfold LoopAhead at hl ⊢
  cases hk : loop.kind with
  | join _ =>
      rw [hk] at hl
      obtain ⟨e, j, hj, ha⟩ := hl
      exact ⟨e, j, hj, h.clients p (.inr rfl) j ha⟩
  | push =>
      rw [hk] at hl
      obtain ⟨e, j, hj, ha⟩ := hl
      exact ⟨e, j, hj, h.clients c (.inl rfl) j ha⟩

theorem covers (h : Follows c p P s s') {x : Handler} (hx : s.Covers x c p P) :
    s'.Covers x c p P := by
  obtain ⟨r, a⟩ := x
  cases a with
  | consume loop call o =>
      rcases hx with ⟨hp, hc, hP | ⟨kind, j, hj, ha⟩⟩ | hl
      · exact .inl ⟨hp, hc, .inl hP⟩
      · exact .inl ⟨hp, hc, .inr ⟨kind, j, hj, h.producers j kind ha⟩⟩
      · exact .inr (h.loopAhead hl)
  | returned loop => exact h.loopAhead hx
  | createTransport | connect | produce | pause | resume => exact hx.elim

theorem covered (h : Follows c p P s s') {g : HandlerRef} (hg : s'.suspended g = s.suspended g)
    (hc : s.Covered g c p P) : s'.Covered g c p P :=
  hc.imp h.consumes fun ⟨x, hx, hcov⟩ => ⟨x, hg.trans hx, h.covers hcov⟩

theorem grow {r : ClientRef} {f : Client → Client} {ts : List Transport} {ps : List Producer}
    {ks : List Consumer} (hid : (f (s.client r)).clientId = (s.client r).clientId)
    (hprod : ∀ j kind, (s.client r).producers.At j P kind → (f (s.client r)).producers.At j P kind)
    (hcons : (s.client r).consumes P = true → (f (s.client r)).consumes P = true) :
    Follows c p P s ((s.grown ts ps ks).modify r f) where
  clients := fun q _ j ha => by
    rw [client_modify]
    split
    · next e => subst e; exact (congrArg (fun id => s.clients.At j id q) hid).mpr ha
    · exact ha
  producers := fun j kind ha => by
    rw [client_modify]
    split
    · next e => subst e; exact hprod j kind ha
    · exact ha
  consumes := fun hc => by
    rw [client_modify]
    split
    · next e => subst e; exact hcons hc
    · exact hc

/-- A new consumer is stored. -/
theorem stored (ht : s.Tables) {r : ClientRef} {o : ProducerId} {ks : List Consumer} :
    Follows c p P s ((s.grown [] [] ks).modify r fun x =>
      { x with consumers := x.consumers.set s.router.consumers.length o }) := by
  refine grow rfl (fun _ _ h => h) fun h => ?_
  obtain ⟨i, k, ha⟩ := consumes_iff.mp h
  obtain ⟨y, hy, -⟩ := ht.consumer ha
  exact consumes_iff.mpr ⟨i, k,
    (LiveMap.at_set_of_ne (Nat.ne_of_lt (Cells.lt_of_some hy))).mpr ha⟩

/-- The new client takes the place of none that is still stored. -/
theorem add {ctx : ClientContext} (hc : c < s.added) (hp : p < s.added)
    (hc' : (s.add ctx).Stored c) (hp' : (s.add ctx).Stored p) : Follows c p P s (s.add ctx) := by
  have old : ∀ {q}, q < s.added → (s.add ctx).client q = s.client q := fun hq => by
    simp [Room.add, Nat.ne_of_lt hq]
  refine ⟨fun r hr j ha => ?_, fun j kind ha => by rw [old hp]; exact ha,
    fun h => by rw [old hc]; exact h⟩
  obtain ⟨hlt, hs⟩ : r < s.added ∧ (s.add ctx).Stored r := by
    rcases hr with rfl | rfl
    · exact ⟨hc, hc'⟩
    · exact ⟨hp, hp'⟩
  rw [old hlt]
  refine (LiveMap.at_set_of_ne fun e => ?_).mpr ha
  rw [Stored, old hlt] at hs
  simp only [Room.add, e, LiveMap.get_set_self, Option.some.injEq] at hs
  exact Nat.ne_of_lt hlt hs.symm

theorem quit {r : ClientRef} (hc' : (s.quit r).Stored c) (hp' : (s.quit r).Stored p) :
    Follows c p P s (s.quit r) := by
  have id : ∀ q, ((s.quit r).client q).clientId = (s.client q).clientId := fun q => by
    simp only [Room.quit, client_modify]
    split
    · next e => rw [e]
    · rfl
  refine ⟨fun q hq j ha => ?_, fun j kind ha => ?_, fun h => ?_⟩
  · have hs : (s.quit r).Stored q := by rcases hq with rfl | rfl <;> assumption
    rw [id]
    refine LiveMap.at_delete.mpr ⟨fun e => ?_, ha⟩
    rw [Stored, id] at hs
    simp [Room.quit, e] at hs
  · simp only [Room.quit, client_modify]
    split
    · next e => subst e; exact ha
    · exact ha
  · simp only [Room.quit, client_modify]
    split
    · next e => subst e; exact h
    · exact h

/-- Closing keeps the pair if it closes no consumer of `P` by `c`. -/
theorem closes {T : TransportId → Prop} (hcl : Closes T s s') (ht : s.Tables) (ht' : s'.Tables)
    (hP : ((s'.client p).producers.get P).isSome)
    (hT : ∀ (k : Nat) x, s.router.consumers[k]? = some x → x.owner = c → x.producerId = P →
      s.Owns c x.transport → T x.transport →
      s'.router.consumers[k]? = some { x with closed := true } → x.closed = true) :
    Follows c p P s s' := by
  refine ⟨fun r _ j ha => ?_, fun j kind ha => ?_, fun h => ?_⟩
  · rw [hcl.clients, hcl.clientId]
    exact ha
  · refine (hcl.producerMap_closed p j P kind ha).resolve_right ?_
    rintro ⟨x, hx, hclosed⟩
    obtain ⟨l, hl⟩ := Option.isSome_iff_exists.mp hP
    obtain ⟨i, hi⟩ := LiveMap.get_eq_some.mp hl
    obtain ⟨y, hy, -, hopen, -⟩ := ht'.producer hi
    obtain rfl := Option.some.inj (hx.symm.trans hy)
    rw [hopen] at hclosed
    cases hclosed
  · obtain ⟨i, k, ha⟩ := consumes_iff.mp h
    obtain ⟨x, hx, ho, hp, hopen, hown⟩ := ht.consumer ha
    refine consumes_iff.mpr ⟨i, k, (hcl.consumerMap_closed c i k P ha).resolve_right ?_⟩
    rintro ⟨y, hy, hTy, hclosed⟩
    rcases hcl.consumers k with e | ⟨z, hz, -, e, -⟩
    · obtain rfl := Option.some.inj (hy.symm.trans (e.trans hx))
      rw [hopen] at hclosed
      cases hclosed
    · obtain rfl := Option.some.inj (hx.symm.trans hz)
      obtain rfl := Option.some.inj (hy.symm.trans e)
      rw [hT k x hx ho hp hown hTy e] at hopen
      cases hopen

theorem runLoop (s : Room) (g : HandlerRef) (r : ClientRef) (loop : Loop) :
    Follows c p P s (s.runLoop g r loop) := by
  obtain ⟨x, out, e⟩ := runLoop_frame s g r loop
  rw [e]
  exact frame

theorem consumeFrom (s : Room) (g : HandlerRef) (r : ClientRef) (loop : Loop)
    (call : ConsumeCall) : Follows c p P s (s.consumeFrom g r loop call) := by
  obtain ⟨a, e⟩ := consumeFrom_frame s g r loop call
  rw [e]
  exact frame

/-- A router that closes takes every producer of a stored client with it. -/
theorem closed_of_pair (ht : s.Tables) (hpair : s.Pair c p P)
    (hP : (((closeRouter close s).client p).producers.get P).isSome) :
    s.router.closed = true := by
  by_contra hr
  simp only [Bool.not_eq_true] at hr
  obtain ⟨i, kind, hi⟩ := hpair.at
  obtain ⟨y, hy, -, -, x, hx, ho⟩ := ht.producer hi
  have hopen : x.closed = false := by
    by_contra hx'
    rcases ht.closed hx (by simpa using hx') with he | he
    · rw [ho, (ht.stored hpair.producing).2.2] at he
      cases he
    · rw [hr] at he
      cases he
  obtain ⟨l, hl⟩ := Option.isSome_iff_exists.mp hP
  obtain ⟨j, hj⟩ := LiveMap.get_eq_some.mp hl
  obtain ⟨z, hz, -, hzopen, -⟩ := ht.routerClosed.producer hj
  rw [closeRouter_producers hr hx hopen hy rfl z hz] at hzopen
  cases hzopen

theorem routerClosed (ht : s.Tables) (hpair : s.Pair c p P)
    (hP : (((closeRouter close s).client p).producers.get P).isSome) :
    Follows c p P s (closeRouter close s) := by
  have e : closeRouter close s = s := by simp [closeRouter, closed_of_pair ht hpair hP]
  rw [e]
  exact frame

theorem close (ht : s.Tables) (hpair : s.Pair c p P)
    (hP : ((s.close.client p).producers.get P).isSome) : Follows c p P s s.close := by
  have hr : s.router.closed = true := by
    by_contra hr
    refine hr (closed_of_pair ht hpair ?_)
    rw [close_eq, if_neg hr] at hP
    exact hP
  rw [close_of_closed hr]
  exact frame

theorem socketClosed {r : ClientRef} (ht : s.Tables) (hr : r < s.added)
    (hpair' : (s.socketClosed r).Pair c p P) : Follows c p P s (s.socketClosed r) := by
  by_cases he : (s.client r).eventsClosed = true
  · rw [socketClosed_grown he]
    exact grow rfl (fun _ _ h => h) id
  · obtain ⟨s₂, hc, hcl, -, e⟩ := socketClosed_spec (by simpa using he)
    rw [e] at hpair' ⊢
    split at hpair'
    · next hsize =>
        -- nobody is left
        have hnone : s₂.close.clients.size = 0 := by
          rw [(closes_of_close s₂).clients]
          exact Nat.lt_one_iff.mp hsize
        have := hpair'.consuming
        rw [Stored, LiveMap.get_eq_none_of_size hnone] at this
        cases this
    · next hsize =>
        have stored : ∀ {q}, s₂.Stored q → (s.quit r).Stored q := fun hq => by
          rw [Stored, hc.clients, hc.clientId] at hq
          exact hq
        have hcr : c ≠ r := by
          rintro rfl
          have := ((ht.quit c).stored (stored hpair'.consuming)).2.2
          simp [Room.quit] at this
        rw [if_neg hsize]
        have ht₂ : s₂.Tables := by
          have h := ht.socketClosed (r := r) hr
          rwa [e, if_neg hsize] at h
        refine (quit (stored hpair'.consuming) (stored hpair'.producing)).trans
          (closes hc (ht.quit r) ht₂ hpair'.producer ?_)
        -- the transports that closed are those of `r`
        rintro k x - - - ⟨y, hy, hyo⟩ ⟨role, hT⟩ -
        obtain ⟨z, hz, hzo⟩ := ht.port hT
        obtain rfl := Option.some.inj (hy.symm.trans hz)
        exact absurd (hyo.symm.trans hzo) hcr

/-- A consumer that closes because its producer did is no consumer of `P`. -/
theorem consumerClosed {k : ConsumerId} (ht : s.Tables) (hpair : s.Pair c p P)
    (hpair' : (s.closeConsumer k).Pair c p P) (hk : s.producerGone k = true) :
    Follows c p P s (s.closeConsumer k) := by
  refine closes (closes_of_closeConsumer _ _) ht
    (ht.consumerClosed k) hpair'.producer fun k' x hx _ hP _ _ hx' => ?_
  by_cases e : k' = k
  · subst e
    obtain ⟨i, kind, hi⟩ := hpair.at
    obtain ⟨y, hy, -, hopen, -⟩ := ht.producer hi
    simp [producerGone, hx, hP, hy, hopen] at hk
  · have hsame : (s.closeConsumer k).router.consumers[k']? = s.router.consumers[k']? := by
      rw [closeConsumer]
      split
      · rfl
      · split
        · rfl
        · rw [router_send, router_modify, List.getElem?_set_ne (Ne.symm e)]
    rw [hsame, hx] at hx'
    rw [congrArg Consumer.closed (Option.some.inj hx')]

theorem turn {e : Event} (ht : s.Tables) (hturn : Turn s e s') (hpair : s.Pair c p P)
    (hpair' : s'.Pair c p P) : Follows c p P s s' := by
  cases hturn with
  | add =>
      exact add (ht.stored hpair.consuming).1 (ht.stored hpair.producing).1 hpair'.consuming
        hpair'.producing
  | socketClosed hr => exact socketClosed ht hr hpair'
  | @capabilities r caps =>
      have h : Follows c p P s ((s.grown [] [] []).modify r fun c =>
          { c with rtpCapabilities := some caps }) := grow rfl (fun _ _ h => h) id
      simpa using h
  | joinCallRequest => exact trans frame (runLoop _ _ _ _)
  | spawn | ignored | answered | consumeFailed | ended | elapsed => exact frame
  | @transportCreated h info r q role o hs =>
      obtain ⟨out, -, e⟩ := transportCreated_eq s h r q role info
      rw [e]
      have hgrow : Follows c p P s ((s.grown [⟨r, role, false⟩] [] []).modify r fun c =>
          c.setTransport role s.router.transports.length) :=
        grow (by cases role <;> rfl) (fun _ _ ha => by cases role <;> exact ha)
          fun hc => by cases role <;> exact hc
      exact hgrow.trans frame
  | @produced h r q t kind rtp hs =>
      obtain ⟨out, -, e⟩ := produced_eq s h r q t kind
      rw [e]
      refine trans (trans (grow rfl (fun j l ha => ?_) id) frame) (runLoop _ _ _ _)
      obtain ⟨i, l, hi⟩ := hpair.at
      obtain ⟨y, hy, -⟩ := ht.producer hi
      exact (LiveMap.at_set_of_ne (Nat.ne_of_lt (Cells.lt_of_some hy))).mpr ha
  | @consumed h rtp r loop call o hs =>
      rw [consumed_eq]
      exact trans (trans (stored ht) frame) (consumeFrom _ _ _ _ _)
  | resumed => exact runLoop _ _ _ _
  | consumerClosed hk => exact consumerClosed ht hpair hpair' hk
  | routerClosed => exact routerClosed ht hpair hpair'.producer
  | close => exact close ht hpair hpair'.producer

end Follows

/-- `consume` resolves for a pair, and the handler goes on to the ones it still has before it. -/
theorem covered_consumed {s : Room} {h : HandlerRef} {r c p : ClientRef} {P : ProducerId}
    {loop : Loop} {call : ConsumeCall} {o : ConsumeOptions} {rtp : RtpParameters} (ht : s.Tables)
    (hs : s.suspended h = some ⟨r, .consume loop call o⟩) (hr : s.Ready c)
    (hcov : s.Covers ⟨r, .consume loop call o⟩ c p P) :
    (s.consumed h r loop call o rtp).Covered h c p P := by
  have hf : Follows c p P s ((s.grown [] []
      [⟨call.consuming, o.transport, o.producerId, false⟩]).modify call.consuming fun x =>
        { x with consumers := x.consumers.set s.router.consumers.length o.producerId }) :=
    Follows.stored ht
  have hh : h < s.handlers.length := suspended_lt hs
  rw [consumed_eq]
  rcases hcov with ⟨hp, hc, rfl | ⟨kind, j, hj, ha⟩⟩ | hl
  · -- the pair that `consume` was called for
    refine .inl ((Follows.consumeFrom (p := p) _ _ _ _ _).consumes ?_)
    obtain ⟨i, hi⟩ := LiveMap.exists_at_set (s.client c).consumers s.router.consumers.length
      o.producerId
    refine consumes_iff.mpr ⟨i, s.router.consumers.length, ?_⟩
    simpa [hc, grown] using hi
  · have hahead : LiveMap.Ahead _ _ P kind := ⟨j, hj, hf.producers j kind ha⟩
    refine covered_consumeFrom hh ?_ hp hc hahead
    simp only [Ready, client_modify]
    split
    · next e => subst e; exact hr
    · exact hr
  · exact covered_consumeFrom_loop hh (hf.loopAhead hl)

/-- **One turn keeps a pair covered**, unless it is a rejection that ends the handler. -/
theorem covered_turn {s s' : Room} {e : Event} {h : HandlerRef} {c p : ClientRef} {P : ProducerId}
    (ht : s.Tables) (hturn : Turn s e s') (hr : s.Ready c) (hpair : s.Pair c p P)
    (hpair' : s'.Pair c p P) (he : e ≠ .consumeFailed h) (hcov : s.Covered h c p P) :
    s'.Covered h c p P := by
  have hf := Follows.turn ht hturn hpair hpair'
  rcases hcov with hc | ⟨x, hx, hcov⟩
  · exact .inl (hf.consumes hc)
  · by_cases hh : e.handler = some h
    · cases hturn with
      | @consumed g rtp r loop call o hs =>
          obtain rfl : g = h := Option.some.inj hh
          obtain rfl := Option.some.inj (hx.symm.trans hs)
          exact covered_consumed ht hs hr hcov
      | resumed hs =>
          obtain rfl := Option.some.inj hh
          obtain rfl := Option.some.inj (hx.symm.trans hs)
          exact covered_runLoop hpair hr (suspended_lt hs) hcov
      | consumeFailed => exact absurd (by rw [Option.some.inj hh]) he
      | transportCreated hs | produced hs =>
          obtain rfl := Option.some.inj hh
          obtain rfl := Option.some.inj (hx.symm.trans hs)
          exact hcov.elim
      | @ended _ g y out hend hs hy =>
          have hg : g = h := by
            cases e <;> first | exact hend.symm.trans (Option.some.inj hh) | exact hend.elim
          subst hg
          obtain rfl := Option.some.inj (hx.symm.trans hs)
          obtain ⟨r, a⟩ := x
          cases a <;> first | exact hcov.elim | cases hy
      | add | socketClosed | capabilities | joinCallRequest | spawn | ignored | answered
      | consumerClosed | routerClosed | close | elapsed => cases hh
    · exact hf.covered (suspended_turn hturn (suspended_lt hx) hh) (.inr ⟨x, hx, hcov⟩)

/-! ### The loops that start -/

theorem pair_runLoop {s : Room} {h : HandlerRef} {r c p : ClientRef} {P : ProducerId}
    {loop : Loop} : (s.runLoop h r loop).Pair c p P ↔ s.Pair c p P := by
  obtain ⟨x, out, e⟩ := runLoop_frame s h r loop
  rw [e]
  exact ⟨fun h => ⟨h.consuming, h.producing, h.other, h.producer⟩,
    fun h => ⟨h.consuming, h.producing, h.other, h.producer⟩⟩

theorem ready_runLoop {s : Room} {h : HandlerRef} {r c : ClientRef} {loop : Loop} :
    (s.runLoop h r loop).Ready c ↔ s.Ready c := by
  obtain ⟨x, out, e⟩ := runLoop_frame s h r loop
  rw [e]
  exact Iff.rfl

theorem ready_consumeFrom {s : Room} {h : HandlerRef} {r c : ClientRef} {loop : Loop}
    {call : ConsumeCall} : (s.consumeFrom h r loop call).Ready c ↔ s.Ready c := by
  obtain ⟨a, e⟩ := consumeFrom_frame s h r loop call
  rw [e]
  exact Iff.rfl

/-- A client that joins comes to every producer of the others. -/
theorem covered_joinCallRequest {s : Room} {c p : ClientRef} {P : ProducerId} {q : RequestId}
    (hpair : (s.joinCallRequest c q).Pair c p P) (hr : (s.joinCallRequest c q).Ready c) :
    (s.joinCallRequest c q).Covered s.handlers.length c p P := by
  have hpair' := pair_runLoop.mp hpair
  obtain ⟨i, hi⟩ := LiveMap.get_eq_some.mp hpair'.producing
  exact covered_runLoop hpair' (ready_runLoop.mp hr) (by simp) ⟨rfl, i, Nat.zero_le _, hi⟩

/-- A new producer, and every one its client has, comes to all the others. -/
theorem covered_produced {s : Room} {h : HandlerRef} {c p : ClientRef} {P : ProducerId}
    {q : RequestId} {t : TransportId} {kind : MediaKind} (hh : h < s.handlers.length)
    (hpair : (s.produced h p q t kind).Pair c p P) (hr : (s.produced h p q t kind).Ready c) :
    (s.produced h p q t kind).Covered h c p P := by
  obtain ⟨out, -, e⟩ := produced_eq s h p q t kind
  rw [e] at hpair hr ⊢
  have hpair' := pair_runLoop.mp hpair
  obtain ⟨i, hi⟩ := LiveMap.get_eq_some.mp hpair'.consuming
  exact covered_runLoop hpair' (ready_runLoop.mp hr) hh ⟨rfl, i, Nat.zero_le _, hi⟩

/-! ### What a turn adds -/

theorem Ready.modify {s : Room} {r c : ClientRef} {f : Client → Client} (h : s.Ready c)
    (hcaps : ∀ x : Client, x.rtpCapabilities.isSome → (f x).rtpCapabilities.isSome)
    (hrcv : ∀ x : Client, x.rcvTransport.isSome → (f x).rcvTransport.isSome) :
    (s.modify r f).Ready c := by
  simp only [Ready, client_modify]
  split
  · next e => subst e; exact ⟨hcaps _ h.1, hrcv _ h.2⟩
  · exact h

theorem Ready.closes {T : TransportId → Prop} {s s' : Room} {c : ClientRef} (h : s.Ready c)
    (hc : Closes T s s') : s'.Ready c := by
  rw [Ready, hc.rtpCapabilities, hc.rcvTransport]
  exact h

/-- A client stays ready. -/
theorem ready_turn {s s' : Room} {e : Event} {c : ClientRef} (hturn : Turn s e s')
    (hc : c < s.added) (hr : s.Ready c) : s'.Ready c := by
  cases hturn with
  | @add ctx =>
      have e : (s.add ctx).client c = s.client c := by simp [add, Nat.ne_of_lt hc]
      rw [Ready, e]
      exact hr
  | @socketClosed r =>
      by_cases he : (s.client r).eventsClosed = true
      · rw [socketClosed_of_closed he]
        exact hr.modify (fun _ => id) (fun _ => id)
      · obtain ⟨s₂, hcl, -, -, e⟩ := socketClosed_spec (by simpa using he)
        have hq : (s.quit r).Ready c :=
          hr.modify (r := r) (f := fun c => { c with socketClosed := true, eventsClosed := true })
            (fun _ => id) (fun _ => id)
        rw [e]
        split
        · exact (hq.closes hcl).closes (closes_of_close s₂)
        · exact hq.closes hcl
  | capabilities => exact hr.modify (fun _ _ => rfl) (fun _ => id)
  | joinCallRequest => exact ready_runLoop.mpr hr
  | spawn | ignored | answered | consumeFailed | ended | elapsed => exact hr
  | @transportCreated h info r q role o hs =>
      obtain ⟨out, -, e⟩ := transportCreated_eq s h r q role info
      rw [e]
      show Ready ((s.grown [⟨r, role, false⟩] [] []).modify r fun c =>
        c.setTransport role s.router.transports.length) c
      exact Ready.modify hr (fun _ => by cases role <;> exact id)
        (fun _ => by cases role <;> first | exact id | exact fun _ => rfl)
  | @produced h r q t kind rtp hs =>
      obtain ⟨out, -, e⟩ := produced_eq s h r q t kind
      rw [e, ready_runLoop]
      show Ready ((s.grown [] [⟨r, t, kind, false⟩] []).modify r fun c =>
        { c with producers := c.producers.set s.router.producers.length kind }) c
      exact Ready.modify hr (fun _ => id) (fun _ => id)
  | @consumed h rtp r loop call o hs =>
      rw [consumed_eq, ready_consumeFrom]
      show Ready ((s.grown [] [] [⟨call.consuming, o.transport, o.producerId, false⟩]).modify
        call.consuming fun c =>
          { c with consumers := c.consumers.set s.router.consumers.length o.producerId }) c
      exact Ready.modify hr (fun _ => id) (fun _ => id)
  | resumed => exact ready_runLoop.mpr hr
  | consumerClosed => exact hr.closes (closes_of_closeConsumer _ _)
  | routerClosed => exact hr.closes (closes_of_closeRouter s)
  | close => exact hr.closes (closes_of_close s)

end DemoApp.Sfu.Room
