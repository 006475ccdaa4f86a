import DemoApp.Sfu.RoomTables

/-!
# Sfu — Uniqueness

`_consumeClient` looks for a consumer of the producer before its `await` and stores the new one
after it.  Two handlers that wait in `consume` for the same client and producer both get past the
look, and both store.

* `consumed_twice`: a client that sends `join-call-request` twice gets two open consumers of one
  producer, and two notifications.
* `single_consumer`: as long as no `consume` resolves while another one is pending for the same
  client and producer, a client has one open consumer of a producer at most, and was told of one
  open consumer of it at most.
-/

namespace DemoApp.Sfu.Room
open Machine

/-! ### The property and the condition -/

def consumerOpen (s : Room) (k : ConsumerId) : Bool :=
  (s.router.consumers[k]?).any fun x => !x.closed

/-- The consumer that a message announces. -/
def announced : ClientRef × ServerMessage → Option (ClientRef × ConsumerId × ProducerId)
  | (c, .consumerCreatedNotification k p _ _ _) => some (c, k, p)
  | _ => none

/-- The open consumers of `p` announced to `c`, one for each `ConsumerCreatedNotification`. -/
def announcedOpen (s : Room) (c : ClientRef) (p : ProducerId) : List ConsumerId :=
  ((s.sent.filterMap announced).filter fun x =>
    x.1 = c ∧ x.2.2 = p ∧ s.consumerOpen x.2.1).map fun x => x.2.1

/-- A client holds at most one open consumer of a producer, and at most one that was announced to
it is open. -/
def SingleConsumer (s : Room) : Prop :=
  ∀ c p, (∀ k k', (s.client c).consumers.get k = some p → s.consumerOpen k →
      (s.client c).consumers.get k' = some p → s.consumerOpen k' → k = k') ∧
    (s.announcedOpen c p).length ≤ 1

/-- A `consume` resolves only as the one pending call for its client and producer. -/
def SoleConsume (s : Room) : Event → Prop
  | .consumed h _ => ∀ g < s.handlers.length, g ≠ h → s.pendingConsume g ≠ s.pendingConsume h
  | _ => True

instance (s : Room) : (e : Event) → Decidable (SoleConsume s e)
  | .consumed h _ => inferInstanceAs (Decidable (∀ g < s.handlers.length, g ≠ h →
      s.pendingConsume g ≠ s.pendingConsume h))
  | .add _ | .socketClosed _ | .message _ _ | .transportCreated _ _ | .transportFailed _
  | .transportConnected _ _ | .produced _ | .produceFailed _ | .producerSwitched _
  | .consumeFailed _ | .resumed _ | .consumerClosed _ | .routerClosed | .close | .elapsed _ =>
      isTrue trivial

/-! ### The invariant -/

/-- No two consumers of a producer in one map, none in the map of a client for which one is
pending, and every announced consumer is in the table and was announced once. -/
structure Unique (s : Room) : Prop where
  one : ∀ {c i j k k' p}, (s.client c).consumers.At i k p → (s.client c).consumers.At j k' p →
    k = k'
  pending : ∀ {h c p}, s.pendingConsume h = some (c, p) → (s.client c).consumes p = false
  announced : ∀ {c k p}, (c, k, p) ∈ s.sent.filterMap announced →
    ∃ x, s.router.consumers[k]? = some x ∧ x.owner = c ∧ x.producerId = p
  once : ((s.sent.filterMap Room.announced).map fun x => x.2.1).Nodup

/-- From `s` to `s'` no consumer was added to a map, none was announced, and a `consume` was
called only where the map had none. -/
structure Shrinks (s s' : Room) : Prop where
  map : ∀ {c i k p}, (s'.client c).consumers.At i k p → (s.client c).consumers.At i k p
  pending : ∀ {h c p}, s'.pendingConsume h = some (c, p) →
    s.pendingConsume h = some (c, p) ∨ (s'.client c).consumes p = false
  sent : s'.sent.filterMap Room.announced = s.sent.filterMap Room.announced
  record : ∀ {k : Nat} {x}, s.router.consumers[k]? = some x →
    ∃ y, s'.router.consumers[k]? = some y ∧ y.owner = x.owner ∧ y.producerId = x.producerId

theorem filterMap_announced {out : List (ClientRef × ServerMessage)} (h : NoConsumer out) :
    out.filterMap announced = [] := by
  rw [List.filterMap_eq_nil_iff]
  rintro ⟨c, m⟩ hm
  cases m with
  | consumerCreatedNotification k p kind rtp r => exact absurd hm (h c k p kind rtp r)
  | _ => rfl

namespace Shrinks

variable {s s' s'' : Room}

theorem consumes (h : Shrinks s s') {c : ClientRef} {p : ProducerId}
    (hc : (s.client c).consumes p = false) : (s'.client c).consumes p = false := by
  by_contra hn
  obtain ⟨i, k, ha⟩ := consumes_iff.mp (by simpa using hn)
  rw [consumes_iff.mpr ⟨i, k, h.map ha⟩] at hc
  cases hc

theorem trans (h : Shrinks s s') (h' : Shrinks s' s'') : Shrinks s s'' where
  map := fun ha => h.map (h'.map ha)
  pending := fun hp => by
    rcases h'.pending hp with hp | hn
    · exact (h.pending hp).imp_right h'.consumes
    · exact .inr hn
  sent := h'.sent.trans h.sent
  record := fun hx => by
    obtain ⟨y, hy, h₁, h₂⟩ := h.record hx
    obtain ⟨z, hz, h₃, h₄⟩ := h'.record hy
    exact ⟨z, hz, h₃.trans h₁, h₄.trans h₂⟩

/-- Only the handlers, what was sent and the time. -/
theorem frame {hs out n} (ho : NoConsumer out)
    (hp : ∀ g r loop call o, suspended { s with handlers := hs } g =
        some ⟨r, .consume loop call o⟩ →
      s.suspended g = some ⟨r, .consume loop call o⟩ ∨
        (s.client call.consuming).consumes o.producerId = false) :
    Shrinks s { s with handlers := hs, sent := s.sent ++ out, now := n } where
  map := id
  pending := fun {g c p} hg => by
    obtain ⟨r, loop, call, o, hs, rfl, rfl⟩ := pendingConsume_eq_some.mp hg
    exact (hp g r loop call o hs).imp_left fun h =>
      pendingConsume_eq_some.mpr ⟨r, loop, call, o, h, rfl, rfl⟩
  sent := by rw [List.filterMap_append, filterMap_announced ho, List.append_nil]
  record := fun hx => ⟨_, hx, rfl, rfl⟩

theorem quiet {out n} (ho : NoConsumer out) :
    Shrinks s { s with sent := s.sent ++ out, now := n } :=
  frame ho fun _ _ _ _ _ h => .inl h

/-- Only time passes. -/
theorem still (n : Nat) : Shrinks s { s with now := n } := by
  have h : Shrinks s { s with sent := s.sent ++ [], now := n } := quiet (by simp [NoConsumer])
  simpa using h

/-- One handler suspends or ends. -/
theorem set {g : HandlerRef} {x : Option Handler} {out} (ho : NoConsumer out)
    (hx : ∀ r loop call o, x = some ⟨r, .consume loop call o⟩ →
      (s.client call.consuming).consumes o.producerId = false) :
    Shrinks s { s with handlers := s.handlers.set g x, sent := s.sent ++ out } := by
  refine frame ho fun h r loop call o hs => ?_
  rw [suspended_set] at hs
  split at hs
  · split at hs
    · exact .inr (hx _ _ _ _ hs)
    · cases hs
  · exact .inl hs

theorem finish {g : HandlerRef} {out} (ho : NoConsumer out) :
    Shrinks s { s.finish g with sent := s.sent ++ out } :=
  set ho (by simp)

theorem ends (s : Room) (g : HandlerRef) : Shrinks s (s.finish g) := by
  have h : Shrinks s { s.finish g with sent := s.sent ++ [] } := finish (by simp [NoConsumer])
  simpa [Room.finish] using h

theorem suspend {g : HandlerRef} {r : ClientRef} {a : Await}
    (ha : ∀ loop call o, a = .consume loop call o →
      (s.client call.consuming).consumes o.producerId = false) : Shrinks s (s.suspend g r a) := by
  have h : Shrinks s { s with handlers := s.handlers.set g (some ⟨r, a⟩), sent := s.sent ++ [] } :=
    set (by simp [NoConsumer]) fun r' loop call o e => ha loop call o (by cases e; rfl)
  simpa [Room.suspend] using h

theorem consumeFrom (s : Room) (g : HandlerRef) (r : ClientRef) (loop : Loop)
    (call : ConsumeCall) : Shrinks s (s.consumeFrom g r loop call) := by
  rcases consumeFrom_cases s g r loop call with ⟨e, -⟩ | ⟨cursor, p, kind, o, e, -, ho, -⟩ <;>
    rw [e]
  · exact suspend (by simp)
  · refine suspend fun _ _ _ h => ?_
    cases h
    obtain ⟨hc, -, -, hp, -⟩ := toConsume_eq_some.mp ho
    rw [hp]
    exact hc

theorem runLoop (s : Room) (g : HandlerRef) (r : ClientRef) (loop : Loop) :
    Shrinks s (s.runLoop g r loop) := by
  rcases runLoop_cases s g r loop with ⟨e, -⟩ | ⟨cursor, id, e, -⟩ <;> rw [e]
  · cases loop.kind with
    | join q =>
        simp only [afterLoop]
        rw [finish_answer]
        exact finish (by simp only [NoConsumer]; intros; split <;> simp)
    | push =>
        simpa [afterLoop] using ends s g
  · rcases consumeClient_cases s g r { loop with cursor }
      (Loop.pair loop.kind (s.client r).clientId id).1
      (Loop.pair loop.kind (s.client r).clientId id).2 with ⟨-, e'⟩ | ⟨p, c, -, -, e'⟩ <;> rw [e']
    · exact suspend (by simp)
    · exact consumeFrom _ _ _ _ _

theorem spawn {r : ClientRef} {a : Await} (ha : ∀ loop call o, a ≠ .consume loop call o) :
    Shrinks s (s.spawn r a) := by
  have h : Shrinks s { s with
      handlers := s.handlers ++ [some ⟨r, a⟩], sent := s.sent ++ [], now := s.now } := by
    refine frame (by simp [NoConsumer]) fun g r' loop call o hs => ?_
    rw [suspended_append] at hs
    split at hs
    · cases hs; exact absurd rfl (ha _ _ _)
    · exact .inl hs
  simpa [Room.spawn] using h

/-- The maps and records of the consumers stay. -/
theorem keep {r : ClientRef} {f : Client → Client} {ts : List Transport} {ps : List Producer}
    (hf : ∀ c, (f c).consumers = c.consumers) :
    Shrinks s ((s.grown ts ps []).modify r f) where
  map := fun {c i k p} ha => by
    rw [client_modify] at ha
    split at ha
    · next e => subst e; rw [hf] at ha; exact ha
    · exact ha
  pending := .inl
  sent := rfl
  record := fun {k x} hx => ⟨x, by simpa [grown] using hx, rfl, rfl⟩

theorem add (s : Room) (ctx : ClientContext) : Shrinks s (s.add ctx) where
  map := fun {c i k p} ha => by
    simp only [Room.add, Function.update_apply] at ha
    split at ha
    · exact absurd ha LiveMap.not_at_empty
    · exact ha
  pending := .inl
  sent := rfl
  record := fun hx => ⟨_, hx, rfl, rfl⟩

theorem of_closes {T : TransportId → Prop} (h : Closes T s s') : Shrinks s s' where
  map := fun ha => h.consumerMap _ _ _ _ ha
  pending := fun {g c p} hp => .inl (by simpa [pendingConsume, h.suspended] using hp)
  sent := by
    obtain ⟨out, e⟩ := h.sent
    have hout : (out.map fun x => (x.1, ServerMessage.consumerClosedNotification x.2)).filterMap
        announced = [] := filterMap_announced (by simp [NoConsumer])
    rw [e, List.filterMap_append, hout, List.append_nil]
  record := fun {k x} hx => by
    rcases h.consumers k with e | ⟨y, hy, -, e, -⟩
    · exact ⟨x, e.trans hx, rfl, rfl⟩
    · obtain rfl := Option.some.inj (hx.symm.trans hy)
      exact ⟨_, e, rfl, rfl⟩

theorem quit (s : Room) (r : ClientRef) : Shrinks s (s.quit r) where
  map := fun {c i k p} ha => by
    simp only [Room.quit, client_modify] at ha
    split at ha
    · next e => subst e; exact ha
    · exact ha
  pending := .inl
  sent := rfl
  record := fun hx => ⟨_, hx, rfl, rfl⟩

theorem close (s : Room) : Shrinks s s.close :=
  of_closes (closes_of_close s)

theorem socketClosed (s : Room) (r : ClientRef) : Shrinks s (s.socketClosed r) := by
  by_cases he : (s.client r).eventsClosed = true
  · rw [socketClosed_grown he]
    exact keep fun _ => rfl
  · obtain ⟨s₂, hc, -, -, e⟩ := socketClosed_spec (by simpa using he)
    have h₂ := (quit s r).trans (of_closes hc)
    rw [e]
    split
    · exact h₂.trans (close s₂)
    · exact h₂

/-- A turn in which no `consume` resolves. -/
theorem turn {e : Event} (ht : Turn s e s') (he : ∀ h rtp, e ≠ .consumed h rtp) :
    Shrinks s s' := by
  cases ht with
  | add => exact add _ _
  | socketClosed => exact socketClosed _ _
  | @capabilities r caps =>
      have h : Shrinks s ((s.grown [] [] []).modify r fun c =>
          { c with rtpCapabilities := some caps }) := keep fun _ => rfl
      simpa using h
  | @joinCallRequest r q =>
      refine trans ?_ (runLoop _ _ _ _)
      have h : Shrinks s { s with
          handlers := s.handlers ++ [none], sent := s.sent ++ [], now := s.now } := by
        refine frame (by simp [NoConsumer]) fun g r' loop call o hs => ?_
        rw [suspended_append] at hs
        split at hs
        · cases hs
        · exact .inl hs
      simpa using h
  | @spawn r m a _ _ ha =>
      refine spawn fun loop call o e => ?_
      subst e
      cases m <;> simp [Awaits] at ha
  | ignored => simpa using still s.now
  | answered _ ho => exact quiet ho
  | @transportCreated h info r q role o hs =>
      obtain ⟨out, ho, e⟩ := transportCreated_eq s h r q role info
      rw [e]
      exact (keep fun c => by cases role <;> rfl).trans (finish ho)
  | @produced h r q t kind rtp hs =>
      obtain ⟨out, ho, e⟩ := produced_eq s h r q t kind
      rw [e]
      refine trans (trans ?_ (quiet (n := _) ho)) (runLoop _ _ _ _)
      exact keep fun _ => rfl
  | consumed => exact absurd rfl (he _ _)
  | resumed => exact runLoop _ _ _ _
  | consumeFailed => exact ends _ _
  | ended _ _ _ ho => exact finish ho
  | consumerClosed => exact of_closes (closes_of_closeConsumer _ _)
  | routerClosed => exact of_closes (closes_of_closeRouter s)
  | close => exact close s
  | elapsed => exact still _

end Shrinks

/-! ### Runs -/

namespace Unique

variable {s s' : Room}

theorem of_shrinks (h : s.Unique) (hs : Shrinks s s') : s'.Unique where
  one := fun ha hb => h.one (hs.map ha) (hs.map hb)
  pending := fun hp => (hs.pending hp).elim (fun hp => hs.consumes (h.pending hp)) id
  announced := fun ha => by
    rw [hs.sent] at ha
    obtain ⟨x, hx, ho, hp⟩ := h.announced ha
    obtain ⟨y, hy, ho', hp'⟩ := hs.record hx
    exact ⟨y, hy, ho'.trans ho, hp'.trans hp⟩
  once := by rw [hs.sent]; exact h.once

/-- A consumer of `p` comes into a map of `c` that has none, with no other `consume` pending for
them. -/
theorem store (h : s.Unique) {g : HandlerRef} {c : ClientRef} {p : ProducerId} {t : TransportId}
    {out : List (ClientRef × ServerMessage)}
    (hc : (s.client c).consumes p = false)
    (hsole : ∀ g', g' ≠ g → s.pendingConsume g' ≠ some (c, p))
    (hout : out.filterMap Room.announced = [] ∨
      out.filterMap Room.announced = [(c, s.router.consumers.length, p)]) :
    (finish { (s.grown [] [] [⟨c, t, p, false⟩]).modify c fun x =>
        { x with consumers := x.consumers.set s.router.consumers.length p } with
      sent := s.sent ++ out } g).Unique := by
  -- what the maps hold is the new consumer, or was there
  have map : ∀ {q i k p'}, ((finish { (s.grown [] [] [⟨c, t, p, false⟩]).modify c fun x =>
        { x with consumers := x.consumers.set s.router.consumers.length p } with
      sent := s.sent ++ out } g).client q).consumers.At i k p' →
      (q = c ∧ k = s.router.consumers.length ∧ p' = p) ∨
        (s.client q).consumers.At i k p' := by
    intro q i k p' ha
    simp only [finish, client_modify] at ha
    split at ha
    · next e =>
        subst e
        by_cases hk : k = s.router.consumers.length
        · subst hk
          obtain ⟨j, hj⟩ := LiveMap.exists_at_set (s.client q).consumers
            s.router.consumers.length p
          exact .inl ⟨rfl, rfl, (LiveMap.at_inj ha hj).2⟩
        · exact .inr ((LiveMap.at_set_of_ne hk).mp ha)
    · exact .inr ha
  have hnone : ∀ i k, ¬ (s.client c).consumers.At i k p := fun i k ha => by
    rw [consumes_iff.mpr ⟨i, k, ha⟩] at hc
    cases hc
  have fresh : ∀ x ∈ s.sent.filterMap Room.announced, x.2.1 < s.router.consumers.length := by
    rintro ⟨q, k, p'⟩ hx
    obtain ⟨y, hy, -⟩ := h.announced hx
    exact Cells.lt_of_some hy
  refine ⟨fun {q i j k k' p'} ha hb => ?_, fun {g' q p'} hp => ?_, fun {q k p'} hm => ?_, ?_⟩
  · rcases map ha with ⟨rfl, rfl, rfl⟩ | ha <;> rcases map hb with ⟨hq, hk, hp⟩ | hb
    · exact hk.symm
    · exact absurd hb (hnone _ _)
    · rw [hq, hp] at ha
      exact absurd ha (hnone _ _)
    · exact h.one ha hb
  · obtain ⟨r, loop, call, o, hs, rfl, rfl⟩ := pendingConsume_eq_some.mp hp
    rw [suspended_finish] at hs
    split at hs
    · cases hs
    · next hg =>
        have hp' : s.pendingConsume g' = some (call.consuming, o.producerId) :=
          pendingConsume_eq_some.mpr ⟨r, loop, call, o, hs, rfl, rfl⟩
        by_contra hn
        obtain ⟨i, k, ha⟩ := consumes_iff.mp (by simpa using hn)
        rcases map ha with ⟨hq, -, hp''⟩ | ha
        · exact hsole g' hg (by rw [hp', hq, hp''])
        · have := h.pending hp'
          rw [consumes_iff.mpr ⟨i, k, ha⟩] at this
          cases this
  · have hm' : (q, k, p') ∈ s.sent.filterMap Room.announced ∨
        (q, k, p') ∈ out.filterMap Room.announced := by
      simpa [finish, List.filterMap_append] using hm
    rcases hm' with hm' | hm'
    · obtain ⟨x, hx, ho⟩ := h.announced hm'
      refine ⟨x, ?_, ho⟩
      simpa [finish, grown] using Cells.append_of_some hx
    · rcases hout with e | e <;> rw [e] at hm'
      · cases hm'
      · obtain ⟨rfl, rfl, rfl⟩ : q = c ∧ k = _ ∧ p' = p := by simpa using hm'
        exact ⟨⟨q, t, p', false⟩, by simp [finish, grown], rfl, rfl⟩
  · show (((s.sent ++ out).filterMap Room.announced).map fun x => x.2.1).Nodup
    rw [List.filterMap_append, List.map_append]
    rcases hout with e | e <;> rw [e]
    · simpa using h.once
    · refine List.nodup_append.mpr ⟨h.once, by simp, ?_⟩
      rintro a ha b hb rfl
      obtain ⟨x, hx, rfl⟩ := List.mem_map.mp ha
      have := fresh x hx
      exact absurd (by simpa using hb) (Nat.ne_of_lt this)

/-- `consume` resolves as the one pending call for its client and producer. -/
theorem consumed (h : s.Unique) {g : HandlerRef} {r : ClientRef} {loop : Loop}
    {call : ConsumeCall} {o : ConsumeOptions} {rtp : RtpParameters}
    (hs : s.suspended g = some ⟨r, .consume loop call o⟩)
    (hsole : ∀ g' < s.handlers.length, g' ≠ g → s.pendingConsume g' ≠ s.pendingConsume g) :
    (s.consumed g r loop call o rtp).Unique := by
  have hp : s.pendingConsume g = some (call.consuming, o.producerId) :=
    pendingConsume_eq_some.mpr ⟨r, loop, call, o, hs, rfl, rfl⟩
  rw [consumed_eq, ← consumeFrom_finish]
  refine of_shrinks (h.store (h.pending hp) (fun g' hg e => ?_) ?_) (Shrinks.consumeFrom _ _ _ _ _)
  · obtain ⟨_, _, _, _, hs', -⟩ := pendingConsume_eq_some.mp e
    exact hsole g' (suspended_lt hs') hg (e.trans hp.symm)
  · split
    · exact .inl rfl
    · exact .inr rfl

theorem turn (h : s.Unique) {e : Event} (ht : Turn s e s') (hg : s.SoleConsume e) :
    s'.Unique := by
  by_cases he : ∃ g rtp, e = .consumed g rtp
  · obtain ⟨g, rtp, rfl⟩ := he
    cases ht with
    | consumed hs => exact h.consumed hs hg
    | ended he => exact he.elim
  · exact h.of_shrinks (Shrinks.turn ht fun g rtp e' => he ⟨g, rtp, e'⟩)

/-- At most one open consumer in the map, and at most one announced. -/
theorem single (h : s.Unique) (ht : s.Tables) : s.SingleConsumer := by
  refine fun c p => ⟨fun k k' hk _ hk' _ => ?_, ?_⟩
  · obtain ⟨i, hi⟩ := LiveMap.get_eq_some.mp hk
    obtain ⟨j, hj⟩ := LiveMap.get_eq_some.mp hk'
    exact h.one hi hj
  · have hnodup : (s.announcedOpen c p).Nodup := h.once.sublist (List.filter_sublist.map _)
    have hin : ∀ k ∈ s.announcedOpen c p, ∃ i, (s.client c).consumers.At i k p := by
      intro k hk
      simp only [announcedOpen, List.mem_map, List.mem_filter, decide_eq_true_eq] at hk
      obtain ⟨⟨_, _, _⟩, ⟨hm, rfl, rfl, ho⟩, rfl⟩ := hk
      obtain ⟨x, hx, rfl, rfl⟩ := h.announced hm
      refine (ht.consumerIn hx).2 ?_
      simpa [consumerOpen, hx] using ho
    match hl : s.announcedOpen c p with
    | [] => simp
    | [k] => simp
    | k :: k' :: l =>
        rw [hl] at hnodup hin
        obtain ⟨i, hi⟩ := hin k (by simp)
        obtain ⟨j, hj⟩ := hin k' (by simp)
        have := h.one hi hj
        simp [this] at hnodup

end Unique

theorem unique_of_run {config : RoomConfig} {id : CallId} {caps : RtpCapabilities}
    {es : List Event} {s : Room}
    (hx : exec step (.new config (createRouter id caps)) es = some s)
    (ha : Along step SoleConsume (.new config (createRouter id caps)) es) : s.Unique := by
  refine exec_invariant (I := Unique) (fun s e s' h hg he => h.turn (step_turn he) hg) ?_ ha hx
  refine ⟨fun h => absurd h LiveMap.not_at_empty, ?_, ?_, ?_⟩
  · intro h c p hp
    simp [pendingConsume, suspended, Room.new] at hp
  · simp [Room.new]
  · simp [Room.new]

/-- **One consumer for each client and producer.**  In every run in which each `consume` resolves
as the one pending call for its client and producer, a client holds at most one open consumer of a
producer, and was told of at most one that is open. -/
theorem single_consumer {config : RoomConfig} {id : CallId} {caps : RtpCapabilities}
    {es : List Event} {s : Room}
    (hx : exec step (.new config (createRouter id caps)) es = some s)
    (ha : Along step SoleConsume (.new config (createRouter id caps)) es) : s.SingleConsumer :=
  (unique_of_run hx ha).single (tables_of_run hx)

/-- The client `1` joins, and joins once more when that is done. -/
def joinsAgain : List Event :=
  joining ++ [.message 1 (.joinCallRequest "4"), .consumed 3 "opus", .resumed 3,
    .message 1 (.joinCallRequest "5"), .resumed 4]

theorem single_consumer_joinsAgain :
    ∃ s, exec step lobby joinsAgain = some s ∧ s.SingleConsumer := by
  have hx : exec step lobby joinsAgain = some _ := rfl
  exact ⟨_, hx, single_consumer hx (by decide)⟩

/-- The client `1` joins twice: both handlers wait in `consume` for the producer `0`. -/
def joinsTwice : List Event :=
  joining ++ [.message 1 (.joinCallRequest "4"), .message 1 (.joinCallRequest "5"),
    .consumed 3 "opus", .consumed 4 "opus"]

/-- **Two joins, two consumers.**  Both calls of `consume` store and announce their consumer. -/
theorem consumed_twice : ∃ s, exec step lobby joinsTwice = some s ∧
    s.announcedOpen 1 0 = [0, 1] ∧ ¬ s.SingleConsumer := by
  have hx : exec step lobby joinsTwice = some _ := rfl
  refine ⟨_, hx, by decide, fun h => ?_⟩
  exact absurd ((h 1 0).1 0 1 (by decide) (by decide) (by decide) (by decide)) (by decide)

end DemoApp.Sfu.Room
