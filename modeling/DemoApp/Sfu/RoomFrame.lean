import DemoApp.Support.Cells
import DemoApp.Sfu.Room

/-!
# Sfu — RoomFrame

What the primitive updates of a room change, and that they change nothing else.  The loops over
clients and producers change their own handler and what was sent (`runLoop_frame`).
-/

namespace DemoApp.Sfu.Room

/-! ### The primitive updates -/

@[simp] theorem client_modify (s : Room) (r q : ClientRef) (f : Client → Client) :
    (s.modify r f).client q = if q = r then f (s.client r) else s.client q := by
  simp [modify, Function.update_apply]

@[simp] theorem router_modify (s : Room) (r : ClientRef) (f : Client → Client) :
    (s.modify r f).router = s.router := rfl

@[simp] theorem clients_modify (s : Room) (r : ClientRef) (f : Client → Client) :
    (s.modify r f).clients = s.clients := rfl

@[simp] theorem added_modify (s : Room) (r : ClientRef) (f : Client → Client) :
    (s.modify r f).added = s.added := rfl

@[simp] theorem handlers_modify (s : Room) (r : ClientRef) (f : Client → Client) :
    (s.modify r f).handlers = s.handlers := rfl

@[simp] theorem sent_modify (s : Room) (r : ClientRef) (f : Client → Client) :
    (s.modify r f).sent = s.sent := rfl

/-- Sending changes what was sent, by at most the one message. -/
theorem send_frame (s : Room) (r : ClientRef) (m : ServerMessage) :
    s.send r m =
      { s with sent := s.sent ++ if (s.client r).eventsClosed then [] else [(r, m)] } := by
  rw [send]
  split <;> simp

@[simp] theorem router_send (s : Room) (r : ClientRef) (m : ServerMessage) :
    (s.send r m).router = s.router := by rw [send_frame]

/-! ### Suspended handlers -/

theorem suspended_eq_some {s : Room} {h : HandlerRef} {x : Handler} :
    s.suspended h = some x ↔ s.handlers[h]? = some (some x) := by
  simp [suspended, Option.join_eq_some_iff]

theorem suspended_lt {s : Room} {h : HandlerRef} {x : Handler} (hs : s.suspended h = some x) :
    h < s.handlers.length :=
  Cells.lt_of_some (suspended_eq_some.mp hs)

theorem suspended_set {s : Room} {h g : HandlerRef} {x : Option Handler} :
    suspended { s with handlers := s.handlers.set h x } g =
      if g = h then (if h < s.handlers.length then x else none) else s.suspended g := by
  simp only [suspended, List.getElem?_set]
  split
  · next e =>
      subst e
      split <;> simp_all
  · next e => simp [Ne.symm e]

theorem suspended_append {s : Room} {g : HandlerRef} {x : Option Handler} :
    suspended { s with handlers := s.handlers ++ [x] } g =
      if g = s.handlers.length then x else s.suspended g := by
  simp only [suspended]
  rcases Nat.lt_trichotomy g s.handlers.length with hlt | rfl | hgt
  · rw [List.getElem?_append_left hlt, if_neg (Nat.ne_of_lt hlt)]
  · simp
  · rw [List.getElem?_eq_none (by simp; omega), List.getElem?_eq_none (Nat.le_of_lt hgt),
      if_neg (Nat.ne_of_gt hgt)]

theorem suspended_spawn {s : Room} {r : ClientRef} {a : Await} {g : HandlerRef} :
    (s.spawn r a).suspended g = if g = s.handlers.length then some ⟨r, a⟩ else s.suspended g :=
  suspended_append

theorem suspended_suspend {s : Room} {h g : HandlerRef} {r : ClientRef} {a : Await}
    (hh : h < s.handlers.length) :
    (s.suspend h r a).suspended g = if g = h then some ⟨r, a⟩ else s.suspended g := by
  rw [suspend, suspended_set, if_pos hh]

theorem suspended_finish {s : Room} {h g : HandlerRef} :
    (s.finish h).suspended g = if g = h then none else s.suspended g := by
  rw [finish, suspended_set]
  simp

/-- The consuming client and the producer of the `consume` at which `h` is suspended. -/
def pendingConsume (s : Room) (h : HandlerRef) : Option (ClientRef × ProducerId) :=
  match s.suspended h with
  | some ⟨_, .consume _ call o⟩ => some (call.consuming, o.producerId)
  | _ => none

theorem pendingConsume_eq_some {s : Room} {h : HandlerRef} {c : ClientRef} {p : ProducerId} :
    s.pendingConsume h = some (c, p) ↔ ∃ r loop call o,
      s.suspended h = some ⟨r, .consume loop call o⟩ ∧ call.consuming = c ∧ o.producerId = p := by
  rw [pendingConsume]
  split
  · next r loop call o hs => simp [hs]
  · next hn =>
      simp only [reduceCtorEq, false_iff, not_exists]
      rintro r loop call o ⟨hs, -⟩
      exact hn _ _ _ _ hs

/-! ### The loops -/

theorem consumes_iff {c : Client} {p : ProducerId} :
    c.consumes p = true ↔ ∃ i k, c.consumers.At i k p := by
  rw [Client.consumes]
  cases h : c.consumers.next 0 fun _ producerId => if producerId = p then some () else none with
  | none =>
      simp only [Option.isSome_none, Bool.false_eq_true, false_iff, not_exists]
      intro i k ha
      have := LiveMap.next_eq_none h ⟨i, Nat.zero_le i, ha⟩
      simp at this
  | some x =>
      obtain ⟨cursor, k, u⟩ := x
      obtain ⟨q, ⟨i, -, ha⟩, hq⟩ := LiveMap.exists_of_next h
      have e : q = p := by
        by_contra hne
        simp [hne] at hq
      exact iff_of_true rfl ⟨i, k, e ▸ ha⟩

/-- The loop over the producers stops at a producer that is not consumed yet, by a client with
capabilities and a receiving transport. -/
theorem toConsume_eq_some {c : Client} {p : ProducerId} {kind : MediaKind} {o : ConsumeOptions} :
    c.toConsume p kind = some o ↔ c.consumes p = false ∧
      c.rtpCapabilities = some o.rtpCapabilities ∧ c.rcvTransport = some o.transport ∧
      o.producerId = p ∧ o.kind = kind := by
  rw [Client.toConsume]
  split
  · next h => simp [h]
  · next h =>
      simp only [Bool.not_eq_true] at h
      simp only [h, true_and, Option.bind_eq_bind, Option.bind_eq_some_iff, Option.some.injEq]
      constructor
      · rintro ⟨caps, hc, t, ht, rfl⟩
        exact ⟨hc, ht, rfl, rfl⟩
      · rintro ⟨hc, ht, rfl, rfl⟩
        exact ⟨_, hc, _, ht, rfl⟩

/-- It passes over a producer that is consumed, or when the client is not ready. -/
theorem toConsume_eq_none {c : Client} {p : ProducerId} {kind : MediaKind} :
    c.toConsume p kind = none ↔ c.consumes p = true ∨ c.rtpCapabilities = none ∨
      c.rcvTransport = none := by
  rw [Client.toConsume]
  cases c.consumes p <;> cases c.rtpCapabilities <;> cases c.rcvTransport <;> simp

/-- What the loop of `_consumeClient` does next: it ends having passed over all that was before
it, or it suspends at the first producer it does not pass over. -/
theorem consumeFrom_cases (s : Room) (h : HandlerRef) (r : ClientRef) (loop : Loop)
    (call : ConsumeCall) :
    (s.consumeFrom h r loop call = s.suspend h r (.returned loop) ∧
      ∀ p kind, (s.client call.producing).producers.Ahead call.cursor p kind →
        (s.client call.consuming).toConsume p kind = none) ∨
    ∃ cursor p kind o,
      s.consumeFrom h r loop call = s.suspend h r (.consume loop { call with cursor } o) ∧
      (s.client call.producing).producers.Ahead call.cursor p kind ∧
      (s.client call.consuming).toConsume p kind = some o ∧
      ∀ q l, (s.client call.producing).producers.Ahead call.cursor q l →
        (s.client call.consuming).toConsume q l = none ∨ q = p ∨
          (s.client call.producing).producers.Ahead cursor q l := by
  rw [consumeFrom]
  split
  · next hn => exact .inl ⟨rfl, fun p kind ha => LiveMap.next_eq_none hn ha⟩
  · next cursor p o hn =>
      obtain ⟨kind, ha, ho⟩ := LiveMap.exists_of_next hn
      refine .inr ⟨cursor, p, kind, o, rfl, ha, ho, fun q l hq => ?_⟩
      rcases LiveMap.ahead_next hn hq with h₁ | ⟨h₁, -⟩ | h₁
      · exact .inl h₁
      · exact .inr (.inl h₁.symm)
      · exact .inr (.inr h₁)

theorem consumeFrom_frame (s : Room) (h : HandlerRef) (r : ClientRef) (loop : Loop)
    (call : ConsumeCall) : ∃ a, s.consumeFrom h r loop call = s.suspend h r a := by
  rcases consumeFrom_cases s h r loop call with ⟨e, -⟩ | ⟨_, _, _, _, e, -⟩
  · exact ⟨_, e⟩
  · exact ⟨_, e⟩

/-- The loop does not read the state of its own handler. -/
theorem consumeFrom_finish (s : Room) (h : HandlerRef) (r : ClientRef) (loop : Loop)
    (call : ConsumeCall) :
    (s.finish h).consumeFrom h r loop call = s.consumeFrom h r loop call := by
  unfold consumeFrom
  split <;> simp_all [suspend, finish]

/-- `_consumeClient` returns at once unless both ids are stored. -/
theorem consumeClient_cases (s : Room) (h : HandlerRef) (r : ClientRef) (loop : Loop)
    (pid cid : ClientId) :
    ((s.clients.get pid = none ∨ s.clients.get cid = none) ∧
      s.consumeClient h r loop pid cid = s.suspend h r (.returned loop)) ∨
    ∃ p c, s.clients.get pid = some p ∧ s.clients.get cid = some c ∧
      s.consumeClient h r loop pid cid = s.consumeFrom h r loop ⟨pid, p, c, 0⟩ := by
  rw [consumeClient]
  cases hp : s.clients.get pid with
  | none => exact .inl ⟨.inl rfl, rfl⟩
  | some p =>
      cases hc : s.clients.get cid with
      | none => exact .inl ⟨.inr rfl, rfl⟩
      | some c => exact .inr ⟨p, c, rfl, rfl, rfl⟩

theorem consumeClient_frame (s : Room) (h : HandlerRef) (r : ClientRef) (loop : Loop)
    (pid cid : ClientId) : ∃ a, s.consumeClient h r loop pid cid = s.suspend h r a := by
  rcases consumeClient_cases s h r loop pid cid with ⟨-, e⟩ | ⟨p, c, -, -, e⟩
  · exact ⟨_, e⟩
  · rw [e]; exact consumeFrom_frame _ _ _ _ _

/-- The two ids a loop calls `_consumeClient` with, the other client being `id`. -/
def Loop.pair (kind : LoopKind) (self id : ClientId) : ClientId × ClientId :=
  match kind with
  | .join _ => (id, self)
  | .push   => (self, id)

/-- What a loop over the clients does next: it ends, having passed over all that was before it
but the client itself, or it calls `_consumeClient` on the next other client. -/
theorem runLoop_cases (s : Room) (h : HandlerRef) (r : ClientRef) (loop : Loop) :
    (s.runLoop h r loop = (s.afterLoop r loop.kind).finish h ∧
      ∀ id q, s.clients.Ahead loop.cursor id q → id = (s.client r).clientId) ∨
    ∃ cursor id,
      s.runLoop h r loop = s.consumeClient h r { loop with cursor }
        (Loop.pair loop.kind (s.client r).clientId id).1
        (Loop.pair loop.kind (s.client r).clientId id).2 ∧
      ∀ id' q, s.clients.Ahead loop.cursor id' q → id' ≠ (s.client r).clientId →
        id' = id ∨ s.clients.Ahead cursor id' q := by
  rw [runLoop]
  split
  · next hn =>
      refine .inl ⟨rfl, fun id q ha => ?_⟩
      have := LiveMap.next_eq_none hn ha
      by_contra hne
      simp [skip, Ne.symm hne] at this
  · next cursor k id hn =>
      refine .inr ⟨cursor, id, ?_, fun id' q ha hne => ?_⟩
      · cases hk : loop.kind <;> simp [Loop.pair]
      · rcases LiveMap.ahead_next hn ha with h₁ | ⟨-, h₁⟩ | h₁
        · simp [skip, Ne.symm hne] at h₁
        · simp only [skip, Ne.symm hne, if_false, Option.some.injEq] at h₁
          exact .inl h₁
        · exact .inr h₁

/-- A loop changes its own handler, and what was sent. -/
theorem runLoop_frame (s : Room) (h : HandlerRef) (r : ClientRef) (loop : Loop) :
    ∃ x out, s.runLoop h r loop =
      { s with handlers := s.handlers.set h x, sent := s.sent ++ out } := by
  rcases runLoop_cases s h r loop with ⟨e, -⟩ | ⟨cursor, id, e, -⟩
  · rw [e]
    cases loop.kind with
    | join requestId =>
        simp only [afterLoop, send_frame, finish]
        exact ⟨_, _, rfl⟩
    | push => exact ⟨none, [], by simp [afterLoop, finish]⟩
  · obtain ⟨a, ha⟩ := consumeClient_frame s h r { loop with cursor }
      (Loop.pair loop.kind (s.client r).clientId id).1
      (Loop.pair loop.kind (s.client r).clientId id).2
    rw [e, ha]
    exact ⟨some ⟨r, a⟩, [], by simp [suspend]⟩

end DemoApp.Sfu.Room
