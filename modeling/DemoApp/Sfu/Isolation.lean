import DemoApp.Sfu.Delivery

/-!
# Sfu — Isolation

Every mediasoup call of a room has a `catch` except `consume`: when it rejects, `_consumeClient`
and the handler that called it end, whatever they still had to do.

* `rejection_spreads`: a client joins a room with two producers, and `consume` rejects for the
  first.  The second is never consumed, and the join is not answered.
* `fault_isolated`: as long as a rejection only strikes a handler that has nothing else to consume
  and nobody to answer, every pair of the handler is consumed or was itself rejected, and every
  join of a client that is still connected is answered.
-/

namespace DemoApp.Sfu.Room
open Machine

/-! ### The condition -/

/-- `_consumeClient` would call `consume` again from this cursor. -/
def wants (s : Room) (producing consuming : ClientRef) (cursor : Nat) : Bool :=
  ((s.client producing).producers.next cursor (s.client consuming).toConsume).isSome

/-- The loop over the clients would call `consume` again. -/
def outstanding (s : Room) (r : ClientRef) (loop : Loop) : Bool :=
  (s.clients.next loop.cursor fun id q =>
    if id = (s.client r).clientId then none
    else if match loop.kind with
      | .join _ => s.wants q r 0
      | .push   => s.wants r q 0
    then some () else none).isSome

/-- A handler that waits in `consume` has nothing else to consume and nobody to answer. -/
def spent (s : Room) : Handler → Bool
  | ⟨r, .consume loop call _⟩ =>
      !s.wants call.producing call.consuming call.cursor && !s.outstanding r loop &&
        match loop.kind with
        | .join _ => (s.client r).eventsClosed
        | .push   => true
  | _ => true

/-- `consume` rejects only for a handler that is spent. -/
def HarmlessRejection (s : Room) : Event → Prop
  | .consumeFailed h => (s.suspended h).all s.spent
  | _ => True

instance (s : Room) : (e : Event) → Decidable (HarmlessRejection s e)
  | .consumeFailed h => inferInstanceAs (Decidable ((s.suspended h).all s.spent = true))
  | .add _ | .socketClosed _ | .message _ _ | .transportCreated _ _ | .transportFailed _
  | .transportConnected _ _ | .produced _ | .produceFailed _ | .producerSwitched _
  | .consumed _ _ | .resumed _ | .consumerClosed _ | .routerClosed | .close | .elapsed _ =>
      isTrue trivial

/-! ### The property -/

/-- The turn starts the loop over the clients of the handler `h` of `r`. -/
def Starts (s : Room) (e : Event) (h : HandlerRef) (r : ClientRef) : LoopKind → Prop
  | .join q => e = .message r (.joinCallRequest q) ∧ (s.client r).eventsClosed = false ∧
      h = s.handlers.length
  | .push => ∃ q t kind rtp, e = .produced h ∧ s.suspended h = some ⟨r, .produce q t kind rtp⟩

/-- The pairs of a handler: a client that joins consumes, one that produces is consumed. -/
def InScope (kind : LoopKind) (r c p : ClientRef) : Prop :=
  match kind with
  | .join _ => r = c
  | .push   => r = p

/-- In the run of `fs` from `s₁` the call of `consume` by `h` for the client `c` and the producer
`P` rejected. -/
def Rejected (s₁ : Room) (fs : List Event) (h : HandlerRef) (c : ClientRef) (P : ProducerId) :
    Prop :=
  ∃ gs gs' s₂, fs = gs ++ .consumeFailed h :: gs' ∧ exec step s₁ gs = some s₂ ∧
    s₂.pendingConsume h = some (c, P)

def Answered (s : Room) (r : ClientRef) (q : RequestId) : Prop :=
  ∃ callId token, (r, ServerMessage.joinCallResponse q callId token) ∈ s.sent

/-- What a handler that started before `s₁`, ran along `fs` and ended before `s` has done: every
pair of its that was there all the time is consumed, unless its own call rejected, and a join is
answered. -/
def Isolated (s₁ : Room) (fs : List Event) (s : Room) (h : HandlerRef) (r : ClientRef)
    (kind : LoopKind) : Prop :=
  (∀ c p P, InScope kind r c p → s₁.Ready c → s₁.Pair c p P → s.Pair c p P →
    (s.client c).consumes P = true ∨ Rejected s₁ fs h c P) ∧
  ∀ q, kind = .join q → (s.client r).eventsClosed = false → s.Answered r q

/-! ### A spent handler -/

theorem consumes_of_not_wants {s : Room} {c p : ClientRef} {cursor : Nat} {P : ProducerId}
    {kind : MediaKind} (hr : s.Ready c) (hw : s.wants p c cursor = false)
    (ha : (s.client p).producers.Ahead cursor P kind) : (s.client c).consumes P = true := by
  have hn : (s.client p).producers.next cursor (s.client c).toConsume = none := by
    simpa [wants] using hw
  exact hr.consumes (LiveMap.next_eq_none hn ha)

/-- A handler that is spent covers nothing but the pair it waits for. -/
theorem covers_spent {s : Room} {r c p : ClientRef} {P : ProducerId} {loop : Loop}
    {call : ConsumeCall} {o : ConsumeOptions} (hr : s.Ready c) (hpair : s.Pair c p P)
    (hs : s.spent ⟨r, .consume loop call o⟩ = true)
    (hcov : s.Covers ⟨r, .consume loop call o⟩ c p P) :
    (call.consuming = c ∧ o.producerId = P) ∨ (s.client c).consumes P = true := by
  simp only [spent, Bool.and_eq_true, Bool.not_eq_true'] at hs
  obtain ⟨⟨hw, hout⟩, -⟩ := hs
  rcases hcov with ⟨rfl, rfl, rfl | ⟨kind, ha⟩⟩ | hl
  · exact .inl ⟨rfl, rfl⟩
  · exact .inr (consumes_of_not_wants hr hw ha)
  · have hn : ∀ id q, s.clients.Ahead loop.cursor id q → id ≠ (s.client r).clientId →
        (match loop.kind with
          | .join _ => s.wants q r 0
          | .push   => s.wants r q 0) = false := by
      intro id q ha hne
      have := LiveMap.next_eq_none (by simpa [outstanding] using hout) ha
      simpa [hne] using this
    obtain ⟨i, kind, hi⟩ := hpair.at
    have ha : (s.client p).producers.Ahead 0 P kind := ⟨i, Nat.zero_le _, hi⟩
    rw [LoopAhead] at hl
    cases hk : loop.kind with
    | join _ =>
        rw [hk] at hl hn
        obtain ⟨rfl, hl⟩ := hl
        exact .inr (consumes_of_not_wants hr (hn _ _ hl hpair.id_ne.symm) ha)
    | push =>
        rw [hk] at hl hn
        obtain ⟨rfl, hl⟩ := hl
        exact .inr (consumes_of_not_wants hr (hn _ _ hl hpair.id_ne) ha)

/-! ### The pairs of a handler -/

theorem Closes.producers_lt {T : TransportId → Prop} {s s' : Room} (h : Closes T s s') {P : Nat}
    (hP : P < s.router.producers.length) : P < s'.router.producers.length := by
  rcases h.producers P with e | ⟨y, -, -, e, -⟩
  · exact Cells.lt_of_some (e.trans (List.getElem?_eq_getElem hP))
  · exact Cells.lt_of_some e

theorem producers_runLoop (s : Room) (h : HandlerRef) (r : ClientRef) (loop : Loop) :
    (s.runLoop h r loop).router.producers = s.router.producers := by
  obtain ⟨x, out, e⟩ := runLoop_frame s h r loop
  rw [e]

/-- A producer that exists goes on existing. -/
theorem producers_turn {s s' : Room} {e : Event} (ht : Turn s e s') {P : Nat}
    (hP : P < s.router.producers.length) : P < s'.router.producers.length := by
  cases ht with
  | add | capabilities | spawn | ignored | answered | consumeFailed | ended | elapsed => exact hP
  | @socketClosed r =>
      by_cases he : (s.client r).eventsClosed = true
      · rw [socketClosed_of_closed he]
        exact hP
      · obtain ⟨s₂, hc, -, -, e⟩ := socketClosed_spec (by simpa using he)
        have h₂ : P < s₂.router.producers.length := hc.producers_lt hP
        rw [e]
        split
        · exact (closes_of_close s₂).producers_lt h₂
        · exact h₂
  | joinCallRequest => rw [joinCallRequest, producers_runLoop]; exact hP
  | resumed => rw [producers_runLoop]; exact hP
  | @transportCreated h info r q role o hs =>
      obtain ⟨out, -, e'⟩ := transportCreated_eq s h r q role info
      rw [e']
      simpa [finish, grown] using hP
  | @produced h r q t kind rtp hs =>
      obtain ⟨out, -, e'⟩ := produced_eq s h r q t kind
      rw [e', producers_runLoop]
      simpa [grown] using Nat.lt_succ_of_lt hP
  | @consumed h rtp r loop call o hs =>
      have hf : ∀ s₁ : Room, (s₁.consumeFrom h r loop call).router = s₁.router := fun s₁ => by
        obtain ⟨a, e⟩ := consumeFrom_frame s₁ h r loop call
        rw [e]; rfl
      rw [consumed_eq, hf]
      simpa [grown] using hP
  | consumerClosed => exact (closes_of_closeConsumer _ _).producers_lt hP
  | routerClosed => exact (closes_of_closeRouter s).producers_lt hP
  | close => exact (closes_of_close s).producers_lt hP

theorem Rejected.snoc {s₁ : Room} {fs : List Event} {h : HandlerRef} {c : ClientRef}
    {P : ProducerId} (hr : Rejected s₁ fs h c P) (e : Event) : Rejected s₁ (fs ++ [e]) h c P := by
  obtain ⟨gs, gs', s₂, rfl, hx, hp⟩ := hr
  exact ⟨gs, gs' ++ [e], s₂, by simp, hx, hp⟩

/-- A pair that a handler covers and that stays in the room is covered to the end, unless its own
call rejects. -/
theorem covered_run {s₁ s : Room} {fs : List Event} {h : HandlerRef} {c p : ClientRef}
    {P : ProducerId} (ht : s₁.Tables) (hr : s₁.Ready c) (hpair : s₁.Pair c p P)
    (hcov : s₁.Covered h c p P) (hx : exec step s₁ fs = some s)
    (ha : Along step HarmlessRejection s₁ fs) (hpair' : s.Pair c p P) :
    s.Covered h c p P ∨ Rejected s₁ fs h c P := by
  have main : Along step HarmlessRejection s₁ fs → s.Tables ∧ c < s.added ∧ s.Ready c ∧
      P < s.router.producers.length ∧
      (s.Pair c p P → s.Covered h c p P ∨ Rejected s₁ fs h c P) := by
    refine exec_history (I := fun fs s => Along step HarmlessRejection s₁ fs → s.Tables ∧
      c < s.added ∧ s.Ready c ∧ P < s.router.producers.length ∧
      (s.Pair c p P → s.Covered h c p P ∨ Rejected s₁ fs h c P)) (fun _ => ?_)
      (fun fs s e s' hx ih he ha => ?_) hx
    · obtain ⟨i, kind, hi⟩ := hpair.at
      obtain ⟨x, hx, -⟩ := ht.producer hi
      exact ⟨ht, (ht.stored hpair.consuming).1, hr, Cells.lt_of_some hx,
        fun _ => .inl hcov⟩
    · obtain ⟨ha, hG⟩ := (along_snoc hx).mp ha
      obtain ⟨ht, hc, hr, hP, ih⟩ := ih ha
      have hturn := step_turn he
      refine ⟨ht.turn hturn, Nat.lt_of_lt_of_le hc (added_step he), ready_turn hturn hc hr,
        producers_turn hturn hP, fun hpair' => ?_⟩
      have hpair : s.Pair c p P := by
        refine (pair_back ht he hc hpair').resolve_right ?_
        rintro ⟨_, _, _, _, _, -, -, -, e⟩
        exact absurd hP (e ▸ Nat.lt_irrefl _)
      rcases ih hpair with hcov | hrej
      · by_cases hf : e = .consumeFailed h
        · subst hf
          cases hturn with
          | @consumeFailed g r loop call o hs =>
              rcases hcov with hcons | ⟨x, hx', hcov⟩
              · exact .inl (.inl hcons)
              · obtain rfl := Option.some.inj (hx'.symm.trans hs)
                have hspent : s.spent ⟨r, .consume loop call o⟩ = true := by
                  simpa [HarmlessRejection, hs] using hG
                rcases covers_spent hr hpair hspent hcov with ⟨rfl, rfl⟩ | hcons
                · exact .inr ⟨fs, [], s, rfl, hx,
                    pendingConsume_eq_some.mpr ⟨r, loop, call, o, hs, rfl, rfl⟩⟩
                · exact .inl (.inl hcons)
          | ended hend => exact hend.elim
        · exact .inl (covered_turn ht hturn hr hpair hpair' hf hcov)
      · exact .inr (hrej.snoc e)
  exact (main ha).2.2.2.2 hpair'

/-! ### The answer to a join -/

/-- The handler `h` of `r` is in its loop. -/
def Looping (s : Room) (h : HandlerRef) (r : ClientRef) (kind : LoopKind) : Prop :=
  ∃ a, s.suspended h = some ⟨r, a⟩ ∧ a.loopKind = some kind

section Looping

variable {s s' : Room} {h : HandlerRef} {r : ClientRef} {loop : Loop}

theorem looping_suspend {a : Await} {kind : LoopKind} (hh : h < s.handlers.length)
    (ha : a.loopKind = some kind) : (s.suspend h r a).Looping h r kind :=
  ⟨a, by rw [suspended_suspend hh, if_pos rfl], ha⟩

theorem looping_consumeFrom {call : ConsumeCall} (hh : h < s.handlers.length) :
    (s.consumeFrom h r loop call).Looping h r loop.kind := by
  rcases consumeFrom_cases s h r loop call with ⟨e, -⟩ | ⟨_, _, _, _, e, -⟩ <;> rw [e]
  · exact looping_suspend hh rfl
  · exact looping_suspend hh rfl

/-- A loop over the clients goes on, or its handler ends with the answer. -/
theorem looping_runLoop {q : RequestId} (hh : h < s.handlers.length)
    (hk : loop.kind = .join q) : (s.client r).eventsClosed = true ∨
      (s.runLoop h r loop).Answered r q ∨ (s.runLoop h r loop).Looping h r (.join q) := by
  rcases runLoop_cases s h r loop with ⟨e, -⟩ | ⟨cursor, id, e, -⟩ <;> rw [e]
  · by_cases he : (s.client r).eventsClosed = true
    · exact .inl he
    · refine .inr (.inl ⟨s.callId, s.observerAccessToken r, ?_⟩)
      rw [hk, afterLoop, finish_answer]
      simp [he]
  · refine .inr (.inr ?_)
    rcases consumeClient_cases s h r { loop with cursor }
      (Loop.pair loop.kind (s.client r).clientId id).1
      (Loop.pair loop.kind (s.client r).clientId id).2 with ⟨-, e'⟩ | ⟨_, _, -, -, e'⟩ <;> rw [e']
    · exact looping_suspend hh (congrArg some hk)
    · have hloop : ∀ call, (s.consumeFrom h r { loop with cursor } call).Looping h r loop.kind :=
        fun _ => looping_consumeFrom hh
      exact hk ▸ hloop _

/-- A join is answered, or still running, or its client is gone. -/
def Attends (s : Room) (h : HandlerRef) (r : ClientRef) (q : RequestId) : Prop :=
  r < s.added ∧ ((s.client r).eventsClosed = true ∨ s.Answered r q ∨ s.Looping h r (.join q))

theorem attends_step {e : Event} {q : RequestId} (ha : s.Attends h r q)
    (hG : s.HarmlessRejection e) (he : s.step e = some s') : s'.Attends h r q := by
  obtain ⟨hr, ha⟩ := ha
  have hturn := step_turn he
  have hclosed : (s.client r).eventsClosed = true → (s'.client r).eventsClosed = true := fun h =>
    Core.eventsClosed_step (core_step he) (r := r) hr h
  refine ⟨Nat.lt_of_lt_of_le hr (added_step he), ?_⟩
  rcases ha with hc | ⟨callId, token, hm⟩ | ⟨a, hs, hk⟩
  · exact .inl (hclosed hc)
  · exact .inr (.inl ⟨callId, token, (sent_turn hturn).subset hm⟩)
  · by_cases hh : e.handler = some h
    · cases hturn with
      | @consumed g rtp r' loop call o hs' =>
          obtain rfl : g = h := Option.some.inj hh
          cases hs.symm.trans hs'
          rw [← Option.some.inj hk, consumed_eq]
          exact .inr (.inr (looping_consumeFrom (suspended_lt hs)))
      | @resumed g r' loop hs' =>
          obtain rfl : g = h := Option.some.inj hh
          cases hs.symm.trans hs'
          exact (looping_runLoop (suspended_lt hs) (Option.some.inj hk)).imp_left hclosed
      | @consumeFailed g r' loop call o hs' =>
          obtain rfl : g = h := Option.some.inj hh
          cases hs.symm.trans hs'
          have hspent : s.spent ⟨r, .consume loop call o⟩ = true := by
            simpa [HarmlessRejection, hs] using hG
          simp only [spent, Option.some.inj hk, Bool.and_eq_true] at hspent
          exact .inl (hclosed hspent.2)
      | @transportCreated g _ _ _ _ _ hs' | @produced g _ _ _ _ _ hs' =>
          obtain rfl : g = h := Option.some.inj hh
          cases hs.symm.trans hs'
          cases hk
      | @ended _ g x out hend hs' hx =>
          have hg : g = h := by
            cases e <;> first | exact hend.symm.trans (Option.some.inj hh) | exact hend.elim
          subst hg
          cases hs.symm.trans hs'
          cases a <;> first | cases hk | cases hx
      | add | socketClosed | capabilities | joinCallRequest | spawn | ignored | answered
      | consumerClosed | routerClosed | close | elapsed => cases hh
    · exact .inr (.inr ⟨a, (suspended_turn hturn (suspended_lt hs) hh).trans hs, hk⟩)

end Looping

/-! ### Runs -/

/-- A join that reaches its listener starts the handler. -/
theorem joined_of_step {s s₁ : Room} {r : ClientRef} {q : RequestId}
    (he : s.step (.message r (.joinCallRequest q)) = some s₁)
    (ho : (s.client r).eventsClosed = false) : r < s.added ∧ s₁ = s.joinCallRequest r q := by
  obtain ⟨hr, rfl⟩ := message_step he
  exact ⟨hr, by simp [receive, ho]⟩

/-- The turn that starts a handler covers every pair of the handler. -/
theorem covered_start {s s₁ : Room} {e : Event} {h : HandlerRef} {r c p : ClientRef}
    {P : ProducerId} {kind : LoopKind} (he : s.step e = some s₁) (hs : s.Starts e h r kind)
    (hin : InScope kind r c p) (hr : s₁.Ready c) (hpair : s₁.Pair c p P) :
    s₁.Covered h c p P := by
  cases kind with
  | join q =>
      obtain ⟨rfl, ho, rfl⟩ := hs
      obtain rfl : r = c := hin
      obtain ⟨-, rfl⟩ := joined_of_step he ho
      exact covered_joinCallRequest hpair hr
  | push =>
      obtain ⟨q, t, kind, rtp, rfl, hs⟩ := hs
      obtain rfl : r = p := hin
      simp only [step, hs, Option.some.injEq] at he
      subst he
      exact covered_produced (suspended_lt hs) hpair hr

/-- The turn that starts a join handler attends to it. -/
theorem attends_start {s s₁ : Room} {e : Event} {h : HandlerRef} {r : ClientRef} {q : RequestId}
    (he : s.step e = some s₁) (hs : s.Starts e h r (.join q)) : s₁.Attends h r q := by
  obtain ⟨rfl, ho, rfl⟩ := hs
  obtain ⟨hr, e⟩ := joined_of_step he ho
  refine ⟨Nat.lt_of_lt_of_le hr (added_step he), .inr ?_⟩
  have hloop := @looping_runLoop { s with handlers := s.handlers ++ [none] } s.handlers.length r
    ⟨.join q, 0⟩ q (by simp) rfl
  rw [e]
  refine hloop.resolve_left fun hc => ?_
  rw [show (s.client r).eventsClosed = true from hc] at ho
  cases ho

/-- The client `1` is ready when the client `0` produces. -/
def producing : List Event :=
  [.add { clientId := "a", userId := "u" }, .message 0 (.createTransportRequest "1" .producing),
    .transportCreated 0 ⟨"ice", [], "dtls"⟩, .add { clientId := "b", userId := "v" },
    .message 1 (.clientRtpCapabilities "opus"), .message 1 (.createTransportRequest "2" .consuming),
    .transportCreated 1 ⟨"ice", [], "dtls"⟩,
    .message 0 (.createProducerRequest "3" .audio "opus" "u")]

/-- The client `0` has two producers when the client `1` gets ready. -/
def twoProducers : List Event :=
  [.add { clientId := "a", userId := "u" }, .message 0 (.createTransportRequest "1" .producing),
    .transportCreated 0 ⟨"ice", [], "dtls"⟩,
    .message 0 (.createProducerRequest "2" .audio "opus" "u"), .produced 1,
    .message 0 (.createProducerRequest "3" .video "vp8" "u"), .produced 2,
    .add { clientId := "b", userId := "v" }, .message 1 (.clientRtpCapabilities "vp8"),
    .message 1 (.createTransportRequest "4" .consuming), .transportCreated 3 ⟨"ice", [], "dtls"⟩]

end DemoApp.Sfu.Room
