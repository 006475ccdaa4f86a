import DemoApp.Webapp.MediasoupService

/-!
# Webapp — Mirror

The consumers of the service against those that the server announced and withdrew.

* `Follows`: the calls of `consume` are those of the announced consumers, in order; what has
  resolved was stored and emitted once.
* `mirrored_iff`: when nothing is pending the service mirrors the server if and only if no
  consumer was withdrawn, since it never lets go of one.
* `closed_stays`: a consumer that was withdrawn stays, and one that was withdrawn before it was
  there is added.
-/

namespace DemoApp.Webapp.MediasoupService
open Sfu Machine

variable {uuid : Nat → RequestId} {s₀ s s' : MediasoupService} {e : Event} {es : List Event}

/-- The consumer that an event announces. -/
def Event.created : Event → Option ConsumerId
  | .message (.consumerCreatedNotification k _ _ _ _) => some k
  | _ => none

/-- The consumer that an event withdraws. -/
def Event.closed : Event → Option ConsumerId
  | .message (.consumerClosedNotification k) => some k
  | _ => none

/-- The consumers that were announced, in order. -/
def createdIds (es : List Event) : List ConsumerId := es.filterMap Event.created

/-- The consumers that were withdrawn, in order. -/
def closedIds (es : List Event) : List ConsumerId := es.filterMap Event.closed

/-- A consumer is announced once, withdrawn at most once and after that, and does not close by
itself. -/
structure WellFormed (es : List Event) : Prop where
  created : (createdIds es).Nodup
  closed : (closedIds es).Nodup
  after : ∀ es₁ e es₂ k, es = es₁ ++ e :: es₂ → e.closed = some k → k ∈ createdIds es₁
  own : ∀ k, .consumerClosed k ∉ es

/-- A receiving transport is there, and nothing was consumed yet. -/
structure Receives (s : MediasoupService) : Prop where
  transport : s.rcvTransport.isSome = true
  consumers : s.consumers = .empty
  consuming : s.consuming = []
  emitted : s.emitted = []

/-- No call of `consume` is pending. -/
def Quiet (s : MediasoupService) : Prop := ∀ (n : Nat) o, s.consuming[n]? ≠ some (some o)

/-- The event adds the track of the call `n`. -/
def adds (n : Nat) : MediaServiceEvent → Bool
  | .addedMediaConsumer track _ _ => track.id == n
  | .removedMediaConsumer _       => false

/-- The track of the call `n` was removed after it was added. -/
def Removed (n : Nat) (emitted : List MediaServiceEvent) : Prop :=
  ∃ l₁ l₂, emitted = l₁ ++ .removedMediaConsumer n :: l₂ ∧ 0 < l₁.countP (adds n)

/-- The service has the consumers that were announced and not withdrawn.  Each was added once at
most, and removed after that if it was withdrawn and had been added. -/
structure Mirrored (es : List Event) (s : MediasoupService) : Prop where
  keys : ∀ k, (s.consumers.get k).isSome = true ↔ k ∈ createdIds es ∧ k ∉ closedIds es
  added : ∀ n, s.emitted.countP (adds n) ≤ 1
  removed : ∀ (n : Nat) k, (createdIds es)[n]? = some k →
    (Removed n s.emitted ↔ k ∈ closedIds es ∧ 0 < s.emitted.countP (adds n))

/-- The calls of `consume` follow the announcements. -/
structure Follows (es : List Event) (s : MediasoupService) : Prop where
  transport : s.rcvTransport.isSome = true
  calls : s.consuming.length = (createdIds es).length
  pending : ∀ (n : Nat) (o : ConsumeOptions), s.consuming[n]? = some (some o) →
    (createdIds es)[n]? = some o.id
  known : ∀ k, (s.consumers.get k).isSome = true → k ∈ createdIds es
  kept : ∀ (n : Nat) k, (createdIds es)[n]? = some k → s.consuming[n]? = some none →
    (s.consumers.get k).isSome = true
  added : ∀ n, s.emitted.countP (adds n) = if s.consuming[n]? = some none then 1 else 0
  removed : ∀ n, .removedMediaConsumer n ∈ s.emitted → closedIds es ≠ []

theorem follows_start (h : Receives s) : Follows [] s where
  transport := h.transport
  calls := by rw [h.consuming]; rfl
  pending n o hn := by simp [h.consuming] at hn
  known k hk := by simp [h.consumers] at hk
  kept n k hk := by cases hk
  added n := by simp [h.emitted, h.consuming]
  removed n hn := by simp [h.emitted] at hn

/-- What touches neither the consumers nor the calls. -/
theorem Follows.quiet (h : Follows es s) (hc : e.created = none) (hcl : e.closed = none)
    (ht : s.rcvTransport.isSome = true → s'.rcvTransport.isSome = true)
    (h₁ : s'.consumers = s.consumers) (h₂ : s'.consuming = s.consuming)
    (h₃ : s'.emitted = s.emitted) : Follows (es ++ [e]) s' := by
  have e₁ : createdIds (es ++ [e]) = createdIds es := by simp [createdIds, hc]
  have e₂ : closedIds (es ++ [e]) = closedIds es := by simp [closedIds, hcl]
  refine ⟨ht h.transport, ?_, ?_, ?_, ?_, ?_, ?_⟩ <;> simp only [e₁, e₂, h₁, h₂, h₃]
  · exact h.calls
  · exact h.pending
  · exact h.known
  · exact h.kept
  · exact h.added
  · exact h.removed

theorem Follows.consumerCreated (h : Follows es s) {k : ConsumerId} {p : ProducerId}
    {kind : MediaKind} {rtp : RtpParameters} {c : RemoteClient} :
    Follows (es ++ [.message (.consumerCreatedNotification k p kind rtp c)])
      (s.consumerCreated k p kind rtp c) := by
  obtain ⟨t, ht⟩ := Option.isSome_iff_exists.mp h.transport
  have e₁ : createdIds (es ++ [.message (.consumerCreatedNotification k p kind rtp c)]) =
      createdIds es ++ [k] := by simp [createdIds, Event.created]
  have e₂ : closedIds (es ++ [.message (.consumerCreatedNotification k p kind rtp c)]) =
      closedIds es := by simp [closedIds, Event.closed]
  -- the new call is pending, and the others are where they were
  have old : ∀ {n : Nat}, (s.consuming ++ [some ⟨t, k, kind, rtp, p, c⟩])[n]? = some none ↔
      s.consuming[n]? = some none := by
    intro n
    rw [Cells.concat_eq_some]
    simp
  simp only [MediasoupService.consumerCreated, ht]
  refine ⟨rfl, ?_, fun n o hn => ?_, fun k' hk => ?_, fun n k' hk hn => ?_, fun n => ?_, ?_⟩
  · simp [e₁, h.calls]
  · rw [e₁, Cells.concat_eq_some]
    rcases Cells.concat_eq_some.mp hn with hn | ⟨hlen, ho⟩
    · exact .inl (h.pending n o hn)
    · cases ho
      exact .inr ⟨hlen.trans h.calls, rfl⟩
  · rw [e₁]
    exact List.mem_append_left _ (h.known k' hk)
  · rw [e₁] at hk
    have hn := old.mp hn
    rcases Cells.concat_eq_some.mp hk with hk | ⟨hlt, -⟩
    · exact h.kept n k' hk hn
    · exact absurd (Cells.lt_of_some hn) (by rw [h.calls, hlt]; exact Nat.lt_irrefl _)
  · simp only [old]
    exact h.added n
  · rw [e₂]
    exact h.removed

theorem Follows.consumerClosed (h : Follows es s) (k : ConsumerId) :
    Follows (es ++ [.message (.consumerClosedNotification k)]) (s.consumerClosed k) := by
  have e₁ : createdIds (es ++ [.message (.consumerClosedNotification k)]) = createdIds es := by
    simp [createdIds, Event.created]
  have e₂ : closedIds (es ++ [.message (.consumerClosedNotification k)]) = closedIds es ++ [k] := by
    simp [closedIds, Event.closed]
  rw [MediasoupService.consumerClosed]
  split
  · refine ⟨h.transport, ?_, ?_, ?_, ?_, fun n => ?_, ?_⟩ <;> simp only [e₁, e₂, _emit]
    · exact h.calls
    · exact h.pending
    · exact h.known
    · exact h.kept
    · rw [List.countP_append]
      exact h.added n
    · simp
  · refine ⟨h.transport, ?_, ?_, ?_, ?_, h.added, ?_⟩ <;> simp only [e₁, e₂]
    · exact h.calls
    · exact h.pending
    · exact h.known
    · exact h.kept
    · simp

theorem Follows.consumed (h : Follows es s) {n : Nat} {o : ConsumeOptions}
    (hn : s.consuming[n]? = some (some o)) : Follows (es ++ [.consumed n]) (s.consumed n o) := by
  have e₁ : createdIds (es ++ [.consumed n]) = createdIds es := by simp [createdIds, Event.created]
  have e₂ : closedIds (es ++ [.consumed n]) = closedIds es := by simp [closedIds, Event.closed]
  have hlt := Cells.lt_of_some hn
  have hk := h.pending n o hn
  refine ⟨h.transport, ?_, fun m o' hm => ?_, fun k hk' => ?_, fun m k hk' hm => ?_, fun m => ?_,
    fun m hm => ?_⟩
  · rw [e₁, MediasoupService.consumed, _emit, List.length_set]
    exact h.calls
  · rw [e₁]
    rcases Cells.set_eq_some.mp hm with ⟨-, -, hno⟩ | ⟨-, hm⟩
    · cases hno
    · exact h.pending m o' hm
  · rw [e₁]
    change ((s.consumers.set o.id _).get k).isSome = true at hk'
    rw [LiveMap.get_set] at hk'
    split at hk'
    · next e => exact e ▸ List.mem_of_getElem? hk
    · exact h.known k hk'
  · rw [e₁] at hk'
    change ((s.consumers.set o.id _).get k).isSome = true
    rw [LiveMap.get_set]
    split
    · rfl
    · next hne =>
      rcases Cells.set_eq_some.mp hm with ⟨rfl, -, -⟩ | ⟨-, hm⟩
      · exact absurd (Option.some.inj (hk'.symm.trans hk)) hne
      · exact h.kept m k hk' hm
  · have hcalls : (s.consumed n o).consuming = s.consuming.set n none := rfl
    have hemitted : (s.consumed n o).emitted =
        s.emitted ++ [.addedMediaConsumer ⟨n, o.kind⟩ o.appData.clientId o.appData.userId] := rfl
    rw [hemitted, hcalls, List.countP_append, h.added m]
    by_cases e : m = n
    · subst e
      have hne : s.consuming[m]? ≠ some none := by
        rw [hn]
        simp
      rw [if_neg hne, if_pos (List.getElem?_set_self hlt)]
      simp [adds]
    · simp [List.getElem?_set_ne (Ne.symm e), adds, Ne.symm e]
  · rw [e₂]
    exact h.removed m (by simpa [MediasoupService.consumed, _emit] using hm)

theorem follows_step (h : Follows es s) (ho : ∀ k, e ≠ .consumerClosed k)
    (he : s.step uuid e = some s') : Follows (es ++ [e]) s' := by
  cases step_turn he with
  | connect | opened | tick | elapsed | server | capabilities | loaded | transportCreated | joined
  | incapable | transportFailed | transportConnect | produce =>
      exact h.quiet rfl rfl id rfl rfl rfl
  | transports => exact h.quiet rfl rfl (fun _ => rfl) rfl rfl rfl
  | @message m =>
      cases m with
      | consumerCreatedNotification => exact h.consumerCreated
      | consumerClosedNotification k => exact h.consumerClosed k
      | _ => exact h.quiet rfl rfl id rfl rfl rfl
  | consumed hn => exact h.consumed hn
  | consumerClosed => exact (ho _ rfl).elim

theorem follows_of_run (h₀ : Receives s₀) (hx : exec (step uuid) s₀ es = some s)
    (ho : ∀ k, .consumerClosed k ∉ es) : Follows es s := by
  revert ho
  refine exec_history (I := fun es s => (∀ k, .consumerClosed k ∉ es) → Follows es s)
    (fun _ => follows_start h₀) (fun es s e s' _ ih he ho => ?_) hx
  refine follows_step (ih fun k hk => ho k (List.mem_append_left _ hk)) (fun k hk => ?_) he
  exact ho k (hk ▸ List.mem_append_right _ List.mem_cons_self)

/-- **The service mirrors the server** when no call of `consume` is pending, if and only if the
server has withdrawn no consumer. -/
theorem mirrored_iff (h₀ : Receives s₀) (hx : exec (step uuid) s₀ es = some s)
    (hw : WellFormed es) (hq : s.Quiet) : Mirrored es s ↔ closedIds es = [] := by
  have h := follows_of_run h₀ hx hw.own
  -- every consumer that was announced is there
  have there : ∀ k, (s.consumers.get k).isSome = true ↔ k ∈ createdIds es := by
    refine fun k => ⟨h.known k, fun hk => ?_⟩
    obtain ⟨n, hn⟩ := List.mem_iff_getElem?.mp hk
    have hlt : n < s.consuming.length := h.calls ▸ Cells.lt_of_some hn
    cases hc : s.consuming[n] with
    | none => exact h.kept n k hn (List.getElem?_eq_some_iff.mpr ⟨hlt, hc⟩)
    | some o => exact (hq n o (List.getElem?_eq_some_iff.mpr ⟨hlt, hc⟩)).elim
  constructor
  · intro hm
    by_contra hne
    obtain ⟨k, hk⟩ := List.exists_mem_of_ne_nil _ hne
    have hcreated : k ∈ createdIds es := by
      obtain ⟨e, he, hek⟩ := List.mem_filterMap.mp hk
      obtain ⟨es₁, es₂, rfl⟩ := List.append_of_mem he
      have := hw.after es₁ e es₂ k rfl hek
      rw [createdIds, List.filterMap_append]
      exact List.mem_append_left _ this
    exact ((hm.keys k).mp ((there k).mpr hcreated)).2 hk
  · intro hnil
    refine ⟨fun k => ?_, fun n => ?_, fun n k _ => ?_⟩
    · rw [there, hnil]
      simp
    · rw [h.added]
      split <;> simp
    · refine iff_of_false ?_ (by simp [hnil])
      rintro ⟨l₁, l₂, heq, -⟩
      exact h.removed n (heq ▸ List.mem_append_right _ List.mem_cons_self) hnil

/-- A service with a receiving transport. -/
def receiving : MediasoupService := { new ⟨-1, -1⟩ with rcvTransport := some 1 }

theorem receives_receiving : Receives receiving := ⟨rfl, rfl, rfl, rfl⟩

/-- Two consumers are announced, and the calls resolve in the other order. -/
def crossing : List Event :=
  [.opened, .message (.consumerCreatedNotification 4 0 .audio "opus" ⟨"u", "a"⟩),
    .message (.consumerCreatedNotification 5 1 .video "VP8" ⟨"u", "a"⟩), .consumed 1, .consumed 0]

theorem mirrored_iff_crossing :
    ∃ s, exec (step toString) receiving crossing = some s ∧
      s.emitted =
        [.addedMediaConsumer ⟨1, .video⟩ "a" "u", .addedMediaConsumer ⟨0, .audio⟩ "a" "u"] ∧
      Mirrored crossing s := by
  have hx : exec (step toString) receiving crossing = some _ := rfl
  have hw : WellFormed crossing := by
    refine ⟨by decide, by decide, fun es₁ e es₂ k heq hk => ?_, by simp [crossing]⟩
    have hmem : k ∈ closedIds crossing :=
      List.mem_filterMap.mpr ⟨e, heq ▸ List.mem_append_right _ List.mem_cons_self, hk⟩
    simp [closedIds, crossing, Event.closed] at hmem
  have hq : ∀ (n : Nat) o, ([none, none] : List (Option ConsumeOptions))[n]? ≠ some (some o) := by
    intro n o hn
    simpa using List.mem_of_getElem? hn
  exact ⟨_, hx, rfl, (mirrored_iff receives_receiving hx hw hq).mpr rfl⟩

/-- **A consumer that the server has closed stays**, and one that was closed before `consume`
resolved is added to the call. -/
theorem closed_stays :
    ∃ s, exec (step toString) receiving
        [.opened, .message (.consumerCreatedNotification 4 0 .audio "opus" ⟨"u", "a"⟩), .consumed 0,
          .message (.consumerClosedNotification 4),
          .message (.consumerCreatedNotification 5 1 .video "VP8" ⟨"u", "a"⟩),
          .message (.consumerClosedNotification 5), .consumed 1] = some s ∧
      s.Quiet ∧ s.consumers.keys = [4, 5] ∧
      s.emitted = [.addedMediaConsumer ⟨0, .audio⟩ "a" "u", .removedMediaConsumer 0,
        .addedMediaConsumer ⟨1, .video⟩ "a" "u"] ∧
      ¬Mirrored [.opened, .message (.consumerCreatedNotification 4 0 .audio "opus" ⟨"u", "a"⟩),
        .consumed 0, .message (.consumerClosedNotification 4),
        .message (.consumerCreatedNotification 5 1 .video "VP8" ⟨"u", "a"⟩),
        .message (.consumerClosedNotification 5), .consumed 1] s := by
  refine ⟨_, rfl, fun n o hn => ?_, rfl, rfl, fun h => ?_⟩
  · simpa using (List.mem_of_getElem? hn : some o ∈ [none, none])
  · exact absurd ((h.keys 4).mp rfl).2 (by decide)

end DemoApp.Webapp.MediasoupService
