import DemoApp.Webapp.Mirror
import DemoApp.Webapp.Presence
import DemoApp.Sfu.Announcements
import Mathlib.Data.List.Nodup

/-!
# Webapp — Playing

What the service makes of the messages `D` that were delivered to it, while it turns no
announcement away.

* `Plays.turn`: the call `n` of `consume` is that of the `n`-th announcement.  Once it has resolved
  its track was emitted once, and it is live until the server withdraws its consumer.
* `Withdraws.turn`: where a withdrawal finds its consumer, the track is removed.
-/

namespace DemoApp.Webapp
open Sfu Machine

/-- What a `ConsumerCreatedNotification` announces. -/
structure Announcement where
  consumerId : ConsumerId
  kind : MediaKind
  remoteClient : RemoteClient
  deriving DecidableEq

def announcement : ServerMessage → Option Announcement
  | .consumerCreatedNotification k _ kind _ remoteClient => some ⟨k, kind, remoteClient⟩
  | _ => none

/-- The announcements among the messages, in order. -/
def announcements (D : List ServerMessage) : List Announcement := D.filterMap announcement

/-- What the call `n` of `consume` emits for it. -/
def Announcement.added (a : Announcement) (n : Nat) : MediaServiceEvent :=
  .addedMediaConsumer ⟨n, a.kind⟩ a.remoteClient.clientId a.remoteClient.userId

/-- A consumer is announced once, and withdrawn at most once and after that. -/
structure WellTold (D : List ServerMessage) : Prop where
  once : (D.filterMap ServerMessage.notice).Nodup
  order : ∀ before k after, D.filterMap ServerMessage.notice = before ++ .withdrawn k :: after →
    .announced k ∈ before

theorem WellTold.of_prefix {D E : List ServerMessage} (h : WellTold E) (hp : D <+: E) :
    WellTold D := by
  obtain ⟨t, rfl⟩ := hp
  have happ : (D ++ t).filterMap ServerMessage.notice =
      D.filterMap ServerMessage.notice ++ t.filterMap ServerMessage.notice :=
    List.filterMap_append
  refine ⟨(List.nodup_append.mp (happ ▸ h.once)).1, fun before k after hd => ?_⟩
  refine h.order before k (after ++ t.filterMap ServerMessage.notice) ?_
  rw [happ, hd, List.append_assoc, List.cons_append]

theorem notice_eq_announced {m : ServerMessage} {k : ConsumerId} :
    m.notice = some (.announced k) ↔ ∃ a, announcement m = some a ∧ a.consumerId = k := by
  cases m <;> simp [ServerMessage.notice, announcement]

theorem notice_eq_withdrawn {m : ServerMessage} {k : ConsumerId} :
    m.notice = some (.withdrawn k) ↔ m = .consumerClosedNotification k := by
  cases m <;> simp [ServerMessage.notice]

theorem mem_announced {D : List ServerMessage} {k : ConsumerId} :
    .announced k ∈ D.filterMap ServerMessage.notice ↔ ∃ a ∈ announcements D, a.consumerId = k := by
  simp only [announcements, List.mem_filterMap, notice_eq_announced]
  constructor
  · rintro ⟨m, hm, a, ha, hk⟩
    exact ⟨a, ⟨m, hm, ha⟩, hk⟩
  · rintro ⟨a, ⟨m, hm, ha⟩, hk⟩
    exact ⟨m, hm, a, ha, hk⟩

theorem mem_withdrawn {D : List ServerMessage} {k : ConsumerId} :
    .withdrawn k ∈ D.filterMap ServerMessage.notice ↔ .consumerClosedNotification k ∈ D := by
  simp only [List.mem_filterMap, notice_eq_withdrawn]
  constructor
  · rintro ⟨m, hm, rfl⟩
    exact hm
  · intro hm
    exact ⟨_, hm, rfl⟩

/-- The announced ids are those of the notices. -/
theorem map_announcements (D : List ServerMessage) :
    (announcements D).map (fun a => Notice.announced a.consumerId) =
      (D.filterMap ServerMessage.notice).filter fun n => n matches .announced _ := by
  induction D with
  | nil => rfl
  | cons m D ih =>
      cases m <;>
        simp [announcements, announcement, ServerMessage.notice] at ih ⊢ <;> exact ih

theorem WellTold.nodup {D : List ServerMessage} (h : WellTold D) :
    ((announcements D).map Announcement.consumerId).Nodup := by
  have hn : ((announcements D).map fun a => Notice.announced a.consumerId).Nodup := by
    rw [map_announcements]
    exact h.once.filter _
  refine List.Nodup.of_map Notice.announced ?_
  rw [List.map_map]
  exact hn

/-- An id is announced in one place. -/
theorem WellTold.unique {D : List ServerMessage} (h : WellTold D) {m n : Nat} {a b : Announcement}
    (ha : (announcements D)[m]? = some a) (hb : (announcements D)[n]? = some b)
    (hid : a.consumerId = b.consumerId) : m = n := by
  have hlt : m < ((announcements D).map Announcement.consumerId).length := by
    rw [List.length_map]
    exact Cells.lt_of_some ha
  refine (List.getElem?_inj hlt h.nodup).mp ?_
  rw [List.getElem?_map, List.getElem?_map, ha, hb, Option.map_some, Option.map_some, hid]

namespace MediasoupService
open RemoteClients (Live live_nil live_snoc)

/-- What an event delivers. -/
def Event.delivers : Event → List ServerMessage
  | .message m => [m]
  | _ => []

/-- The calls of `consume` are those of the announcements in `D`, in order, and the events are
theirs. -/
structure Plays (D : List ServerMessage) (s : MediasoupService) : Prop where
  calls : s.consuming.length = (announcements D).length
  pending : ∀ {n : Nat} {o : ConsumeOptions}, s.consuming[n]? = some (some o) →
    (announcements D)[n]? = some ⟨o.id, o.kind, o.appData⟩
  added : ∀ {track : Track} {c : ClientId} {u : UserId},
    .addedMediaConsumer track c u ∈ s.emitted ↔ s.consuming[track.id]? = some none ∧
      ∃ k, (announcements D)[track.id]? = some ⟨k, track.kind, ⟨u, c⟩⟩
  once : ∀ n, s.emitted.countP (adds n) ≤ 1
  known : ∀ {k : ConsumerId} {c : Consumer}, s.consumers.get k = some c →
    s.consuming[c.track.id]? = some none ∧
      ∃ a, (announcements D)[c.track.id]? = some a ∧ a.consumerId = k
  removed : ∀ {n : Nat}, .removedMediaConsumer n ∈ s.emitted → s.consuming[n]? = some none ∧
    ∃ a, (announcements D)[n]? = some a ∧ .consumerClosedNotification a.consumerId ∈ D
  live : ∀ {track : Track} {c : ClientId}, Live s.emitted track c ↔
    (∃ u, .addedMediaConsumer track c u ∈ s.emitted) ∧ .removedMediaConsumer track.id ∉ s.emitted

/-- Every withdrawal in `D` of an announced consumer removed its track. -/
def Withdraws (D : List ServerMessage) (s : MediasoupService) : Prop :=
  ∀ (n : Nat) a, (announcements D)[n]? = some a → .consumerClosedNotification a.consumerId ∈ D →
    .removedMediaConsumer n ∈ s.emitted

variable {uuid : Nat → RequestId} {D : List ServerMessage} {s s' : MediasoupService} {e : Event}

theorem plays_new (config : ServerConnectionConfig) : Plays [] (new config) := by
  refine ⟨rfl, ?_, ?_, ?_, ?_, ?_, ?_⟩
  · intro n o hn
    simp [new] at hn
  · intro track c u
    simp [new]
  · intro n
    simp [new]
  · intro k c hk
    simp [new] at hk
  · intro n hn
    simp [new] at hn
  · intro track c
    simp [new, live_nil]

theorem withdraws_new (config : ServerConnectionConfig) : Withdraws [] (new config) := by
  intro n a ha
  simp [announcements] at ha

theorem announcements_concat (D : List ServerMessage) (m : ServerMessage) :
    announcements (D ++ [m]) = announcements D ++ (announcement m).toList := by
  rw [announcements, List.filterMap_append]
  cases hm : announcement m <;> simp [announcements, hm]

/-- What the messages announce stays announced. -/
theorem announced_append {E : List ServerMessage} {n : Nat} {a : Announcement}
    (h : (announcements D)[n]? = some a) : (announcements (D ++ E))[n]? = some a := by
  rw [announcements, List.filterMap_append]
  exact Cells.append_of_some h

/-- What touches neither the consumers nor the calls. -/
theorem Plays.quiet (h : Plays D s) {E : List ServerMessage} (hE : E.filterMap announcement = [])
    (h₁ : ∀ {k c}, s'.consumers.get k = some c → s.consumers.get k = some c)
    (h₂ : s'.consuming = s.consuming) (h₃ : s'.emitted = s.emitted) : Plays (D ++ E) s' := by
  have e : announcements (D ++ E) = announcements D := by
    rw [announcements, List.filterMap_append, hE, List.append_nil]
    rfl
  refine ⟨?_, ?_, ?_, ?_, fun hk => ?_, fun hn => ?_, ?_⟩ <;> simp only [e, h₂, h₃]
  · exact h.calls
  · exact h.pending
  · exact h.added
  · exact h.once
  · exact h.known (h₁ hk)
  · obtain ⟨hc, a, ha, hD⟩ := h.removed (h₃ ▸ hn)
    exact ⟨hc, a, ha, List.mem_append_left _ hD⟩
  · exact h.live

/-- An announcement is taken up. -/
theorem Plays.consumerCreated (h : Plays D s) {k : ConsumerId} {p : ProducerId} {kind : MediaKind}
    {rtp : RtpParameters} {c : Sfu.RemoteClient}
    (hr : (s.consumerCreated k p kind rtp c).rejected = []) :
    Plays (D ++ [.consumerCreatedNotification k p kind rtp c])
      (s.consumerCreated k p kind rtp c) := by
  have e : announcements (D ++ [.consumerCreatedNotification k p kind rtp c]) =
      announcements D ++ [⟨k, kind, c⟩] := announcements_concat _ _
  cases ht : s.rcvTransport with
  | none => simp [MediasoupService.consumerCreated, ht] at hr
  | some t =>
      simp only [MediasoupService.consumerCreated, ht]
      -- a call that has resolved is one of those before
      have old : ∀ {n : Nat}, (s.consuming ++ [some ⟨t, k, kind, rtp, p, c⟩])[n]? = some none ↔
          s.consuming[n]? = some none := by
        intro n
        rw [Cells.concat_eq_some]
        simp
      have known : ∀ {n : Nat} {a : Announcement}, s.consuming[n]? = some none →
          ((announcements D ++ [⟨k, kind, c⟩])[n]? = some a ↔
            (announcements D)[n]? = some a) := by
        intro n a hn
        rw [List.getElem?_append_left (h.calls ▸ Cells.lt_of_some hn)]
      refine ⟨?_, fun hn => ?_, fun {track d u} => ?_, h.once, fun hk => ?_, fun hn => ?_, h.live⟩
      · simp [e, h.calls]
      · rw [e, Cells.concat_eq_some]
        rcases Cells.concat_eq_some.mp hn with hn | ⟨hlen, ho⟩
        · exact .inl (h.pending hn)
        · cases ho
          exact .inr ⟨hlen.trans h.calls, rfl⟩
      · rw [e, old, h.added]
        constructor
        · rintro ⟨hc, j, hj⟩
          exact ⟨hc, j, (known hc).mpr hj⟩
        · rintro ⟨hc, j, hj⟩
          exact ⟨hc, j, (known hc).mp hj⟩
      · obtain ⟨hc, a, ha, hid⟩ := h.known hk
        exact ⟨old.mpr hc, a, announced_append ha, hid⟩
      · obtain ⟨hc, a, ha, hD⟩ := h.removed hn
        exact ⟨old.mpr hc, a, announced_append ha, List.mem_append_left _ hD⟩

/-- A call of `consume` resolves. -/
theorem Plays.consumed (h : Plays D s) {n : Nat} {o : ConsumeOptions}
    (hn : s.consuming[n]? = some (some o)) : Plays D (s.consumed n o) := by
  have hlt := Cells.lt_of_some hn
  have ho := h.pending hn
  have hunresolved : s.consuming[n]? ≠ some none := by
    rw [hn]
    simp
  have hcalls : ∀ {m : Nat}, (s.consumed n o).consuming[m]? = some none ↔
      m = n ∨ s.consuming[m]? = some none := by
    intro m
    change (s.consuming.set n none)[m]? = some none ↔ _
    rw [Cells.set_eq_some]
    constructor
    · rintro (⟨rfl, -⟩ | ⟨-, hm⟩)
      · exact .inl rfl
      · exact .inr hm
    · rintro (rfl | hm)
      · exact .inl ⟨rfl, hlt, rfl⟩
      · exact .inr ⟨fun e => hunresolved (e ▸ hm), hm⟩
  have hemitted : (s.consumed n o).emitted =
      s.emitted ++ [.addedMediaConsumer ⟨n, o.kind⟩ o.appData.clientId o.appData.userId] := rfl
  have hfresh : .removedMediaConsumer n ∉ s.emitted := fun hm => hunresolved (h.removed hm).1
  have hadded : ∀ {track c u}, .addedMediaConsumer track c u ∈ (s.consumed n o).emitted ↔
      .addedMediaConsumer track c u ∈ s.emitted ∨
        track = ⟨n, o.kind⟩ ∧ c = o.appData.clientId ∧ u = o.appData.userId := by
    intro track c u
    rw [hemitted, List.mem_append, List.mem_singleton, MediaServiceEvent.addedMediaConsumer.injEq]
  refine ⟨?_, fun {m o'} hm => ?_, fun {track c u} => ?_, fun m => ?_, fun {k c} hk => ?_,
    fun {m} hm => ?_, fun {track c} => ?_⟩
  · rw [MediasoupService.consumed, _emit, List.length_set]
    exact h.calls
  · rcases Cells.set_eq_some.mp hm with ⟨-, -, hno⟩ | ⟨-, hm⟩
    · cases hno
    · exact h.pending hm
  · rw [hadded, hcalls, h.added]
    constructor
    · rintro (⟨hc, k, hk⟩ | ⟨rfl, rfl, rfl⟩)
      · exact ⟨.inr hc, k, hk⟩
      · exact ⟨.inl rfl, o.id, ho⟩
    · rintro ⟨hid | hc, k, hk⟩
      · obtain ⟨id, kind⟩ := track
        cases hid
        have e := Option.some.inj (ho.symm.trans hk)
        simp only [Announcement.mk.injEq] at e
        obtain ⟨-, rfl, e⟩ := e
        exact .inr ⟨rfl, by rw [e], by rw [e]⟩
      · exact .inl ⟨hc, k, hk⟩
  · rw [hemitted, List.countP_append]
    by_cases e : m = n
    · subst e
      -- nothing was added for the call before
      have hzero : s.emitted.countP (adds m) = 0 := by
        rw [List.countP_eq_zero]
        rintro (⟨track, c, u⟩ | _) hm hadds
        · have hid : track.id = m := by simpa [adds] using hadds
          exact hunresolved (hid ▸ (h.added.mp hm).1)
        · cases hadds
      simp [hzero, adds]
    · have hother : adds m (.addedMediaConsumer ⟨n, o.kind⟩ o.appData.clientId
          o.appData.userId) = false := by
        simp [adds, Ne.symm e]
      simpa [hother] using h.once m
  · change (s.consumers.set o.id _).get k = some c at hk
    rw [LiveMap.get_set] at hk
    split at hk
    · next e =>
        cases hk
        exact ⟨hcalls.mpr (.inl rfl), _, ho, e.symm⟩
    · obtain ⟨hc, a, ha⟩ := h.known hk
      exact ⟨hcalls.mpr (.inr hc), a, ha⟩
  · rw [hemitted, List.mem_append, List.mem_singleton] at hm
    rcases hm with hm | hm
    · obtain ⟨hc, ha⟩ := h.removed hm
      exact ⟨hcalls.mpr (.inr hc), ha⟩
    · cases hm
  · rw [hemitted, live_snoc, h.live]
    simp only [List.mem_append, List.mem_singleton, not_or]
    constructor
    · rintro (⟨u, hu⟩ | ⟨⟨⟨u, hu⟩, hnot⟩, -⟩)
      · cases hu
        exact ⟨⟨_, .inr rfl⟩, hfresh, by simp⟩
      · exact ⟨⟨u, .inl hu⟩, hnot, by simp⟩
    · rintro ⟨⟨u, hu | hu⟩, hnot, -⟩
      · exact .inr ⟨⟨⟨u, hu⟩, hnot⟩, by simp⟩
      · exact .inl ⟨u, hu.symm⟩

/-- A consumer is withdrawn. -/
theorem Plays.consumerClosed (h : Plays D s) (k : ConsumerId) :
    Plays (D ++ [.consumerClosedNotification k]) (s.consumerClosed k) := by
  have e : announcements (D ++ [.consumerClosedNotification k]) = announcements D := by
    rw [announcements_concat]
    exact List.append_nil _
  rw [MediasoupService.consumerClosed]
  split
  · next c hc =>
      obtain ⟨hres, a, ha, hid⟩ := h.known hc
      have hadded : ∀ {track d u}, .addedMediaConsumer track d u ∈
          s.emitted ++ [.removedMediaConsumer c.track.id] ↔
            .addedMediaConsumer track d u ∈ s.emitted := by
        intro track d u
        simp
      refine ⟨?_, ?_, fun {track d u} => ?_, fun m => ?_, ?_, fun {n} hn => ?_,
        fun {track d} => ?_⟩ <;> simp only [e, _emit]
      · exact h.calls
      · exact h.pending
      · rw [hadded]
        exact h.added
      · simpa [List.countP_append, adds] using h.once m
      · exact h.known
      · rcases List.mem_append.mp hn with hn | hn
        · obtain ⟨hc', b, hb, hD⟩ := h.removed hn
          exact ⟨hc', b, hb, List.mem_append_left _ hD⟩
        · obtain rfl : n = c.track.id := by simpa using hn
          exact ⟨hres, a, ha, by simp [hid]⟩
      · rw [live_snoc, h.live]
        simp only [hadded, List.mem_append, List.mem_singleton, not_or]
        constructor
        · rintro (⟨u, hu⟩ | ⟨⟨hu, hnot⟩, hne⟩)
          · cases hu
          · exact ⟨hu, hnot, fun e => hne e.symm⟩
        · rintro ⟨hu, hnot, hne⟩
          exact .inr ⟨⟨hu, hnot⟩, fun e => hne e.symm⟩
  · exact h.quiet rfl id rfl rfl

/-- **One turn** of a service that turns nothing away. -/
theorem Plays.turn (h : Plays D s) (ht : Turn uuid s e s') (hr : s'.rejected = []) :
    Plays (D ++ e.delivers) s' := by
  cases ht with
  | connect | opened | tick | elapsed | server | capabilities | loaded | transportCreated | joined
  | incapable | transportFailed | transports | transportConnect | produce =>
      exact h.quiet rfl id rfl rfl
  | @message m =>
      cases m with
      | consumerCreatedNotification => exact h.consumerCreated hr
      | consumerClosedNotification k => exact h.consumerClosed k
      | _ => exact h.quiet rfl id rfl rfl
  | consumed hn =>
      rw [show Event.delivers (.consumed _) = [] from rfl, List.append_nil]
      exact h.consumed hn
  | consumerClosed => exact h.quiet rfl LiveMap.get_of_get_delete rfl rfl

/-- A withdrawal finds the consumer that it withdraws. -/
def finds (s : MediasoupService) : ServerMessage → Bool
  | .consumerClosedNotification k => (s.consumers.get k).isSome
  | _ => true

/-- A withdrawn consumer is not announced after that. -/
theorem fresh_announcement {k : ConsumerId} {p : ProducerId} {kind : MediaKind}
    {rtp : RtpParameters} {c : Sfu.RemoteClient}
    (hw : WellTold (D ++ [.consumerCreatedNotification k p kind rtp c])) :
    .consumerClosedNotification k ∉ D := by
  intro hD
  obtain ⟨before, after, hsplit⟩ := List.append_of_mem (mem_withdrawn.mpr hD)
  have hnotices : List.filterMap ServerMessage.notice
      (D ++ [.consumerCreatedNotification k p kind rtp c]) =
        D.filterMap ServerMessage.notice ++ [.announced k] := by
    rw [List.filterMap_append]
    rfl
  have hmem : .announced k ∈ before := by
    refine hw.order before k (after ++ [.announced k]) ?_
    rw [hnotices, hsplit, List.append_assoc, List.cons_append]
  have honce := hw.once
  rw [hnotices, hsplit] at honce
  have hdisjoint := (List.nodup_append.mp honce).2.2
  exact hdisjoint _ (List.mem_append_left _ hmem) _ List.mem_cons_self rfl

/-- **One turn** in which a withdrawal finds its consumer. -/
theorem Withdraws.turn (h : Withdraws D s) (hp : Plays D s) (ht : Turn uuid s e s')
    (hw : WellTold (D ++ e.delivers)) (hf : ∀ m ∈ e.delivers, s.finds m = true) :
    Withdraws (D ++ e.delivers) s' := by
  have keep : ∀ {E : List ServerMessage}, E.filterMap announcement = [] →
      E.filterMap ServerMessage.notice = [] → (∀ x ∈ s.emitted, x ∈ s'.emitted) →
        Withdraws (D ++ E) s' := by
    intro E hE hE' hs n a ha hD
    rw [announcements, List.filterMap_append, hE, List.append_nil] at ha
    refine hs _ (h n a ha ?_)
    rw [← mem_withdrawn, List.filterMap_append, hE', List.append_nil] at hD
    exact mem_withdrawn.mp hD
  cases ht with
  | connect | opened | tick | elapsed | server | capabilities | loaded | transportCreated | joined
  | incapable | transportFailed | transports | transportConnect | produce | consumerClosed =>
      exact keep rfl rfl fun _ => id
  | consumed => exact keep rfl rfl fun _ => List.mem_append_left _
  | @message m =>
      cases m with
      | consumerCreatedNotification k p kind rtp c =>
          intro n a ha hD
          have hemitted : (s.consumerCreated k p kind rtp c).emitted = s.emitted := by
            simp only [MediasoupService.consumerCreated]
            split <;> rfl
          have hD' : .consumerClosedNotification a.consumerId ∈ D := by
            simpa [Event.delivers] using hD
          change .removedMediaConsumer n ∈ (s.consumerCreated k p kind rtp c).emitted
          rw [hemitted]
          refine h n a ?_ hD'
          rw [Event.delivers, announcements_concat] at ha
          rcases Cells.concat_eq_some.mp ha with ha | ⟨-, ha⟩
          · exact ha
          · cases ha
            exact absurd hD' (fresh_announcement hw)
      | consumerClosedNotification k =>
          intro n a ha hD
          obtain ⟨c, hc⟩ := Option.isSome_iff_exists.mp (hf _ List.mem_cons_self)
          have hs : s.onmessage (.consumerClosedNotification k) =
              s._emit (.removedMediaConsumer c.track.id) := by
            simp only [onmessage, MediasoupService.consumerClosed, hc]
          rw [hs]
          rcases List.mem_append.mp hD with hD | hD
          · have ha' : (announcements D)[n]? = some a := by
              rw [Event.delivers, announcements_concat] at ha
              simpa [announcement] using ha
            exact List.mem_append_left _ (h n a ha' hD)
          · -- the consumer of this call is the one withdrawn
            obtain rfl : a.consumerId = k := by simpa [Event.delivers] using hD
            obtain ⟨-, b, hb, hid⟩ := hp.known hc
            obtain rfl := hw.unique ha (announced_append hb) hid.symm
            exact List.mem_append_right _ List.mem_cons_self
      | _ => exact keep rfl rfl fun _ => id

end MediasoupService

end DemoApp.Webapp
