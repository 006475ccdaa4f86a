import DemoApp.Webapp.RemoteClients

/-!
# Webapp — Joining

`contexts/MediaServiceContext.tsx`: the service is handed to the components when `connect` has
resolved, and an effect then registers the handlers of `RemoteClients`.

* `visible_iff`: all that the service emits is received, and the tracks of all its consumers are
  attached, if and only if every call of `consume` resolved with the handlers registered.
* `participant_missed`: of a participant who was in the call before, the consumer is there before
  the handlers are.
-/

namespace DemoApp.Webapp
open Sfu Machine

/-- `MediaServiceProvider` with the service it makes and the component it renders.
`mediaService`: `setMediaService` was called. -/
structure MediaServiceProvider where
  service : MediasoupService
  mediaService : Bool := false
  remoteClients : RemoteClients := {}

namespace MediaServiceProvider

variable {uuid : Nat → RequestId} {s s' : MediaServiceProvider}

inductive Event where
  | service (e : MediasoupService.Event)
  /-- the callback of `mediaService.connect().then(…)` -/
  | setMediaService
  /-- the effect of `RemoteClients` runs with the service -/
  | effect

/-- What the service emits is handed to the handlers. -/
def emit (s : MediaServiceProvider) (service : MediasoupService) : MediaServiceProvider :=
  { s with
    service
    remoteClients :=
      (service.emitted.drop s.service.emitted.length).foldl RemoteClients.handle s.remoteClients }

def step (uuid : Nat → RequestId) (s : MediaServiceProvider) :
    Event → Option MediaServiceProvider
  | .service e => (s.service.step uuid e).map s.emit
  | .setMediaService =>
      match s.service.connecting with
      | .connected => some { s with mediaService := true }
      | _ => none
  | .effect =>
      if s.mediaService && s.remoteClients.listener.isNone then
        some { s with remoteClients := s.remoteClients.register }
      else none

/-- `MediaServiceProvider` is rendered. -/
def new (config : ServerConnectionConfig) : MediaServiceProvider := { service := .new config }

/-- The server withdraws a consumer. -/
def Event.withdraws : Event → Bool
  | .service (.message (.consumerClosedNotification _)) => true
  | _ => false

/-- A call of `consume` resolves. -/
def Event.resolves : Event → Bool
  | .service (.consumed _) => true
  | _ => false

/-- A call of `consume` resolves only when the handlers are registered. -/
def Heard (s : MediaServiceProvider) (e : Event) : Prop :=
  e.resolves = true → s.remoteClients.listener.isSome = true

instance (s : MediaServiceProvider) (e : Event) : Decidable (Heard s e) :=
  inferInstanceAs (Decidable (_ → _))

/-- All that was emitted was received, and the tracks of all consumers are attached. -/
structure Visible (s : MediaServiceProvider) : Prop where
  received : s.remoteClients.received = s.service.emitted
  attached : ∀ k c, s.service.consumers.get k = some c → s.remoteClients.Attached c.track

/-- What the service emitted, what of it was received, and what became of that. -/
structure Follows (s : MediaServiceProvider) : Prop where
  linked : s.remoteClients.Linked
  received : s.remoteClients.received.length ≤ s.service.emitted.length
  emitted : ∀ k c, s.service.consumers.get k = some c →
    ∃ id u, .addedMediaConsumer c.track id u ∈ s.service.emitted
  attached : ∀ t id u, .addedMediaConsumer t id u ∈ s.remoteClients.received →
    s.remoteClients.Attached t

/-- Where the server withdraws nothing, the service emits what `consume` resolves with. -/
theorem emitted_turn {t t' : MediasoupService} {e : MediasoupService.Event}
    (ht : MediasoupService.Turn uuid t e t') (hw : (Event.service e).withdraws = false) :
    (∃ n o, e = .consumed n ∧ t' = t.consumed n o) ∨
      ((Event.service e).resolves = false ∧ t'.emitted = t.emitted ∧
        ∀ k c, t'.consumers.get k = some c → t.consumers.get k = some c) := by
  cases ht with
  | consumed => exact .inl ⟨_, _, rfl, rfl⟩
  | consumerClosed =>
      exact .inr ⟨rfl, rfl, fun k c hc => LiveMap.get_of_get_delete hc⟩
  | @message m =>
      refine .inr ⟨rfl, ?_⟩
      cases m with
      | consumerCreatedNotification =>
          simp only [MediasoupService.onmessage, MediasoupService.consumerCreated]
          split <;> exact ⟨rfl, fun _ _ => id⟩
      | consumerClosedNotification => cases hw
      | _ => exact ⟨rfl, fun _ _ => id⟩
  | _ => exact .inr ⟨rfl, rfl, fun _ _ => id⟩

/-- The handler of a new consumer attaches its track. -/
theorem handle_added {r : RemoteClients} (h : r.Linked) (hl : r.listener.isSome = true)
    (track : Track) (id : ClientId) (u : UserId) :
    (r.handle (.addedMediaConsumer track id u)).Linked ∧
      (r.handle (.addedMediaConsumer track id u)).Attached track ∧
      (∀ t, r.Attached t → (r.handle (.addedMediaConsumer track id u)).Attached t) ∧
      (r.handle (.addedMediaConsumer track id u)).received =
        r.received ++ [.addedMediaConsumer track id u] := by
  obtain ⟨remoteClients, hl⟩ := Option.isSome_iff_exists.mp hl
  obtain ⟨hlinked, hadded, hkeeps⟩ :=
    RemoteClients.addedMediaConsumer_spec h remoteClients track id u
  simp only [RemoteClients.handle, hl, RemoteClients.received_addedMediaConsumer]
  exact ⟨hlinked, hadded, hkeeps, trivial⟩

/-- A call of `consume` resolves, and its track is attached or missed for good. -/
theorem follows_consumed (h : Follows s) (n : Nat) (o : ConsumeOptions) :
    Follows (s.emit (s.service.consumed n o)) ∧
      ((s.emit (s.service.consumed n o)).remoteClients.received =
          (s.emit (s.service.consumed n o)).service.emitted ↔
        s.remoteClients.received = s.service.emitted ∧ Heard s (.service (.consumed n))) := by
  obtain ⟨event, hevent, hemitted⟩ : ∃ event : MediaServiceEvent,
      event = .addedMediaConsumer ⟨n, o.kind⟩ o.appData.clientId o.appData.userId ∧
        (s.service.consumed n o).emitted = s.service.emitted ++ [event] := ⟨_, rfl, rfl⟩
  have hremote : (s.emit (s.service.consumed n o)).remoteClients =
      s.remoteClients.handle event := by
    simp [emit, hemitted]
  have hconsumers : ∀ k c, (s.service.consumed n o).consumers.get k = some c →
      ∃ id u, .addedMediaConsumer c.track id u ∈ (s.service.consumed n o).emitted := by
    intro k c hc
    rw [hemitted]
    change (s.service.consumers.set o.id _).get k = some c at hc
    rw [LiveMap.get_set] at hc
    split at hc
    · cases hc
      exact ⟨_, _, List.mem_append_right _ (List.mem_singleton.mpr hevent.symm)⟩
    · obtain ⟨id, u, hmem⟩ := h.emitted k c hc
      exact ⟨id, u, List.mem_append_left _ hmem⟩
  have hservice : (s.emit (s.service.consumed n o)).service.emitted =
      s.service.emitted ++ [event] := hemitted
  cases hl : s.remoteClients.listener with
  | none =>
      have hsame : s.remoteClients.handle event = s.remoteClients := by
        simp [RemoteClients.handle, hl]
      have hlt : s.remoteClients.received.length < (s.service.emitted ++ [event]).length := by
        simpa using Nat.lt_succ_of_le h.received
      rw [hsame] at hremote
      refine ⟨⟨?_, ?_, hconsumers, ?_⟩, ?_⟩
      · rw [hremote]
        exact h.linked
      · rw [hremote, hservice]
        exact Nat.le_of_lt hlt
      · rw [hremote]
        exact h.attached
      · rw [hremote, hservice]
        refine iff_of_false (fun heq => ?_) fun hh => ?_
        · exact Nat.ne_of_lt hlt (congrArg List.length heq)
        · simpa [hl] using hh.2 rfl
  | some remoteClients =>
      have hsome : s.remoteClients.listener.isSome = true := by rw [hl]; rfl
      obtain ⟨hlinked, hadded, hkeeps, hreceived⟩ := handle_added h.linked hsome ⟨n, o.kind⟩
        o.appData.clientId o.appData.userId
      rw [← hevent] at hlinked hadded hkeeps hreceived
      refine ⟨⟨?_, ?_, hconsumers, ?_⟩, ?_⟩
      · rw [hremote]
        exact hlinked
      · rw [hremote, hservice, hreceived]
        simpa using h.received
      · rw [hremote, hreceived]
        intro t id u hmem
        rcases List.mem_append.mp hmem with hmem | hmem
        · exact hkeeps t (h.attached t id u hmem)
        · cases (List.mem_singleton.mp hmem).trans hevent
          exact hadded
      · rw [hremote, hservice, hreceived]
        simp [Heard, hsome]

theorem follows_step {e : Event} (h : Follows s) (hw : e.withdraws = false)
    (he : s.step uuid e = some s') :
    Follows s' ∧ (s'.remoteClients.received = s'.service.emitted ↔
      s.remoteClients.received = s.service.emitted ∧ Heard s e) := by
  cases e with
  | service e =>
      obtain ⟨t', ht, rfl⟩ := Option.map_eq_some_iff.mp he
      rcases emitted_turn (MediasoupService.step_turn ht) hw with
        ⟨n, o, rfl, rfl⟩ | ⟨hne, hemitted, hconsumers⟩
      · exact follows_consumed h n o
      · have hsame : (s.emit t').remoteClients = s.remoteClients := by
          simp [emit, hemitted]
        refine ⟨⟨?_, ?_, fun k c hc => ?_, ?_⟩, ?_⟩
        · rw [hsame]
          exact h.linked
        · rw [hsame, show (s.emit t').service.emitted = s.service.emitted from hemitted]
          exact h.received
        · obtain ⟨id, u, hmem⟩ := h.emitted k c (hconsumers k c hc)
          exact ⟨id, u, hemitted.symm ▸ hmem⟩
        · rw [hsame]
          exact h.attached
        · rw [hsame, show (s.emit t').service.emitted = s.service.emitted from hemitted]
          simp [Heard, hne]
  | setMediaService =>
      simp only [step] at he
      split at he <;> cases he
      exact ⟨⟨h.linked, h.received, h.emitted, h.attached⟩, by simp [Heard, Event.resolves]⟩
  | effect =>
      simp only [step] at he
      split at he <;> cases he
      exact ⟨⟨h.linked, h.received, h.emitted, h.attached⟩, by
        simp [Heard, Event.resolves, RemoteClients.register]⟩

theorem follows_new (config : ServerConnectionConfig) : Follows (.new config) where
  linked _ _ hinfo := by cases hinfo
  received := Nat.le_refl _
  emitted _ _ hc := by cases hc
  attached _ _ _ hmem := by cases hmem

theorem follows_of_run {config : ServerConnectionConfig} {es : List Event}
    (hx : exec (step uuid) (.new config) es = some s) (hw : ∀ e ∈ es, e.withdraws = false) :
    Follows s ∧ (s.remoteClients.received = s.service.emitted ↔
      Along (step uuid) Heard (.new config) es) := by
  revert hw
  refine exec_history (I := fun es s => (∀ e ∈ es, e.withdraws = false) → Follows s ∧
      (s.remoteClients.received = s.service.emitted ↔ Along (step uuid) Heard (.new config) es))
    (fun _ => ⟨follows_new config, by simp [Along, new, MediasoupService.new]⟩)
    (fun es s e s' hx ih he hw => ?_) hx
  obtain ⟨hf, hiff⟩ := ih fun e he => hw e (List.mem_append_left _ he)
  obtain ⟨hf', hiff'⟩ := follows_step hf (hw e (List.mem_append_right _ List.mem_cons_self)) he
  exact ⟨hf', hiff'.trans (by rw [along_snoc hx, hiff])⟩

/-- **The participants are visible** in a run in which none leaves, if and only if every call of
`consume` resolved with the handlers registered. -/
theorem visible_iff {config : ServerConnectionConfig} {es : List Event}
    (hx : exec (step uuid) (.new config) es = some s) (hw : ∀ e ∈ es, e.withdraws = false) :
    Visible s ↔ Along (step uuid) Heard (.new config) es := by
  obtain ⟨h, hiff⟩ := follows_of_run hx hw
  rw [← hiff]
  refine ⟨fun hv => hv.received, fun heq => ⟨heq, fun k c hc => ?_⟩⟩
  obtain ⟨id, u, hmem⟩ := h.emitted k c hc
  exact h.attached _ id u (heq ▸ hmem)

/-- The client connects, up to the response to its `join-call-request`; the consumer of a
participant is announced before. -/
def connects : List Event :=
  [.service .connect, .service .continued, .service .opened, .service .tick,
    .service (.message (.getRouterCapabilitiesResponse "0" "opus")), .service .continued,
    .service (.loaded "opus"),
    .service (.message (.createTransportResponse "1" 0 ⟨"ice", [], "dtls"⟩)),
    .service (.transportCreated .producing),
    .service (.message (.createTransportResponse "2" 1 ⟨"ice", [], "dtls"⟩)),
    .service (.transportCreated .consuming), .service .continued,
    .service (.message (.consumerCreatedNotification 4 0 .audio "opus" ⟨"u", "a"⟩))]

/-- The response arrives, the service is handed to the components, and the effect runs. -/
def joins : List Event :=
  [.service (.message (.joinCallResponse "3" "call-1" ⟨"lobby", "b", "call-1", 0, ""⟩)),
    .service .continued, .setMediaService, .effect]

theorem visible_iff_patient :
    ∃ s, exec (step toString) (.new ⟨-1, -1⟩) (connects ++ joins ++ [.service (.consumed 0)]) =
        some s ∧ s.remoteClients.streams = [[⟨0, .audio⟩]] ∧ Visible s := by
  have hx : exec (step toString) (.new ⟨-1, -1⟩) (connects ++ joins ++ [.service (.consumed 0)]) =
    some _ := rfl
  exact ⟨_, hx, by decide, (visible_iff hx (by decide)).mpr (by decide)⟩

/-- **A participant is missed.**  `consume` resolves while the server is still busy with the other
participants, and nobody listens yet. -/
theorem participant_missed :
    ∃ s, exec (step toString) (.new ⟨-1, -1⟩) (connects ++ [.service (.consumed 0)] ++ joins) =
        some s ∧ s.service.consumers.keys = [4] ∧
      s.service.emitted = [.addedMediaConsumer ⟨0, .audio⟩ "a" "u"] ∧
      s.remoteClients.listener.isSome = true ∧ s.remoteClients.received = [] ∧
      s.remoteClients.streams = [] ∧ ¬Visible s := by
  refine ⟨_, rfl, rfl, rfl, rfl, rfl, rfl, fun h => ?_⟩
  exact absurd h.received (by decide)

end MediaServiceProvider

end DemoApp.Webapp
