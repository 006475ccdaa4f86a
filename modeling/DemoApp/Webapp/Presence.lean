import DemoApp.Support.Machine
import DemoApp.Webapp.Streams

/-!
# Webapp — Presence

Which remote clients the page shows.

* `presence`: after every event, if the handlers were registered while the slice was empty, its
  clients are those of `remoteClientInfo`, once each: the clients with a track that was added and
  not removed since; and the rendered list is the values of `remoteClientInfo`.
-/

namespace DemoApp.Webapp.RemoteClients
open Sfu Machine

/-- An event is handled.  An id stays with its track and its client. -/
def step (s : RemoteClients) (event : MediaServiceEvent) : Option RemoteClients :=
  if s.received.all fun e => sameTrack e event then some (s.handle event) else none

/-- The track was added for the client, and not removed since. -/
def Live (es : List MediaServiceEvent) (track : Track) (clientId : ClientId) : Prop :=
  ∃ before userId after, es = before ++ .addedMediaConsumer track clientId userId :: after ∧
    .removedMediaConsumer track.id ∉ after

/-- What the page shows after the events `es`. -/
structure Shows (es : List MediaServiceEvent) (s : RemoteClients) : Prop where
  distinct : (s.clients.map RemoteClient.clientId).Nodup
  keys : ∀ c, c ∈ s.clients.map RemoteClient.clientId ↔ (s.remoteClientInfo.get c).isSome = true
  present : ∀ c, (s.remoteClientInfo.get c).isSome = true ↔ ∃ track, Live es track c
  rendered : s.mediaStreams = s.remoteClientInfo.values

variable {s s' : RemoteClients} {seen : List RemoteClient} {c : ClientId} {track : Track}

theorem step_eq_some {e : MediaServiceEvent} (he : s.step e = some s') :
    (∀ e' ∈ s.received, sameTrack e' e = true) ∧ s' = s.handle e := by
  rw [step] at he
  split at he
  · next hall =>
      cases he
      exact ⟨List.all_eq_true.mp hall, rfl⟩
  · cases he

theorem Tidy.step (h : s.Tidy seen) {e : MediaServiceEvent} (he : s.step e = some s') :
    s'.Tidy seen := by
  obtain ⟨hsame, rfl⟩ := step_eq_some he
  cases e with
  | addedMediaConsumer track c userId => exact h.added hsame
  | removedMediaConsumer trackId => exact h.removed trackId

/-- The component before any event, with handlers that saw the clients `seen`. -/
def start (seen : List RemoteClient) : RemoteClients := { listener := some seen }

theorem tidy_start (seen : List RemoteClient) : (start seen).Tidy seen where
  listener := rfl
  linked := fun c i hi => by cases hi
  own := fun hi => by cases hi
  playing := fun c => by simp [start, stream]
  once := fun c => by simp [start, stream]
  same := fun e he => by cases he
  known := fun ht => by simp [start, stream] at ht
  rendered := rfl
  distinct := List.nodup_nil
  stored := fun c => by simp [start]

theorem tidy_of_run {es : List MediaServiceEvent} (hx : exec step (start seen) es = some s) :
    s.Tidy seen :=
  exec_invariant_of_step (fun _ _ _ h he => h.step he) (tidy_start seen) hx

theorem live_nil : ¬Live [] track c := by
  rintro ⟨before, u, after, h, -⟩
  simp at h

/-- A track is live if it was just added, or was live and is not the one removed. -/
theorem live_snoc {es : List MediaServiceEvent} {e : MediaServiceEvent} :
    Live (es ++ [e]) track c ↔ (∃ u, e = .addedMediaConsumer track c u) ∨
      (Live es track c ∧ e ≠ .removedMediaConsumer track.id) := by
  constructor
  · rintro ⟨before, u, after, h, hn⟩
    rcases List.eq_nil_or_concat after with rfl | ⟨after', e', rfl⟩
    · obtain ⟨-, he⟩ := List.append_inj' h rfl
      exact .inl ⟨u, List.cons.inj he |>.1⟩
    · rw [List.concat_eq_append] at h hn
      rw [← List.cons_append, ← List.append_assoc] at h
      obtain ⟨hes, he⟩ := List.append_inj' h rfl
      obtain rfl : e = e' := (List.cons.inj he).1
      rw [List.mem_append, List.mem_singleton] at hn
      exact .inr ⟨⟨before, u, after', hes, fun hm => hn (.inl hm)⟩, fun he => hn (.inr he.symm)⟩
  · rintro (⟨u, rfl⟩ | ⟨⟨before, u, after, rfl, hn⟩, hne⟩)
    · exact ⟨es, u, [], rfl, by simp⟩
    · refine ⟨before, u, after ++ [e], by simp, fun hm => ?_⟩
      rcases List.mem_append.mp hm with hm | hm
      · exact hn hm
      · exact hne (List.mem_singleton.mp hm).symm

/-- The streams hold the tracks that are live. -/
theorem mem_stream_iff {es : List MediaServiceEvent} (hx : exec step (start seen) es = some s)
    (t : Track) (d : ClientId) : t ∈ s.stream d ↔ Live es t d := by
  refine exec_history (I := fun es s => t ∈ s.stream d ↔ Live es t d) ?_
    (fun es s e s' hx ih he => ?_) hx
  · exact iff_of_false (by simp [start, stream]) live_nil
  · have h := tidy_of_run hx
    obtain ⟨-, rfl⟩ := step_eq_some he
    rw [live_snoc, ← ih]
    cases e with
    | addedMediaConsumer track c userId =>
        rw [h.mem_stream_added]
        constructor
        · rintro (hin | ⟨rfl, rfl⟩)
          · exact .inr ⟨hin, fun e => by cases e⟩
          · exact .inl ⟨userId, rfl⟩
        · rintro (⟨u, hu⟩ | ⟨hin, -⟩)
          · cases hu
            exact .inr ⟨rfl, rfl⟩
          · exact .inl hin
    | removedMediaConsumer trackId =>
        rw [h.mem_stream_removed]
        constructor
        · rintro ⟨hin, hne⟩
          exact .inr ⟨hin, fun e => hne (MediaServiceEvent.removedMediaConsumer.inj e).symm⟩
        · rintro (⟨u, hu⟩ | ⟨hin, hne⟩)
          · cases hu
          · exact ⟨hin, fun e => hne (e ▸ rfl)⟩

/-- **The presence of remote clients**, after every event of a run whose handlers were registered
while the slice was empty. -/
theorem presence {es : List MediaServiceEvent} (hx : exec step (register {}) es = some s) :
    Shows es s := by
  have h : s.Tidy [] := tidy_of_run hx
  refine ⟨h.distinct, fun c => ?_, fun c => ?_, h.rendered⟩
  · rw [h.stored]
    simp
  · rw [h.playing]
    constructor
    · intro hne
      obtain ⟨t, ht⟩ := List.exists_mem_of_ne_nil _ hne
      exact ⟨t, (mem_stream_iff hx t c).mp ht⟩
    · rintro ⟨t, ht⟩
      exact List.ne_nil_of_mem ((mem_stream_iff hx t c).mpr ht)

/-- Two clients come; one leaves, and comes back with the track it left with. -/
def comesBack : List MediaServiceEvent :=
  [.addedMediaConsumer ⟨0, .audio⟩ "a" "u", .addedMediaConsumer ⟨1, .video⟩ "a" "u",
    .addedMediaConsumer ⟨2, .video⟩ "b" "v", .removedMediaConsumer 9, .removedMediaConsumer 0,
    .removedMediaConsumer 1, .addedMediaConsumer ⟨0, .audio⟩ "a" "u"]

theorem presence_comesBack :
    ∃ s, exec step (register {}) comesBack = some s ∧ Shows comesBack s ∧
      s.clients.map RemoteClient.clientId = ["b", "a"] := by
  have hx : exec step (register {}) comesBack = some _ := rfl
  exact ⟨_, hx, presence hx, rfl⟩

end DemoApp.Webapp.RemoteClients
