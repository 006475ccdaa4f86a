import DemoApp.Webapp.Presence

/-!
# Webapp — TrackIds

The slots of the slice: one audio and one video track id for each remote client, whatever number of
tracks its stream has.  A track that is added takes the slot of its kind.  A track that is removed
empties it, whichever track the slot names.

* `slots_iff`: in every run, the slots name tracks that are there, and are empty only where there is
  none of their kind, after every event if and only if each track that was removed was the only one
  of its kind in the stream of its client.
* `slot_emptied`: a client with two audio tracks loses one, and the slot of the other.
-/

namespace DemoApp.Webapp.RemoteClients
open Sfu Machine

def RemoteClient.trackId (x : RemoteClient) : MediaKind → Option TrackId
  | .audio => x.audioTrackId
  | .video => x.videoTrackId

/-- The slot for a kind names one of the tracks, or is empty and there is no track of the kind. -/
def Names (tracks : List Track) (kind : MediaKind) : Option TrackId → Prop
  | some id => ∃ t ∈ tracks, t.kind = kind ∧ t.id = id
  | none    => ∀ t ∈ tracks, t.kind ≠ kind

/-- The slots of every client in the slice. -/
def Slots (s : RemoteClients) : Prop :=
  ∀ x ∈ s.clients, ∀ kind, Names (s.stream x.clientId) kind (x.trackId kind)

/-- A track that is removed from the stream of a client in the slice is the only one of its kind
there. -/
def Lone (s : RemoteClients) : MediaServiceEvent → Prop
  | .removedMediaConsumer trackId =>
      ∀ x ∈ s.clients, ∀ t ∈ s.stream x.clientId, t.id = trackId →
        ∀ u ∈ s.stream x.clientId, u.kind = t.kind → u = t
  | .addedMediaConsumer .. => True

instance decidableLone (s : RemoteClients) : (e : MediaServiceEvent) → Decidable (s.Lone e)
  | .removedMediaConsumer trackId =>
      inferInstanceAs (Decidable (∀ x ∈ s.clients, ∀ t ∈ s.stream x.clientId, t.id = trackId →
        ∀ u ∈ s.stream x.clientId, u.kind = t.kind → u = t))
  | .addedMediaConsumer .. => isTrue trivial

variable {s s' : RemoteClients} {seen : List RemoteClient} {c : ClientId} {track : Track}

@[simp] theorem RemoteClient.trackId_withTrackId (x : RemoteClient) (kind kind' : MediaKind)
    (trackId : Option TrackId) :
    (x.withTrackId kind trackId).trackId kind' =
      if kind' = kind then trackId else x.trackId kind' := by
  cases kind <;> cases kind' <;> rfl

/-- Streams with the same tracks of a kind. -/
theorem names_congr {tracks tracks' : List Track} {kind : MediaKind} {slot : Option TrackId}
    (h : ∀ t, t.kind = kind → (t ∈ tracks' ↔ t ∈ tracks)) :
    Names tracks' kind slot ↔ Names tracks kind slot := by
  cases slot with
  | some id =>
      refine exists_congr fun t => ?_
      constructor
      · rintro ⟨ht, hk, hid⟩
        exact ⟨(h t hk).mp ht, hk, hid⟩
      · rintro ⟨ht, hk, hid⟩
        exact ⟨(h t hk).mpr ht, hk, hid⟩
  | none =>
      refine forall_congr' fun t => ?_
      constructor
      · intro hn ht hk
        exact hn ((h t hk).mpr ht) hk
      · intro hn ht hk
        exact hn ((h t hk).mp ht) hk

/-! ### Adding -/

/-- A client that is greeted was there, or is new and has no tracks. -/
theorem Tidy.greeted (h : s.Tidy seen) {userId : UserId} {x : RemoteClient}
    (hx : x ∈ (greet seen s c userId).clients) :
    x ∈ s.clients ∨ (x = { clientId := c, userId } ∧ s.stream c = []) := by
  rw [greet, add] at hx
  split at hx
  · exact .inl hx
  · next hseen =>
      split at hx
      · exact .inl hx
      · next hin =>
          rcases List.mem_append.mp hx with hx | hx
          · exact .inl hx
          · refine .inr ⟨List.mem_singleton.mp hx, ?_⟩
            by_contra hne
            -- a client with tracks is in the slice, unless it was seen
            have hstored := (h.stored c).mpr ⟨(h.playing c).mpr hne, by simpa using hseen⟩
            exact hin (by simpa using hstored)

/-- The clients after an event that sets the slot of `c`. -/
theorem mem_setTrackId (h : (s.clients.map RemoteClient.clientId).Nodup) {kind : MediaKind}
    {trackId : Option TrackId} {x : RemoteClient} :
    x ∈ (s.setTrackId kind c trackId).clients ↔ ∃ y ∈ s.clients,
      x = if y.clientId = c then y.withTrackId kind trackId else y := by
  rw [clients_setTrackId h, List.mem_map]
  exact exists_congr fun y => and_congr_right fun _ => eq_comm

/-- A track that is added takes its slot. -/
theorem Slots.added (hs : s.Slots) (h : s.Tidy seen) {userId : UserId} :
    (s.handle (.addedMediaConsumer track c userId)).Slots := by
  have hclients : (s.handle (.addedMediaConsumer track c userId)).clients =
      ((greet seen s c userId).setTrackId track.kind c (some track.id)).clients := by
    rw [handle_added h.listener]
    exact clients_added seen s track c userId
  intro x hx kind
  rw [hclients, mem_setTrackId (h.distinct_greet c userId)] at hx
  obtain ⟨y, hy, rfl⟩ := hx
  -- the slots of `y` before, be it new or not
  have hy' : Names (s.stream y.clientId) kind (y.trackId kind) := by
    rcases h.greeted hy with hin | ⟨rfl, hempty⟩
    · exact hs y hin kind
    · cases kind <;> simp [RemoteClient.trackId, Names, hempty]
  by_cases e : y.clientId = c
  · subst e
    rw [if_pos rfl, RemoteClient.clientId_withTrackId, RemoteClient.trackId_withTrackId]
    split
    · next hk => exact ⟨track, h.mem_stream_added.mpr (.inr ⟨rfl, rfl⟩), hk.symm, rfl⟩
    · next hk =>
        refine (names_congr fun t ht => ?_).mpr hy'
        rw [h.mem_stream_added]
        exact or_iff_left fun hnew => hk (ht.symm.trans (congrArg _ hnew.1))
  · rw [if_neg e]
    refine (names_congr fun t _ => ?_).mpr hy'
    rw [h.mem_stream_added]
    exact or_iff_left fun hnew => e hnew.2

/-! ### Removing -/

/-- A track that is removed empties the slot of its kind, and its client goes with its last
track. -/
theorem Tidy.mem_clients_removed (h : s.Tidy seen) {x : RemoteClient} (ht : track ∈ s.stream c) :
    x ∈ (s.handle (.removedMediaConsumer track.id)).clients ↔ ∃ y ∈ s.clients,
      (y.clientId = c → (s.stream c).erase track ≠ []) ∧
      x = if y.clientId = c then y.withTrackId track.kind none else y := by
  obtain ⟨i, hi, -⟩ := info_of_mem ht
  have hid : ∀ y : RemoteClient,
      (if y.clientId = c then y.withTrackId track.kind none else y).clientId = y.clientId := by
    intro y
    split <;> simp
  rw [h.handle_removed]
  dsimp only
  rw [(h.removed_dropped hi ht).clients]
  by_cases hempty : (s.stream c).erase track = []
  · rw [if_pos hempty]
    constructor
    · intro hx
      obtain ⟨hx, hne⟩ := List.mem_filter.mp hx
      obtain ⟨y, hy, rfl⟩ := (mem_setTrackId h.distinct).mp hx
      rw [hid] at hne
      exact ⟨y, hy, fun e => absurd e (of_decide_eq_true hne), rfl⟩
    · rintro ⟨y, hy, hne, rfl⟩
      refine List.mem_filter.mpr ⟨(mem_setTrackId h.distinct).mpr ⟨y, hy, rfl⟩, ?_⟩
      rw [hid]
      exact decide_eq_true fun e => hne e hempty
  · rw [if_neg hempty, mem_setTrackId h.distinct]
    exact exists_congr fun y => and_congr_right fun _ => (and_iff_right fun _ => hempty).symm

theorem Slots.removed (hs : s.Slots) (h : s.Tidy seen) {trackId : TrackId}
    (hlone : s.Lone (.removedMediaConsumer trackId)) :
    (s.handle (.removedMediaConsumer trackId)).Slots := by
  by_cases hin : ∃ c, ∃ t ∈ s.stream c, t.id = trackId
  · obtain ⟨c, track, ht, rfl⟩ := hin
    intro x hx kind
    obtain ⟨y, hy, -, rfl⟩ := (h.mem_clients_removed ht).mp hx
    by_cases e : y.clientId = c
    · subst e
      rw [if_pos rfl, RemoteClient.clientId_withTrackId, RemoteClient.trackId_withTrackId]
      split
      · next hk =>
          -- another track of the kind would not be the one removed
          rintro t hin rfl
          obtain ⟨hin, hne⟩ := h.mem_stream_removed.mp hin
          exact hne (congrArg _ (hlone y hy track ht rfl t hin hk))
      · next hk =>
          refine (names_congr fun t htk => ?_).mpr (hs y hy kind)
          rw [h.mem_stream_removed]
          refine and_iff_left_of_imp fun hin hid => hk ?_
          rw [← htk, (h.ids hin ht hid).1]
    · rw [if_neg e]
      refine (names_congr fun t _ => ?_).mpr (hs y hy kind)
      rw [h.mem_stream_removed]
      exact and_iff_left_of_imp fun hin hid => e (h.ids hin ht hid).2
  · have hnone : ∀ c, ∀ t ∈ s.stream c, t.id ≠ trackId := fun c t ht hid => hin ⟨c, t, ht, hid⟩
    rw [h.handle_removed, removed_idle hnone]
    exact hs

/-- A second track of the kind is left without its slot. -/
theorem not_slots_removed (h : s.Tidy seen) {trackId : TrackId}
    (hlone : ¬s.Lone (.removedMediaConsumer trackId)) :
    ¬(s.handle (.removedMediaConsumer trackId)).Slots := by
  intro hs
  refine hlone fun y hy t ht hid u hu hk => ?_
  subst hid
  by_contra hne
  have hleft : (s.stream y.clientId).erase t ≠ [] :=
    List.ne_nil_of_mem ((List.mem_erase_of_ne hne).mpr hu)
  have hx : y.withTrackId t.kind none ∈ (s.handle (.removedMediaConsumer t.id)).clients :=
    (h.mem_clients_removed ht).mpr ⟨y, hy, fun _ => hleft, by rw [if_pos rfl]⟩
  have hnone := hs _ hx t.kind
  rw [RemoteClient.trackId_withTrackId, if_pos rfl, RemoteClient.clientId_withTrackId] at hnone
  exact hnone u (h.mem_stream_removed.mpr ⟨hu, fun hid => hne (h.ids hu ht hid).1⟩) hk

/-! ### Runs -/

/-- **The slots follow the tracks**, after every event of a run, if and only if no track was removed
while its client, which is in the slice, had another of its kind. -/
theorem slots_iff {es : List MediaServiceEvent} (hx : exec step (start seen) es = some s) :
    Throughout step (fun _ s => s.Slots) (start seen) es ↔ Along step Lone (start seen) es := by
  refine throughout_iff_along (I := fun _ s => s.Slots) ?_ (fun _ _ h => h)
    (fun es s e s' hx hs he hlone => ?_) (fun es s e s' hx _ he hlone => ?_) hx
  · intro x hx
    cases hx
  · obtain ⟨-, rfl⟩ := step_eq_some he
    cases e with
    | addedMediaConsumer => exact hs.added (tidy_of_run hx)
    | removedMediaConsumer => exact hs.removed (tidy_of_run hx) hlone
  · obtain ⟨-, rfl⟩ := step_eq_some he
    cases e with
    | addedMediaConsumer => exact absurd trivial hlone
    | removedMediaConsumer => exact not_slots_removed (tidy_of_run hx) hlone

theorem slots_iff_comesBack :
    ∃ s, exec step (start []) comesBack = some s ∧ s.Slots ∧
      s.clients.map RemoteClient.videoTrackId = [some 2, none] := by
  have hx : exec step (start []) comesBack = some _ := rfl
  exact ⟨_, hx, (slots_iff hx).mpr (by decide) comesBack _ (List.prefix_refl _) hx, rfl⟩

/-- **A slot is emptied**: of two audio tracks the second is removed, and the client is left with
the first and no `audioTrackId`. -/
theorem slot_emptied :
    ∃ s, exec step (start []) [.addedMediaConsumer ⟨0, .audio⟩ "a" "u",
        .addedMediaConsumer ⟨1, .audio⟩ "a" "u", .removedMediaConsumer 1] = some s ∧
      s.stream "a" = [⟨0, .audio⟩] ∧ s.clients.map RemoteClient.audioTrackId = [none] ∧
      ¬s.Slots :=
  ⟨_, rfl, rfl, rfl, fun hs => hs _ List.mem_cons_self .audio ⟨0, .audio⟩ List.mem_cons_self rfl⟩

end DemoApp.Webapp.RemoteClients
