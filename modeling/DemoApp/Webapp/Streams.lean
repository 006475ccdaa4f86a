import DemoApp.Webapp.RemoteClients

/-!
# Webapp — Streams

What the handlers of `RemoteClients` do to the streams of the clients, and to the slice beside them.
Both keep the list of clients that their render saw, and dispatch several times for one event.

* `Tidy` is the invariant: every client of `remoteClientInfo` has a stream of its own with at least
  one track, an id names one track of one client, and the slice holds these clients once each, but
  for those that were seen.
* A handler changes the stream of one client, to a list of tracks with which the client stays or
  goes (`Became`): `Tidy.became` is what is left to show of it.
* `Tidy.mem_stream_added` and `Tidy.mem_stream_removed` say which tracks there are afterwards.
-/

namespace DemoApp.Webapp.RemoteClients
open Sfu

/-- The tracks in the stream of a client. -/
def stream (s : RemoteClients) (clientId : ClientId) : List Track :=
  match s.remoteClientInfo.get clientId with
  | some info => s.streams.getD info.mediaStream []
  | none      => []

/-- Two events that add a track of one id add the same track, for the same client. -/
def sameTrack : MediaServiceEvent → MediaServiceEvent → Bool
  | .addedMediaConsumer t c _, .addedMediaConsumer t' c' _ =>
      decide (t.id = t'.id → t = t' ∧ c = c')
  | _, _ => true

/-- The maps, the streams and the slice fit, for handlers that saw the clients `seen`. -/
structure Tidy (seen : List RemoteClient) (s : RemoteClients) : Prop where
  listener : s.listener = some seen
  linked : s.Linked
  own : ∀ {c d i j}, s.remoteClientInfo.get c = some i → s.remoteClientInfo.get d = some j →
    i.mediaStream = j.mediaStream → c = d
  playing : ∀ c, (s.remoteClientInfo.get c).isSome = true ↔ s.stream c ≠ []
  once : ∀ c, (s.stream c).Nodup
  same : ∀ e ∈ s.received, ∀ e' ∈ s.received, sameTrack e e' = true
  known : ∀ {c t}, t ∈ s.stream c → ∃ u, .addedMediaConsumer t c u ∈ s.received
  rendered : s.mediaStreams = s.remoteClientInfo.values
  distinct : (s.clients.map RemoteClient.clientId).Nodup
  stored : ∀ c, c ∈ s.clients.map RemoteClient.clientId ↔
    (s.remoteClientInfo.get c).isSome = true ∧ c ∉ seen.map RemoteClient.clientId

/-- From `s` to `s'` the stream of the client `c` has become `tracks`, and goes with its last
track. -/
structure Became (s s' : RemoteClients) (c : ClientId) (tracks : List Track) : Prop where
  linked : s'.Linked
  own : ∀ {d e i j}, s'.remoteClientInfo.get d = some i → s'.remoteClientInfo.get e = some j →
    i.mediaStream = j.mediaStream → d = e
  playing : ∀ d, (s'.remoteClientInfo.get d).isSome = true ↔ s'.stream d ≠ []
  stream : ∀ d, s'.stream d = if d = c then tracks else s.stream d
  rendered : s'.mediaStreams = s'.remoteClientInfo.values

variable {s s' : RemoteClients} {seen : List RemoteClient} {c : ClientId} {track : Track}

/-! ### The slice -/

/-- The client with the slot for the tracks of a kind set. -/
def RemoteClient.withTrackId (x : RemoteClient) (kind : MediaKind) (trackId : Option TrackId) :
    RemoteClient :=
  match kind with
  | .audio => { x with audioTrackId := trackId }
  | .video => { x with videoTrackId := trackId }

@[simp] theorem RemoteClient.clientId_withTrackId (x : RemoteClient) (kind : MediaKind)
    (trackId : Option TrackId) : (x.withTrackId kind trackId).clientId = x.clientId := by
  cases kind <;> rfl

theorem clients_setTrackId (h : (s.clients.map RemoteClient.clientId).Nodup) (kind : MediaKind)
    (c : ClientId) (trackId : Option TrackId) :
    (s.setTrackId kind c trackId).clients =
      s.clients.map fun x => if x.clientId = c then x.withTrackId kind trackId else x := by
  cases kind <;> exact Cells.modify_findIdx c _ h

/-- Setting a slot leaves the ids alone. -/
theorem ids_setTrackId (s : RemoteClients) (kind : MediaKind) (c : ClientId)
    (trackId : Option TrackId) :
    (s.setTrackId kind c trackId).clients.map RemoteClient.clientId =
      s.clients.map RemoteClient.clientId := by
  cases kind with
  | audio =>
      exact Cells.map_modify (g := fun x : RemoteClient => { x with audioTrackId := trackId })
        (fun _ => rfl) _ _
  | video =>
      exact Cells.map_modify (g := fun x : RemoteClient => { x with videoTrackId := trackId })
        (fun _ => rfl) _ _

theorem ids_add (s : RemoteClients) (x : RemoteClient) :
    (s.add x).clients.map RemoteClient.clientId =
      if x.clientId ∈ s.clients.map RemoteClient.clientId then
        s.clients.map RemoteClient.clientId
      else s.clients.map RemoteClient.clientId ++ [x.clientId] := by
  have hany : (s.clients.any fun y => y.clientId = x.clientId) = true ↔
      x.clientId ∈ s.clients.map RemoteClient.clientId := by simp
  rw [add]
  by_cases h : x.clientId ∈ s.clients.map RemoteClient.clientId
  · rw [if_pos h, if_pos (hany.mpr h)]
  · rw [if_neg h, if_neg (mt hany.mp h)]
    simp

theorem ids_remove (s : RemoteClients) (c : ClientId) :
    (s.remove c).clients.map RemoteClient.clientId =
      (s.clients.map RemoteClient.clientId).filter fun d => d ≠ c := by
  rw [List.filter_map]
  rfl

/-! ### The streams -/

theorem stream_of_some {i : RemoteClientInfo} (h : s.remoteClientInfo.get c = some i) :
    s.stream c = s.streams.getD i.mediaStream [] := by
  rw [stream, h]

theorem stream_of_none (h : s.remoteClientInfo.get c = none) : s.stream c = [] := by
  rw [stream, h]

/-- A client with a track has a stream. -/
theorem info_of_mem {t : Track} (h : t ∈ s.stream c) :
    ∃ i, s.remoteClientInfo.get c = some i ∧ t ∈ s.streams.getD i.mediaStream [] := by
  cases hi : s.remoteClientInfo.get c with
  | none =>
      rw [stream_of_none hi] at h
      cases h
  | some i => exact ⟨i, rfl, stream_of_some hi ▸ h⟩

theorem getD_modify (f : List Track → List Track) {l : List (List Track)} {n : Nat}
    (hn : n < l.length) : (l.modify n f).getD n [] = f (l.getD n []) := by
  simp [List.getD_eq_getElem?_getD, List.getElem?_eq_getElem hn]

/-- Only the client `c` changes, and its stream is nobody else's. -/
theorem Tidy.became_of (h : s.Tidy seen) {tracks : List Track}
    (hother : ∀ d, d ≠ c → s'.remoteClientInfo.get d = s.remoteClientInfo.get d)
    (hkeep : ∀ d j, d ≠ c → s.remoteClientInfo.get d = some j →
      s'.streams[j.mediaStream]? = s.streams[j.mediaStream]?)
    (hself : ∀ i, s'.remoteClientInfo.get c = some i → i.mediaStream < s'.streams.length ∧
      ∀ d j, d ≠ c → s.remoteClientInfo.get d = some j → j.mediaStream ≠ i.mediaStream)
    (hplaying : (s'.remoteClientInfo.get c).isSome = true ↔ tracks ≠ [])
    (hstream : s'.stream c = tracks)
    (hrendered : s'.mediaStreams = s'.remoteClientInfo.values) : s.Became s' c tracks := by
  have hstreams : ∀ d, s'.stream d = if d = c then tracks else s.stream d := by
    intro d
    split
    · next e => exact e ▸ hstream
    · next e =>
        cases hd : s.remoteClientInfo.get d with
        | none => rw [stream_of_none hd, stream_of_none ((hother d e).trans hd)]
        | some j =>
            rw [stream_of_some hd, stream_of_some ((hother d e).trans hd),
              List.getD_eq_getElem?_getD, List.getD_eq_getElem?_getD, hkeep d j e hd]
  constructor
  · intro d j hj
    by_cases e : d = c
    · exact (hself j (e ▸ hj)).1
    · rw [hother d e] at hj
      have hcell := hkeep d j e hj
      rw [List.getElem?_eq_getElem (h.linked d j hj)] at hcell
      exact Cells.lt_of_some hcell
  · intro d e i j hi hj hm
    by_cases hd : d = c <;> by_cases he : e = c
    · exact hd.trans he.symm
    · exact absurd hm.symm ((hself i (hd ▸ hi)).2 e j he ((hother e he).symm.trans hj))
    · exact absurd hm ((hself j (he ▸ hj)).2 d i hd ((hother d hd).symm.trans hi))
    · exact h.own ((hother d hd).symm.trans hi) ((hother e he).symm.trans hj) hm
  · intro d
    rw [hstreams]
    split
    · next e => exact e ▸ hplaying
    · next e =>
        rw [hother d e]
        exact h.playing d
  · exact hstreams
  · exact hrendered

/-- The streams of the others, after that of `c` changed in place. -/
theorem Tidy.modify_other (h : s.Tidy seen) {i j : RemoteClientInfo} {d : ClientId}
    (hi : s.remoteClientInfo.get c = some i) (hj : s.remoteClientInfo.get d = some j)
    (hd : d ≠ c) (f : List Track → List Track) :
    (s.streams.modify i.mediaStream f)[j.mediaStream]? = s.streams[j.mediaStream]? :=
  List.getElem?_modify_ne f s.streams fun hm => hd (h.own hj hi hm.symm)

/-- The stream of a client changes, and is not empty. -/
theorem Tidy.modified (h : s.Tidy seen) {i : RemoteClientInfo} {f : List Track → List Track}
    (hi : s.remoteClientInfo.get c = some i) (hne : f (s.stream c) ≠ [])
    (h₁ : s'.remoteClientInfo = s.remoteClientInfo)
    (h₂ : s'.streams = s.streams.modify i.mediaStream f)
    (h₃ : s'.mediaStreams = s.mediaStreams) : s.Became s' c (f (s.stream c)) := by
  refine h.became_of (fun d _ => by rw [h₁]) (fun d j hd hj => ?_) (fun k hk => ?_) ?_ ?_ ?_
  · rw [h₂]
    exact h.modify_other hi hj hd f
  · obtain rfl : k = i := Option.some.inj (hk.symm.trans (h₁ ▸ hi))
    rw [h₂, List.length_modify]
    exact ⟨h.linked c k hi, fun d j hd hj hm => hd (h.own hj hi hm)⟩
  · rw [h₁, hi]
    exact iff_of_true rfl hne
  · rw [stream_of_some (h₁ ▸ hi), h₂, getD_modify f (h.linked c i hi), stream_of_some hi]
  · rw [h₁, h₃, h.rendered]

/-- A client gets a stream. -/
theorem Tidy.opened (h : s.Tidy seen) {userId : UserId} {tracks : List Track}
    (hne : tracks ≠ [])
    (h₁ : s'.remoteClientInfo = s.remoteClientInfo.set c ⟨s.streams.length, userId⟩)
    (h₂ : s'.streams = s.streams ++ [tracks])
    (h₃ : s'.mediaStreams = s'.remoteClientInfo.values) : s.Became s' c tracks := by
  have hself : s'.remoteClientInfo.get c = some ⟨s.streams.length, userId⟩ := by
    rw [h₁, LiveMap.get_set_self]
  refine h.became_of (fun d hd => by rw [h₁, LiveMap.get_set_of_ne hd]) (fun d j _ hj => ?_)
    (fun k hk => ?_) ?_ ?_ h₃
  · rw [h₂]
    exact List.getElem?_append_left (h.linked d j hj)
  · cases hself.symm.trans hk
    rw [h₂, List.length_append]
    exact ⟨Nat.lt_succ_self _, fun d j _ hj => Nat.ne_of_lt (h.linked d j hj)⟩
  · rw [hself]
    exact iff_of_true rfl hne
  · rw [stream_of_some hself, h₂]
    simp

/-- A client loses its stream. -/
theorem Tidy.ended (h : s.Tidy seen) {i : RemoteClientInfo} {f : List Track → List Track}
    (hi : s.remoteClientInfo.get c = some i)
    (h₁ : s'.remoteClientInfo = s.remoteClientInfo.delete c)
    (h₂ : s'.streams = s.streams.modify i.mediaStream f)
    (h₃ : s'.mediaStreams = s'.remoteClientInfo.values) : s.Became s' c [] := by
  have hself : s'.remoteClientInfo.get c = none := by rw [h₁, LiveMap.get_delete_self]
  refine h.became_of (fun d hd => by rw [h₁, LiveMap.get_delete_of_ne hd])
    (fun d j hd hj => ?_) (fun k hk => ?_) ?_ (stream_of_none hself) h₃
  · rw [h₂]
    exact h.modify_other hi hj hd f
  · cases hself.symm.trans hk
  · simp [hself]

/-! ### Tracks and their ids -/

theorem sameTrack_symm {e e' : MediaServiceEvent} (h : sameTrack e e' = true) :
    sameTrack e' e = true := by
  cases e with
  | removedMediaConsumer => cases e' <;> rfl
  | addedMediaConsumer t c u =>
      cases e' with
      | removedMediaConsumer => rfl
      | addedMediaConsumer t' c' u' =>
          simp only [sameTrack, decide_eq_true_eq] at h ⊢
          intro hid
          obtain ⟨ht, hc⟩ := h hid.symm
          exact ⟨ht.symm, hc.symm⟩

theorem sameTrack_self (e : MediaServiceEvent) : sameTrack e e = true := by
  cases e <;> simp [sameTrack]

/-- A track id names one track, in one stream. -/
theorem Tidy.ids (h : s.Tidy seen) {d : ClientId} {t u : Track} (ht : t ∈ s.stream c)
    (hu : u ∈ s.stream d) (hid : t.id = u.id) : t = u ∧ c = d := by
  obtain ⟨_, ha⟩ := h.known ht
  obtain ⟨_, hb⟩ := h.known hu
  have hsame := h.same _ ha _ hb
  simp only [sameTrack, decide_eq_true_eq] at hsame
  exact hsame hid

/-- An event is recorded. -/
theorem Tidy.heard (h : s.Tidy seen) {e : MediaServiceEvent}
    (hsame : ∀ e' ∈ s.received, sameTrack e' e = true) :
    Tidy seen { s with received := s.received ++ [e] } := by
  refine ⟨h.listener, h.linked, h.own, h.playing, h.once, fun a ha b hb => ?_, fun ht => ?_,
    h.rendered, h.distinct, h.stored⟩
  · rcases List.mem_append.mp ha with ha | ha <;> rcases List.mem_append.mp hb with hb | hb
    · exact h.same a ha b hb
    · rw [List.mem_singleton.mp hb]
      exact hsame a ha
    · rw [List.mem_singleton.mp ha]
      exact sameTrack_symm (hsame b hb)
    · rw [List.mem_singleton.mp ha, List.mem_singleton.mp hb]
      exact sameTrack_self e
  · obtain ⟨u, hu⟩ := h.known ht
    exact ⟨u, List.mem_append_left _ hu⟩

/-- What a handler has to keep besides the streams. -/
theorem Tidy.became (h : s.Tidy seen) {tracks : List Track} (hb : s.Became s' c tracks)
    (hl : s'.listener = s.listener) (hr : s'.received = s.received) (honce : tracks.Nodup)
    (hknown : ∀ t ∈ tracks, t ∈ s.stream c ∨ ∃ u, .addedMediaConsumer t c u ∈ s.received)
    (hdistinct : (s'.clients.map RemoteClient.clientId).Nodup)
    (hstored : ∀ d, d ∈ s'.clients.map RemoteClient.clientId ↔
      if d = c then tracks ≠ [] ∧ d ∉ seen.map RemoteClient.clientId
      else d ∈ s.clients.map RemoteClient.clientId) : s'.Tidy seen := by
  refine ⟨hl.trans h.listener, hb.linked, hb.own, hb.playing, fun d => ?_, hr ▸ h.same,
    fun {d t} ht => ?_, hb.rendered, hdistinct, fun d => ?_⟩
  · rw [hb.stream]
    split
    · exact honce
    · exact h.once d
  · rw [hb.stream] at ht
    rw [hr]
    split at ht
    · next hd =>
        subst hd
        exact (hknown t ht).elim h.known id
    · exact h.known ht
  · rw [hstored, hb.playing, hb.stream]
    split
    · rfl
    · rw [h.stored, h.playing]

/-! ### Adding -/

/-- The tracks of a stream after `addTrack`. -/
def withTrack (track : Track) (tracks : List Track) : List Track :=
  if track ∈ tracks then tracks else tracks ++ [track]

theorem mem_withTrack {t : Track} {tracks : List Track} :
    t ∈ withTrack track tracks ↔ t ∈ tracks ∨ t = track := by
  rw [withTrack]
  split
  · next h => exact ⟨.inl, fun ht => ht.elim id fun e => e ▸ h⟩
  · simp

theorem nodup_withTrack {tracks : List Track} (h : tracks.Nodup) :
    (withTrack track tracks).Nodup := by
  rw [withTrack]
  split
  · exact h
  · next hn => exact List.nodup_append.mpr ⟨h, by simp, fun a ha b hb e => by simp_all⟩

/-- The first dispatch of `addedMediaConsumer`. -/
def greet (seen : List RemoteClient) (s : RemoteClients) (c : ClientId) (userId : UserId) :
    RemoteClients :=
  if seen.any fun x => x.clientId = c then s else s.add { clientId := c, userId }

theorem greet_fields (seen : List RemoteClient) (s : RemoteClients) (c : ClientId)
    (userId : UserId) :
    (greet seen s c userId).remoteClientInfo = s.remoteClientInfo ∧
      (greet seen s c userId).streams = s.streams ∧
      (greet seen s c userId).mediaStreams = s.mediaStreams ∧
      (greet seen s c userId).listener = s.listener := by
  rw [greet, add]
  split
  · exact ⟨rfl, rfl, rfl, rfl⟩
  · split <;> exact ⟨rfl, rfl, rfl, rfl⟩

theorem setTrackId_fields (s : RemoteClients) (kind : MediaKind) (c : ClientId)
    (trackId : Option TrackId) :
    (s.setTrackId kind c trackId).mediaStreams = s.mediaStreams ∧
      (s.setTrackId kind c trackId).listener = s.listener ∧
      (s.setTrackId kind c trackId).received = s.received := by
  cases kind <;> exact ⟨rfl, rfl, rfl⟩

/-- The clients after a slot is set are read off those before. -/
theorem clients_setTrackId_congr (h : s'.clients = s.clients) (kind : MediaKind) (c : ClientId)
    (trackId : Option TrackId) :
    (s'.setTrackId kind c trackId).clients = (s.setTrackId kind c trackId).clients := by
  cases kind <;> simp [setTrackId, assign, h]

theorem added_eq (seen : List RemoteClient) (s : RemoteClients) (track : Track) (c : ClientId)
    (userId : UserId) :
    addedMediaConsumer seen s track c userId =
      (((greet seen s c userId).ensureStream c userId).1.addTrack
        ((greet seen s c userId).ensureStream c userId).2 track).setTrackId track.kind c
          (some track.id) := rfl

/-- A track that is added is in the stream of its client. -/
theorem added_became (h : s.Tidy seen) (track : Track) (c : ClientId) (userId : UserId) :
    s.Became (addedMediaConsumer seen s track c userId) c (withTrack track (s.stream c)) := by
  obtain ⟨e₁, e₂, e₃, -⟩ := greet_fields seen s c userId
  have hne : withTrack track (s.stream c) ≠ [] :=
    List.ne_nil_of_mem (mem_withTrack.mpr (.inr rfl))
  cases hi : s.remoteClientInfo.get c with
  | some i =>
      have hens : (greet seen s c userId).ensureStream c userId =
          (greet seen s c userId, i.mediaStream) := by simp only [ensureStream, e₁, hi]
      refine h.modified (f := withTrack track) hi hne ?_ ?_ ?_
      · rw [added_eq, hens, (setTrackId_info _ _ _ _).1]
        exact e₁
      · rw [added_eq, hens, (setTrackId_info _ _ _ _).2]
        exact congrArg (fun l : List (List Track) => l.modify i.mediaStream _) e₂
      · rw [added_eq, hens, (setTrackId_fields _ _ _ _).1]
        exact e₃
  | none =>
      obtain ⟨s₁, hens, h₁, h₂, h₃⟩ : ∃ s₁, (greet seen s c userId).ensureStream c userId =
          (s₁, s.streams.length) ∧
          s₁.remoteClientInfo = s.remoteClientInfo.set c ⟨s.streams.length, userId⟩ ∧
          s₁.streams = s.streams ++ [[]] ∧ s₁.mediaStreams = s₁.remoteClientInfo.values := by
        simp only [ensureStream, e₁, hi, e₂]
        exact ⟨_, rfl, rfl, rfl, rfl⟩
      have hinfo : (addedMediaConsumer seen s track c userId).remoteClientInfo =
          s.remoteClientInfo.set c ⟨s.streams.length, userId⟩ := by
        rw [added_eq, hens, (setTrackId_info _ _ _ _).1]
        exact h₁
      rw [stream_of_none hi] at hne ⊢
      refine h.opened hne hinfo ?_ ?_
      · rw [added_eq, hens, (setTrackId_info _ _ _ _).2]
        refine (congrArg (fun l : List (List Track) => l.modify s.streams.length _) h₂).trans ?_
        exact Cells.modify_concat _ _ _
      · rw [added_eq, hens, (setTrackId_fields _ _ _ _).1, (setTrackId_info _ _ _ _).1]
        exact h₃

/-- The client is greeted, and its slot for the kind of the track set. -/
theorem clients_added (seen : List RemoteClient) (s : RemoteClients) (track : Track)
    (c : ClientId) (userId : UserId) :
    (addedMediaConsumer seen s track c userId).clients =
      ((greet seen s c userId).setTrackId track.kind c (some track.id)).clients := by
  have hens : ((greet seen s c userId).ensureStream c userId).1.clients =
      (greet seen s c userId).clients := by
    rw [ensureStream]
    split <;> rfl
  rw [added_eq]
  refine clients_setTrackId_congr ?_ _ _ _
  exact hens

theorem listener_added (seen : List RemoteClient) (s : RemoteClients) (track : Track)
    (c : ClientId) (userId : UserId) :
    (addedMediaConsumer seen s track c userId).listener = s.listener := by
  have hens : ((greet seen s c userId).ensureStream c userId).1.listener =
      (greet seen s c userId).listener := by
    rw [ensureStream]
    split <;> rfl
  rw [added_eq, (setTrackId_fields _ _ _ _).2.1]
  exact hens.trans (greet_fields seen s c userId).2.2.2

theorem ids_greet (seen : List RemoteClient) (s : RemoteClients) (c : ClientId)
    (userId : UserId) :
    (greet seen s c userId).clients.map RemoteClient.clientId =
      if c ∈ seen.map RemoteClient.clientId ∨ c ∈ s.clients.map RemoteClient.clientId then
        s.clients.map RemoteClient.clientId
      else s.clients.map RemoteClient.clientId ++ [c] := by
  have hany : (seen.any fun x => x.clientId = c) = true ↔
      c ∈ seen.map RemoteClient.clientId := by simp
  rw [greet]
  by_cases h : c ∈ seen.map RemoteClient.clientId
  · rw [if_pos (hany.mpr h), if_pos (Or.inl h)]
  · rw [if_neg (mt hany.mp h), ids_add]
    simp only [h, false_or]

theorem Tidy.distinct_greet (h : s.Tidy seen) (c : ClientId) (userId : UserId) :
    ((greet seen s c userId).clients.map RemoteClient.clientId).Nodup := by
  rw [ids_greet]
  split
  · exact h.distinct
  · next hn =>
      refine List.nodup_append.mpr ⟨h.distinct, by simp, fun a ha b hb e => hn (.inr ?_)⟩
      rw [← List.mem_singleton.mp hb, ← e]
      exact ha

theorem handle_added (hl : s.listener = some seen) (track : Track) (c : ClientId)
    (userId : UserId) :
    s.handle (.addedMediaConsumer track c userId) =
      { addedMediaConsumer seen s track c userId with
        received := s.received ++ [.addedMediaConsumer track c userId] } := by
  simp only [handle, hl, received_addedMediaConsumer]

/-- The handler keeps everything in step when a track is added. -/
theorem Tidy.added (h : s.Tidy seen) {userId : UserId}
    (hsame : ∀ e ∈ s.received, sameTrack e (.addedMediaConsumer track c userId) = true) :
    (s.handle (.addedMediaConsumer track c userId)).Tidy seen := by
  have hids := (congrArg (List.map RemoteClient.clientId)
    (clients_added seen s track c userId)).trans (ids_setTrackId _ _ _ _)
  have hb := added_became h track c userId
  have hne : withTrack track (s.stream c) ≠ [] :=
    List.ne_nil_of_mem (mem_withTrack.mpr (.inr rfl))
  rw [handle_added h.listener]
  refine (h.heard hsame).became ⟨hb.linked, hb.own, hb.playing, hb.stream, hb.rendered⟩
    (listener_added seen s track c userId) rfl (nodup_withTrack (h.once c)) (fun t ht => ?_) ?_
    fun d => ?_
  · rcases mem_withTrack.mp ht with hold | rfl
    · exact .inl hold
    · exact .inr ⟨userId, List.mem_append_right _ List.mem_cons_self⟩
  · dsimp only
    rw [hids]
    exact h.distinct_greet c userId
  · dsimp only
    rw [hids, ids_greet]
    by_cases e : d = c
    · subst e
      -- a client in the slice was not seen
      have hnot : d ∈ s.clients.map RemoteClient.clientId → d ∉ seen.map RemoteClient.clientId :=
        fun hd => ((h.stored d).mp hd).2
      rw [if_pos rfl]
      by_cases hseen : d ∈ seen.map RemoteClient.clientId
      · rw [if_pos (.inl hseen)]
        exact iff_of_false (fun hd => hnot hd hseen) fun hd => hd.2 hseen
      · refine iff_of_true ?_ ⟨hne, hseen⟩
        split
        · next hor => exact hor.resolve_left hseen
        · simp
    · rw [if_neg e]
      split
      · rfl
      · simp [e]

/-! ### Removing -/

/-- The loop passes over a client without the track. -/
theorem removeFrom_idle {trackId : TrackId} {ref : StreamRef}
    (h : ∀ t ∈ s.streams.getD ref [], t.id ≠ trackId) (c : ClientId) :
    s.removeFrom trackId c ref = (s, false) := by
  have hnone : (s.streams.getD ref []).find? (fun t => t.id = trackId) = none :=
    List.find?_eq_none.mpr fun t ht => by simpa using h t ht
  rw [removeFrom, hnone]

/-- What `removeFrom` writes where the stream has the track. -/
structure Dropped (s s' : RemoteClients) (c : ClientId) (i : RemoteClientInfo) (track : Track) :
    Prop where
  streams : s'.streams = s.streams.modify i.mediaStream fun tracks => tracks.erase track
  info : s'.remoteClientInfo =
    if (s.stream c).erase track = [] then s.remoteClientInfo.delete c else s.remoteClientInfo
  media : s'.mediaStreams =
    if (s.stream c).erase track = [] then s'.remoteClientInfo.values else s.mediaStreams
  clients : s'.clients =
    if (s.stream c).erase track = [] then ((s.setTrackId track.kind c none).remove c).clients
    else (s.setTrackId track.kind c none).clients
  listener : s'.listener = s.listener
  received : s'.received = s.received

/-- The first track with an id is the one that the id names. -/
theorem Tidy.find_track (h : s.Tidy seen) {i : RemoteClientInfo}
    (hi : s.remoteClientInfo.get c = some i) (ht : track ∈ s.stream c) :
    (s.streams.getD i.mediaStream []).find? (fun t => t.id = track.id) = some track := by
  rw [← stream_of_some hi]
  cases hf : (s.stream c).find? fun t => t.id = track.id with
  | none => exact absurd (List.find?_eq_none.mp hf track ht) (by simp)
  | some t =>
      have hid : t.id = track.id := by simpa using List.find?_some hf
      exact congrArg some (h.ids (List.mem_of_find?_eq_some hf) ht hid).1

theorem Tidy.dropped (h : s.Tidy seen) {i : RemoteClientInfo}
    (hi : s.remoteClientInfo.get c = some i) (ht : track ∈ s.stream c) :
    s.Dropped (s.removeFrom track.id c i.mediaStream).1 c i track := by
  obtain ⟨e₁, e₂⟩ := setTrackId_info s track.kind c none
  obtain ⟨e₃, e₄, e₅⟩ := setTrackId_fields s track.kind c none
  have herased : (((s.setTrackId track.kind c none).streams.modify i.mediaStream
      fun tracks => tracks.erase track).getD i.mediaStream []) = (s.stream c).erase track := by
    rw [e₂, getD_modify _ (h.linked c i hi), stream_of_some hi]
  simp only [removeFrom, h.find_track hi ht, herased, List.length_pos_iff]
  by_cases hempty : (s.stream c).erase track = []
  · rw [if_neg (not_not_intro hempty)]
    have hinfo : (s.setTrackId track.kind c none).remoteClientInfo.delete c =
        s.remoteClientInfo.delete c := by rw [e₁]
    refine ⟨congrArg _ e₂, ?_, ?_, ?_, e₄, e₅⟩ <;> rw [if_pos hempty]
    · exact hinfo
    · rfl
    · rfl
  · rw [if_pos hempty]
    refine ⟨congrArg _ e₂, ?_, ?_, ?_, e₄, e₅⟩ <;> rw [if_neg hempty]
    · exact e₁
    · exact e₃

/-- The body of the loop, with what it threads through. -/
def visit (trackId : TrackId) (x : RemoteClients × Bool) (entry : ClientId × RemoteClientInfo) :
    RemoteClients × Bool :=
  if x.2 then (x.1, true) else x.1.removeFrom trackId entry.1 entry.2.mediaStream

theorem removed_eq (s : RemoteClients) (trackId : TrackId) :
    s.removedMediaConsumer trackId =
      ((s.remoteClientInfo.slots.filterMap id).foldl (visit trackId) (s, false)).1 := rfl

/-- The loop over clients without the track. -/
theorem foldl_visit_idle {trackId : TrackId} {l : List (ClientId × RemoteClientInfo)}
    (h : ∀ x ∈ l, ∀ t ∈ s.streams.getD x.2.mediaStream [], t.id ≠ trackId) (returned : Bool) :
    (l.foldl (visit trackId) (s, returned)).1 = s := by
  induction l generalizing returned with
  | nil => rfl
  | cons x l ih =>
      obtain ⟨hx, hl⟩ := List.forall_mem_cons.mp h
      rw [List.foldl_cons]
      cases returned with
      | true => exact ih hl true
      | false =>
          have hidle : visit trackId (s, false) x = (s, false) := removeFrom_idle hx x.1
          rw [hidle]
          exact ih hl false

/-- The loop does something for one client. -/
theorem Tidy.foldl_visit (h : s.Tidy seen) {i : RemoteClientInfo} (ht : track ∈ s.stream c)
    (hi : s.remoteClientInfo.get c = some i) {l : List (ClientId × RemoteClientInfo)}
    (hl : ∀ x ∈ l, s.remoteClientInfo.get x.1 = some x.2) (hmem : (c, i) ∈ l) :
    (l.foldl (visit track.id) (s, false)).1 = (s.removeFrom track.id c i.mediaStream).1 := by
  -- no other stream has the track
  have hother : ∀ {d j t}, s.remoteClientInfo.get d = some j →
      t ∈ s.streams.getD j.mediaStream [] → t.id = track.id → t = track ∧ d = c := by
    intro d j t hj hin hid
    exact h.ids (stream_of_some hj ▸ hin) ht hid
  have hgone : ∀ {d j t}, s.remoteClientInfo.get d = some j →
      t ∈ (s.removeFrom track.id c i.mediaStream).1.streams.getD j.mediaStream [] →
      t.id ≠ track.id := by
    intro d j t hj hin hid
    rw [(h.dropped hi ht).streams] at hin
    by_cases hd : d = c
    · subst hd
      obtain rfl : j = i := Option.some.inj (hj.symm.trans hi)
      rw [getD_modify _ (h.linked d j hi), ← stream_of_some hi] at hin
      obtain ⟨rfl, -⟩ := h.ids (List.mem_of_mem_erase hin) ht hid
      exact (List.Nodup.not_mem_erase (h.once d)) hin
    · rw [List.getD_eq_getElem?_getD, h.modify_other hi hj hd, ← List.getD_eq_getElem?_getD] at hin
      exact hd (hother hj hin hid).2
  induction l with
  | nil => cases hmem
  | cons x l ih =>
      obtain ⟨hx, hrest⟩ := List.forall_mem_cons.mp hl
      rw [List.foldl_cons]
      by_cases e : x.1 = c
      · -- the others are passed over, whether the loop has returned or not
        obtain rfl : x = (c, i) := Prod.ext e (Option.some.inj (hx.symm.trans (e ▸ hi)))
        have hvisit : visit track.id (s, false) (c, i) =
            ((s.removeFrom track.id c i.mediaStream).1,
              (s.removeFrom track.id c i.mediaStream).2) := rfl
        rw [hvisit]
        exact foldl_visit_idle (fun y hy t hin => hgone (hrest y hy) hin) _
      · have hidle : visit track.id (s, false) x = (s, false) :=
          removeFrom_idle (fun t hin hid => e (hother hx hin hid).2) x.1
        rw [hidle]
        refine ih hrest ((List.mem_cons.mp hmem).resolve_left fun hx => ?_)
        exact e (congrArg Prod.fst hx).symm

theorem removed_idle {trackId : TrackId} (h : ∀ d, ∀ t ∈ s.stream d, t.id ≠ trackId) :
    s.removedMediaConsumer trackId = s := by
  rw [removed_eq]
  refine foldl_visit_idle (fun x hx t ht => h x.1 t ?_) false
  rw [stream_of_some (LiveMap.mem_entries.mp hx)]
  exact ht

theorem Tidy.removed_dropped (h : s.Tidy seen) {i : RemoteClientInfo}
    (hi : s.remoteClientInfo.get c = some i) (ht : track ∈ s.stream c) :
    s.Dropped (s.removedMediaConsumer track.id) c i track := by
  rw [removed_eq, h.foldl_visit ht hi (fun x hx => LiveMap.mem_entries.mp hx)
    (LiveMap.mem_entries.mpr hi)]
  exact h.dropped hi ht

/-- A track that is removed leaves the stream of its client. -/
theorem Tidy.dropped_became (h : s.Tidy seen) {i : RemoteClientInfo}
    (hi : s.remoteClientInfo.get c = some i) (hd : s.Dropped s' c i track) :
    s.Became s' c ((s.stream c).erase track) := by
  have hinfo := hd.info
  have hmedia := hd.media
  by_cases hempty : (s.stream c).erase track = []
  · rw [if_pos hempty] at hinfo hmedia
    rw [hempty]
    exact h.ended hi hinfo hd.streams hmedia
  · rw [if_neg hempty] at hinfo hmedia
    exact h.modified (f := fun tracks => tracks.erase track) hi hempty hinfo hd.streams hmedia

theorem ids_dropped {i : RemoteClientInfo} (hd : s.Dropped s' c i track) :
    s'.clients.map RemoteClient.clientId =
      if (s.stream c).erase track = [] then
        (s.clients.map RemoteClient.clientId).filter fun d => d ≠ c
      else s.clients.map RemoteClient.clientId := by
  rw [hd.clients]
  split
  · rw [ids_remove, ids_setTrackId]
  · exact ids_setTrackId _ _ _ _

/-- The loop finds the track in one stream, or in none. -/
theorem Tidy.removed_cases (h : s.Tidy seen) (trackId : TrackId) :
    (s.removedMediaConsumer trackId = s ∧ ∀ d, ∀ t ∈ s.stream d, t.id ≠ trackId) ∨
      ∃ c i track, trackId = track.id ∧ track ∈ s.stream c ∧
        s.remoteClientInfo.get c = some i ∧
        s.Dropped (s.removedMediaConsumer trackId) c i track := by
  by_cases hin : ∃ d, ∃ t ∈ s.stream d, t.id = trackId
  · obtain ⟨c, track, ht, rfl⟩ := hin
    obtain ⟨i, hi, -⟩ := info_of_mem ht
    exact .inr ⟨c, i, track, rfl, ht, hi, h.removed_dropped hi ht⟩
  · have hnone : ∀ d, ∀ t ∈ s.stream d, t.id ≠ trackId := fun d t ht hid => hin ⟨d, t, ht, hid⟩
    exact .inl ⟨removed_idle hnone, hnone⟩

theorem Tidy.handle_removed (h : s.Tidy seen) (trackId : TrackId) :
    s.handle (.removedMediaConsumer trackId) =
      { s.removedMediaConsumer trackId with
        received := s.received ++ [.removedMediaConsumer trackId] } := by
  have hr : (s.removedMediaConsumer trackId).received = s.received := by
    rcases h.removed_cases trackId with ⟨e, -⟩ | ⟨_, _, _, -, -, -, hd⟩
    · rw [e]
    · exact hd.received
  simp only [handle, h.listener, hr]

/-- The handler keeps everything in step when a track is removed. -/
theorem Tidy.removed (h : s.Tidy seen) (trackId : TrackId) :
    (s.handle (.removedMediaConsumer trackId)).Tidy seen := by
  have hheard := h.heard (e := .removedMediaConsumer trackId) fun e _ => by cases e <;> rfl
  rw [h.handle_removed]
  rcases h.removed_cases trackId with ⟨e, -⟩ | ⟨c, i, track, rfl, ht, hi, hd⟩
  · rw [e]
    exact hheard
  · have hb := h.dropped_became hi hd
    refine hheard.became ⟨hb.linked, hb.own, hb.playing, hb.stream, hb.rendered⟩ hd.listener rfl
      ((h.once c).erase track) (fun t ht => .inl (List.mem_of_mem_erase ht)) ?_ fun d => ?_
    · dsimp only
      rw [ids_dropped hd]
      split
      · exact h.distinct.filter _
      · exact h.distinct
    · dsimp only
      rw [ids_dropped hd]
      by_cases e : d = c
      · subst e
        rw [if_pos rfl]
        split
        · next hempty => simp [hempty]
        · next hne =>
            rw [h.stored, h.playing]
            exact and_congr_left fun _ => iff_of_true (List.ne_nil_of_mem ht) hne
      · rw [if_neg e]
        split
        · simp [e]
        · rfl

/-! ### The tracks of a client -/

theorem Tidy.mem_stream_added (h : s.Tidy seen) {userId : UserId} {t : Track} {d : ClientId} :
    t ∈ (s.handle (.addedMediaConsumer track c userId)).stream d ↔
      t ∈ s.stream d ∨ (t = track ∧ d = c) := by
  have hb := (added_became h track c userId).stream d
  rw [handle_added h.listener]
  change t ∈ (addedMediaConsumer seen s track c userId).stream d ↔ _
  rw [hb]
  split
  · next hd =>
      subst hd
      rw [mem_withTrack]
      exact or_congr_right (by simp)
  · next hd => simp [hd]

theorem Tidy.mem_stream_removed (h : s.Tidy seen) {trackId : TrackId} {t : Track}
    {d : ClientId} :
    t ∈ (s.handle (.removedMediaConsumer trackId)).stream d ↔
      t ∈ s.stream d ∧ t.id ≠ trackId := by
  rw [h.handle_removed]
  change t ∈ (s.removedMediaConsumer trackId).stream d ↔ _
  rcases h.removed_cases trackId with ⟨e, hnone⟩ | ⟨c, i, track, rfl, ht, hi, hd⟩
  · rw [e]
    exact ⟨fun hin => ⟨hin, hnone d t hin⟩, And.left⟩
  · rw [(h.dropped_became hi hd).stream]
    -- the id names this track only
    have hid : ∀ {e}, t ∈ s.stream e → t.id = track.id → t = track ∧ e = c := fun hin hid =>
      h.ids hin ht hid
    split
    · next hd =>
        subst hd
        rw [(h.once d).mem_erase_iff]
        constructor
        · rintro ⟨hne, hin⟩
          exact ⟨hin, fun e => hne (hid hin e).1⟩
        · rintro ⟨hin, hne⟩
          exact ⟨fun e => hne (e ▸ rfl), hin⟩
    · next hd => exact ⟨fun hin => ⟨hin, fun e => hd (hid hin e).2⟩, And.left⟩

end DemoApp.Webapp.RemoteClients
