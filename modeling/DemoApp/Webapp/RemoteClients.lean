import DemoApp.Support.Cells
import DemoApp.Webapp.MediasoupService

/-!
# Webapp — RemoteClients

`components/Clients/RemoteClients.tsx` with the slice of `store/remoteClientsSlice.tsx` that it
writes.  A `MediaStream` is an object, addressed by its position in the order of their
construction: `remoteClientInfo` and the list that is rendered share it.

The handlers are those of the render whose effect registered them, and keep the list of
`remoteClients` that this render saw.
-/

namespace DemoApp.Webapp.RemoteClients
open Sfu

abbrev StreamRef := Nat

/-- `RemoteClient` of the slice. -/
structure RemoteClient where
  clientId : ClientId
  userId : UserId
  audioTrackId : Option TrackId := none
  videoTrackId : Option TrackId := none

structure RemoteClientInfo where
  mediaStream : StreamRef
  userId : UserId

end RemoteClients

open RemoteClients in
/-- The component, with the slice and the streams.  `mediaStreams` is the last list passed to
`setMediaStreams`, `listener` the list of clients that the registered handlers see, and `received`
lists what they were called with. -/
structure RemoteClients where
  clients : List RemoteClient := []
  remoteClientInfo : LiveMap Sfu.ClientId RemoteClientInfo := .empty
  streams : List (List Track) := []
  mediaStreams : List RemoteClientInfo := []
  listener : Option (List RemoteClient) := none
  received : List MediaServiceEvent := []

namespace RemoteClients
open Sfu

/-! ### The slice -/

/-- `remoteClientsActions.add`. -/
def add (s : RemoteClients) (newClient : RemoteClient) : RemoteClients :=
  if s.clients.any fun c => c.clientId = newClient.clientId then s
  else { s with clients := s.clients ++ [newClient] }

/-- `remoteClientsActions.remove`. -/
def remove (s : RemoteClients) (clientId : ClientId) : RemoteClients :=
  { s with clients := s.clients.filter fun c => c.clientId ≠ clientId }

/-- Assign to the first client with the id, if there is one. -/
def assign (s : RemoteClients) (clientId : ClientId) (f : RemoteClient → RemoteClient) :
    RemoteClients :=
  { s with clients := s.clients.modify (s.clients.findIdx fun c => c.clientId = clientId) f }

/-- `setAudioTrackId` for an audio track, and `setVideoTrackId` for another. -/
def setTrackId (s : RemoteClients) (kind : MediaKind) (clientId : ClientId)
    (trackId : Option TrackId) : RemoteClients :=
  match kind with
  | .audio => s.assign clientId fun c => { c with audioTrackId := trackId }
  | .video => s.assign clientId fun c => { c with videoTrackId := trackId }

/-! ### The handlers -/

/-- `setMediaStreams(Array.from(remoteClientInfo.values()))`. -/
def setMediaStreams (s : RemoteClients) : RemoteClients :=
  { s with mediaStreams := s.remoteClientInfo.values }

/-- The stream of a client, made if it has none. -/
def ensureStream (s : RemoteClients) (clientId : ClientId) (userId : UserId) :
    RemoteClients × StreamRef :=
  match s.remoteClientInfo.get clientId with
  | some info => (s, info.mediaStream)
  | none      =>
      (setMediaStreams { s with
        streams := s.streams ++ [[]]
        remoteClientInfo := s.remoteClientInfo.set clientId ⟨s.streams.length, userId⟩ },
        s.streams.length)

/-- `mediaStream.addTrack`. -/
def addTrack (s : RemoteClients) (mediaStream : StreamRef) (track : Track) : RemoteClients :=
  { s with streams := s.streams.modify mediaStream fun tracks =>
      if track ∈ tracks then tracks else tracks ++ [track] }

/-- `addedMediaConsumer`, where `remoteClients` is what the render saw. -/
def addedMediaConsumer (remoteClients : List RemoteClient) (s : RemoteClients) (track : Track)
    (remoteClientId : ClientId) (userId : UserId) : RemoteClients :=
  let s₁ :=
    if remoteClients.any fun c => c.clientId = remoteClientId then s
    else s.add { clientId := remoteClientId, userId }
  let (s₂, mediaStream) := s₁.ensureStream remoteClientId userId
  (s₂.addTrack mediaStream track).setTrackId track.kind remoteClientId (some track.id)

/-- The body of the loop of `removedMediaConsumer`, and whether it returns. -/
def removeFrom (s : RemoteClients) (trackId : TrackId) (remoteClientId : ClientId)
    (mediaStream : StreamRef) : RemoteClients × Bool :=
  match (s.streams.getD mediaStream []).find? fun t => t.id = trackId with
  | none       => (s, false)
  | some track =>
      let s₁ := s.setTrackId track.kind remoteClientId none
      let s₂ := { s₁ with
        streams := s₁.streams.modify mediaStream fun tracks => tracks.erase track }
      if 0 < (s₂.streams.getD mediaStream []).length then (s₂, true)
      else
        (remove (setMediaStreams
          { s₂ with remoteClientInfo := s₂.remoteClientInfo.delete remoteClientId })
          remoteClientId, false)

/-- `removedMediaConsumer`: the loop over the entries that were there when it started. -/
def removedMediaConsumer (s : RemoteClients) (trackId : TrackId) : RemoteClients :=
  ((s.remoteClientInfo.slots.filterMap id).foldl (fun (s, returned) (remoteClientId, info) =>
    if returned then (s, true) else s.removeFrom trackId remoteClientId info.mediaStream)
    (s, false)).1

/-- The handlers of an event, if they are registered. -/
def handle (s : RemoteClients) (event : MediaServiceEvent) : RemoteClients :=
  match s.listener with
  | none               => s
  | some remoteClients =>
      let s₁ :=
        match event with
        | .addedMediaConsumer track remoteClientId userId =>
            addedMediaConsumer remoteClients s track remoteClientId userId
        | .removedMediaConsumer trackId => s.removedMediaConsumer trackId
      { s₁ with received := s₁.received ++ [event] }

/-- The effect that registers the handlers. -/
def register (s : RemoteClients) : RemoteClients := { s with listener := some s.clients }

/-! ### Tracks -/

/-- The track is in the stream of a remote client. -/
def Attached (s : RemoteClients) (track : Track) : Prop :=
  ∃ clientId info tracks, s.remoteClientInfo.get clientId = some info ∧
    s.streams[info.mediaStream]? = some tracks ∧ track ∈ tracks

/-- The streams of the remote clients are there. -/
def Linked (s : RemoteClients) : Prop :=
  ∀ clientId info, s.remoteClientInfo.get clientId = some info → info.mediaStream < s.streams.length

theorem linked_congr {s s' : RemoteClients} (h₁ : s'.remoteClientInfo = s.remoteClientInfo)
    (h₂ : s'.streams = s.streams) : s'.Linked ↔ s.Linked := by
  unfold Linked
  rw [h₁, h₂]

theorem attached_congr {s s' : RemoteClients} (h₁ : s'.remoteClientInfo = s.remoteClientInfo)
    (h₂ : s'.streams = s.streams) {track : Track} : s'.Attached track ↔ s.Attached track := by
  unfold Attached
  rw [h₁, h₂]

theorem setTrackId_info (s : RemoteClients) (kind : MediaKind) (clientId : ClientId)
    (trackId : Option TrackId) :
    (s.setTrackId kind clientId trackId).remoteClientInfo = s.remoteClientInfo ∧
      (s.setTrackId kind clientId trackId).streams = s.streams := by
  cases kind <;> exact ⟨rfl, rfl⟩

theorem add_info (s : RemoteClients) (newClient : RemoteClient) :
    (s.add newClient).remoteClientInfo = s.remoteClientInfo ∧
      (s.add newClient).streams = s.streams := by
  rw [add]
  split <;> exact ⟨rfl, rfl⟩

/-- The client has the stream, and no other lost its own. -/
theorem ensureStream_spec {s : RemoteClients} (h : s.Linked) (clientId : ClientId)
    (userId : UserId) :
    (s.ensureStream clientId userId).1.Linked ∧
      (∃ info, (s.ensureStream clientId userId).1.remoteClientInfo.get clientId = some info ∧
        info.mediaStream = (s.ensureStream clientId userId).2) ∧
      ∀ track, s.Attached track → (s.ensureStream clientId userId).1.Attached track := by
  rw [ensureStream]
  split
  · next info hinfo => exact ⟨h, ⟨info, hinfo, rfl⟩, fun _ ht => ht⟩
  · next hnone =>
    refine ⟨fun id info hinfo => ?_, ⟨_, LiveMap.get_set_self _ _ _, rfl⟩, ?_⟩
    · change (s.remoteClientInfo.set clientId _).get id = some info at hinfo
      rw [LiveMap.get_set] at hinfo
      split at hinfo
      · cases hinfo
        simp [setMediaStreams]
      · simpa [setMediaStreams] using Nat.lt_succ_of_lt (h id info hinfo)
    · rintro track ⟨id, info, tracks, hinfo, htracks, hmem⟩
      have hne : id ≠ clientId := by
        rintro rfl
        cases hnone.symm.trans hinfo
      exact ⟨id, info, tracks, (LiveMap.get_set_of_ne hne).trans hinfo,
        Cells.append_of_some htracks, hmem⟩

theorem addTrack_spec {s : RemoteClients} (h : s.Linked) {clientId : ClientId}
    {info : RemoteClientInfo} (hinfo : s.remoteClientInfo.get clientId = some info)
    (track : Track) :
    (s.addTrack info.mediaStream track).Linked ∧
      (s.addTrack info.mediaStream track).Attached track ∧
      ∀ t, s.Attached t → (s.addTrack info.mediaStream track).Attached t := by
  have keeps : ∀ {tracks : List Track} {t : Track}, t ∈ tracks →
      t ∈ if track ∈ tracks then tracks else tracks ++ [track] := by
    intro tracks t ht
    split
    · exact ht
    · exact List.mem_append_left _ ht
  refine ⟨fun id i hi => ?_, ?_, ?_⟩
  · simpa [addTrack] using h id i hi
  · obtain ⟨tracks, htracks⟩ : ∃ tracks, s.streams[info.mediaStream]? = some tracks :=
      ⟨_, List.getElem?_eq_getElem (h clientId info hinfo)⟩
    refine ⟨clientId, info, _, hinfo, Cells.modify_of_some htracks, ?_⟩
    split
    · assumption
    · exact List.mem_append_right _ List.mem_cons_self
  · rintro t ⟨id, i, tracks, hi, htracks, hmem⟩
    by_cases e : i.mediaStream = info.mediaStream
    · exact ⟨id, i, _, hi, e ▸ Cells.modify_of_some htracks, keeps hmem⟩
    · exact ⟨id, i, tracks, hi, Cells.modify_eq_some.mpr (.inr ⟨e, htracks⟩), hmem⟩

/-- A track that is added is attached, and no other is taken away. -/
theorem addedMediaConsumer_spec {s : RemoteClients} (h : s.Linked)
    (remoteClients : List RemoteClient) (track : Track) (clientId : ClientId) (userId : UserId) :
    (addedMediaConsumer remoteClients s track clientId userId).Linked ∧
      (addedMediaConsumer remoteClients s track clientId userId).Attached track ∧
      ∀ t, s.Attached t →
        (addedMediaConsumer remoteClients s track clientId userId).Attached t := by
  -- the slice is neither read nor written by what follows
  obtain ⟨s₁, hs₁, h₁, h₂⟩ : ∃ s₁, (if remoteClients.any fun c => c.clientId = clientId then s
      else s.add { clientId, userId }) = s₁ ∧ s₁.remoteClientInfo = s.remoteClientInfo ∧
        s₁.streams = s.streams := by
    refine ⟨_, rfl, ?_⟩
    split
    · exact ⟨rfl, rfl⟩
    · exact add_info s _
  obtain ⟨hlinked, ⟨info, hinfo, href⟩, hkeeps⟩ :=
    ensureStream_spec ((linked_congr h₁ h₂).mpr h) clientId userId
  obtain ⟨hlinked', hadded, hkeeps'⟩ := addTrack_spec hlinked hinfo track
  simp only [addedMediaConsumer, hs₁]
  rw [href] at hlinked' hadded hkeeps'
  obtain ⟨e₁, e₂⟩ := setTrackId_info ((s₁.ensureStream clientId userId).1.addTrack
    (s₁.ensureStream clientId userId).2 track) track.kind clientId (some track.id)
  refine ⟨(linked_congr e₁ e₂).mpr hlinked', (attached_congr e₁ e₂).mpr hadded, fun t ht => ?_⟩
  exact (attached_congr e₁ e₂).mpr (hkeeps' t (hkeeps t ((attached_congr h₁ h₂).mpr ht)))

theorem received_addedMediaConsumer (s : RemoteClients) (remoteClients : List RemoteClient)
    (track : Track) (clientId : ClientId) (userId : UserId) :
    (addedMediaConsumer remoteClients s track clientId userId).received = s.received := by
  have hadd : ∀ c, (s.add c).received = s.received := by
    intro c
    rw [add]
    split <;> rfl
  have hensure : ∀ s : RemoteClients, (s.ensureStream clientId userId).1.received = s.received := by
    intro s
    rw [ensureStream]
    split <;> rfl
  have hset : ∀ s : RemoteClients,
      (s.setTrackId track.kind clientId (some track.id)).received = s.received := by
    intro s
    cases track.kind <;> rfl
  simp only [addedMediaConsumer]
  rw [hset]
  refine (hensure _).trans ?_
  split
  · rfl
  · exact hadd _

end RemoteClients

end DemoApp.Webapp
