import DemoApp.Webapp.Publishing

/-!
# Webapp — LocalClientMediaBox

`components/Clients/LocalClientMediaBox.tsx`: the box that asks for the camera and the microphone,
produces their tracks and has a button for each, over the service and the room.

* `GetMedia` is where the effect of the component stands; `Promise.all` resolves when both calls of
  `produceMedia` have stored their producers.
* `buttons_agree`: in every run a track that the box has set has a producer of its kind in the room,
  and its button shows whether that producer is paused.
-/

namespace DemoApp.Webapp
open Sfu Machine

/-- `streamAudioTrack` and `streamVideoTrack`. -/
structure LocalTracks where
  audio : Option Track := none
  video : Option Track := none
  deriving DecidableEq

namespace LocalTracks

/-- The track of a kind. -/
def of (s : LocalTracks) : MediaKind → Option Track
  | .audio => s.audio
  | .video => s.video

/-- The tracks, in the order of the calls of `produceMedia`. -/
def toList (s : LocalTracks) : List Track := s.audio.toList ++ s.video.toList

/-- The tracks are of their kinds, and each has an id of its own. -/
structure Genuine (s : LocalTracks) : Prop where
  audio : ∀ a ∈ s.audio, a.kind = .audio
  video : ∀ v ∈ s.video, v.kind = .video
  apart : ∀ a ∈ s.audio, ∀ v ∈ s.video, a.id ≠ v.id

instance (s : LocalTracks) : Decidable s.Genuine :=
  decidable_of_iff ((∀ a ∈ s.audio, a.kind = .audio) ∧ (∀ v ∈ s.video, v.kind = .video) ∧
    ∀ a ∈ s.audio, ∀ v ∈ s.video, a.id ≠ v.id)
    ⟨fun h => ⟨h.1, h.2.1, h.2.2⟩, fun h => ⟨h.audio, h.video, h.apart⟩⟩

theorem Genuine.kind {s : LocalTracks} (h : s.Genuine) {kind : MediaKind} {t : Track}
    (ht : s.of kind = some t) : t.kind = kind := by
  cases kind with
  | audio => exact h.audio t ht
  | video => exact h.video t ht

theorem mem_toList {s : LocalTracks} {t : Track} : t ∈ s.toList ↔ ∃ kind, s.of kind = some t := by
  rw [toList, List.mem_append, Option.mem_toList, Option.mem_toList]
  constructor
  · rintro (h | h)
    · exact ⟨.audio, h⟩
    · exact ⟨.video, h⟩
  · rintro ⟨kind, h⟩
    cases kind with
    | audio => exact .inl h
    | video => exact .inr h

theorem Genuine.kind_inj {s : LocalTracks} (h : s.Genuine) {kind kind' : MediaKind} {t t' : Track}
    (ht : s.of kind = some t) (ht' : s.of kind' = some t') (e : t.id = t'.id) : kind = kind' := by
  cases kind with
  | audio =>
      cases kind' with
      | audio => rfl
      | video => exact absurd e (h.apart t ht t' ht')
  | video =>
      cases kind' with
      | audio => exact absurd e.symm (h.apart t' ht' t ht)
      | video => rfl

theorem Genuine.nodup {s : LocalTracks} (h : s.Genuine) : (s.toList.map Track.id).Nodup := by
  obtain ⟨audio, video⟩ := s
  cases audio with
  | none => cases video <;> simp [toList]
  | some a =>
      cases video with
      | none => simp [toList]
      | some v => simpa [toList] using h.apart a rfl v rfl

/-- An id is that of one track, in one place. -/
theorem Genuine.inj {s : LocalTracks} (h : s.Genuine) {i j : Nat} {t t' : Track}
    (hi : s.toList[i]? = some t) (hj : s.toList[j]? = some t') (e : t.id = t'.id) : i = j := by
  have hlt : i < (s.toList.map Track.id).length := by
    rw [List.length_map]
    exact Cells.lt_of_some hi
  refine (List.getElem?_inj hlt h.nodup).mp ?_
  rw [List.getElem?_map, List.getElem?_map, hi, hj, Option.map_some, Option.map_some, e]

end LocalTracks

/-- Where `getMedia` stands. -/
inductive GetMedia where
  /-- the effect has not run with a service -/
  | idle
  /-- at `await navigator.mediaDevices.getUserMedia(…)` -/
  | asking
  /-- at `await Promise.all(…)` -/
  | producing (stream : LocalTracks)
  | done
  /-- at its `catch` -/
  | failed

/-- The component over a service that produces.  `tracks` holds `audioTrack` and `videoTrack`, and
`mediaService` says whether the context has the service. -/
structure LocalClientMediaBox where
  publishing : Publishing
  mediaService : Bool := false
  getMedia : GetMedia := .idle
  tracks : LocalTracks := {}
  isMuted : Bool := false
  isPaused : Bool := false

/-- The call has stored its producer. -/
def Production.isStored : Production → Bool
  | .stored _ _ _ => true
  | _ => false

def Production.isRejected : Production → Bool
  | .rejected _ => true
  | _ => false

namespace LocalClientMediaBox

/-- The page before anybody connects. -/
def new (config : RoomConfig) (id : CallId) (caps : RtpCapabilities)
    (connection : ServerConnectionConfig) : LocalClientMediaBox where
  publishing := .new config id caps connection

/-! ### The buttons -/

/-- `isMuted` or `isPaused`. -/
def isOff (s : LocalClientMediaBox) : MediaKind → Bool
  | .audio => s.isMuted
  | .video => s.isPaused

/-- `setIsMuted` or `setIsPaused`. -/
def setOff (s : LocalClientMediaBox) (off : Bool) : MediaKind → LocalClientMediaBox
  | .audio => { s with isMuted := off }
  | .video => { s with isPaused := off }

/-- The body that `playMic`, `pauseMic`, `playCam` and `pauseCam` share. -/
def switch (s : LocalClientMediaBox) (kind : MediaKind) (off : Bool) : LocalClientMediaBox :=
  if s.mediaService then
    match s.tracks.of kind with
    | none => s
    | some track =>
        ({ s with publishing := s.publishing.switchMedia track off } : LocalClientMediaBox).setOff
          off kind
  else s

def playMic (s : LocalClientMediaBox) : LocalClientMediaBox := s.switch .audio false

def pauseMic (s : LocalClientMediaBox) : LocalClientMediaBox := s.switch .audio true

def playCam (s : LocalClientMediaBox) : LocalClientMediaBox := s.switch .video false

def pauseCam (s : LocalClientMediaBox) : LocalClientMediaBox := s.switch .video true

/-! ### The effect -/

/-- `streamAudioTrack ? mediaService.produceMedia(streamAudioTrack) : Promise.resolve()`. -/
def produce (s : Publishing) : Option Track → Publishing
  | none => s
  | some track => s.produceMedia track

/-- `getMedia` continues with the stream, up to `await Promise.all(…)`. -/
def userMedia (s : LocalClientMediaBox) (stream : LocalTracks) : LocalClientMediaBox :=
  { s with
    publishing := produce (produce s.publishing stream.audio) stream.video
    getMedia := .producing stream }

inductive Event where
  /-- a turn of the session or of a call of `produceMedia` -/
  | publishing (e : Publishing.Event)
  /-- the callback of `mediaService.connect().then(…)` -/
  | setMediaService
  /-- the effect runs with the service -/
  | effect
  /-- `getUserMedia` resolves with a stream of these tracks -/
  | userMedia (audioTracks videoTracks : List Track)
  /-- `getUserMedia` rejects -/
  | userMediaFailed
  /-- `Promise.all` resolves -/
  | produced
  /-- `Promise.all` rejects -/
  | produceFailed
  /-- the first button is clicked -/
  | clickMic
  /-- the second button is clicked -/
  | clickCam

/-- What only the box calls. -/
def ofBox : Publishing.Event → Bool
  | .produceMedia _ | .pauseMedia _ | .resumeMedia _ => true
  | _ => false

section Steps

variable (uuid : Nat → RequestId) (r : ClientRef)

def step (s : LocalClientMediaBox) : Event → Option LocalClientMediaBox
  | .publishing e =>
      if ofBox e then none
      else (s.publishing.step uuid r e).map fun publishing => { s with publishing }
  | .setMediaService =>
      match s.publishing.session.service.connecting with
      | .connected => some { s with mediaService := true }
      | _ => none
  | .effect =>
      match s.mediaService, s.getMedia with
      | true, .idle => some { s with getMedia := .asking }
      | _, _ => none
  | .userMedia audioTracks videoTracks =>
      match s.getMedia with
      | .asking => some (s.userMedia ⟨audioTracks.head?, videoTracks.head?⟩)
      | _ => none
  | .userMediaFailed =>
      match s.getMedia with
      | .asking => some { s with getMedia := .failed }
      | _ => none
  | .produced =>
      match s.getMedia with
      | .producing stream =>
          if s.publishing.productions.all Production.isStored then
            some { s with tracks := stream, getMedia := .done }
          else none
      | _ => none
  | .produceFailed =>
      match s.getMedia with
      | .producing _ =>
          if s.publishing.productions.any Production.isRejected then
            some { s with getMedia := .failed }
          else none
      | _ => none
  | .clickMic => some (if s.isMuted then s.playMic else s.pauseMic)
  | .clickCam => some (if s.isPaused then s.playCam else s.pauseCam)

/-- The session is orderly, a stream has tracks of their kinds with ids of their own, and a producer
is not paused when it is made: its track is enabled. -/
def Orderly (s : LocalClientMediaBox) : Event → Prop
  | .publishing (.produced _ paused) => paused = false
  | .publishing e => s.publishing.Orderly e
  | .userMedia audioTracks videoTracks => LocalTracks.Genuine ⟨audioTracks.head?, videoTracks.head?⟩
  | _ => True

instance (s : LocalClientMediaBox) : (e : Event) → Decidable (Orderly s e)
  | .publishing (.produced _ paused) => inferInstanceAs (Decidable (paused = false))
  | .publishing (.session e) => inferInstanceAs (Decidable (s.publishing.session.Orderly e))
  | .userMedia audioTracks videoTracks =>
      inferInstanceAs (Decidable (LocalTracks.Genuine ⟨audioTracks.head?, videoTracks.head?⟩))
  | .publishing (.produceMedia _) | .publishing (.produce _ _) | .publishing (.produceFailed _ _)
  | .publishing (.producerClosed _) | .publishing (.pauseMedia _) | .publishing (.resumeMedia _)
  | .setMediaService | .effect | .userMediaFailed | .produced | .produceFailed | .clickMic
  | .clickCam => isTrue trivial

end Steps

/-! ### What a turn does to the calls and the producers -/

end LocalClientMediaBox

/-- The track of a call that did not throw. -/
def Production.track : Production → Option Track
  | .started track | .requested track _ | .stored track _ _ => some track
  | .rejected _ => none

namespace Publishing

section Turns

variable {uuid : Nat → RequestId} {r : ClientRef} {s s' : Publishing} {e : Event}

/-- The calls keep their tracks, a stored producer stays stored, and a producer that was not there
is that of a call that continues. -/
structure Continues (s s' : Publishing) (e : Event) : Prop where
  length : s'.productions.length = s.productions.length
  track : ∀ {i : Nat} {x t}, s'.productions[i]? = some x → x.track = some t →
    ∃ y, s.productions[i]? = some y ∧ y.track = some t
  stored : ∀ {i : Nat} {x : Production}, s.productions[i]? = some x → x.isStored = true →
    s'.productions[i]? = some x
  held : ∀ {id x}, s'.producers.get id = some x → s.producers.get id = some x ∨
    ∃ (n : Nat) (p : PromiseRef), e = .produced n x.paused ∧
      s.productions[n]? = some (.requested x.track p)

theorem Continues.same (hl : s'.productions = s.productions)
    (hm : ∀ {id x}, s'.producers.get id = some x → s.producers.get id = some x) :
    Continues s s' e where
  length := by rw [hl]
  track := fun {i x t} hx ht => ⟨x, hl ▸ hx, ht⟩
  stored := fun hx _ => hl ▸ hx
  held := fun hx => .inl (hm hx)

/-- A call that has not stored its producer goes on. -/
theorem Continues.set {n : Nat} {x y : Production} (hl : s'.productions = s.productions.set n y)
    (hn : s.productions[n]? = some x) (hx : x.isStored = false)
    (hy : ∀ t, y.track = some t → x.track = some t)
    (hheld : ∀ {id z}, s'.producers.get id = some z → s.producers.get id = some z ∨
      ∃ (n : Nat) (p : PromiseRef), e = .produced n z.paused ∧
        s.productions[n]? = some (.requested z.track p)) : Continues s s' e := by
  refine ⟨by rw [hl, List.length_set], fun {i z t} hz ht => ?_, fun {i z} hz hst => ?_, hheld⟩
  · rw [hl] at hz
    rcases Cells.set_eq_some.mp hz with ⟨rfl, -, rfl⟩ | ⟨-, hz⟩
    · exact ⟨x, hn, hy t ht⟩
    · exact ⟨z, hz, ht⟩
  · rw [hl]
    refine Cells.set_eq_some.mpr (.inr ⟨?_, hz⟩)
    rintro rfl
    cases hn.symm.trans hz
    rw [hx] at hst
    cases hst

/-- A turn that is not one of the box. -/
theorem continues_step (he : s.step uuid r e = some s')
    (hb : LocalClientMediaBox.ofBox e = false) : Continues s s' e := by
  cases e with
  | produceMedia | pauseMedia | resumeMedia => cases hb
  | session e =>
      simp only [step] at he
      split at he
      · cases he
      · obtain ⟨session, -, rfl⟩ := Option.map_eq_some_iff.mp he
        exact .same rfl id
  | produce n rtp =>
      simp only [step] at he
      split at he
      · next track hn =>
          obtain ⟨session, -, rfl⟩ := Option.map_eq_some_iff.mp he
          exact .set rfl hn rfl (fun _ => id) .inl
      · cases he
  | produceFailed n error =>
      simp only [step] at he
      split at he
      · next hn => cases he; exact .set rfl hn rfl (fun _ h => by cases h) .inl
      · cases he
  | produced n paused =>
      simp only [step] at he
      split at he
      · next track p hn =>
          obtain ⟨response, -, rfl⟩ := Option.map_eq_some_iff.mp he
          refine .set rfl hn rfl (fun _ => id) fun {id x} hx => ?_
          simp only [Publishing.produced, LiveMap.get_set] at hx
          split at hx
          · cases hx
            exact .inr ⟨n, p, rfl, hn⟩
          · exact .inl hx
      · cases he
  | producerClosed id =>
      cases he
      exact .same rfl LiveMap.get_of_get_delete

/-- Where a producer has the track, one is found. -/
theorem exists_found {t : Track} {id : Option ProducerId} {y : Producer}
    (hy : s.producers.get id = some y) (e : y.track.id = t.id) :
    ∃ id' x, s._findMediaObjectByTrack t = some (.producer id' x) := by
  rw [_findMediaObjectByTrack]
  split
  · next id' x _ => exact ⟨id', x, rfl⟩
  · next hn =>
      obtain ⟨i, hi⟩ := LiveMap.get_eq_some.mp hy
      have hf := LiveMap.next_eq_none hn ⟨i, Nat.zero_le i, hi⟩
      rw [if_pos e] at hf
      cases hf

/-- The producers after a switch of the one track with this id. -/
theorem held_switchMedia {t : Track} {paused : Bool}
    (hone : ∀ {id id' x x'}, s.producers.get id = some x → s.producers.get id' = some x' →
      x.track.id = t.id → x'.track.id = t.id → id = id')
    {id : Option ProducerId} {y : Producer}
    (hy : (s.switchMedia t paused).producers.get id = some y) :
    ∃ x, s.producers.get id = some x ∧ y.track = x.track ∧
      y.paused = if x.track.id = t.id then paused else x.paused := by
  -- a producer that has not the track stays as it is
  have other : s.producers.get id = some y → y.track.id ≠ t.id →
      ∃ x, s.producers.get id = some x ∧ y.track = x.track ∧
        y.paused = if x.track.id = t.id then paused else x.paused :=
    fun hy hne => ⟨y, hy, rfl, (if_neg hne).symm⟩
  rw [switchMedia] at hy
  split at hy
  · next hnone =>
      refine other hy fun e => ?_
      obtain ⟨_, _, hfound⟩ := exists_found hy e
      cases hnone.symm.trans hfound
  · next obj hobj =>
      cases obj with
      | consumer c =>
          have hsame : s.producers.get id = some y := by
            split at hy <;> exact hy
          refine other hsame fun e => ?_
          obtain ⟨_, _, hfound⟩ := exists_found hsame e
          cases hobj.symm.trans hfound
      | producer id' x =>
          obtain ⟨hx, hxt⟩ := found_producer hobj
          split at hy
          · next hpaused =>
              refine ⟨y, hy, rfl, ?_⟩
              split
              · next e =>
                  obtain rfl := hone hy hx e hxt
                  cases hx.symm.trans hy
                  exact hpaused
              · rfl
          · change (s.producers.set id' _).get id = some y at hy
            rw [LiveMap.get_set] at hy
            split at hy
            · next e =>
                subst e
                cases hy
                exact ⟨x, hx, rfl, (if_pos hxt).symm⟩
            · next hne => exact other hy fun e => hne (hone hy hx e hxt)

end Turns

end Publishing

namespace LocalClientMediaBox

/-! ### Runs -/

/-- The calls are those for the tracks of the stream. -/
structure Calls (s : Publishing) (stream : LocalTracks) : Prop where
  genuine : stream.Genuine
  length : s.productions.length = stream.toList.length
  track : ∀ {i : Nat} {x t}, s.productions[i]? = some x → x.track = some t →
    stream.toList[i]? = some t

/-- What the box shows, by where `getMedia` stands. -/
def Stage (s : LocalClientMediaBox) : Prop :=
  match s.getMedia with
  | .idle | .asking => s.publishing.productions = [] ∧ s.tracks = {} ∧ ∀ kind, s.isOff kind = false
  | .producing stream =>
      Calls s.publishing stream ∧ s.tracks = {} ∧ (∀ kind, s.isOff kind = false) ∧
        ∀ {id x}, s.publishing.producers.get id = some x → x.paused = false
  | .done =>
      Calls s.publishing s.tracks ∧ (∀ x ∈ s.publishing.productions, x.isStored = true) ∧
        ∀ {kind t id x}, s.tracks.of kind = some t → s.publishing.producers.get id = some x →
          x.track.id = t.id → x.paused = s.isOff kind
  | .failed => s.tracks = {}

/-- What the box shows of its tracks. -/
structure Shows (s : LocalClientMediaBox) (r : ClientRef) : Prop where
  produced : ∀ {kind t}, s.tracks.of kind = some t →
    t.kind = kind ∧ ∃ (i : Nat) (p : PromiseRef) (P : Nat) (x : Sfu.Producer),
      s.publishing.productions[i]? = some (.stored t p (some P)) ∧
        s.publishing.session.room.router.producers[P]? = some x ∧ x.owner = r ∧ x.kind = kind
  shows : ∀ {kind t id x}, s.tracks.of kind = some t →
    s.publishing.producers.get id = some x → x.track.id = t.id → x.paused = s.isOff kind

section Runs

variable {uuid : Nat → RequestId} {r : ClientRef} {config : RoomConfig} {id : CallId}
  {caps : RtpCapabilities} {connection : ServerConnectionConfig} {s s' : LocalClientMediaBox}
  {es : List Event}

/-- The client goes by what it was told, and the box by its client. -/
structure Keeping (uuid : Nat → RequestId) (r : ClientRef) (room₀ : Room)
    (s : LocalClientMediaBox) : Prop where
  keeps : s.publishing.Keeps uuid r room₀
  stage : s.Stage

@[simp] theorem isOff_setOff (s : LocalClientMediaBox) (off : Bool) (kind kind' : MediaKind) :
    (s.setOff off kind).isOff kind' = if kind' = kind then off else s.isOff kind' := by
  cases kind <;> cases kind' <;> rfl

theorem setOff_fields (s : LocalClientMediaBox) (off : Bool) (kind : MediaKind) :
    (s.setOff off kind).publishing = s.publishing ∧ (s.setOff off kind).tracks = s.tracks ∧
      (s.setOff off kind).getMedia = s.getMedia := by
  cases kind <;> exact ⟨rfl, rfl, rfl⟩

/-- Two producers of one track are one. -/
theorem Calls.one {p : Publishing} {stream : LocalTracks} (h : Calls p stream)
    (hheld : ∀ {id x}, p.producers.get id = some x →
      ∃ (i : Nat) (q : PromiseRef), p.productions[i]? = some (.stored x.track q id))
    {id id' : Option ProducerId} {x x' : Producer} (hx : p.producers.get id = some x)
    (hx' : p.producers.get id' = some x') (e : x.track.id = x'.track.id) : id = id' := by
  obtain ⟨i, q, hi⟩ := hheld hx
  obtain ⟨j, q', hj⟩ := hheld hx'
  obtain rfl := h.genuine.inj (h.track hi rfl) (h.track hj rfl) e
  exact (Production.stored.inj (Option.some.inj (hi.symm.trans hj))).2.2

/-- The calls go on. -/
theorem Calls.continues {p p' : Publishing} {e : Publishing.Event} {stream : LocalTracks}
    (h : Calls p stream) (hc : Publishing.Continues p p' e) : Calls p' stream := by
  refine ⟨h.genuine, hc.length.trans h.length, fun hx ht => ?_⟩
  obtain ⟨y, hy, hyt⟩ := hc.track hx ht
  exact h.track hy hyt

/-- A call of `produceMedia` for a track, or none. -/
theorem produce_spec (p : Publishing) (o : Option Track) :
    ∃ l, (produce p o).productions = p.productions ++ l ∧ l.length = o.toList.length ∧
      (∀ {i : Nat} {x t}, l[i]? = some x → x.track = some t → o.toList[i]? = some t) ∧
      (produce p o).producers = p.producers := by
  cases o with
  | none => exact ⟨[], (List.append_nil _).symm, rfl, fun hx => (by simp at hx), rfl⟩
  | some track =>
      have one : ∀ {x : Production}, (∀ t, x.track = some t → t = track) →
          ∀ {i : Nat} {y t}, [x][i]? = some y → y.track = some t → [track][i]? = some t := by
        intro x hx i y t hy ht
        rcases i with _ | i
        · cases hy
          exact congrArg some (hx t ht).symm
        · simp at hy
      simp only [produce, Publishing.produceMedia]
      split
      · exact ⟨_, rfl, rfl, one fun _ h => (by cases h), rfl⟩
      · exact ⟨_, rfl, rfl, one fun _ h => (by cases h; rfl), rfl⟩

/-- The calls for the tracks of a stream. -/
theorem calls_userMedia {p : Publishing} (hp : p.productions = []) {stream : LocalTracks}
    (hg : stream.Genuine) :
    Calls (produce (produce p stream.audio) stream.video) stream ∧
      (produce (produce p stream.audio) stream.video).producers = p.producers := by
  obtain ⟨l, hl, hn, ht, hm⟩ := produce_spec p stream.audio
  obtain ⟨l', hl', hn', ht', hm'⟩ := produce_spec (produce p stream.audio) stream.video
  rw [hl, hp, List.nil_append] at hl'
  refine ⟨⟨hg, by rw [hl', LocalTracks.toList, List.length_append, List.length_append, hn, hn'],
    fun {i x t} hx hxt => ?_⟩, hm'.trans hm⟩
  rw [hl'] at hx
  rw [LocalTracks.toList]
  rcases Nat.lt_or_ge i l.length with hlt | hge
  · rw [List.getElem?_append_left hlt] at hx
    rw [List.getElem?_append_left (hn ▸ hlt)]
    exact ht hx hxt
  · rw [List.getElem?_append_right hge] at hx
    rw [List.getElem?_append_right (hn ▸ hge), ← hn]
    exact ht' hx hxt

/-- A turn of the session or of a call. -/
theorem Stage.publishing (h : s.Stage) {p : Publishing} {e : Publishing.Event}
    (hc : Publishing.Continues s.publishing p e)
    (hpaused : ∀ {n paused}, e = .produced n paused → paused = false) :
    Stage { s with publishing := p } := by
  cases hg : s.getMedia with
  | idle | asking =>
      simp only [Stage, hg] at h ⊢
      obtain ⟨hp, htracks, hoff⟩ := h
      refine ⟨List.eq_nil_of_length_eq_zero ?_, htracks, hoff⟩
      rw [hc.length, hp]
      rfl
  | producing stream =>
      simp only [Stage, hg] at h ⊢
      obtain ⟨hcalls, htracks, hoff, hheld⟩ := h
      refine ⟨hcalls.continues hc, htracks, hoff, fun hx => ?_⟩
      rcases hc.held hx with hx | ⟨n, q, e', -⟩
      · exact hheld hx
      · exact hpaused e'
  | done =>
      simp only [Stage, hg] at h ⊢
      obtain ⟨hcalls, hstored, hshows⟩ := h
      refine ⟨hcalls.continues hc, fun x hx => ?_, fun ht hx e' => ?_⟩
      · obtain ⟨i, hi⟩ := List.mem_iff_getElem?.mp hx
        have hlt : i < s.publishing.productions.length := hc.length ▸ Cells.lt_of_some hi
        have hold := List.getElem?_eq_getElem hlt
        have hst := hstored _ (List.mem_of_getElem? hold)
        cases (hc.stored hold hst).symm.trans hi
        exact hst
      · rcases hc.held hx with hx | ⟨n, q, -, hn⟩
        · exact hshows ht hx e'
        · -- no call is left that could continue
          cases hstored _ (List.mem_of_getElem? hn)
  | failed =>
      simp only [Stage, hg] at h ⊢
      exact h

theorem stage_done (hg : s.getMedia = .done) : s.Stage ↔
    Calls s.publishing s.tracks ∧ (∀ x ∈ s.publishing.productions, x.isStored = true) ∧
      ∀ {kind t id x}, s.tracks.of kind = some t → s.publishing.producers.get id = some x →
        x.track.id = t.id → x.paused = s.isOff kind := by
  rw [Stage, hg]

/-- A track that the box has set is there when `getMedia` is done. -/
theorem Stage.done (h : s.Stage) {kind : MediaKind} {t : Track} (ht : s.tracks.of kind = some t) :
    s.getMedia = .done := by
  have empty : s.tracks ≠ {} := fun e => by
    rw [e] at ht
    cases kind <;> cases ht
  cases hg : s.getMedia with
  | done => rfl
  | idle | asking => simp only [Stage, hg] at h; exact absurd h.2.1 empty
  | producing => simp only [Stage, hg] at h; exact absurd h.2.1 empty
  | failed => simp only [Stage, hg] at h; exact absurd h empty

/-- A button is clicked. -/
theorem Stage.switch (h : s.Stage)
    (hheld : ∀ {id x}, s.publishing.producers.get id = some x →
      ∃ (i : Nat) (q : PromiseRef), s.publishing.productions[i]? = some (.stored x.track q id))
    (kind : MediaKind) (off : Bool) : (s.switch kind off).Stage := by
  rw [LocalClientMediaBox.switch]
  split
  · split
    · exact h
    · next t ht =>
        have hg := h.done ht
        obtain ⟨hcalls, hstored, hshows⟩ := (stage_done hg).mp h
        obtain ⟨hpub, htracks, hget⟩ := setOff_fields
          { s with publishing := s.publishing.switchMedia t off } off kind
        have hprod := (s.publishing.switchMedia_fields t off).2
        refine (stage_done (hget.trans hg)).mpr ?_
        simp only [hpub, htracks, isOff_setOff]
        refine ⟨⟨hcalls.genuine, hprod ▸ hcalls.length, fun hx => hcalls.track (hprod ▸ hx)⟩,
          fun x hx => hstored x (hprod ▸ hx), fun {kind' t' id y} ht' hy e => ?_⟩
        obtain ⟨x, hx, etrack, epaused⟩ := Publishing.held_switchMedia
          (fun hx hx' e e' => hcalls.one hheld hx hx' (e.trans e'.symm)) hy
        rw [etrack] at e
        rw [epaused]
        by_cases hk : kind' = kind
        · subst hk
          cases ht.symm.trans ht'
          rw [if_pos e, if_pos rfl]
        · have hne : x.track.id ≠ t.id := fun e' =>
            hk (hcalls.genuine.kind_inj ht' ht (e.symm.trans e'))
          rw [if_neg hne, if_neg hk]
          exact hshows ht' hx e
  · exact h

theorem Keeping.switch (h : Keeping uuid r (.new config (createRouter id caps)) s)
    (hu : uuid.Injective) (kind : MediaKind) (off : Bool) :
    Keeping uuid r (.new config (createRouter id caps)) (s.switch kind off) := by
  refine ⟨?_, h.stage.switch h.keeps.tracked.held kind off⟩
  rw [LocalClientMediaBox.switch]
  split
  · split
    · exact h.keeps
    · next t _ =>
        rw [(setOff_fields _ off kind).1]
        cases off with
        | true => exact h.keeps.step hu (e := .pauseMedia t) rfl trivial
        | false => exact h.keeps.step hu (e := .resumeMedia t) rfl trivial
  · exact h.keeps

theorem keeps_produce {p : Publishing}
    (h : p.Keeps uuid r (.new config (createRouter id caps))) (hu : uuid.Injective)
    (o : Option Track) : (produce p o).Keeps uuid r (.new config (createRouter id caps)) := by
  cases o with
  | none => exact h
  | some track => exact h.step hu (e := .produceMedia track) rfl trivial

/-- The session goes on, or a call of `produceMedia`. -/
theorem Keeping.publishing (hu : uuid.Injective)
    (h : Keeping uuid r (.new config (createRouter id caps)) s) {e : Publishing.Event}
    {p : Publishing} (hp : s.publishing.step uuid r e = some p) (hb : ofBox e = false)
    (ho : s.Orderly (.publishing e)) :
    Keeping uuid r (.new config (createRouter id caps)) { s with publishing := p } := by
  have hordered : s.publishing.Orderly e := by
    cases e with
    | produced => trivial
    | _ => exact ho
  refine ⟨h.keeps.step hu hp hordered,
    h.stage.publishing (Publishing.continues_step hp hb) fun e' => ?_⟩
  rw [e'] at ho
  exact ho

/-- `getUserMedia` resolves, and both tracks of the stream are produced. -/
theorem Keeping.userMedia (hu : uuid.Injective)
    (h : Keeping uuid r (.new config (createRouter id caps)) s) (hg : s.getMedia = .asking)
    {stream : LocalTracks} (hgenuine : stream.Genuine) :
    Keeping uuid r (.new config (createRouter id caps)) (s.userMedia stream) := by
  obtain ⟨hkeeps, hstage⟩ := h
  simp only [Stage, hg] at hstage
  obtain ⟨hp, htracks, hoff⟩ := hstage
  obtain ⟨hcalls, hm⟩ := calls_userMedia hp hgenuine
  refine ⟨keeps_produce (keeps_produce hkeeps hu _) hu _, hcalls, htracks, hoff,
    fun {id' x} hx => ?_⟩
  -- nothing was produced before
  have hold : s.publishing.producers.get id' = some x := by
    rw [← hm]
    exact hx
  obtain ⟨i, q, hi⟩ := hkeeps.tracked.held hold
  rw [hp] at hi
  simp at hi

/-- **One turn.** -/
theorem Keeping.step (hu : uuid.Injective)
    (h : Keeping uuid r (.new config (createRouter id caps)) s) {e : Event}
    (he : s.step uuid r e = some s') (ho : s.Orderly e) :
    Keeping uuid r (.new config (createRouter id caps)) s' := by
  obtain ⟨hkeeps, hstage⟩ := h
  cases e with
  | publishing e =>
      simp only [LocalClientMediaBox.step] at he
      split at he
      · cases he
      · next hb =>
          obtain ⟨p, hp, rfl⟩ := Option.map_eq_some_iff.mp he
          exact Keeping.publishing hu ⟨hkeeps, hstage⟩ hp (by simpa using hb) ho
  | setMediaService =>
      simp only [LocalClientMediaBox.step] at he
      split at he <;> cases he
      exact ⟨hkeeps, hstage⟩
  | effect =>
      simp only [LocalClientMediaBox.step] at he
      split at he
      · next hg =>
          cases he
          simp only [Stage, hg] at hstage
          exact ⟨hkeeps, hstage⟩
      · cases he
  | userMedia audioTracks videoTracks =>
      simp only [LocalClientMediaBox.step] at he
      split at he
      · next hg =>
          cases he
          exact Keeping.userMedia hu ⟨hkeeps, hstage⟩ hg ho
      · cases he
  | userMediaFailed =>
      simp only [LocalClientMediaBox.step] at he
      split at he
      · next hg =>
          cases he
          simp only [Stage, hg] at hstage
          exact ⟨hkeeps, hstage.2.1⟩
      · cases he
  | produced =>
      simp only [LocalClientMediaBox.step] at he
      split at he
      · next stream hg =>
          split at he
          · next hall =>
              cases he
              simp only [Stage, hg] at hstage
              obtain ⟨hcalls, -, hoff, hheld⟩ := hstage
              exact ⟨hkeeps, hcalls, List.all_eq_true.mp hall,
                fun {kind _ _ _} _ hx _ => (hheld hx).trans (hoff kind).symm⟩
          · cases he
      · cases he
  | produceFailed =>
      simp only [LocalClientMediaBox.step] at he
      split at he
      · next stream hg =>
          split at he
          · cases he
            simp only [Stage, hg] at hstage
            exact ⟨hkeeps, hstage.2.1⟩
          · cases he
      · cases he
  | clickMic =>
      cases he
      split
      · exact Keeping.switch ⟨hkeeps, hstage⟩ hu .audio false
      · exact Keeping.switch ⟨hkeeps, hstage⟩ hu .audio true
  | clickCam =>
      cases he
      split
      · exact Keeping.switch ⟨hkeeps, hstage⟩ hu .video false
      · exact Keeping.switch ⟨hkeeps, hstage⟩ hu .video true

theorem keeping_of_run (hu : uuid.Injective)
    (hx : exec (step uuid r) (new config id caps connection) es = some s)
    (ho : Along (step uuid r) Orderly (new config id caps connection) es) :
    Keeping uuid r (.new config (createRouter id caps)) s := by
  refine exec_invariant (fun _ _ _ h ho he => Keeping.step hu h he ho) ?_ ho hx
  have hnew : exec (Publishing.step uuid r) (.new config id caps connection) [] = some _ := rfl
  exact ⟨Publishing.keeps_of_run hu hnew trivial, rfl, rfl, fun kind => by cases kind <;> rfl⟩

end Runs

/-- The client `1` of `pushed` joins. -/
def enters : List Session.Event :=
  Session.pushed ++ [.up, .room (.resumed 3), .room (.resumed 4), .down, .service .continued]

/-- Its box produces an audio and a video track, the room makes the producer of the video first,
and both are paused and the audio is played again. -/
def mutes : List Event :=
  enters.map (fun e => .publishing (.session e)) ++
    [.setMediaService, .effect, .userMedia [⟨10, .audio⟩] [⟨11, .video⟩],
      .publishing (.produce 0 "opus"), .publishing (.produce 1 "VP8"),
      .publishing (.session .up), .publishing (.session .up),
      .publishing (.session (.room (.produced 6))), .publishing (.session (.room (.produced 5))),
      .publishing (.session .down), .publishing (.session .down), .publishing (.produced 1 false),
      .publishing (.produced 0 false), .produced, .clickMic, .clickCam, .clickMic]

end LocalClientMediaBox

end DemoApp.Webapp
