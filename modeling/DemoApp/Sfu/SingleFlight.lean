import DemoApp.Support.Cells
import DemoApp.Support.Machine
import DemoApp.Sfu.RoomCore
import DemoApp.Sfu.Rooms

/-!
# Sfu — SingleFlight

One creation at a time for each room id.  While a creation is on its way `_creatingRooms` has it,
until its `finally` has run; from the moment its room exists until the room closes `_rooms` has
the room.  The two overlap, so no call slips in between (`Flight`).

* `single_flight`: at most one `createRouter` is in flight for a room id, no two rooms of one id
  are open, calls made during one flight settle as the same room or the same error, and after a
  failed creation neither map has the room id and the next call starts anew.
-/

namespace DemoApp.Sfu

/-- The callback of `finally` has run. -/
def Stage.isDone : Stage → Bool
  | .done _ => true
  | _ => false

/-- No room has come of the creation, and its `finally` has not run. -/
def Stage.unbuilt : Stage → Bool
  | .creating | .created _ | .settled (.error _) => true
  | .settled (.ok _) | .done _ => false

theorem Stage.not_done (stage : Stage) (h : stage.unbuilt = true) : stage.isDone = false := by
  cases stage with
  | done => cases h
  | creating | created | settled => rfl

namespace Rooms
open Machine

/-! ### The invariant -/

/-- Where the two maps stand against the creations and the rooms. -/
structure Flight (s : Rooms) : Prop where
  entry : ∀ {id k}, s.creatingRooms.get id = some k →
    ∃ stage, s.creations[k]? = some ⟨id, stage⟩ ∧ stage.isDone = false
  active : ∀ {k : Nat} {id stage}, s.creations[k]? = some ⟨id, stage⟩ → stage.isDone = false →
    s.creatingRooms.get id = some k
  unbuilt : ∀ {k : Nat} {id stage}, s.creations[k]? = some ⟨id, stage⟩ → stage.unbuilt = true →
    s.rooms.get id = none
  stored : ∀ {id r}, s.rooms.get id = some r → ∃ x, s.room[r]? = some x ∧ x.roomId = id
  registered : ∀ {r : Nat} {x}, s.room[r]? = some x → x.router.closed = false →
    s.rooms.get x.roomId = some r

namespace Flight

variable {s : Rooms}

/-- A creation goes on to a stage in which it still is on its way. -/
theorem setStage (h : s.Flight) {k : CreationRef} {id : RoomId} {stage stage' : Stage}
    (hk : s.creations[k]? = some ⟨id, stage⟩) (hd : stage.isDone = false)
    (hd' : stage'.isDone = false) (hu : stage'.unbuilt = true → stage.unbuilt = true) :
    (s.setStage k id stage').Flight := by
  have hlt := Cells.lt_of_some hk
  refine ⟨fun {id' j} he => ?_, fun {j id' st} hj hst => ?_, fun {j id' st} hj hst => ?_,
    h.stored, h.registered⟩
  · obtain ⟨st, hj, hst⟩ := h.entry he
    by_cases e : j = k
    · subst e
      cases hk.symm.trans hj
      exact ⟨stage', Cells.set_eq_some.mpr (.inl ⟨rfl, hlt, rfl⟩), hd'⟩
    · exact ⟨st, Cells.set_eq_some.mpr (.inr ⟨e, hj⟩), hst⟩
  · rcases Cells.set_eq_some.mp hj with ⟨rfl, -, e⟩ | ⟨-, hj⟩
    · cases e; exact h.active hk hd
    · exact h.active hj hst
  · rcases Cells.set_eq_some.mp hj with ⟨rfl, -, e⟩ | ⟨-, hj⟩
    · cases e; exact h.unbuilt hk (hu hst)
    · exact h.unbuilt hj hst

theorem getOrCreateRoom (h : s.Flight) (roomId : RoomId) : (s.getOrCreateRoom roomId).Flight := by
  rw [Rooms.getOrCreateRoom]
  split
  · exact ⟨h.entry, h.active, h.unbuilt, h.stored, h.registered⟩
  · next hr =>
      split
      · exact ⟨h.entry, h.active, h.unbuilt, h.stored, h.registered⟩
      · next hc =>
          refine ⟨fun {id k} he => ?_, fun {k id stage} hk hd => ?_,
            fun {k id stage} hk hu => ?_, h.stored, h.registered⟩
          · simp only [LiveMap.get_set] at he
            split at he
            · next e =>
                subst e
                cases he
                exact ⟨.creating, Cells.concat_eq_some.mpr (.inr ⟨rfl, rfl⟩), rfl⟩
            · obtain ⟨stage, hk, hd⟩ := h.entry he
              exact ⟨stage, Cells.append_of_some hk, hd⟩
          · simp only [LiveMap.get_set]
            rcases Cells.concat_eq_some.mp hk with hk | ⟨rfl, e⟩
            · have ha := h.active hk hd
              rw [if_neg]
              · exact ha
              · rintro rfl; rw [hc] at ha; cases ha
            · cases e; simp
          · rcases Cells.concat_eq_some.mp hk with hk | ⟨rfl, e⟩
            · exact h.unbuilt hk hu
            · cases e; exact hr

/-- The callback of `then`. -/
theorem then_ (h : s.Flight) {k : CreationRef} {id : RoomId} {result : Except String Router}
    (hk : s.creations[k]? = some ⟨id, .created result⟩) : (s.then_ k id result).Flight := by
  cases result with
  | error error => exact h.setStage hk rfl rfl fun _ => rfl
  | ok router =>
      -- the room is stored first, under an id that no stored and no open room has
      have hnone := h.unbuilt hk rfl
      have h₁ : Flight { s with
          room := s.room ++ [Room.new ⟨s.ip, s.announcedIp, id⟩ router]
          rooms := s.rooms.set id s.room.length
          creations := s.creations.set k ⟨id, .settled (.ok s.room.length)⟩ } := by
        have h₂ : (s.setStage k id (.settled (.ok s.room.length))).Flight :=
          h.setStage hk rfl rfl nofun
        refine ⟨h₂.entry, h₂.active, fun {j id' st} hj hst => ?_, fun {id' r} hr => ?_,
          fun {r x} hx ho => ?_⟩
        · -- no other creation is on its way for the id
          have hne : id' ≠ id := by
            rintro rfl
            rcases Cells.set_eq_some.mp hj with ⟨-, -, e⟩ | ⟨hjk, hj⟩
            · cases e; cases hst
            · exact hjk (Option.some.inj ((h.active hj (st.not_done hst)).symm.trans
                (h.active hk rfl)))
          exact (LiveMap.get_set_of_ne hne).trans (h₂.unbuilt hj hst)
        · simp only [LiveMap.get_set] at hr
          split at hr
          · next e =>
              subst e
              cases hr
              exact ⟨_, Cells.concat_eq_some.mpr (.inr ⟨rfl, rfl⟩), rfl⟩
          · obtain ⟨x, hx, e⟩ := h.stored hr
            exact ⟨x, Cells.append_of_some hx, e⟩
        · rcases Cells.concat_eq_some.mp hx with hx | ⟨rfl, rfl⟩
          · have hreg := h.registered hx ho
            rw [LiveMap.get_set_of_ne]
            · exact hreg
            · intro e
              rw [e, hnone] at hreg
              cases hreg
          · exact LiveMap.get_set_self _ _ _
      exact h₁

/-- The callback of `finally`. -/
theorem finally_ (h : s.Flight) {k : CreationRef} {id : RoomId} {outcome : Outcome}
    (hk : s.creations[k]? = some ⟨id, .settled outcome⟩) : (s.finally_ k id outcome).Flight := by
  refine ⟨fun {id' j} he => ?_, fun {j id' st} hj hst => ?_, fun {j id' st} hj hst => ?_,
    h.stored, h.registered⟩
  · simp only [Rooms.finally_, Rooms.setStage, LiveMap.get_delete] at he
    split at he
    · cases he
    · next hne =>
        obtain ⟨st, hj, hst⟩ := h.entry he
        refine ⟨st, Cells.set_eq_some.mpr (.inr ⟨?_, hj⟩), hst⟩
        rintro rfl
        cases hk.symm.trans hj
        exact hne rfl
  · rcases Cells.set_eq_some.mp hj with ⟨-, -, e⟩ | ⟨hjk, hj⟩
    · cases e; cases hst
    · have ha := h.active hj hst
      refine (LiveMap.get_delete_of_ne ?_).trans ha
      rintro rfl
      exact hjk (Option.some.inj (ha.symm.trans (h.active hk rfl)))
  · rcases Cells.set_eq_some.mp hj with ⟨-, -, e⟩ | ⟨-, hj⟩
    · cases e; cases hst
    · exact h.unbuilt hj hst

/-- A turn of a room: it is deleted when it calls `onClosed`, and then it was the stored one. -/
theorem setRoom (h : s.Flight) {r : RoomRef} {x x' : Room} {e : Room.Event}
    (hr : s.room[r]? = some x) (he : x.step e = some x') : (s.setRoom r x x').Flight := by
  have hlt := Cells.lt_of_some hr
  obtain ⟨hid, hcl⟩ := Room.closing_step he
  have rooms : ∀ {id q}, (s.setRoom r x x').rooms.get id = some q → s.rooms.get id = some q := by
    intro id q hq
    simp only [Rooms.setRoom] at hq
    split at hq
    · exact LiveMap.get_of_get_delete hq
    · exact hq
  refine ⟨h.entry, h.active, fun {j id st} hj hst => ?_, fun {id q} hq => ?_,
    fun {q y} hy ho => ?_⟩
  · have hn := h.unbuilt hj hst
    cases hg : (s.setRoom r x x').rooms.get id with
    | none => rfl
    | some q => rw [rooms hg] at hn; cases hn
  · obtain ⟨y, hy, e⟩ := h.stored (rooms hq)
    by_cases hqr : q = r
    · subst hqr
      cases hr.symm.trans hy
      exact ⟨x', Cells.set_eq_some.mpr (.inl ⟨rfl, hlt, rfl⟩), hid.trans e⟩
    · exact ⟨y, Cells.set_eq_some.mpr (.inr ⟨hqr, hy⟩), e⟩
  · rcases Cells.set_eq_some.mp hy with ⟨rfl, -, rfl⟩ | ⟨hqr, hy⟩
    · rcases hcl with ⟨hc, hcalls⟩ | ⟨-, hc, -⟩
      · rw [hc] at ho
        simp only [Rooms.setRoom, hcalls, Nat.lt_irrefl, if_false, hid]
        exact h.registered hr ho
      · rw [hc] at ho; cases ho
    · have hreg := h.registered hy ho
      simp only [Rooms.setRoom]
      split
      · next hlt' =>
          -- it was open, so it is the room stored under its id
          have hopen : x.router.closed = false := by
            rcases hcl with ⟨-, hcalls⟩ | ⟨hopen, -⟩
            · rw [hcalls] at hlt'; exact absurd hlt' (Nat.lt_irrefl _)
            · exact hopen
          refine (LiveMap.get_delete_of_ne fun e => ?_).trans hreg
          rw [e, h.registered hr hopen] at hreg
          exact hqr (Option.some.inj hreg).symm
      · exact hreg

theorem step {s' : Rooms} {e : Event} (h : s.Flight) (he : s.step e = some s') : s'.Flight := by
  cases step_turn he with
  | getOrCreateRoom roomId => exact h.getOrCreateRoom roomId
  | routerCreated _ _ hk => exact h.setStage hk rfl rfl fun _ => rfl
  | routerFailed _ hk => exact h.setStage hk rfl rfl fun _ => rfl
  | then_ hk => exact h.then_ hk
  | finally_ hk => exact h.finally_ hk
  | settled => exact ⟨h.entry, h.active, h.unbuilt, h.stored, h.registered⟩
  | room hr hx => exact h.setRoom hr hx

end Flight

theorem flight_of_run {ip announcedIp : String} {es : List Event} {s : Rooms}
    (hx : exec Rooms.step (.new ip announcedIp) es = some s) : s.Flight :=
  exec_invariant_of_step (fun _ _ _ h he => h.step he) ⟨by simp [new], by simp [new],
    by simp [new], by simp [new], by simp [new]⟩ hx

/-! ### Promises -/

/-- A creation stays what it is, and what it settled as. -/
theorem creation_later {s s' : Rooms} {e : Event} (he : s.step e = some s') {k : Nat}
    {id : RoomId} {stage : Stage} (hk : s.creations[k]? = some ⟨id, stage⟩) :
    ∃ stage', s'.creations[k]? = some ⟨id, stage'⟩ ∧
      ∀ o, stage.outcome = some o → stage'.outcome = some o := by
  have set : ∀ {j id' st st'}, s.creations[j]? = some ⟨id', st⟩ →
      (∀ o, st.outcome = some o → st'.outcome = some o) →
      ∃ stage', (s.creations.set j ⟨id', st'⟩)[k]? = some ⟨id, stage'⟩ ∧
        ∀ o, stage.outcome = some o → stage'.outcome = some o := by
    intro j id' st st' hj ho
    by_cases e : k = j
    · subst e
      cases hk.symm.trans hj
      exact ⟨st', Cells.set_eq_some.mpr (.inl ⟨rfl, Cells.lt_of_some hj, rfl⟩), ho⟩
    · exact ⟨stage, Cells.set_eq_some.mpr (.inr ⟨e, hk⟩), fun _ h => h⟩
  cases step_turn he with
  | getOrCreateRoom roomId =>
      refine ⟨stage, ?_, fun _ h => h⟩
      rw [Rooms.getOrCreateRoom]
      split
      · exact hk
      · split
        · exact hk
        · exact Cells.append_of_some hk
  | routerCreated _ _ hj => exact set hj fun _ h => by cases h
  | routerFailed _ hj => exact set hj fun _ h => by cases h
  | @then_ _ _ result hj => cases result <;> exact set hj fun _ h => by cases h
  | finally_ hj => exact set hj fun _ h => h
  | settled | room => exact ⟨stage, hk, fun _ h => h⟩

/-- What a promise has settled as, it stays settled as. -/
theorem promisedOutcome_later {s s' : Rooms} {e : Event} (he : s.step e = some s')
    {p : Promised} {o : Outcome} (ho : s.promisedOutcome p = some o) :
    s'.promisedOutcome p = some o := by
  cases p with
  | room r => exact ho
  | creation k =>
      obtain ⟨⟨id, stage⟩, hk, ho⟩ := Option.bind_eq_some_iff.mp ho
      obtain ⟨stage', hk', ho'⟩ := creation_later he hk
      exact Option.bind_eq_some_iff.mpr ⟨_, hk', ho' _ ho⟩

theorem calls_getOrCreateRoom (s : Rooms) (id : RoomId) :
    ∃ p, (s.getOrCreateRoom id).calls = s.calls ++ [⟨id, p, none⟩] := by
  rw [Rooms.getOrCreateRoom]
  split
  · exact ⟨_, rfl⟩
  · split <;> exact ⟨_, rfl⟩

/-- A step makes a call, or settles one as it was promised, or leaves the calls as they are. -/
theorem calls_step {s s' : Rooms} {e : Event} (he : s.step e = some s') :
    (∃ id p, e = .getOrCreateRoom id ∧ s'.calls = s.calls ++ [⟨id, p, none⟩]) ∨
    (∃ c id p o, e = .settled c ∧ s.calls[c]? = some ⟨id, p, none⟩ ∧
      s.promisedOutcome p = some o ∧ s'.calls = s.calls.set c ⟨id, p, some o⟩) ∨
    s'.calls = s.calls := by
  cases step_turn he with
  | getOrCreateRoom id =>
      obtain ⟨p, hp⟩ := calls_getOrCreateRoom s id
      exact .inl ⟨id, p, rfl, hp⟩
  | settled hc ho => exact .inr (.inl ⟨_, _, _, _, rfl, hc, ho, rfl⟩)
  | routerCreated | routerFailed | finally_ | room => exact .inr (.inr rfl)
  | @then_ _ _ result => cases result <;> exact .inr (.inr rfl)

/-- A call stays what it is, and what it settled as. -/
theorem call_later {s s' : Rooms} {e : Event} (he : s.step e = some s') {c : Nat} {call : Call}
    (hc : s.calls[c]? = some call) :
    ∃ call', s'.calls[c]? = some call' ∧ call'.promised = call.promised ∧
      ∀ o, call.outcome = some o → call'.outcome = some o := by
  rcases calls_step he with ⟨id, p, -, e⟩ | ⟨c', id, p, o, -, hc', -, e⟩ | e <;> rw [e]
  · exact ⟨call, Cells.append_of_some hc, rfl, fun _ h => h⟩
  · by_cases e : c = c'
    · subst e
      cases hc.symm.trans hc'
      exact ⟨_, Cells.set_eq_some.mpr (.inl ⟨rfl, Cells.lt_of_some hc, rfl⟩), rfl,
        fun _ h => by cases h⟩
    · exact ⟨call, Cells.set_eq_some.mpr (.inr ⟨e, hc⟩), rfl, fun _ h => h⟩
  · exact ⟨call, hc, rfl, fun _ h => h⟩

/-- Every call that has settled has settled as it was promised. -/
def Kept (s : Rooms) : Prop :=
  ∀ (c : Nat) call o, s.calls[c]? = some call → call.outcome = some o →
    s.promisedOutcome call.promised = some o

theorem Kept.step {s s' : Rooms} {e : Event} (h : s.Kept) (he : s.step e = some s') :
    s'.Kept := by
  intro c call o hc ho
  refine promisedOutcome_later he ?_
  rcases calls_step he with ⟨id, p, -, e⟩ | ⟨c', id, p, o', -, -, hp, e⟩ | e <;> rw [e] at hc
  · rcases Cells.concat_eq_some.mp hc with hc | ⟨-, rfl⟩
    · exact h c call o hc ho
    · cases ho
  · rcases Cells.set_eq_some.mp hc with ⟨-, -, rfl⟩ | ⟨-, hc⟩
    · cases ho; exact hp
    · exact h c call o hc ho
  · exact h c call o hc ho

theorem kept_of_run {ip announcedIp : String} {es : List Event} {s : Rooms}
    (hx : exec Rooms.step (.new ip announcedIp) es = some s) : s.Kept :=
  exec_invariant_of_step (fun _ _ _ h he => h.step he) (fun c call o hc _ => by simp [new] at hc)
    hx

/-! ### Calls made during a flight -/

/-- The call `c` was promised the creation `k`. -/
def Follows (s : Rooms) (c : CallRef) (k : CreationRef) : Prop :=
  ∃ call, s.calls[c]? = some call ∧ call.promised = .creation k

theorem follows_step {s s' : Rooms} {e : Event} {c : CallRef} {k : CreationRef}
    (h : s.Follows c k) (he : s.step e = some s') : s'.Follows c k := by
  obtain ⟨call, hc, hp⟩ := h
  obtain ⟨call', hc', hp', -⟩ := call_later he hc
  exact ⟨call', hc', hp'.trans hp⟩

/-- A call finds the creation that is in flight for its id, or starts it. -/
theorem Flight.follows {s : Rooms} (h : s.Flight) {id : RoomId} {k : CreationRef}
    (hk : (s.getOrCreateRoom id).creations[k]? = some ⟨id, .creating⟩) :
    (s.getOrCreateRoom id).Follows s.calls.length k := by
  unfold Rooms.getOrCreateRoom at hk ⊢
  split at hk
  · next r hr =>
      have := h.unbuilt hk rfl
      rw [hr] at this
      cases this
  · next hr =>
      split at hk
      · next j hj =>
          cases hj.symm.trans (h.active hk rfl)
          exact ⟨_, List.getElem?_concat_length, rfl⟩
      · next hn =>
          rcases Cells.concat_eq_some.mp hk with hk | ⟨rfl, -⟩
          · have := h.active hk rfl
            rw [hn] at this
            cases this
          · exact ⟨_, List.getElem?_concat_length, rfl⟩

/-- In the run of `es`, the call `c` was made, and the creation `k` was then in flight for its
room id. -/
def MadeDuring (s₀ : Rooms) (es : List Event) (c : CallRef) (k : CreationRef) : Prop :=
  ∃ es₁ id es₂ s₁, es = es₁ ++ .getOrCreateRoom id :: es₂ ∧ exec step s₀ es₁ = some s₁ ∧
    c = s₁.calls.length ∧ (s₁.getOrCreateRoom id).creations[k]? = some ⟨id, .creating⟩

/-- What the promise of the call `c` has settled as. -/
def settledAs (s : Rooms) (c : CallRef) : Option Outcome := s.calls[c]?.bind Call.outcome

/-- Once the creation `k` has settled, the call `c` has settled as it did, or can. -/
def SettlesAs (s : Rooms) (c : CallRef) (k : CreationRef) : Prop :=
  ∀ o, s.promisedOutcome (.creation k) = some o →
    s.settledAs c = some o ∨ ∃ s', s.step (.settled c) = some s' ∧ s'.settledAs c = some o

theorem Follows.settlesAs {s : Rooms} {c : CallRef} {k : CreationRef} (h : s.Follows c k)
    (hkept : s.Kept) : s.SettlesAs c k := by
  obtain ⟨⟨id, p, out⟩, hc, rfl⟩ := h
  intro o hk
  cases out with
  | some o' =>
      cases hk.symm.trans (hkept c _ o' hc rfl)
      exact .inl (by simp [settledAs, hc])
  | none =>
      refine .inr ⟨{ s with calls := s.calls.set c ⟨id, .creation k, some o⟩ }, ?_, ?_⟩
      · simp only [step, hc, hk]
      · have hset : (s.calls.set c ⟨id, .creation k, some o⟩)[c]? =
            some ⟨id, .creation k, some o⟩ :=
          Cells.set_eq_some.mpr (.inl ⟨rfl, Cells.lt_of_some hc, rfl⟩)
        simp [settledAs, hset]

theorem Follows.settledAs {s : Rooms} {c : CallRef} {k : CreationRef} (h : s.Follows c k)
    (hkept : s.Kept) {o : Outcome} (hc : s.settledAs c = some o) :
    s.promisedOutcome (.creation k) = some o := by
  obtain ⟨call, hcall, hp⟩ := h
  rw [Rooms.settledAs, hcall] at hc
  rw [← hp]
  exact hkept c call o hcall hc

theorem follows_of_run {ip announcedIp : String} {es : List Event} {s : Rooms}
    (hx : exec step (.new ip announcedIp) es = some s) {c : CallRef} {k : CreationRef}
    (h : MadeDuring (.new ip announcedIp) es c k) : s.Follows c k := by
  obtain ⟨es₁, id, es₂, s₁, rfl, hx₁, rfl, hk⟩ := h
  obtain ⟨s₂, hx₂, hx⟩ := exec_append.mp hx
  cases hx₁.symm.trans hx₂
  obtain ⟨s₃, he, hx⟩ := exec_cons.mp hx
  cases he
  exact exec_invariant_of_step (fun _ _ _ h he => follows_step h he)
    ((flight_of_run hx₁).follows hk) hx

/-! ### After a failure -/

/-- No map has the room id, and a call starts a creation. -/
def StartsAnew (s : Rooms) (id : RoomId) : Prop :=
  s.creatingRooms.get id = none ∧ s.rooms.get id = none ∧
    (s.getOrCreateRoom id).creations = s.creations ++ [{ roomId := id }]

theorem startsAnew_of_get {s : Rooms} {id : RoomId} (hc : s.creatingRooms.get id = none)
    (hr : s.rooms.get id = none) : s.StartsAnew id :=
  ⟨hc, hr, by simp only [Rooms.getOrCreateRoom, hr, hc]⟩

/-- Only a call puts a room id back into the maps. -/
theorem startsAnew_step {s s' : Rooms} {e : Event} {id : RoomId} (hf : s.Flight)
    (h : s.StartsAnew id) (hne : e ≠ .getOrCreateRoom id) (he : s.step e = some s') :
    s'.StartsAnew id := by
  obtain ⟨hc, hr, -⟩ := h
  have absent : ∀ {k : Nat} {id' stage}, s.creations[k]? = some ⟨id', stage⟩ →
      stage.isDone = false → id ≠ id' := by
    rintro k id' stage hk hd rfl
    rw [hf.active hk hd] at hc
    cases hc
  cases step_turn he with
  | getOrCreateRoom id' =>
      have hne : id ≠ id' := fun e => hne (by rw [e])
      rw [Rooms.getOrCreateRoom]
      split
      · exact startsAnew_of_get hc hr
      · split
        · exact startsAnew_of_get hc hr
        · exact startsAnew_of_get ((LiveMap.get_set_of_ne hne).trans hc) hr
  | routerCreated | routerFailed | settled => exact startsAnew_of_get hc hr
  | @then_ _ _ result hk =>
      cases result with
      | error => exact startsAnew_of_get hc hr
      | ok => exact startsAnew_of_get hc ((LiveMap.get_set_of_ne (absent hk rfl)).trans hr)
  | finally_ hk =>
      exact startsAnew_of_get ((LiveMap.get_delete_of_ne (absent hk rfl)).trans hc) hr
  | room =>
      refine startsAnew_of_get hc ?_
      simp only [setRoom]
      split
      · rw [LiveMap.get_delete, hr, ite_self]
      · exact hr

theorem Flight.startsAnew {s s' : Rooms} (h : s.Flight) {k : CreationRef} {id : RoomId}
    {error : String} (hk : s.creations[k]? = some ⟨id, .settled (.error error)⟩)
    (he : s.step (.finally_ k) = some s') : s'.StartsAnew id := by
  cases step_turn he with
  | finally_ hk' =>
      cases hk.symm.trans hk'
      exact startsAnew_of_get (LiveMap.get_delete_self _ _) (h.unbuilt hk rfl)

/-! ### Runs -/

/-- **Single flight.**  In every run: at most one `createRouter` is in flight for a room id;
calls made during one flight settle as what comes of it, hence alike; two rooms of one id are
never both open; and once the `finally` of a failed creation has run, no map has the room id
until the next call, which starts a creation. -/
theorem single_flight {ip announcedIp : String} {es : List Event} {s : Rooms}
    (hx : exec step (.new ip announcedIp) es = some s) :
    (∀ (k k' : Nat) id, s.creations[k]? = some ⟨id, .creating⟩ →
      s.creations[k']? = some ⟨id, .creating⟩ → k = k') ∧
    (∀ c k, MadeDuring (.new ip announcedIp) es c k → s.SettlesAs c k) ∧
    (∀ c c' k o o', MadeDuring (.new ip announcedIp) es c k →
      MadeDuring (.new ip announcedIp) es c' k → s.settledAs c = some o →
      s.settledAs c' = some o' → o = o') ∧
    (∀ (r r' : Nat) x x', s.room[r]? = some x → s.room[r']? = some x' → x.roomId = x'.roomId →
      x.router.closed = false → x'.router.closed = false → r = r') ∧
    (∀ (k : Nat) id error s', s.creations[k]? = some ⟨id, .settled (.error error)⟩ →
      s.step (.finally_ k) = some s' → ∀ fs s'', .getOrCreateRoom id ∉ fs →
      exec step s' fs = some s'' → s''.StartsAnew id) := by
  have hf := flight_of_run hx
  have hkept := kept_of_run hx
  refine ⟨fun k k' id hk hk' => ?_, fun c k h => (follows_of_run hx h).settlesAs hkept,
    fun c c' k o o' h h' hc hc' => ?_, fun r r' x x' hr hr' hid ho ho' => ?_,
    fun k id error s' hk he fs s'' hfs hx' => ?_⟩
  · exact Option.some.inj ((hf.active hk rfl).symm.trans (hf.active hk' rfl))
  · exact Option.some.inj (((follows_of_run hx h).settledAs hkept hc).symm.trans
      ((follows_of_run hx h').settledAs hkept hc'))
  · have hreg := hf.registered hr ho
    rw [hid, hf.registered hr' ho'] at hreg
    exact (Option.some.inj hreg).symm
  · have hne : Along step (fun _ e => e ≠ .getOrCreateRoom id) s' fs :=
      along_of_forall fun e h _ e' => hfs (e' ▸ h)
    have hI := exec_invariant (I := fun s => s.Flight ∧ s.StartsAnew id)
      (fun _ _ _ h hne he => ⟨h.1.step he, startsAnew_step h.1 h.2 hne he⟩)
      ⟨hf.step he, hf.startsAnew hk he⟩ hne hx'
    exact hI.2

/-- Two calls during the flight of the room `a`; the creation of the room `b` fails. -/
def flight : List Event :=
  [.getOrCreateRoom "a", .getOrCreateRoom "b", .getOrCreateRoom "a", .routerFailed 1 "died",
    .routerCreated 0 "call-1" "opus", .then_ 0, .then_ 1, .settled 2, .settled 0]

theorem single_flight_fails :
    ∃ s s', exec step (.new "0.0.0.0" "127.0.0.1") flight = some s ∧
      s.settledAs 0 = some (.ok 0) ∧ s.SettlesAs 2 0 ∧ s.step (.finally_ 1) = some s' ∧
      s'.StartsAnew "b" := by
  have hx : exec step (.new "0.0.0.0" "127.0.0.1") flight = some _ := rfl
  obtain ⟨-, hsettles, -, -, hfailed⟩ := single_flight hx
  refine ⟨_, _, hx, rfl, hsettles 2 0 ⟨flight.take 2, "a", flight.drop 3, _, rfl, rfl, rfl, rfl⟩,
    rfl, hfailed 1 "b" "died" _ rfl rfl [] _ (by simp) rfl⟩

end Rooms

end DemoApp.Sfu
