import DemoApp.Sfu.Notices

/-!
# Sfu — Announcements

What a client is told of its consumers against the map that the server keeps of them.  Consumers
are announced by suspended loops of other clients' handlers, and withdrawn by whatever closes them.

* `notices_mirror`: in every run, whatever frames the clients send, each consumer is announced at
  most once and withdrawn at most once, after it was announced; while the events of a client are
  open, the consumers announced to it and not withdrawn are those in its map; and once they are
  closed it is sent nothing.
-/

namespace DemoApp.Sfu

namespace Room
open Machine

/-- The notices that the client `c` was sent, in order. -/
def notices (s : Room) (c : ClientRef) : List Notice :=
  (s.toClient c).filterMap ServerMessage.notice

/-- What the client `c` was told is what the server keeps. -/
structure Mirrored (s : Room) (c : ClientRef) : Prop where
  once : (s.notices c).Nodup
  order : ∀ before k after, s.notices c = before ++ .withdrawn k :: after → .announced k ∈ before
  keys : (s.client c).eventsClosed = false → ∀ k,
    ((s.client c).consumers.get k).isSome = true ↔
      .announced k ∈ s.notices c ∧ .withdrawn k ∉ s.notices c

/-- The notices and the maps agree with the table of the consumers. -/
structure Told (s : Room) : Prop where
  owned : ∀ {k : Nat} {x}, s.router.consumers[k]? = some x → x.owner < s.added
  held : ∀ c k, ((s.client c).consumers.get k).isSome = true ↔
    ∃ x, s.router.consumers[k]? = some x ∧ x.owner = c ∧ x.closed = false
  once : ∀ c, (s.notices c).Nodup
  order : ∀ c before k after, s.notices c = before ++ .withdrawn k :: after → .announced k ∈ before
  announced : ∀ {c k}, .announced k ∈ s.notices c →
    ∃ x, s.router.consumers[k]? = some x ∧ x.owner = c
  withdrawn : ∀ {c k}, .withdrawn k ∈ s.notices c →
    ∃ x, s.router.consumers[k]? = some x ∧ x.closed = true
  told : ∀ {c} {k : Nat} {x}, (s.client c).eventsClosed = false →
    s.router.consumers[k]? = some x → x.owner = c →
      .announced k ∈ s.notices c ∧ (x.closed = true → .withdrawn k ∈ s.notices c)

/-- From `s` to `s'` the consumer `k` has become `x`, its owner's map with it, and the owner was
sent the notice `n`, unless its events are closed. -/
structure Noted (s s' : Room) (k : ConsumerId) (x : Consumer) (n : Notice) : Prop where
  added : s'.added = s.added
  cell : s'.router.consumers[k]? = some x
  cells : ∀ j, j ≠ k → s'.router.consumers[j]? = s.router.consumers[j]?
  held : ∀ c j, ((s'.client c).consumers.get j).isSome = true ↔
    if c = x.owner ∧ j = k then x.closed = false
    else ((s.client c).consumers.get j).isSome = true
  closed : ∀ c, (s'.client c).eventsClosed = (s.client c).eventsClosed
  notices : ∀ c, s'.notices c = s.notices c ++
    if c = x.owner ∧ (s.client x.owner).eventsClosed = false then [n] else []

variable {s s' : Room}

theorem toClient_send (r : ClientRef) (m : ServerMessage) (c : ClientRef) :
    (s.send r m).toClient c =
      s.toClient c ++ if c = r ∧ (s.client r).eventsClosed = false then [m] else [] := by
  rw [send_frame]
  cases he : (s.client r).eventsClosed with
  | true => simp [toClient]
  | false => by_cases hc : r = c <;> simp [toClient, sentTo, hc, eq_comm]

theorem notices_send (r : ClientRef) (m : ServerMessage) (c : ClientRef) :
    (s.send r m).notices c =
      s.notices c ++ if c = r ∧ (s.client r).eventsClosed = false then m.notice.toList else [] := by
  rw [notices, toClient_send, List.filterMap_append]
  split
  · cases hn : m.notice <;> simp [notices, hn]
  · rfl

theorem notices_congr (h : s'.sent = s.sent) (c : ClientRef) : s'.notices c = s.notices c := by
  rw [notices, notices, toClient, toClient, h]

/-- The notice is sent when the tables have changed. -/
theorem noted_send {s₁ : Room} {r : ClientRef} {k : ConsumerId} {x : Consumer} {n : Notice}
    {m : ServerMessage} (hr : x.owner = r)
    (hcells : s₁.router.consumers[k]? = some x ∧
      ∀ j, j ≠ k → s₁.router.consumers[j]? = s.router.consumers[j]?)
    (hheld : ∀ c j, ((s₁.client c).consumers.get j).isSome = true ↔
      if c = x.owner ∧ j = k then x.closed = false
      else ((s.client c).consumers.get j).isSome = true)
    (hclosed : ∀ c, (s₁.client c).eventsClosed = (s.client c).eventsClosed)
    (hm : m.notice = some n) (ha : s₁.added = s.added) (hsent : s₁.sent = s.sent) :
    Noted s (s₁.send r m) k x n := by
  subst hr
  have hclient : ∀ c, (s₁.send x.owner m).client c = s₁.client c := fun c => by rw [send_frame]
  refine ⟨?_, ?_, fun j hj => ?_, fun c j => ?_, fun c => ?_, fun c => ?_⟩
  · rw [send_frame]
    exact ha
  · rw [router_send]
    exact hcells.1
  · rw [router_send]
    exact hcells.2 j hj
  · rw [hclient]
    exact hheld c j
  · rw [hclient]
    exact hclosed c
  · rw [notices_send, notices_congr hsent, hclosed, hm]
    rfl

/-- The notice that the consumer `k` is `x` now: it was not there, or it was open. -/
inductive Due (s : Room) (k : ConsumerId) (x : Consumer) : Notice → Prop
  | announced (hnone : s.router.consumers[k]? = none) (hopen : x.closed = false) :
      Due s k x (.announced k)
  | withdrawn {y : Consumer} (hy : s.router.consumers[k]? = some y) (ho : y.owner = x.owner)
      (hopen : y.closed = false) (hclosed : x.closed = true) : Due s k x (.withdrawn k)

namespace Due

variable {k : ConsumerId} {x : Consumer} {n : Notice}

/-- Before, the consumer was of the same client and open. -/
theorem before (hd : Due s k x n) {y : Consumer} (hy : s.router.consumers[k]? = some y) :
    y.owner = x.owner ∧ y.closed = false := by
  cases hd with
  | announced hnone => cases hnone.symm.trans hy
  | withdrawn hz ho hopen =>
      cases hz.symm.trans hy
      exact ⟨ho, hopen⟩

theorem fresh (hd : Due s k x n) (h : s.Told) : n ∉ s.notices x.owner := by
  intro hm
  cases hd with
  | announced hnone =>
      obtain ⟨y, hy, -⟩ := h.announced hm
      cases hnone.symm.trans hy
  | withdrawn hz _ hopen =>
      obtain ⟨y, hy, hyc⟩ := h.withdrawn hm
      cases hz.symm.trans hy
      cases hopen.symm.trans hyc

end Due

namespace Noted

variable {k j : ConsumerId} {x : Consumer} {n m : Notice} {c : ClientRef}

theorem old (hn : Noted s s' k x n) (hm : m ∈ s.notices c) : m ∈ s'.notices c := by
  rw [hn.notices]
  exact List.mem_append_left _ hm

theorem new (hn : Noted s s' k x n) (hm : m ∈ s'.notices c) :
    m ∈ s.notices c ∨ c = x.owner ∧ m = n := by
  rw [hn.notices] at hm
  rcases List.mem_append.mp hm with hm | hm
  · exact .inl hm
  · split at hm
    · next hc => exact .inr ⟨hc.1, List.mem_singleton.mp hm⟩
    · cases hm

theorem here (hn : Noted s s' k x n) (he : (s.client x.owner).eventsClosed = false) :
    n ∈ s'.notices x.owner := by
  rw [hn.notices, if_pos ⟨rfl, he⟩]
  exact List.mem_concat_self

theorem held_iff (hn : Noted s s' k x n) (h : s.Told) (hd : Due s k x n) (c : ClientRef)
    (j : ConsumerId) : ((s'.client c).consumers.get j).isSome = true ↔
      ∃ y, s'.router.consumers[j]? = some y ∧ y.owner = c ∧ y.closed = false := by
  rw [hn.held]
  by_cases hj : j = k
  · subst hj
    rw [hn.cell]
    by_cases hc : c = x.owner
    · simp [hc]
    · refine iff_of_false ?_ ?_
      · rw [if_neg fun e => hc e.1, h.held]
        rintro ⟨y, hy, rfl, -⟩
        exact hc (hd.before hy).1
      · rintro ⟨y, hy, rfl, -⟩
        cases hy
        exact hc rfl
  · rw [if_neg fun e => hj e.2, hn.cells j hj]
    exact h.held c j

theorem announced (hn : Noted s s' k x n) (h : s.Told) (hd : Due s k x n)
    (hm : .announced j ∈ s'.notices c) :
    ∃ y, s'.router.consumers[j]? = some y ∧ y.owner = c := by
  rcases hn.new hm with hm | ⟨rfl, rfl⟩
  · obtain ⟨y, hy, hyo⟩ := h.announced hm
    by_cases hj : j = k
    · subst hj
      exact ⟨x, hn.cell, (hd.before hy).1.symm.trans hyo⟩
    · exact ⟨y, (hn.cells j hj).trans hy, hyo⟩
  · cases hd
    exact ⟨x, hn.cell, rfl⟩

theorem withdrawn (hn : Noted s s' k x n) (h : s.Told) (hd : Due s k x n)
    (hm : .withdrawn j ∈ s'.notices c) :
    ∃ y, s'.router.consumers[j]? = some y ∧ y.closed = true := by
  rcases hn.new hm with hm | ⟨rfl, rfl⟩
  · obtain ⟨y, hy, hyc⟩ := h.withdrawn hm
    by_cases hj : j = k
    · subst hj
      cases (hd.before hy).2.symm.trans hyc
    · exact ⟨y, (hn.cells j hj).trans hy, hyc⟩
  · cases hd with
    | withdrawn _ _ _ hclosed => exact ⟨x, hn.cell, hclosed⟩

theorem told (hn : Noted s s' k x n) (h : s.Told) (hd : Due s k x n) {y : Consumer}
    (he : (s'.client c).eventsClosed = false) (hy : s'.router.consumers[j]? = some y)
    (hyo : y.owner = c) :
    .announced j ∈ s'.notices c ∧ (y.closed = true → .withdrawn j ∈ s'.notices c) := by
  rw [hn.closed] at he
  by_cases hj : j = k
  · subst hj
    cases hn.cell.symm.trans hy
    subst hyo
    have hnow := hn.here he
    cases hd with
    | announced _ hopen =>
        refine ⟨hnow, fun hc => ?_⟩
        cases hopen.symm.trans hc
    | withdrawn hz hzo => exact ⟨hn.old (h.told he hz hzo).1, fun _ => hnow⟩
  · obtain ⟨ha, hw⟩ := h.told he ((hn.cells j hj).symm.trans hy) hyo
    exact ⟨hn.old ha, fun hc => hn.old (hw hc)⟩

end Noted

namespace Told

theorem mirrored (h : s.Told) (c : ClientRef) : s.Mirrored c := by
  refine ⟨h.once c, h.order c, fun hopen k => ?_⟩
  rw [h.held]
  constructor
  · rintro ⟨x, hx, ho, hcl⟩
    refine ⟨(h.told hopen hx ho).1, fun hw => ?_⟩
    obtain ⟨y, hy, hyc⟩ := h.withdrawn hw
    cases hx.symm.trans hy
    cases hcl.symm.trans hyc
  · rintro ⟨ha, hw⟩
    obtain ⟨x, hx, ho⟩ := h.announced ha
    refine ⟨x, hx, ho, ?_⟩
    by_contra hcl
    exact hw ((h.told hopen hx ho).2 (by simpa using hcl))

/-- Nothing that the notices concern has changed. -/
theorem congr (h : s.Told) (ha : s'.added = s.added)
    (hr : s'.router.consumers = s.router.consumers)
    (hk : ∀ c, (s'.client c).consumers = (s.client c).consumers)
    (hn : ∀ c, s'.notices c = s.notices c)
    (hc : ∀ c, (s.client c).eventsClosed = true → (s'.client c).eventsClosed = true) :
    s'.Told := by
  refine ⟨fun hx => ?_, fun c k => ?_, fun c => ?_, fun c => ?_, fun {c k} hm => ?_,
    fun {c k} hm => ?_, fun {c k x} hopen hx ho => ?_⟩
  · rw [ha]
    exact h.owned (hr ▸ hx)
  · rw [hk, hr]
    exact h.held c k
  · rw [hn]
    exact h.once c
  · rw [hn]
    exact h.order c
  · rw [hr]
    exact h.announced (hn c ▸ hm)
  · rw [hr]
    exact h.withdrawn (hn c ▸ hm)
  · rw [hn]
    refine h.told ?_ (hr ▸ hx) ho
    by_contra hcl
    cases hopen.symm.trans (hc c (by simpa using hcl))

/-- A notice comes behind the others. -/
theorem order_concat {l : List Notice} {n : Notice}
    (h : ∀ before k after, l = before ++ .withdrawn k :: after → .announced k ∈ before)
    (hn : ∀ k, n = .withdrawn k → .announced k ∈ l) (before : List Notice) (k : ConsumerId)
    (after : List Notice) (e : l ++ [n] = before ++ .withdrawn k :: after) :
    .announced k ∈ before := by
  rcases List.eq_nil_or_concat after with rfl | ⟨after, last, rfl⟩
  · obtain ⟨rfl, hlast⟩ := List.append_inj' e rfl
    exact hn k (List.singleton_inj.mp hlast)
  · rw [List.concat_eq_append, ← List.cons_append, ← List.append_assoc] at e
    exact h before k after (List.append_inj' e rfl).1

theorem send (h : s.Told) (r : ClientRef) {m : ServerMessage} (hm : m.notice = none) :
    (s.send r m).Told := by
  refine h.congr ?_ (by rw [router_send]) (fun c => ?_) (fun c => ?_) fun c hc => ?_
  · rw [send_frame]
  · rw [send_frame]
  · rw [notices_send, hm]
    simp
  · rw [send_frame]
    exact hc

/-- A notice goes out, and the client keeps everything told. -/
theorem noted (h : s.Told) {k : ConsumerId} {x : Consumer} {n : Notice} (hn : Noted s s' k x n)
    (ho : x.owner < s.added) (hdue : Due s k x n) : s'.Told := by
  refine ⟨fun {j y} hy => ?_, hn.held_iff h hdue, fun c => ?_, fun c => ?_,
    fun hm => hn.announced h hdue hm, fun hm => hn.withdrawn h hdue hm,
    fun he hy hyo => hn.told h hdue he hy hyo⟩
  · rw [hn.added]
    by_cases hj : j = k
    · subst hj
      cases hn.cell.symm.trans hy
      exact ho
    · exact h.owned ((hn.cells j hj).symm.trans hy)
  · rw [hn.notices]
    split
    · next hc =>
      refine List.nodup_append.mpr ⟨h.once c, by simp, ?_⟩
      intro m hm m' hm' e
      rw [e, List.mem_singleton.mp hm', hc.1] at hm
      exact hdue.fresh h hm
    · rw [List.append_nil]
      exact h.once c
  · rw [hn.notices]
    split
    · next hc =>
      refine order_concat (h.order c) fun j e => ?_
      cases hdue with
      | announced => cases e
      | withdrawn hy hyo =>
          cases e
          exact (h.told (hc.1 ▸ hc.2) hy (hyo.trans hc.1.symm)).1
    · rw [List.append_nil]
      exact h.order c

/-- A consumer that closes is withdrawn. -/
theorem close (h : s.Told) (k : ConsumerId) : (s.closeConsumer k).Told := by
  rw [Room.closeConsumer]
  split
  · exact h
  · next x hx =>
    split
    · exact h
    · next hopen =>
      refine h.noted (x := { x with closed := true })
        (noted_send rfl ⟨?_, fun j hj => ?_⟩ (fun c j => ?_) (fun c => ?_) rfl rfl rfl)
        (show x.owner < s.added from h.owned hx)
        (.withdrawn hx rfl (by simpa using hopen) rfl)
      · exact Cells.set_eq_some.mpr (.inl ⟨rfl, Cells.lt_of_some hx, rfl⟩)
      · exact List.getElem?_set_ne (Ne.symm hj)
      · rw [client_modify]
        by_cases hc : c = x.owner
        · subst hc
          by_cases hj : j = k
          · simp [hj]
          · simp [LiveMap.get_delete_of_ne hj, hj]
        · simp [hc]
      · rw [client_modify]
        split
        · next e => rw [e]
        · rfl

/-- A consumer that is made is announced. -/
theorem announce (h : s.Told) {c : ClientRef} {x : Consumer} {m : ServerMessage} (hc : c < s.added)
    (ho : x.owner = c) (hopen : x.closed = false)
    (hm : m.notice = some (.announced s.router.consumers.length)) : (s.announce c x m).Told := by
  subst ho
  refine h.noted (noted_send rfl ⟨?_, fun j hj => ?_⟩ (fun c j => ?_) (fun c => ?_) hm rfl rfl) hc
    (.announced (List.getElem?_eq_none (Nat.le_refl _)) hopen)
  · exact List.getElem?_concat_length
  · refine Option.ext fun y => ?_
    exact Cells.concat_eq_some.trans (or_iff_left fun e => hj e.1)
  · rw [client_modify]
    by_cases hc : c = x.owner
    · subst hc
      by_cases hj : j = s.router.consumers.length
      · simp [hj, hopen]
      · simp [LiveMap.get_set_of_ne hj, hj]
    · simp [hc]
  · rw [client_modify]
    split
    · next e => rw [e]
    · rfl

theorem add (h : s.Told) (ctx : ClientContext) : (s.add ctx).Told := by
  have client : ∀ c, (s.add ctx).client c = if c = s.added then
      { clientId := ctx.clientId, userId := ctx.userId, socketClosed := ctx.socketClosed }
      else s.client c := by
    intro c
    simp only [Room.add, Function.update_apply]
  refine ⟨fun hx => Nat.lt_succ_of_lt (h.owned hx), fun c k => ?_, h.once, h.order, h.announced,
    h.withdrawn, fun {c k x} he hx ho => ?_⟩
  · rw [client]
    split
    · next e =>
      refine iff_of_false (by simp) ?_
      rintro ⟨x, hx, rfl, -⟩
      exact absurd (h.owned hx) (e ▸ Nat.lt_irrefl _)
    · exact h.held c k
  · rw [client, if_neg] at he
    · exact h.told he hx ho
    · rintro rfl
      exact absurd (h.owned hx) (ho ▸ Nat.lt_irrefl _)

theorem survives : Survives Told where
  still h hs := h.congr hs.added hs.consumers hs.held (notices_congr hs.sent) hs.closed
  send r _ h hm := h.send r hm
  close k h := h.close k
  announce h hc ho hopen hm := h.announce hc ho hopen hm
  add ctx h := h.add ctx

theorem new (config : RoomConfig) (id : CallId) (caps : RtpCapabilities) :
    Told (.new config (createRouter id caps)) := by
  refine ⟨?_, fun c k => ?_, ?_, ?_, ?_, ?_, ?_⟩ <;>
    simp [Room.new, createRouter, notices, toClient, sentTo]

end Told

/-! ### After the end -/

/-- The events of the client `c` are closed, and `l` is all it was sent. -/
structure Silent (c : ClientRef) (l : List ServerMessage) (s : Room) : Prop where
  added : c < s.added
  closed : (s.client c).eventsClosed = true
  sent : s.toClient c = l

/-- Nothing is sent to a client whose events are closed. -/
theorem silent_survives (c : ClientRef) (l : List ServerMessage) : Survives (Silent c l) := by
  have send : ∀ {s : Room} (r : ClientRef) (m : ServerMessage), Silent c l s →
      Silent c l (s.send r m) := by
    intro s r m h
    have hclient : (s.send r m).client c = s.client c := by rw [send_frame]
    refine ⟨?_, hclient ▸ h.closed, ?_⟩
    · rw [send_frame]
      exact h.added
    · rw [toClient_send, if_neg, List.append_nil]
      · exact h.sent
      · rintro ⟨rfl, he⟩
        cases h.closed.symm.trans he
  have update : ∀ {s s' : Room}, Silent c l s → s'.added = s.added → s'.sent = s.sent →
      (s'.client c).eventsClosed = (s.client c).eventsClosed → Silent c l s' := by
    intro s s' h ha hs hc
    refine ⟨ha ▸ h.added, hc.trans h.closed, ?_⟩
    rw [toClient, hs]
    exact h.sent
  have modify : ∀ {s : Room} (r : ClientRef) (f : Client → Client),
      (∀ x, (f x).eventsClosed = x.eventsClosed) → Silent c l s → Silent c l (s.modify r f) := by
    intro s r f hf h
    refine update h rfl rfl ?_
    rw [client_modify]
    split
    · next e => rw [hf, e]
    · rfl
  refine ⟨fun h hs => ?_, fun r m h _ => send r m h, fun {s} k h => ?_,
    fun {s c' x m} h _ _ _ _ => ?_, fun {s} ctx h => ?_⟩
  · refine ⟨hs.added ▸ h.added, hs.closed c h.closed, ?_⟩
    rw [toClient, hs.sent]
    exact h.sent
  · rw [Room.closeConsumer]
    split
    · exact h
    · split
      · exact h
      · exact send _ _ (modify _ _ (fun _ => rfl) (update h rfl rfl rfl))
  · exact send _ _ (modify _ _ (fun _ => rfl) (update h rfl rfl rfl))
  · have hne : c ≠ s.added := Nat.ne_of_lt h.added
    refine ⟨Nat.lt_succ_of_lt h.added, ?_, h.sent⟩
    simp only [Room.add, Function.update_apply, if_neg hne]
    exact h.closed

end Room

namespace Wire
open Machine ClientEvents

variable {reader : Reader} {w w₁ : Wire}

theorem told_of_run {config : RoomConfig} {id : CallId} {caps : RtpCapabilities} {es : List Event}
    (hx : exec (step reader) (start config id caps) es = some w) : w.room.Told := by
  refine exec_history (I := fun _ w => w.room.Told) (.new config id caps)
    (fun es w e w' hx h he => ?_) hx
  exact survives_step Room.Told.survives h (known_of_run hx) he

/-- **The notices mirror the consumers**, in every run, for every client: after every step each
consumer was announced to it at most once, and withdrawn at most once, after it was announced; while
its events are open the consumers announced and not withdrawn are the keys of its `consumers`; and
from the moment they have closed nothing is sent to it. -/
theorem notices_mirror {config : RoomConfig} {id : CallId} {caps : RtpCapabilities}
    {es fs : List Event} (c : ClientRef)
    (hx₁ : exec (step reader) (start config id caps) es = some w₁)
    (hx : exec (step reader) w₁ fs = some w) :
    w.room.Mirrored c ∧ (w₁.Gone c → w.room.toClient c = w₁.room.toClient c) := by
  refine ⟨(told_of_run (exec_append.mpr ⟨w₁, hx₁, hx⟩)).mirrored c, fun hg => ?_⟩
  have h₁ : Room.Silent c (w₁.room.toClient c) w₁.room ∧ w₁.room.Known :=
    ⟨⟨hg.1, hg.2, rfl⟩, known_of_run hx₁⟩
  have h := exec_invariant_of_step
    (I := fun w : Wire => Room.Silent c (w₁.room.toClient c) w.room ∧ w.room.Known)
    (fun _ _ _ h he => ⟨survives_step (Room.silent_survives c _) h.1 h.2 he, known_step h.2 he⟩)
    h₁ hx
  exact h.1.sent

/-- A text frame of a client. -/
def textFrame (r : ClientRef) (type : String) (fields : List (String × Json)) : Event :=
  .frame r (some (.obj (("type", .str type) :: fields)))

/-- The client `1` consumes the producer of the client `0`, which then leaves; and it leaves. -/
def consumesAndLeaves : List Event :=
  [.room (.add { clientId := "a", userId := "u" }),
    textFrame 0 "create-transport-request" [("requestId", .str "1"), ("role", .str "producing")],
    .room (.transportCreated 0 ⟨"ice", [], "dtls"⟩),
    textFrame 0 "create-producer-request" [("requestId", .str "2"), ("kind", .str "audio")],
    .room (.produced 1), .room (.add { clientId := "b", userId := "v" }),
    textFrame 1 "client-rtp-capabilities" [("rtpCapabilities", .str "opus")],
    textFrame 1 "create-transport-request" [("requestId", .str "3"), ("role", .str "consuming")],
    .room (.transportCreated 2 ⟨"ice", [], "dtls"⟩),
    textFrame 1 "join-call-request" [("requestId", .str "4")], .room (.consumed 3 "opus"),
    .room (.resumed 3), .socketClosed 0, .room (.consumerClosed 0), .socketClosed 1]

theorem notices_mirror_leaves :
    ∃ w₁ w, exec (step plain) (start ⟨"0.0.0.0", "127.0.0.1", "lobby"⟩ "call-1" "opus")
        consumesAndLeaves = some w₁ ∧
      exec (step plain) w₁ [.room (.add { clientId := "b", userId := "v" }), .closeEvents 1] =
        some w ∧
      w.room.notices 1 = [.announced 0, .withdrawn 0] ∧ w.room.Mirrored 1 ∧
      w.room.toClient 1 = w₁.room.toClient 1 := by
  obtain ⟨w₁, hx₁, w, hx, hn, hg⟩ : ∃ w₁,
      exec (step plain) (start ⟨"0.0.0.0", "127.0.0.1", "lobby"⟩ "call-1" "opus")
        consumesAndLeaves = some w₁ ∧
      ∃ w, exec (step plain) w₁ [.room (.add { clientId := "b", userId := "v" }),
        .closeEvents 1] = some w ∧
      w.room.notices 1 = [.announced 0, .withdrawn 0] ∧ w₁.Gone 1 :=
    ⟨_, rfl, _, rfl, rfl, by decide, rfl⟩
  obtain ⟨h, hsilent⟩ := notices_mirror 1 hx₁ hx
  exact ⟨w₁, w, hx₁, hx, hn, h, hsilent hg⟩

end Wire

end DemoApp.Sfu
