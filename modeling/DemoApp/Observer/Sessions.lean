import DemoApp.Observer.Expiry
import DemoApp.Observer.Ownership
import Mathlib.Logic.Function.Basic

/-!
# Observer — Sessions

What the sources are for: the sessions of the clients.  A session starts with the first websocket
of a client, outlives a websocket for `maxDisconnectingTimeInMs` after its close, and goes on with
the next one in that time.  `Sessions` is a machine that says just this, and `Refines` relates it
to the code.

* `sessions_refined`: as long as a client connects again only after its websocket closed, every
  run of `Sources` is followed by `Sessions`: `check` removes exactly the clients whose last
  websocket closed too long ago, and closes their sources, once each; a client that comes back in
  time goes on with its source and its decoder; and each message is handed, once and in order, to
  the open source that is stored for its client.
-/

namespace DemoApp.Observer

/-! ### The specification -/

/-- A session: the number of its source, and when its last websocket closed, if it has. -/
structure Session where
  source : SourceRef
  closedAt : Option Nat := none

/-- The sessions of all clients.  `owner` lists the client ids that the websockets were accepted
under, `heard n` the messages of the session `n`, and `removals n` counts its ends. -/
structure Sessions where
  maxDisconnectingTimeInMs : Int
  now : Nat
  session : QueryValue → Option Session := fun _ => none
  started : Nat := 0
  owner : List (Option QueryValue) := []
  heard : SourceRef → List String := fun _ => []
  removals : SourceRef → Nat := fun _ => 0

namespace Sessions

/-- The last websocket of the session closed too long ago. -/
def Expired (S : Sessions) (x : Session) : Prop :=
  ∃ d : Nat, x.closedAt = some d ∧ S.maxDisconnectingTimeInMs < (S.now : Int) - (d : Int)

/-- A websocket of the client `id` connects. -/
def connect (S : Sessions) (id : QueryValue) : Sessions :=
  match S.session id with
  | some x =>
      { S with
        session := Function.update S.session id (some { x with closedAt := none })
        owner := S.owner ++ [some id] }
  | none   =>
      { S with
        session := Function.update S.session id (some { source := S.started })
        started := S.started + 1
        owner := S.owner ++ [some id] }

/-- A message for the session `x`. -/
def hear (S : Sessions) (x : Session) (data : String) : Sessions :=
  { S with heard := Function.update S.heard x.source (S.heard x.source ++ [data]) }

/-- The websocket of the session `x` of `id` closes. -/
def close (S : Sessions) (id : QueryValue) (x : Session) : Sessions :=
  { S with session := Function.update S.session id (some { x with closedAt := some S.now }) }

open Classical in
/-- All expired sessions end. -/
noncomputable def check (S : Sessions) : Sessions :=
  { S with
    session := fun id => (S.session id).filter fun x => ¬ S.Expired x
    removals := fun n => S.removals n +
      if ∃ id x, S.session id = some x ∧ x.source = n ∧ S.Expired x then 1 else 0 }

/-- `idOf` finds the client id in a query that has the mandatory fields. -/
noncomputable def step (idOf : Query → Option QueryValue) (S : Sessions) :
    Sources.Event → Option Sessions
  | .accept query     =>
      match idOf query with
      | some id => some (S.connect id)
      | none    => some { S with owner := S.owner ++ [none] }
  | .message w data   =>
      match S.owner[w]? with
      | some (some id) => (S.session id).map fun x => S.hear x data
      | some none      => some S
      | none           => none
  | .socketClosed w   =>
      match S.owner[w]? with
      | some (some id) => (S.session id).map fun x => S.close id x
      | some none      => some S
      | none           => none
  | .check            => some S.check
  | .clear            => none
  | .elapsed ms       => some { S with now := S.now + ms }

end Sessions

/-! ### The refinement -/

/-- What a decoder becomes on these messages, and the samples it makes of them. -/
def Kind.decodeAll {ι δ σ : Type} (kind : Kind ι δ σ) (messages : List String) : δ × List σ :=
  messages.foldl (fun (decoder, samples) data =>
    let (decoder', sample) := kind.decodeFromBase64 decoder data
    (decoder', samples ++ sample.toList)) (kind.newDecoder, [])

/-- The client id of a query that has the mandatory fields. -/
def Kind.idOf {ι δ σ : Type} (kind : Kind ι δ σ) (query : Query) : Option QueryValue :=
  (kind.observe query).map Prod.fst

namespace Sources
open Machine

variable {ι δ σ : Type} {kind : Kind ι δ σ} {s s' : Sources ι δ σ}

/-- The session that is stored for a client. -/
def sessionOf (s : Sources ι δ σ) (id : QueryValue) : Option Session :=
  (s.entries.get id).bind fun o => (s.observed[o]?).map fun x => ⟨x.source, x.disconnected⟩

/-- The client id that a websocket was accepted under. -/
def ownerOf (s : Sources ι δ σ) (so : Socket) : Option QueryValue :=
  so.observed.bind fun o => (s.observed[o]?).map Observed.id

/-- The code does what the sessions say. -/
structure Refines (kind : Kind ι δ σ) (s : Sources ι δ σ) (S : Sessions) : Prop where
  config : S.maxDisconnectingTimeInMs = s.maxDisconnectingTimeInMs
  now : S.now = s.now
  session : S.session = s.sessionOf
  started : S.started = s.sources.length
  owner : S.owner = s.sockets.map s.ownerOf
  decoder : ∀ {o : Nat} {x}, s.observed[o]? = some x →
    x.decoder = (kind.decodeAll (S.heard x.source)).1
  source : ∀ {n : Nat} {source}, s.sources[n]? = some source →
    source.accepted = (kind.decodeAll (S.heard n)).2 ∧ source.late = [] ∧
      source.closes = S.removals n ∧ S.removals n = if source.closed then 1 else 0
  opened : ∀ {n}, s.sourceOpen n ↔ ∃ id x, S.session id = some x ∧ x.source = n
  fresh : ∀ {n}, s.sources.length ≤ n → S.heard n = [] ∧ S.removals n = 0

/-- A client connects only when it has no open websocket. -/
def acceptsAlone (kind : Kind ι δ σ) (s : Sources ι δ σ) : Event → Bool
  | .accept query =>
      match kind.idOf query with
      | none    => true
      | some id =>
          (List.range s.sockets.length).all fun w => !s.isOpen w || s.clientOf w != some id
  | _ => true

/-! ### One websocket at a time -/

/-- What holds while clients connect only without an open websocket: a client has at most one,
and whoever has one is connected. -/
structure Orderly (s : Sources ι δ σ) : Prop where
  stored : s.Stored
  alive : s.Alive
  held : ∀ n, ¬ s.Orphan n
  alone : ∀ {w w' : Nat} {so so' o}, s.sockets[w]? = some so → s.sockets[w']? = some so' →
    so.closed = false → so'.closed = false → so.observed = some o → so'.observed = some o → w = w'
  started : 0 < s.now
  since : ∀ {o : Nat} {x d}, s.observed[o]? = some x → x.disconnected = some d → 0 < d

theorem acceptsAlone_iff {query : Query} {id : QueryValue} {info : ι}
    (hq : kind.observe query = some (id, info)) :
    s.acceptsAlone kind (.accept query) = true ↔
      ∀ w, s.isOpen w = true → s.clientOf w ≠ some id := by
  simp only [acceptsAlone, Kind.idOf, hq, Option.map_some, List.all_eq_true, List.mem_range,
    Bool.or_eq_true, Bool.not_eq_true', bne_iff_ne]
  constructor
  · intro h w hopen hid
    obtain ⟨so, hso, -⟩ := isOpen_iff.mp hopen
    rcases h w (Cells.lt_of_some hso) with hc | hn
    · cases hc.symm.trans hopen
    · exact hn hid
  · intro h w _
    by_cases hopen : s.isOpen w = true
    · exact .inr (h w hopen)
    · exact .inl (by simpa using hopen)

namespace Orderly

theorem connected (h : s.Orderly) : s.Connected := fun _ _ _ hw ho hso => h.alive.live hw ho hso

/-- So every websocket closes as the only open one of its client. -/
theorem closesAlone (h : s.Orderly) {e : Event} (he : s.step kind e = some s') :
    s.closesAlone e = true := by
  cases e with
  | socketClosed w =>
      refine closesAlone_iff.mpr fun id hid w' hne hopen' hid' => ?_
      obtain ⟨so, o, x, hw, ho, hx, rfl⟩ := clientOf_eq_some.mp hid
      obtain ⟨so', o', x', hw', ho', hx', e⟩ := clientOf_eq_some.mp hid'
      obtain ⟨so'', hw'', hopen'⟩ := isOpen_iff.mp hopen'
      cases hw'.symm.trans hw''
      have hopen : so.closed = false := by
        cases step_turn he with
        | forgotten hw₀ hc | socketClosed hw₀ hc => cases hw.symm.trans hw₀; exact hc
      -- both have the cell that is stored under the id
      obtain ⟨y, hy, hget, -⟩ := h.alive.live hw hopen ho
      obtain ⟨y', hy', hget', -⟩ := h.alive.live hw' hopen' ho'
      cases hx.symm.trans hy
      cases hx'.symm.trans hy'
      rw [e, hget] at hget'
      cases hget'
      exact hne (h.alone hw' hw hopen' hopen ho' ho)
  | accept | message | check | clear | elapsed => rfl

/-- A websocket that connects is the only open one of its cell. -/
theorem alone_step (h : s.Orderly) {e : Event} (hG : s.acceptsAlone kind e = true)
    (he : s.step kind e = some s') {w w' : Nat} {so so' : Socket} {q : ObservedRef}
    (hw : s'.sockets[w]? = some so) (hw' : s'.sockets[w']? = some so') (ho : so.closed = false)
    (ho' : so'.closed = false) (hq : so.observed = some q) (hq' : so'.observed = some q) :
    w = w' := by
  have back : ∀ {w : Nat} {so}, s'.sockets[w]? = some so → so.closed = false →
      so.observed = some q → s.sockets[w]? = some so ∨
        (w = s.sockets.length ∧ ∀ (w₀ : Nat) so₀, s.sockets[w₀]? = some so₀ →
          so₀.closed = false → so₀.observed ≠ some q) := by
    intro w so hw ho hq
    refine (socket_back h.stored he hw ho).imp_right ?_
    rintro ⟨query, rfl, rfl, hcell⟩
    refine ⟨rfl, fun w₀ so₀ hw₀ hopen hso => ?_⟩
    obtain ⟨id, info, hob, hget | ⟨-, rfl⟩⟩ := hcell q hq
    · obtain ⟨x, hx, hget', -⟩ := h.alive.live hw₀ hopen hso
      exact (acceptsAlone_iff hob).mp hG w₀ (isOpen_iff.mpr ⟨so₀, hw₀, hopen⟩)
        (clientOf_eq_some.mpr ⟨so₀, q, x, hw₀, hso, hx, h.stored.inj hget' hget⟩)
    · exact Nat.lt_irrefl _ (h.stored.socket hw₀ hso)
  rcases back hw ho hq with hw | ⟨rfl, hfree⟩ <;>
    rcases back hw' ho' hq' with hw' | ⟨rfl, hfree'⟩
  · exact h.alone hw hw' ho ho' hq hq'
  · exact absurd hq (hfree' w so hw ho)
  · exact absurd hq' (hfree w' so' hw' ho')
  · rfl

/-- A close is at the time of the clock, which is positive. -/
theorem since_step (h : s.Orderly) {e : Event} (hc : e ≠ .clear) (he : s.step kind e = some s')
    {o : Nat} {x : Observed δ} {d : Nat} (hx : s'.observed[o]? = some x)
    (hd : x.disconnected = some d) : 0 < d := by
  cases step_turn he with
  | refused | unheard | forgotten | elapsed => exact h.since hx hd
  | again =>
      rcases Cells.modify_eq_some.mp hx with ⟨-, y, -, rfl⟩ | ⟨-, hx⟩
      · cases hd
      · exact h.since hx hd
  | first =>
      rcases Cells.modify_eq_some.mp hx with ⟨-, y, -, rfl⟩ | ⟨hne, hx⟩
      · cases hd
      · rcases Cells.concat_eq_some.mp hx with hx | ⟨e, -⟩
        · exact h.since hx hd
        · exact absurd e hne
  | @message w so q data =>
      obtain ⟨cells, sources, e, -, hk, -⟩ := message_frame kind s q data
      rw [e] at hx
      obtain ⟨y, hy, e'⟩ := Cells.some_of_map hk.symm hx
      exact h.since hy (e'.trans hd)
  | socketClosed =>
      rw [Sources.socketClosed] at hx
      split at hx
      · exact h.since hx hd
      · rw [Sources.disconnect] at hx
        split at hx
        · exact h.since hx hd
        · rcases Cells.modify_eq_some.mp hx with ⟨-, y, hy, rfl⟩ | ⟨-, hx⟩
          · split at hd
            · exact h.since hy hd
            · cases hd
              exact h.started
          · exact h.since hx hd
  | check =>
      obtain ⟨c, ⟨entries, e, -⟩, -⟩ := check_spec h.stored
      rw [e] at hx
      exact h.since hx hd
  | clear => exact absurd rfl hc

theorem now_step (h : s.Orderly) {e : Event} (he : s.step kind e = some s') : 0 < s'.now := by
  have hnow := h.started
  cases step_turn he with
  | refused | again | first | unheard | forgotten => exact hnow
  | @message w so q data =>
      obtain ⟨cells, sources, e, -⟩ := message_frame kind s q data
      rw [e]
      exact hnow
  | socketClosed =>
      obtain ⟨cells, e, -⟩ := socketClosed_frame kind { s with sockets := _ } _
      rw [e]
      exact hnow
  | check =>
      obtain ⟨c, ⟨entries, e, -⟩, -⟩ := check_spec h.stored
      rw [e]
      exact hnow
  | clear =>
      obtain ⟨cells, e, -⟩ := clear_frame kind s
      rw [e]
      exact hnow
  | elapsed => exact Nat.lt_of_lt_of_le hnow (Nat.le_add_right _ _)

theorem step (h : s.Orderly) {e : Event} (hG : s.acceptsAlone kind e = true) (hc : e ≠ .clear)
    (he : s.step kind e = some s') : s'.Orderly where
  stored := h.stored.step he
  alive := h.alive.step h.stored (h.closesAlone he) hc he
  held := fun n ho => by
    rcases (orphan_step h.stored he n).mp ho with ho | ⟨e, -⟩
    · exact h.held n ho
    · exact hc e
  alone := h.alone_step hG he
  started := h.now_step he
  since := h.since_step hc he

end Orderly

/-! ### The simulation -/

theorem decodeAll_concat (kind : Kind ι δ σ) (messages : List String) (data : String) :
    kind.decodeAll (messages ++ [data]) =
      ((kind.decodeFromBase64 (kind.decodeAll messages).1 data).1,
        (kind.decodeAll messages).2 ++
          (kind.decodeFromBase64 (kind.decodeAll messages).1 data).2.toList) := by
  simp [Kind.decodeAll, List.foldl_append]

theorem sessionOf_eq {id : QueryValue} {o : ObservedRef} {x : Observed δ}
    (ho : s.entries.get id = some o) (hx : s.observed[o]? = some x) :
    s.sessionOf id = some ⟨x.source, x.disconnected⟩ := by
  simp [sessionOf, ho, hx]

theorem sessionOf_eq_some {id : QueryValue} {S : Session} :
    s.sessionOf id = some S ↔ ∃ o x, s.entries.get id = some o ∧ s.observed[o]? = some x ∧
      S = ⟨x.source, x.disconnected⟩ := by
  simp only [sessionOf, Option.bind_eq_some_iff, Option.map_eq_some_iff]
  constructor
  · rintro ⟨o, ho, x, hx, rfl⟩
    exact ⟨o, x, ho, hx, rfl⟩
  · rintro ⟨o, x, ho, hx, rfl⟩
    exact ⟨o, ho, x, hx, rfl⟩

theorem sessionOf_none {id : QueryValue} (h : s.entries.get id = none) : s.sessionOf id = none := by
  simp [sessionOf, h]

/-- The session of a client whose cell changes. -/
theorem sessionOf_modify (hs : s.Stored) {id : QueryValue} {o : ObservedRef} {x : Observed δ}
    {f : Observed δ → Observed δ} (ho : s.entries.get id = some o) (hx : s.observed[o]? = some x)
    (hf : (f x).source = x.source) (he : s'.entries = s.entries)
    (hc : s'.observed = s.observed.modify o f) :
    s'.sessionOf = Function.update s.sessionOf id (some ⟨x.source, (f x).disconnected⟩) := by
  funext id'
  by_cases e : id' = id
  · subst e
    rw [Function.update_self, sessionOf_eq (he ▸ ho) (hc ▸ Cells.modify_of_some hx), hf]
  · rw [Function.update_of_ne e]
    cases hq : s.entries.get id' with
    | none => rw [sessionOf_none hq, sessionOf_none (he ▸ hq)]
    | some q =>
        obtain ⟨y, hy, -⟩ := hs.entry hq
        have hne : q ≠ o := fun e' => e (hs.inj hq (e' ▸ ho))
        rw [sessionOf_eq hq hy, sessionOf_eq (he ▸ hq)
          (hc ▸ Cells.modify_eq_some.mpr (.inr ⟨hne, hy⟩))]

theorem sessionOf_create (hs : s.Stored) (id : QueryValue) (info : ι) :
    (s.create kind id info).sessionOf =
      Function.update s.sessionOf id (some { source := s.sources.length }) := by
  funext id'
  by_cases e : id' = id
  · subst e
    rw [Function.update_self]
    exact sessionOf_eq (s := s.create kind id' info) (LiveMap.get_set_self _ _ _)
      List.getElem?_concat_length
  · rw [Function.update_of_ne e]
    have hget : (s.create kind id info).entries.get id' = s.entries.get id' :=
      LiveMap.get_set_of_ne e
    cases hq : s.entries.get id' with
    | none => rw [sessionOf_none hq, sessionOf_none (hget.trans hq)]
    | some q =>
        obtain ⟨y, hy, -⟩ := hs.entry hq
        rw [sessionOf_eq hq hy, sessionOf_eq (hget.trans hq) (Cells.append_of_some hy)]

theorem sessionOf_congr (he : s'.entries = s.entries)
    (hk : s'.observed.map Observed.key = s.observed.map Observed.key)
    (hd : s'.observed.map Observed.disconnected = s.observed.map Observed.disconnected) :
    s'.sessionOf = s.sessionOf := by
  funext id
  rw [sessionOf]
  rw [he]
  congr 1
  funext o
  cases hx : s.observed[o]? with
  | none =>
      have hlen : s'.observed.length = s.observed.length := by
        simpa using congrArg List.length hk
      rw [List.getElem?_eq_none_iff] at hx
      rw [List.getElem?_eq_none (hlen ▸ hx)]
  | some x =>
      obtain ⟨y, hy, ek⟩ := Cells.some_of_map hk hx
      obtain ⟨z, hz, ed⟩ := Cells.some_of_map hd hx
      cases hy.symm.trans hz
      rw [hy]
      exact congrArg some (congrArg₂ Session.mk (congrArg Prod.snd ek) ed)

theorem ownerOf_congr (hk : s'.observed.map Observed.key = s.observed.map Observed.key) :
    s'.ownerOf = s.ownerOf := by
  funext so
  rw [ownerOf]
  congr 1
  funext o
  have e : (s'.observed.map Observed.key)[o]? = (s.observed.map Observed.key)[o]? := by rw [hk]
  simp only [List.getElem?_map] at e
  have h := congrArg (Option.map Prod.fst) e
  simp only [Option.map_map] at h
  exact h

theorem ownerOf_create (hs : s.Stored) (id : QueryValue) (info : ι) {so : Socket}
    (hso : so ∈ s.sockets) : (s.create kind id info).ownerOf so = s.ownerOf so := by
  obtain ⟨w, hw⟩ := List.mem_iff_getElem?.mp hso
  unfold ownerOf
  cases ho : so.observed with
  | none => rfl
  | some o =>
      have hlt := hs.socket hw ho
      simp [create, List.getElem?_append_left hlt]

/-- An open source is that of a stored session. -/
theorem Orderly.opened (h : s.Orderly) {n : SourceRef} :
    s.sourceOpen n ↔ ∃ id x, s.sessionOf id = some x ∧ x.source = n := by
  constructor
  · intro hopen
    have hheld : ∃ id, s.entries.get id = some n := by
      by_contra hn
      exact h.held n ⟨hopen, fun id ho => hn ⟨id, ho⟩⟩
    obtain ⟨id, ho⟩ := hheld
    obtain ⟨x, hx, -⟩ := h.stored.entry ho
    exact ⟨id, _, sessionOf_eq ho hx, h.stored.source hx⟩
  · rintro ⟨id, S, hS, rfl⟩
    obtain ⟨o, x, ho, hx, rfl⟩ := sessionOf_eq_some.mp hS
    rw [h.stored.source hx]
    exact h.stored.opened ho

namespace Refines

variable {S S' : Sessions}

/-- What no websocket hears of. -/
theorem quiet (h : Refines kind s S) (h' : s'.Orderly) (hmax : S'.maxDisconnectingTimeInMs =
      s'.maxDisconnectingTimeInMs) (hnow : S'.now = s'.now) (hsession : S'.session = s'.sessionOf)
    (howner : S'.owner = s'.sockets.map s'.ownerOf)
    (hcells : ∀ {o : Nat} {x}, s'.observed[o]? = some x →
      ∃ y, s.observed[o]? = some y ∧ x.decoder = y.decoder ∧ x.source = y.source)
    (hsources : s'.sources = s.sources) (hstarted : S'.started = S.started)
    (hheard : S'.heard = S.heard) (hremovals : S'.removals = S.removals) :
    Refines kind s' S' where
  config := hmax
  now := hnow
  session := hsession
  started := by rw [hstarted, hsources, h.started]
  owner := howner
  decoder := fun hx => by
    obtain ⟨y, hy, e, e'⟩ := hcells hx
    rw [e, e', hheard]
    exact h.decoder hy
  source := fun hn => by
    rw [hheard, hremovals]
    exact h.source (hsources ▸ hn)
  opened := by rw [hsession]; exact h'.opened
  fresh := fun hn => by
    rw [hheard, hremovals]
    exact h.fresh (hsources ▸ hn)

/-- A websocket of a stored client connects. -/
theorem again (h : Refines kind s S) (hs : s.Orderly) {id : QueryValue} {o : ObservedRef}
    (ho : s.entries.get id = some o) (h' : (s.setup o).Orderly) :
    Refines kind (s.setup o) (S.connect id) := by
  obtain ⟨x, hx, rfl⟩ := hs.stored.entry ho
  have hS : S.session x.id = some ⟨x.source, x.disconnected⟩ := by
    rw [h.session]
    exact sessionOf_eq ho hx
  have hcon : S.connect x.id = { S with
      session := Function.update S.session x.id (some ⟨x.source, none⟩)
      owner := S.owner ++ [some x.id] } := by
    simp only [Sessions.connect, hS]
  have hk : (s.setup o).observed.map Observed.key = s.observed.map Observed.key :=
    Cells.map_modify (fun _ => by rfl) _ _
  have hsession : (s.setup o).sessionOf = _ := sessionOf_modify hs.stored ho hx rfl rfl rfl
  rw [hcon]
  refine h.quiet h' h.config h.now ?_ ?_ (fun {q y} hy => ?_) rfl rfl rfl rfl
  · rw [h.session, hsession]
  · rw [ownerOf_congr hk, h.owner]
    simp [setup, ownerOf, hx]
  · rcases Cells.modify_eq_some.mp hy with ⟨rfl, z, hz, rfl⟩ | ⟨-, hy⟩
    · exact ⟨z, hz, rfl, rfl⟩
    · exact ⟨y, hy, rfl, rfl⟩

/-- The first websocket of a client connects. -/
theorem first (h : Refines kind s S) (hs : s.Orderly) {id : QueryValue} (info : ι)
    (hn : s.entries.get id = none)
    (h' : ((s.create kind id info).setup s.observed.length).Orderly) :
    Refines kind ((s.create kind id info).setup s.observed.length) (S.connect id) := by
  have hS : S.session id = none := by
    rw [h.session]
    exact sessionOf_none hn
  have hcon : S.connect id = { S with
      session := Function.update S.session id (some { source := S.started })
      started := S.started + 1
      owner := S.owner ++ [some id] } := by
    simp only [Sessions.connect, hS]
  have hx : (s.create kind id info).observed[s.observed.length]? =
      some ⟨id, s.sources.length, kind.newDecoder, none, none⟩ := List.getElem?_concat_length
  have hsession : ((s.create kind id info).setup s.observed.length).sessionOf = _ :=
    sessionOf_modify (hs.stored.create info) (LiveMap.get_set_self _ _ _) hx rfl rfl rfl
  have hk : ((s.create kind id info).setup s.observed.length).observed.map Observed.key =
      (s.create kind id info).observed.map Observed.key := Cells.map_modify (fun _ => by rfl) _ _
  obtain ⟨hheard, hremovals⟩ := h.fresh (Nat.le_refl s.sources.length)
  have hdec : kind.decodeAll [] = (kind.newDecoder, []) := rfl
  rw [hcon]
  constructor
  · exact h.config
  · exact h.now
  · rw [hsession, sessionOf_create hs.stored, Function.update_idem, ← h.session, h.started]
  · simp [setup, create, h.started]
  · rw [h.owner, ownerOf_congr (hk : _ = (s.create kind id info).observed.map Observed.key)]
    have hold : s.sockets.map (s.create kind id info).ownerOf = s.sockets.map s.ownerOf :=
      List.map_congr_left fun so hso => ownerOf_create hs.stored id info hso
    have hnew : (s.create kind id info).ownerOf { observed := some s.observed.length } =
        some id := by
      simp [ownerOf, hx]
    show _ = (s.sockets ++ [({ observed := some s.observed.length } : Socket)]).map
      (s.create kind id info).ownerOf
    rw [List.map_append, hold, List.map_singleton, hnew]
  · intro q y hy
    rcases Cells.modify_eq_some.mp hy with ⟨rfl, z, hz, rfl⟩ | ⟨-, hy⟩
    · cases hx.symm.trans hz
      rw [hheard, hdec]
    · rcases Cells.concat_eq_some.mp hy with hy | ⟨rfl, rfl⟩
      · exact h.decoder hy
      · rw [hheard, hdec]
  · intro n source hn
    rcases Cells.concat_eq_some.mp hn with hn | ⟨rfl, rfl⟩
    · exact h.source hn
    · rw [hheard, hdec]
      exact ⟨rfl, rfl, hremovals.symm, hremovals⟩
  · intro n
    rw [h'.opened, hsession, sessionOf_create hs.stored, Function.update_idem, ← h.session,
      h.started]
  · intro n hn
    exact h.fresh (Nat.le_of_succ_le (by simpa [setup, create] using hn))

/-- What a message changes: the decoder of its client, and its source if it decodes to a sample. -/
theorem message_eq (kind : Kind ι δ σ) {o : ObservedRef} {x : Observed δ}
    (hx : s.observed[o]? = some x) (data : String) :
    ∃ heard, s.message kind o data = { s with
        observed := s.observed.modify o fun y =>
          { y with decoder := (kind.decodeFromBase64 x.decoder data).1 }
        sources := heard } ∧
      ((kind.decodeFromBase64 x.decoder data).2 = none ∧ heard = s.sources ∨
        ∃ sample, (kind.decodeFromBase64 x.decoder data).2 = some sample ∧
          heard = s.sources.modify x.source fun source => source.accept sample) := by
  rw [message]
  split
  · next hn => cases hn.symm.trans hx
  · next y hy =>
      cases hy.symm.trans hx
      refine ⟨_, rfl, ?_⟩
      split
      · next sample hsample => exact .inr ⟨sample, hsample, rfl⟩
      · next hsample => exact .inl ⟨hsample, rfl⟩

/-- A message arrives on an open websocket: its session hears it. -/
theorem hear (h : Refines kind s S) (hs : s.Orderly) {o : ObservedRef} {x : Observed δ}
    (hx : s.observed[o]? = some x) (ho : s.entries.get x.id = some o) (data : String)
    (h' : (s.message kind o data).Orderly) :
    Refines kind (s.message kind o data) (S.hear ⟨x.source, x.disconnected⟩ data) := by
  obtain ⟨cells, sources, e, hk, hd, -⟩ := message_frame kind s o data
  obtain rfl := hs.stored.source hx
  obtain ⟨source₀, hsource₀, hopen₀⟩ := hs.stored.opened ho
  obtain ⟨heard, hmsg, hheard⟩ := message_eq kind hx data
  have hsession : (s.message kind x.source data).sessionOf = s.sessionOf := by
    rw [e]
    exact sessionOf_congr rfl hk hd
  have hlen : (s.message kind x.source data).sources.length = s.sources.length := by
    rw [hmsg]
    rcases hheard with ⟨-, rfl⟩ | ⟨sample, -, rfl⟩
    · rfl
    · exact List.length_modify ..
  have hnew : (S.hear ⟨x.source, x.disconnected⟩ data).heard x.source =
      S.heard x.source ++ [data] := Function.update_self ..
  have hold : ∀ {n}, n ≠ x.source →
      (S.hear ⟨x.source, x.disconnected⟩ data).heard n = S.heard n :=
    fun hn => Function.update_of_ne hn _ _
  have hdec := h.decoder hx
  constructor
  · rw [e]; exact h.config
  · rw [e]; exact h.now
  · rw [hsession]; exact h.session
  · rw [hlen]; exact h.started
  · rw [e]
    exact h.owner.trans (congrArg (List.map · s.sockets) (ownerOf_congr hk).symm)
  · intro q y hy
    rw [hmsg] at hy
    rcases Cells.modify_eq_some.mp hy with ⟨rfl, z, hz, rfl⟩ | ⟨hne, hy⟩
    · cases hx.symm.trans hz
      rw [hnew, decodeAll_concat, ← hdec]
    · rw [hold (hs.stored.source hy ▸ hne)]
      exact h.decoder hy
  · intro n source hn
    rw [hmsg] at hn
    replace hn : heard[n]? = some source := hn
    by_cases hne : n = x.source
    · subst hne
      obtain ⟨hacc, hlate, hrem⟩ := h.source hsource₀
      rw [hnew, decodeAll_concat, ← hdec]
      rcases hheard with ⟨hsample, rfl⟩ | ⟨sample, hsample, rfl⟩
      · cases hsource₀.symm.trans hn
        exact ⟨by rw [hacc, hsample]; exact (List.append_nil _).symm, hlate, hrem⟩
      · -- it decodes to a sample, which the source accepts
        cases (Cells.modify_of_some hsource₀).symm.trans hn
        refine ⟨?_, ?_, ?_⟩
        · simp [Source.accept, hopen₀, hacc, hsample]
        · simpa [Source.accept, hopen₀] using hlate
        · rw [Source.accept_closed, Source.accept_closes]
          exact hrem
    · rw [hold hne]
      rcases hheard with ⟨-, rfl⟩ | ⟨sample, -, rfl⟩
      · exact h.source hn
      · rcases Cells.modify_eq_some.mp hn with ⟨e', -⟩ | ⟨-, hn⟩
        · exact absurd e' hne
        · exact h.source hn
  · intro n
    rw [h'.opened, hsession, ← h.session]
    rfl
  · intro n hn
    rw [hlen] at hn
    rw [hold (Nat.ne_of_gt (Nat.lt_of_lt_of_le (Cells.lt_of_some hsource₀) hn))]
    exact h.fresh hn

/-- The websocket of a client closes. -/
theorem closed (h : Refines kind s S) (hs : s.Orderly) {w : Nat} {so : Socket} {o : ObservedRef}
    {x : Observed δ} (hw : s.sockets[w]? = some so) (hx : s.observed[o]? = some x)
    (ho : s.entries.get x.id = some o) (hd : x.disconnected = none)
    (h' : (socketClosed kind
      { s with sockets := s.sockets.set w { so with closed := true } } o).Orderly) :
    Refines kind
      (socketClosed kind { s with sockets := s.sockets.set w { so with closed := true } } o)
      (S.close x.id ⟨x.source, x.disconnected⟩) := by
  obtain ⟨f, e, hk, hdec, hsince⟩ : ∃ f : Observed δ → Observed δ,
      socketClosed kind { s with sockets := s.sockets.set w { so with closed := true } } o =
        { s with
          sockets := s.sockets.set w { so with closed := true }
          observed := s.observed.modify o f } ∧
      (∀ y, (f y).key = y.key) ∧ (∀ y, (f y).decoder = y.decoder) ∧
      (f x).disconnected = some s.now := by
    refine ⟨_, by simp only [socketClosed, hx, disconnect, ho]; rfl, fun y => ?_, fun y => ?_, ?_⟩
    · split <;> rfl
    · split <;> rfl
    · simp [Observed.isDisconnected, hd, truthyNumber]
  have hcells : (s.observed.modify o f).map Observed.key = s.observed.map Observed.key :=
    Cells.map_modify hk _ _
  have hsource : ∀ y, (f y).source = y.source := fun y => congrArg Prod.snd (hk y)
  have hsession : Sources.sessionOf { s with
      sockets := s.sockets.set w { so with closed := true }
      observed := s.observed.modify o f } = _ :=
    sessionOf_modify hs.stored ho hx (hsource x) rfl rfl
  rw [e] at h' ⊢
  refine h.quiet h' h.config h.now ?_ ?_ (fun {q y} hy => ?_) rfl rfl rfl rfl
  · rw [hsession, hsince, ← h.session, ← h.now]
    rfl
  · rw [ownerOf_congr hcells]
    exact h.owner.trans (Cells.map_set_of_some (f := s.ownerOf) hw (by rfl)).symm
  · rcases Cells.modify_eq_some.mp hy with ⟨rfl, z, hz, rfl⟩ | ⟨-, hy⟩
    · exact ⟨z, hz, hdec z, hsource z⟩
    · exact ⟨y, hy, rfl, rfl⟩

/-- The sessions that expired are those whose cells are overdue. -/
theorem expired_iff (h : Refines kind s S) (hs : s.Orderly) {o : Nat} {x : Observed δ}
    (hx : s.observed[o]? = some x) :
    S.Expired ⟨x.source, x.disconnected⟩ ↔ s.overdue o = true := by
  simp only [Sessions.Expired, overdue, hx, Option.any_some, expired, Observed.isDisconnected,
    h.config, h.now]
  cases hd : x.disconnected with
  | none => simp [truthyNumber]
  | some d =>
      obtain ⟨d, rfl⟩ := Nat.exists_eq_succ_of_ne_zero (Nat.ne_of_gt (hs.since hx hd))
      simp [truthyNumber]

/-- `check` ends exactly the sessions that expired. -/
theorem check (h : Refines kind s S) (hs : s.Orderly) (h' : s.check.Orderly) :
    Refines kind s.check S.check := by
  obtain ⟨c, ⟨entries, e, hentries⟩, hc⟩ := check_spec hs.stored
  -- a session that expired is that of a cell `c` holds of
  have hends : ∀ n, (∃ id x, S.session id = some x ∧ x.source = n ∧ S.Expired x) ↔ c n = true := by
    intro n
    rw [hc, h.session]
    constructor
    · rintro ⟨id, x, hS, rfl, hexp⟩
      obtain ⟨o, y, ho, hy, rfl⟩ := sessionOf_eq_some.mp hS
      obtain rfl := hs.stored.source hy
      exact ⟨⟨id, ho⟩, (h.expired_iff hs hy).mp hexp⟩
    · rintro ⟨⟨id, ho⟩, hover⟩
      obtain ⟨y, hy, -⟩ := hs.stored.entry ho
      exact ⟨id, _, sessionOf_eq ho hy, hs.stored.source hy, (h.expired_iff hs hy).mpr hover⟩
  have hsession : S.check.session = s.check.sessionOf := by
    funext id
    rw [e]
    show (S.session id).filter _ = (entries.get id).bind _
    rw [h.session, hentries]
    cases ho : s.entries.get id with
    | none => rw [sessionOf_none ho]; rfl
    | some o =>
        obtain ⟨x, hx, -⟩ := hs.stored.entry ho
        have hexp := h.expired_iff hs hx
        rw [sessionOf_eq ho hx, Option.filter_some, Option.filter_some]
        have hco : c o = s.overdue o := by
          rw [Bool.eq_iff_iff, hc]
          exact and_iff_right ⟨id, ho⟩
        by_cases hover : s.overdue o = true
        · simp [hexp.mpr hover, hco, hover]
        · simp [mt hexp.mp hover, hco, hover, hx]
  constructor
  · rw [e]; exact h.config
  · rw [e]; exact h.now
  · exact hsession
  · rw [e]; exact h.started.trans List.length_mapIdx.symm
  · rw [e]; exact h.owner
  · intro o x hx
    rw [e] at hx
    exact h.decoder hx
  · intro n source hn
    rw [e] at hn
    simp only [List.getElem?_mapIdx, Option.map_eq_some_iff] at hn
    obtain ⟨source₀, hn, rfl⟩ := hn
    obtain ⟨hacc, hlate, hcloses, hrem⟩ := h.source hn
    have hrem' : S.check.removals n = S.removals n + (c n).toNat := by
      simp only [Sessions.check, hends]
      cases c n <;> rfl
    refine ⟨(closeIf_accepted _ _).trans hacc, (closeIf_late _ _).trans hlate, ?_⟩
    rw [closeIf_closes, closeIf_closed, hrem', hcloses, hrem]
    cases hclosed : source₀.closed with
    | false => cases c n <;> exact ⟨rfl, rfl⟩
    | true =>
        -- no session has a closed source
        have hcn : ¬ c n = true := by
          intro hcn
          obtain ⟨id, x, hS, hx, -⟩ := (hends n).mpr hcn
          obtain ⟨source₁, hn', hopen⟩ := h.opened.mpr ⟨id, x, hS, hx⟩
          cases hn.symm.trans hn'
          cases hclosed.symm.trans hopen
        simp [hcn]
  · intro n
    rw [hsession]
    exact h'.opened
  · intro n hn
    rw [e] at hn
    simp only [List.length_mapIdx] at hn
    obtain ⟨hheard, hrem⟩ := h.fresh hn
    refine ⟨hheard, ?_⟩
    have hnone : ¬ ∃ id x, S.session id = some x ∧ x.source = n ∧ S.Expired x := by
      rintro ⟨id, x, hS, hx, -⟩
      obtain ⟨source, hn', -⟩ := h.opened.mpr ⟨id, x, hS, hx⟩
      exact absurd (Cells.lt_of_some hn') (Nat.not_lt_of_le hn)
    simp only [Sessions.check, hrem, if_neg hnone]

/-- **Every step is followed** by the sessions. -/
theorem step (h : Refines kind s S) (hs : s.Orderly) {e : Event}
    (hG : s.acceptsAlone kind e = true) (hc : e ≠ .clear) (he : s.step kind e = some s') :
    ∃ S', S.step kind.idOf e = some S' ∧ Refines kind s' S' := by
  have h' : s'.Orderly := hs.step hG hc he
  -- the owner of a websocket, and the session of the owner of an open one
  have howner : ∀ {w : Nat} {so}, s.sockets[w]? = some so → S.owner[w]? = some (s.ownerOf so) := by
    intro w so hw
    rw [h.owner, List.getElem?_map, hw]
    rfl
  have hlive : ∀ {w : Nat} {so o}, s.sockets[w]? = some so → so.closed = false →
      so.observed = some o → ∃ x, s.observed[o]? = some x ∧ s.entries.get x.id = some o ∧
        x.disconnected = none ∧ S.owner[w]? = some (some x.id) ∧
        S.session x.id = some ⟨x.source, x.disconnected⟩ := by
    intro w so o hw hopen hso
    obtain ⟨x, hx, ho, hd⟩ := hs.alive.live hw hopen hso
    refine ⟨x, hx, ho, hd, ?_, ?_⟩
    · rw [howner hw, ownerOf, hso, Option.bind_some, hx, Option.map_some]
    · rw [h.session]
      exact sessionOf_eq ho hx
  cases step_turn he with
  | refused hq =>
      refine ⟨{ S with owner := S.owner ++ [none] }, by simp [Sessions.step, Kind.idOf, hq], ?_⟩
      refine h.quiet h' h.config h.now h.session ?_ (fun hx => ⟨_, hx, rfl, rfl⟩) rfl rfl rfl rfl
      show _ = (s.sockets ++ [_]).map s.ownerOf
      rw [List.map_append, ← h.owner]
      rfl
  | @again query id info o hq ho =>
      exact ⟨S.connect id, by simp [Sessions.step, Kind.idOf, hq], h.again hs ho h'⟩
  | @first query id info hq hn =>
      exact ⟨S.connect id, by simp [Sessions.step, Kind.idOf, hq], h.first hs info hn h'⟩
  | unheard hw _ hso =>
      refine ⟨S, ?_, h⟩
      simp only [Sessions.step, howner hw, ownerOf, hso, Option.bind_none]
  | @message w so o data hw hopen hso =>
      obtain ⟨x, hx, ho, -, hown, hS⟩ := hlive hw hopen hso
      refine ⟨S.hear ⟨x.source, x.disconnected⟩ data, ?_, h.hear hs hx ho data h'⟩
      simp only [Sessions.step, hown, hS, Option.map_some]
  | @forgotten w so hw _ hso =>
      refine ⟨S, by simp only [Sessions.step, howner hw, ownerOf, hso, Option.bind_none], ?_⟩
      refine h.quiet h' h.config h.now h.session ?_ (fun hx => ⟨_, hx, rfl, rfl⟩) rfl rfl rfl rfl
      exact h.owner.trans (Cells.map_set_of_some (f := s.ownerOf) hw (by rfl)).symm
  | @socketClosed w so o hw hopen hso =>
      obtain ⟨x, hx, ho, hd, hown, hS⟩ := hlive hw hopen hso
      refine ⟨S.close x.id ⟨x.source, x.disconnected⟩, ?_, h.closed hs hw hx ho hd h'⟩
      simp only [Sessions.step, hown, hS, Option.map_some]
  | check => exact ⟨S.check, rfl, h.check hs h'⟩
  | clear => exact absurd rfl hc
  | elapsed =>
      refine ⟨_, rfl, ?_⟩
      exact h.quiet h' h.config (congrArg (· + _) h.now) h.session h.owner
        (fun hx => ⟨_, hx, rfl, rfl⟩) rfl rfl rfl rfl

end Refines

/-! ### Runs -/

/-- Before the first client. -/
theorem refines_new (kind : Kind ι δ σ) (max : Int) (now : Nat) :
    Refines kind (.new max now) { maxDisconnectingTimeInMs := max, now } := by
  constructor <;> simp [new, sourceOpen]
  rfl

theorem orderly_new (max : Int) {now : Nat} (h : 0 < now) :
    (new max now : Sources ι δ σ).Orderly where
  stored := stored_new max now
  alive := alive_of_stored (stored_new max now) (fun _ _ _ hw => by simp [new] at hw)
    fun hn => by simp [new] at hn
  held := fun n ho => by simp [Orphan, sourceOpen, new] at ho
  alone := fun hw => by simp [new] at hw
  started := h
  since := fun hx => by simp [new] at hx

/-- **The sources do what the sessions say**, in every run from a positive time on in which no
client connects before its previous websocket closed. -/
theorem sessions_refined {max : Int} {now : Nat} {es : List Event} {s : Sources ι δ σ}
    (hx : exec (step kind) (.new max now) es = some s) (h0 : 0 < now) (hc : .clear ∉ es)
    (ha : Along (step kind) (fun s e => s.acceptsAlone kind e = true) (.new max now) es) :
    ∃ S, exec (Sessions.step kind.idOf) { maxDisconnectingTimeInMs := max, now } es = some S ∧
      Refines kind s S := by
  have hne : Along (step kind) (fun _ e => e ≠ .clear) (.new max now) es :=
    along_of_forall fun e he _ e' => hc (e' ▸ he)
  have hstep : ∀ (s : Sources ι δ σ) (S : Sessions) e s', s.Orderly ∧ Refines kind s S →
      s.acceptsAlone kind e = true ∧ e ≠ .clear → step kind s e = some s' →
      ∃ S', Sessions.step kind.idOf S e = some S' ∧ s'.Orderly ∧ Refines kind s' S' := by
    intro s S e s' h hG he
    obtain ⟨S', hS', h'⟩ := h.2.step h.1 hG.1 hG.2 he
    exact ⟨S', hS', h.1.step hG.1 hG.2 he, h'⟩
  obtain ⟨S, hS, -, h⟩ := exec_simulation hstep
    ⟨orderly_new max h0, refines_new kind max now⟩ (ha.and hne) hx
  exact ⟨S, hS, h⟩

theorem sessions_refined_comesBack :
    (∃ s S, exec (step (observedClients () plain)) (new 5000 1) (comesBack someClient) = some s ∧
      exec (Sessions.step (observedClients () plain).idOf)
        { maxDisconnectingTimeInMs := 5000, now := 1 } (comesBack someClient) = some S ∧
      Refines (observedClients () plain) s S) ∧
    ∃ s S, exec (step (observedSfus () plain)) (new 5000 1) (comesBack someSfu) = some s ∧
      exec (Sessions.step (observedSfus () plain).idOf)
        { maxDisconnectingTimeInMs := 5000, now := 1 } (comesBack someSfu) = some S ∧
      Refines (observedSfus () plain) s S := by
  have hclients : exec (step (observedClients () plain)) (new 5000 1) (comesBack someClient) =
    some _ := rfl
  have hsfus : exec (step (observedSfus () plain)) (new 5000 1) (comesBack someSfu) =
    some _ := rfl
  obtain ⟨S, hS, h⟩ := sessions_refined hclients (by decide) (by simp [comesBack]) (by decide)
  obtain ⟨S', hS', h'⟩ := sessions_refined hsfus (by decide) (by simp [comesBack]) (by decide)
  exact ⟨⟨_, S, hclients, hS, h⟩, _, S', hsfus, hS', h'⟩

end Sources

end DemoApp.Observer
