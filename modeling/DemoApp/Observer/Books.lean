import DemoApp.Observer.Sessions

/-!
# Observer — Books

What a store holds that is neither checked nor cleared, as a function of what it was told: who
connected, with which values, and which messages came under which id.

* `Books`: each id has the source of its first values, which is open, was never closed, and
  accepted what a decoder of its own makes of all messages under the id.
* One lemma for each operation: `Books.refuse`, `Books.again`, `Books.first`, `Books.hear`,
  `Books.unheard`, `Books.disconnect`, `Books.elapse`.
* `owners`: the ids that the websockets were accepted under stay.
-/

namespace DemoApp.Observer

/-- Of pairs with the same id the first one. -/
def firstValues {ι : Type} (pairs : List (QueryValue × ι)) : List (QueryValue × ι) :=
  pairs.foldl (fun firsts x => if x.1 ∈ firsts.map Prod.fst then firsts else firsts ++ [x]) []

section FirstValues

variable {ι : Type} {pairs : List (QueryValue × ι)} {x : QueryValue × ι}

theorem firstValues_snoc_of_mem (h : x.1 ∈ (firstValues pairs).map Prod.fst) :
    firstValues (pairs ++ [x]) = firstValues pairs := by
  rw [firstValues, List.foldl_append]
  exact if_pos h

theorem firstValues_snoc_of_not_mem (h : x.1 ∉ (firstValues pairs).map Prod.fst) :
    firstValues (pairs ++ [x]) = firstValues pairs ++ [x] := by
  rw [firstValues, List.foldl_append]
  exact if_neg h

theorem mem_firstValues {id : QueryValue} :
    id ∈ (firstValues pairs).map Prod.fst ↔ id ∈ pairs.map Prod.fst := by
  induction pairs using List.reverseRecOn with
  | nil => rfl
  | append_singleton pairs x ih =>
      by_cases h : x.1 ∈ (firstValues pairs).map Prod.fst
      · rw [firstValues_snoc_of_mem h, ih, List.map_append, List.mem_append]
        refine (or_iff_left_of_imp fun hid => ?_).symm
        obtain rfl : id = x.1 := List.mem_singleton.mp hid
        exact ih.mp h
      · rw [firstValues_snoc_of_not_mem h, List.map_append, List.map_append, List.mem_append,
          List.mem_append, ih]

end FirstValues

/-- The source of an id: what it was created with, and what became of the messages. -/
def Kind.record {ι δ σ : Type} (kind : Kind ι δ σ) (heard : QueryValue → List String)
    (first : QueryValue × ι) : Source ι σ :=
  { info := first.2, accepted := (kind.decodeAll (heard first.1)).2 }

namespace Sources

variable {ι δ σ : Type} {kind : Kind ι δ σ} {s s' : Sources ι δ σ}
variable {firsts : List (QueryValue × ι)} {heard : QueryValue → List String}

/-- The store holds one entry for each id, with its first values, its decoder, and its source. -/
structure Books (kind : Kind ι δ σ) (s : Sources ι δ σ) (firsts : List (QueryValue × ι))
    (heard : QueryValue → List String) : Prop where
  stored : s.Stored
  entry : ∀ {id o}, s.entries.get id = some o ↔ ∃ info, firsts[o]? = some (id, info)
  decoder : ∀ {o : Nat} {x}, s.observed[o]? = some x →
    x.decoder = (kind.decodeAll (heard x.id)).1
  sources : s.sources = firsts.map (kind.record heard)

namespace Books

/-- A cell is the one of an entry. -/
theorem cell (h : Books kind s firsts heard) {o : ObservedRef} {x : Observed δ}
    (hx : s.observed[o]? = some x) :
    s.entries.get x.id = some o ∧ ∃ info, firsts[o]? = some (x.id, info) := by
  have hlt : o < firsts.length := by
    have hlen : s.observed.length = firsts.length := by
      rw [h.stored.paired, h.sources, List.length_map]
    exact Nat.lt_of_lt_of_eq (Cells.lt_of_some hx) hlen
  obtain ⟨id, info, hf⟩ : ∃ id info, firsts[o]? = some (id, info) :=
    ⟨_, _, List.getElem?_eq_getElem hlt⟩
  have hget : s.entries.get id = some o := h.entry.mpr ⟨info, hf⟩
  obtain ⟨y, hy, rfl⟩ := h.stored.entry hget
  cases hx.symm.trans hy
  exact ⟨hget, info, hf⟩

theorem mem_iff (h : Books kind s firsts heard) {id : QueryValue} :
    id ∈ firsts.map Prod.fst ↔ (s.entries.get id).isSome = true := by
  constructor
  · intro hmem
    obtain ⟨⟨_, info⟩, hf, rfl⟩ := List.mem_map.mp hmem
    obtain ⟨o, ho⟩ := List.mem_iff_getElem?.mp hf
    rw [h.entry.mpr ⟨info, ho⟩]
    rfl
  · intro hsome
    obtain ⟨o, ho⟩ := Option.isSome_iff_exists.mp hsome
    obtain ⟨info, hf⟩ := h.entry.mp ho
    exact List.mem_map.mpr ⟨_, List.mem_of_getElem? hf, rfl⟩

/-- What the operations without a new client and without a message keep. -/
theorem congr (h : Books kind s firsts heard) (hs : s'.Stored) (he : s'.entries = s.entries)
    (hk : s'.observed.map Observed.key = s.observed.map Observed.key)
    (hd : s'.observed.map Observed.decoder = s.observed.map Observed.decoder)
    (hsources : s'.sources = s.sources) : Books kind s' firsts heard := by
  refine ⟨hs, fun {id o} => by rw [he]; exact h.entry, fun {o x} hx => ?_,
    hsources.trans h.sources⟩
  obtain ⟨y, hy, ek⟩ := Cells.some_of_map hk.symm hx
  obtain ⟨z, hz, ed⟩ := Cells.some_of_map hd.symm hx
  cases hy.symm.trans hz
  have hid : y.id = x.id := congrArg Prod.fst ek
  rw [← ed, ← hid]
  exact h.decoder hy

theorem new (kind : Kind ι δ σ) (max : Int) (now : Nat) :
    Books kind (.new max now) [] fun _ => [] := by
  refine ⟨stored_new max now, ?_, ?_, rfl⟩ <;> simp [Sources.new]

/-! ### The operations -/

/-- A websocket connects, and is refused. -/
theorem refuse (h : Books kind s firsts heard) {query : Query} (hq : kind.observe query = none) :
    Books kind (s.accept kind query) firsts heard := by
  have hstored : (s.accept kind query).Stored := h.stored.step (e := .accept query) rfl
  have e : s.accept kind query =
      { s with sockets := s.sockets ++ [{ refused := some kind.refusal }] } := by
    simp only [accept, hq]
  rw [e] at hstored ⊢
  exact h.congr hstored rfl rfl rfl rfl

/-- A websocket of a client that is known connects. -/
theorem again (h : Books kind s firsts heard) {query : Query} {id : QueryValue} {info : ι}
    (hq : kind.observe query = some (id, info)) (hid : id ∈ firsts.map Prod.fst) :
    Books kind (s.accept kind query) firsts heard := by
  have hstored : (s.accept kind query).Stored := h.stored.step (e := .accept query) rfl
  obtain ⟨o, ho⟩ := Option.isSome_iff_exists.mp (h.mem_iff.mp hid)
  have e : s.accept kind query = s.setup o := by
    simp only [accept, hq, ho]
  rw [e] at hstored ⊢
  exact h.congr hstored rfl (Cells.map_modify (fun _ => by rfl) _ _)
    (Cells.map_modify (fun _ => by rfl) _ _) rfl

/-- The first websocket of a client connects. -/
theorem first (h : Books kind s firsts heard) {query : Query} {id : QueryValue} {info : ι}
    (hq : kind.observe query = some (id, info)) (hid : id ∉ firsts.map Prod.fst)
    (hnew : heard id = []) :
    Books kind (s.accept kind query) (firsts ++ [(id, info)]) heard := by
  have hstored : (s.accept kind query).Stored := h.stored.step (e := .accept query) rfl
  have hn : s.entries.get id = none := by
    simpa using mt h.mem_iff.mpr hid
  have e : s.accept kind query = (s.create kind id info).setup s.observed.length := by
    simp only [accept, hq, hn]
    rfl
  have hlen : s.observed.length = firsts.length := by
    rw [h.stored.paired, h.sources, List.length_map]
  rw [e] at hstored ⊢
  refine ⟨hstored, fun {id' o} => ?_, fun {o x} hx => ?_, ?_⟩
  · show (s.entries.set id s.observed.length).get id' = some o ↔ _
    rw [LiveMap.get_set]
    split
    · next e' =>
        subst e'
        constructor
        · intro ho
          cases ho
          exact ⟨info, by rw [hlen]; exact List.getElem?_concat_length⟩
        · rintro ⟨info', hf⟩
          rcases Cells.concat_eq_some.mp hf with hf | ⟨rfl, -⟩
          · exact absurd (List.mem_map.mpr ⟨_, List.mem_of_getElem? hf, rfl⟩) hid
          · rw [hlen]
    · next e' =>
        rw [h.entry]
        constructor
        · rintro ⟨info', hf⟩
          exact ⟨info', Cells.append_of_some hf⟩
        · rintro ⟨info', hf⟩
          rcases Cells.concat_eq_some.mp hf with hf | ⟨-, e''⟩
          · exact ⟨info', hf⟩
          · cases e''
            exact absurd rfl e'
  · rcases Cells.modify_eq_some.mp hx with ⟨-, y, hy, rfl⟩ | ⟨hne, hy⟩ <;>
      rcases Cells.concat_eq_some.mp hy with hy | ⟨rfl, rfl⟩
    · exact h.decoder (x := y) hy
    · show kind.newDecoder = (kind.decodeAll (heard id)).1
      rw [hnew]
      rfl
    · exact h.decoder hy
    · exact absurd rfl hne
  · have hrecord : kind.record heard (id, info) = { info } := by
      rw [Kind.record, hnew]
      rfl
    rw [List.map_append, ← h.sources, List.map_singleton, hrecord]
    rfl

/-- A message arrives for a cell. -/
theorem hear (h : Books kind s firsts heard) {w : Nat} {so : Socket} {o : ObservedRef}
    {x : Observed δ} {data : String} (hstep : s.step kind (.message w data) = some s')
    (hw : s.sockets[w]? = some so) (hso : so.observed = some o) (hx : s.observed[o]? = some x) :
    Books kind s' firsts (Function.update heard x.id (heard x.id ++ [data])) := by
  have hstored : s'.Stored := h.stored.step hstep
  obtain rfl : s' = s.message kind o data := by
    cases step_turn hstep with
    | unheard hw' _ hn =>
        cases hw.symm.trans hw'
        cases hso.symm.trans hn
    | message hw' _ ho =>
        cases hw.symm.trans hw'
        cases hso.symm.trans ho
        rfl
  obtain ⟨sources, e, hsources⟩ := Refines.message_eq kind hx data
  obtain ⟨hget, info, hf⟩ := h.cell hx
  have hdec := h.decoder hx
  obtain rfl := h.stored.source hx
  have hother : ∀ {id o'}, s.entries.get id = some o' → o' ≠ x.source → id ≠ x.id := by
    rintro id o' ho' hne rfl
    exact hne (Option.some.inj (ho'.symm.trans hget))
  rw [e] at hstored ⊢
  refine ⟨hstored, h.entry, fun {q y} hy => ?_, ?_⟩
  · rcases Cells.modify_eq_some.mp hy with ⟨rfl, z, hz, rfl⟩ | ⟨hne, hy⟩
    · cases hx.symm.trans hz
      rw [Function.update_self, decodeAll_concat, ← hdec]
    · rw [Function.update_of_ne (hother (h.cell hy).1 hne)]
      exact h.decoder hy
  · refine List.ext_getElem? fun n => ?_
    rw [List.getElem?_map]
    by_cases hn : n = x.source
    · -- its source accepts what the text decodes to
      subst hn
      have hsource : s.sources[x.source]? = some (kind.record heard (x.id, info)) := by
        rw [h.sources, List.getElem?_map, hf, Option.map_some]
      rw [hf, Option.map_some, Kind.record, Function.update_self, decodeAll_concat, ← hdec]
      rcases hsources with ⟨hnone, rfl⟩ | ⟨sample, hsome, rfl⟩
      · rw [hsource, hnone]
        simp [Kind.record]
      · rw [Cells.modify_of_some hsource, hsome]
        simp [Kind.record, Source.accept]
    · have hsame : sources[n]? = s.sources[n]? := by
        rcases hsources with ⟨-, rfl⟩ | ⟨sample, -, rfl⟩
        · rfl
        · exact List.getElem?_modify_ne _ _ (Ne.symm hn)
      rw [hsame, h.sources, List.getElem?_map]
      cases hfn : firsts[n]? with
      | none => rfl
      | some first =>
          have hne : first.1 ≠ x.id := hother (h.entry.mpr ⟨first.2, hfn⟩) hn
          simp only [Option.map_some, Kind.record, Function.update_of_ne hne]

/-- A message arrives on a websocket that was refused. -/
theorem unheard (h : Books kind s firsts heard) {w : Nat} {so : Socket} {data : String}
    (hstep : s.step kind (.message w data) = some s') (hw : s.sockets[w]? = some so)
    (hso : so.observed = none) : Books kind s' firsts heard := by
  cases step_turn hstep with
  | unheard => exact h
  | message hw' _ ho =>
      cases hw.symm.trans hw'
      cases hso.symm.trans ho

theorem disconnect_decoder (kind : Kind ι δ σ) (s : Sources ι δ σ) (id : QueryValue) :
    (s.disconnect kind id).observed.map Observed.decoder = s.observed.map Observed.decoder := by
  rw [Sources.disconnect]
  split
  · rfl
  · refine Cells.map_modify (fun x => ?_) _ _
    split <;> rfl

/-- A websocket closes. -/
theorem disconnect (h : Books kind s firsts heard) {w : Nat}
    (hstep : s.step kind (.socketClosed w) = some s') : Books kind s' firsts heard := by
  have hstored : s'.Stored := h.stored.step hstep
  cases step_turn hstep with
  | forgotten => exact h.congr hstored rfl rfl rfl rfl
  | @socketClosed w so o =>
      obtain ⟨cells, e, hk⟩ := socketClosed_frame kind
        { s with sockets := s.sockets.set w { so with closed := true } } o
      refine h.congr hstored (by rw [e]) (by rw [e]; exact hk) ?_ (by rw [e])
      rw [Sources.socketClosed]
      split
      · rfl
      · exact disconnect_decoder kind _ _

/-- Time passes. -/
theorem elapse (h : Books kind s firsts heard) (now : Nat) :
    Books kind { s with now } firsts heard :=
  h.congr (h.stored.congr rfl rfl id (fun _ h => h) h.stored.socket) rfl rfl rfl rfl

end Books

/-! ### Whose websockets they are -/

/-- The ids that the websockets were accepted under. -/
def owners (s : Sources ι δ σ) : List (Option QueryValue) := s.sockets.map s.ownerOf

theorem owners_setup {o : ObservedRef} {x : Observed δ}
    (hx : s.observed[o]? = some x) : (s.setup o).owners = s.owners ++ [some x.id] := by
  have hk : (s.setup o).observed.map Observed.key = s.observed.map Observed.key :=
    Cells.map_modify (fun _ => by rfl) _ _
  rw [owners, ownerOf_congr hk]
  simp [setup, owners, ownerOf, hx]

theorem owners_create (hs : s.Stored) (id : QueryValue) (info : ι) :
    (s.create kind id info).owners = s.owners :=
  List.map_congr_left fun _ hso => ownerOf_create hs id info hso

theorem owners_accept (hs : s.Stored) (query : Query) :
    (s.accept kind query).owners = s.owners ++ [kind.idOf query] := by
  have he : s.step kind (.accept query) = some (s.accept kind query) := rfl
  generalize s.accept kind query = s' at he ⊢
  cases step_turn he with
  | refused hq =>
      rw [Kind.idOf, hq]
      exact List.map_append
  | again hq ho =>
      obtain ⟨x, hx, rfl⟩ := hs.entry ho
      rw [Kind.idOf, hq]
      exact owners_setup hx
  | first hq =>
      rw [owners_setup List.getElem?_concat_length, owners_create hs, Kind.idOf, hq]
      rfl

/-- Later nobody else comes to own a websocket. -/
theorem owners_step {e : Event} (he : s.step kind e = some s')
    (hw : (∃ w data, e = .message w data) ∨ ∃ w, e = .socketClosed w) : s'.owners = s.owners := by
  cases step_turn he with
  | refused | again | first | check | clear | elapsed => simp at hw
  | unheard => rfl
  | @message w so o data =>
      obtain ⟨cells, sources, e, hk, -⟩ := message_frame kind s o data
      rw [e, owners, ownerOf_congr (s := s) hk]
      rfl
  | forgotten hso => exact Cells.map_set_of_some (f := s.ownerOf) hso (by rfl)
  | @socketClosed w so o hso =>
      obtain ⟨cells, e, hk⟩ := socketClosed_frame kind
        { s with sockets := s.sockets.set w { so with closed := true } } o
      rw [e, owners, ownerOf_congr (s := s) hk]
      exact Cells.map_set_of_some (f := s.ownerOf) hso (by rfl)

end Sources

end DemoApp.Observer
