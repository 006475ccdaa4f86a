import DemoApp.Observer.Store

/-!
# Observer — Ownership

Who holds the sources.  A source that is open is held by the entry of the id it was created for,
unless `clear` forgot that entry: `clear` disconnects the clients and empties the map, and closes
no source.

* `orphan_step`: a step makes an orphan of exactly the sources whose entries `clear` forgets, and
  an orphan stays one.
* `none_orphaned`: no source is orphaned if and only if `clear` was only ever called on an empty
  map.  This is about both twins.
* `clear_orphans`: a client comes back after `clear` and has two open sources.
-/

namespace DemoApp.Observer

/-- `idOf` reads the id off what a source was created with. -/
def Kind.Names {ι δ σ : Type} (kind : Kind ι δ σ) (idOf : ι → QueryValue) : Prop :=
  ∀ query id info, kind.observe query = some (id, info) → idOf info = id

namespace Sources
open Machine

variable {ι δ σ : Type} {kind : Kind ι δ σ} {s s' : Sources ι δ σ} {idOf : ι → QueryValue}

/-- The entry of `id` holds the source `n`. -/
def Holds (s : Sources ι δ σ) (id : QueryValue) (n : SourceRef) : Prop :=
  ∃ o x, s.entries.get id = some o ∧ s.observed[o]? = some x ∧ x.source = n

/-- Every source is closed, or is held by the entry of the id it was created for and by no
other. -/
def NoneOrphaned (idOf : ι → QueryValue) (s : Sources ι δ σ) : Prop :=
  ∀ (n : Nat) source, s.sources[n]? = some source → source.closed = true ∨
    (s.Holds (idOf source.info) n ∧ ∀ id, s.Holds id n → id = idOf source.info)

/-- No two open sources were created for one id. -/
def OneOpen (idOf : ι → QueryValue) (s : Sources ι δ σ) : Prop :=
  ∀ (n n' : Nat) source source', s.sources[n]? = some source → s.sources[n']? = some source' →
    source.closed = false → source'.closed = false → idOf source.info = idOf source'.info → n = n'

/-- `clear` is called when nothing is stored. -/
def clearsNothing (s : Sources ι δ σ) : Event → Bool
  | .clear => s.entries.size == 0
  | _      => true

/-! ### Orphans -/

/-- The source is open and no entry has its cell. -/
def Orphan (s : Sources ι δ σ) (n : SourceRef) : Prop :=
  s.sourceOpen n ∧ ∀ id, s.entries.get id ≠ some n

theorem sourceOpen_congr (h : s'.sources.map Source.closed = s.sources.map Source.closed)
    {n : SourceRef} : s'.sourceOpen n ↔ s.sourceOpen n :=
  ⟨sourceOpen_of_map h.symm, sourceOpen_of_map h⟩

theorem orphan_congr (hs : s'.sources.map Source.closed = s.sources.map Source.closed)
    (he : s'.entries = s.entries) (n : SourceRef) : s'.Orphan n ↔ s.Orphan n := by
  rw [Orphan, Orphan, sourceOpen_congr hs, he]

theorem orphan_create (kind : Kind ι δ σ) (h : s.Stored) {id : QueryValue} (info : ι)
    (hn : s.entries.get id = none) (n : SourceRef) :
    (s.create kind id info).Orphan n ↔ s.Orphan n := by
  have hget : ∀ id', (s.create kind id info).entries.get id' =
      if id' = id then some s.observed.length else s.entries.get id' := fun id' => by
    simp only [create, LiveMap.get_set]
  constructor
  · rintro ⟨⟨source, hsource, hopen⟩, hno⟩
    rcases Cells.concat_eq_some.mp hsource with hsource | ⟨rfl, -⟩
    · refine ⟨⟨source, hsource, hopen⟩, fun id' ho => hno id' ?_⟩
      rw [hget, if_neg (by rintro rfl; cases hn.symm.trans ho), ho]
    · -- the new source is held
      exact absurd (by rw [hget, if_pos rfl, h.paired]) (hno id)
  · rintro ⟨⟨source, hsource, hopen⟩, hno⟩
    refine ⟨⟨source, Cells.append_of_some hsource, hopen⟩, fun id' ho => ?_⟩
    rw [hget] at ho
    split at ho
    · cases ho
      exact Nat.lt_irrefl _ (h.paired ▸ Cells.lt_of_some hsource)
    · exact hno id' ho

theorem orphan_check (h : s.Stored) (n : SourceRef) : s.check.Orphan n ↔ s.Orphan n := by
  obtain ⟨c, ⟨entries, e, hentries⟩, hc⟩ := check_spec h
  rw [e]
  constructor
  · rintro ⟨⟨source, hsource, hopen⟩, hno⟩
    simp only [List.getElem?_mapIdx, Option.map_eq_some_iff] at hsource
    obtain ⟨source, hsource, rfl⟩ := hsource
    simp only [closeIf_closed, Bool.or_eq_false_iff] at hopen
    refine ⟨⟨source, hsource, hopen.1⟩, fun id ho => hno id ?_⟩
    exact (hentries id).trans (by simp [ho, hopen.2])
  · rintro ⟨⟨source, hsource, hopen⟩, hno⟩
    have hcn : c n = false := by
      by_contra hn
      obtain ⟨⟨id, ho⟩, -⟩ := (hc n).mp (by simpa using hn)
      exact hno id ho
    refine ⟨⟨source, by simp [List.getElem?_mapIdx, hsource, closeIf, hcn], hopen⟩,
      fun id ho => hno id ?_⟩
    have ho' := (hentries id).symm.trans ho
    rw [Option.filter_eq_some_iff] at ho'
    exact ho'.1

/-- **What a step orphans.** -/
theorem orphan_step (h : s.Stored) {e : Event} (he : s.step kind e = some s') (n : SourceRef) :
    s'.Orphan n ↔ s.Orphan n ∨ (e = .clear ∧ ∃ id, s.entries.get id = some n) := by
  have same : ∀ {e : Event}, e ≠ .clear → (s'.Orphan n ↔ s.Orphan n) →
      (s'.Orphan n ↔ s.Orphan n ∨ (e = .clear ∧ ∃ id, s.entries.get id = some n)) :=
    fun hne hiff => hiff.trans (by simp [hne])
  cases step_turn he with
  | refused | again | unheard | forgotten | elapsed =>
      exact same (by simp) (orphan_congr rfl rfl n)
  | first _ hn =>
      exact same (by simp) ((orphan_congr rfl rfl n).trans (orphan_create kind h _ hn n))
  | @message w so o data =>
      obtain ⟨cells, sources, e, -, -, hclosed, -⟩ := message_frame kind s o data
      refine same (by simp) (orphan_congr ?_ ?_ n)
      · rw [e]; exact hclosed
      · rw [e]
  | socketClosed =>
      refine same (by simp) ?_
      obtain ⟨cells, e, -⟩ := socketClosed_frame kind { s with sockets := _ } _
      rw [e]
      exact orphan_congr rfl rfl n
  | check => exact same (by simp) (orphan_check h n)
  | clear =>
      obtain ⟨cells, e, -⟩ := clear_frame kind s
      have hiff : (s.clear kind).Orphan n ↔ s.sourceOpen n := by
        rw [e]
        exact and_iff_left fun id => by simp
      rw [hiff]
      constructor
      · intro hopen
        by_cases hid : ∃ id, s.entries.get id = some n
        · exact .inr ⟨rfl, hid⟩
        · exact .inl ⟨hopen, fun id ho => hid ⟨id, ho⟩⟩
      · rintro (ho | ⟨-, id, ho⟩)
        · exact ho.1
        · exact h.opened ho

/-- There is no orphan if and only if `clear` forgot nothing. -/
theorem orphans_of_run {max : Int} {now : Nat} {es : List Event}
    (hx : exec (step kind) (.new max now) es = some s) :
    (∀ n, ¬ s.Orphan n) ↔
      Along (step kind) (fun s e => s.clearsNothing e = true) (.new max now) es := by
  refine exec_history (I := fun es s => (∀ n, ¬ s.Orphan n) ↔
    Along (step kind) (fun s e => s.clearsNothing e = true) (.new max now) es) ?_
    (fun es s e s' hx ih he => ?_) hx
  · simp [Along, Orphan, sourceOpen, new]
  · have h := stored_of_run hx
    rw [along_snoc hx, ← ih]
    simp only [orphan_step h he, not_or, not_and, not_exists, forall_and]
    refine and_congr_right fun _ => ?_
    cases e with
    | clear =>
        simp only [clearsNothing, beq_iff_eq]
        constructor
        · intro hno
          by_contra hz
          obtain ⟨id, o, ho⟩ := LiveMap.exists_of_size (Nat.pos_of_ne_zero hz)
          exact hno o trivial id ho
        · intro hz n _ id ho
          exact absurd hz (Nat.ne_of_gt (LiveMap.size_of_get ho))
    | accept | message | socketClosed | check | elapsed => simp [clearsNothing]

/-! ### Under the id it was created for -/

/-- A source and its cell have the id that the source was created for. -/
def Named (idOf : ι → QueryValue) (s : Sources ι δ σ) : Prop :=
  ∀ (n : Nat) source x, s.sources[n]? = some source → s.observed[n]? = some x →
    idOf source.info = x.id

theorem Named.congr (h : s.Named idOf)
    (hk : s'.observed.map Observed.key = s.observed.map Observed.key)
    (hi : s'.sources.map Source.info = s.sources.map Source.info) : s'.Named idOf := by
  intro n source x hsource hx
  obtain ⟨y, hy, e⟩ := Cells.some_of_map hk.symm hx
  obtain ⟨source', hsource', e'⟩ := Cells.some_of_map hi.symm hsource
  rw [← e', h n source' y hsource' hy]
  exact congrArg Prod.fst e

theorem Named.step (hid : kind.Names idOf) (hs : s.Stored) (h : s.Named idOf) {e : Event}
    (he : s.step kind e = some s') : s'.Named idOf := by
  cases step_turn he with
  | refused | unheard | forgotten | elapsed => exact h
  | again => exact h.congr (Cells.map_modify (fun _ => by rfl) _ _) rfl
  | @first query id info hq =>
      have h' : (s.create kind id info).Named idOf := by
        intro n source x hsource hx
        rcases Cells.concat_eq_some.mp hsource with hsource | ⟨rfl, rfl⟩ <;>
          rcases Cells.concat_eq_some.mp hx with hx | ⟨e, rfl⟩
        · exact h _ _ _ hsource hx
        · exact absurd (Cells.lt_of_some hsource) (by rw [e, hs.paired]; exact Nat.lt_irrefl _)
        · exact absurd (Cells.lt_of_some hx) (by rw [hs.paired]; exact Nat.lt_irrefl _)
        · exact hid query id info hq
      exact h'.congr (Cells.map_modify (fun _ => by rfl) _ _) rfl
  | @message w so o data =>
      obtain ⟨cells, sources, e, hk, -, -, hi⟩ := message_frame kind s o data
      rw [e]
      exact h.congr hk hi
  | socketClosed =>
      obtain ⟨cells, e, hk⟩ := socketClosed_frame kind { s with sockets := _ } _
      rw [e]
      exact h.congr hk rfl
  | check =>
      obtain ⟨c, ⟨entries, e, -⟩, -⟩ := check_spec hs
      rw [e]
      exact h.congr rfl (Cells.map_mapIdx (fun n => closeIf_info (c n)) _)
  | clear =>
      obtain ⟨cells, e, hk⟩ := clear_frame kind s
      rw [e]
      exact h.congr hk rfl

theorem named_of_run (hid : kind.Names idOf) {max : Int} {now : Nat} {es : List Event}
    (hx : exec (step kind) (.new max now) es = some s) : s.Named idOf := by
  have h : s.Stored ∧ s.Named idOf :=
    exec_invariant_of_step (I := fun s : Sources ι δ σ => s.Stored ∧ s.Named idOf)
      (fun _ _ _ h he => ⟨h.1.step he, h.2.step hid h.1 he⟩)
      ⟨stored_new max now, fun n _ _ hn => by simp [new] at hn⟩ hx
  exact h.2

/-- A source is held by the entry that has its cell. -/
theorem holds_iff (h : s.Stored) {id : QueryValue} {n : SourceRef} :
    s.Holds id n ↔ s.entries.get id = some n := by
  constructor
  · rintro ⟨o, x, ho, hx, rfl⟩
    rw [h.source hx]
    exact ho
  · intro ho
    obtain ⟨x, hx, -⟩ := h.entry ho
    exact ⟨n, x, ho, hx, h.source hx⟩

theorem noneOrphaned_iff (h : s.Stored) (hn : s.Named idOf) :
    s.NoneOrphaned idOf ↔ ∀ n, ¬ s.Orphan n := by
  constructor
  · rintro hno n ⟨⟨source, hsource, hopen⟩, hfree⟩
    rcases hno n source hsource with hc | ⟨hh, -⟩
    · cases hc.symm.trans hopen
    · exact hfree _ ((holds_iff h).mp hh)
  · intro hno n source hsource
    by_cases hopen : source.closed = true
    · exact .inl hopen
    · right
      have hheld : ∃ id, s.entries.get id = some n := by
        by_contra hfree
        exact hno n ⟨⟨source, hsource, by simpa using hopen⟩, fun id ho => hfree ⟨id, ho⟩⟩
      have hname : ∀ {id}, s.entries.get id = some n → id = idOf source.info := by
        intro id ho
        obtain ⟨x, hx, rfl⟩ := h.entry ho
        exact (hn n source x hsource hx).symm
      obtain ⟨id, ho⟩ := hheld
      exact ⟨(holds_iff h).mpr (hname ho ▸ ho), fun id' ho' => hname ((holds_iff h).mp ho')⟩

/-- Where no source is orphaned, an id has at most one that is open. -/
theorem NoneOrphaned.oneOpen (hs : s.Stored) (h : s.NoneOrphaned idOf) : s.OneOpen idOf := by
  intro n n' source source' hsource hsource' hopen hopen' e
  have held : ∀ {m : Nat} {x : Source ι σ}, s.sources[m]? = some x → x.closed = false →
      s.entries.get (idOf x.info) = some m := by
    intro m x hx ho
    rcases h m x hx with hc | ⟨hh, -⟩
    · cases hc.symm.trans ho
    · exact (holds_iff hs).mp hh
  have hn := held hsource hopen
  have hn' := held hsource' hopen'
  rw [e, hn'] at hn
  exact (Option.some.inj hn).symm

theorem noneOrphaned_of_run (hid : kind.Names idOf) {max : Int} {now : Nat} {es : List Event}
    (hx : exec (step kind) (.new max now) es = some s) :
    (s.NoneOrphaned idOf ∧ s.OneOpen idOf) ↔
      Along (step kind) (fun s e => s.clearsNothing e = true) (.new max now) es := by
  have hs := stored_of_run hx
  rw [← orphans_of_run hx, ← noneOrphaned_iff hs (named_of_run hid hx)]
  exact and_iff_left_of_imp fun h => h.oneOpen hs

/-! ### The twins -/

theorem names_clients {newDecoder : δ} {decodeFromBase64 : δ → String → δ × Option σ} :
    (observedClients newDecoder decodeFromBase64).Names ClientSourceConfig.clientId := by
  intro query id info h
  simp only [observedClients, Option.bind_eq_bind, Option.bind_eq_some_iff] at h
  obtain ⟨clientId, -, roomId, -, callId, -, h⟩ := h
  cases h
  rfl

theorem names_sfus {newDecoder : δ} {decodeFromBase64 : δ → String → δ × Option σ} :
    (observedSfus newDecoder decodeFromBase64).Names SfuSourceConfig.sfuId := by
  intro query id info h
  simp only [observedSfus, Option.bind_eq_bind, Option.bind_eq_some_iff] at h
  obtain ⟨sfuId, -, h⟩ := h
  cases h
  rfl

/-- **No source is orphaned**, in every run of the clients and of the SFUs, if and only if `clear`
was only called when nothing was stored. -/
theorem none_orphaned {newDecoder : δ} {decodeFromBase64 : δ → String → δ × Option σ} {max : Int}
    {now : Nat} {es : List Event} :
    (∀ s, exec (step (observedClients newDecoder decodeFromBase64)) (.new max now) es = some s →
      ((s.NoneOrphaned ClientSourceConfig.clientId ∧ s.OneOpen ClientSourceConfig.clientId) ↔
        Along (step (observedClients newDecoder decodeFromBase64))
          (fun s e => s.clearsNothing e = true) (.new max now) es)) ∧
    ∀ s, exec (step (observedSfus newDecoder decodeFromBase64)) (.new max now) es = some s →
      ((s.NoneOrphaned SfuSourceConfig.sfuId ∧ s.OneOpen SfuSourceConfig.sfuId) ↔
        Along (step (observedSfus newDecoder decodeFromBase64))
          (fun s e => s.clearsNothing e = true) (.new max now) es) :=
  ⟨fun _ hx => noneOrphaned_of_run names_clients hx, fun _ hx => noneOrphaned_of_run names_sfus hx⟩

/-- A client expires, and comes back. -/
def expiresOnce (query : Query) : List Event :=
  [.clear, .accept query, .socketClosed 0, .elapsed 5001, .check, .accept query]

theorem none_orphaned_expiresOnce :
    (∃ s, exec (step (observedClients () plain)) (new 5000 1) (expiresOnce someClient) = some s ∧
      s.NoneOrphaned ClientSourceConfig.clientId ∧ s.sources.length = 2) ∧
    ∃ s, exec (step (observedSfus () plain)) (new 5000 1) (expiresOnce someSfu) = some s ∧
      s.NoneOrphaned SfuSourceConfig.sfuId ∧ s.sources.length = 2 := by
  have hclients : exec (step (observedClients () plain)) (new 5000 1) (expiresOnce someClient) =
    some _ := rfl
  have hsfus : exec (step (observedSfus () plain)) (new 5000 1) (expiresOnce someSfu) =
    some _ := rfl
  exact ⟨⟨_, hclients, ((none_orphaned.1 _ hclients).mpr (by decide)).1, rfl⟩, _, hsfus,
    ((none_orphaned.2 _ hsfus).mpr (by decide)).1, rfl⟩

/-- **`clear` orphans a source**, and the client that comes back has two open ones. -/
theorem clear_orphans :
    (∃ s, exec (step (observedClients () plain)) (new 5000 1)
        [.accept someClient, .clear, .accept someClient] = some s ∧
      ¬ s.NoneOrphaned ClientSourceConfig.clientId ∧ ¬ s.OneOpen ClientSourceConfig.clientId) ∧
    ∃ s, exec (step (observedSfus () plain)) (new 5000 1)
        [.accept someSfu, .clear, .accept someSfu] = some s ∧
      ¬ s.NoneOrphaned SfuSourceConfig.sfuId ∧ ¬ s.OneOpen SfuSourceConfig.sfuId := by
  refine ⟨⟨_, rfl, fun h => ?_, fun h => ?_⟩, _, rfl, fun h => ?_, fun h => ?_⟩
  · rcases h 0 _ rfl with hc | ⟨⟨o, x, ho, hx, e⟩, -⟩
    · cases hc
    · cases ho
      cases hx
      cases e
  · exact absurd (h 0 1 _ _ rfl rfl rfl rfl rfl) (by decide)
  · rcases h 0 _ rfl with hc | ⟨⟨o, x, ho, hx, e⟩, -⟩
    · cases hc
    · cases ho
      cases hx
      cases e
  · exact absurd (h 0 1 _ _ rfl rfl rfl rfl rfl) (by decide)

end Sources

end DemoApp.Observer
