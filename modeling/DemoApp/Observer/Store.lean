import DemoApp.Support.Cells
import DemoApp.Support.Machine
import DemoApp.Observer.Sources

/-!
# Observer — Store

What is stored, whatever happens.  `Turn` lists what a step can do and `step_turn` is the
inversion of `step`.

* `Stored`: an entry has a cell of its own under its id, whose source is open; it holds in every
  run (`stored_of_run`), with late closes of websockets and with `clear`.
* `check_spec`: `check` drops exactly the entries that are overdue and closes exactly their
  sources.
-/

namespace DemoApp.Observer

theorem Source.accept_closed {ι σ : Type} (source : Source ι σ) (sample : σ) :
    (source.accept sample).closed = source.closed := by
  rw [accept]
  split <;> rfl

theorem Source.accept_closes {ι σ : Type} (source : Source ι σ) (sample : σ) :
    (source.accept sample).closes = source.closes := by
  rw [accept]
  split <;> rfl

theorem Source.accept_info {ι σ : Type} (source : Source ι σ) (sample : σ) :
    (source.accept sample).info = source.info := by
  rw [accept]
  split <;> rfl

/-- What never changes of a cell. -/
def Observed.key {δ : Type} (x : Observed δ) : QueryValue × SourceRef := (x.id, x.source)

namespace Sources
open Machine

variable {ι δ σ : Type} {kind : Kind ι δ σ} {s s' : Sources ι δ σ}

/-! ### What a step does -/

/-- A new client, with a new source. -/
def create (kind : Kind ι δ σ) (s : Sources ι δ σ) (id : QueryValue) (info : ι) : Sources ι δ σ :=
  { s with
    sources := s.sources ++ [{ info }]
    observed := s.observed ++ [{ id, source := s.sources.length, decoder := kind.newDecoder }]
    entries := s.entries.set id s.observed.length }

/-- One constructor for each way a step can go. -/
inductive Turn (kind : Kind ι δ σ) (s : Sources ι δ σ) : Event → Sources ι δ σ → Prop where
  | refused {query : Query} :
      kind.observe query = none →
      Turn kind s (.accept query)
        { s with sockets := s.sockets ++ [{ refused := some kind.refusal }] }
  | again {query : Query} {id : QueryValue} {info : ι} {o : ObservedRef} :
      kind.observe query = some (id, info) → s.entries.get id = some o →
      Turn kind s (.accept query) (s.setup o)
  | first {query : Query} {id : QueryValue} {info : ι} :
      kind.observe query = some (id, info) → s.entries.get id = none →
      Turn kind s (.accept query) ((s.create kind id info).setup s.observed.length)
  | unheard {w : SocketRef} {so : Socket} {data : String} :
      s.sockets[w]? = some so → so.closed = false → so.observed = none →
      Turn kind s (.message w data) s
  | message {w : SocketRef} {so : Socket} {o : ObservedRef} {data : String} :
      s.sockets[w]? = some so → so.closed = false → so.observed = some o →
      Turn kind s (.message w data) (s.message kind o data)
  | forgotten {w : SocketRef} {so : Socket} :
      s.sockets[w]? = some so → so.closed = false → so.observed = none →
      Turn kind s (.socketClosed w)
        { s with sockets := s.sockets.set w { so with closed := true } }
  | socketClosed {w : SocketRef} {so : Socket} {o : ObservedRef} :
      s.sockets[w]? = some so → so.closed = false → so.observed = some o →
      Turn kind s (.socketClosed w)
        (socketClosed kind { s with sockets := s.sockets.set w { so with closed := true } } o)
  | check : Turn kind s .check s.check
  | clear : Turn kind s .clear (s.clear kind)
  | elapsed {ms : Nat} : Turn kind s (.elapsed ms) { s with now := s.now + ms }

theorem step_turn {e : Event} (he : s.step kind e = some s') : Turn kind s e s' := by
  cases e with
  | accept query =>
      cases he
      rw [accept]
      split
      · next hq => exact .refused hq
      · next hq =>
          split
          · next ho => exact .again hq ho
          · next hn => exact .first hq hn
  | message w data =>
      simp only [step] at he
      split at he
      · next hw => cases he; exact .message hw rfl rfl
      · next hw => cases he; exact .unheard hw rfl rfl
      · cases he
  | socketClosed w =>
      simp only [step] at he
      split at he
      · next hw => cases he; exact .socketClosed hw rfl rfl
      · next hw => cases he; exact .forgotten hw rfl rfl
      · cases he
  | check => cases he; exact .check
  | clear => cases he; exact .clear
  | elapsed ms => cases he; exact .elapsed

/-! ### Cells keep their keys -/

/-- `_disconnect` changes no key, and nothing but cells. -/
theorem disconnect_frame (kind : Kind ι δ σ) (s : Sources ι δ σ) (id : QueryValue) :
    ∃ cells, s.disconnect kind id = { s with observed := cells } ∧
      cells.map Observed.key = s.observed.map Observed.key := by
  rw [disconnect]
  split
  · exact ⟨s.observed, rfl, rfl⟩
  · refine ⟨_, rfl, Cells.map_modify (fun x => ?_) _ _⟩
    split <;> rfl

theorem disconnect_foldl_frame (kind : Kind ι δ σ) (l : List QueryValue) (s : Sources ι δ σ) :
    ∃ cells, l.foldl (disconnect kind) s = { s with observed := cells } ∧
      cells.map Observed.key = s.observed.map Observed.key := by
  induction l generalizing s with
  | nil => exact ⟨s.observed, rfl, rfl⟩
  | cons id l ih =>
      obtain ⟨cells, e, hk⟩ := disconnect_frame kind s id
      obtain ⟨cells', e', hk'⟩ := ih (s.disconnect kind id)
      refine ⟨cells', ?_, ?_⟩
      · rw [List.foldl_cons, e', e]
      · rw [hk', e]
        exact hk

theorem socketClosed_frame (kind : Kind ι δ σ) (s : Sources ι δ σ) (o : ObservedRef) :
    ∃ cells, s.socketClosed kind o = { s with observed := cells } ∧
      cells.map Observed.key = s.observed.map Observed.key := by
  rw [socketClosed]
  split
  · exact ⟨s.observed, rfl, rfl⟩
  · exact disconnect_frame kind s _

theorem clear_frame (kind : Kind ι δ σ) (s : Sources ι δ σ) :
    ∃ cells, s.clear kind = { s with observed := cells, entries := .empty } ∧
      cells.map Observed.key = s.observed.map Observed.key := by
  obtain ⟨cells, e, hk⟩ := disconnect_foldl_frame kind s.entries.keys s
  exact ⟨cells, by rw [clear, e], hk⟩

/-! ### What is stored -/

/-- The source `n` is there, and open. -/
def sourceOpen (s : Sources ι δ σ) (n : SourceRef) : Prop :=
  ∃ source, s.sources[n]? = some source ∧ source.closed = false

/-- A cell was made together with its source, and an entry has a cell of its id with an open
source. -/
structure Stored (s : Sources ι δ σ) : Prop where
  paired : s.observed.length = s.sources.length
  source : ∀ {o : Nat} {x}, s.observed[o]? = some x → x.source = o
  entry : ∀ {id o}, s.entries.get id = some o → ∃ x, s.observed[o]? = some x ∧ x.id = id
  opened : ∀ {id o}, s.entries.get id = some o → s.sourceOpen o
  socket : ∀ {w : Nat} {so o}, s.sockets[w]? = some so → so.observed = some o →
    o < s.observed.length

namespace Stored

/-- Two entries of one cell are one entry. -/
theorem inj (h : s.Stored) {id id' : QueryValue} {o : ObservedRef} (ho : s.entries.get id = some o)
    (ho' : s.entries.get id' = some o) : id = id' := by
  obtain ⟨x, hx, rfl⟩ := h.entry ho
  obtain ⟨y, hy, rfl⟩ := h.entry ho'
  cases hx.symm.trans hy
  rfl

/-- The cells keep their keys and the stored sources stay open. -/
theorem congr (h : s.Stored) (hk : s'.observed.map Observed.key = s.observed.map Observed.key)
    (hlen : s'.sources.length = s.sources.length)
    (he : ∀ {id o}, s'.entries.get id = some o → s.entries.get id = some o)
    (hopen : ∀ {id o}, s'.entries.get id = some o → s.sourceOpen o → s'.sourceOpen o)
    (hs : ∀ {w : Nat} {so o}, s'.sockets[w]? = some so → so.observed = some o →
      o < s.observed.length) : s'.Stored := by
  have hl : s'.observed.length = s.observed.length := by
    simpa using congrArg List.length hk
  constructor
  · exact hl.trans (h.paired.trans hlen.symm)
  · intro o x hx
    obtain ⟨y, hy, e⟩ := Cells.some_of_map hk.symm hx
    exact (congrArg Prod.snd e).symm.trans (h.source hy)
  · intro id o ho
    obtain ⟨x, hx, hid⟩ := h.entry (he ho)
    obtain ⟨y, hy, e⟩ := Cells.some_of_map hk hx
    exact ⟨y, hy, (congrArg Prod.fst e).trans hid⟩
  · exact fun ho => hopen ho (h.opened (he ho))
  · exact fun hw ho => Nat.lt_of_lt_of_eq (hs hw ho) hl.symm

theorem create (h : s.Stored) {id : QueryValue} (info : ι) : (s.create kind id info).Stored := by
  constructor
  · simp [Sources.create, h.paired]
  · intro o x hx
    rcases Cells.concat_eq_some.mp hx with hx | ⟨rfl, rfl⟩
    · exact h.source hx
    · exact h.paired.symm
  · intro id' o ho
    simp only [Sources.create, LiveMap.get_set] at ho
    split at ho
    · next e =>
        cases ho
        exact ⟨_, List.getElem?_concat_length, e.symm⟩
    · obtain ⟨x, hx, hid⟩ := h.entry ho
      exact ⟨x, Cells.append_of_some hx, hid⟩
  · intro id' o ho
    simp only [Sources.create, LiveMap.get_set] at ho
    split at ho
    · cases ho
      exact ⟨_, by rw [h.paired]; exact List.getElem?_concat_length, rfl⟩
    · obtain ⟨source, hsource, hopen⟩ := h.opened ho
      exact ⟨source, Cells.append_of_some hsource, hopen⟩
  · intro w so o hw ho
    have hlt := h.socket hw ho
    exact Nat.lt_of_lt_of_eq (Nat.lt_succ_of_lt hlt) (by simp [Sources.create])

theorem setup (h : s.Stored) {o : ObservedRef} (ho : o < s.observed.length) :
    (s.setup o).Stored := by
  refine h.congr (Cells.map_modify (fun _ => by rfl) _ _) rfl id (fun _ h => h) fun hw hso => ?_
  rcases Cells.concat_eq_some.mp hw with hw | ⟨-, rfl⟩
  · exact h.socket hw hso
  · cases hso
    exact ho

end Stored

/-! ### `check` -/

/-- The cell has been disconnected for longer than it may be. -/
def overdue (s : Sources ι δ σ) (o : ObservedRef) : Bool := (s.observed[o]?).any s.expired

/-- Close a source that is open if `b` says so. -/
def closeIf (b : Bool) (source : Source ι σ) : Source ι σ :=
  if b && !source.closed then source.close else source

@[simp] theorem closeIf_closed (b : Bool) (source : Source ι σ) :
    (closeIf b source).closed = (source.closed || b) := by
  cases b <;> cases h : source.closed <;> simp [closeIf, Source.close, h]

@[simp] theorem closeIf_closes (b : Bool) (source : Source ι σ) :
    (closeIf b source).closes = source.closes + (b && !source.closed).toNat := by
  rw [closeIf]
  cases b && !source.closed <;> rfl

@[simp] theorem closeIf_accepted (b : Bool) (source : Source ι σ) :
    (closeIf b source).accepted = source.accepted := by
  rw [closeIf]
  split <;> rfl

@[simp] theorem closeIf_late (b : Bool) (source : Source ι σ) :
    (closeIf b source).late = source.late := by
  rw [closeIf]
  split <;> rfl

@[simp] theorem closeIf_info (b : Bool) (source : Source ι σ) :
    (closeIf b source).info = source.info := by
  rw [closeIf]
  split <;> rfl

/-- From `s` to `s'` the entries of the cells that `c` holds of were dropped, and their sources
closed. -/
def Swept (s s' : Sources ι δ σ) (c : ObservedRef → Bool) : Prop :=
  ∃ entries, s' = { s with entries, sources := s.sources.mapIdx fun n => closeIf (c n) } ∧
    ∀ id, entries.get id = (s.entries.get id).filter fun o => !c o

/-- One turn of the loop of `check`, at the cell `o` of the entry `x.id`. -/
theorem expire_swept (h : s.Stored) {o : ObservedRef} {x : Observed δ}
    (hx : s.observed[o]? = some x) (ho : s.entries.get x.id = some o) {c : ObservedRef → Bool}
    (hc : Swept s s' c) : Swept s (s'.expire o) fun n => c n || (n == o && s.overdue n) := by
  obtain ⟨entries, rfl, hentries⟩ := hc
  have hd : s.overdue o = s.expired x := by simp [overdue, hx]
  by_cases he : s.expired x = true ∧ c o = false
  · -- it is dropped, and its source is closed
    obtain ⟨he, hco⟩ := he
    have hget : entries.get x.id = some o := by simp [hentries, ho, hco, Option.filter_some]
    have he' : ∀ sources : List (Source ι σ), expired { s with entries, sources } x = true :=
      fun _ => he
    refine ⟨entries.delete x.id, ?_, fun id => ?_⟩
    · simp only [expire, hx, he', if_true, remove, hget, h.source hx, Sources.mk.injEq, true_and,
        and_true]
      refine List.ext_getElem? fun n => ?_
      rw [List.getElem?_modify, List.getElem?_mapIdx, List.getElem?_mapIdx]
      by_cases e : o = n
      · subst e
        cases s.sources[o]? with
        | none => simp
        | some source =>
            cases hclosed : source.closed <;> simp [closeIf, hd, he, hco, hclosed]
      · cases s.sources[n]? <;> simp [e, beq_false_of_ne (Ne.symm e)]
    · rw [LiveMap.get_delete, hentries]
      split
      · next e => subst e; simp [ho, hd, he, Option.filter_some]
      · next e =>
          cases hq : s.entries.get id with
          | none => rfl
          | some q =>
              have hne : q ≠ o := fun e' => e (h.inj hq (e' ▸ ho))
              simp [Option.filter_some, beq_false_of_ne hne]
  · -- nothing happens
    have hsame : (fun n => c n || (n == o && s.overdue n)) = c := by
      funext n
      by_cases e : n = o
      · subst e
        rw [hd]
        simp only [not_and, Bool.not_eq_false] at he
        cases hx' : s.expired x with
        | false => simp
        | true => simp [he hx']
      · simp [e]
    rw [hsame]
    refine ⟨entries, ?_, hentries⟩
    simp only [expire, hx]
    split
    · next he' =>
        have hco : c o = true := by
          by_contra hn
          exact he ⟨he', by simpa using hn⟩
        simp only [remove, hentries, ho, hco, Option.filter_some]
        rfl
    · rfl

/-- **`check` drops exactly the overdue entries** and closes exactly their sources. -/
theorem check_spec (h : s.Stored) : ∃ c, Swept s s.check c ∧
    ∀ o, c o = true ↔ (∃ id, s.entries.get id = some o) ∧ s.overdue o = true := by
  have loop : ∀ (l : List ObservedRef) (s' : Sources ι δ σ) (c : ObservedRef → Bool),
      (∀ o ∈ l, o ∈ s.entries.values) → Swept s s' c →
      Swept s (l.foldl expire s') fun o => c o || (l.contains o && s.overdue o) := by
    intro l
    induction l with
    | nil => intro s' c _ hc; simpa using hc
    | cons o l ih =>
        intro s' c hl hc
        obtain ⟨id, hid⟩ := LiveMap.mem_values.mp (hl o List.mem_cons_self)
        obtain ⟨x, hx, rfl⟩ := h.entry hid
        have h' := ih _ _ (fun q hq => hl q (List.mem_cons_of_mem o hq))
          (expire_swept h hx hid hc)
        have e : (fun n => c n || ((o :: l).contains n && s.overdue n)) =
            fun n => (c n || (n == o && s.overdue n)) || (l.contains n && s.overdue n) := by
          funext n
          rw [List.contains_cons, Bool.and_or_distrib_right, Bool.or_assoc]
        rw [e]
        exact h'
  have h₀ : Swept s s fun _ => false := by
    refine ⟨s.entries, ?_, fun id => by cases s.entries.get id <;> rfl⟩
    have e : (s.sources.mapIdx fun _ => closeIf false) = s.sources := by
      refine List.ext_getElem? fun n => ?_
      rw [List.getElem?_mapIdx]
      cases s.sources[n]? <;> simp [closeIf]
    rw [e]
  refine ⟨_, loop s.entries.values s _ (fun _ h => h) h₀, fun o => ?_⟩
  rw [← LiveMap.mem_values]
  simp

/-! ### Every run -/

/-- A message changes the state of one decoder and hands at most one sample to one source. -/
theorem message_frame (kind : Kind ι δ σ) (s : Sources ι δ σ) (o : ObservedRef) (data : String) :
    ∃ cells sources, s.message kind o data = { s with observed := cells, sources } ∧
      cells.map Observed.key = s.observed.map Observed.key ∧
      cells.map Observed.disconnected = s.observed.map Observed.disconnected ∧
      sources.map Source.closed = s.sources.map Source.closed ∧
      sources.map Source.info = s.sources.map Source.info := by
  rw [message]
  split
  · exact ⟨s.observed, s.sources, rfl, rfl, rfl, rfl, rfl⟩
  · refine ⟨_, _, rfl, Cells.map_modify (fun _ => by rfl) _ _,
      Cells.map_modify (fun _ => by rfl) _ _, ?_⟩
    split
    · exact ⟨Cells.map_modify (fun source => source.accept_closed _) _ _,
        Cells.map_modify (fun source => source.accept_info _) _ _⟩
    · exact ⟨rfl, rfl⟩

/-- An open websocket was there before, or is the new one of an `accept`, with the cell that is
stored under its id or a new one. -/
theorem socket_back (hs : s.Stored) {e : Event} (he : s.step kind e = some s') {w : Nat}
    {so : Socket} (hw : s'.sockets[w]? = some so) (ho : so.closed = false) :
    s.sockets[w]? = some so ∨ ∃ query, e = .accept query ∧ w = s.sockets.length ∧
      ∀ o, so.observed = some o → ∃ id info, kind.observe query = some (id, info) ∧
        (s.entries.get id = some o ∨ s.entries.get id = none ∧ o = s.observed.length) := by
  have closes : ∀ {w₀ : SocketRef} {so₀ : Socket}, so₀.closed = true →
      (s.sockets.set w₀ so₀)[w]? = some so → s.sockets[w]? = some so := by
    intro w₀ so₀ hc hw
    rcases Cells.set_eq_some.mp hw with ⟨-, -, rfl⟩ | ⟨-, hw⟩
    · cases hc.symm.trans ho
    · exact hw
  cases step_turn he with
  | @refused query =>
      rcases Cells.concat_eq_some.mp hw with hw | ⟨rfl, rfl⟩
      · exact .inl hw
      · exact .inr ⟨query, rfl, rfl, fun o hso => by cases hso⟩
  | @again query id info o hq hget =>
      rcases Cells.concat_eq_some.mp hw with hw | ⟨rfl, rfl⟩
      · exact .inl hw
      · exact .inr ⟨query, rfl, rfl, fun o hso => by cases hso; exact ⟨id, info, hq, .inl hget⟩⟩
  | @first query id info hq hn =>
      rcases Cells.concat_eq_some.mp hw with hw | ⟨rfl, rfl⟩
      · exact .inl hw
      · refine .inr ⟨query, rfl, rfl, fun o hso => ?_⟩
        cases hso
        exact ⟨id, info, hq, .inr ⟨hn, rfl⟩⟩
  | unheard | elapsed => exact .inl hw
  | @message w₀ so₀ o data =>
      obtain ⟨cells, sources, e, -⟩ := message_frame kind s o data
      rw [e] at hw
      exact .inl hw
  | forgotten => exact .inl (closes rfl hw)
  | socketClosed =>
      obtain ⟨cells, e, -⟩ := socketClosed_frame kind { s with sockets := _ } _
      rw [e] at hw
      exact .inl (closes rfl hw)
  | check =>
      obtain ⟨c, ⟨entries, e, -⟩, -⟩ := check_spec hs
      rw [e] at hw
      exact .inl hw
  | clear =>
      obtain ⟨cells, e, -⟩ := clear_frame kind s
      rw [e] at hw
      exact .inl hw

theorem sourceOpen_of_map (h : s'.sources.map Source.closed = s.sources.map Source.closed)
    {n : SourceRef} (hn : s.sourceOpen n) : s'.sourceOpen n := by
  obtain ⟨source, hsource, hopen⟩ := hn
  obtain ⟨source', hsource', e⟩ := Cells.some_of_map h hsource
  exact ⟨source', hsource', e.trans hopen⟩

namespace Stored

/-- A websocket is marked as closed. -/
theorem closeSocket (h : s.Stored) {w : Nat} {so so' : Socket} (hw : s.sockets[w]? = some so)
    (hso : so'.observed = so.observed) : Stored { s with sockets := s.sockets.set w so' } := by
  refine h.congr rfl rfl id (fun _ h => h) fun hw' ho => ?_
  rcases Cells.set_eq_some.mp hw' with ⟨-, -, rfl⟩ | ⟨-, hw'⟩
  · exact h.socket hw (hso.symm.trans ho)
  · exact h.socket hw' ho

theorem check (h : s.Stored) : s.check.Stored := by
  obtain ⟨c, ⟨entries, e, hentries⟩, -⟩ := check_spec h
  have back : ∀ {id o}, entries.get id = some o → s.entries.get id = some o ∧ c o = false := by
    intro id o ho
    rw [hentries, Option.filter_eq_some_iff] at ho
    simpa using ho
  rw [e]
  refine h.congr rfl List.length_mapIdx (fun ho => (back ho).1) ?_ h.socket
  rintro id o ho ⟨source, hsource, hopen⟩
  exact ⟨source, by simp [List.getElem?_mapIdx, hsource, closeIf, (back ho).2], hopen⟩

/-- **A step keeps what is stored.** -/
theorem step (h : s.Stored) {e : Event} (he : s.step kind e = some s') : s'.Stored := by
  cases step_turn he with
  | refused =>
      refine h.congr rfl rfl id (fun _ h => h) fun hw ho => ?_
      rcases Cells.concat_eq_some.mp hw with hw | ⟨-, rfl⟩
      · exact h.socket hw ho
      · cases ho
  | again _ ho =>
      obtain ⟨x, hx, -⟩ := h.entry ho
      exact h.setup (Cells.lt_of_some hx)
  | first => exact (h.create _).setup (by simp [Sources.create])
  | unheard => exact h
  | @message w so o data hw hc ho =>
      obtain ⟨cells, sources, e, hk, -, hclosed, -⟩ := message_frame kind s o data
      rw [e]
      exact h.congr hk (by simpa using congrArg List.length hclosed) (fun ho => ho)
        (fun _ hopen => sourceOpen_of_map hclosed hopen) h.socket
  | forgotten hw => exact h.closeSocket hw rfl
  | @socketClosed w so o hw =>
      have h' : Stored { s with sockets := s.sockets.set w { so with closed := true } } :=
        h.closeSocket hw rfl
      obtain ⟨cells, e, hk⟩ := socketClosed_frame kind { s with sockets := _ } o
      rw [e]
      exact h'.congr hk rfl (fun ho => ho) (fun _ h => h) h'.socket
  | check => exact h.check
  | clear =>
      obtain ⟨cells, e, hk⟩ := clear_frame kind s
      rw [e]
      exact h.congr hk rfl (fun ho => by cases ho) (fun ho => by cases ho) h.socket
  | elapsed => exact h.congr rfl rfl id (fun _ h => h) h.socket

end Stored

theorem stored_new (max : Int) (now : Nat) : (new max now : Sources ι δ σ).Stored :=
  ⟨rfl, by simp [new], by simp [new], by simp [new], by simp [new]⟩

theorem stored_of_run {max : Int} {now : Nat} {es : List Event}
    (hx : exec (step kind) (.new max now) es = some s) : s.Stored :=
  exec_invariant_of_step (fun _ _ _ h he => h.step he) (stored_new max now) hx

end Sources

end DemoApp.Observer
