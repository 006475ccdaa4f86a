import DemoApp.Common.Visiting

/-!
# Common — Composition

The nested composition `m1(x, x1 => m2(x1, x2 => ...))` that a list of middlewares stands for.  Here
`next` is a function of the value that it is passed, and what it returns is the promise of the
middleware that it calls; like the visitor's, it can be called once.

* `Linked`: which promise the calls of `next` returned.
* `Linked.seen_settle`: who sees that a promise is settled.
-/

namespace DemoApp.Common

variable {T S V : Type}

/-- What `next` returns in the composition: a promise that is settled, or that of a call. -/
inductive Promise where
  | settled (outcome : Outcome)
  | of (call : Nat)

/-- A call of a middleware in the composition; its `next` is the composition of the `rest`. -/
structure NestedCall (T S : Type) where
  input : T
  body : Body S
  outcome : Option Outcome := none
  nexts : List (T × Promise) := []
  rest : List (T → S)

/-- The composition at work: its calls so far, and those whose code runs. -/
structure Nested (T S : Type) where
  calls : List (NestedCall T S) := []
  stack : List Nat := []

def NestedCall.go (call : NestedCall T S) (body : Body S) : NestedCall T S := { call with body }

def NestedCall.settle (call : NestedCall T S) (outcome : Outcome) : NestedCall T S :=
  { call with outcome := call.outcome <|> some outcome }

namespace Nested

def modify (n : Nested T S) (a : Nat) (f : NestedCall T S → NestedCall T S) : Nested T S :=
  { n with calls := n.calls.modify a f }

def outcomeOf (n : Nested T S) : Promise → Option Outcome
  | .settled outcome => some outcome
  | .of call         => (n.calls[call]?).bind NestedCall.outcome

/-- What a middleware knows of its call. -/
def seen (n : Nested T S) (call : NestedCall T S) : Call T S where
  input := call.input
  body := call.body
  outcome := call.outcome
  nexts := call.nexts.map fun x => { passed := x.1, promise := n.outcomeOf x.2 }

/-- A middleware is called, with the composition of the `rest` for its `next`. -/
def call (n : Nested T S) (middleware : T → S) (rest : List (T → S)) (input : T) : Nested T S where
  calls := n.calls ++ [{ input, body := .running (middleware input), rest }]
  stack := n.calls.length :: n.stack

/-- The composition of a list is called. -/
def compose (n : Nested T S) : List (T → S) → T → Nested T S × Promise
  | [],                 _ => (n, .settled .fulfilled)
  | middleware :: rest, x => (n.call middleware rest x, .of n.calls.length)

/-- The function `next` of a call is called. -/
def next (n : Nested T S) (a : Nat) (passed : T) : Option (Nested T S) :=
  (n.calls[a]?).map fun call =>
    let (n', promise) :=
      match call.nexts with
      | []     => n.compose call.rest passed
      | _ :: _ => (n, .settled refusal)
    n'.modify a fun call => { call with nexts := call.nexts ++ [(passed, promise)] }

def start (middlewares : List (T → S)) (input : T) : Nested T S :=
  (compose {} middlewares input).1

def move (n : Nested T S) (a : Nat) (stack : List Nat) : Move T S → Option (Nested T S)
  | .next passed s    => (n.modify a (·.go (.running s))).next a passed
  | .wait k           => some ({ n with stack }.modify a (·.go (.waiting k)))
  | .settle outcome k =>
      some ({ n with stack }.modify a fun call => (call.go (.waiting k)).settle outcome)

def step (code : S → V → Move T S) (n : Nested T S) : Event T V → Option (Nested T S)
  | .run answer      => do
      let a :: stack := n.stack | none
      let call ← n.calls[a]?
      let .running s := call.body | none
      n.move a stack (code s answer)
  | .wake a w        => do
      guard (n.stack = [])
      let call ← n.calls[a]?
      let .waiting k := call.body | none
      guard ((n.seen call).Wakes w)
      some { n.modify a (·.go (.running (k w))) with stack := [a] }
  | .handed a passed => n.next a passed

/-- What the middlewares know of their calls, and whose code runs. -/
def view (n : Nested T S) : List (Call T S) × List Nat := (n.calls.map n.seen, n.stack)

end Nested

/-! ### What the middlewares see -/

namespace Nested

variable {n n' : Nested T S} {a b : Nat} {f : NestedCall T S → NestedCall T S}
  {g : Call T S → Call T S} {middlewares : List (T → S)}

/-- Promises are settled by the outcomes of the calls. -/
theorem outcomeOf_congr (h : n'.calls.map NestedCall.outcome = n.calls.map NestedCall.outcome) :
    n'.outcomeOf = n.outcomeOf := by
  funext promise
  cases promise with
  | settled outcome => rfl
  | of b =>
      have hb := congrArg (fun l => l[b]?) h
      simp only [List.getElem?_map] at hb
      simp only [outcomeOf]
      cases hn : n.calls[b]? <;> cases hn' : n'.calls[b]? <;> simp_all

theorem seen_congr (h : n'.outcomeOf = n.outcomeOf) : n'.seen = n.seen := by
  funext call
  simp only [seen, h]

theorem outcomeOf_modify (h : ∀ call, (f call).outcome = call.outcome) :
    (n.modify a f).outcomeOf = n.outcomeOf :=
  outcomeOf_congr (Cells.map_modify h n.calls a)

/-- A change of a call that settles nothing is seen there. -/
theorem seen_modify (h : ∀ call, (f call).outcome = call.outcome)
    (hg : ∀ call, n.seen (f call) = g (n.seen call)) :
    (n.modify a f).calls.map (n.modify a f).seen = (n.calls.map n.seen).modify a g := by
  rw [seen_congr (outcomeOf_modify h)]
  exact Cells.map_modify_comm hg n.calls a

/-- A new call settles nothing. -/
theorem outcomeOf_call (n : Nested T S) (middleware : T → S) (rest : List (T → S)) (input : T) :
    (n.call middleware rest input).outcomeOf = n.outcomeOf := by
  funext promise
  cases promise with
  | settled outcome => rfl
  | of b =>
      simp only [outcomeOf, Nested.call, List.getElem?_append]
      split
      · rfl
      · next hb =>
          rw [List.getElem?_eq_none (Nat.le_of_not_lt hb)]
          cases b - n.calls.length <;> rfl

/-- A call of `next` is noted, with the promise that it returned. -/
def addNext (n : Nested T S) (a : Nat) (passed : T) (promise : Promise) : Nested T S :=
  n.modify a fun call => { call with nexts := call.nexts ++ [(passed, promise)] }

/-- The three things that a call of `next` does, by whether it is the first of its call. -/
theorem next_refused {call : NestedCall T S} (hc : n.calls[a]? = some call)
    (hn : call.nexts ≠ []) (passed : T) :
    n.next a passed = some (n.addNext a passed (.settled refusal)) := by
  obtain ⟨x, more, hx⟩ := List.exists_cons_of_ne_nil hn
  simp [next, hc, hx, addNext]

theorem next_ended {call : NestedCall T S} (hc : n.calls[a]? = some call) (hn : call.nexts = [])
    (hrest : call.rest = []) (passed : T) :
    n.next a passed = some (n.addNext a passed (.settled .fulfilled)) := by
  simp [next, hc, hn, hrest, compose, addNext]

theorem next_visited {call : NestedCall T S} (hc : n.calls[a]? = some call) (hn : call.nexts = [])
    {middleware : T → S} {rest : List (T → S)} (hrest : call.rest = middleware :: rest)
    (passed : T) :
    n.next a passed =
      some ((n.call middleware rest passed).addNext a passed (.of n.calls.length)) := by
  simp [next, hc, hn, hrest, compose, addNext]

/-- A middleware sees that its `next` was not called yet. -/
theorem nexts_eq_nil {call : NestedCall T S} {c : Call T S} (h : n.seen call = c) :
    call.nexts = [] ↔ c.nexts = [] := by
  subst h
  simp [seen]

theorem seen_addNext (n : Nested T S) (a : Nat) (passed : T) (promise : Promise) :
    (n.addNext a passed promise).calls.map (n.addNext a passed promise).seen =
      (n.calls.map n.seen).modify a fun call =>
        { call with nexts := call.nexts ++ [{ passed, promise := n.outcomeOf promise }] } :=
  seen_modify (fun _ => rfl) fun call => by simp [seen]

/-- A call of `next` that goes through: the promise that it returns is open. -/
theorem seen_visited (ha : a < n.calls.length) (middleware : T → S) (rest : List (T → S))
    (passed : T) :
    (((n.call middleware rest passed).addNext a passed (.of n.calls.length)).calls.map
        ((n.call middleware rest passed).addNext a passed (.of n.calls.length)).seen) =
      ((n.calls.map n.seen).modify a fun call =>
        { call with nexts := call.nexts ++ [{ passed }] }) ++
          [{ input := passed, body := .running (middleware passed) }] := by
  have hopen : n.outcomeOf (.of n.calls.length) = none := by
    simp [outcomeOf]
  have hnew : (n.call middleware rest passed).calls.map n.seen =
      n.calls.map n.seen ++ [{ input := passed, body := .running (middleware passed) }] :=
    List.map_append ..
  rw [seen_addNext, outcomeOf_call, hopen, seen_congr (outcomeOf_call n middleware rest passed),
    hnew, Cells.modify_append (by simpa using ha)]

variable (middlewares) in
/-- What a call returned the promise of: only the first call of a `next` goes through, and it is
that of the next middleware. -/
structure Linked (n : Nested T S) : Prop where
  rest : ∀ (a : Nat) (call : NestedCall T S), n.calls[a]? = some call →
    call.rest = middlewares.drop (a + 1)
  link : ∀ (a : Nat) (call : NestedCall T S), n.calls[a]? = some call → a + 1 < n.calls.length →
    ∃ passed more, call.nexts = (passed, .of (a + 1)) :: more
  only : ∀ (a : Nat) (call : NestedCall T S) (i : Nat) (passed : T) (b : Nat),
    n.calls[a]? = some call → call.nexts[i]? = some (passed, .of b) → i = 0 ∧ b = a + 1

theorem Linked.modify (h : Linked middlewares n)
    (hf : ∀ call, (f call).rest = call.rest ∧ (f call).nexts = call.nexts) :
    Linked middlewares (n.modify a f) where
  rest b call hc := by
    rcases Cells.modify_eq_some.mp hc with ⟨-, c, hold, rfl⟩ | ⟨-, hold⟩
    · exact (hf c).1.trans (h.rest b c hold)
    · exact h.rest b call hold
  link b call hc hb := by
    have hb' : b + 1 < n.calls.length := by simpa [Nested.modify] using hb
    rcases Cells.modify_eq_some.mp hc with ⟨-, c, hold, rfl⟩ | ⟨-, hold⟩
    · rw [(hf c).2]
      exact h.link b c hold hb'
    · exact h.link b call hold hb'
  only b call i passed m hc hi := by
    rcases Cells.modify_eq_some.mp hc with ⟨-, c, hold, rfl⟩ | ⟨-, hold⟩
    · rw [(hf c).2] at hi
      exact h.only b c i passed m hold hi
    · exact h.only b call i passed m hold hi

theorem Linked.withStack (h : Linked middlewares n) (stack : List Nat) :
    Linked middlewares { n with stack } :=
  ⟨h.rest, h.link, h.only⟩

/-- A call of `next` that goes through to no middleware. -/
theorem Linked.addNext_settled (h : Linked middlewares n) (passed : T) (outcome : Outcome) :
    Linked middlewares (n.addNext a passed (.settled outcome)) where
  rest b call hc := by
    rcases Cells.modify_eq_some.mp hc with ⟨-, c, hold, rfl⟩ | ⟨-, hold⟩
    · exact h.rest b c hold
    · exact h.rest b call hold
  link b call hc hb := by
    have hb' : b + 1 < n.calls.length := by simpa [addNext, Nested.modify] using hb
    rcases Cells.modify_eq_some.mp hc with ⟨-, c, hold, rfl⟩ | ⟨-, hold⟩
    · obtain ⟨x, more, hx⟩ := h.link b c hold hb'
      exact ⟨x, more ++ [(passed, .settled outcome)], by simp [hx]⟩
    · exact h.link b call hold hb'
  only b call i x m hc hi := by
    rcases Cells.modify_eq_some.mp hc with ⟨-, c, hold, rfl⟩ | ⟨-, hold⟩
    · rcases Cells.concat_eq_some.mp hi with hi | ⟨-, hi⟩
      · exact h.only b c i x m hold hi
      · cases hi
    · exact h.only b call i x m hold hi

/-- A call of `next` that goes through. -/
theorem Linked.visited (h : Linked middlewares n) {call : NestedCall T S}
    (hc : n.calls[a]? = some call) (hn : call.nexts = []) (hlast : n.calls.length = a + 1)
    {middleware : T → S} (passed : T) :
    Linked middlewares ((n.call middleware (middlewares.drop (a + 2)) passed).addNext a passed
      (.of n.calls.length)) where
  rest b c hb := by
    have hrest : ∀ c, (n.call middleware (middlewares.drop (a + 2)) passed).calls[b]? = some c →
        c.rest = middlewares.drop (b + 1) := by
      intro c hnew
      rcases Cells.concat_eq_some.mp hnew with hold | ⟨rfl, rfl⟩
      · exact h.rest b c hold
      · rw [hlast]
    rcases Cells.modify_eq_some.mp hb with ⟨-, c, hnew, rfl⟩ | ⟨-, hnew⟩
    · exact hrest c hnew
    · exact hrest c hnew
  link b c hb hlt := by
    have hle : b < n.calls.length := by
      simp only [addNext, Nested.modify, Nested.call, List.length_modify, List.length_append,
        List.length_singleton] at hlt
      omega
    rcases Cells.modify_eq_some.mp hb with ⟨rfl, c, hnew, rfl⟩ | ⟨hne, hnew⟩
    · rcases Cells.concat_eq_some.mp hnew with hold | ⟨rfl, -⟩
      · cases hc.symm.trans hold
        exact ⟨passed, [], by simp [hn, hlast]⟩
      · exact absurd hle (Nat.lt_irrefl _)
    · rcases Cells.concat_eq_some.mp hnew with hold | ⟨rfl, -⟩
      · exact h.link b c hold (by omega)
      · exact absurd hle (Nat.lt_irrefl _)
  only b c i x m hb hi := by
    rcases Cells.modify_eq_some.mp hb with ⟨rfl, c, hnew, rfl⟩ | ⟨hne, hnew⟩
    · rcases Cells.concat_eq_some.mp hnew with hold | ⟨rfl, rfl⟩
      · cases hc.symm.trans hold
        rcases Cells.concat_eq_some.mp hi with hold | ⟨rfl, heq⟩
        · exact h.only b call i x m hc hold
        · cases heq
          exact ⟨by simp [hn], hlast⟩
      · omega
    · rcases Cells.concat_eq_some.mp hnew with hold | ⟨rfl, rfl⟩
      · exact h.only b c i x m hold hi
      · cases hi

/-- A call whose promise is settled: it is seen by the call before it, whose `next` returned it. -/
theorem Linked.seen_settle (h : Linked middlewares n) {call : NestedCall T S}
    (hb : n.calls[b]? = some call) (hnone : call.outcome = none) {outcome : Outcome}
    (hf : ∀ call, (f call).outcome = (call.outcome <|> some outcome)) {m : Nat}
    {c : NestedCall T S} (hm : n.calls[m]? = some c) :
    (n.modify b f).seen c =
      if m + 1 = b then (n.seen c).answer 0 outcome else n.seen c := by
  have hother : ∀ promise, promise ≠ .of b → (n.modify b f).outcomeOf promise =
      n.outcomeOf promise := by
    intro promise hne
    cases promise with
    | settled outcome => rfl
    | of b' =>
        have hbb : b' ≠ b := fun e => hne (congrArg Promise.of e)
        simp only [outcomeOf, Nested.modify, List.getElem?_modify_ne _ _ (Ne.symm hbb)]
  have hself : (n.modify b f).outcomeOf (.of b) = some outcome := by
    simp only [outcomeOf, Nested.modify, Cells.modify_of_some hb]
    rw [Option.bind_some, hf, hnone]
    rfl
  have hmore : ∀ l : List (T × Promise), (∀ x ∈ l, x.2 ≠ .of b) →
      (l.map fun x => ({ passed := x.1, promise := (n.modify b f).outcomeOf x.2 } : NextCall T)) =
        l.map fun x => { passed := x.1, promise := n.outcomeOf x.2 } := by
    intro l hl
    exact List.map_congr_left fun x hx => by rw [hother x.2 (hl x hx)]
  split
  · next hmb =>
      subst hmb
      obtain ⟨passed, more, hnexts⟩ := h.link m c hm (Cells.lt_of_some hb)
      have hl : ∀ x ∈ more, x.2 ≠ .of (m + 1) := by
        rintro ⟨x, _⟩ hx rfl
        obtain ⟨i, hi⟩ := List.mem_iff_getElem?.mp hx
        have hzero := (h.only m c (i + 1) x (m + 1) hm (by rw [hnexts]; exact hi)).1
        omega
      simp only [seen, hnexts, List.map_cons, hmore more hl, hself]
      rfl
  · next hmb =>
      have hl : ∀ x ∈ c.nexts, x.2 ≠ .of b := by
        rintro ⟨x, _⟩ hx rfl
        obtain ⟨i, hi⟩ := List.mem_iff_getElem?.mp hx
        exact hmb (h.only m c i x b hm hi).2.symm
      simp only [seen, hmore c.nexts hl]

/-- A promise that is settled stays as it is. -/
theorem seen_settle_again {call : NestedCall T S} (hb : n.calls[b]? = some call)
    (hsome : call.outcome ≠ none) {outcome : Outcome}
    (hf : ∀ call, (f call).outcome = (call.outcome <|> some outcome)) :
    (n.modify b f).seen = n.seen := by
  obtain ⟨o, ho⟩ := Option.ne_none_iff_exists'.mp hsome
  have hout : (n.calls.map NestedCall.outcome)[b]? = some (some o) := by
    rw [List.getElem?_map, hb, Option.map_some, ho]
  refine seen_congr (outcomeOf_congr ?_)
  calc (n.calls.modify b f).map NestedCall.outcome
      = (n.calls.map NestedCall.outcome).modify b (· <|> some outcome) :=
        Cells.map_modify_comm hf n.calls b
    _ = (n.calls.map NestedCall.outcome).modify b id := Cells.modify_congr hout rfl
    _ = n.calls.map NestedCall.outcome := List.modify_id b _

/-- Nobody but the call before it sees the outcome of a call. -/
theorem Linked.map_seen_settle (h : Linked middlewares n) {call : NestedCall T S}
    (hb : n.calls[a + 1]? = some call) (hnone : call.outcome = none) {outcome : Outcome}
    (hf : ∀ call, (f call).outcome = (call.outcome <|> some outcome)) :
    n.calls.map (n.modify (a + 1) f).seen = (n.calls.map n.seen).modify a (·.answer 0 outcome) := by
  refine List.ext_getElem? fun m => ?_
  rw [List.getElem?_map, List.getElem?_modify, List.getElem?_map]
  cases hm : n.calls[m]? with
  | none => rfl
  | some c =>
      rw [Option.map_some, h.seen_settle hb hnone hf hm]
      by_cases e : a = m
      · simp [e]
      · simp [e, Ne.symm e]

theorem Linked.map_seen_settle_zero (h : Linked middlewares n) {call : NestedCall T S}
    (hb : n.calls[0]? = some call) (hnone : call.outcome = none) {outcome : Outcome}
    (hf : ∀ call, (f call).outcome = (call.outcome <|> some outcome)) :
    n.calls.map (n.modify 0 f).seen = n.calls.map n.seen := by
  refine List.map_congr_left fun c hc => ?_
  obtain ⟨m, hm⟩ := List.mem_iff_getElem?.mp hc
  rw [h.seen_settle hb hnone hf hm, if_neg (Nat.succ_ne_zero m)]

end Nested

end DemoApp.Common
