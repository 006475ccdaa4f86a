import DemoApp.Common.Composition

/-!
# Common — Transparency

When a visitor behaves like the nested composition.  Its `next` calls the middleware after its own
with the input that its own was called with, whatever it is passed, and its promise is fulfilled
when that middleware stops for the first time, whatever becomes of it then.

* `composed_iff`: a run of the visitor is one of the composition if and only if every call of `next`
  passes on the input of its own middleware, and the middleware that it calls returns, without a
  rejection, before its first `await`.
* `rejection_lost`: a run in which the next middleware gets another value than the one that was
  passed to it, and rejects unheard.
-/

namespace DemoApp.Common

variable {T S V : Type} {middlewares : List (T → S)}

/-- Where code that runs is. -/
def Body.state? : Body S → Option S
  | .running s => some s
  | .waiting _ => none

namespace Visitor

def view (v : Visitor T S) : List (Call T S) × List Nat :=
  (v.visits.map Visit.toCall, v.stack.map Frame.visit)

/-- After the same events, the visitor and the composition look the same to the middlewares. -/
def Composed (code : S → V → Move T S) (middlewares : List (T → S)) (input : T)
    (es : List (Event T V)) (v : Visitor T S) : Prop :=
  ∃ n, Machine.exec (Nested.step code) (Nested.start middlewares input) es = some n ∧
    n.view = v.view

/-- A call of `next` that goes through to a middleware passes on the input of its own. -/
def Passes (middlewares : List (T → S)) (visit : Visit T S) (passed : T) : Prop :=
  visit.nexts = [] → visit.index + 1 < middlewares.length → passed = visit.input

instance [DecidableEq T] (visit : Visit T S) (passed : T) :
    Decidable (Passes middlewares visit passed) :=
  inferInstanceAs (Decidable (_ → _ → _))

/-- What the code on top of the stack may do: it passes on its input, and while the call of `next`
that it was called by waits for it, it neither stops to wait nor rejects. -/
def MayMove (middlewares : List (T → S)) (f : Frame) (visit : Visit T S) : Move T S → Prop
  | .next passed _    => Passes middlewares visit passed
  | .wait _           => f.caller = none
  | .settle outcome _ => f.caller = none ∨ outcome = .fulfilled

instance [DecidableEq T] (f : Frame) (visit : Visit T S) :
    (m : Move T S) → Decidable (MayMove middlewares f visit m)
  | .next passed _    => inferInstanceAs (Decidable (Passes middlewares visit passed))
  | .wait _           => inferInstanceAs (Decidable (f.caller = none))
  | .settle outcome _ => inferInstanceAs (Decidable (f.caller = none ∨ outcome = .fulfilled))

/-- The condition on the code, for each step. -/
def Transparent (code : S → V → Move T S) (middlewares : List (T → S)) (v : Visitor T S) :
    Event T V → Prop
  | .run answer      => ∀ f ∈ v.stack.head?, ∀ visit ∈ v.visits[f.visit]?, ∀ s ∈ visit.body.state?,
      MayMove middlewares f visit (code s answer)
  | .wake _ _        => True
  | .handed a passed => ∀ visit ∈ v.visits[a]?, Passes middlewares visit passed

instance [DecidableEq T] (code : S → V → Move T S) (v : Visitor T S) :
    (e : Event T V) → Decidable (Transparent code middlewares v e)
  | .run answer      => inferInstanceAs (Decidable (∀ f ∈ v.stack.head?,
      ∀ visit ∈ v.visits[f.visit]?, ∀ s ∈ visit.body.state?,
        MayMove middlewares f visit (code s answer)))
  | .wake _ _        => isTrue trivial
  | .handed a passed =>
      inferInstanceAs (Decidable (∀ visit ∈ v.visits[a]?, Passes middlewares visit passed))

variable {v v' : Visitor T S} {n n' : Nested T S} {a b : Nat} {passed : T} {visit : Visit T S}
  {f : Call T S → Call T S}

/-! ### Who waits for whom -/

/-- The frames of the stack are those of different visits, and the promise of a visit that was made
by a call of `next` is open as long as that call waits for it. -/
structure Waited (v : Visitor T S) : Prop where
  bound : ∀ f ∈ v.stack, f.visit < v.visits.length
  callers : ∀ f ∈ v.stack, ∀ r, f.caller = some r → f.visit = r.visit + 1 ∧ r.call = 0
  nodup : (v.stack.map Frame.visit).Nodup
  pending : ∀ (a : Nat) (visit : Visit T S), v.visits[a + 1]? = some visit →
    (visit.outcome = none ↔ ⟨a + 1, some ⟨a, 0⟩⟩ ∈ v.stack)

theorem Waited.modify (h : v.Waited) (hf : ∀ call, (f call).outcome = call.outcome) :
    (v.modify a f).Waited where
  bound := by simpa using h.bound
  callers := h.callers
  nodup := h.nodup
  pending b w hw := by
    rcases modify_eq_some.mp hw with ⟨-, old, hold, rfl⟩ | ⟨-, hold⟩
    · have hsame : (old.change f).outcome = old.outcome := hf old.toCall
      rw [hsame]
      exact h.pending b old hold
    · exact h.pending b w hold

theorem Waited.settle (h : v.Waited) (caller : Option NextRef) (outcome : Outcome) :
    (v.settle caller outcome).Waited := by
  cases caller with
  | none => exact h
  | some r => exact h.modify fun _ => rfl

theorem Waited.called (h : v.Waited) (hc : Called middlewares v a passed v') : v'.Waited := by
  cases hc with
  | refused => exact h.modify fun _ => rfl
  | ended =>
      have h' : Waited { v with lastVisited := ((a + 1 : Nat) : Int) } :=
        ⟨h.bound, h.callers, h.nodup, h.pending⟩
      exact h'.modify fun _ => rfl
  | @visited visit middleware hv hn hlast hm =>
      have h' : (v.addNext a { passed }).Waited := h.modify fun _ => rfl
      have hlen : (v.addNext a { passed }).visits.length = a + 1 := length_modify.trans hlast
      have hnew : ∀ f ∈ v.stack, f.visit < a + 1 := fun f hf => hlast ▸ h.bound f hf
      refine ⟨?_, ?_, ?_, fun b w hw => ?_⟩
      · simp only [List.length_append, hlen, List.forall_mem_cons]
        exact ⟨by simp, fun f hf => Nat.lt_succ_of_lt (hnew f hf)⟩
      · simp only [List.forall_mem_cons]
        refine ⟨fun r hr => ?_, h.callers⟩
        cases hr
        exact ⟨rfl, rfl⟩
      · refine List.nodup_cons.mpr ⟨fun hmem => ?_, h.nodup⟩
        obtain ⟨f, hf, hfa⟩ := List.mem_map.mp hmem
        have hlt := hnew f hf
        dsimp only at hfa
        omega
      · rcases Cells.concat_eq_some.mp hw with hold | ⟨hb, rfl⟩
        · have hb : b + 1 < a + 1 := hlen ▸ Cells.lt_of_some hold
          rw [h'.pending b w hold, List.mem_cons]
          refine (or_iff_right fun e => ?_).symm
          cases e
          omega
        · obtain rfl : b = a := by omega
          exact iff_of_true rfl List.mem_cons_self

/-- The code on top of the stack stops. -/
theorem Waited.pop (h : v.Waited) {top : Frame} {stack : List Frame}
    (hstack : v.stack = top :: stack)
    (hf : ∀ a visit, top.visit = a + 1 → v.visits[top.visit]? = some visit →
      (f visit.toCall).outcome ≠ none) :
    ({ v with stack }.modify top.visit f).Waited := by
  have hmem : ∀ f ∈ stack, f ∈ v.stack := fun f hf => hstack ▸ List.mem_cons_of_mem top hf
  have hnodup := h.nodup
  rw [hstack, List.map_cons, List.nodup_cons] at hnodup
  have hgone : ∀ f ∈ stack, f.visit ≠ top.visit := fun f hf e =>
    hnodup.1 (List.mem_map.mpr ⟨f, hf, e⟩)
  refine ⟨fun f hf => ?_, fun f hf => h.callers f (hmem f hf), hnodup.2, fun b w hw => ?_⟩
  · rw [length_modify]
    exact h.bound f (hmem f hf)
  · rcases modify_eq_some.mp hw with ⟨hb, old, hold, rfl⟩ | ⟨hne, hold⟩
    · refine iff_of_false (hf b old hb.symm (hb ▸ hold)) fun hin => hgone _ hin hb
    · rw [h.pending b w hold, hstack, List.mem_cons]
      refine or_iff_right fun e => hne ?_
      rw [← e]

theorem Waited.wake (h : v.Waited) (hstack : v.stack = []) (ha : a < v.visits.length) :
    Waited { v with stack := [⟨a, none⟩] } where
  bound := by simpa using ha
  callers := by simp
  nodup := by simp
  pending b w hw := by
    have hb := h.pending b w hw
    simp only [hstack, List.not_mem_nil] at hb
    simpa using hb

/-- Nobody waits for code that was woken, and its promise is settled, if anybody ever did. -/
theorem Waited.settled_of_top (h : v.Waited) {top : Frame} {stack : List Frame}
    (hstack : v.stack = top :: stack) (hnone : top.caller = none) {a : Nat}
    (ha : top.visit = a + 1) (hv : v.visits[top.visit]? = some visit) : visit.outcome ≠ none := by
  rw [ha] at hv
  intro hout
  have hin := (h.pending a visit hv).mp hout
  have hnodup := h.nodup
  rw [hstack, List.map_cons, List.nodup_cons] at hnodup
  rw [hstack, List.mem_cons] at hin
  rcases hin with e | hin
  · rw [← e] at hnone
    cases hnone
  · exact hnodup.1 (List.mem_map.mpr ⟨_, hin, ha.symm⟩)

/-! ### Looking the same -/

theorem seen_modify (v : Visitor T S) (a : Nat) (f : Call T S → Call T S) :
    (v.modify a f).visits.map Visit.toCall = (v.visits.map Visit.toCall).modify a f :=
  Cells.map_modify_comm (s := Visit.toCall) (f := Visit.change f) (fun _ => rfl) v.visits a

variable (middlewares) in
/-- The composition has followed the visitor. -/
structure Follows (v : Visitor T S) (n : Nested T S) : Prop where
  orderly : v.Orderly middlewares
  waited : v.Waited
  linked : n.Linked middlewares
  calls : n.calls.map n.seen = v.visits.map Visit.toCall
  stack : n.stack = v.stack.map Frame.visit

theorem Follows.view (h : Follows middlewares v n) : n.view = v.view :=
  Prod.ext h.calls h.stack

theorem Follows.call (h : Follows middlewares v n) (hv : v.visits[a]? = some visit) :
    ∃ call, n.calls[a]? = some call ∧ n.seen call = visit.toCall := by
  have ha := congrArg (fun l => l[a]?) h.calls
  simp only [List.getElem?_map, hv, Option.map_some, Option.map_eq_some_iff] at ha
  exact ha

theorem Follows.length (h : Follows middlewares v n) : n.calls.length = v.visits.length := by
  simpa using congrArg List.length h.calls

theorem Follows.seen_go (h : Follows middlewares v n) (a : Nat) (body : Body S) :
    (n.modify a (·.go body)).calls.map (n.modify a (·.go body)).seen =
      (v.visits.map Visit.toCall).modify a (·.go body) := by
  rw [← h.calls]
  exact Nested.seen_modify (fun _ => rfl) fun _ => rfl

/-- Code goes on, and the same code goes on. -/
theorem Follows.go (h : Follows middlewares v n) (a : Nat) (body : Body S) :
    Follows middlewares (v.modify a (·.go body)) (n.modify a (·.go body)) where
  orderly := h.orderly.go a body
  waited := h.waited.modify fun _ => rfl
  linked := h.linked.modify fun _ => ⟨rfl, rfl⟩
  calls := (h.seen_go a body).trans (seen_modify ..).symm
  stack := h.stack

/-- A call of `next` that makes no visit looks the same. -/
theorem Follows.seen_addNext (h : Follows middlewares v n) (a : Nat) (passed : T)
    (outcome : Outcome) :
    (n.addNext a passed (.settled outcome)).calls.map
        (n.addNext a passed (.settled outcome)).seen =
      (v.addNext a { passed, promise := some outcome }).visits.map Visit.toCall := by
  rw [Nested.seen_addNext, addNext, seen_modify, h.calls]
  rfl

/-- A call of `next` is followed; it looks the same if it passes on what the visitor passes on. -/
theorem Follows.next (h : Follows middlewares v n) (hn : v.next middlewares a passed = some v') :
    ∃ n', n.next a passed = some n' ∧
      ((∀ visit ∈ v.visits[a]?, Passes middlewares visit passed) → Follows middlewares v' n') ∧
      (¬(∀ visit ∈ v.visits[a]?, Passes middlewares visit passed) → n'.view ≠ v'.view) := by
  have hcalled := h.orderly.called hn
  have horderly := h.orderly.of_called hcalled
  have hwaited := h.waited.called hcalled
  cases hcalled with
  | @refused visit hv hne =>
      obtain ⟨call, hc, hseen⟩ := h.call hv
      have hsecond : call.nexts ≠ [] := mt (Nested.nexts_eq_nil hseen).mp hne
      refine ⟨_, Nested.next_refused hc hsecond passed, fun _ => ?_, fun hno => ?_⟩
      · exact ⟨horderly, hwaited, h.linked.addNext_settled passed refusal,
          h.seen_addNext a passed refusal, h.stack⟩
      · refine absurd (fun w hw => ?_) hno
        cases hv.symm.trans hw
        exact fun hnil => absurd hnil hne
  | @ended visit hv hnil hlast hend =>
      obtain ⟨call, hc, hseen⟩ := h.call hv
      have hrest : call.rest = [] := by
        rw [h.linked.rest a call hc, ← hend, List.drop_length]
      have hfirst : call.nexts = [] := (Nested.nexts_eq_nil hseen).mpr hnil
      refine ⟨_, Nested.next_ended hc hfirst hrest passed, fun _ => ?_, fun hno => ?_⟩
      · exact ⟨horderly, hwaited, h.linked.addNext_settled passed .fulfilled,
          h.seen_addNext a passed .fulfilled, h.stack⟩
      · refine absurd (fun w hw _ hlt => ?_) hno
        rw [h.orderly.index a w hw] at hlt
        omega
  | @visited visit middleware hv hnil hlast hm =>
      obtain ⟨call, hc, hseen⟩ := h.call hv
      have hlen : n.calls.length = a + 1 := h.length.trans hlast
      have hrest : call.rest = middleware :: middlewares.drop (a + 2) := by
        rw [h.linked.rest a call hc]
        exact List.drop_eq_getElem?_toList_append.trans (by rw [hm]; rfl)
      have hfirst : call.nexts = [] := (Nested.nexts_eq_nil hseen).mpr hnil
      let new : Call T S := { input := visit.input, body := .running (middleware visit.input) }
      have hn' := Nested.seen_visited (Cells.lt_of_some hc) middleware
        (middlewares.drop (a + 2)) passed
      have hv' : ((v.addNext a { passed }).visits ++ [Visit.mk new (a + 1)]).map Visit.toCall =
          ((v.visits.map Visit.toCall).modify a fun call =>
            { call with nexts := call.nexts ++ [{ passed }] }) ++ [new] := by
        rw [List.map_append, addNext, seen_modify]
        rfl
      rw [h.calls] at hn'
      refine ⟨_, Nested.next_visited hc hfirst hrest passed, fun hpass => ?_,
        fun hno hview => ?_⟩
      · obtain rfl : passed = visit.input := by
          refine hpass visit hv hnil ?_
          rw [h.orderly.index a visit hv]
          exact Cells.lt_of_some hm
        exact ⟨horderly, hwaited, h.linked.visited hc hfirst hlen visit.input,
          hn'.trans hv'.symm, congrArg₂ List.cons hlen h.stack⟩
      · -- the last call of either shows what it was called with
        have hsame := (hn'.symm.trans (congrArg Prod.fst hview)).trans hv'
        obtain ⟨-, hlast⟩ := List.append_inj' hsame rfl
        refine hno fun w hw _ _ => ?_
        cases hv.symm.trans hw
        exact congrArg Call.input (List.cons.inj hlast).1

/-- The call of `next` that waits for the code on top of the stack returned an open promise. -/
theorem Follows.opened (h : Follows middlewares v n) {b : Nat} {r : NextRef} {stack : List Frame}
    (hstack : v.stack = ⟨b, some r⟩ :: stack) :
    b = r.visit + 1 ∧ r.call = 0 ∧ (∃ call, n.calls[b]? = some call ∧ call.outcome = none) ∧
      ∃ c passed more, (v.visits.map Visit.toCall)[r.visit]? = some c ∧
        c.nexts = { passed } :: more := by
  have htop : (⟨b, some r⟩ : Frame) ∈ v.stack := hstack ▸ List.mem_cons_self
  obtain ⟨hb, hzero⟩ := h.waited.callers _ htop r rfl
  dsimp only at hb
  have hlt : b < n.calls.length := h.length ▸ h.waited.bound _ htop
  obtain ⟨call, hcall⟩ : ∃ call, n.calls[b]? = some call := ⟨_, List.getElem?_eq_getElem hlt⟩
  obtain ⟨c, hc⟩ : ∃ c, n.calls[r.visit]? = some c :=
    ⟨_, List.getElem?_eq_getElem (by omega)⟩
  have hnone : call.outcome = none := by
    obtain ⟨visit, hv⟩ : ∃ visit, v.visits[r.visit + 1]? = some visit :=
      ⟨_, List.getElem?_eq_getElem (by rw [← hb, ← h.length]; exact hlt)⟩
    have hpending : visit.outcome = none := by
      refine (h.waited.pending r.visit visit hv).mpr ?_
      rw [← hb, ← hzero]
      exact htop
    obtain ⟨call', hcall', hseen⟩ := h.call hv
    rw [← hb] at hcall'
    cases hcall.symm.trans hcall'
    exact (congrArg Call.outcome hseen).trans hpending
  obtain ⟨passed, more, hnexts⟩ := h.linked.link r.visit c hc (hb ▸ hlt)
  refine ⟨hb, hzero, ⟨call, hcall, hnone⟩, n.seen c, passed,
    more.map fun x => { passed := x.1, promise := n.outcomeOf x.2 }, ?_, ?_⟩
  · rw [← h.calls, List.getElem?_map, hc, Option.map_some]
  · have hopen : n.outcomeOf (.of (r.visit + 1)) = none := by
      simp only [Nested.outcomeOf, ← hb, hcall, Option.bind_some, hnone]
    simp only [Nested.seen, hnexts, List.map_cons, hopen]

/-! ### The steps -/

variable {code : S → V → Move T S} {e : Event T V} {frame : Frame} {stack : List Frame}
  {r : NextRef} {outcome : Outcome} {k : Wake → S}

/-- The code on top of the stack is at the same place in both. -/
theorem Follows.run (h : Follows middlewares v n) (hstack : v.stack = frame :: stack)
    (hv : v.visits[frame.visit]? = some visit) {s : S} (hbody : visit.body = .running s)
    (answer : V) :
    n.step code (.run answer) = n.move frame.visit (stack.map Frame.visit) (code s answer) := by
  obtain ⟨call, hc, hseen⟩ := h.call hv
  have hcall : call.body = .running s := (congrArg Call.body hseen).trans hbody
  have hn : n.stack = frame.visit :: stack.map Frame.visit :=
    h.stack.trans (congrArg (List.map _) hstack)
  simp [Nested.step, hn, hc, hcall]

/-- Code that nobody waits for stops to wait. -/
theorem Follows.wait (h : Follows middlewares v n) (hstack : v.stack = ⟨b, none⟩ :: stack) :
    Follows middlewares ({ v with stack }.modify b (·.go (.waiting k)))
      ({ n with stack := stack.map Frame.visit }.modify b (·.go (.waiting k))) where
  orderly := (h.orderly.withStack stack).go b _
  waited := h.waited.pop hstack fun _ _ ha hv => h.waited.settled_of_top hstack rfl ha hv
  linked := (h.linked.withStack _).modify fun _ => ⟨rfl, rfl⟩
  calls := (h.seen_go b _).trans (seen_modify ..).symm
  stack := rfl

/-- A call is settled: what is seen of it, given what the others see. -/
theorem seen_settle (n : Nested T S) (b : Nat) (outcome : Outcome) (k : Wake → S) :
    (n.modify b fun call => (call.go (.waiting k)).settle outcome).calls.map
        (n.modify b fun call => (call.go (.waiting k)).settle outcome).seen =
      (n.calls.map (n.modify b fun call => (call.go (.waiting k)).settle outcome).seen).modify b
        fun call => (call.go (.waiting k)).settle outcome := by
  refine Cells.map_modify_comm (fun call => ?_) n.calls b
  rfl

/-- Code that nobody waits for settles its promise, which nobody sees. -/
theorem Follows.settle (h : Follows middlewares v n) (hstack : v.stack = ⟨b, none⟩ :: stack)
    (hv : v.visits[b]? = some visit) :
    Follows middlewares
      ({ v with stack }.modify b fun call => (call.go (.waiting k)).settle outcome)
      ({ n with stack := stack.map Frame.visit }.modify b fun call =>
        (call.go (.waiting k)).settle outcome) where
  orderly := (h.orderly.withStack stack).modify fun _ _ => Iff.rfl
  waited := h.waited.pop hstack fun _ _ _ _ => by simp [Call.settle]
  linked := (h.linked.withStack _).modify fun _ => ⟨rfl, rfl⟩
  calls := by
    obtain ⟨call, hc, hseen⟩ := h.call hv
    have hsame : n.calls.map
        (n.modify b fun call => (call.go (.waiting k)).settle outcome).seen =
          n.calls.map n.seen := by
      by_cases hout : call.outcome = none
      · -- the promise of a visit that was made by a `next` is settled by now
        obtain rfl : b = 0 := by
          cases b with
          | zero => rfl
          | succ a =>
              refine absurd ?_ (h.waited.settled_of_top hstack rfl rfl hv)
              exact (congrArg Call.outcome hseen).symm.trans hout
        exact h.linked.map_seen_settle_zero hc hout fun _ => rfl
      · rw [Nested.seen_settle_again hc hout fun _ => rfl]
    rw [seen_modify, ← h.calls, ← hsame]
    exact seen_settle n b outcome k
  stack := rfl

/-- Code that a call of `next` waits for stops. -/
theorem seen_stop (v : Visitor T S) (stack : List Frame) (b : Nat) (g : Call T S → Call T S)
    (r : NextRef) (outcome : Outcome) :
    (({ v with stack }.modify b g).settle (some r) outcome).visits.map Visit.toCall =
      ((v.visits.map Visit.toCall).modify b g).modify r.visit (·.answer r.call outcome) := by
  rw [Visitor.settle, seen_modify, seen_modify]

/-- What is seen of the promise of a call of `next`. -/
def promiseOf (calls : List (Call T S)) (r : NextRef) : Option Outcome :=
  (calls[r.visit]?).bind fun call => (call.nexts[r.call]?).bind NextCall.promise

/-- The call of `next` that waits for code sees an open promise, until that code stops. -/
theorem Follows.promise_open (h : Follows middlewares v n)
    (hstack : v.stack = ⟨b, some r⟩ :: stack) (g : Call T S → Call T S) :
    promiseOf ((v.visits.map Visit.toCall).modify b g) r = none := by
  obtain ⟨rfl, hzero, -, c, passed, more, hc, hnexts⟩ := h.opened hstack
  rw [promiseOf, List.getElem?_modify_ne _ _ (Nat.succ_ne_self _), hc, hzero, Option.bind_some,
    hnexts]
  rfl

theorem Follows.promise_answered (h : Follows middlewares v n)
    (hstack : v.stack = ⟨b, some r⟩ :: stack) (g : Call T S → Call T S) (outcome : Outcome) :
    promiseOf (((v.visits.map Visit.toCall).modify b g).modify r.visit
      (·.answer r.call outcome)) r = some outcome := by
  obtain ⟨rfl, hzero, -, c, passed, more, hc, hnexts⟩ := h.opened hstack
  have hg : ((v.visits.map Visit.toCall).modify (r.visit + 1) g)[r.visit]? = some c :=
    (List.getElem?_modify_ne _ _ (Nat.succ_ne_self _)).trans hc
  rw [promiseOf, Cells.modify_of_some hg, hzero, Option.bind_some, Call.answer, hnexts]
  rfl

/-- Code that a call of `next` waits for stops to wait: for the composition that promise is open. -/
theorem Follows.wait_called (h : Follows middlewares v n)
    (hstack : v.stack = ⟨b, some r⟩ :: stack) :
    Nested.view ({ n with stack := stack.map Frame.visit }.modify b (·.go (.waiting k))) ≠
      (({ v with stack }.modify b (·.go (.waiting k))).settle (some r) .fulfilled).view := by
  intro hview
  have hsame := ((h.seen_go b _).symm.trans (congrArg Prod.fst hview)).trans
    (seen_stop v stack b _ r _)
  have hpromise := congrArg (promiseOf · r) hsame
  rw [h.promise_open hstack, h.promise_answered hstack] at hpromise
  cases hpromise

/-- Code that a call of `next` waits for settles its promise: that call sees the outcome. -/
theorem Follows.seen_called (h : Follows middlewares v n)
    (hstack : v.stack = ⟨b, some r⟩ :: stack) :
    (n.modify b fun call => (call.go (.waiting k)).settle outcome).calls.map
        (n.modify b fun call => (call.go (.waiting k)).settle outcome).seen =
      ((v.visits.map Visit.toCall).modify b fun call =>
        (call.go (.waiting k)).settle outcome).modify r.visit (·.answer r.call outcome) := by
  obtain ⟨rfl, hzero, ⟨call, hcall, hnone⟩, -⟩ := h.opened hstack
  rw [seen_settle, h.linked.map_seen_settle hcall hnone fun _ => rfl, h.calls, hzero]
  exact List.modify_modify_ne _ _ _ (Nat.ne_of_lt (Nat.lt_succ_self _))

theorem Follows.settle_called (h : Follows middlewares v n)
    (hstack : v.stack = ⟨b, some r⟩ :: stack) :
    Follows middlewares
      (({ v with stack }.modify b fun call =>
        (call.go (.waiting k)).settle .fulfilled).settle (some r) .fulfilled)
      ({ n with stack := stack.map Frame.visit }.modify b fun call =>
        (call.go (.waiting k)).settle .fulfilled) where
  orderly := ((h.orderly.withStack stack).modify fun _ _ => Iff.rfl).settle ..
  waited := (h.waited.pop hstack fun _ _ _ _ => by simp [Call.settle]).settle ..
  linked := (h.linked.withStack _).modify fun _ => ⟨rfl, rfl⟩
  calls := by
    rw [seen_stop]
    exact h.seen_called hstack
  stack := rfl

/-- The visitor says that the promise is fulfilled, whatever it is settled with. -/
theorem Follows.reject_called (h : Follows middlewares v n)
    (hstack : v.stack = ⟨b, some r⟩ :: stack) (hne : outcome ≠ .fulfilled) :
    Nested.view ({ n with stack := stack.map Frame.visit }.modify b fun call =>
        (call.go (.waiting k)).settle outcome) ≠
      (({ v with stack }.modify b fun call =>
        (call.go (.waiting k)).settle outcome).settle (some r) .fulfilled).view := by
  intro hview
  have hsame := ((h.seen_called hstack).symm.trans (congrArg Prod.fst hview)).trans
    (seen_stop v stack b _ r _)
  have hpromise := congrArg (promiseOf · r) hsame
  rw [h.promise_answered hstack, h.promise_answered hstack] at hpromise
  exact hne (Option.some.inj hpromise)

/-- Code is woken. -/
theorem Follows.wake (h : Follows middlewares v n) (code : S → V → Move T S)
    (hstack : v.stack = []) (hv : v.visits[a]? = some visit) (hbody : visit.body = .waiting k)
    {w : Wake} (hw : visit.Wakes w) :
    ∃ n', n.step code (.wake a w) = some n' ∧
      Follows middlewares { v.modify a (·.go (.running (k w))) with stack := [⟨a, none⟩] } n' := by
  obtain ⟨call, hc, hseen⟩ := h.call hv
  have hcall : call.body = .waiting k := (congrArg Call.body hseen).trans hbody
  have hn : n.stack = [] := h.stack.trans (congrArg (List.map _) hstack)
  have hwakes : (n.seen call).Wakes w := hseen ▸ hw
  refine ⟨{ n.modify a (·.go (.running (k w))) with stack := [a] }, ?_, ?_⟩
  · refine Option.bind_eq_some_iff.mpr ⟨(), (Option.guard_eq_some' ()).mpr hn, ?_⟩
    rw [hc, Option.bind_eq_bind, Option.bind_some, hcall]
    exact Option.bind_eq_some_iff.mpr ⟨(), (Option.guard_eq_some' ()).mpr hwakes, rfl⟩
  · have hgo := h.go a (.running (k w))
    exact ⟨hgo.orderly.withStack _, hgo.waited.wake hstack (by simpa using Cells.lt_of_some hv),
      hgo.linked.withStack _, hgo.calls, rfl⟩

/-- A step of the visitor is followed by the composition; both look the same after it if and only if
the code is transparent there. -/
theorem Follows.step (h : Follows middlewares v n) (hs : v.step code middlewares e = some v') :
    ∃ n', n.step code e = some n' ∧
      (Transparent code middlewares v e → Follows middlewares v' n') ∧
      (¬Transparent code middlewares v e → n'.view ≠ v'.view) := by
  cases step_turn hs with
  | @calls answer frame stack visit s s' passed _ hstack hv hbody hcode hnext =>
      obtain ⟨n', hn', hkeep, hbreak⟩ := (h.go frame.visit (.running s')).next hnext
      have hiff : Transparent code middlewares v (.run answer) ↔
          ∀ visit ∈ (v.modify frame.visit (·.go (.running s'))).visits[frame.visit]?,
            Passes middlewares visit passed := by
        simp [Transparent, Body.state?, MayMove, hstack, hv, hbody, hcode, modify_self hv,
          Visit.change, Call.go, Passes]
      refine ⟨n', ?_, fun ht => hkeep (hiff.mp ht), fun ht => hbreak (mt hiff.mpr ht)⟩
      rw [h.run hstack hv hbody, hcode]
      exact hn'
  | handed hnext => exact h.next hnext
  | @waits answer frame stack visit s k hstack hv hbody hcode =>
      obtain ⟨b, caller⟩ := frame
      have hiff : Transparent code middlewares v (.run answer) ↔ caller = none := by
        simp [Transparent, Body.state?, MayMove, hstack, hv, hbody, hcode]
      refine ⟨{ n with stack := stack.map Frame.visit }.modify b (·.go (.waiting k)), ?_, ?_⟩
      · rw [h.run hstack hv hbody, hcode]
        rfl
      · rw [hiff]
        cases caller with
        | none => exact ⟨fun _ => h.wait hstack, fun hno => absurd rfl hno⟩
        | some r =>
            exact ⟨fun ht => absurd ht (Option.some_ne_none r), fun _ => h.wait_called hstack⟩
  | @settles answer frame stack visit s outcome k hstack hv hbody hcode =>
      obtain ⟨b, caller⟩ := frame
      have hiff : Transparent code middlewares v (.run answer) ↔
          caller = none ∨ outcome = .fulfilled := by
        simp [Transparent, Body.state?, MayMove, hstack, hv, hbody, hcode]
      refine ⟨{ n with stack := stack.map Frame.visit }.modify b fun call =>
        (call.go (.waiting k)).settle outcome, ?_, ?_⟩
      · rw [h.run hstack hv hbody, hcode]
        rfl
      · rw [hiff]
        cases caller with
        | none => exact ⟨fun _ => h.settle hstack hv, fun hno => absurd (.inl rfl) hno⟩
        | some r =>
            refine ⟨fun ht => ?_, fun hno => ?_⟩
            · obtain rfl : outcome = .fulfilled := ht.resolve_left (Option.some_ne_none r)
              exact h.settle_called hstack
            · exact h.reject_called hstack fun he => hno (.inr he)
  | wakes hstack hv hbody hw =>
      obtain ⟨n', hn', hkeep⟩ := h.wake code hstack hv hbody hw
      exact ⟨n', hn', fun _ => hkeep, fun hno => absurd trivial hno⟩

theorem Waited.start (input : T) : (start middlewares input).Waited := by
  cases middlewares with
  | nil =>
      have hv : start ([] : List (T → S)) input = { lastVisited := 0 } := rfl
      exact ⟨by simp [hv], by simp [hv], by simp [hv], by simp [hv]⟩
  | cons middleware rest =>
      have hv : start (middleware :: rest) input =
          { lastVisited := 0
            visits := [{ input, body := .running (middleware input), index := 0 }]
            stack := [⟨0, none⟩] } := rfl
      exact ⟨by simp [hv], by simp [hv], by simp [hv], by simp [hv]⟩

theorem linked_start (middlewares : List (T → S)) (input : T) :
    (Nested.start middlewares input).Linked middlewares := by
  cases middlewares with
  | nil =>
      have hn : Nested.start ([] : List (T → S)) input = {} := rfl
      exact ⟨by simp [hn], by simp [hn], by simp [hn]⟩
  | cons middleware rest =>
      have hone : ∀ (a : Nat) (call : NestedCall T S),
          (Nested.start (middleware :: rest) input).calls[a]? = some call →
            a = 0 ∧ call = { input, body := .running (middleware input), rest } := by
        intro a call hc
        rcases Cells.concat_eq_some.mp hc with hc | hc
        · simp at hc
        · exact hc
      refine ⟨fun a call hc => ?_, fun a call hc hlt => ?_, fun a call i passed b hc hi => ?_⟩
      · obtain ⟨rfl, rfl⟩ := hone a call hc
        rfl
      · obtain ⟨rfl, rfl⟩ := hone a call hc
        exact absurd hlt (Nat.lt_irrefl 1)
      · obtain ⟨rfl, rfl⟩ := hone a call hc
        simp at hi

theorem Follows.start (middlewares : List (T → S)) (input : T) :
    Follows middlewares (start middlewares input) (Nested.start middlewares input) where
  orderly := .start input
  waited := .start input
  linked := linked_start middlewares input
  calls := by cases middlewares <;> rfl
  stack := by cases middlewares <;> rfl

variable {input : T} {es : List (Event T V)}

/-- **Composition.**  A run of the visitor is, at every moment, what the nested composition makes of
the same events, if and only if the code is transparent at every step. -/
theorem composed_iff
    (hx : Machine.exec (step code middlewares) (start middlewares input) es = some v) :
    Machine.Throughout (step code middlewares) (Composed code middlewares input)
        (start middlewares input) es ↔
      Machine.Along (step code middlewares) (Transparent code middlewares)
        (start middlewares input) es := by
  refine Machine.throughout_iff_along (I := fun es v => ∃ n, Machine.exec (Nested.step code)
      (Nested.start middlewares input) es = some n ∧ Follows middlewares v n)
    ⟨_, rfl, .start middlewares input⟩ ?_ ?_ ?_ hx
  · rintro es v ⟨n, hn, h⟩
    exact ⟨n, hn, h.view⟩
  · rintro es v e v' - ⟨n, hn, h⟩ hs ht
    obtain ⟨n', hn', hkeep, -⟩ := h.step hs
    exact ⟨n', Machine.exec_snoc.mpr ⟨n, hn, hn'⟩, hkeep ht⟩
  · rintro es v e v' - ⟨n, hn, h⟩ hs ht ⟨n₁, hn₁, hview⟩
    obtain ⟨n', hn', -, hbreak⟩ := h.step hs
    cases hn₁.symm.trans (Machine.exec_snoc.mpr ⟨n, hn, hn'⟩)
    exact hbreak ht hview

/-- `async (x, next) => { await next(x); }` and an async function that returns at once. -/
def passesOn : List (Nat → List Command) := [fun x => [.next x, .await], fun _ => []]

theorem composed_iff_passesOn :
    ∃ v, Machine.exec (step script passesOn) (start passesOn 1)
        [.run (), .run (), .run (), .wake 0 (.settled 0 .fulfilled), .run ()] = some v ∧
      v.visits.map (·.outcome) = [some .fulfilled, some .fulfilled] ∧
      Machine.Throughout (step script passesOn) (Composed script passesOn 1) (start passesOn 1)
        [.run (), .run (), .run (), .wake 0 (.settled 0 .fulfilled), .run ()] := by
  have hx : Machine.exec (step script passesOn) (start passesOn 1)
    [.run (), .run (), .run (), .wake 0 (.settled 0 .fulfilled), .run ()] = some _ := rfl
  exact ⟨_, hx, by decide, (composed_iff hx).mpr (by decide)⟩

/-- **A rejection is lost.**  The second middleware gets the input of the first one, not the value
that it passed on; it rejects after its first `await`, and the first one has gone on by then. -/
theorem rejection_lost :
    ∃ v, Machine.exec (step script passesAndThrows) (start passesAndThrows 1)
        [.run (), .run (), .run (), .wake 0 (.settled 0 .fulfilled), .run (), .wake 1 .other,
          .run ()] = some v ∧
      v.visits.map (·.input) = [1, 1] ∧
      v.visits.map (·.nexts) = [[{ passed := 2, promise := some .fulfilled }], []] ∧
      v.visits.map (·.outcome) = [some .fulfilled, some (.rejected "late")] ∧
      ¬Machine.Throughout (step script passesAndThrows) (Composed script passesAndThrows 1)
        (start passesAndThrows 1)
        [.run (), .run (), .run (), .wake 0 (.settled 0 .fulfilled), .run (), .wake 1 .other,
          .run ()] := by
  refine ⟨_, rfl, by decide, by decide, by decide, fun h => ?_⟩
  obtain ⟨n, hn, hview⟩ := h [.run ()] _ ⟨_, rfl⟩ rfl
  -- the second call of the composition gets what was passed to it
  have hinputs : (Machine.exec (Nested.step script) (Nested.start passesAndThrows 1) [.run ()]).map
      (fun n => n.view.1.map Call.input) = some [1, 2] := rfl
  rw [hn, Option.map_some, hview] at hinputs
  exact absurd hinputs (by decide)

end Visitor

end DemoApp.Common
