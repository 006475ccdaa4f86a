import Mathlib.Data.Option.Basic
import DemoApp.Common.Middleware

/-!
# Common — Visiting

The order in which a visitor visits the middlewares, whoever calls which `next` and when.

`lastVisited` is one counter that every `next` of the visitor reads (`Orderly`): it stands at the
index of the one visit that has not called its `next`.  So a `next` is let through at its first
call, and at no later one (`Called`), and what it visits is the middleware after its own.

* `visiting`: the discipline, in every run of a processor with any number of inputs.
-/

namespace DemoApp.Common

variable {T S V : Type} {code : S → V → Move T S} {middlewares : List (T → S)}

namespace Visitor

variable {v v' : Visitor T S} {a b : Nat} {passed : T} {visit w : Visit T S}
  {f : Call T S → Call T S} {caller : Option NextRef} {outcome : Outcome}

/-! ### What the operations leave alone -/

/-- The indices of the middlewares that were visited, in order. -/
def indices (v : Visitor T S) : List Nat := v.visits.map Visit.index

@[simp] theorem lastVisited_modify : (v.modify a f).lastVisited = v.lastVisited := rfl

@[simp] theorem stack_modify : (v.modify a f).stack = v.stack := rfl

@[simp] theorem length_modify : (v.modify a f).visits.length = v.visits.length :=
  List.length_modify ..

@[simp] theorem indices_modify : (v.modify a f).indices = v.indices :=
  Cells.map_modify (g := Visit.change f) (fun _ => rfl) v.visits a

@[simp] theorem lastVisited_settle : (v.settle caller outcome).lastVisited = v.lastVisited := by
  cases caller <;> rfl

@[simp] theorem stack_settle : (v.settle caller outcome).stack = v.stack := by
  cases caller <;> rfl

@[simp] theorem length_settle : (v.settle caller outcome).visits.length = v.visits.length := by
  cases caller
  · rfl
  · exact length_modify

@[simp] theorem indices_settle : (v.settle caller outcome).indices = v.indices := by
  cases caller
  · rfl
  · exact indices_modify

theorem modify_eq_some : (v.modify a f).visits[b]? = some w ↔
    (b = a ∧ ∃ visit, v.visits[b]? = some visit ∧ w = visit.change f) ∨
      b ≠ a ∧ v.visits[b]? = some w :=
  Cells.modify_eq_some

theorem modify_self (h : v.visits[a]? = some visit) :
    (v.modify a f).visits[a]? = some (visit.change f) :=
  Cells.modify_of_some h

theorem modify_ne (h : b ≠ a) : (v.modify a f).visits[b]? = v.visits[b]? :=
  List.getElem?_modify_ne _ _ (Ne.symm h)

theorem modify_modify (v : Visitor T S) (a : Nat) (f g : Call T S → Call T S) :
    (v.modify a f).modify a g = v.modify a (g ∘ f) := by
  simp only [modify, List.modify_modify_eq]
  rfl

theorem modify_congr {g : Call T S → Call T S} (h : v.visits[a]? = some visit)
    (hfg : f visit.toCall = g visit.toCall) : v.modify a f = v.modify a g := by
  have hchange : visit.change f = visit.change g := by
    simp only [Visit.change, hfg]
  simp only [modify, Cells.modify_congr h hchange]

/-- A call of `next` is noted. -/
def addNext (v : Visitor T S) (a : Nat) (c : NextCall T) : Visitor T S :=
  v.modify a fun call => { call with nexts := call.nexts ++ [c] }

/-- The promise of a call that was just made. -/
theorem settle_addNext (h : v.visits[a]? = some visit) :
    (v.addNext a { passed }).settle (some ⟨a, visit.nexts.length⟩) outcome =
      v.addNext a { passed, promise := some outcome } := by
  rw [settle, addNext, modify_modify]
  refine modify_congr h ?_
  simp [Call.answer, Cells.modify_concat]

/-! ### What a call of `next` does -/

variable (middlewares) in
/-- The counter stands at the visit that has not called its `next`; behind the last middleware
there is none. -/
structure Orderly (v : Visitor T S) : Prop where
  index : ∀ (a : Nat) (visit : Visit T S), v.visits[a]? = some visit → visit.index = a
  bound : v.visits.length ≤ middlewares.length
  counter : v.lastVisited + 1 = v.visits.length ∨
    v.lastVisited = v.visits.length ∧ v.visits.length = middlewares.length
  first : ∀ (a : Nat) (visit : Visit T S), v.visits[a]? = some visit →
    (visit.nexts = [] ↔ v.lastVisited = a)

variable (middlewares) in
/-- The three things that a call of `next` does, by whether it is the first of its visit. -/
inductive Called (v : Visitor T S) (a : Nat) (passed : T) : Visitor T S → Prop where
  | refused {visit : Visit T S} (hv : v.visits[a]? = some visit) (hn : visit.nexts ≠ []) :
      Called v a passed (v.addNext a { passed, promise := some refusal })
  | ended {visit : Visit T S} (hv : v.visits[a]? = some visit) (hn : visit.nexts = [])
      (hlast : v.visits.length = a + 1) (hend : middlewares.length = a + 1) :
      Called v a passed
        ({ v with lastVisited := (a + 1 : Nat) }.addNext a { passed, promise := some .fulfilled })
  | visited {visit : Visit T S} {middleware : T → S} (hv : v.visits[a]? = some visit)
      (hn : visit.nexts = []) (hlast : v.visits.length = a + 1)
      (hm : middlewares[a + 1]? = some middleware) :
      Called v a passed
        { lastVisited := (a + 1 : Nat)
          visits := (v.addNext a { passed }).visits ++
            [{ input := visit.input, body := .running (middleware visit.input), index := a + 1 }]
          stack := ⟨a + 1, some ⟨a, 0⟩⟩ :: v.stack }

theorem Orderly.called (h : Orderly middlewares v) (hn : v.next middlewares a passed = some v') :
    Called middlewares v a passed v' := by
  obtain ⟨visit, hv, rfl⟩ := Option.map_eq_some_iff.mp hn
  have hindex : visit.index = a := h.index a visit hv
  have hlt : a < v.visits.length := Cells.lt_of_some hv
  have hbound := h.bound
  have hfirst := h.first a visit hv
  rw [← addNext, visitMiddleware, hindex]
  split
  · next hne =>
      -- the counter stands elsewhere, so this is not the first call
      rw [settle_addNext hv]
      refine .refused hv fun hnil => ?_
      have hlast := hfirst.mp hnil
      simp only [addNext, lastVisited_modify] at hne
      omega
  · next heq =>
      have hlast : v.lastVisited = a := by
        simp only [addNext, lastVisited_modify] at heq
        omega
      have hnil : visit.nexts = [] := hfirst.mpr hlast
      have hlen : v.visits.length = a + 1 := by
        rcases h.counter with hc | ⟨hc, -⟩ <;> omega
      split
      · next hnone =>
          have hend : middlewares.length = a + 1 := by
            have hle := List.getElem?_eq_none_iff.mp hnone
            omega
          have hcalled : Called middlewares v a passed _ := .ended hv hnil hlen hend
          rw [← settle_addNext (v := { v with lastVisited := (a + 1 : Nat) }) hv] at hcalled
          exact hcalled
      · next middleware hm =>
          have hlen' : (v.addNext a { passed }).visits.length = a + 1 := length_modify.trans hlen
          rw [hlen', hnil]
          exact .visited hv hnil hlen hm

/-! ### The counter -/

variable {i : Int}

theorem Orderly.modify (h : Orderly middlewares v)
    (hf : ∀ visit, v.visits[a]? = some visit → ((f visit.toCall).nexts = [] ↔ visit.nexts = [])) :
    Orderly middlewares (v.modify a f) where
  index b w hw := by
    rcases modify_eq_some.mp hw with ⟨rfl, visit, hv, rfl⟩ | ⟨-, hv⟩
    · exact h.index b visit hv
    · exact h.index b w hv
  bound := by simpa using h.bound
  counter := by simpa using h.counter
  first b w hw := by
    rcases modify_eq_some.mp hw with ⟨rfl, visit, hv, rfl⟩ | ⟨-, hv⟩
    · exact (hf visit hv).trans (h.first b visit hv)
    · exact h.first b w hv

theorem Orderly.go (h : Orderly middlewares v) (a : Nat) (body : Body S) :
    Orderly middlewares (v.modify a (·.go body)) :=
  h.modify fun _ _ => Iff.rfl

theorem Orderly.settle (h : Orderly middlewares v) (caller : Option NextRef) (outcome : Outcome) :
    Orderly middlewares (v.settle caller outcome) := by
  cases caller with
  | none => exact h
  | some r => exact h.modify fun visit _ => by simp [Call.answer]

theorem Orderly.withStack (h : Orderly middlewares v) (stack : List Frame) :
    Orderly middlewares { v with stack } :=
  ⟨h.index, h.bound, h.counter, h.first⟩

/-- What a noted call changes of the visits. -/
theorem old_of_addNext {c : NextCall T} (hw : (v.addNext a c).visits[b]? = some w) :
    ∃ visit, v.visits[b]? = some visit ∧ w.index = visit.index ∧
      (b = a ∧ w.nexts ≠ [] ∨ b ≠ a ∧ w.nexts = visit.nexts) := by
  rcases modify_eq_some.mp hw with ⟨rfl, visit, hv, rfl⟩ | ⟨hne, hv⟩
  · exact ⟨visit, hv, rfl, .inl ⟨rfl, by simp [Visit.change]⟩⟩
  · exact ⟨w, hv, rfl, .inr ⟨hne, rfl⟩⟩

/-- Once a visit has called its `next` for the first time, all have. -/
theorem Orderly.called_all (h : Orderly middlewares v) {c : NextCall T}
    (hv : v.visits[a]? = some visit) (hn : visit.nexts = [])
    (hw : (v.addNext a c).visits[b]? = some w) : w.nexts ≠ [] := by
  obtain ⟨old, hold, -, ⟨-, hne⟩ | ⟨hba, hnexts⟩⟩ := old_of_addNext hw
  · exact hne
  · intro hnil
    have hb := (h.first b old hold).mp (hnexts.symm.trans hnil)
    have ha := (h.first a visit hv).mp hn
    omega

/-- A call that is let through moves the counter on, to the visit that it makes. -/
theorem Orderly.of_called (h : Orderly middlewares v) (hc : Called middlewares v a passed v') :
    Orderly middlewares v' := by
  cases hc with
  | @refused visit hv hn =>
      refine h.modify fun w hw => ?_
      cases hv.symm.trans hw
      simp [hn]
  | @ended visit hv hn hlast hend =>
      have hlen : (v.addNext a { passed, promise := some .fulfilled }).visits.length = a + 1 :=
        length_modify.trans hlast
      refine ⟨fun b w hw => ?_, ?_, .inr ⟨?_, hlen.trans hend.symm⟩, fun b w hw => ?_⟩
      · obtain ⟨old, hold, hindex, -⟩ := old_of_addNext (v := v) hw
        exact hindex.trans (h.index b old hold)
      · exact Nat.le_of_eq (hlen.trans hend.symm)
      · exact congrArg Nat.cast hlen.symm
      · have hlt : b < a + 1 := hlen ▸ Cells.lt_of_some (α := Visit T S) hw
        refine iff_of_false (h.called_all hv hn hw) fun hb => ?_
        simp only [addNext, lastVisited_modify] at hb
        omega
  | @visited visit middleware hv hn hlast hm =>
      have hlt := Cells.lt_of_some hm
      have hlen : (v.addNext a { passed }).visits.length = a + 1 := length_modify.trans hlast
      refine ⟨fun b w hw => ?_, ?_, .inl ?_, fun b w hw => ?_⟩
      · rcases Cells.concat_eq_some.mp hw with hw | ⟨rfl, rfl⟩
        · obtain ⟨old, hold, hindex, -⟩ := old_of_addNext hw
          exact hindex.trans (h.index b old hold)
        · exact hlen.symm
      · simp only [List.length_append, List.length_singleton, hlen]
        omega
      · simp [hlen]
      · rcases Cells.concat_eq_some.mp hw with hw | ⟨rfl, rfl⟩
        · have hb : b < a + 1 := hlen ▸ Cells.lt_of_some hw
          refine iff_of_false (h.called_all hv hn hw) fun hb => ?_
          dsimp only at hb
          omega
        · exact iff_of_true rfl (congrArg Nat.cast hlen.symm)

/-! ### The steps of a visitor -/

variable {e : Event T V}

variable (code middlewares) in
/-- The `next` of the visit `a` is called: by its own code, or by somebody who was handed it. -/
inductive CallsNext (v : Visitor T S) : Event T V → Nat → T → Prop where
  | runs {answer : V} {f : Frame} {stack : List Frame} {visit : Visit T S} {s s' : S} {passed : T}
      (hstack : v.stack = f :: stack) (hv : v.visits[f.visit]? = some visit)
      (hbody : visit.body = .running s) (hcode : code s answer = .next passed s') :
      CallsNext v (.run answer) f.visit passed
  | handed {a : Nat} {passed : T} : CallsNext v (.handed a passed) a passed

variable (code middlewares) in
/-- The kinds of steps. -/
inductive Turn (v : Visitor T S) : Event T V → Visitor T S → Prop where
  | calls {answer : V} {f : Frame} {stack : List Frame} {visit : Visit T S} {s s' : S} {passed : T}
      {v' : Visitor T S} (hstack : v.stack = f :: stack) (hv : v.visits[f.visit]? = some visit)
      (hbody : visit.body = .running s) (hcode : code s answer = .next passed s')
      (hnext : (v.modify f.visit (·.go (.running s'))).next middlewares f.visit passed = some v') :
      Turn v (.run answer) v'
  | handed {a : Nat} {passed : T} {v' : Visitor T S}
      (hnext : v.next middlewares a passed = some v') : Turn v (.handed a passed) v'
  | waits {answer : V} {f : Frame} {stack : List Frame} {visit : Visit T S} {s : S} {k : Wake → S}
      (hstack : v.stack = f :: stack) (hv : v.visits[f.visit]? = some visit)
      (hbody : visit.body = .running s) (hcode : code s answer = .wait k) :
      Turn v (.run answer)
        (({ v with stack }.modify f.visit (·.go (.waiting k))).settle f.caller .fulfilled)
  | settles {answer : V} {f : Frame} {stack : List Frame} {visit : Visit T S} {s : S}
      {outcome : Outcome} {k : Wake → S}
      (hstack : v.stack = f :: stack) (hv : v.visits[f.visit]? = some visit)
      (hbody : visit.body = .running s) (hcode : code s answer = .settle outcome k) :
      Turn v (.run answer)
        (({ v with stack }.modify f.visit fun call =>
          (call.go (.waiting k)).settle outcome).settle f.caller .fulfilled)
  | wakes {a : Nat} {w : Wake} {visit : Visit T S} {k : Wake → S}
      (hstack : v.stack = []) (hv : v.visits[a]? = some visit) (hbody : visit.body = .waiting k)
      (hw : visit.Wakes w) :
      Turn v (.wake a w) { v.modify a (·.go (.running (k w))) with stack := [⟨a, none⟩] }

theorem step_turn (h : v.step code middlewares e = some v') : Turn code middlewares v e v' := by
  cases e with
  | run answer =>
      simp only [step] at h
      split at h
      · next f stack hstack =>
          obtain ⟨visit, hv, h⟩ := Option.bind_eq_some_iff.mp h
          split at h
          · next s hbody =>
              cases hcode : code s answer with
              | next passed s' =>
                  rw [hcode] at h
                  exact .calls hstack hv hbody hcode h
              | wait k =>
                  rw [hcode] at h
                  cases h
                  exact .waits hstack hv hbody hcode
              | settle outcome k =>
                  rw [hcode] at h
                  cases h
                  exact .settles hstack hv hbody hcode
          · cases h
      · cases h
  | wake a w =>
      simp only [step] at h
      obtain ⟨_, hg, h⟩ := Option.bind_eq_some_iff.mp h
      obtain ⟨visit, hv, h⟩ := Option.bind_eq_some_iff.mp h
      split at h
      · next k hbody =>
          obtain ⟨_, hw, h⟩ := Option.bind_eq_some_iff.mp h
          cases h
          exact .wakes ((Option.guard_eq_some' _).mp hg) hv hbody ((Option.guard_eq_some' _).mp hw)
      · cases h
  | handed a passed => exact .handed h

/-! ### Every run -/

theorem Orderly.empty : Orderly middlewares ({} : Visitor T S) :=
  ⟨by simp, by simp, .inl rfl, by simp⟩

theorem Orderly.start (input : T) : Orderly middlewares (start middlewares input) := by
  rw [Visitor.start, visitMiddleware, if_neg (by simp)]
  split
  · next hnone =>
      have hlen : middlewares.length = 0 := by simpa using hnone
      exact ⟨by simp [Visitor.settle], by simp [Visitor.settle], .inr ⟨rfl, hlen.symm⟩,
        by simp [Visitor.settle]⟩
  · next middleware hm =>
      refine ⟨fun a w hw => ?_, Cells.lt_of_some hm, .inl rfl, fun a w hw => ?_⟩
      · obtain ⟨rfl, rfl⟩ : a = 0 ∧ w = _ := by simpa using Cells.concat_eq_some.mp hw
        rfl
      · obtain ⟨rfl, rfl⟩ : a = 0 ∧ w = _ := by simpa using Cells.concat_eq_some.mp hw
        simp

theorem Orderly.step (h : Orderly middlewares v) (hs : v.step code middlewares e = some v') :
    Orderly middlewares v' := by
  cases step_turn hs with
  | calls _ _ _ _ hnext => exact (h.go ..).of_called ((h.go ..).called hnext)
  | handed hnext => exact h.of_called (h.called hnext)
  | waits => exact ((h.withStack _).go ..).settle ..
  | settles => exact ((h.withStack _).modify fun _ _ => Iff.rfl).settle ..
  | wakes => exact (h.go ..).withStack _

theorem Orderly.indices_eq (h : Orderly middlewares v) :
    v.indices = List.range v.visits.length := by
  refine List.ext_getElem? fun a => ?_
  rw [indices, List.getElem?_map]
  by_cases ha : a < v.visits.length
  · obtain ⟨visit, hv⟩ : ∃ visit, v.visits[a]? = some visit := ⟨_, List.getElem?_eq_getElem ha⟩
    rw [hv, Option.map_some, h.index a visit hv, List.getElem?_range ha]
  · have hle : v.visits.length ≤ a := Nat.le_of_not_lt ha
    rw [List.getElem?_eq_none hle, Option.map_none, List.getElem?_eq_none (by simpa using hle)]

/-- The middlewares that were visited are the first ones of the list, in its order. -/
theorem Orderly.initial (h : Orderly middlewares v) :
    v.indices <+: List.range middlewares.length := by
  rw [h.indices_eq, ← Nat.add_sub_of_le h.bound, List.range_add]
  exact List.prefix_append _ _

variable (middlewares) in
/-- A call of the `next` of a visit is let through: the next middleware is visited, if there is
one, and the promise is not rejected. -/
def LetThrough (v : Visitor T S) (a : Nat) (visit : Visit T S) (passed : T) (v' : Visitor T S) :
    Prop :=
  ∃ visit', v'.visits[a]? = some visit' ∧
    if visit.index + 1 < middlewares.length then
      v'.indices = v.indices ++ [visit.index + 1] ∧ visit'.nexts = [{ passed }]
    else
      v'.indices = v.indices ∧ visit'.nexts = [{ passed, promise := some .fulfilled }]

/-- A call of the `next` of a visit is rejected, and nothing else happens: the counter, which is all
that decides about further visits, stays where it was. -/
def Refused (v : Visitor T S) (a : Nat) (visit : Visit T S) (passed : T) (v' : Visitor T S) :
    Prop :=
  (∃ visit', v'.visits[a]? = some visit' ∧
    visit'.nexts = visit.nexts ++ [{ passed, promise := some refusal }]) ∧
  v'.lastVisited = v.lastVisited ∧ v'.indices = v.indices ∧ v'.stack = v.stack ∧
  ∀ b ≠ a, v'.visits[b]? = v.visits[b]?

/-- A call of `next`, up to where the code that made it goes on. -/
theorem CallsNext.called (h : Orderly middlewares v) (hc : CallsNext code v e a passed)
    (hs : v.step code middlewares e = some v') :
    ∃ body : Call T S → Body S,
      Called middlewares (v.modify a fun call => call.go (body call)) a passed v' := by
  cases hc with
  | handed =>
      have hself : v.modify a (fun call => call.go call.body) = v :=
        congrArg (fun visits => { v with visits }) (List.modify_id a v.visits)
      exact ⟨Call.body, hself.symm ▸ h.called hs⟩
  | @runs answer f stack visit s s' passed hstack hv hbody hcode =>
      refine ⟨fun _ => .running s', ?_⟩
      have hnext : (v.modify f.visit (·.go (.running s'))).next middlewares f.visit passed =
          some v' := by
        simpa [step, hstack, hv, hbody, hcode, move] using hs
      exact (h.go ..).called hnext

theorem CallsNext.spec (h : Orderly middlewares v) (hc : CallsNext code v e a passed)
    (hs : v.step code middlewares e = some v') :
    ∃ visit, v.visits[a]? = some visit ∧
      (visit.nexts = [] ∧ LetThrough middlewares v a visit passed v' ∨
        visit.nexts ≠ [] ∧ Refused v a visit passed v') := by
  obtain ⟨body, hcalled⟩ := hc.called h hs
  have hold : ∀ {w}, (v.modify a fun call => call.go (body call)).visits[a]? = some w →
      ∃ visit, v.visits[a]? = some visit ∧ w.nexts = visit.nexts ∧ w.index = visit.index := by
    intro w hw
    rcases modify_eq_some.mp hw with ⟨-, visit, hv, rfl⟩ | ⟨hne, -⟩
    · exact ⟨visit, hv, rfl, rfl⟩
    · exact absurd rfl hne
  cases hcalled with
  | refused hv hn =>
      obtain ⟨visit, hvisit, hnexts, -⟩ := hold hv
      refine ⟨visit, hvisit, .inr ⟨hnexts ▸ hn, ⟨_, modify_self hv, ?_⟩, rfl, ?_, rfl, ?_⟩⟩
      · rw [← hnexts]
        rfl
      · exact indices_modify.trans indices_modify
      · intro b hb
        exact (modify_ne hb).trans (modify_ne hb)
  | ended hv hn hlast hend =>
      obtain ⟨visit, hvisit, hnexts, -⟩ := hold hv
      refine ⟨visit, hvisit, .inl ⟨hnexts.symm.trans hn, _, modify_self hv, ?_⟩⟩
      rw [if_neg (by rw [h.index a visit hvisit]; omega)]
      refine ⟨indices_modify.trans indices_modify, ?_⟩
      simp [Visit.change, hn]
  | visited hv hn hlast hm =>
      obtain ⟨visit, hvisit, hnexts, -⟩ := hold hv
      refine ⟨visit, hvisit, .inl ⟨hnexts.symm.trans hn, _,
        Cells.append_of_some (modify_self hv), ?_⟩⟩
      rw [h.index a visit hvisit, if_pos (Cells.lt_of_some hm)]
      refine ⟨?_, by simp [Visit.change, hn]⟩
      exact (List.map_append ..).trans
        (congrArg (· ++ [a + 1]) (indices_modify.trans indices_modify))

variable (code middlewares) in
/-- What a step of a visitor may do. -/
structure Disciplined (v : Visitor T S) (e : Event T V) (v' : Visitor T S) : Prop where
  /-- A visit is made by the first call of the `next` of another, and it is that of the middleware
  after it. -/
  visits : v'.indices = v.indices ∨ ∃ a passed visit, CallsNext code v e a passed ∧
    v.visits[a]? = some visit ∧ visit.nexts = [] ∧ v'.indices = v.indices ++ [visit.index + 1]
  first : ∀ a passed visit, CallsNext code v e a passed → v.visits[a]? = some visit →
    visit.nexts = [] → LetThrough middlewares v a visit passed v'
  later : ∀ a passed visit, CallsNext code v e a passed → v.visits[a]? = some visit →
    visit.nexts ≠ [] → Refused v a visit passed v'

theorem Orderly.disciplined (h : Orderly middlewares v)
    (hs : v.step code middlewares e = some v') : Disciplined code middlewares v e v' where
  visits := by
    have hcall : ∀ {a : Nat} {passed : T}, CallsNext code v e a passed →
        v'.indices = v.indices ∨ ∃ a passed visit, CallsNext code v e a passed ∧
          v.visits[a]? = some visit ∧ visit.nexts = [] ∧
          v'.indices = v.indices ++ [visit.index + 1] := by
      intro a passed hc
      obtain ⟨visit, hv, ⟨hn, w, -, hcase⟩ | ⟨-, -, -, hsame, -⟩⟩ := hc.spec h hs
      · split at hcase
        · exact .inr ⟨a, passed, visit, hc, hv, hn, hcase.1⟩
        · exact .inl hcase.1
      · exact .inl hsame
    cases step_turn hs with
    | calls hstack hv hbody hcode hnext => exact hcall (.runs hstack hv hbody hcode)
    | handed => exact hcall .handed
    | waits => exact .inl (indices_settle.trans indices_modify)
    | settles => exact .inl (indices_settle.trans indices_modify)
    | wakes => exact .inl indices_modify
  first a passed visit hc hv hn := by
    obtain ⟨w, hw, ⟨-, hlet⟩ | ⟨hne, -⟩⟩ := hc.spec h hs
    · cases hv.symm.trans hw
      exact hlet
    · cases hv.symm.trans hw
      exact absurd hn hne
  later a passed visit hc hv hn := by
    obtain ⟨w, hw, ⟨hnil, -⟩ | ⟨-, href⟩⟩ := hc.spec h hs
    · cases hv.symm.trans hw
      exact absurd hnil hn
    · cases hv.symm.trans hw
      exact href

end Visitor

/-! ### Inputs side by side -/

namespace Processor

variable {s s' : Processor T S} {p q : Nat} {v v' : Visitor T S} {es : List (ProcessorEvent T V)}

/-- The inputs that were processed, in order. -/
def inputs (es : List (ProcessorEvent T V)) : List T :=
  es.filterMap fun
    | .process input => some input
    | .visitor _ _   => none

/-- What happened to one visitor. -/
def eventsOf (p : Nat) (es : List (ProcessorEvent T V)) : List (Event T V) :=
  es.filterMap fun
    | .process _   => none
    | .visitor q e => if q = p then some e else none

variable (code middlewares) in
/-- There is a visitor for each input, which has made a run of its own. -/
structure Apart (es : List (ProcessorEvent T V)) (s : Processor T S) : Prop where
  inputs : s.visitors.length = (inputs es).length
  run : ∀ p v, s.visitors[p]? = some v → ∃ input, (Processor.inputs es)[p]? = some input ∧
    Machine.exec (Visitor.step code middlewares) (Visitor.start middlewares input)
      (eventsOf p es) = some v
  none : ∀ p, s.visitors.length ≤ p → eventsOf p es = []

theorem step_visitor {e : Event T V} (h : s.step code middlewares (.visitor p e) = some s') :
    ∃ v v', s.visitors[p]? = some v ∧ v.step code middlewares e = some v' ∧
      s'.visitors = s.visitors.set p v' := by
  obtain ⟨_, -, h⟩ := Option.bind_eq_some_iff.mp h
  obtain ⟨v, hv, h⟩ := Option.bind_eq_some_iff.mp h
  obtain ⟨v', hv', h⟩ := Option.bind_eq_some_iff.mp h
  cases h
  exact ⟨v, v', hv, hv', rfl⟩

theorem inputs_snoc_process (es : List (ProcessorEvent T V)) (input : T) :
    inputs (es ++ [.process input]) = inputs es ++ [input] := by
  simp [inputs]

theorem inputs_snoc_visitor (es : List (ProcessorEvent T V)) (p : Nat) (e : Event T V) :
    inputs (es ++ [.visitor p e]) = inputs es := by
  simp [inputs]

theorem eventsOf_snoc_process (es : List (ProcessorEvent T V)) (p : Nat) (input : T) :
    eventsOf p (es ++ [.process input]) = eventsOf p es := by
  simp [eventsOf]

theorem eventsOf_snoc_self (es : List (ProcessorEvent T V)) (p : Nat) (e : Event T V) :
    eventsOf p (es ++ [.visitor p e]) = eventsOf p es ++ [e] := by
  simp [eventsOf]

theorem eventsOf_snoc_ne (es : List (ProcessorEvent T V)) (h : q ≠ p) (e : Event T V) :
    eventsOf p (es ++ [.visitor q e]) = eventsOf p es := by
  simp [eventsOf, h]

theorem Apart.process (h : Apart code middlewares es s) (input : T)
    (hs : s.step code middlewares (.process input) = some s') :
    Apart code middlewares (es ++ [.process input]) s' := by
  cases hs
  refine ⟨?_, fun p v hv => ?_, fun p hp => ?_⟩
  · rw [inputs_snoc_process, List.length_append, List.length_append, h.inputs]
    rfl
  · rw [eventsOf_snoc_process, inputs_snoc_process]
    rcases Cells.concat_eq_some.mp hv with hv | ⟨rfl, rfl⟩
    · obtain ⟨x, hx, hrun⟩ := h.run p v hv
      exact ⟨x, Cells.append_of_some hx, hrun⟩
    · refine ⟨input, by rw [h.inputs]; exact List.getElem?_concat_length, ?_⟩
      rw [h.none _ (Nat.le_refl _)]
      rfl
  · rw [eventsOf_snoc_process]
    exact h.none p (by simp at hp; omega)

theorem Apart.visitor (h : Apart code middlewares es s) {e : Event T V}
    (hs : s.step code middlewares (.visitor p e) = some s') :
    Apart code middlewares (es ++ [.visitor p e]) s' := by
  obtain ⟨v, v', hv, hv', hs'⟩ := step_visitor hs
  refine ⟨?_, fun q w hw => ?_, fun q hq => ?_⟩
  · rw [inputs_snoc_visitor, hs', List.length_set, h.inputs]
  · rw [inputs_snoc_visitor]
    rw [hs'] at hw
    rcases Cells.set_eq_some.mp hw with ⟨rfl, -, rfl⟩ | ⟨hne, hw⟩
    · obtain ⟨input, hinput, hrun⟩ := h.run q v hv
      refine ⟨input, hinput, ?_⟩
      rw [eventsOf_snoc_self]
      exact Machine.exec_snoc.mpr ⟨v, hrun, hv'⟩
    · rw [eventsOf_snoc_ne es (Ne.symm hne)]
      exact h.run q w hw
  · rw [hs', List.length_set] at hq
    have hne : p ≠ q := fun e => by
      have hlt := Cells.lt_of_some hv
      omega
    rw [eventsOf_snoc_ne es hne]
    exact h.none q hq

theorem apart (hx : Machine.exec (step code middlewares) {} es = some s) :
    Apart code middlewares es s := by
  refine Machine.exec_history ⟨rfl, by simp, fun _ _ => rfl⟩ (fun es s e s' _ h hs => ?_) hx
  cases e with
  | process input => exact h.process input hs
  | visitor p e => exact h.visitor hs

theorem Apart.orderly (h : Apart code middlewares es s) (hv : v ∈ s.visitors) :
    v.Orderly middlewares := by
  obtain ⟨p, hp⟩ := List.mem_iff_getElem?.mp hv
  obtain ⟨input, -, hrun⟩ := h.run p v hp
  exact Machine.exec_invariant_of_step (fun _ _ _ hI hs => hI.step hs) (.start input) hrun

/-- **Visiting.**  In every run of a processor: for each input the middlewares that were visited are
the first ones of the list, in order; each further visit is made by the first call of the `next` of
the visit before it, and a later call is refused and changes nothing else; and what has become of an
input is what its own events make of it. -/
theorem visiting (hx : Machine.exec (step code middlewares) {} es = some s) :
    (∀ v ∈ s.visitors, v.indices <+: List.range middlewares.length) ∧
      (∀ v ∈ s.visitors, ∀ (e : Event T V) v', v.step code middlewares e = some v' →
        v.Disciplined code middlewares e v') ∧
      ∀ p v, s.visitors[p]? = some v → ∃ input, (inputs es)[p]? = some input ∧
        Machine.exec (Visitor.step code middlewares) (Visitor.start middlewares input)
          (eventsOf p es) = some v := by
  have h := apart hx
  refine ⟨fun v hv => (h.orderly hv).initial, fun v hv e v' hs => ?_, h.run⟩
  exact (h.orderly hv).disciplined hs

/-- Two inputs, the second within the first, and a `next` that is called again. -/
def interleaved : List (ProcessorEvent Nat Unit) :=
  [.process 1, .visitor 0 (.run ()), .process 5, .visitor 1 (.run ()), .visitor 0 (.handed 0 7),
    .visitor 1 (.run ()), .visitor 1 (.run ()), .visitor 0 (.run ()), .visitor 0 (.run ()),
    .visitor 0 (.wake 1 .other), .visitor 0 (.run ()), .visitor 1 (.wake 0 .other)]

theorem visiting_interleaved : ∃ s, Machine.exec (step script passesAndThrows) {} interleaved =
    some s ∧ (∀ v ∈ s.visitors, v.indices <+: List.range 2) ∧
      ∀ p v, s.visitors[p]? = some v → ∃ input, (inputs interleaved)[p]? = some input ∧
        Machine.exec (Visitor.step script passesAndThrows) (Visitor.start passesAndThrows input)
          (eventsOf p interleaved) = some v := by
  obtain ⟨s, hs⟩ : ∃ s, Machine.exec (step script passesAndThrows) {} interleaved = some s :=
    Option.isSome_iff_exists.mp (by decide)
  exact ⟨s, hs, (visiting hs).1, (visiting hs).2.2⟩

end Processor

end DemoApp.Common
