import DemoApp.Support.Machine
import DemoApp.Support.Cells

/-!
# Common — Middleware

`common/Middleware.ts` of the observer and of the SFU, which are the same file: `createProcessor`
with the visitor that it makes for each input.

* A middleware is any async function: called with its input it stands in a state of `S`, and
  `code s answer` is the next thing its code does in the state `s`, where `answer` is whatever it
  reads of the world around it.  It may call its `next`, wait, or settle its promise; what it
  leaves behind after that (timers, callbacks) goes on like code that waits.
* `next` is an async function around `visitMiddleware`: its promise is settled when that ends,
  which is when the first part of the middleware that it calls is over.
* The calls that are under way stand on a stack, the innermost first.  Code that waits goes on
  when the stack is empty; whoever was handed a `next` may call it at any moment.
-/

namespace DemoApp.Common

variable {T S V : Type}

/-- How a promise is settled; what was thrown stands as its text. -/
inductive Outcome where
  | fulfilled
  | rejected (reason : String)
  deriving DecidableEq

/-- What wakes code that waits: the promise of the `call`th call of its `next`, or anything else. -/
inductive Wake where
  | settled (call : Nat) (outcome : Outcome)
  | other

inductive Move (T S : Type) where
  | next (passed : T) (s : S)
  | wait (k : Wake → S)
  | settle (outcome : Outcome) (k : Wake → S)

/-- Where the code of a middleware is. -/
inductive Body (S : Type) where
  | running (s : S)
  | waiting (k : Wake → S)

/-- A call of `next`, with its promise. -/
structure NextCall (T : Type) where
  passed : T
  promise : Option Outcome := none
  deriving DecidableEq

/-- A call of a middleware, with its promise and the calls of its `next`. -/
structure Call (T S : Type) where
  input : T
  body : Body S
  outcome : Option Outcome := none
  nexts : List (NextCall T) := []

/-- The call that `visitMiddleware` makes. -/
structure Visit (T S : Type) extends Call T S where
  index : Nat

/-- The position of a call of `next`: whose it is, and how many there were before. -/
structure NextRef where
  visit : Nat
  call : Nat
  deriving DecidableEq

/-- A visit whose code runs, and the call of `next` that waits for it to return. -/
structure Frame where
  visit : Nat
  caller : Option NextRef
  deriving DecidableEq

/-- What `createVisitor` makes. -/
structure Visitor (T S : Type) where
  lastVisited : Int := -1
  visits : List (Visit T S) := []
  stack : List Frame := []

inductive Event (T V : Type) where
  /-- The code on top of the stack runs. -/
  | run (answer : V)
  /-- Code that waits is woken. -/
  | wake (visit : Nat) (w : Wake)
  /-- Somebody calls the `next` that a visit was given. -/
  | handed (visit : Nat) (passed : T)

/-- The error of `visitMiddleware`. -/
def refusal : Outcome := .rejected "Each middleware must be visited sequentially and only once"

/-- What may wake the code of a call. -/
def Call.Wakes (call : Call T S) : Wake → Prop
  | .settled c outcome => (call.nexts[c]?).bind NextCall.promise = some outcome
  | .other             => True

instance (call : Call T S) : (w : Wake) → Decidable (call.Wakes w)
  | .settled c outcome =>
      inferInstanceAs (Decidable ((call.nexts[c]?).bind NextCall.promise = some outcome))
  | .other             => isTrue trivial

/-- The code of a call goes on elsewhere. -/
def Call.go (call : Call T S) (body : Body S) : Call T S := { call with body }

/-- An async function returns or throws; its promise is settled once. -/
def Call.settle (call : Call T S) (outcome : Outcome) : Call T S :=
  { call with outcome := call.outcome <|> some outcome }

/-- The promise of the `c`th call of `next` is settled. -/
def Call.answer (call : Call T S) (c : Nat) (outcome : Outcome) : Call T S :=
  { call with nexts := call.nexts.modify c fun x => { x with promise := some outcome } }

def Visit.change (f : Call T S → Call T S) (visit : Visit T S) : Visit T S :=
  { visit with toCall := f visit.toCall }

namespace Visitor

def modify (v : Visitor T S) (a : Nat) (f : Call T S → Call T S) : Visitor T S :=
  { v with visits := v.visits.modify a (Visit.change f) }

/-- The promise of a call of `next` is settled. -/
def settle (v : Visitor T S) (caller : Option NextRef) (outcome : Outcome) : Visitor T S :=
  match caller with
  | none   => v
  | some r => v.modify r.visit (·.answer r.call outcome)

/-- `visitMiddleware`, for the call of `next` that it is made by. -/
def visitMiddleware (middlewares : List (T → S)) (v : Visitor T S) (input : T) (index : Nat)
    (caller : Option NextRef) : Visitor T S :=
  if (index : Int) ≠ v.lastVisited + 1 then v.settle caller refusal
  else
    match middlewares[index]? with
    | none            => { v with lastVisited := index }.settle caller .fulfilled
    | some middleware =>
        { lastVisited := index
          visits := v.visits ++ [{ input, body := .running (middleware input), index }]
          stack := ⟨v.visits.length, caller⟩ :: v.stack }

/-- The function `next` of a visit is called. -/
def next (middlewares : List (T → S)) (v : Visitor T S) (a : Nat) (passed : T) :
    Option (Visitor T S) :=
  (v.visits[a]?).map fun visit =>
    (v.modify a fun call => { call with nexts := call.nexts ++ [{ passed }] }).visitMiddleware
      middlewares visit.input (visit.index + 1) (some ⟨a, visit.nexts.length⟩)

/-- The function that `createVisitor` returns is called. -/
def start (middlewares : List (T → S)) (input : T) : Visitor T S :=
  visitMiddleware middlewares {} input 0 none

/-- The code on top of the stack makes a move; `visitMiddleware` returns when it stops. -/
def move (middlewares : List (T → S)) (v : Visitor T S) (f : Frame) (stack : List Frame) :
    Move T S → Option (Visitor T S)
  | .next passed s    => (v.modify f.visit (·.go (.running s))).next middlewares f.visit passed
  | .wait k           =>
      some (({ v with stack }.modify f.visit (·.go (.waiting k))).settle f.caller .fulfilled)
  | .settle outcome k =>
      some (({ v with stack }.modify f.visit fun call =>
        (call.go (.waiting k)).settle outcome).settle f.caller .fulfilled)

def step (code : S → V → Move T S) (middlewares : List (T → S)) (v : Visitor T S) :
    Event T V → Option (Visitor T S)
  | .run answer      => do
      let f :: stack := v.stack | none
      let visit ← v.visits[f.visit]?
      let .running s := visit.body | none
      v.move middlewares f stack (code s answer)
  | .wake a w        => do
      guard (v.stack = [])
      let visit ← v.visits[a]?
      let .waiting k := visit.body | none
      guard (visit.Wakes w)
      some { v.modify a (·.go (.running (k w))) with stack := [⟨a, none⟩] }
  | .handed a passed => v.next middlewares a passed

end Visitor

/-- What `createProcessor` returns, with the visitors it made so far; `running` are those of the
frames of the call stack, the innermost first. -/
structure Processor (T S : Type) where
  visitors : List (Visitor T S) := []
  running : List Nat := []

inductive ProcessorEvent (T V : Type) where
  | process (input : T)
  | visitor (p : Nat) (e : Event T V)

namespace Processor

/-- Only the innermost code runs, and code that waits goes on when nothing runs. -/
def Enabled (s : Processor T S) (p : Nat) : Event T V → Prop
  | .run _      => s.running.head? = some p
  | .wake _ _   => s.running = []
  | .handed _ _ => True

instance (s : Processor T S) (p : Nat) : (e : Event T V) → Decidable (s.Enabled p e)
  | .run _      => inferInstanceAs (Decidable (s.running.head? = some p))
  | .wake _ _   => inferInstanceAs (Decidable (s.running = []))
  | .handed _ _ => isTrue trivial

def step (code : S → V → Move T S) (middlewares : List (T → S)) (s : Processor T S) :
    ProcessorEvent T V → Option (Processor T S)
  | .process input =>
      let v := Visitor.start middlewares input
      some
        { visitors := s.visitors ++ [v]
          running := List.replicate v.stack.length s.visitors.length ++ s.running }
  | .visitor p e => do
      guard (s.Enabled p e)
      let v ← s.visitors[p]?
      let v' ← v.step code middlewares e
      some
        { visitors := s.visitors.set p v'
          running :=
            if v.stack.length < v'.stack.length then p :: s.running
            else if v'.stack.length < v.stack.length then s.running.tail
            else s.running }

end Processor

/-! ### Scripts -/

/-- A statement of an async function over numbers. -/
inductive Command where
  | next (passed : Nat)
  | await
  | throw (reason : String)

/-- The code of an async function that makes one statement after the other, and throws what a
promise that it awaits is rejected with. -/
def script : List Command → Unit → Move Nat (List Command)
  | [],                _ => .settle .fulfilled fun _ => []
  | .next passed :: s, _ => .next passed s
  | .throw reason :: _, _ => .settle (.rejected reason) fun _ => []
  | .await :: s,       _ =>
      .wait fun
        | .settled _ (.rejected reason) => [.throw reason]
        | _                             => s

/-- `async (x, next) => { await next(x + 1); }` and `async x => { await something; throw ... }`. -/
def passesAndThrows : List (Nat → List Command) :=
  [fun x => [.next (x + 1), .await], fun _ => [.await, .throw "late"]]

end DemoApp.Common
