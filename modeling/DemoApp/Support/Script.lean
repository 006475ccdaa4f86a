/-!
# Support — Script

What the components share of ECMAScript and of `ws`: what is taken for true of a value that may
be `undefined`, and the arguments of `webSocket.close`.
-/

/-- A string that is neither missing nor empty. -/
def truthy (s : Option String) : Option String := s.filter fun s => s ≠ ""

/-- A number that is neither missing nor zero. -/
def truthyNumber : Option Nat → Bool
  | none | some 0 => false
  | some (_ + 1)  => true

/-- The arguments of `webSocket.close`. -/
structure CloseRequest where
  code : Nat
  reason : String
  deriving DecidableEq
