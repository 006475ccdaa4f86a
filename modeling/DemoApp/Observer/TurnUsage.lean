import Mathlib.Algebra.Order.Field.Basic
import Mathlib.Algebra.Order.Field.Rat
import Mathlib.Algebra.Order.Ring.Rat
import Mathlib.Data.Finset.Card
import Mathlib.Tactic.NormNum
import DemoApp.Support.Script

/-!
# Observer — TurnUsage

`evaluators/turnEvaluator.ts`: the gauge `turn_usage`, the percentage of the clients with a
candidate pair over a TURN server.

* Numbers are exact, and a division by zero has no value.
* `turnUsage_iff`: if the peer connections belong to clients of the storage, the gauge is set to the
  percentage of its clients that use TURN, between 0 and 100, if and only if there are clients.
* `turnUsage_empty`: without clients it is set to no number.
-/

namespace DemoApp.Observer.TurnUsage

abbrev ClientId := String

structure IceRemoteCandidate where
  id : Option String
  candidateType : Option String

structure IceCandidatePair where
  remoteCandidateId : Option String

/-- An entry of `peerConnectionStorage`. -/
structure PeerConnection where
  clientId : Option ClientId
  iceRemoteCandidates : List IceRemoteCandidate
  iceCandidatePairs : List IceCandidatePair

/-- What the evaluator reads: the entries of one storage, and the keys of the other. -/
structure Storages where
  peerConnectionStorage : List (String × PeerConnection)
  clientStorage : Finset ClientId

def turnCandidateIds (peerConnection : PeerConnection) : List (Option String) :=
  (peerConnection.iceRemoteCandidates.filter fun c => c.candidateType = some "relay").map
    IceRemoteCandidate.id

/-- `isClientUseTurn`, if it is not empty. -/
def isClientUseTurn (peerConnection : PeerConnection) : Bool :=
  0 < (peerConnection.iceCandidatePairs.filter fun c =>
    c.remoteCandidateId ∈ turnCandidateIds peerConnection).length

/-- The body of the loop. -/
def visit (clientsUsingTurn : Finset ClientId) (entry : String × PeerConnection) :
    Finset ClientId :=
  match truthy entry.2.clientId with
  | none          => clientsUsingTurn
  | some clientId =>
      if isClientUseTurn entry.2 then insert clientId clientsUsingTurn else clientsUsingTurn

def clientsUsingTurn (s : Storages) : Finset ClientId := s.peerConnectionStorage.foldl visit ∅

/-- `(n / d) * 100`. -/
def percentage (n d : Nat) : Option ℚ := if d = 0 then none else some ((n / d : ℚ) * 100)

/-- What the gauge is set to. -/
def turnUsage (s : Storages) : Option ℚ :=
  percentage (clientsUsingTurn s).card s.clientStorage.card

/-! ### Who uses TURN -/

/-- Some pair of the connection has a remote candidate of the type `relay`. -/
def Relayed (peerConnection : PeerConnection) : Prop :=
  ∃ pair ∈ peerConnection.iceCandidatePairs, ∃ c ∈ peerConnection.iceRemoteCandidates,
    c.candidateType = some "relay" ∧ pair.remoteCandidateId = c.id

instance (peerConnection : PeerConnection) : Decidable (Relayed peerConnection) :=
  inferInstanceAs (Decidable (∃ pair ∈ peerConnection.iceCandidatePairs,
    ∃ c ∈ peerConnection.iceRemoteCandidates,
      c.candidateType = some "relay" ∧ pair.remoteCandidateId = c.id))

/-- The client owns a relayed connection. -/
def UsesTurn (s : Storages) (clientId : ClientId) : Prop :=
  ∃ x ∈ s.peerConnectionStorage, truthy x.2.clientId = some clientId ∧ Relayed x.2

instance (s : Storages) (clientId : ClientId) : Decidable (UsesTurn s clientId) :=
  inferInstanceAs (Decidable (∃ x ∈ s.peerConnectionStorage,
    truthy x.2.clientId = some clientId ∧ Relayed x.2))

/-- The client id of a connection, when it is set, is in the storage of the clients. -/
def Owned (s : Storages) : Prop :=
  ∀ x ∈ s.peerConnectionStorage, ∀ clientId ∈ truthy x.2.clientId, clientId ∈ s.clientStorage

/-- The gauge is set to the percentage of the clients that use TURN. -/
def IsPercentage (s : Storages) : Prop :=
  ∃ q, turnUsage s = some q ∧ 0 ≤ q ∧ q ≤ 100 ∧
    q = if s.clientStorage = ∅ then 0
      else 100 * ((s.clientStorage.filter fun c => UsesTurn s c).card : ℚ) / s.clientStorage.card

theorem isClientUseTurn_iff {peerConnection : PeerConnection} :
    isClientUseTurn peerConnection = true ↔ Relayed peerConnection := by
  rw [isClientUseTurn, decide_eq_true_eq, List.length_pos_iff_exists_mem]
  refine exists_congr fun pair => ?_
  rw [List.mem_filter, decide_eq_true_eq, turnCandidateIds, List.mem_map]
  refine and_congr_right fun _ => exists_congr fun c => ?_
  rw [List.mem_filter, decide_eq_true_eq, and_assoc, eq_comm (a := c.id)]

/-- A connection puts its client in the set, if it is relayed. -/
theorem mem_visit {used : Finset ClientId} {x : String × PeerConnection} {c : ClientId} :
    c ∈ visit used x ↔ c ∈ used ∨ (truthy x.2.clientId = some c ∧ Relayed x.2) := by
  rw [visit]
  cases truthy x.2.clientId with
  | none => simp
  | some clientId =>
      dsimp only
      split
      · next h =>
          have hr := isClientUseTurn_iff.mp h
          simp [hr, or_comm, eq_comm]
      · next h =>
          have hr : ¬Relayed x.2 := mt isClientUseTurn_iff.mpr h
          simp [hr]

theorem mem_foldl_visit {used : Finset ClientId} {l : List (String × PeerConnection)}
    {c : ClientId} :
    c ∈ l.foldl visit used ↔
      c ∈ used ∨ ∃ x ∈ l, truthy x.2.clientId = some c ∧ Relayed x.2 := by
  induction l generalizing used with
  | nil => simp
  | cons x l ih => rw [List.foldl_cons, ih, mem_visit, List.exists_mem_cons_iff, or_assoc]

/-- The set holds the clients that use TURN. -/
theorem mem_clientsUsingTurn {s : Storages} {c : ClientId} :
    c ∈ clientsUsingTurn s ↔ UsesTurn s c :=
  mem_foldl_visit.trans (or_iff_right (Finset.notMem_empty c))

theorem clientsUsingTurn_eq {s : Storages} (h : Owned s) :
    clientsUsingTurn s = s.clientStorage.filter fun c => UsesTurn s c := by
  ext c
  rw [Finset.mem_filter, mem_clientsUsingTurn]
  constructor
  · intro hc
    refine ⟨?_, hc⟩
    obtain ⟨x, hx, hid, -⟩ := hc
    exact h x hx c hid
  · rintro ⟨-, hc⟩
    exact hc

/-! ### The percentage -/

/-- The quotient of a part by the whole. -/
theorem percentage_le {n d : Nat} (hd : d ≠ 0) (h : n ≤ d) :
    0 ≤ (n / d : ℚ) * 100 ∧ (n / d : ℚ) * 100 ≤ 100 := by
  have hpos : (0 : ℚ) < d := by exact_mod_cast Nat.pos_of_ne_zero hd
  have hnonneg : (0 : ℚ) ≤ n / d := div_nonneg (by exact_mod_cast Nat.zero_le n) hpos.le
  have hle : (n / d : ℚ) ≤ 1 := (div_le_one hpos).mpr (by exact_mod_cast h)
  exact ⟨mul_nonneg hnonneg (by decide), mul_le_of_le_one_left (by decide) hle⟩

/-- **The gauge shows the percentage**, if the peer connections belong to clients of the storage,
exactly when there are clients. -/
theorem turnUsage_iff {s : Storages} (h : Owned s) :
    IsPercentage s ↔ s.clientStorage.Nonempty := by
  rw [IsPercentage, turnUsage, clientsUsingTurn_eq h, percentage]
  by_cases he : s.clientStorage = ∅
  · rw [if_pos (Finset.card_eq_zero.mpr he)]
    refine iff_of_false ?_ (Finset.not_nonempty_iff_eq_empty.mpr he)
    rintro ⟨q, hq, -⟩
    cases hq
  · have hcard : s.clientStorage.card ≠ 0 := mt Finset.card_eq_zero.mp he
    rw [if_neg hcard, if_neg he]
    obtain ⟨hnonneg, hle⟩ := percentage_le hcard
      (Finset.card_le_card (Finset.filter_subset (fun c => UsesTurn s c) s.clientStorage))
    refine iff_of_true ⟨_, rfl, hnonneg, hle, ?_⟩ (Finset.nonempty_iff_ne_empty.mpr he)
    rw [mul_comm, mul_div_assoc]

/-- Two clients, one of which has two relayed connections. -/
def storages : Storages where
  peerConnectionStorage :=
    [("p", ⟨some "a", [⟨some "x", some "relay"⟩], [⟨some "x"⟩]⟩),
      ("q", ⟨some "a", [⟨some "x", some "relay"⟩, ⟨some "y", some "host"⟩], [⟨some "x"⟩]⟩),
      ("r", ⟨some "b", [⟨some "x", some "relay"⟩, ⟨some "y", some "host"⟩], [⟨some "y"⟩]⟩),
      ("s", ⟨none, [⟨some "x", some "relay"⟩], [⟨some "x"⟩]⟩)]
  clientStorage := {"a", "b"}

theorem turnUsage_iff_storages : IsPercentage storages ∧ turnUsage storages = some 50 := by
  have howned : Owned storages := by unfold Owned; decide
  have hused : (clientsUsingTurn storages).card = 1 := by decide
  have hclients : storages.clientStorage.card = 2 := by decide
  refine ⟨(turnUsage_iff howned).mpr ⟨"a", by decide⟩, ?_⟩
  rw [turnUsage, hused, hclients]
  norm_num [percentage]

/-- **There are no clients**, and the gauge is set to zero divided by zero. -/
theorem turnUsage_empty :
    Owned ⟨[], ∅⟩ ∧ turnUsage ⟨[], ∅⟩ = none ∧ ¬IsPercentage ⟨[], ∅⟩ := by
  have hnone : turnUsage ⟨[], ∅⟩ = none := rfl
  refine ⟨fun x hx => absurd hx List.not_mem_nil, hnone, ?_⟩
  rintro ⟨q, hq, -⟩
  cases hnone.symm.trans hq

end DemoApp.Observer.TurnUsage
