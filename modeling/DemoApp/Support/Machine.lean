import Mathlib.Data.List.Induction
import Mathlib.Tactic.Common

/-!
# Support — Machine

Runs of a machine given by a partial step function: `step s e` is the state after the event
`e`, and `none` when `e` cannot happen in `s`.  `exec` runs a list of events, and
`Along step G s es` says that each step of the run of `es` from `s` meets the condition `G`,
read at the state before the step.

Two induction rules carry every result about runs: `exec_invariant` for a predicate of the
state, and `exec_history` for one that also reads the events so far.  `exec_simulation` follows a
run in another machine, `throughout_iff_along` says when every state of a run has a property,
`exec_thin` leaves out of a run what changes nothing, and `exec_share` finds the run of a part in
that of the whole.
-/

namespace Machine

variable {σ ε : Type*} {step : σ → ε → Option σ} {G : σ → ε → Prop}

/-- The state after the events of a list, in order. -/
def exec (step : σ → ε → Option σ) : σ → List ε → Option σ
  | s, []      => some s
  | s, e :: es => (step s e).bind fun s' => exec step s' es

/-- Every step of the run of `es` from `s` meets `G`, at the state before it. -/
def Along (step : σ → ε → Option σ) (G : σ → ε → Prop) : σ → List ε → Prop
  | _, []      => True
  | s, e :: es => G s e ∧ ∀ s', step s e = some s' → Along step G s' es

instance decidableAlong [∀ s e, Decidable (G s e)] :
    ∀ (es : List ε) (s : σ), Decidable (Along step G s es)
  | [],      _ => isTrue trivial
  | e :: es, s =>
      match h : step s e with
      | none    => decidable_of_iff (G s e) (by simp [Along, h])
      | some s' =>
          have := decidableAlong es s'
          decidable_of_iff (G s e ∧ Along step G s' es) (by simp [Along, h])

@[simp] theorem exec_nil (s : σ) : exec step s [] = some s := rfl

theorem exec_cons {s s' : σ} {e : ε} {es : List ε} :
    exec step s (e :: es) = some s' ↔ ∃ s₁, step s e = some s₁ ∧ exec step s₁ es = some s' := by
  simp [exec, Option.bind_eq_some_iff]

/-- A run of `es ++ fs` is a run of `es`, then one of `fs`. -/
theorem exec_append {es fs : List ε} {s s' : σ} :
    exec step s (es ++ fs) = some s' ↔
      ∃ s₁, exec step s es = some s₁ ∧ exec step s₁ fs = some s' := by
  induction es generalizing s with
  | nil => simp
  | cons e es ih =>
      simp only [List.cons_append, exec_cons, ih]
      constructor
      · rintro ⟨s₁, h₁, s₂, h₂, h₃⟩
        exact ⟨s₂, ⟨s₁, h₁, h₂⟩, h₃⟩
      · rintro ⟨s₂, ⟨s₁, h₁, h₂⟩, h₃⟩
        exact ⟨s₁, h₁, s₂, h₂, h₃⟩

theorem exec_snoc {es : List ε} {e : ε} {s s' : σ} :
    exec step s (es ++ [e]) = some s' ↔ ∃ s₁, exec step s es = some s₁ ∧ step s₁ e = some s' := by
  simp [exec_append, exec_cons]

theorem along_append {es fs : List ε} {s : σ} :
    Along step G s (es ++ fs) ↔
      Along step G s es ∧ ∀ s', exec step s es = some s' → Along step G s' fs := by
  induction es generalizing s with
  | nil => simp [Along]
  | cons e es ih =>
      simp only [List.cons_append, Along, ih, exec_cons]
      constructor
      · rintro ⟨hG, h⟩
        refine ⟨⟨hG, fun s₁ h₁ => (h s₁ h₁).1⟩, ?_⟩
        rintro s' ⟨s₁, h₁, h₂⟩
        exact (h s₁ h₁).2 s' h₂
      · rintro ⟨⟨hG, h⟩, hfs⟩
        exact ⟨hG, fun s₁ h₁ => ⟨h s₁ h₁, fun s' h₂ => hfs s' ⟨s₁, h₁, h₂⟩⟩⟩

theorem along_snoc {es : List ε} {e : ε} {s s₁ : σ} (h : exec step s es = some s₁) :
    Along step G s (es ++ [e]) ↔ Along step G s es ∧ G s₁ e := by
  simp [along_append, Along, h]

theorem Along.mono {G' : σ → ε → Prop} (hG : ∀ s e, G s e → G' s e) :
    ∀ {es : List ε} {s : σ}, Along step G s es → Along step G' s es
  | [], _, _ => trivial
  | _ :: _, _, ⟨h, t⟩ => ⟨hG _ _ h, fun s' hs => (t s' hs).mono hG⟩

theorem Along.and {G' : σ → ε → Prop} :
    ∀ {es : List ε} {s : σ}, Along step G s es → Along step G' s es →
      Along step (fun s e => G s e ∧ G' s e) s es
  | [], _, _, _ => trivial
  | _ :: _, _, ⟨h, t⟩, ⟨h', t'⟩ => ⟨⟨h, h'⟩, fun s' hs => (t s' hs).and (t' s' hs)⟩

/-- A condition that each event of a list meets in every state. -/
theorem along_of_forall :
    ∀ {es : List ε} {s : σ}, (∀ e ∈ es, ∀ s, G s e) → Along step G s es
  | [], _, _ => trivial
  | e :: _, s, h =>
      ⟨h e List.mem_cons_self s, fun _ _ =>
        along_of_forall fun e' he => h e' (List.mem_cons_of_mem e he)⟩

/-- Along a run, a condition that reads only the events. -/
theorem along_iff_forall {G : ε → Prop} {es : List ε} {s s' : σ} (hx : exec step s es = some s') :
    Along step (fun _ => G) s es ↔ ∀ e ∈ es, G e := by
  constructor
  · intro h
    induction es generalizing s with
    | nil => simp
    | cons e es ih =>
        obtain ⟨s₁, h₁, h₂⟩ := exec_cons.mp hx
        exact List.forall_mem_cons.mpr ⟨h.1, ih h₂ (h.2 s₁ h₁)⟩
  · intro h
    exact along_of_forall fun e he _ => h e he

/-- **Invariants of runs.**  What every step meeting `G` keeps, every run along `G` keeps. -/
theorem exec_invariant {I : σ → Prop}
    (hstep : ∀ s e s', I s → G s e → step s e = some s' → I s') :
    ∀ {es : List ε} {s s' : σ}, I s → Along step G s es → exec step s es = some s' → I s'
  | [], _, _, hI, _, hx => by cases hx; exact hI
  | _ :: _, _, _, hI, ⟨hG, ha⟩, hx => by
      obtain ⟨s₁, h₁, h₂⟩ := exec_cons.mp hx
      exact exec_invariant hstep (hstep _ _ _ hI hG h₁) (ha s₁ h₁) h₂

/-- The rule for a condition-free machine. -/
theorem exec_invariant_of_step {I : σ → Prop}
    (hstep : ∀ s e s', I s → step s e = some s' → I s') {es : List ε} {s s' : σ} (hI : I s)
    (hx : exec step s es = some s') : I s' :=
  exec_invariant (G := fun _ _ => True) (fun s e s' hI _ h => hstep s e s' hI h) hI
    (along_of_forall fun _ _ _ => trivial) hx

/-- **Invariants of histories.**  The predicate reads the events that led to the state. -/
theorem exec_history {I : List ε → σ → Prop} {s₀ : σ} (h₀ : I [] s₀)
    (hstep : ∀ es s e s', exec step s₀ es = some s → I es s → step s e = some s' →
      I (es ++ [e]) s') {es : List ε} {s : σ} (hx : exec step s₀ es = some s) : I es s := by
  induction es using List.reverseRecOn generalizing s with
  | nil => cases hx; exact h₀
  | append_singleton es e ih =>
      obtain ⟨s₁, h₁, h₂⟩ := exec_snoc.mp hx
      exact hstep es s₁ e s h₁ (ih h₁) h₂

/-- Every state that the run of `es` from `s` reaches has the property `P`, which also reads the
events that led to it. -/
def Throughout (step : σ → ε → Option σ) (P : List ε → σ → Prop) (s : σ) (es : List ε) : Prop :=
  ∀ fs s', fs <+: es → exec step s fs = some s' → P fs s'

theorem throughout_nil {P : List ε → σ → Prop} {s : σ} : Throughout step P s [] ↔ P [] s := by
  constructor
  · intro h
    exact h [] s (List.nil_prefix) rfl
  · intro h fs s' hp hx
    obtain rfl := List.prefix_nil.mp hp
    cases hx
    exact h

theorem throughout_snoc {P : List ε → σ → Prop} {es : List ε} {e : ε} {s s' : σ}
    (hx : exec step s (es ++ [e]) = some s') :
    Throughout step P s (es ++ [e]) ↔ Throughout step P s es ∧ P (es ++ [e]) s' := by
  constructor
  · intro h
    exact ⟨fun fs t hp => h fs t (hp.trans (List.prefix_append _ _)), h _ _ (List.prefix_refl _) hx⟩
  · rintro ⟨h, hP⟩ fs t hp hx'
    rcases List.prefix_concat_iff.mp hp with rfl | hp
    · cases hx.symm.trans hx'
      exact hP
    · exact h fs t hp hx'

/-- **Exact conditions.**  Where steps along `G` keep an invariant that gives `P`, and the others
break `P`, the runs along `G` are those with `P` throughout. -/
theorem throughout_iff_along {P I : List ε → σ → Prop} {s₀ : σ} (h₀ : I [] s₀)
    (hP : ∀ es s, I es s → P es s)
    (hkeep : ∀ es s e s', exec step s₀ es = some s → I es s → step s e = some s' → G s e →
      I (es ++ [e]) s')
    (hbreak : ∀ es s e s', exec step s₀ es = some s → I es s → step s e = some s' → ¬G s e →
      ¬P (es ++ [e]) s') {es : List ε} {s : σ} (hx : exec step s₀ es = some s) :
    Throughout step P s₀ es ↔ Along step G s₀ es := by
  suffices h : (Throughout step P s₀ es ↔ Along step G s₀ es) ∧
      (Along step G s₀ es → I es s) from h.1
  refine exec_history (I := fun es s => (Throughout step P s₀ es ↔ Along step G s₀ es) ∧
    (Along step G s₀ es → I es s)) ⟨?_, fun _ => h₀⟩ (fun es s e s' hx ih he => ?_) hx
  · exact throughout_nil.trans (iff_of_true (hP _ _ h₀) trivial)
  · obtain ⟨hiff, hI⟩ := ih
    rw [throughout_snoc (exec_snoc.mpr ⟨s, hx, he⟩), along_snoc hx, hiff]
    refine ⟨and_congr_right fun ha => ?_, fun ⟨ha, hG⟩ => hkeep es s e s' hx (hI ha) he hG⟩
    constructor
    · intro hp
      by_contra hG
      exact hbreak es s e s' hx (hI ha) he hG hp
    · intro hG
      exact hP _ _ (hkeep es s e s' hx (hI ha) he hG)

/-- **Simulations.**  A machine that follows every step follows every run. -/
theorem exec_simulation {τ : Type*} {follow : τ → ε → Option τ} {R : σ → τ → Prop}
    (hstep : ∀ s t e s', R s t → G s e → step s e = some s' →
      ∃ t', follow t e = some t' ∧ R s' t') :
    ∀ {es : List ε} {s s' : σ} {t : τ}, R s t → Along step G s es → exec step s es = some s' →
      ∃ t', exec follow t es = some t' ∧ R s' t'
  | [], _, _, t, hR, _, hx => by cases hx; exact ⟨t, rfl, hR⟩
  | _ :: _, _, _, _, hR, ⟨hG, ha⟩, hx => by
      obtain ⟨s₁, h₁, h₂⟩ := exec_cons.mp hx
      obtain ⟨t₁, hf, hR₁⟩ := hstep _ _ _ _ hR hG h₁
      obtain ⟨t', hx', hR'⟩ := exec_simulation hstep hR₁ (ha s₁ h₁) h₂
      exact ⟨t', exec_cons.mpr ⟨t₁, hf, hx'⟩, hR'⟩

/-! ### Steps left out -/

/-- The events of the run that `keep` keeps, at the state before each.  Of what cannot happen
nothing is left out. -/
def thin (step : σ → ε → Option σ) (keep : σ → ε → Bool) : σ → List ε → List ε
  | _, []      => []
  | s, e :: es =>
      match step s e with
      | none    => e :: es
      | some s' => if keep s e then e :: thin step keep s' es else thin step keep s' es

/-- **Stuttering.**  Events that leave the state as it is can be left out of a run. -/
theorem exec_thin {keep : σ → ε → Bool} {es : List ε} {s s' : σ} (hx : exec step s es = some s')
    (ha : Along step (fun s e => keep s e = false → ∀ s', step s e = some s' → s' = s) s es) :
    exec step s (thin step keep s es) = some s' := by
  induction es generalizing s with
  | nil => exact hx
  | cons e es ih =>
      obtain ⟨s₁, h₁, h₂⟩ := exec_cons.mp hx
      have hrest : exec step s₁ (thin step keep s₁ es) = some s' := ih h₂ (ha.2 s₁ h₁)
      simp only [thin, h₁]
      split
      · exact exec_cons.mpr ⟨s₁, h₁, hrest⟩
      · next hk =>
          obtain rfl : s₁ = s := ha.1 (Bool.eq_false_iff.mpr hk) s₁ h₁
          exact hrest

/-! ### Parts -/

section Parts

variable {τ φ : Type*} {evs : σ → ε → List φ}

/-- The events of a part in the run of the whole: `evs s e` are its events in the step `e`
from `s`. -/
def share (step : σ → ε → Option σ) (evs : σ → ε → List φ) : σ → List ε → List φ
  | _, []      => []
  | s, e :: es =>
      match step s e with
      | none    => []
      | some s' => evs s e ++ share step evs s' es

theorem share_cons {s s' : σ} {e : ε} {es : List ε} (he : step s e = some s') :
    share step evs s (e :: es) = evs s e ++ share step evs s' es := by
  simp only [share, he]

/-- Where they do not depend on the state. -/
theorem share_const {f : ε → List φ} {s s' : σ} {es : List ε} (hx : exec step s es = some s') :
    share step (fun _ => f) s es = es.flatMap f := by
  induction es generalizing s with
  | nil => rfl
  | cons e es ih =>
      obtain ⟨s₁, h₁, hx⟩ := exec_cons.mp hx
      rw [share_cons h₁, ih hx, List.flatMap_cons]

variable {part : τ → φ → Option τ} {view : σ → τ}

/-- **Projections.**  Where every step of the whole is a run of the part, so is every run. -/
theorem exec_share
    (hstep : ∀ s e s', step s e = some s' → exec part (view s) (evs s e) = some (view s'))
    {es : List ε} {s s' : σ} (hx : exec step s es = some s') :
    exec part (view s) (share step evs s es) = some (view s') := by
  induction es generalizing s with
  | nil => cases hx; rfl
  | cons e es ih =>
      obtain ⟨s₁, h₁, h₂⟩ := exec_cons.mp hx
      rw [share_cons h₁]
      exact exec_append.mpr ⟨view s₁, hstep s e s₁ h₁, ih h₂⟩

/-- What the steps of the whole promise of the events of the part. -/
theorem along_share {H : τ → φ → Prop}
    (hstep : ∀ s e s', step s e = some s' → exec part (view s) (evs s e) = some (view s'))
    (hcond : ∀ s e s', step s e = some s' → G s e → Along part H (view s) (evs s e))
    {es : List ε} {s s' : σ} (hx : exec step s es = some s') (ha : Along step G s es) :
    Along part H (view s) (share step evs s es) := by
  induction es generalizing s with
  | nil => exact trivial
  | cons e es ih =>
      obtain ⟨s₁, h₁, h₂⟩ := exec_cons.mp hx
      rw [share_cons h₁]
      refine along_append.mpr ⟨hcond s e s₁ h₁ ha.1, fun t ht => ?_⟩
      cases (hstep s e s₁ h₁).symm.trans ht
      exact ih h₂ (ha.2 s₁ h₁)

end Parts

end Machine
