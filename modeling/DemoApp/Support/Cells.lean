import Mathlib.Data.List.Basic
import Mathlib.Tactic.Common

/-!
# Support — Cells

Objects that are never thrown away stand in a list, addressed by their position: what a lookup
finds after an object was added at the end, or replaced at its place.
-/

namespace Cells

variable {α : Type*} {l l' : List α} {n i : Nat} {x a : α}

theorem lt_of_some (h : l[n]? = some x) : n < l.length := (List.getElem?_eq_some_iff.mp h).1

/-- An old cell stays. -/
theorem append_of_some (h : l[n]? = some x) : (l ++ l')[n]? = some x :=
  (List.getElem?_append_left (lt_of_some h)).trans h

/-- A cell is an old one, or one of the new. -/
theorem old_or_new (h : (l ++ l')[n]? = some x) : l[n]? = some x ∨ l.length ≤ n ∧ x ∈ l' := by
  rw [List.getElem?_append] at h
  split at h
  · exact .inl h
  · next hn => exact .inr ⟨Nat.le_of_not_lt hn, List.mem_of_getElem? h⟩

theorem concat_eq_some :
    (l ++ [a])[n]? = some x ↔ l[n]? = some x ∨ n = l.length ∧ x = a := by
  constructor
  · intro h
    refine (old_or_new h).imp_right fun ⟨hle, hx⟩ => ⟨?_, List.mem_singleton.mp hx⟩
    have hlt := lt_of_some h
    simp only [List.length_append, List.length_singleton] at hlt
    omega
  · rintro (h | ⟨rfl, rfl⟩)
    · exact append_of_some h
    · exact List.getElem?_concat_length

theorem set_eq_some :
    (l.set i a)[n]? = some x ↔ (n = i ∧ i < l.length ∧ x = a) ∨ n ≠ i ∧ l[n]? = some x := by
  by_cases e : n = i
  · subst e
    by_cases hlt : n < l.length
    · simp [hlt, eq_comm]
    · simp [hlt]
  · rw [List.getElem?_set_ne (Ne.symm e)]
    simp [e]

theorem set_of_some (h : l[n]? = some x) : l.set n x = l := by
  obtain ⟨hlt, rfl⟩ := List.getElem?_eq_some_iff.mp h
  exact List.set_getElem_self hlt

theorem modify_eq_some {f : α → α} :
    (l.modify i f)[n]? = some x ↔ (n = i ∧ ∃ y, l[n]? = some y ∧ x = f y) ∨
      n ≠ i ∧ l[n]? = some x := by
  rw [List.getElem?_modify, Option.map_eq_map, Option.map_eq_some_iff]
  by_cases e : n = i
  · subst e; simp [eq_comm]
  · simp [e, Ne.symm e]

theorem modify_of_some {f : α → α} (h : l[n]? = some x) : (l.modify n f)[n]? = some (f x) :=
  modify_eq_some.mpr (.inl ⟨rfl, x, h, rfl⟩)

/-- Only what a change makes of the one cell matters. -/
theorem modify_congr {f g : α → α} (h : l[n]? = some x) (hfg : f x = g x) :
    l.modify n f = l.modify n g := by
  refine List.ext_getElem? fun m => ?_
  by_cases e : m = n
  · subst e
    rw [modify_of_some h, modify_of_some h, hfg]
  · rw [List.getElem?_modify_ne _ _ (Ne.symm e), List.getElem?_modify_ne _ _ (Ne.symm e)]

theorem modify_concat (f : α → α) :
    ∀ (l : List α) (a : α), (l ++ [a]).modify l.length f = l ++ [f a]
  | [],     _ => rfl
  | x :: l, a => by simp [modify_concat f l a]

/-- A cell is an old one, or the one that changed. -/
theorem mem_modify {f : α → α} (h : x ∈ l.modify i f) : x ∈ l ∨ ∃ y ∈ l, x = f y := by
  obtain ⟨n, hn⟩ := List.mem_iff_getElem?.mp h
  rcases modify_eq_some.mp hn with ⟨-, y, hy, rfl⟩ | ⟨-, hx⟩
  · exact .inr ⟨y, List.mem_of_getElem? hy, rfl⟩
  · exact .inl (List.mem_of_getElem? hx)

theorem forall_modify {P : α → Prop} {f : α → α} (hf : ∀ x, P x → P (f x)) (h : ∀ x ∈ l, P x)
    (i : Nat) : ∀ x ∈ l.modify i f, P x := by
  intro x hx
  rcases mem_modify hx with hx | ⟨y, hy, rfl⟩
  · exact h x hx
  · exact hf y (h y hy)

theorem exists_modify {P : α → Prop} {f : α → α} (hf : ∀ x, P x → P (f x)) (h : ∃ x ∈ l, P x)
    (i : Nat) : ∃ x ∈ l.modify i f, P x := by
  obtain ⟨x, hx, hP⟩ := h
  obtain ⟨n, hn⟩ := List.mem_iff_getElem?.mp hx
  by_cases e : n = i
  · subst e
    exact ⟨f x, List.mem_of_getElem? (modify_of_some hn), hf x hP⟩
  · exact ⟨x, List.mem_of_getElem? (modify_eq_some.mpr (.inr ⟨e, hn⟩)), hP⟩

/-- What `s` reads of the cells, if a change of a cell is a change of what it reads. -/
theorem map_modify_comm {β : Type*} {s : α → β} {f : α → α} {g : β → β}
    (h : ∀ x, s (f x) = g (s x)) (l : List α) (i : Nat) :
    (l.modify i f).map s = (l.map s).modify i g := by
  refine List.ext_getElem? fun n => ?_
  simp only [List.getElem?_map, List.getElem?_modify, Option.map_eq_map, Option.map_map]
  congr 1
  funext x
  by_cases e : i = n
  · simp [e, h]
  · simp [e]

/-- What `f` reads of the cells, if the change leaves it alone. -/
theorem map_modify {β : Type*} {f : α → β} {g : α → α} (h : ∀ x, f (g x) = f x) (l : List α)
    (i : Nat) : (l.modify i g).map f = l.map f := by
  rw [map_modify_comm (s := f) (g := id) h]
  exact List.modify_id i _

/-- A change of an old cell, with a new one at the end. -/
theorem modify_append (h : i < l.length) (f : α → α) :
    (l ++ l').modify i f = l.modify i f ++ l' := by
  refine List.ext_getElem? fun n => ?_
  by_cases hn : n < l.length
  · rw [List.getElem?_append_left (by simpa using hn), List.getElem?_modify, List.getElem?_modify,
      List.getElem?_append_left hn]
  · have hne : i ≠ n := by omega
    rw [List.getElem?_append_right (by simpa using hn), List.getElem?_modify_ne _ _ hne,
      List.getElem?_append_right (by omega), List.length_modify]

/-- Changing the first cell with a key changes every cell with it, if no two cells share one. -/
theorem modify_findIdx {κ : Type*} [DecidableEq κ] {key : α → κ} (k : κ) (f : α → α)
    (h : (l.map key).Nodup) :
    l.modify (l.findIdx fun x => key x = k) f = l.map fun x => if key x = k then f x else x := by
  induction l with
  | nil => rfl
  | cons a l ih =>
      obtain ⟨ha, hl⟩ := List.nodup_cons.mp h
      rw [List.findIdx_cons, List.map_cons]
      by_cases e : key a = k
      · have hrest : ∀ x ∈ l, key x ≠ k := fun x hx hk =>
          ha (List.mem_map.mpr ⟨x, hx, hk.trans e.symm⟩)
        have hsame : (l.map fun x => if key x = k then f x else x) = l :=
          (List.map_congr_left fun x hx => if_neg (hrest x hx)).trans (List.map_id' l)
        simp [e, hsame]
      · simp [e, ih hl]

/-- What `f` reads of the cells, if the new one reads like the old one. -/
theorem map_set_of_some {β : Type*} {f : α → β} (h : l[i]? = some x) (ha : f a = f x) :
    (l.set i a).map f = l.map f := by
  refine List.ext_getElem? fun n => ?_
  rw [List.getElem?_map, List.getElem?_map]
  by_cases e : n = i
  · subst e
    rw [set_eq_some.mpr (.inl ⟨rfl, lt_of_some h, rfl⟩), h, Option.map_some, Option.map_some, ha]
  · rw [List.getElem?_set_ne (Ne.symm e)]

theorem map_mapIdx {β : Type*} {f : α → β} {g : Nat → α → α} (h : ∀ n x, f (g n x) = f x)
    (l : List α) : (l.mapIdx g).map f = l.map f := by
  refine List.ext_getElem? fun n => ?_
  simp only [List.getElem?_map, List.getElem?_mapIdx, Option.map_map]
  congr 1
  exact funext (h n)

/-- A cell of one list has its counterpart in another that reads the same. -/
theorem some_of_map {β : Type*} {f : α → β} (h : l'.map f = l.map f) (hx : l[n]? = some x) :
    ∃ y, l'[n]? = some y ∧ f y = f x := by
  have e : (l'.map f)[n]? = some (f x) := by
    rw [h, List.getElem?_map, hx]; rfl
  simpa [List.getElem?_map, Option.map_eq_some_iff] using e

end Cells
