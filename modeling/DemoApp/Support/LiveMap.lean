import Mathlib.Data.List.Basic
import Mathlib.Tactic.Common

/-!
# Support — LiveMap

A map that is iterated while it changes, as ECMAScript specifies `Map`: the entries stand in a
list of slots in the order in which their keys were first set, deleting a key empties its slot,
and setting a stored key replaces the value in place.  An iterator is a cursor into the slots:
an entry appended after the iterator was made is visited, and a deleted one is not.

`get` is the abstract map.  `Ahead m i k v` says that an iterator at the cursor `i` still has
the entry `(k, v)` before it; `next` advances an iterator to the first such entry on which `f`
answers, the loop `for (const [k, v] of m) { if (…) continue; … }`.
-/

/-- Slots, of which no two hold the same key. -/
structure LiveMap (κ α : Type*) where
  slots : List (Option (κ × α))
  unique : ∀ {i j : Nat} {k : κ} {v w : α}, slots[i]? = some (some (k, v)) →
    slots[j]? = some (some (k, w)) → i = j

namespace LiveMap

variable {κ α β : Type*}

/-- The slot `i` holds `(k, v)`. -/
def At (m : LiveMap κ α) (i : Nat) (k : κ) (v : α) : Prop := m.slots[i]? = some (some (k, v))

/-- An iterator at the cursor `i` has the entry `(k, v)` before it. -/
def Ahead (m : LiveMap κ α) (i : Nat) (k : κ) (v : α) : Prop := ∃ j, i ≤ j ∧ m.At j k v

theorem at_inj {m : LiveMap κ α} {i j : Nat} {k : κ} {v w : α} (h : m.At i k v)
    (h' : m.At j k w) : i = j ∧ v = w := by
  obtain rfl := m.unique h h'
  have := Option.some.inj (Option.some.inj (h.symm.trans h'))
  exact ⟨rfl, congrArg Prod.snd this⟩

/-- `new Map()`. -/
def empty : LiveMap κ α := ⟨[], by simp⟩

instance : Inhabited (LiveMap κ α) := ⟨empty⟩

@[simp] theorem not_at_empty {i : Nat} {k : κ} {v : α} : ¬ (empty : LiveMap κ α).At i k v := by
  simp [At, empty]

/-- The number of entries. -/
def size (m : LiveMap κ α) : Nat := m.slots.countP Option.isSome

theorem size_eq_zero {m : LiveMap κ α} : m.size = 0 ↔ ∀ i k v, ¬ m.At i k v := by
  simp only [size, List.countP_eq_zero]
  constructor
  · intro h i k v ha
    exact h _ (List.mem_of_getElem? ha) rfl
  · rintro h (_ | ⟨k, v⟩) hx
    · simp
    · obtain ⟨i, hi⟩ := List.mem_iff_getElem?.mp hx
      exact absurd hi (h i k v)

section Keyed

variable [DecidableEq κ]

/-- The value in the first slot with the key `k`. -/
def lookup (k : κ) : List (Option (κ × α)) → Option α
  | []               => none
  | none :: t        => lookup k t
  | some (l, v) :: t => if l = k then some v else lookup k t

/-- `m.get(k)`. -/
def get (m : LiveMap κ α) (k : κ) : Option α := lookup k m.slots

theorem exists_of_lookup {k : κ} {v : α} :
    ∀ {l : List (Option (κ × α))}, lookup k l = some v → ∃ i : Nat, l[i]? = some (some (k, v))
  | none :: t, h => by
      obtain ⟨i, hi⟩ := exists_of_lookup (l := t) h
      exact ⟨i + 1, by simpa using hi⟩
  | some (l, w) :: t, h => by
      simp only [lookup] at h
      split at h
      · next e => exact ⟨0, by simp_all⟩
      · obtain ⟨i, hi⟩ := exists_of_lookup (l := t) h
        exact ⟨i + 1, by simpa using hi⟩

theorem lookup_isSome {k : κ} {v : α} :
    ∀ {l : List (Option (κ × α))} {i : Nat}, l[i]? = some (some (k, v)) → (lookup k l).isSome
  | none :: t, 0, h => by simp at h
  | none :: t, i + 1, h => lookup_isSome (l := t) (by simpa using h)
  | some (l, w) :: t, 0, h => by simp_all [lookup]
  | some (l, w) :: t, i + 1, h => by
      simp only [lookup]
      split
      · rfl
      · exact lookup_isSome (l := t) (by simpa using h)

theorem get_eq_some {m : LiveMap κ α} {k : κ} {v : α} : m.get k = some v ↔ ∃ i, m.At i k v := by
  constructor
  · exact exists_of_lookup
  · rintro ⟨i, hi⟩
    obtain ⟨w, hw⟩ := Option.isSome_iff_exists.mp (lookup_isSome hi)
    obtain ⟨j, hj⟩ := exists_of_lookup hw
    rw [get, hw, (at_inj hi hj).2]

theorem get_eq_none {m : LiveMap κ α} {k : κ} : m.get k = none ↔ ∀ i v, ¬ m.At i k v := by
  rw [Option.eq_none_iff_forall_ne_some]
  simp only [ne_eq, get_eq_some, not_exists]
  exact forall_comm

theorem At.get {m : LiveMap κ α} {i : Nat} {k : κ} {v : α} (h : m.At i k v) : m.get k = some v :=
  get_eq_some.mpr ⟨i, h⟩

@[simp] theorem get_empty (k : κ) : (empty : LiveMap κ α).get k = none := rfl

theorem Ahead.get {m : LiveMap κ α} {i : Nat} {k : κ} {v : α} (h : m.Ahead i k v) :
    m.get k = some v :=
  h.elim fun _ h => h.2.get

theorem get_eq_none_of_size {m : LiveMap κ α} (h : m.size = 0) (k : κ) : m.get k = none :=
  get_eq_none.mpr fun i v => size_eq_zero.mp h i k v

theorem exists_of_size {m : LiveMap κ α} (h : 0 < m.size) : ∃ k v, m.get k = some v := by
  by_contra hn
  refine Nat.pos_iff_ne_zero.mp h (size_eq_zero.mpr fun i k v ha => hn ⟨k, v, ha.get⟩)

theorem size_of_get {m : LiveMap κ α} {k : κ} {v : α} (h : m.get k = some v) : 0 < m.size :=
  Nat.pos_of_ne_zero fun hz => nomatch (get_eq_none_of_size hz k).symm.trans h

/-! ### Setting and deleting -/

/-- The slot after `k` is set to `v` in place. -/
def replaceSlot (k : κ) (v : α) : Option (κ × α) → Option (κ × α)
  | none        => none
  | some (l, w) => if l = k then some (k, v) else some (l, w)

/-- The slot after `k` is deleted. -/
def clearSlot (k : κ) : Option (κ × α) → Option (κ × α)
  | none        => none
  | some (l, w) => if l = k then none else some (l, w)

theorem replaceSlot_eq_some {k l : κ} {v w : α} {x : Option (κ × α)} :
    replaceSlot k v x = some (l, w) ↔
      (l = k ∧ w = v ∧ ∃ u, x = some (k, u)) ∨ (l ≠ k ∧ x = some (l, w)) := by
  rcases x with _ | ⟨l', w'⟩
  · simp [replaceSlot]
  · simp only [replaceSlot]
    split <;> grind

theorem clearSlot_eq_some {k l : κ} {w : α} {x : Option (κ × α)} :
    clearSlot k x = some (l, w) ↔ l ≠ k ∧ x = some (l, w) := by
  rcases x with _ | ⟨l', w'⟩
  · simp [clearSlot]
  · simp only [clearSlot]
    split <;> grind

theorem getElem?_replace {s : List (Option (κ × α))} {i : Nat} {k l : κ} {v w : α} :
    (s.map (replaceSlot k v))[i]? = some (some (l, w)) ↔
      (l = k ∧ w = v ∧ ∃ u, s[i]? = some (some (k, u))) ∨
        (l ≠ k ∧ s[i]? = some (some (l, w))) := by
  rw [List.getElem?_map, Option.map_eq_some_iff]
  simp only [replaceSlot_eq_some]
  grind

omit [DecidableEq κ] in
theorem getElem?_append_slot {s : List (Option (κ × α))} {i : Nat} {k l : κ} {v w : α} :
    (s ++ [some (k, v)])[i]? = some (some (l, w)) ↔
      s[i]? = some (some (l, w)) ∨ (i = s.length ∧ l = k ∧ w = v) := by
  rw [List.getElem?_append]
  split
  · next h => grind
  · next h =>
      rw [List.getElem?_eq_none (by omega : s.length ≤ i)]
      rcases Nat.exists_eq_add_of_le (by omega : s.length ≤ i) with ⟨d, rfl⟩
      rcases d with _ | d <;> simp [eq_comm]

/-- `m.set(k, v)`. -/
def set (m : LiveMap κ α) (k : κ) (v : α) : LiveMap κ α :=
  if h : (m.get k).isSome then
    ⟨m.slots.map (replaceSlot k v), by
      intro i j l u w hi hj
      rcases getElem?_replace.mp hi with ⟨rfl, -, a, ha⟩ | ⟨hl, ha⟩ <;>
        rcases getElem?_replace.mp hj with ⟨hl', -, b, hb⟩ | ⟨hl', hb⟩
      · exact m.unique ha hb
      · exact absurd rfl hl'
      · exact absurd hl' hl
      · exact m.unique ha hb⟩
  else
    ⟨m.slots ++ [some (k, v)], by
      have hk : ∀ (i : Nat) (u : α), m.slots[i]? ≠ some (some (k, u)) := by
        intro i u hi
        exact h (by rw [get_eq_some.mpr ⟨i, hi⟩]; rfl)
      intro i j l u w hi hj
      rcases getElem?_append_slot.mp hi with ha | ⟨rfl, rfl, -⟩ <;>
        rcases getElem?_append_slot.mp hj with hb | ⟨hj', hl', -⟩
      · exact m.unique ha hb
      · exact absurd (hl' ▸ ha) (hk i u)
      · exact absurd hb (hk j w)
      · exact hj'.symm⟩

/-- `m.delete(k)`. -/
def delete (m : LiveMap κ α) (k : κ) : LiveMap κ α :=
  ⟨m.slots.map (clearSlot k), by
    intro i j l u w hi hj
    rw [List.getElem?_map, Option.map_eq_some_iff] at hi hj
    obtain ⟨a, ha, ha'⟩ := hi
    obtain ⟨b, hb, hb'⟩ := hj
    rw [clearSlot_eq_some] at ha' hb'
    exact m.unique (ha.trans (congrArg some ha'.2)) (hb.trans (congrArg some hb'.2))⟩

theorem at_set_of_ne {m : LiveMap κ α} {i : Nat} {k l : κ} {v w : α} (h : l ≠ k) :
    (m.set k v).At i l w ↔ m.At i l w := by
  unfold set At
  split
  · rw [getElem?_replace]; simp [h]
  · rw [getElem?_append_slot]; simp [h]

theorem exists_at_set (m : LiveMap κ α) (k : κ) (v : α) : ∃ i, (m.set k v).At i k v := by
  unfold set At
  split
  · next h =>
      obtain ⟨u, hu⟩ := Option.isSome_iff_exists.mp h
      obtain ⟨i, hi⟩ := get_eq_some.mp hu
      exact ⟨i, getElem?_replace.mpr (.inl ⟨rfl, rfl, u, hi⟩)⟩
  · exact ⟨m.slots.length, getElem?_append_slot.mpr (.inr ⟨rfl, rfl, rfl⟩)⟩

theorem at_delete {m : LiveMap κ α} {i : Nat} {k l : κ} {w : α} :
    (m.delete k).At i l w ↔ l ≠ k ∧ m.At i l w := by
  simp only [delete, At, List.getElem?_map, Option.map_eq_some_iff, clearSlot_eq_some]
  grind

@[simp] theorem get_set_self (m : LiveMap κ α) (k : κ) (v : α) : (m.set k v).get k = some v :=
  get_eq_some.mpr (exists_at_set m k v)

theorem get_set_of_ne {m : LiveMap κ α} {k l : κ} {v : α} (h : l ≠ k) :
    (m.set k v).get l = m.get l := by
  ext w
  simp only [get_eq_some, at_set_of_ne h]

theorem get_set (m : LiveMap κ α) (k l : κ) (v : α) :
    (m.set k v).get l = if l = k then some v else m.get l := by
  split
  · next h => subst h; exact get_set_self m l v
  · next h => exact get_set_of_ne h

theorem get_delete (m : LiveMap κ α) (k l : κ) :
    (m.delete k).get l = if l = k then none else m.get l := by
  ext w
  rw [get_eq_some]
  simp only [at_delete]
  split
  · next h => simp [h]
  · next h => simp [h, get_eq_some]

@[simp] theorem get_delete_self (m : LiveMap κ α) (k : κ) : (m.delete k).get k = none := by
  simp [get_delete]

theorem get_delete_of_ne {m : LiveMap κ α} {k l : κ} (h : l ≠ k) :
    (m.delete k).get l = m.get l := by
  simp [get_delete, h]

theorem get_of_get_delete {m : LiveMap κ α} {k l : κ} {v : α} (h : (m.delete k).get l = some v) :
    m.get l = some v := by
  rw [get_delete] at h
  split at h
  · cases h
  · exact h

/-- An entry before an iterator stays before it unless its key is set. -/
theorem Ahead.set {m : LiveMap κ α} {i : Nat} {k l : κ} {v w : α} (h : m.Ahead i l w)
    (hk : l ≠ k) : (m.set k v).Ahead i l w := by
  obtain ⟨j, hj, ha⟩ := h
  exact ⟨j, hj, (at_set_of_ne hk).mpr ha⟩

/-- An entry before an iterator stays before it unless its key is deleted. -/
theorem Ahead.delete {m : LiveMap κ α} {i : Nat} {k l : κ} {w : α} (h : m.Ahead i l w)
    (hk : l ≠ k) : (m.delete k).Ahead i l w := by
  obtain ⟨j, hj, ha⟩ := h
  exact ⟨j, hj, at_delete.mpr ⟨hk, ha⟩⟩

/-! ### Snapshots -/

/-- `Array.from(m.values())`. -/
def values (m : LiveMap κ α) : List α := m.slots.filterMap fun slot => slot.map Prod.snd

/-- `Array.from(m.keys())`. -/
def keys (m : LiveMap κ α) : List κ := m.slots.filterMap fun slot => slot.map Prod.fst

theorem mem_values {m : LiveMap κ α} {v : α} : v ∈ m.values ↔ ∃ k, m.get k = some v := by
  constructor
  · intro h
    obtain ⟨slot, hslot, hv⟩ := List.mem_filterMap.mp h
    obtain ⟨⟨k, w⟩, rfl, rfl⟩ := Option.map_eq_some_iff.mp hv
    obtain ⟨i, hi⟩ := List.mem_iff_getElem?.mp hslot
    exact ⟨k, get_eq_some.mpr ⟨i, hi⟩⟩
  · rintro ⟨k, h⟩
    obtain ⟨i, hi⟩ := get_eq_some.mp h
    exact List.mem_filterMap.mpr ⟨some (k, v), List.mem_of_getElem? hi, rfl⟩

/-- `Array.from(m.entries())`. -/
theorem mem_entries {m : LiveMap κ α} {k : κ} {v : α} :
    (k, v) ∈ m.slots.filterMap id ↔ m.get k = some v := by
  rw [get_eq_some, List.mem_filterMap]
  constructor
  · rintro ⟨slot, hslot, rfl⟩
    exact List.mem_iff_getElem?.mp hslot
  · rintro ⟨i, hi⟩
    exact ⟨_, List.mem_of_getElem? hi, rfl⟩

end Keyed

/-! ### Iterating -/

/-- The first slot, counted from `i`, whose entry `f` answers on. -/
def scan (f : κ → α → Option β) : List (Option (κ × α)) → Nat → Option (Nat × κ × β)
  | [],               _ => none
  | none :: t,        i => scan f t (i + 1)
  | some (k, v) :: t, i =>
      match f k v with
      | some b => some (i + 1, k, b)
      | none   => scan f t (i + 1)

/-- The iterator at the cursor `i`, advanced past the first entry on which `f` answers: the
cursor it then stands at, the key of that entry, and the answer. -/
def next (m : LiveMap κ α) (i : Nat) (f : κ → α → Option β) : Option (Nat × κ × β) :=
  scan f (m.slots.drop i) i

theorem scan_eq_none {f : κ → α → Option β} :
    ∀ {s : List (Option (κ × α))} {i : Nat}, scan f s i = none →
      ∀ {j : Nat} {k v}, s[j]? = some (some (k, v)) → f k v = none
  | none :: t, i, h, 0, k, v, hj => by simp at hj
  | none :: t, i, h, j + 1, k, v, hj => scan_eq_none (s := t) h (by simpa using hj)
  | some (l, w) :: t, i, h, j, k, v, hj => by
      simp only [scan] at h
      split at h
      · cases h
      · next hf =>
          cases j with
          | zero => simp_all
          | succ j => exact scan_eq_none (s := t) h (by simpa using hj)

theorem scan_eq_some {f : κ → α → Option β} {i' : Nat} {l : κ} {b : β} :
    ∀ {s : List (Option (κ × α))} {i : Nat}, scan f s i = some (i', l, b) →
      ∃ (j : Nat) (w : α), i' = i + j + 1 ∧ s[j]? = some (some (l, w)) ∧ f l w = some b ∧
        ∀ {j' : Nat} {k v}, j' < j → s[j']? = some (some (k, v)) → f k v = none
  | none :: t, i, h => by
      obtain ⟨j, w, hi, hj, hf, hbefore⟩ := scan_eq_some (s := t) h
      refine ⟨j + 1, w, by omega, by simpa using hj, hf, fun {j'} {k} {v} hlt hj' => ?_⟩
      cases j' with
      | zero => simp at hj'
      | succ j' => exact hbefore (Nat.lt_of_succ_lt_succ hlt) (by simpa using hj')
  | some (k₀, v₀) :: t, i, h => by
      simp only [scan] at h
      split at h
      · next b' hf =>
          simp only [Option.some.injEq, Prod.mk.injEq] at h
          obtain ⟨rfl, rfl, rfl⟩ := h
          exact ⟨0, v₀, rfl, rfl, hf, fun hlt => absurd hlt (Nat.not_lt_zero _)⟩
      · next hf =>
          obtain ⟨j, w, hi, hj, hf', hbefore⟩ := scan_eq_some (s := t) h
          refine ⟨j + 1, w, by omega, by simpa using hj, hf', fun {j'} {k} {v} hlt hj' => ?_⟩
          cases j' with
          | zero => simp_all
          | succ j' => exact hbefore (Nat.lt_of_succ_lt_succ hlt) (by simpa using hj')

/-- An iterator that ends has no entry before it on which `f` answers. -/
theorem next_eq_none {m : LiveMap κ α} {i : Nat} {f : κ → α → Option β} (h : m.next i f = none)
    {k : κ} {v : α} (ha : m.Ahead i k v) : f k v = none := by
  obtain ⟨j, hj, ha⟩ := ha
  refine scan_eq_none h (j := j - i) ?_
  rw [List.getElem?_drop, Nat.add_sub_cancel' hj]
  exact ha

/-- The entry an iterator advances to is one that was before it. -/
theorem exists_of_next {m : LiveMap κ α} {i i' : Nat} {f : κ → α → Option β} {l : κ} {b : β}
    (h : m.next i f = some (i', l, b)) : ∃ w, m.Ahead i l w ∧ f l w = some b := by
  obtain ⟨j, w, -, hj, hf, -⟩ := scan_eq_some h
  rw [List.getElem?_drop] at hj
  exact ⟨w, ⟨i + j, by omega, hj⟩, hf⟩

/-- What was before an iterator and is not any more was passed over, or is the entry it
advanced to. -/
theorem ahead_next {m : LiveMap κ α} {i i' : Nat} {f : κ → α → Option β} {l k : κ} {b : β} {v : α}
    (h : m.next i f = some (i', l, b)) (ha : m.Ahead i k v) :
    f k v = none ∨ (l = k ∧ f k v = some b) ∨ m.Ahead i' k v := by
  obtain ⟨j, w, hi', hj, hf, hbefore⟩ := scan_eq_some h
  obtain ⟨n, hn, hat⟩ := ha
  have hdrop : (m.slots.drop i)[n - i]? = some (some (k, v)) := by
    rw [List.getElem?_drop, Nat.add_sub_cancel' hn]; exact hat
  rcases Nat.lt_trichotomy (n - i) j with hlt | heq | hgt
  · exact .inl (hbefore hlt hdrop)
  · rw [heq, hj] at hdrop
    simp only [Option.some.injEq, Prod.mk.injEq] at hdrop
    obtain ⟨rfl, rfl⟩ := hdrop
    exact .inr (.inl ⟨rfl, hf⟩)
  · exact .inr (.inr ⟨n, by omega, hat⟩)

end LiveMap
