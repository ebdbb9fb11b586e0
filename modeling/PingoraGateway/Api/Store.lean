import Mathlib.Data.List.Nodup
import Mathlib.Algebra.Order.Ring.Nat
import Mathlib.Algebra.Order.Ring.Int

/-!
# Object stores keyed by namespace and name

The API server holds at most one object of a kind under a key; a store is the
`List` order of one kind's objects with that uniqueness as a field, so a cluster
with two objects under one key cannot be built. `Get` is `get`, a create or a
replace is `put`, a delete is `erase`.
-/

namespace PingoraGateway

/-- The namespace and name an object is keyed by; cluster-scoped objects have
the empty namespace. -/
structure ObjectKey where
  ns : String
  name : String
  deriving DecidableEq, Repr

/-- The objects of one kind, in `List` order, with pairwise distinct keys. -/
structure Store (α : Type) (key : α → ObjectKey) where
  items : List α
  nodup : (items.map key).Nodup

namespace Store

variable {α : Type} {key : α → ObjectKey}

instance [DecidableEq α] : DecidableEq (Store α key) := fun a b =>
  decidable_of_iff (a.items = b.items) ⟨fun h => by cases a; cases b; cases h; rfl,
    fun h => h ▸ rfl⟩

/-- The empty store. -/
def empty : Store α key := ⟨[], List.nodup_nil⟩

/-- `Get`: the object under a key. -/
def get (s : Store α key) (k : ObjectKey) : Option α :=
  s.items.find? fun x => key x == k

/-- Replacing each object whose key is `key x` by `x` keeps the keys. -/
theorem map_replace_key (xs : List α) (x : α) :
    (xs.map fun y => if key y == key x then x else y).map key = xs.map key := by
  rw [List.map_map]
  apply List.map_congr_left
  intro y _
  by_cases h : key y = key x <;> simp [h]

/-- Create or replace: the object takes the place of the one under its key, or
is appended when the key is new. -/
def put (s : Store α key) (x : α) : Store α key :=
  if h : s.items.any fun y => key y == key x then
    ⟨s.items.map fun y => if key y == key x then x else y,
      (map_replace_key s.items x).symm ▸ s.nodup⟩
  else
    ⟨s.items ++ [x], by
      rw [List.map_append, List.nodup_append]
      refine ⟨s.nodup, List.nodup_singleton _, ?_⟩
      simp only [List.map_cons, List.map_nil, List.disjoint_singleton]
      simpa using h⟩

/-- Delete the object under a key. -/
def erase (s : Store α key) (k : ObjectKey) : Store α key :=
  ⟨s.items.filter fun x => key x != k,
    s.nodup.sublist ((List.filter_sublist _).map key)⟩

/-- In a list with distinct keys, searching for an element's key finds it. -/
theorem find?_key_of_mem : ∀ {xs : List α}, (xs.map key).Nodup → ∀ {x : α}, x ∈ xs →
    xs.find? (fun y => key y == key x) = some x
  | [], _, _, hx => absurd hx (List.not_mem_nil _)
  | y :: ys, hn, x, hx => by
    rw [List.map_cons, List.nodup_cons] at hn
    rw [List.find?_cons]
    by_cases hk : key y = key x
    · have hxy : x = y := by
        rcases List.mem_cons.mp hx with h | h
        · exact h
        · exact absurd (List.mem_map.mpr ⟨x, h, hk.symm⟩) hn.1
      simp [hxy]
    · have hx' : x ∈ ys := by
        rcases List.mem_cons.mp hx with h | h
        · exact absurd (h ▸ rfl) hk
        · exact h
      have hf : (key y == key x) = false := by simpa using hk
      rw [hf]
      exact find?_key_of_mem hn.2 hx'

/-- An object of a store is the one `get` finds under its key. -/
theorem get_of_mem {s : Store α key} {x : α} (hx : x ∈ s.items) : s.get (key x) = some x :=
  find?_key_of_mem s.nodup hx

/-- `get` finds only objects of the store, under their own key. -/
theorem mem_of_get {s : Store α key} {k : ObjectKey} {x : α} (h : s.get k = some x) :
    x ∈ s.items ∧ key x = k := by
  unfold get at h
  exact ⟨List.mem_of_find?_eq_some h, by simpa using List.find?_some h⟩

/-- After `put x`, the key of `x` holds `x`. -/
@[simp] theorem get_put_self (s : Store α key) (x : α) : (s.put x).get (key x) = some x := by
  apply get_of_mem
  unfold put
  split
  · rename_i h
    obtain ⟨y, hy, hk⟩ := List.any_eq_true.mp h
    exact List.mem_map.mpr ⟨y, hy, by simp at hk; simp [hk]⟩
  · simp

/-- After `put x`, a key equal to that of `x` holds `x`. -/
theorem get_put_of_key (s : Store α key) {x : α} {k : ObjectKey} (hk : key x = k) :
    (s.put x).get k = some x := by
  subst hk
  exact get_put_self s x

/-- `put x` leaves every other key as it was. -/
theorem get_put_ne (s : Store α key) (x : α) {k : ObjectKey} (hk : key x ≠ k) :
    (s.put x).get k = s.get k := by
  unfold put get
  split
  · have hp : ((fun y => key y == k) ∘ fun y => if key y == key x then x else y) =
        fun y => key y == k := by
      funext y
      by_cases h : key y = key x <;> simp [h]
    rw [List.find?_map, hp]
    cases hf : s.items.find? (fun y => key y == k) with
    | none => rfl
    | some y =>
      have hy : key y = k := by simpa using List.find?_some hf
      simp [hy, Ne.symm hk]
  · rw [List.find?_append]
    cases s.items.find? (fun y => key y == k) <;> simp [hk]

/-- After `erase k`, nothing is under `k`. -/
@[simp] theorem get_erase_self (s : Store α key) (k : ObjectKey) : (s.erase k).get k = none := by
  unfold erase get
  rw [List.find?_eq_none]
  intro y hy
  simp only [List.mem_filter, bne_iff_ne, ne_eq] at hy
  simpa using hy.2

/-- `erase k` leaves every other key as it was. -/
theorem get_erase_ne (s : Store α key) {k k' : ObjectKey} (hk : k ≠ k') :
    (s.erase k).get k' = s.get k' := by
  unfold erase get
  rw [List.find?_filter]
  congr 1
  funext y
  by_cases h : key y = k'
  · subst h
    simp [Ne.symm hk]
  · simp [h]

/-- An object after `put x` is `x`, or an object of the store under another key. -/
theorem mem_put {s : Store α key} {x y : α} (hy : y ∈ (s.put x).items) :
    y = x ∨ y ∈ s.items ∧ key y ≠ key x := by
  unfold put at hy
  split at hy
  · obtain ⟨z, hz, rfl⟩ := List.mem_map.mp hy
    by_cases h : key z = key x
    · simp [h]
    · simp [h, hz]
  · rcases List.mem_append.mp hy with h | h
    · rename_i hn
      refine .inr ⟨h, fun hk => hn (List.any_eq_true.mpr ⟨y, h, by simp [hk]⟩)⟩
    · exact .inl (List.mem_singleton.mp h)

/-- An object after `erase k` is an object of the store under another key. -/
theorem mem_erase {s : Store α key} {k : ObjectKey} {y : α} (hy : y ∈ (s.erase k).items) :
    y ∈ s.items ∧ key y ≠ k := by
  simpa [erase] using hy

/-- Two stores whose objects agree on a view that determines the key agree on
that view of every lookup. -/
theorem get_map_eq {β : Type} {f : α → β} {g : β → ObjectKey} (hk : ∀ x, key x = g (f x))
    {s t : Store α key} (h : s.items.map f = t.items.map f) (k : ObjectKey) :
    (s.get k).map f = (t.get k).map f := by
  have hv : ∀ u : Store α key, (u.get k).map f = (u.items.map f).find? fun y => g y == k := by
    intro u
    simp only [get, List.find?_map, Function.comp_def, hk]
  rw [hv, hv, h]

/-- Replacing an object by one that agrees with it on a view leaves the view of
the store unchanged. -/
theorem map_put_of_mem {β : Type} (f : α → β) {s : Store α key} {x y : α}
    (hy : y ∈ s.items) (hk : key x = key y) (hf : f x = f y) :
    (s.put x).items.map f = s.items.map f := by
  unfold put
  rw [dif_pos (List.any_eq_true.mpr ⟨y, hy, by simp [hk]⟩), List.map_map]
  apply List.map_congr_left
  intro z hz
  by_cases hz' : key z = key x
  · have hzy : z = y := by
      have h1 := get_of_mem hz
      rw [hz', hk, get_of_mem hy] at h1
      exact (Option.some.inj h1).symm
    subst hzy
    simp [hz', hf]
  · simp [hz']

/-- Putting the object a key already holds changes nothing. -/
theorem put_of_get {s : Store α key} {x : α} (h : s.get (key x) = some x) : s.put x = s := by
  have hx := (mem_of_get h).1
  have hitems : (s.items.map fun y => if key y == key x then x else y) = s.items := by
    conv_rhs => rw [← List.map_id s.items]
    apply List.map_congr_left
    intro y hy
    by_cases hk : key y = key x
    · have hyx := get_of_mem hy
      rw [hk, h] at hyx
      simp [hk, Option.some.inj hyx]
    · simp [hk]
  obtain ⟨items, nodup⟩ := s
  unfold put
  rw [dif_pos (List.any_eq_true.mpr ⟨x, hx, by simp⟩)]
  simpa using hitems

section View

variable {f : α → α} (hk : ∀ x, key (f x) = key x)
include hk

/-- A view that keeps keys sees `put x` as a `put` of the view of `x`. -/
theorem map_put (s : Store α key) (x : α) :
    (s.put x).items.map f =
      if (s.items.map f).any (fun y => key y == key x) then
        (s.items.map f).map fun y => if key y == key x then f x else y
      else s.items.map f ++ [f x] := by
  have hany : (s.items.map f).any (fun y => key y == key x) =
      s.items.any (fun y => key y == key x) := by
    simp [List.any_map, Function.comp_def, hk]
  unfold put
  by_cases h : s.items.any (fun y => key y == key x) = true
  · rw [dif_pos h, if_pos (hany.trans h), List.map_map, List.map_map]
    apply List.map_congr_left
    intro y _
    by_cases hy : key y = key x <;> simp [hy, hk]
  · rw [dif_neg h, if_neg (hany ▸ h), List.map_append]
    rfl

/-- A view that keeps keys sees `erase k` as a filter of the view. -/
theorem map_erase (s : Store α key) (k : ObjectKey) :
    (s.erase k).items.map f = (s.items.map f).filter fun y => key y != k := by
  simp [erase, List.filter_map, Function.comp_def, hk]

/-- Stores alike up to a key-keeping view stay alike after puts alike up to it. -/
theorem map_put_congr {s t : Store α key} {x y : α} (h : s.items.map f = t.items.map f)
    (hxy : f x = f y) : (s.put x).items.map f = (t.put y).items.map f := by
  have hkey : key x = key y := by rw [← hk x, hxy, hk]
  rw [map_put hk, map_put hk, h, hxy, hkey]

/-- Stores alike up to a key-keeping view stay alike after an erase. -/
theorem map_erase_congr {s t : Store α key} (h : s.items.map f = t.items.map f)
    (k : ObjectKey) : (s.erase k).items.map f = (t.erase k).items.map f := by
  rw [map_erase hk, map_erase hk, h]

end View

end Store

end PingoraGateway
