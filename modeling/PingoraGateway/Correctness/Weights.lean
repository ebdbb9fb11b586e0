import PingoraGateway.Builder.Weight
import Mathlib.Tactic.SplitIfs

/-!
# The backend `SelectHighestWeightIndex` selects

With no weight below zero, `SelectHighestWeightIndex` returns `-1` exactly when
every effective weight is zero, and otherwise the first index of a greatest
effective weight. The loop keeps this for the refs it has read: nothing selected
while every weight was zero, else the first heaviest index with its positive
weight. Zero weights are skipped, the first enabled ref seeds the selection, and
only a strictly heavier ref moves it, so ties go to the earliest.
-/

namespace PingoraGateway

section Weight

variable {α : Type} (getWeight : α → Option Int)

/-- A ref's weight as the selection reads it: an absent weight is the default. -/
def effectiveWeight (ref : α) : Int := (getWeight ref).getD defaultBackendWeight

/-- Index `k` of `refs` holds a ref of the greatest effective weight `w`, and every
ref before it weighs less. -/
def IsFirstHeaviest (refs : List α) (k : Nat) (w : Int) : Prop :=
  ∃ before ref after, refs = before ++ ref :: after ∧ before.length = k ∧
    effectiveWeight getWeight ref = w ∧ (∀ r ∈ before, effectiveWeight getWeight r < w) ∧
    ∀ r ∈ after, effectiveWeight getWeight r ≤ w

/-- What the loop keeps of the refs `pre` it has read: nothing selected while
every weight was zero, else the first heaviest index with its positive weight. -/
def SelectInv (pre : List α) (selectedIdx highestWeight : Int) : Prop :=
  ((∀ r ∈ pre, effectiveWeight getWeight r = 0) ∧ selectedIdx = -1) ∨
    ∃ k : Nat, selectedIdx = k ∧ 0 < highestWeight ∧
      IsFirstHeaviest getWeight pre k highestWeight

variable {getWeight}

/-- The first heaviest ref outweighs no ref at all. -/
theorem IsFirstHeaviest.le {refs : List α} {k : Nat} {w : Int}
    (h : IsFirstHeaviest getWeight refs k w) :
    ∀ r ∈ refs, effectiveWeight getWeight r ≤ w := by
  obtain ⟨before, ref, after, rfl, -, rfl, hb, ha⟩ := h
  exact List.forall_mem_append.mpr
    ⟨fun r hr => Int.le_of_lt (hb r hr), List.forall_mem_cons.mpr ⟨Int.le_refl _, ha⟩⟩

/-- A ref no heavier than the first heaviest one leaves it in place. -/
theorem IsFirstHeaviest.append_le {pre : List α} {k : Nat} {w : Int} {x : α}
    (h : IsFirstHeaviest getWeight pre k w) (hx : effectiveWeight getWeight x ≤ w) :
    IsFirstHeaviest getWeight (pre ++ [x]) k w := by
  obtain ⟨before, ref, after, rfl, hk, hw, hb, ha⟩ := h
  exact ⟨before, ref, after ++ [x], by simp, hk, hw, hb,
    List.forall_mem_append.mpr ⟨ha, List.forall_mem_singleton.mpr hx⟩⟩

/-- A ref heavier than every one before it is the first heaviest. -/
theorem isFirstHeaviest_last {pre : List α} {x : α}
    (h : ∀ r ∈ pre, effectiveWeight getWeight r < effectiveWeight getWeight x) :
    IsFirstHeaviest getWeight (pre ++ [x]) pre.length (effectiveWeight getWeight x) :=
  ⟨pre, x, [], rfl, rfl, rfl, h, fun _ hr => absurd hr (List.not_mem_nil _)⟩

variable (getWeight)

/-- One round of the loop, with the source's tests as propositions. -/
theorem selectRound_eq (i : Nat) (selectedIdx highestWeight : Int) (ref : α) :
    selectRound getWeight i selectedIdx highestWeight ref =
      if effectiveWeight getWeight ref = 0 then (selectedIdx, highestWeight)
      else if selectedIdx = -1 ∨ highestWeight < effectiveWeight getWeight ref then
        (i, effectiveWeight getWeight ref)
      else (selectedIdx, highestWeight) := by
  simp only [selectRound, effectiveWeight, beq_iff_eq, Bool.or_eq_true, decide_eq_true_eq,
    gt_iff_lt]

/-- A round keeps the invariant, the ref it reads being of weight at least zero. -/
theorem selectInv_round {pre : List α} {x : α} {selectedIdx highestWeight : Int}
    (hx : 0 ≤ effectiveWeight getWeight x)
    (h : SelectInv getWeight pre selectedIdx highestWeight) :
    SelectInv getWeight (pre ++ [x])
      (selectRound getWeight pre.length selectedIdx highestWeight x).1
      (selectRound getWeight pre.length selectedIdx highestWeight x).2 := by
  rw [selectRound_eq]
  rcases h with ⟨hz, rfl⟩ | ⟨k, rfl, hpos, hk⟩
  · split_ifs with h0 h1
    · exact .inl ⟨List.forall_mem_append.mpr ⟨hz, List.forall_mem_singleton.mpr h0⟩, rfl⟩
    · refine .inr ⟨pre.length, rfl, by omega, isFirstHeaviest_last fun r hr => ?_⟩
      rw [hz r hr]
      omega
    · exact absurd (.inl rfl) h1
  · split_ifs with h0 h1
    · exact .inr ⟨k, rfl, hpos, hk.append_le (by omega)⟩
    · rcases h1 with h1 | hlt
      · exact h1.elim
      exact .inr ⟨pre.length, rfl, by omega,
        isFirstHeaviest_last fun r hr => Int.lt_of_le_of_lt (hk.le r hr) hlt⟩
    · exact .inr ⟨k, rfl, hpos, hk.append_le (by omega)⟩

/-- The loop over the rest of the refs keeps the invariant to the end. -/
theorem selectInv_loop : ∀ (rest pre : List α) (selectedIdx highestWeight : Int),
    (∀ r ∈ rest, 0 ≤ effectiveWeight getWeight r) →
    SelectInv getWeight pre selectedIdx highestWeight →
    ∃ w, SelectInv getWeight (pre ++ rest)
      (selectHighestWeightLoop getWeight rest pre.length selectedIdx highestWeight) w
  | [], pre, _, highestWeight, _, h => ⟨highestWeight, by simpa using h⟩
  | x :: rest, pre, _, _, hw, h => by
    have hloop := selectInv_loop rest (pre ++ [x]) _ _
      (fun r hr => hw r (List.mem_cons_of_mem x hr))
      (selectInv_round getWeight (hw x (List.mem_cons_self x rest)) h)
    simpa using hloop

/-- With no weight below zero, `SelectHighestWeightIndex` returns `-1` exactly
when every effective weight is zero, and otherwise the first index of a greatest
effective weight. -/
theorem selectHighestWeightIndex_first_heaviest (refs : List α)
    (hw : ∀ ref ∈ refs, ∀ w ∈ getWeight ref, 0 ≤ w) :
    (selectHighestWeightIndex getWeight refs = -1 ↔
      ∀ ref ∈ refs, effectiveWeight getWeight ref = 0) ∧
    ((∃ ref ∈ refs, effectiveWeight getWeight ref ≠ 0) →
      ∃ k : Nat, selectHighestWeightIndex getWeight refs = k ∧
        ∃ w, IsFirstHeaviest getWeight refs k w) := by
  have hnn : ∀ r ∈ refs, 0 ≤ effectiveWeight getWeight r := by
    intro r hr
    unfold effectiveWeight
    cases hr' : getWeight r with
    | none => decide
    | some w => exact hw r hr w hr'
  have hidx : selectHighestWeightIndex getWeight refs =
      selectHighestWeightLoop getWeight refs 0 (-1) 0 := by
    cases refs <;> rfl
  obtain ⟨w, hinv⟩ := selectInv_loop getWeight refs [] (-1) 0 hnn
    (.inl ⟨fun _ hr => absurd hr (List.not_mem_nil _), rfl⟩)
  rw [List.nil_append, List.length_nil, ← hidx] at hinv
  rcases hinv with ⟨hz, hres⟩ | ⟨k, hres, hpos, hk⟩
  · exact ⟨iff_of_true hres hz, fun ⟨r, hr, hne⟩ => absurd (hz r hr) hne⟩
  · refine ⟨iff_of_false (by omega) fun hz => ?_, fun _ => ⟨k, hres, w, hk⟩⟩
    obtain ⟨before, ref, after, rfl, -, hwr, -⟩ := hk
    have := hz ref (by simp)
    omega

end Weight

/-- Weights `0`, default, `100`, `50`, `100`, read directly as the refs. -/
def mixedWeights : List (Option Int) := [some 0, none, some 100, some 50, some 100]

theorem mixed_weights_select_first_heaviest :
    (∀ ref ∈ mixedWeights, ∀ w ∈ id ref, 0 ≤ w) ∧
    (selectHighestWeightIndex id mixedWeights = -1 ↔
      ∀ ref ∈ mixedWeights, effectiveWeight id ref = 0) ∧
    ((∃ ref ∈ mixedWeights, effectiveWeight id ref ≠ 0) →
      ∃ k : Nat, selectHighestWeightIndex id mixedWeights = k ∧
        ∃ w, IsFirstHeaviest id mixedWeights k w) :=
  ⟨by decide, selectHighestWeightIndex_first_heaviest id mixedWeights (by decide)⟩

example : selectHighestWeightIndex id mixedWeights = 2 := by decide

end PingoraGateway
