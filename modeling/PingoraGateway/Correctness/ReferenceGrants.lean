import PingoraGateway.ReferenceGrant.Validator

/-!
# What a ReferenceGrant allows

`IsReferenceAllowed` against the rule of the Gateway API: a reference is allowed
within its namespace, or across namespaces when a grant of the target's
namespace has a `from` entry naming the source and a `to` entry naming the
target. The decision fails only when listing the grants fails, it grows with
the set of grants, and it reads no grant of another namespace.
-/

namespace PingoraGateway

/-- A `from` entry names the source: its group, kind and namespace. -/
def FromEntryMatches (grantFrom : ReferenceGrantFrom) (fromRef : Reference) : Prop :=
  grantFrom.group = fromRef.group ∧ grantFrom.kind = fromRef.kind ∧ grantFrom.ns = fromRef.ns

/-- A `to` entry names the target: its group, with `core` read as the core
group, its kind, and its name when the entry sets one. -/
def ToEntryMatches (grantTo : ReferenceGrantTo) (toRef : Reference) : Prop :=
  (if grantTo.group = "core" then "" else grantTo.group) = toRef.group ∧
    grantTo.kind = toRef.kind ∧ ∀ name ∈ grantTo.name, name = toRef.name

/-- The references a set of grants allows. -/
def ReferenceGranted (grants : List ReferenceGrant) (fromRef toRef : Reference) : Prop :=
  fromRef.ns = toRef.ns ∨
    ∃ grant ∈ grants, grant.ns = toRef.ns ∧
      (∃ grantFrom ∈ grant.grantFrom, FromEntryMatches grantFrom fromRef) ∧
      ∃ grantTo ∈ grant.grantTo, ToEntryMatches grantTo toRef

section Entries

variable {fromRef toRef : Reference}

theorem matchesFrom_iff (grantFrom : ReferenceGrantFrom) :
    matchesFrom grantFrom fromRef = true ↔ FromEntryMatches grantFrom fromRef := by
  unfold matchesFrom FromEntryMatches
  by_cases hg : grantFrom.group = fromRef.group <;>
    by_cases hk : grantFrom.kind = fromRef.kind <;>
    by_cases hn : grantFrom.ns = fromRef.ns <;> simp [hg, hk, hn]

theorem matchesTo_iff (grantTo : ReferenceGrantTo) :
    matchesTo grantTo toRef = true ↔ ToEntryMatches grantTo toRef := by
  unfold matchesTo ToEntryMatches
  have hname : (grantTo.name.isSome && grantTo.name != some toRef.name) =
      !decide (∀ name ∈ grantTo.name, name = toRef.name) := by
    cases grantTo.name with
    | none => simp
    | some name =>
      simp only [Option.isSome_some, Bool.true_and, Option.mem_def, Option.some.injEq,
        forall_eq']
      rfl
  rw [hname]
  by_cases hg : (if grantTo.group = "core" then "" else grantTo.group) = toRef.group <;>
    by_cases hk : grantTo.kind = toRef.kind <;>
    by_cases hn : ∀ name ∈ grantTo.name, name = toRef.name <;> simp [hg, hk, hn]

theorem grantAllowsReference_iff (grant : ReferenceGrant) :
    grantAllowsReference grant fromRef toRef = true ↔
      (∃ grantFrom ∈ grant.grantFrom, FromEntryMatches grantFrom fromRef) ∧
        ∃ grantTo ∈ grant.grantTo, ToEntryMatches grantTo toRef := by
  unfold grantAllowsReference
  simp only [← matchesFrom_iff, ← matchesTo_iff, ← List.any_eq_true]
  cases grant.grantFrom.any fun grantFrom => matchesFrom grantFrom fromRef <;> simp

end Entries

section Validator

variable (v : ReferenceGrantValidator) (fromRef toRef : Reference)

/-- With its listing working, the validator allows exactly the granted
references. -/
theorem isReferenceAllowed_ok_true_iff :
    v.isReferenceAllowed true fromRef toRef = .ok true ↔
      ReferenceGranted v.grants.items fromRef toRef := by
  unfold ReferenceGrantValidator.isReferenceAllowed ReferenceGranted
  by_cases hns : fromRef.ns = toRef.ns
  · simp [hns]
  · simp only [hns, beq_iff_eq, if_false, Bool.not_true, Bool.false_eq_true, false_or,
      Except.ok.injEq, List.any_eq_true, List.mem_filter, grantAllowsReference_iff]
    constructor
    · rintro ⟨grant, ⟨hg, hgns⟩, hallow⟩
      exact ⟨grant, hg, by simpa using hgns, hallow⟩
    · rintro ⟨grant, hg, hgns, hallow⟩
      exact ⟨grant, ⟨hg, by simpa using hgns⟩, hallow⟩

/-- The validator fails exactly on a reference across namespaces whose grants it
cannot list. -/
theorem isReferenceAllowed_error_iff (listOk : Bool) :
    (∃ e, v.isReferenceAllowed listOk fromRef toRef = .error e) ↔
      fromRef.ns ≠ toRef.ns ∧ listOk = false := by
  unfold ReferenceGrantValidator.isReferenceAllowed
  by_cases hns : fromRef.ns = toRef.ns <;> cases listOk <;> simp [hns]

/-- A decision reads only the grants of the target's namespace. -/
theorem isReferenceAllowed_local (v' : ReferenceGrantValidator) (listOk : Bool)
    (h : ∀ grant, grant.ns = toRef.ns →
      (grant ∈ v.grants.items ↔ grant ∈ v'.grants.items)) :
    v.isReferenceAllowed listOk fromRef toRef = v'.isReferenceAllowed listOk fromRef toRef := by
  unfold ReferenceGrantValidator.isReferenceAllowed
  split_ifs
  · rfl
  · rfl
  · apply congrArg Except.ok
    rw [Bool.eq_iff_iff]
    simp only [List.any_eq_true, List.mem_filter, beq_iff_eq]
    constructor <;> rintro ⟨grant, ⟨hg, hgns⟩, hallow⟩
    · exact ⟨grant, ⟨(h grant hgns).mp hg, hgns⟩, hallow⟩
    · exact ⟨grant, ⟨(h grant hgns).mpr hg, hgns⟩, hallow⟩

/-- More grants allow no fewer references. -/
theorem isReferenceAllowed_mono (v' : ReferenceGrantValidator) (listOk : Bool)
    (h : ∀ grant ∈ v.grants.items, grant ∈ v'.grants.items)
    (hv : v.isReferenceAllowed listOk fromRef toRef = .ok true) :
    v'.isReferenceAllowed listOk fromRef toRef = .ok true := by
  unfold ReferenceGrantValidator.isReferenceAllowed at hv ⊢
  split_ifs at hv ⊢
  · rfl
  · simp only [Except.ok.injEq, List.any_eq_true, List.mem_filter] at hv ⊢
    obtain ⟨grant, ⟨hg, hgns⟩, hallow⟩ := hv
    exact ⟨grant, ⟨h grant hg, hgns⟩, hallow⟩

end Validator

end PingoraGateway
