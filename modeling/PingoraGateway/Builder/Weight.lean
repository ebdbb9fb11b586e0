/-!
# Backend weight selection

`SelectHighestWeightIndex` of the `ingress` package: one pass over the refs that
skips the disabled ones (weight zero), seeds the selection with the first enabled
ref and moves it only to a strictly heavier one. A ref's weight is read through
`GetWeight`, absent standing for `DefaultBackendWeight`. Go's `int32` weights are
compared only, so their values are taken as integers.
-/

namespace PingoraGateway

/-- `DefaultBackendWeight`. -/
def defaultBackendWeight : Int := 1

section Weight

variable {α : Type} (getWeight : α → Option Int)

/-- One round of the loop of `SelectHighestWeightIndex` at index `i`: the selected
index and the highest weight after reading `ref`. -/
def selectRound (i : Nat) (selectedIdx highestWeight : Int) (ref : α) : Int × Int :=
  let weight := (getWeight ref).getD defaultBackendWeight
  if weight == 0 then (selectedIdx, highestWeight)
  else if selectedIdx == -1 || weight > highestWeight then (i, weight)
  else (selectedIdx, highestWeight)

/-- The loop of `SelectHighestWeightIndex` over the refs from index `i` on. -/
def selectHighestWeightLoop : List α → Nat → Int → Int → Int
  | [], _, selectedIdx, _ => selectedIdx
  | ref :: refs, i, selectedIdx, highestWeight =>
    let (selectedIdx, highestWeight) := selectRound getWeight i selectedIdx highestWeight ref
    selectHighestWeightLoop refs (i + 1) selectedIdx highestWeight

/-- `SelectHighestWeightIndex`: the index of the selected ref, or `-1`. -/
def selectHighestWeightIndex (refs : List α) : Int :=
  if refs.length == 0 then -1 else selectHighestWeightLoop getWeight refs 0 (-1) 0

end Weight

end PingoraGateway
