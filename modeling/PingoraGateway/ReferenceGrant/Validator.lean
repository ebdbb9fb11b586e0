import PingoraGateway.Api.Store

/-!
# The ReferenceGrant validator

`Validator` of the `referencegrant` package. A reference within one namespace
is allowed; one across namespaces is allowed when a ReferenceGrant of the
target's namespace names the source in one of its `from` entries and the target
in one of its `to` entries. The validator's client is the store of
ReferenceGrants it lists.
-/

namespace PingoraGateway

/-- `referencegrant.Reference`; an empty group is the core group. -/
structure Reference where
  group : String
  kind : String
  ns : String
  name : String
  deriving DecidableEq, Repr

/-- `gatewayv1beta1.ReferenceGrantFrom`. -/
structure ReferenceGrantFrom where
  group : String
  kind : String
  ns : String
  deriving DecidableEq, Repr

/-- `gatewayv1beta1.ReferenceGrantTo`. -/
structure ReferenceGrantTo where
  group : String
  kind : String
  name : Option String
  deriving DecidableEq, Repr

/-- `gatewayv1beta1.ReferenceGrant`; `grantFrom` and `grantTo` are `Spec.From`
and `Spec.To`. -/
structure ReferenceGrant where
  name : String
  ns : String
  grantFrom : List ReferenceGrantFrom
  grantTo : List ReferenceGrantTo
  deriving DecidableEq, Repr

/-- The key of a ReferenceGrant. -/
def ReferenceGrant.key (g : ReferenceGrant) : ObjectKey := ⟨g.ns, g.name⟩

/-- `referencegrant.Validator`; its client is the store of ReferenceGrants. -/
structure ReferenceGrantValidator where
  grants : Store ReferenceGrant ReferenceGrant.key

/-- `matchesFrom`: the entry's group, kind and namespace are the source's. -/
def matchesFrom (grantFrom : ReferenceGrantFrom) (fromRef : Reference) : Bool :=
  if grantFrom.group != fromRef.group then false
  else if grantFrom.kind != fromRef.kind then false
  else if grantFrom.ns != fromRef.ns then false
  else true

/-- `matchesTo`: the entry's group, with `core` read as the core group, and kind
are the target's, and so is its name when it sets one. -/
def matchesTo (grantTo : ReferenceGrantTo) (toRef : Reference) : Bool :=
  let grantGroup := if grantTo.group == "core" then "" else grantTo.group
  if grantGroup != toRef.group then false
  else if grantTo.kind != toRef.kind then false
  else if grantTo.name.isSome && grantTo.name != some toRef.name then false
  else true

/-- `grantAllowsReference`: some `from` entry matches the source, and then some
`to` entry matches the target. -/
def grantAllowsReference (grant : ReferenceGrant) (fromRef toRef : Reference) : Bool :=
  let fromAllowed := grant.grantFrom.any fun grantFrom => matchesFrom grantFrom fromRef
  if !fromAllowed then false
  else grant.grantTo.any fun grantTo => matchesTo grantTo toRef

/-- `IsReferenceAllowed`; `listOk` is whether listing the ReferenceGrants of the
target's namespace succeeds. -/
def ReferenceGrantValidator.isReferenceAllowed (v : ReferenceGrantValidator) (listOk : Bool)
    (fromRef toRef : Reference) : Except String Bool :=
  if fromRef.ns == toRef.ns then .ok true
  else if !listOk then .error "failed to list ReferenceGrants"
  else
    let grants := v.grants.items.filter fun grant => grant.ns == toRef.ns
    .ok (grants.any fun grant => grantAllowsReference grant fromRef toRef)

end PingoraGateway
