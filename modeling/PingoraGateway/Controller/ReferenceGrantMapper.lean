import PingoraGateway.Controller.RouteReconciler
import PingoraGateway.ReferenceGrant.Validator

/-!
# The ReferenceGrant mapper

The route reconcilers watch ReferenceGrants. A grant lives in the namespace of
the Services it opens, so a change to it enqueues every route of the class with
a backend in that namespace. `extractCrossNamespaceBackends` lists a route's
backend namespaces other than its own, each once, keeping the namespaces it has
listed in a `seen` set beside the list.
-/

namespace PingoraGateway

/-- The loop of `extractCrossNamespaceBackends` over the refs still to read, with
the namespaces listed so far and the `seen` set of them. -/
def extractCrossNamespaceBackendsLoop (routeNamespace : String) :
    List BackendRef → List String → List String → List String
  | [], namespaces, _ => namespaces
  | ref :: refs, namespaces, seen =>
    match ref.ns with
    | some backendNs =>
      if backendNs != routeNamespace && !seen.contains backendNs then
        extractCrossNamespaceBackendsLoop routeNamespace refs (namespaces ++ [backendNs])
          (backendNs :: seen)
      else extractCrossNamespaceBackendsLoop routeNamespace refs namespaces seen
    | none => extractCrossNamespaceBackendsLoop routeNamespace refs namespaces seen

/-- `extractCrossNamespaceBackends`. -/
def extractCrossNamespaceBackends (routeNamespace : String) (refs : List BackendRef) :
    List String :=
  extractCrossNamespaceBackendsLoop routeNamespace refs [] []

/-- The backend refs of a rule of a kind. -/
def RouteKind.backendRefs : (k : RouteKind) → k.Rule → List BackendRef
  | .http, rule => rule.backendRefs
  | .grpc, rule => rule.backendRefs

/-- `GetCrossNamespaceBackendNamespaces` of the route wrappers: the backend refs
of every rule, in order. -/
def getCrossNamespaceBackendNamespaces (k : RouteKind) (route : Route k.Rule) : List String :=
  extractCrossNamespaceBackends route.ns (route.rules.flatMap k.backendRefs)

/-- `HTTPRouteWrapper.GetCrossNamespaceBackendNamespaces`. -/
def HTTPRouteWrapper.getCrossNamespaceBackendNamespaces (route : HTTPRoute) : List String :=
  PingoraGateway.getCrossNamespaceBackendNamespaces .http route

/-- `GRPCRouteWrapper.GetCrossNamespaceBackendNamespaces`. -/
def GRPCRouteWrapper.getCrossNamespaceBackendNamespaces (route : GRPCRoute) : List String :=
  PingoraGateway.getCrossNamespaceBackendNamespaces .grpc route

/-- `FindRoutesForReferenceGrant`: the routes that list the grant's namespace
among their cross-namespace backends, in order. -/
def findRoutesForReferenceGrant (k : RouteKind) (refGrant : ReferenceGrant)
    (routes : List (Route k.Rule)) : List ObjectKey :=
  let targetNamespace := refGrant.ns
  (routes.filter fun route =>
    (getCrossNamespaceBackendNamespaces k route).contains targetNamespace).map Route.key

/-- `findRoutesForReferenceGrant` of the reconcilers: nothing when its `List`
fails, else the mapper over the routes of the kind that `isRouteForOurGateway`
keeps, whose Gateway `Get`s are reads of this map function. -/
def RouteReconciler.findRoutesForReferenceGrant (r : RouteReconciler) (k : RouteKind)
    (c : Cluster) (readOk : MapRead → Bool) (refGrant : ReferenceGrant) : List ObjectKey :=
  if !readOk .list then []
  else
    PingoraGateway.findRoutesForReferenceGrant k refGrant
      ((c.routes k).items.filter fun route =>
        r.isRouteForOurGateway k c route fun refIdx => readOk (.getGateway route.key refIdx))

/-- `PingoraHTTPRouteReconciler.findRoutesForReferenceGrant`. -/
def PingoraHTTPRouteReconciler.findRoutesForReferenceGrant (r : RouteReconciler) :=
  r.findRoutesForReferenceGrant .http

/-- `PingoraGRPCRouteReconciler.findRoutesForReferenceGrant`. -/
def PingoraGRPCRouteReconciler.findRoutesForReferenceGrant (r : RouteReconciler) :=
  r.findRoutesForReferenceGrant .grpc

end PingoraGateway
