import PingoraGateway.Api.Types

/-!
# Hostname matching

`HostnamesIntersect`, `hostnameMatches` and `matchesWildcard` of the route
binding package, over the characters of the hostnames. Beside them, the sets of
concrete DNS names a hostname denotes, which is what the matcher is meant to
intersect.
-/

namespace PingoraGateway

/-- `strings.ToLower`, on the characters of a hostname. -/
def toLower (s : String) : List Char := s.data.map Char.toLower

/-- The `*.` that starts a wildcard hostname. -/
def wildcardPrefix : List Char := ['*', '.']

/-- `matchesWildcard`: whether `specificHost` falls under `wildcardHost`, which
starts with `*.`; any number of labels may stand for the `*`, but the apex does
not match. -/
def matchesWildcard (wildcardHost specificHost : List Char) : Bool :=
  let suffix := wildcardHost.drop 1
  if !suffix.isSuffixOf specificHost then false
  else if specificHost == suffix.drop 1 then false
  else true

/-- `hostnameMatches`: a listener hostname against one route hostname, after
lower-casing both. -/
def hostnameMatches (listenerHost routeHost : String) : Bool :=
  let listenerHost := toLower listenerHost
  let routeHost := toLower routeHost
  if listenerHost == routeHost then true
  else
    let listenerIsWildcard := wildcardPrefix.isPrefixOf listenerHost
    let routeIsWildcard := wildcardPrefix.isPrefixOf routeHost
    if listenerIsWildcard && routeIsWildcard then listenerHost.drop 1 == routeHost.drop 1
    else if listenerIsWildcard then matchesWildcard listenerHost routeHost
    else if routeIsWildcard then matchesWildcard routeHost listenerHost
    else false

/-- `HostnamesIntersect`: an absent or empty listener hostname, or an empty route
hostname list, matches; otherwise some route hostname must match. -/
def hostnamesIntersect (listenerHostname : Option String) (routeHostnames : List String) :
    Bool :=
  match listenerHostname with
  | none => true
  | some l =>
    if l == "" then true
    else if routeHostnames.isEmpty then true
    else routeHostnames.any fun routeHost => hostnameMatches l routeHost

/-- A character the Gateway API `Hostname` schema admits inside a label. -/
def isLabelChar (c : Char) : Bool := c.isLower || c.isDigit || c == '-'

/-- An RFC 1123 label: alphanumeric at both ends, hyphens inside. -/
def isLabel (l : List Char) : Bool :=
  match l.head?, l.getLast? with
  | some a, some b => l.all isLabelChar && a != '-' && b != '-'
  | _, _ => false

/-- A concrete DNS name: one or more labels joined by dots. -/
def isConcreteName (n : List Char) : Bool := (n.splitOn '.').all isLabel

/-- A hostname the schema admits: a concrete name, optionally behind `*.`. -/
def isHostname (h : String) : Bool :=
  if wildcardPrefix.isPrefixOf h.data then isConcreteName (h.data.drop 2)
  else isConcreteName h.data

/-- The concrete names a hostname denotes: an exact name denotes itself, up to
case, and `*.s` every name of one or more labels followed by `.s`. -/
def denotes (hostname : String) (name : List Char) : Bool :=
  let h := toLower hostname
  let n := name.map Char.toLower
  if wildcardPrefix.isPrefixOf h then (h.drop 1).isSuffixOf n && (h.drop 1).length < n.length
  else h == n

/-- The names a listener admits: all of them without a hostname, else those its
hostname denotes. -/
def listenerAdmits (listenerHostname : Option String) (name : List Char) : Bool :=
  match listenerHostname with
  | none => true
  | some l => l == "" || denotes l name

/-- The names a wire route answers for: all of them when its hostname list is
empty, else those some hostname denotes. -/
def hostnamesAdmit (hostnames : List String) (name : List Char) : Bool :=
  hostnames.isEmpty || hostnames.any fun h => denotes h name

end PingoraGateway
