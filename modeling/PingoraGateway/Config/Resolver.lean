import PingoraGateway.Api.Types

/-!
# Resolving the proxy's connection settings

`PingoraResolver` follows the configured GatewayClass's `parametersRef` to its
PingoraConfig, applies the connection defaults and, with TLS enabled, reads the
referenced Secret; an empty secret namespace means the resolver's default
namespace, the controller's own.
-/

namespace PingoraGateway

/-- `PingoraParametersRefGroup`. -/
def pingoraParametersRefGroup : String := "pingora.k8s.lex.la"

/-- `PingoraParametersRefKind`. -/
def pingoraParametersRefKind : String := "PingoraConfig"

/-- `ResolvedPingoraConfig`; durations are nanoseconds and byte slices strings,
empty when the Secret lacks the key. -/
structure ResolvedPingoraConfig where
  address : String
  tlsEnabled : Bool
  tlsCert : String
  tlsKey : String
  tlsCA : String
  tlsInsecureSkipVerify : Bool
  tlsServerName : String
  connectTimeout : Int
  requestTimeout : Int
  keepaliveTime : Int
  maxRetries : Int
  retryBackoff : Int
  configName : String
  deriving DecidableEq, Repr

namespace PingoraConfigSpec

/-- `IsTLSEnabled`. -/
def isTLSEnabled (spec : PingoraConfigSpec) : Bool :=
  match spec.tls with
  | some t => t.enabled
  | none => false

/-- A connection field, or its default when the section or the field is unset. -/
def connectionField (spec : PingoraConfigSpec) (field : ConnectionConfig → Option Int)
    (default : Int) : Int :=
  (spec.connection.bind field).getD default

/-- `GetConnectTimeout`. -/
def getConnectTimeout (spec : PingoraConfigSpec) : Int :=
  spec.connectionField (·.connectTimeoutSeconds) 5

/-- `GetRequestTimeout`. -/
def getRequestTimeout (spec : PingoraConfigSpec) : Int :=
  spec.connectionField (·.requestTimeoutSeconds) 30

/-- `GetKeepaliveTime`. -/
def getKeepaliveTime (spec : PingoraConfigSpec) : Int :=
  spec.connectionField (·.keepaliveTimeSeconds) 30

/-- `GetMaxRetries`. -/
def getMaxRetries (spec : PingoraConfigSpec) : Int :=
  spec.connectionField (·.maxRetries) 3

/-- `GetRetryBackoff`. -/
def getRetryBackoff (spec : PingoraConfigSpec) : Int :=
  spec.connectionField (·.retryBackoffMs) 1000

end PingoraConfigSpec

/-- `PingoraResolver`; its client is the cluster passed to each call. -/
structure PingoraResolver where
  defaultNamespace : String
  deriving DecidableEq, Repr

namespace PingoraResolver

/-- `getSecret`. -/
def getSecret (r : PingoraResolver) (c : Cluster) (name ns : String) : Except String Secret :=
  let ns := if ns == "" then r.defaultNamespace else ns
  match c.getSecret name ns with
  | some s => .ok s
  | none => .error ("failed to get secret " ++ ns ++ "/" ++ name)

/-- A Secret's value under a key, empty when absent. -/
def secretValue (s : Secret) (k : String) : String := (s.data.lookup k).getD ""

/-- `resolveConfig`. -/
def resolveConfig (r : PingoraResolver) (c : Cluster) (config : PingoraConfig) :
    Except String ResolvedPingoraConfig :=
  let spec := config.spec
  if spec.address == "" then .error "address is required in PingoraConfig"
  else
    let resolved : ResolvedPingoraConfig :=
      { address := spec.address, tlsEnabled := spec.isTLSEnabled, tlsCert := "", tlsKey := "",
        tlsCA := "", tlsInsecureSkipVerify := false, tlsServerName := "",
        connectTimeout := spec.getConnectTimeout * 1000000000,
        requestTimeout := spec.getRequestTimeout * 1000000000,
        keepaliveTime := spec.getKeepaliveTime * 1000000000,
        maxRetries := spec.getMaxRetries,
        retryBackoff := spec.getRetryBackoff * 1000000,
        configName := config.name }
    match resolved.tlsEnabled, spec.tls with
    | true, some tls =>
      let resolved := { resolved with
        tlsInsecureSkipVerify := tls.insecureSkipVerify, tlsServerName := tls.serverName }
      match tls.secretRef with
      | none => .ok resolved
      | some secretRef =>
        match r.getSecret c secretRef.name secretRef.ns with
        | .error e => .error ("failed to get TLS secret: " ++ e)
        | .ok secret =>
          .ok { resolved with
            tlsCert := secretValue secret "tls.crt", tlsKey := secretValue secret "tls.key",
            tlsCA := secretValue secret "ca.crt" }
    | _, _ => .ok resolved

/-- The PingoraConfig a `parametersRef` names, when it names one of the right
group and kind. -/
def referencedConfig (c : Cluster) (ref : ParametersReference) : Except String PingoraConfig :=
  if ref.group != pingoraParametersRefGroup then
    .error ("unsupported parametersRef group: " ++ ref.group)
  else if ref.kind != pingoraParametersRefKind then
    .error ("unsupported parametersRef kind: " ++ ref.kind)
  else
    match c.getPingoraConfig ref.name with
    | some config => .ok config
    | none => .error ("failed to get PingoraConfig " ++ ref.name)

/-- `ResolveFromGatewayClass`. -/
def resolveFromGatewayClass (r : PingoraResolver) (c : Cluster) (gatewayClass : GatewayClass) :
    Except String ResolvedPingoraConfig :=
  match gatewayClass.parametersRef with
  | none => .error "GatewayClass has no parametersRef"
  | some ref =>
    match referencedConfig c ref with
    | .error e => .error e
    | .ok config => r.resolveConfig c config

/-- `ResolveFromGatewayClassName`. -/
def resolveFromGatewayClassName (r : PingoraResolver) (c : Cluster) (gatewayClassName : String) :
    Except String ResolvedPingoraConfig :=
  match c.getGatewayClass gatewayClassName with
  | none => .error ("failed to get GatewayClass " ++ gatewayClassName)
  | some gatewayClass => r.resolveFromGatewayClass c gatewayClass

/-- `GetConfigForGatewayClass`. -/
def getConfigForGatewayClass (c : Cluster) (gatewayClass : GatewayClass) :
    Except String PingoraConfig :=
  match gatewayClass.parametersRef with
  | none => .error "GatewayClass has no parametersRef"
  | some ref =>
    if ref.group != pingoraParametersRefGroup || ref.kind != pingoraParametersRefKind then
      .error ("unsupported parametersRef: " ++ ref.group ++ "/" ++ ref.kind)
    else
      match c.getPingoraConfig ref.name with
      | some config => .ok config
      | none => .error ("failed to get PingoraConfig " ++ ref.name)

end PingoraResolver

end PingoraGateway
