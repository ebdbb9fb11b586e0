import PingoraGateway.Dns.ResolvConf
import PingoraGateway.System.State

/-!
# Controller startup

`runController` reads its settings through viper, which takes a key from a flag
set on the command line, else from the `PINGORA_`-prefixed environment variable
`AutomaticEnv` derives from the key, else from a default. The cluster domain is
the configured one, else the one detected in `/etc/resolv.conf`, else
`cluster.local`; `Run` takes the namespace for Secret lookups from
`getControllerNamespace`, and `setupLogger` picks the logger's level and format.
A boolean setting is read as `cast.ToBool` reads the text viper finds.
-/

namespace PingoraGateway

/-- The environment variable `AutomaticEnv` reads for a key: the env prefix and
the key joined by `_`, upper-cased. No key replacer is set, so a `-` of the key
stays a `-`. -/
def envKey (envPrefix key : String) : String :=
  ⟨(envPrefix.data ++ '_' :: key.data).map Char.toUpper⟩

/-- The value of a key viper falls back to: `initConfig`'s `SetDefault`, else
the default of the flag `init` binds to the key. -/
def settingDefault (key : String) : String :=
  match key with
  | "gateway-class-name" => "pingora"
  | "controller-name" => "pingora.k8s.lex.la/gateway-controller"
  | "metrics-addr" => ":8080"
  | "health-addr" => ":8081"
  | "log-level" => "info"
  | "log-format" => "json"
  | "leader-elect" => "false"
  | "leader-election-name" => "pingora-gateway-controller-leader"
  | _ => ""

/-- What viper reads from: the flags set on the command line and the process
environment. -/
structure Viper where
  setFlags : List (String × String)
  environ : List (String × String)
  deriving DecidableEq, Repr

/-- `viper.GetString` for a key bound to a flag: the flag when set, else the
environment variable when set and not empty, else the default. -/
def Viper.getString (v : Viper) (key : String) : String :=
  match v.setFlags.lookup key with
  | some value => value
  | none =>
    match v.environ.lookup (envKey "PINGORA" key) with
    | some value => if value == "" then settingDefault key else value
    | none => settingDefault key

/-- `strconv.ParseBool` as `cast.ToBool` uses it, false standing for an
error. -/
def parseBool (s : String) : Bool :=
  ["1", "t", "T", "TRUE", "true", "True"].contains s

/-- `viper.GetBool`: `cast.ToBool` of the text viper finds for the key. -/
def Viper.getBool (v : Viper) (key : String) : Bool :=
  parseBool (v.getString key)

/-- `setupLogger`: the level named by `log-level`, info for any other text, and
the text handler for `log-format` text, else the JSON one. -/
def setupLogger (v : Viper) : LogLevel × LogFormat :=
  let level : LogLevel :=
    match v.getString "log-level" with
    | "debug" => .debug
    | "warn" => .warn
    | "error" => .error
    | _ => .info
  (level, if v.getString "log-format" == "text" then .text else .json)

/-- `os.Getenv`: the empty string for an unset variable. -/
def getenv (environ : List (String × String)) (name : String) : String :=
  (environ.lookup name).getD ""

/-- `resolveClusterDomain`: the configured domain, else the detected one, else
the default. -/
def resolveClusterDomain (configured : String) (resolvConf : Option String) : String :=
  if configured != "" then configured
  else
    match detectClusterDomainFromFile resolvConf with
    | (detected, true) => detected
    | _ => defaultClusterDomain

/-- `getControllerNamespace`: `CONTROLLER_NAMESPACE`, else the service account's
namespace file, else `default`. -/
def getControllerNamespace (environ : List (String × String))
    (serviceAccountNamespace : Option String) : String :=
  let ns := getenv environ "CONTROLLER_NAMESPACE"
  if ns != "" then ns else serviceAccountNamespace.getD "default"

/-- What the controller process starts from: viper's sources, and the files it
reads, `none` for one it cannot read. -/
structure StartupEnv where
  viper : Viper
  resolvConf : Option String
  serviceAccountNamespace : Option String
  deriving DecidableEq, Repr

/-- The configuration `runController` hands to `Run`, with the namespace `Run`
takes from `getControllerNamespace` and the logger `setupLogger` builds. -/
def runControllerConfig (env : StartupEnv) : ControllerConfig :=
  let logger := setupLogger env.viper
  { clusterDomain := resolveClusterDomain (env.viper.getString "cluster-domain") env.resolvConf
    gatewayClassName := env.viper.getString "gateway-class-name"
    controllerName := env.viper.getString "controller-name"
    metricsAddr := env.viper.getString "metrics-addr"
    healthAddr := env.viper.getString "health-addr"
    leaderElect := env.viper.getBool "leader-elect"
    leaderElectNS := env.viper.getString "leader-election-namespace"
    leaderElectName := env.viper.getString "leader-election-name"
    controllerNamespace := getControllerNamespace env.viper.environ env.serviceAccountNamespace
    logLevel := logger.1
    logFormat := logger.2 }

end PingoraGateway
