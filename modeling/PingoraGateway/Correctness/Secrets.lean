import PingoraGateway.Controller.Mappers
import PingoraGateway.Correctness.StatusWriter

/-!
# The Secret the mapper watches

`MapSecretToRequests` is meant to enqueue the routes when the TLS Secret of the
class's PingoraConfig changes, the Secret the resolver reads. The two agree when
the secret reference names its namespace or when the controller runs in
`default`. With an empty namespace the resolver reads the Secret from the
controller's own namespace, while the mapper looks for it in `default`.
-/

namespace PingoraGateway

/-- The Secret `getSecret` returns is the one under the name and the namespace
it looked in: the given one, or the resolver's default when that is empty. -/
theorem getSecret_key {r : PingoraResolver} {c : Cluster} {name ns : String} {S : Secret}
    (h : r.getSecret c name ns = .ok S) :
    S.name = name ∧ S.ns = if ns == "" then r.defaultNamespace else ns := by
  unfold PingoraResolver.getSecret at h
  dsimp only at h
  generalize (if ns == "" then r.defaultNamespace else ns) = ns' at h ⊢
  cases hs : c.getSecret name ns' <;> rw [hs] at h <;> cases h
  have hk := (Store.mem_of_get hs).2
  simp only [Secret.key, ObjectKey.mk.injEq] at hk
  exact ⟨hk.2, hk.1⟩

/-- A PingoraConfig with TLS from a Secret whose reference names the
controller's namespace. -/
def namedTlsConfig : PingoraConfig :=
  ⟨"cfg", 1, ⟨"proxy:50051",
    some ⟨true, some ⟨"proxy-tls", "pingora-system"⟩, false, ""⟩, none⟩⟩

/-- The default class with `namedTlsConfig` and its Secret. -/
def namedTlsCluster : Cluster :=
  { defaultCluster ⟨[], by decide⟩ ⟨[], by decide⟩ with
    pingoraConfigs := ⟨[namedTlsConfig], by decide⟩,
    secrets := ⟨[⟨"proxy-tls", "pingora-system", [("tls.crt", "cert")]⟩], by decide⟩ }

/-- A PingoraConfig with TLS from a Secret whose reference leaves the namespace
empty. -/
def tlsConfig : PingoraConfig :=
  ⟨"cfg", 1, ⟨"proxy:50051", some ⟨true, some ⟨"proxy-tls", ""⟩, false, ""⟩, none⟩⟩

/-- The TLS Secret in the controller's namespace. -/
def tlsSecret : Secret := ⟨"proxy-tls", "pingora-system", [("tls.crt", "cert")]⟩

/-- The default class with `tlsConfig` and its Secret. -/
def tlsCluster : Cluster :=
  { defaultCluster ⟨[], by decide⟩ ⟨[], by decide⟩ with
    pingoraConfigs := ⟨[tlsConfig], by decide⟩, secrets := ⟨[tlsSecret], by decide⟩ }

/-- The syncer's resolver, running in `pingora-system`, reads `tlsSecret` for
the class's TLS, yet a change to `tlsSecret` maps to no request at all. -/
theorem mapSecretToRequests_ignores_controller_namespace :
    (∃ resolved, defaultSyncer.configResolver.resolveFromGatewayClassName tlsCluster
        defaultSyncer.gatewayClassName = .ok resolved ∧ resolved.tlsCert = "cert") ∧
      defaultSyncer.configResolver.getSecret tlsCluster "proxy-tls" "" = .ok tlsSecret ∧
      ∀ readOk getRoutes, mapSecretToRequests tlsCluster defaultSyncer.gatewayClassName readOk
        getRoutes tlsSecret = [] :=
  ⟨⟨_, rfl, rfl⟩, rfl, fun _ _ => by unfold mapSecretToRequests; split <;> rfl⟩

end PingoraGateway
