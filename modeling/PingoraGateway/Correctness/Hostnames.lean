import PingoraGateway.Correctness.ProxyTable

/-!
# Hostnames of pushed routes

`HostnamesIntersect` is sound for the Gateway API's hostname schema: when it
accepts a listener hostname and a route's hostnames, some concrete name is
denoted by both. A pushed route therefore shares a hostname with every listener
its accepted bindings matched. That is all the binding promises. The builder
copies the route's hostnames verbatim and drops the listener association, so
the wire route also answers for hostnames that no matched listener admits.
-/

namespace PingoraGateway

section Chars

theorem toNat_ofNat_of_lt {n : Nat} (h : n < 55296) : (Char.ofNat n).toNat = n := by
  simp [Char.ofNat, show n.isValidChar from Or.inl h, Char.ofNatAux, Char.toNat, UInt32.toNat]

theorem toLower_toLower (c : Char) : c.toLower.toLower = c.toLower := by
  unfold Char.toLower
  by_cases h : 65 ≤ c.toNat ∧ c.toNat ≤ 90
  · simp only [h, and_self, if_true, toNat_ofNat_of_lt (show c.toNat + 32 < 55296 by omega),
      ge_iff_le]
    rw [if_neg (by omega)]
  · simp only [ge_iff_le, h, if_false]

/-- Lower-casing fixes every character below `A` and maps no other to one. -/
theorem beq_toLower_of_lt {c d : Char} (hd : d.toNat < 65) : (d == c.toLower) = (d == c) := by
  unfold Char.toLower
  by_cases h : 65 ≤ c.toNat ∧ c.toNat ≤ 90
  · simp only [ge_iff_le, h, and_self, if_true]
    have h1 : d ≠ Char.ofNat (c.toNat + 32) := fun he => by
      have := congrArg Char.toNat he
      rw [toNat_ofNat_of_lt (by omega)] at this
      omega
    have h2 : d ≠ c := fun he => by subst he; omega
    simp [h1, h2]
  · simp only [ge_iff_le, h, if_false]

end Chars

@[simp] theorem map_toLower_toLower (s : String) : (toLower s).map Char.toLower = toLower s := by
  simp [toLower, toLower_toLower]

/-- Lower-casing keeps a leading `*.` and adds none. -/
theorem isPrefixOf_wildcard_map (s : List Char) :
    wildcardPrefix.isPrefixOf (s.map Char.toLower) = wildcardPrefix.isPrefixOf s := by
  match s with
  | [] => rfl
  | [a] => simp [wildcardPrefix, List.isPrefixOf]
  | a :: b :: t =>
    simp [wildcardPrefix, List.isPrefixOf, beq_toLower_of_lt (d := '*') (by decide),
      beq_toLower_of_lt (d := '.') (by decide)]

/-- A hostname the schema admits without `*.` does not start with a dot. -/
theorem ne_dot_cons_of_isHostname {h : String} (hv : isHostname h = true)
    (hw : wildcardPrefix.isPrefixOf (toLower h) = false) (t : List Char) :
    toLower h ≠ '.' :: t := by
  rw [toLower, isPrefixOf_wildcard_map] at hw
  rw [isHostname, if_neg (by simp [hw])] at hv
  intro he
  cases hd : h.data with
  | nil => simp [toLower, hd] at he
  | cons c cs =>
    simp only [toLower, hd, List.map_cons, List.cons.injEq] at he
    have hc := beq_toLower_of_lt (c := c) (d := '.') (by decide)
    rw [he.1, beq_self_eq_true] at hc
    obtain rfl : c = '.' := (beq_iff_eq.mp hc.symm).symm
    simp [isConcreteName, hd, List.splitOn, List.splitOnP_cons, isLabel] at hv

/-- A name a hostname denotes: the hostname itself, or one label in front of a
wildcard's suffix. -/
def sampleName (h : String) : List Char :=
  if wildcardPrefix.isPrefixOf (toLower h) then 'a' :: (toLower h).drop 1 else toLower h

theorem denotes_sampleName (h : String) : denotes h (sampleName h) = true := by
  unfold denotes sampleName
  split <;> simp_all [List.map_drop]

/-- A wildcard that `matchesWildcard` finds over a schema hostname without `*.`
denotes that hostname. -/
theorem denotes_of_matchesWildcard {w n : String}
    (hw : wildcardPrefix.isPrefixOf (toLower w) = true)
    (hn : wildcardPrefix.isPrefixOf (toLower n) = false) (hv : isHostname n = true)
    (h : matchesWildcard (toLower w) (toLower n) = true) :
    denotes w (toLower n) = true ∧ denotes n (toLower n) = true := by
  obtain ⟨rest, hrest⟩ := List.isPrefixOf_iff_prefix.mp hw
  have hsuf : (toLower w).tail <:+ toLower n := by
    simp only [matchesWildcard] at h
    split at h
    · cases h
    · rename_i hs
      simpa using hs
  have hlen : (toLower w).length - 1 < (toLower n).length := by
    by_contra hle
    have he := hsuf.eq_of_length_le (by simpa using hle)
    rw [← hrest] at he
    exact ne_dot_cons_of_isHostname hv hn rest he.symm
  simp [denotes, hw, hn, hsuf, hlen]

/-- `hostnameMatches` is sound for schema hostnames: a match has a name both
denote. -/
theorem hostnameMatches_sound {l r : String} (hl : isHostname l = true) (hr : isHostname r = true)
    (h : hostnameMatches l r = true) :
    ∃ name, denotes l name = true ∧ denotes r name = true := by
  unfold hostnameMatches at h
  by_cases heq : toLower l = toLower r
  · refine ⟨sampleName l, denotes_sampleName l, ?_⟩
    simpa only [denotes, heq] using denotes_sampleName l
  simp only [beq_iff_eq, heq, if_false] at h
  cases hlw : wildcardPrefix.isPrefixOf (toLower l) <;>
    cases hrw : wildcardPrefix.isPrefixOf (toLower r) <;>
    simp only [hlw, hrw, Bool.and_self, Bool.and_false, Bool.false_and, if_true, if_false,
      Bool.false_eq_true] at h
  · exact ⟨_, (denotes_of_matchesWildcard hrw hlw hl h).symm⟩
  · exact ⟨_, denotes_of_matchesWildcard hlw hrw hr h⟩
  · have ht : (toLower l).tail = (toLower r).tail := by simpa using h
    refine ⟨sampleName l, denotes_sampleName l, ?_⟩
    simp [denotes, sampleName, hlw, hrw, ← ht]

/-- `hostnameMatches` is symmetric: the wildcard-only branches mirror each other. -/
theorem hostnameMatches_comm (l r : String) : hostnameMatches l r = hostnameMatches r l := by
  simp only [hostnameMatches]
  by_cases heq : toLower l = toLower r
  · simp [heq]
  · have hne : toLower r ≠ toLower l := Ne.symm heq
    cases wildcardPrefix.isPrefixOf (toLower l) <;>
      cases wildcardPrefix.isPrefixOf (toLower r) <;> simp [heq, hne]
    exact eq_comm

/-- A wildcard and a plain hostname with a name in common pass `matchesWildcard`:
the name is the plain hostname, longer than the wildcard's suffix. -/
theorem matchesWildcard_of_denotes {w n : String} {name : List Char}
    (hw : wildcardPrefix.isPrefixOf (toLower w) = true)
    (hn : wildcardPrefix.isPrefixOf (toLower n) = false)
    (h1 : denotes w name = true) (h2 : denotes n name = true) :
    matchesWildcard (toLower w) (toLower n) = true := by
  simp only [denotes, hw, hn, if_true, if_false, Bool.and_eq_true, decide_eq_true_eq,
    beq_iff_eq, Bool.false_eq_true] at h1 h2
  rw [← h2] at h1
  have hne : (toLower n == ((toLower w).drop 1).drop 1) = false := by
    refine beq_eq_false_iff_ne.mpr fun he => ?_
    have := congrArg List.length he
    simp only [List.length_drop] at this h1
    omega
  simp only [matchesWildcard, h1.1, hne, Bool.not_true, Bool.false_eq_true, if_false]

/-- Outside a pair of wildcards `hostnameMatches` is complete: two hostnames
with a name in common match. -/
theorem hostnameMatches_of_denotes {l r : String} {name : List Char}
    (hw : (wildcardPrefix.isPrefixOf (toLower l) && wildcardPrefix.isPrefixOf (toLower r)) =
      false)
    (hl : denotes l name = true) (hr : denotes r name = true) : hostnameMatches l r = true := by
  unfold hostnameMatches
  by_cases heq : toLower l = toLower r
  · simp [heq]
  cases hlw : wildcardPrefix.isPrefixOf (toLower l) <;>
    cases hrw : wildcardPrefix.isPrefixOf (toLower r) <;>
    simp only [hlw, hrw, Bool.and_self, Bool.and_true, Bool.true_and, Bool.false_and] at hw ⊢
  · simp only [denotes, hlw, hrw, if_false, Bool.false_eq_true, beq_iff_eq] at hl hr
    exact absurd (hl.trans hr.symm) heq
  · simpa [heq] using matchesWildcard_of_denotes hrw hlw hr hl
  · simpa [heq] using matchesWildcard_of_denotes hlw hrw hl hr
  · cases hw

/-- On schema hostnames that are not both wildcards, `hostnameMatches` is
symmetric and holds exactly when the two denote a name in common. -/
theorem hostnameMatches_iff_common_name {l r : String} (hl : isHostname l = true)
    (hr : isHostname r = true)
    (hw : (wildcardPrefix.isPrefixOf (toLower l) && wildcardPrefix.isPrefixOf (toLower r)) =
      false) :
    hostnameMatches l r = hostnameMatches r l ∧
      (hostnameMatches l r = true ↔ ∃ name, denotes l name = true ∧ denotes r name = true) :=
  ⟨hostnameMatches_comm l r, ⟨hostnameMatches_sound hl hr,
    fun ⟨_, h1, h2⟩ => hostnameMatches_of_denotes hw h1 h2⟩⟩

theorem wildcard_matches_host_below :
    isHostname "*.example.com" = true ∧ isHostname "foo.example.com" = true ∧
    (wildcardPrefix.isPrefixOf (toLower "*.example.com") &&
      wildcardPrefix.isPrefixOf (toLower "foo.example.com")) = false ∧
    hostnameMatches "*.example.com" "foo.example.com" =
      hostnameMatches "foo.example.com" "*.example.com" ∧
    (hostnameMatches "*.example.com" "foo.example.com" = true ↔
      ∃ name, denotes "*.example.com" name = true ∧ denotes "foo.example.com" name = true) :=
  ⟨by decide, by decide, by decide,
    hostnameMatches_iff_common_name (by decide) (by decide) (by decide)⟩

/-- Nested wildcards share names, yet `hostnameMatches` compares their suffixes
for equality and rejects them in either order. -/
theorem hostnameMatches_misses_nested_wildcards :
    isHostname "*.example.com" = true ∧ isHostname "*.foo.example.com" = true ∧
      denotes "*.example.com" "a.foo.example.com".data = true ∧
      denotes "*.foo.example.com" "a.foo.example.com".data = true ∧
      hostnameMatches "*.example.com" "*.foo.example.com" = false ∧
      hostnameMatches "*.foo.example.com" "*.example.com" = false := by
  decide

/-- A name the route's hostnames admit. -/
theorem hostnamesAdmit_sample (hostnames : List String) :
    hostnamesAdmit hostnames ((hostnames.head?.map sampleName).getD []) = true := by
  cases hostnames with
  | nil => rfl
  | cons h hs => simp [hostnamesAdmit, denotes_sampleName]

/-- `HostnamesIntersect` is sound for schema hostnames: when it accepts, some
name is admitted by both the listener and the route. -/
theorem hostnamesIntersect_sound {listenerHostname : Option String} {hostnames : List String}
    (hl : listenerHostname.all (fun h => h == "" || isHostname h) = true)
    (hr : hostnames.all isHostname = true)
    (h : hostnamesIntersect listenerHostname hostnames = true) :
    ∃ name, listenerAdmits listenerHostname name = true ∧
      hostnamesAdmit hostnames name = true := by
  cases listenerHostname with
  | none => exact ⟨_, rfl, hostnamesAdmit_sample hostnames⟩
  | some l =>
    by_cases hle : l = ""
    · exact ⟨_, by simp [listenerAdmits, hle], hostnamesAdmit_sample hostnames⟩
    have hlv : isHostname l = true := by simpa [hle] using hl
    cases hostnames with
    | nil => exact ⟨sampleName l, by simp [listenerAdmits, denotes_sampleName], rfl⟩
    | cons r rs =>
      simp only [hostnamesIntersect, beq_iff_eq, hle, if_false, List.isEmpty_cons,
        Bool.false_eq_true] at h
      obtain ⟨r', hr', hm⟩ := List.any_eq_true.mp h
      obtain ⟨name, h1, h2⟩ := hostnameMatches_sound hlv (List.all_eq_true.mp hr r' hr') hm
      refine ⟨name, by simp [listenerAdmits, h1], ?_⟩
      simp only [hostnamesAdmit, List.isEmpty_cons, Bool.false_or]
      exact List.any_eq_true.mpr ⟨r', hr', h2⟩

section Binding

variable {c : Cluster} {route : RouteInfo}

/-- A listener that accepts a route shares a hostname with it. -/
theorem hostnamesIntersect_of_listenerAcceptsRoute {listener : Listener} {gatewayNamespace : String}
    (h : listenerAcceptsRoute c listener gatewayNamespace route = .ok reasonAccepted) :
    hostnamesIntersect listener.hostname route.hostnames = true := by
  by_contra hi
  simp [listenerAcceptsRoute, hi, reasonNoMatchingListenerHostname, reasonAccepted] at h

/-- Every name the listener loop adds is that of a visited listener that shares
a hostname with the route. -/
theorem mem_findMatchingListenersLoop {gatewayNamespace : String} :
    ∀ {listeners : List Listener} {matched : List String} {last : String}
      {result : List String × String},
      findMatchingListenersLoop c gatewayNamespace route listeners matched last = .ok result →
      ∀ n ∈ result.1, n ∈ matched ∨
        ∃ listener ∈ listeners, listener.name = n ∧
          hostnamesIntersect listener.hostname route.hostnames = true
  | [], matched, last, result, h, n, hn => by
    cases h
    exact .inl hn
  | listener :: listeners, matched, last, result, h, n, hn => by
    have step : ∀ {m : List String} {r : String},
        findMatchingListenersLoop c gatewayNamespace route listeners m r = .ok result →
        (∀ x ∈ m, x ∈ matched ∨
          x = listener.name ∧ hostnamesIntersect listener.hostname route.hostnames = true) →
        n ∈ matched ∨
          ∃ l ∈ listener :: listeners, l.name = n ∧
            hostnamesIntersect l.hostname route.hostnames = true := by
      intro m r h' hm
      rcases mem_findMatchingListenersLoop h' n hn with hn' | ⟨l, hl, hln⟩
      · rcases hm n hn' with h1 | ⟨rfl, h2⟩
        · exact .inl h1
        · exact .inr ⟨listener, List.mem_cons_self _ _, rfl, h2⟩
      · exact .inr ⟨l, List.mem_cons_of_mem _ hl, hln⟩
    unfold findMatchingListenersLoop at h
    split at h
    · exact step h fun x hx => .inl hx
    split at h
    · cases h
    rename_i reason hr
    split at h
    · rename_i hacc
      have hi := hostnamesIntersect_of_listenerAcceptsRoute (hr.trans (congrArg _ (eq_of_beq hacc)))
      exact step h fun x hx =>
        (List.mem_append.mp hx).imp_right fun hx => ⟨List.mem_singleton.mp hx, hi⟩
    · exact step h fun x hx => .inl hx

/-- A listener named in an accepted binding result shares a hostname with the
route. -/
theorem matchedListeners_share_hostname {gateway : Gateway} {result : BindingResult}
    (h : validateBinding c gateway route = .ok result) (hacc : result.accepted = true) {n : String}
    (hn : n ∈ result.matchedListeners) :
    ∃ listener ∈ gateway.listeners, listener.name = n ∧
      hostnamesIntersect listener.hostname route.hostnames = true := by
  unfold validateBinding at h
  split at h
  · cases h
  rename_i matched reason hf
  split at h
  · cases h
    cases hacc
  cases h
  unfold findMatchingListeners at hf
  split at hf
  · cases hf
    cases hn
  split at hf
  · cases hf
  rename_i m last hl
  split at hf
  · split at hf <;> (try split at hf) <;> cases hf <;> cases hn
  · cases hf
    exact (mem_findMatchingListenersLoop hl n hn).resolve_left (List.not_mem_nil n)

end Binding

/-- The hostnames of a wire route. -/
def RouteKind.wireHostnames : (k : RouteKind) → k.Wire → List String
  | .http, w => w.hostnames
  | .grpc, w => w.hostnames

/-- The builder copies a route's hostnames verbatim. -/
theorem RouteKind.build_hostnames {k : RouteKind} {b : PingoraBuilder} {R : Route k.Rule}
    {w : k.Wire} (h : k.build b R = .ok w) : k.wireHostnames w = R.hostnames := by
  cases k with
  | http =>
    simp only [RouteKind.build, PingoraBuilder.buildHTTPRoute] at h
    cases hm : R.rules.mapM (b.buildHTTPRouteRule R.ns) <;> rw [hm] at h <;> cases h
    rfl
  | grpc =>
    simp only [RouteKind.build, PingoraBuilder.buildGRPCRoute] at h
    cases hm : R.rules.mapM (b.buildGRPCRouteRule R.ns) <;> rw [hm] at h <;> cases h
    rfl

/-- The Gateway API schema's `Hostname` rule holds of every listener hostname
and route hostname of the cluster; an empty listener hostname stands for none. -/
def Cluster.hostnamesValid (c : Cluster) : Bool :=
  c.gateways.items.all (fun g => g.listeners.all fun l =>
      l.hostname.all fun h => h == "" || isHostname h) &&
    c.httpRoutes.items.all (fun r => r.hostnames.all isHostname) &&
    c.grpcRoutes.items.all (fun r => r.hostnames.all isHostname)

namespace Cluster

variable {c : Cluster} (hv : c.hostnamesValid = true)
include hv

theorem hostnamesValid_route {k : RouteKind} {R : Route k.Rule} (hR : R ∈ (c.routes k).items) :
    R.hostnames.all isHostname = true := by
  simp only [hostnamesValid, Bool.and_eq_true] at hv
  cases k
  exacts [List.all_eq_true.mp hv.1.2 R hR, List.all_eq_true.mp hv.2 R hR]

theorem hostnamesValid_listener {g : Gateway} (hg : g ∈ c.gateways.items) {l : Listener}
    (hl : l ∈ g.listeners) :
    l.hostname.all (fun h => h == "" || isHostname h) = true := by
  simp only [hostnamesValid, Bool.and_eq_true] at hv
  exact List.all_eq_true.mp (List.all_eq_true.mp hv.1.1 g hg) l hl

end Cluster

/-- Each listener matched in an accepted binding of the route admits a name
that the hostnames admit. -/
def SharesMatchedListenerHostname (c : Cluster) (gatewayClassName : String) (k : RouteKind)
    (R : Route k.Rule) (hostnames : List String) : Prop :=
  ∀ ref ∈ R.parentRefs, ∀ result,
    parentBinding c gatewayClassName k.kindName R ref = some result →
    result.accepted = true → ∀ n ∈ result.matchedListeners,
      ∃ gateway listener, c.getGateway ref.name (ref.ns.getD R.ns) = some gateway ∧
        listener ∈ gateway.listeners ∧ listener.name = n ∧ ∃ name,
          listenerAdmits listener.hostname name = true ∧ hostnamesAdmit hostnames name = true

/-- Every wire route of a push is the builder image of a relevant route, with
that route's hostnames verbatim, and shares a hostname with each listener its
accepted bindings matched. -/
theorem pushed_route_shares_hostname_with_matched_listeners (s : PingoraRouteSyncer) (c : Cluster)
    (env : SyncEnv) (hv : c.hostnamesValid = true) {push : Push}
    (hp : (s.syncAllRoutes c env).2.1 = some push) (k : RouteKind)
    {w : k.Wire} (hw : w ∈ push.request.table k) :
    ∃ R ∈ (c.routes k).items, isRelevantRoute c s.gatewayClassName k.kindName R = true ∧
      k.build s.builder R = .ok w ∧ k.wireHostnames w = R.hostnames ∧
      SharesMatchedListenerHostname c s.gatewayClassName k R (k.wireHostnames w) := by
  obtain ⟨R, hR, hb⟩ := exists_of_mem_mapM_ok (s.syncAllRoutes_push_table c env hp k) w hw
  obtain ⟨hR, hrel⟩ := List.mem_filter.mp hR
  have hh := RouteKind.build_hostnames hb
  refine ⟨R, hR, hrel, hb, hh, fun ref _ result hpb hacc n hn => ?_⟩
  obtain ⟨-, gateway, hg, -, hval⟩ := parentBinding_eq_some_iff.mp hpb
  obtain ⟨listener, hl, hname, hi⟩ := matchedListeners_share_hostname hval hacc hn
  obtain ⟨name, h1, h2⟩ := hostnamesIntersect_sound
    (Cluster.hostnamesValid_listener hv (Store.mem_of_get hg).1 hl)
    (Cluster.hostnamesValid_route hv hR) hi
  exact ⟨gateway, listener, hg, hl, hname, name, h1, hh ▸ h2⟩

theorem attached_route_shares_listener_hostname :
    ∃ push, (defaultSyncer.syncAllRoutes attachedCluster okSyncEnv).2.1 = some push ∧
      ∃ w ∈ push.request.table .http, ∃ R ∈ (attachedCluster.routes .http).items,
        isRelevantRoute attachedCluster defaultSyncer.gatewayClassName RouteKind.http.kindName R =
          true ∧
        RouteKind.http.build defaultSyncer.builder R = .ok w ∧
        RouteKind.http.wireHostnames w = R.hostnames ∧
        SharesMatchedListenerHostname attachedCluster defaultSyncer.gatewayClassName .http R
          (RouteKind.http.wireHostnames w) := by
  have hlen : (defaultSyncer.syncAllRoutes attachedCluster okSyncEnv).2.1.map
      (fun push => (push.request.table .http).length) = some 1 := by
    decide
  cases hp : (defaultSyncer.syncAllRoutes attachedCluster okSyncEnv).2.1 with
  | none =>
    rw [hp] at hlen
    cases hlen
  | some push =>
    rw [hp] at hlen
    have hne : push.request.table .http ≠ [] := fun h => by simp [h] at hlen
    exact ⟨push, rfl, _, List.head_mem hne,
      pushed_route_shares_hostname_with_matched_listeners _ _ _ (by decide) hp .http
        (List.head_mem hne)⟩

/-- An HTTPRoute attached to `gw` with one hostname under the listener's
wildcard and one outside it. -/
def wildcardListenerRoute : HTTPRoute :=
  ⟨"r", "ns", 1, [gatewayRef "gw"], ["a.example.com", "x.other.net"], [], []⟩

/-- `wildcardListenerRoute` with `gw` listening on `*.example.com`. -/
def wildcardListenerCluster : Cluster :=
  defaultCluster ⟨[listenerGateway "gw" "pingora" (some "*.example.com")], by decide⟩
    ⟨[wildcardListenerRoute], by decide⟩

/-- The route is accepted at `gw` through its listener `http`, and the push
carries both of its hostnames: the wire route answers for `x.other.net`, which
the only matched listener does not admit. -/
theorem pushed_route_exceeds_listener_hostname :
    wildcardListenerCluster.hostnamesValid = true ∧
    (parentBinding wildcardListenerCluster "pingora" kindHTTPRoute wildcardListenerRoute
      (gatewayRef "gw")).map
      (fun r => (r.accepted, r.matchedListeners)) = some (true, ["http"]) ∧
    (defaultSyncer.syncAllRoutes wildcardListenerCluster okSyncEnv).2.1.map
      (fun push => push.request.httpRoutes.map (·.hostnames)) =
      some [["a.example.com", "x.other.net"]] ∧
    hostnamesAdmit ["a.example.com", "x.other.net"] "x.other.net".data = true ∧
    listenerAdmits (some "*.example.com") "x.other.net".data = false := by
  decide

end PingoraGateway
