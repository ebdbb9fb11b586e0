import PingoraGateway.Correctness.Selection

/-!
# What the builder sends

`BuildHTTPRoute` and `BuildGRPCRoute` against the routes they convert. A built
route keeps the id, the hostnames and every rule, match, header and query
parameter in order. Its backends are the Service refs of each rule, addressed
by their cluster DNS name. The builder fails, which in Go is a nil pointer
panic, exactly on a path match without type or value or on a Service ref
without a port. The schema admits one such ref: a Service of a group other
than the core one, which the builder takes for a core Service since it never
reads the group. A weight of zero, which disables a backend, is sent as one.
-/

namespace PingoraGateway

section Except

theorem bind_eq_ok {ε α β : Type} {x : Except ε α} {f : α → Except ε β} {r : β}
    (h : x >>= f = .ok r) : ∃ a, x = .ok a ∧ f a = .ok r := by
  cases x with
  | error e => cases h
  | ok a => exact ⟨a, rfl, h⟩

theorem exists_ok_of_toBool {ε α : Type} {x : Except ε α} (h : x.toBool = true) :
    ∃ a, x = .ok a := by
  cases x with
  | error e => cases h
  | ok a => exact ⟨a, rfl⟩

theorem toBool_bind_pure {ε α β : Type} (x : Except ε α) (g : α → β) :
    (x >>= fun a => pure (g a)).toBool = x.toBool := by
  cases x <;> rfl

theorem toBool_bind_bind_pure {ε α β γ : Type} (x : Except ε α) (y : Except ε β)
    (g : α → β → γ) : (x >>= fun a => y >>= fun c => pure (g a c)).toBool =
      (x.toBool && y.toBool) := by
  cases x <;> cases y <;> rfl

/-- A `mapM` succeeds exactly when the function succeeds on every element. -/
theorem mapM_toBool {α β ε : Type} (f : α → Except ε β) :
    ∀ xs : List α, (xs.mapM f).toBool = xs.all fun x => (f x).toBool
  | [] => rfl
  | x :: xs => by
    rw [List.mapM_cons, List.all_cons, ← mapM_toBool f xs]
    cases f x <;> cases xs.mapM f <;> rfl

/-- A `mapM` that succeeds pairs each element with its image, in order. -/
theorem forall₂_of_mapM_ok {α β ε : Type} {f : α → Except ε β} :
    ∀ {xs : List α} {ys : List β}, xs.mapM f = .ok ys →
      List.Forall₂ (fun x y => f x = .ok y) xs ys
  | [], _, h => by cases h; exact .nil
  | _ :: _, _, h => by
    obtain ⟨b, bs, hb, hbs, rfl⟩ := mapM_ok_cons h
    exact .cons hb (forall₂_of_mapM_ok hbs)

end Except

/-! ## Backends -/

/-- A backendRef the builder converts: its kind is absent or `Service`. -/
def isServiceRef (ref : BackendRef) : Bool := ref.kind.all (· == "Service")

/-- The backend the builder makes of a Service ref with a port: the ref's
cluster DNS name and port, weighted by its positive weight or else 1. -/
def serviceBackend (b : PingoraBuilder) (ns : String) (ref : BackendRef) (port : Nat) :
    Routing.Backend :=
  ⟨ref.name ++ "." ++ ref.ns.getD ns ++ ".svc." ++ b.clusterDomain ++ ":" ++ toString port,
    ((ref.weight.filter (0 < ·)).map Int.toNat).getD 1, .http⟩

section Backends

variable (b : PingoraBuilder) (ns : String)

/-- `buildBackend` skips exactly the refs of another kind. -/
theorem skip_eq_not_isServiceRef (ref : BackendRef) :
    (ref.kind.isSome && ref.kind != some "Service") = !isServiceRef ref := by
  unfold isServiceRef
  cases ref.kind <;> rfl

/-- What `buildBackend` does with a ref: skip another kind, convert a Service ref
with a port, and dereference a missing port. -/
theorem buildBackend_eq (ref : BackendRef) :
    b.buildBackend ns ref =
      if isServiceRef ref then
        match ref.port with
        | none => .error nilDereference
        | some port => .ok (some (serviceBackend b ns ref port))
      else .ok none := by
  unfold PingoraBuilder.buildBackend serviceBackend
  rw [skip_eq_not_isServiceRef]
  cases isServiceRef ref
  · rfl
  · cases ref.port with
    | none => rfl
    | some port =>
      cases hw : ref.weight with
      | none => rfl
      | some w => by_cases hp : 0 < w <;> simp [hp, Option.filter] <;> rfl

theorem buildBackends_toBool (refs : List BackendRef) :
    (b.buildBackends ns refs).toBool =
      refs.all fun ref => !isServiceRef ref || ref.port.isSome := by
  unfold PingoraBuilder.buildBackends
  rw [toBool_bind_pure, mapM_toBool]
  refine congrArg refs.all (funext fun ref => ?_)
  rw [buildBackend_eq]
  cases isServiceRef ref
  · rfl
  · cases ref.port <;> rfl

/-- The backends of a rule: one per Service ref, in order, each the ref's
`serviceBackend` at its port. -/
theorem buildBackends_ok {refs : List BackendRef} {backends : List Routing.Backend}
    (h : b.buildBackends ns refs = .ok backends) :
    List.Forall₂
      (fun ref w => ∃ port, ref.port = some port ∧ w = serviceBackend b ns ref port)
      (refs.filter isServiceRef) backends := by
  unfold PingoraBuilder.buildBackends at h
  obtain ⟨os, hos, h'⟩ := bind_eq_ok h
  clear h
  cases h'
  have hf := forall₂_of_mapM_ok hos
  clear hos
  induction hf with
  | nil => exact .nil
  | @cons ref o refs os ho _ ih =>
    rw [buildBackend_eq] at ho
    rw [List.filter_cons]
    cases hs : isServiceRef ref
    · simp only [hs, if_false, Except.ok.injEq, Bool.false_eq_true] at ho ⊢
      subst ho
      exact ih
    · simp only [hs, if_true] at ho ⊢
      cases hp : ref.port <;> rw [hp] at ho <;> cases ho
      exact .cons ⟨_, hp, rfl⟩ ih

end Backends

/-! ## Which routes the builder converts -/

/-- A path match the builder can read: no path, or one with type and value. -/
def pathMatchSet (m : HTTPRouteMatch) : Bool :=
  m.path.all fun p => p.type.isSome && p.value.isSome

/-- A backendRef as the API server stores it: group and kind defaulted, and a
port wherever the schema requires one, on a Service of the core group. -/
def backendRefAdmitted (ref : BackendRef) : Bool :=
  ref.group.isSome && ref.kind.isSome &&
    (!(ref.group == some "" && ref.kind == some "Service") || ref.port.isSome)

/-- An HTTPRoute rule as the API server stores it, as far as the builder reads
it: path matches defaulted and backendRefs admitted. -/
def httpRuleAdmitted (rule : HTTPRouteRule) : Bool :=
  rule.ruleMatches.all pathMatchSet && rule.backendRefs.all backendRefAdmitted

/-- An HTTPRoute as the API server stores it, as far as the builder reads it. -/
def httpRouteAdmitted (route : HTTPRoute) : Bool :=
  route.rules.all httpRuleAdmitted

/-- A GRPCRoute as the API server stores it, as far as the builder reads it. -/
def grpcRouteAdmitted (route : GRPCRoute) : Bool :=
  route.rules.all fun rule => rule.backendRefs.all backendRefAdmitted

/-- A stored backendRef of weight zero, which disables the backend it names. -/
def zeroWeightRef : BackendRef := ⟨some "", some "Service", "svc", none, some 80, some 0⟩

/-- A stored backendRef of weight zero is sent with weight one. -/
theorem buildBackend_sends_zero_weight_as_one (b : PingoraBuilder) (ns : String) :
    backendRefAdmitted zeroWeightRef = true ∧ zeroWeightRef.weight = some 0 ∧
      ∃ w, b.buildBackend ns zeroWeightRef = .ok (some w) ∧ w.weight = 1 :=
  ⟨rfl, rfl, _, rfl, rfl⟩

/-- Every Service ref among `refs` names the core group. -/
def CoreServices (refs : List BackendRef) : Prop :=
  ∀ ref ∈ refs, ref.kind = some "Service" → ref.group = some ""

section Success

variable (b : PingoraBuilder) (ns : String)

theorem buildHTTPRouteMatch_toBool (m : HTTPRouteMatch) :
    (buildHTTPRouteMatch m).toBool = pathMatchSet m := by
  rcases m with ⟨_ | ⟨_ | type, _ | value⟩, headers, queryParams, method⟩ <;> rfl

/-- `buildHTTPRouteRule` succeeds exactly when every path match has type and
value and every Service ref has a port. -/
theorem buildHTTPRouteRule_toBool (rule : HTTPRouteRule) :
    (b.buildHTTPRouteRule ns rule).toBool = (rule.ruleMatches.all pathMatchSet &&
      rule.backendRefs.all fun ref => !isServiceRef ref || ref.port.isSome) := by
  unfold PingoraBuilder.buildHTTPRouteRule
  cases rule.ruleMatches with
  | nil =>
    simp only [List.isEmpty_nil, if_true, pure_bind, List.all_nil, Bool.true_and,
      toBool_bind_pure, buildBackends_toBool]
  | cons m ms =>
    simp only [List.isEmpty_cons, Bool.false_eq_true, if_false, toBool_bind_bind_pure,
      mapM_toBool, buildHTTPRouteMatch_toBool, buildBackends_toBool]

/-- An admitted Service ref of the core group has a port. -/
theorem port_isSome_of_admitted {ref : BackendRef} (ha : backendRefAdmitted ref = true)
    (hs : isServiceRef ref = true) (hcore : ref.kind = some "Service" → ref.group = some "") :
    ref.port.isSome = true := by
  simp only [backendRefAdmitted, Bool.and_eq_true, Option.isSome_iff_exists, Bool.or_eq_true,
    Bool.not_eq_true', beq_iff_eq] at ha
  obtain ⟨⟨-, k, hk⟩, hport⟩ := ha
  have hkind : ref.kind = some "Service" := by
    simpa [isServiceRef, hk] using hs
  simpa [hkind, hcore hkind, Option.isSome_iff_exists] using hport

/-- Among admitted refs whose Services are all of the core group, every Service
ref has a port. -/
theorem ports_of_core_services {refs : List BackendRef}
    (hadm : refs.all backendRefAdmitted = true) (hcore : CoreServices refs) :
    (refs.all fun ref => !isServiceRef ref || ref.port.isSome) = true := by
  simp only [List.all_eq_true, Bool.or_eq_true, Bool.not_eq_true']
  intro ref href
  cases hs : isServiceRef ref
  · exact .inl rfl
  · exact .inr (port_isSome_of_admitted (List.all_eq_true.mp hadm ref href) hs
      (hcore ref href))

/-- On a rule the API server admits, `buildHTTPRouteRule` can fail only at a
Service ref of a group other than the core one. -/
theorem buildHTTPRouteRule_ok_of_core_services {rule : HTTPRouteRule}
    (hadm : httpRuleAdmitted rule = true) (hcore : CoreServices rule.backendRefs) :
    ∃ w, b.buildHTTPRouteRule ns rule = .ok w := by
  simp only [httpRuleAdmitted, Bool.and_eq_true] at hadm
  refine exists_ok_of_toBool ?_
  rw [buildHTTPRouteRule_toBool, hadm.1, ports_of_core_services hadm.2 hcore, Bool.and_self]

/-- On a route the API server admits, `BuildHTTPRoute` can fail only at a
Service ref of a group other than the core one. -/
theorem buildHTTPRoute_ok_of_core_services {R : HTTPRoute} (hadm : httpRouteAdmitted R = true)
    (hcore : ∀ rule ∈ R.rules, CoreServices rule.backendRefs) :
    ∃ w, b.buildHTTPRoute R = .ok w := by
  refine exists_ok_of_toBool ?_
  unfold PingoraBuilder.buildHTTPRoute
  rw [toBool_bind_pure, mapM_toBool, List.all_eq_true]
  intro rule hr
  obtain ⟨w, hw⟩ := buildHTTPRouteRule_ok_of_core_services b R.ns
    (List.all_eq_true.mp hadm rule hr) (hcore rule hr)
  rw [hw]
  rfl

/-- On a route the API server admits, `BuildGRPCRoute` can fail only at a
Service ref of a group other than the core one. -/
theorem buildGRPCRoute_ok_of_core_services {R : GRPCRoute} (hadm : grpcRouteAdmitted R = true)
    (hcore : ∀ rule ∈ R.rules, CoreServices rule.backendRefs) :
    ∃ w, b.buildGRPCRoute R = .ok w := by
  refine exists_ok_of_toBool ?_
  unfold PingoraBuilder.buildGRPCRoute
  rw [toBool_bind_pure, mapM_toBool, List.all_eq_true]
  intro rule hr
  unfold PingoraBuilder.buildGRPCRouteRule
  rw [toBool_bind_pure, buildBackends_toBool]
  exact ports_of_core_services (List.all_eq_true.mp hadm rule hr) (hcore rule hr)

end Success

/-- An HTTPRoute attached to `gw` whose one backend is a Service of the
`example.io` group without a port, which the schema requires only of a core
Service. -/
def nonCoreServiceRoute : HTTPRoute :=
  ⟨"r2", "ns", 1, [gatewayRef "gw"], ["example.com"],
    [⟨[], [⟨some "example.io", some "Service", "svc", none, none, none⟩], none⟩], []⟩

/-- `attachedCluster` with `nonCoreServiceRoute` listed after `attachedRoute`. -/
def nonCoreServiceCluster : Cluster :=
  defaultCluster ⟨[listenerGateway "gw" "pingora" none], by decide⟩
    ⟨[attachedRoute, nonCoreServiceRoute], by decide⟩

/-- The API server admits `nonCoreServiceRoute`, the builder dereferences its
missing port, and the panic aborts the whole sync: not even `attachedRoute` is
pushed. -/
theorem non_core_service_ref_aborts_sync :
    httpRouteAdmitted nonCoreServiceRoute = true ∧
      defaultSyncer.builder.buildHTTPRoute nonCoreServiceRoute = .error nilDereference ∧
      (defaultSyncer.syncAllRoutes nonCoreServiceCluster okSyncEnv).2 =
        (none, .panicked nilDereference) :=
  ⟨by decide, rfl, rfl⟩

/-! ## What a built route keeps -/

/-- The wire path type of a schema path type. -/
def PathTypeKept (type : String) (w : Routing.PathMatchType) : Prop :=
  (type = "Exact" → w = .exact) ∧ (type = "PathPrefix" → w = .pathPrefix) ∧
    (type = "RegularExpression" → w = .regex)

/-- A wire header match keeps the spec's name and value, with type EXACT for an
absent or `Exact` type and REGEX for `RegularExpression`. -/
def HeaderKept (type : Option String) (name value : String) (w : Routing.HeaderMatch) : Prop :=
  w.name = name ∧ w.value = value ∧
    (type = none ∨ type = some "Exact" → w.type = .exact) ∧
    (type = some "RegularExpression" → w.type = .regex)

/-- A wire query parameter match keeps the spec's name and value, with type EXACT
for an absent or `Exact` type and REGEX for `RegularExpression`. -/
def QueryParamKept (m : HTTPQueryParamMatch) (w : Routing.QueryParamMatch) : Prop :=
  w.name = m.name ∧ w.value = m.value ∧
    (m.type = none ∨ m.type = some "Exact" → w.type = .exact) ∧
    (m.type = some "RegularExpression" → w.type = .regex)

/-- A wire HTTP match keeps the path type and value, the method, and the headers
and query parameters in order. -/
def HTTPMatchKept (m : HTTPRouteMatch) (w : Routing.HTTPRouteMatch) : Prop :=
  (m.path = none → w.path = none) ∧
    (∀ p ∈ m.path, ∃ type value, p.type = some type ∧ p.value = some value ∧
      ∃ wp, w.path = some wp ∧ wp.value = value ∧ PathTypeKept type wp.type) ∧
    w.method = m.method.getD "" ∧
    List.Forall₂ (fun h wh => HeaderKept h.type h.name h.value wh) m.headers w.headers ∧
    List.Forall₂ QueryParamKept m.queryParams w.queryParams

/-- A wire HTTP rule has one match per spec match, in order, or the single
PREFIX `/` match when the spec rule has none. -/
def HTTPRuleKept (rule : HTTPRouteRule) (w : Routing.HTTPRouteRule) : Prop :=
  (rule.ruleMatches = [] → w.ruleMatches = [⟨some ⟨.pathPrefix, "/"⟩, "", [], []⟩]) ∧
    (rule.ruleMatches ≠ [] → List.Forall₂ HTTPMatchKept rule.ruleMatches w.ruleMatches)

/-- A wire gRPC match mirrors the method match, with service and method kept and
the type EXACT when absent or `Exact` and REGEX for `RegularExpression`, and
keeps the headers in order. -/
def GRPCMatchKept (m : GRPCRouteMatch) (w : Routing.GRPCRouteMatch) : Prop :=
  (m.method = none → w.method = none) ∧
    (∀ mm ∈ m.method, ∃ wm, w.method = some wm ∧ wm.service = mm.service.getD "" ∧
      wm.method = mm.method.getD "" ∧
      (mm.type = none ∨ mm.type = some "Exact" → wm.type = .exact) ∧
      (mm.type = some "RegularExpression" → wm.type = .regex)) ∧
    List.Forall₂ (fun h wh => HeaderKept h.type h.name h.value wh) m.headers w.headers

/-- A wire gRPC rule has one match per spec match, in order. -/
def GRPCRuleKept (rule : GRPCRouteRule) (w : Routing.GRPCRouteRule) : Prop :=
  List.Forall₂ GRPCMatchKept rule.ruleMatches w.ruleMatches

section Kept

theorem pathMatchType_kept (type : String) : PathTypeKept type (pathMatchType type) :=
  ⟨by rintro rfl; rfl, by rintro rfl; rfl, by rintro rfl; rfl⟩

theorem headerMatchType_kept (type : Option String) :
    (type = none ∨ type = some "Exact" → headerMatchType type = .exact) ∧
      (type = some "RegularExpression" → headerMatchType type = .regex) :=
  ⟨by rintro (rfl | rfl) <;> rfl, by rintro rfl; rfl⟩

theorem headers_kept (headers : List HTTPHeaderMatch) :
    List.Forall₂ (fun h wh => HeaderKept h.type h.name h.value wh) headers
      (headers.map buildHeaderMatch) :=
  List.forall₂_map_right_iff.mpr <| List.forall₂_same.mpr fun h _ =>
    ⟨rfl, rfl, headerMatchType_kept h.type⟩

theorem grpcHeaders_kept (headers : List GRPCHeaderMatch) :
    List.Forall₂ (fun h wh => HeaderKept h.type h.name h.value wh) headers
      (headers.map buildGRPCHeaderMatch) :=
  List.forall₂_map_right_iff.mpr <| List.forall₂_same.mpr fun h _ =>
    ⟨rfl, rfl, headerMatchType_kept h.type⟩

theorem queryParams_kept (params : List HTTPQueryParamMatch) :
    List.Forall₂ QueryParamKept params (params.map buildQueryParamMatch) :=
  List.forall₂_map_right_iff.mpr <| List.forall₂_same.mpr fun m _ =>
    ⟨rfl, rfl, by rintro (h | h) <;> simp [buildQueryParamMatch, h], by
      intro h; simp [buildQueryParamMatch, h]⟩

theorem buildHTTPRouteMatch_kept {m : HTTPRouteMatch} {w : Routing.HTTPRouteMatch}
    (h : buildHTTPRouteMatch m = .ok w) : HTTPMatchKept m w := by
  rcases m with ⟨_ | ⟨_ | type, _ | value⟩, headers, queryParams, method⟩ <;> cases h
  · exact ⟨fun _ => rfl, fun _ hp => (by cases hp), rfl, headers_kept headers,
      queryParams_kept queryParams⟩
  · refine ⟨fun hp => (by cases hp), fun p hp => ?_, rfl, headers_kept headers,
      queryParams_kept queryParams⟩
    cases hp
    exact ⟨type, value, rfl, rfl, _, rfl, rfl, pathMatchType_kept type⟩

theorem buildGRPCRouteMatch_kept (m : GRPCRouteMatch) :
    GRPCMatchKept m (buildGRPCRouteMatch m) := by
  refine ⟨fun hm => by simp [buildGRPCRouteMatch, hm], fun mm hmm => ?_,
    grpcHeaders_kept m.headers⟩
  obtain ⟨method, headers⟩ := m
  simp only [Option.mem_def] at hmm
  subst hmm
  exact ⟨_, rfl, rfl, rfl, by rintro (h | h) <;> simp [h], by intro h; simp [h]⟩

variable (b : PingoraBuilder) (ns : String)

theorem buildHTTPRouteRule_kept {rule : HTTPRouteRule} {w : Routing.HTTPRouteRule}
    (h : b.buildHTTPRouteRule ns rule = .ok w) : HTTPRuleKept rule w := by
  unfold PingoraBuilder.buildHTTPRouteRule at h
  unfold HTTPRuleKept
  cases hm : rule.ruleMatches with
  | nil =>
    simp only [hm, List.isEmpty_nil, if_true, pure_bind] at h
    obtain ⟨bs, -, h⟩ := bind_eq_ok h
    cases h
    exact ⟨fun _ => rfl, fun hne => absurd rfl hne⟩
  | cons m ms =>
    simp only [hm, List.isEmpty_cons, Bool.false_eq_true, if_false] at h
    obtain ⟨wms, hms, h⟩ := bind_eq_ok h
    obtain ⟨bs, -, h⟩ := bind_eq_ok h
    cases h
    exact ⟨fun he => (by cases he),
      fun _ => (forall₂_of_mapM_ok hms).imp fun _ _ => buildHTTPRouteMatch_kept⟩

theorem buildGRPCRouteRule_kept {rule : GRPCRouteRule} {w : Routing.GRPCRouteRule}
    (h : b.buildGRPCRouteRule ns rule = .ok w) : GRPCRuleKept rule w := by
  unfold PingoraBuilder.buildGRPCRouteRule at h
  obtain ⟨bs, -, h⟩ := bind_eq_ok h
  cases h
  exact List.forall₂_map_right_iff.mpr <| List.forall₂_same.mpr fun m _ =>
    buildGRPCRouteMatch_kept m

end Kept

/-- A built HTTPRoute has the route's wire id and hostnames and keeps every rule,
match, header and query parameter in order; a built GRPCRoute likewise keeps
its rules' method and header matches. Each is built from every route the API
server admits whose Service refs name the core group. -/
theorem built_routes_keep_structure (b : PingoraBuilder) :
    (∀ (R : HTTPRoute) (w : Routing.HTTPRoute), b.buildHTTPRoute R = .ok w →
      w.id = R.ns ++ "/" ++ R.name ∧ w.hostnames = R.hostnames ∧
        List.Forall₂ HTTPRuleKept R.rules w.rules) ∧
    (∀ R : HTTPRoute, httpRouteAdmitted R = true →
      (∀ rule ∈ R.rules, CoreServices rule.backendRefs) →
        ∃ w, b.buildHTTPRoute R = .ok w) ∧
    (∀ (R : GRPCRoute) (w : Routing.GRPCRoute), b.buildGRPCRoute R = .ok w →
      w.id = R.ns ++ "/" ++ R.name ∧ w.hostnames = R.hostnames ∧
        List.Forall₂ GRPCRuleKept R.rules w.rules) ∧
    (∀ R : GRPCRoute, grpcRouteAdmitted R = true →
      (∀ rule ∈ R.rules, CoreServices rule.backendRefs) →
        ∃ w, b.buildGRPCRoute R = .ok w) := by
  refine ⟨fun R w h => ?_, fun _ => buildHTTPRoute_ok_of_core_services b, fun R w h => ?_,
    fun _ => buildGRPCRoute_ok_of_core_services b⟩
  · unfold PingoraBuilder.buildHTTPRoute at h
    obtain ⟨rules, hr, h⟩ := bind_eq_ok h
    cases h
    exact ⟨rfl, rfl, (forall₂_of_mapM_ok hr).imp fun _ _ => buildHTTPRouteRule_kept b R.ns⟩
  · unfold PingoraBuilder.buildGRPCRoute at h
    obtain ⟨rules, hr, h⟩ := bind_eq_ok h
    cases h
    exact ⟨rfl, rfl, (forall₂_of_mapM_ok hr).imp fun _ _ => buildGRPCRouteRule_kept b R.ns⟩

end PingoraGateway
