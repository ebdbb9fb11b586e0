import PingoraGateway.Correctness.ProxyTable

/-!
# The syncer's selection of routes

`getRelevantHTTPRoutes` and `getRelevantGRPCRoutes` against
`IsRouteAcceptedByGateway`, the other loop that decides which routes belong to
this controller. With every Gateway `Get` succeeding, the syncer keeps exactly
the routes that loop accepts, in list order. It records one binding entry per
listed route under its wire id, holding at the index of each parent ref that
names a Gateway of the class the result `ValidateBinding` gives for it.
Wire ids are pairwise distinct, because the API server admits no `/` in a
namespace name and a store holds one object per key.
-/

namespace PingoraGateway

/-- A namespace name the API server admits, a DNS label, has no `/`. -/
def namespaceNameValid (ns : String) : Bool := !ns.data.contains '/'

/-- The namespaces of the cluster's routes are names the API server admits. -/
def Cluster.routeNamespacesValid (c : Cluster) : Bool :=
  c.httpRoutes.items.all (fun r => namespaceNameValid r.ns) &&
    c.grpcRoutes.items.all fun r => namespaceNameValid r.ns

/-- The results the syncer's parent-ref loop records for a route: by index, the
binding of each parent ref it does not skip. -/
def qualifyingResults {Rule : Type} (c : Cluster) (gatewayClassName kind : String)
    (route : Route Rule) : List (Nat × BindingResult) :=
  route.parentRefs.enum.filterMap fun p =>
    (parentBinding c gatewayClassName kind route p.2).map (p.1, ·)

/-- The parent ref at `refIdx` qualifies and `ValidateBinding` gives `result`
for it: its kind is absent or Gateway, the Gateway it names exists with the
configured class, and the evaluator returns no error. -/
def QualifyingResult {Rule : Type} (c : Cluster) (gatewayClassName kind : String)
    (route : Route Rule) (refIdx : Nat) (result : BindingResult) : Prop :=
  ∃ ref, route.parentRefs[refIdx]? = some ref ∧
    (ref.kind = none ∨ ref.kind = some kindGateway) ∧
    ∃ gateway, c.getGateway ref.name (ref.ns.getD route.ns) = some gateway ∧
      gateway.gatewayClassName = gatewayClassName ∧
      validateBinding c gateway ⟨route.name, route.ns, route.hostnames, kind,
        ref.sectionName⟩ = .ok result

/-- What the selection of one kind of route must be. -/
structure SelectsAccepted {Rule : Type} (c : Cluster) (gatewayClassName kind : String)
    (routes selected : List (Route Rule)) (bindings : List (String × RouteBindingInfo)) :
    Prop where
  /-- The routes `IsRouteAcceptedByGateway` accepts when its Gateway `Get`s
  succeed, in list order. -/
  selected_eq : selected = routes.filter fun route =>
    isRouteAcceptedByGateway c gatewayClassName kind route fun _ => true
  /-- One binding entry per listed route, keyed by its wire id, the latest first. -/
  keys_eq : bindings.map Prod.fst = (routes.map routeId).reverse
  /-- Each listed route's entry holds a result exactly at the index of each
  qualifying parent ref, the one `ValidateBinding` gives for it. -/
  results_eq : ∀ route ∈ routes, ∃ info, bindings.lookup (routeId route) = some info ∧
    ∀ refIdx result, info.bindingResults.lookup refIdx = some result ↔
      QualifyingResult c gatewayClassName kind route refIdx result
  /-- Every selected route has a qualifying parent ref whose result is accepted. -/
  accepted : ∀ route ∈ selected, ∃ refIdx result,
    QualifyingResult c gatewayClassName kind route refIdx result ∧ result.accepted = true
  /-- The selected routes have pairwise distinct wire ids. -/
  ids_nodup : (selected.map routeId).Nodup

section Ids

/-- A prefix without `/` is fixed by where the first `/` stands. -/
theorem append_slash_cancel : ∀ {a b x y : List Char}, '/' ∉ a → '/' ∉ b →
    a ++ '/' :: x = b ++ '/' :: y → a = b ∧ x = y
  | [], [], _, _, _, _, h => ⟨rfl, by simpa using h⟩
  | [], d :: b, _, _, _, hb, h => by
    simp only [List.nil_append, List.cons_append, List.cons.injEq] at h
    exact absurd (h.1 ▸ List.mem_cons_self _ _) hb
  | c :: a, [], _, _, ha, _, h => by
    simp only [List.nil_append, List.cons_append, List.cons.injEq] at h
    exact absurd (h.1 ▸ List.mem_cons_self _ _) ha
  | c :: a, d :: b, _, _, ha, hb, h => by
    simp only [List.cons_append, List.cons.injEq] at h
    obtain ⟨h1, h2⟩ := append_slash_cancel (List.not_mem_of_not_mem_cons ha)
      (List.not_mem_of_not_mem_cons hb) h.2
    exact ⟨by rw [h.1, h1], h2⟩

/-- Under valid namespaces the wire id determines a route's key. -/
theorem key_eq_of_routeId_eq {Rule : Type} {R R' : Route Rule}
    (hR : namespaceNameValid R.ns = true) (hR' : namespaceNameValid R'.ns = true)
    (h : routeId R = routeId R') : R.key = R'.key := by
  have hd := congrArg String.data h
  simp only [routeId, String.data_append, List.append_assoc] at hd
  simp only [namespaceNameValid, Bool.not_eq_true', List.contains_eq_any_beq,
    List.any_eq_false, beq_iff_eq] at hR hR'
  obtain ⟨hns, hname⟩ := append_slash_cancel (fun hm => hR _ hm rfl) (fun hm => hR' _ hm rfl) hd
  simp only [Route.key, ObjectKey.mk.injEq, String.ext_iff]
  exact ⟨hns, hname⟩

/-- Routes of one store with valid namespaces have distinct wire ids. -/
theorem routeIds_nodup {Rule : Type} {routes : List (Route Rule)}
    (hk : (routes.map Route.key).Nodup) (hv : routes.all (fun r => namespaceNameValid r.ns)) :
    (routes.map routeId).Nodup := by
  rw [List.all_eq_true] at hv
  refine (List.Nodup.of_map _ hk).map_on fun R hR R' hR' h => ?_
  exact List.inj_on_of_nodup_map hk hR hR' (key_eq_of_routeId_eq (hv R hR) (hv R' hR') h)

/-- A list of pairs with distinct keys finds the pair of each of its members. -/
theorem lookup_of_mem {α β : Type} [BEq α] [LawfulBEq α] :
    ∀ {l : List (α × β)} {a : α} {b : β}, (l.map Prod.fst).Nodup → (a, b) ∈ l →
      l.lookup a = some b
  | (a', b') :: l, a, b, hn, hm => by
    rw [List.map_cons, List.nodup_cons] at hn
    rw [List.lookup_cons]
    rcases List.mem_cons.mp hm with he | ht
    · cases he
      simp
    · have hne : a ≠ a' := by
        rintro rfl
        exact hn.1 (List.mem_map.mpr ⟨(a, b), ht, rfl⟩)
      simp only [beq_false_of_ne hne]
      exact lookup_of_mem hn.2 ht

end Ids

section Loops

variable {Rule : Type} (c : Cluster) (gatewayClassName kind : String) (route : Route Rule)

/-- The syncer's parent-ref loop appends, by index, the binding of each parent
ref that qualifies. -/
theorem bindParentRefs_fst : ∀ (refIdx : Nat) (refs : List ParentReference)
    (results : List (Nat × BindingResult)) (has : Bool),
    (bindParentRefs c gatewayClassName kind route refIdx refs results has).1 =
      results ++ (refs.enumFrom refIdx).filterMap fun p =>
        (parentBinding c gatewayClassName kind route p.2).map (p.1, ·)
  | _, [], results, _ => by simp [bindParentRefs]
  | refIdx, ref :: refs, results, has => by
    simp only [bindParentRefs, List.enumFrom_cons, List.filterMap_cons]
    cases parentBinding c gatewayClassName kind route ref <;> simp [bindParentRefs_fst]

/-- Looking up an index in the numbered images of a list finds the image of
the element at that index. -/
theorem lookup_enumFrom_filterMap {α β : Type} (f : α → Option β) :
    ∀ (n : Nat) (l : List α) (i : Nat),
    ((l.enumFrom n).filterMap fun p => (f p.2).map (p.1, ·)).lookup i =
      if n ≤ i then l[i - n]?.bind f else none
  | n, [], i => by split <;> simp
  | n, a :: l, i => by
    have ih := lookup_enumFrom_filterMap f (n + 1) l i
    rw [List.enumFrom_cons, List.filterMap_cons]
    rcases Nat.lt_trichotomy i n with h | rfl | h
    · have hne : (i == n) = false := beq_false_of_ne (by omega)
      rw [if_neg (by omega)] at ih ⊢
      cases f a <;> simp only [Option.map_none', Option.map_some', List.lookup_cons, hne, ih]
    · rw [if_neg (Nat.not_succ_le_self i)] at ih
      rw [if_pos (Nat.le_refl _), Nat.sub_self, List.getElem?_cons_zero, Option.some_bind]
      cases f a <;> simp only [Option.map_none', Option.map_some', List.lookup_cons,
        beq_self_eq_true, ih]
    · have hne : (i == n) = false := beq_false_of_ne (by omega)
      rw [if_pos (by omega)] at ih
      rw [if_pos (by omega), show i - n = i - (n + 1) + 1 by omega, List.getElem?_cons_succ, ← ih]
      cases f a <;> simp only [Option.map_none', Option.map_some', List.lookup_cons, hne]

/-- The syncer records a result at an index exactly where the parent ref there
qualifies, and it is the evaluator's. -/
theorem lookup_qualifyingResults {Rule : Type} (c : Cluster) (gatewayClassName kind : String)
    (route : Route Rule) (refIdx : Nat) (result : BindingResult) :
    (qualifyingResults c gatewayClassName kind route).lookup refIdx = some result ↔
      QualifyingResult c gatewayClassName kind route refIdx result := by
  rw [qualifyingResults, List.enum, lookup_enumFrom_filterMap, if_pos (Nat.zero_le _),
    Nat.sub_zero, Option.bind_eq_some]
  simp only [QualifyingResult, parentBinding_eq_some_iff]

/-- The syncer's route loop records, latest first, each listed route's
qualifying results under its wire id. -/
theorem relevantRoutesLoop_snd :
    ∀ (routes acc : List (Route Rule)) (bindings : List (String × RouteBindingInfo)),
    (relevantRoutesLoop c gatewayClassName kind routes acc bindings).2 =
      (routes.map fun r =>
        (routeId r, ⟨qualifyingResults c gatewayClassName kind r⟩)).reverse ++ bindings
  | [], _, _ => by simp [relevantRoutesLoop]
  | route :: routes, acc, bindings => by
    simp only [relevantRoutesLoop, relevantRoutesLoop_snd routes, bindParentRefs_fst]
    simp [qualifyingResults, List.enum]

/-- The route loop selects as it should, for routes of one store with valid
namespaces. -/
theorem relevantRoutesLoop_selects {routes : List (Route Rule)}
    (hk : (routes.map Route.key).Nodup) (hv : routes.all (fun r => namespaceNameValid r.ns)) :
    SelectsAccepted c gatewayClassName kind routes
      (relevantRoutesLoop c gatewayClassName kind routes [] []).1
      (relevantRoutesLoop c gatewayClassName kind routes [] []).2 := by
  have hids := routeIds_nodup hk hv
  have hsel : (relevantRoutesLoop c gatewayClassName kind routes [] []).1 =
      routes.filter fun route =>
        isRouteAcceptedByGateway c gatewayClassName kind route fun _ => true := by
    rw [relevantRoutesLoop_fst, List.nil_append]
    exact List.filter_congr fun R _ => (isRouteAcceptedByGateway_eq c _ _ R fun _ => rfl).symm
  refine ⟨hsel, ?_, fun R hR => ⟨_, ?_, lookup_qualifyingResults c _ _ R⟩,
    fun R hR => ?_, ?_⟩
  · simp [relevantRoutesLoop_snd, List.map_reverse, Function.comp_def]
  · refine lookup_of_mem ?_ ?_
    · simpa [relevantRoutesLoop_snd, List.map_reverse, Function.comp_def] using hids
    · simpa [relevantRoutesLoop_snd] using ⟨R, hR, rfl, rfl⟩
  · rw [hsel, List.mem_filter, isRouteAcceptedByGateway_eq c _ _ R fun _ => rfl,
      isRelevantRoute, List.any_eq_true] at hR
    obtain ⟨ref, href, hacc⟩ := hR.2
    obtain ⟨refIdx, hidx⟩ := List.mem_iff_getElem?.mp href
    cases hb : parentBinding c gatewayClassName kind R ref with
    | none => rw [hb] at hacc; cases hacc
    | some result =>
      rw [hb, Option.any_some] at hacc
      exact ⟨refIdx, result, ⟨ref, hidx, parentBinding_eq_some_iff.mp hb⟩, hacc⟩
  · rw [hsel]
    exact hids.sublist ((List.filter_sublist _).map _)

end Loops

/-- The wire id of a wire route. -/
def RouteKind.wireId : (k : RouteKind) → k.Wire → String
  | .http, w => w.id
  | .grpc, w => w.id

/-- The builder gives a route its wire id. -/
theorem RouteKind.build_id {k : RouteKind} {b : PingoraBuilder} {R : Route k.Rule}
    {w : k.Wire} (h : k.build b R = .ok w) : k.wireId w = routeId R := by
  cases k with
  | http =>
    simp only [RouteKind.build, PingoraBuilder.buildHTTPRoute] at h
    cases hm : R.rules.mapM (b.buildHTTPRouteRule R.ns) <;> rw [hm] at h <;> cases h
    rfl
  | grpc =>
    simp only [RouteKind.build, PingoraBuilder.buildGRPCRoute] at h
    cases hm : R.rules.mapM (b.buildGRPCRouteRule R.ns) <;> rw [hm] at h <;> cases h
    rfl

/-- A `mapM` that succeeds maps a projection of its results as the function
of its inputs that the projection follows. -/
theorem map_of_mapM_ok {α β γ ε : Type} {f : α → Except ε β} {g : β → γ}
    {h : α → γ} (hf : ∀ a b, f a = .ok b → g b = h a) :
    ∀ {xs : List α} {ys : List β}, xs.mapM f = .ok ys → ys.map g = xs.map h
  | [], _, hm => by cases hm; rfl
  | x :: xs, _, hm => by
    obtain ⟨b, bs, hb, hbs, rfl⟩ := mapM_ok_cons hm
    simp [hf x b hb, map_of_mapM_ok hf hbs]

/-- The wire routes a kind's builder makes from a selection carry its wire ids. -/
theorem wireIds_of_mapM_ok {k : RouteKind} {b : PingoraBuilder} {rs : List (Route k.Rule)}
    {ws : List k.Wire} (h : rs.mapM (k.build b) = .ok ws) :
    ws.map k.wireId = rs.map routeId :=
  map_of_mapM_ok (fun _ _ => RouteKind.build_id) h

namespace PingoraRouteSyncer

/-- With its `List` call succeeding, each of the syncer's selections keeps
exactly the routes `IsRouteAcceptedByGateway` accepts, records every listed
route's qualifying results under its wire id, and yields wire routes with
pairwise distinct ids. -/
theorem getRelevantRoutes_select_accepted (s : PingoraRouteSyncer) (c : Cluster)
    (hv : c.routeNamespacesValid = true) :
    (∃ rs bindings, s.getRelevantHTTPRoutes c true = .ok (rs, bindings) ∧
      SelectsAccepted c s.gatewayClassName kindHTTPRoute c.httpRoutes.items rs bindings ∧
      ∀ ws, rs.mapM s.builder.buildHTTPRoute = .ok ws → (ws.map (·.id)).Nodup) ∧
    (∃ rs bindings, s.getRelevantGRPCRoutes c true = .ok (rs, bindings) ∧
      SelectsAccepted c s.gatewayClassName kindGRPCRoute c.grpcRoutes.items rs bindings ∧
      ∀ ws, rs.mapM s.builder.buildGRPCRoute = .ok ws → (ws.map (·.id)).Nodup) := by
  simp only [Cluster.routeNamespacesValid, Bool.and_eq_true] at hv
  have hh := relevantRoutesLoop_selects c s.gatewayClassName kindHTTPRoute
    c.httpRoutes.nodup hv.1
  have hg := relevantRoutesLoop_selects c s.gatewayClassName kindGRPCRoute
    c.grpcRoutes.nodup hv.2
  refine ⟨⟨_, _, rfl, hh, fun ws hw => ?_⟩, ⟨_, _, rfl, hg, fun ws hw => ?_⟩⟩
  · have hid := wireIds_of_mapM_ok (k := .http) hw
    exact (congrArg List.Nodup hid).mpr hh.ids_nodup
  · have hid := wireIds_of_mapM_ok (k := .grpc) hw
    exact (congrArg List.Nodup hid).mpr hg.ids_nodup

/-- The selections of `attachedCluster`, whose route namespace is valid. -/
theorem attached_cluster_selects_accepted :
    attachedCluster.routeNamespacesValid = true ∧
    (∃ rs bindings,
      defaultSyncer.getRelevantHTTPRoutes attachedCluster true = .ok (rs, bindings) ∧
      SelectsAccepted attachedCluster defaultSyncer.gatewayClassName kindHTTPRoute
        attachedCluster.httpRoutes.items rs bindings ∧
      ∀ ws, rs.mapM defaultSyncer.builder.buildHTTPRoute = .ok ws → (ws.map (·.id)).Nodup) ∧
    (∃ rs bindings,
      defaultSyncer.getRelevantGRPCRoutes attachedCluster true = .ok (rs, bindings) ∧
      SelectsAccepted attachedCluster defaultSyncer.gatewayClassName kindGRPCRoute
        attachedCluster.grpcRoutes.items rs bindings ∧
      ∀ ws, rs.mapM defaultSyncer.builder.buildGRPCRoute = .ok ws → (ws.map (·.id)).Nodup) :=
  ⟨by decide, getRelevantRoutes_select_accepted defaultSyncer attachedCluster (by decide)⟩

end PingoraRouteSyncer

end PingoraGateway
