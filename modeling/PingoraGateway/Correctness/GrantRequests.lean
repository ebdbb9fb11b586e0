import PingoraGateway.Controller.ReferenceGrantMapper
import PingoraGateway.Correctness.Relevance
import PingoraGateway.Correctness.StatusWriter

/-!
# The requests a ReferenceGrant change makes

`extractCrossNamespaceBackends` keeps a `seen` set beside its list and admits a
namespace only when it is not the route's own and not yet seen. As long as the
set holds exactly what the list holds, the list gains each namespace once, in
the order of the refs, and ends with every namespace other than the route's that
a backend names. So a grant change enqueues, once each and in list order,
exactly the routes of the class with a backend in the grant's namespace.
-/

namespace PingoraGateway

section Extract

variable (routeNamespace : String)

/-- The loop's admission test, as propositions. -/
theorem extract_admits_iff {backendNs : String} {seen : List String} :
    (backendNs != routeNamespace && !seen.contains backendNs) = true ↔
      backendNs ≠ routeNamespace ∧ backendNs ∉ seen := by
  simp

/-- The loop appends to the list it is given, in the order of the refs. -/
theorem extractLoop_eq_append : ∀ (refs : List BackendRef) (namespaces seen : List String),
    ∃ more, extractCrossNamespaceBackendsLoop routeNamespace refs namespaces seen =
      namespaces ++ more ∧ more.Sublist (refs.filterMap BackendRef.ns)
  | [], namespaces, _ => ⟨[], (List.append_nil _).symm, List.nil_sublist _⟩
  | ref :: refs, namespaces, seen => by
    rcases hr : ref.ns with _ | backendNs <;>
      simp only [extractCrossNamespaceBackendsLoop, List.filterMap_cons, hr]
    · exact extractLoop_eq_append refs namespaces seen
    · split
      · obtain ⟨more, h, hs⟩ :=
          extractLoop_eq_append refs (namespaces ++ [backendNs]) (backendNs :: seen)
        exact ⟨backendNs :: more, by simp [h], hs.cons₂ _⟩
      · obtain ⟨more, h, hs⟩ := extractLoop_eq_append refs namespaces seen
        exact ⟨more, h, hs.cons _⟩

/-- With `seen` holding what was listed, the list stays free of repeats. -/
theorem extractLoop_nodup : ∀ (refs : List BackendRef) (namespaces seen : List String),
    (∀ x, x ∈ seen ↔ x ∈ namespaces) → namespaces.Nodup →
    (extractCrossNamespaceBackendsLoop routeNamespace refs namespaces seen).Nodup
  | [], _, _, _, hn => hn
  | ref :: refs, namespaces, seen, hs, hn => by
    rcases hr : ref.ns with _ | backendNs <;> simp only [extractCrossNamespaceBackendsLoop, hr]
    · exact extractLoop_nodup refs _ _ hs hn
    · split
      · rename_i hc
        have hnew : backendNs ∉ namespaces := fun h =>
          ((extract_admits_iff routeNamespace).mp hc).2 ((hs _).mpr h)
        refine extractLoop_nodup refs _ _ (fun x => ?_) (List.nodup_append.mpr
          ⟨hn, List.nodup_singleton _, List.disjoint_singleton.mpr hnew⟩)
        simp [hs, or_comm]
      · exact extractLoop_nodup refs _ _ hs hn

/-- With `seen` holding what was listed, the list ends with what it held and
every namespace other than the route's that a ref names. -/
theorem mem_extractLoop : ∀ (refs : List BackendRef) (namespaces seen : List String),
    (∀ x, x ∈ seen ↔ x ∈ namespaces) → ∀ x,
    x ∈ extractCrossNamespaceBackendsLoop routeNamespace refs namespaces seen ↔
      x ∈ namespaces ∨ ∃ ref ∈ refs, ref.ns = some x ∧ x ≠ routeNamespace
  | [], _, _, _, x => by simp [extractCrossNamespaceBackendsLoop]
  | ref :: refs, namespaces, seen, hs, x => by
    rcases hr : ref.ns with _ | backendNs <;>
      simp only [extractCrossNamespaceBackendsLoop, List.mem_cons, exists_eq_or_imp, hr]
    · simp only [mem_extractLoop refs _ _ hs, reduceCtorEq, false_and, false_or]
    · split
      · rename_i hc
        rw [mem_extractLoop refs _ _ (fun y => by simp [hs, or_comm])]
        have hb := ((extract_admits_iff routeNamespace).mp hc).1
        simp only [List.mem_append, List.mem_singleton, Option.some.injEq]
        constructor
        · rintro ((h | rfl) | h)
          exacts [.inl h, .inr (.inl ⟨rfl, hb⟩), .inr (.inr h)]
        · rintro (h | ⟨rfl, -⟩ | h)
          exacts [.inl (.inl h), .inl (.inr rfl), .inr h]
      · rename_i hc
        rw [mem_extractLoop refs _ _ hs]
        simp only [Option.some.injEq]
        constructor
        · rintro (h | h)
          exacts [.inl h, .inr (.inr h)]
        · rintro (h | ⟨rfl, hne⟩ | h)
          · exact .inl h
          · refine .inl ((hs _).mp ?_)
            by_contra hn
            exact hc ((extract_admits_iff routeNamespace).mpr ⟨hne, hn⟩)
          · exact .inr h

/-- With `seen` the list reversed, the loop runs as `eraseDups`'s loop over the
namespaces other than the route's that the refs name, in order. -/
theorem extractLoop_eq_eraseDups : ∀ (refs : List BackendRef) (namespaces : List String),
    extractCrossNamespaceBackendsLoop routeNamespace refs namespaces namespaces.reverse =
      List.eraseDups.loop ((refs.filterMap BackendRef.ns).filter (· != routeNamespace))
        namespaces.reverse
  | [], namespaces => by
    simp [extractCrossNamespaceBackendsLoop, List.eraseDups.loop]
  | ref :: refs, namespaces => by
    have ih := extractLoop_eq_eraseDups refs
    rcases hr : ref.ns with _ | backendNs
    · simp only [extractCrossNamespaceBackendsLoop, hr, List.filterMap_cons, ih]
    by_cases hb : backendNs = routeNamespace
    · simp [extractCrossNamespaceBackendsLoop, hr, hb, ih]
    · have hbne : (backendNs != routeNamespace) = true := bne_iff_ne.mpr hb
      simp only [extractCrossNamespaceBackendsLoop, hr, List.filterMap_cons, List.filter_cons,
        hbne, Bool.true_and, if_true, List.eraseDups.loop, List.contains]
      cases List.elem backendNs namespaces.reverse
      · simpa using ih (namespaces ++ [backendNs])
      · simpa using ih namespaces

end Extract

/-- `extractCrossNamespaceBackends` lists each namespace other than the route's
that a backend ref names, once, at its first occurrence among the refs. -/
theorem extractCrossNamespaceBackends_each_once (routeNamespace : String)
    (refs : List BackendRef) :
    extractCrossNamespaceBackends routeNamespace refs =
      ((refs.filterMap BackendRef.ns).filter (· != routeNamespace)).eraseDups ∧
    (extractCrossNamespaceBackends routeNamespace refs).Nodup ∧
    (∀ ns, ns ∈ extractCrossNamespaceBackends routeNamespace refs ↔
      ∃ ref ∈ refs, ref.ns = some ns ∧ ns ≠ routeNamespace) ∧
    (extractCrossNamespaceBackends routeNamespace refs).Sublist (refs.filterMap BackendRef.ns) := by
  obtain ⟨more, h, hsub⟩ := extractLoop_eq_append routeNamespace refs [] []
  refine ⟨extractLoop_eq_eraseDups routeNamespace refs [],
    extractLoop_nodup routeNamespace refs [] [] (fun _ => Iff.rfl) List.nodup_nil,
    fun ns => ?_, ?_⟩
  · simpa using mem_extractLoop routeNamespace refs [] [] (fun _ => Iff.rfl) ns
  · rw [extractCrossNamespaceBackends, h, List.nil_append]
    exact hsub

/-- A route lists a namespace among its cross-namespace backends when it is not
the route's own and a backend ref of one of its rules names it. -/
theorem mem_getCrossNamespaceBackendNamespaces (k : RouteKind) (route : Route k.Rule)
    (ns : String) :
    ns ∈ getCrossNamespaceBackendNamespaces k route ↔
      ns ≠ route.ns ∧
        ∃ rule ∈ route.rules, ∃ ref ∈ k.backendRefs rule, ref.ns = some ns := by
  rw [getCrossNamespaceBackendNamespaces, extractCrossNamespaceBackends,
    mem_extractLoop route.ns _ [] [] (fun _ => Iff.rfl)]
  simp only [List.not_mem_nil, false_or, List.mem_flatMap]
  constructor
  · rintro ⟨ref, ⟨rule, hrule, href⟩, hns, hne⟩
    exact ⟨hne, rule, hrule, ref, href, hns⟩
  · rintro ⟨hne, rule, hrule, ref, href, hns⟩
    exact ⟨ref, ⟨rule, hrule, href⟩, hns, hne⟩

/-- An HTTPRoute attached to `gw` whose backend lives in the namespace
`backend`. -/
def crossNamespaceRoute : HTTPRoute :=
  ⟨"r1", "ns", 1, [gatewayRef "gw"], ["example.com"],
    [⟨[], [⟨none, none, "svc", some "backend", some 80, none⟩], none⟩], []⟩

/-- `crossNamespaceRoute` with the Gateway `gw` of the default class. -/
def crossNamespaceCluster : Cluster :=
  defaultCluster ⟨[listenerGateway "gw" "pingora" none], by decide⟩
    ⟨[crossNamespaceRoute], by decide⟩

/-- A ReferenceGrant in the namespace `backend`. -/
def backendGrant : ReferenceGrant := ⟨"grant", "backend", [], []⟩

end PingoraGateway
