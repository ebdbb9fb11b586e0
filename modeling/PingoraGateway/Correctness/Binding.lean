import PingoraGateway.Binding.Evaluator

/-!
# What a binding decides

`ValidateBinding` against the three listener checks it is built from. The
evaluator visits every listener, or those the route's section name names. It
fails exactly when a visited listener that the route's hostnames reach has a
`from: Selector` policy whose selector does not convert: one with a label or
an expression that `labels.NewRequirement` rejects for its key, its values or
its operator. Otherwise it matches,
in declaration order, the visited listeners that pass all three checks, and a
rejection carries the failure reason of the last listener. Restricting a route
to one section name keeps exactly the matches of that name.
-/

namespace PingoraGateway

/-- The listeners `findMatchingListeners` checks: all of them, or those the
section name names. -/
def visitedListeners (route : RouteInfo) (listeners : List Listener) : List Listener :=
  listeners.filter fun listener => route.sectionName.all (listener.name == ·)

/-- A label selector with an entry `labels.NewRequirement` rejects: a label whose
key is no qualified name or whose value is no label value, or an expression
whose operator is unknown or whose key, values or number of values are
invalid. -/
def LabelSelector.invalid (s : LabelSelector) : Bool :=
  s.matchLabels.any (fun l => !newRequirementValid l.1 .Equals [l.2]) ||
    s.matchExpressions.any fun r => !requirementValid r

/-- A namespace policy the namespace check cannot evaluate: `from: Selector`
with an invalid selector. -/
def selectorInvalid (allowedRoutes : Option AllowedRoutes) : Bool :=
  getNamespaceFrom allowedRoutes == .Selector &&
    (allowedRoutes.bind (·.namespaces) |>.bind (·.selector)).any LabelSelector.invalid

/-- A listener that passes the hostname, namespace and kind checks. -/
def listenerPasses (c : Cluster) (gatewayNamespace : String) (route : RouteInfo)
    (listener : Listener) : Bool :=
  hostnamesIntersect listener.hostname route.hostnames &&
    (isNamespaceAllowed c listener.allowedRoutes gatewayNamespace route.ns).toOption ==
      some true &&
    isRouteKindAllowed listener.allowedRoutes listener.protocol route.kind

/-- The reason a listener rejects a route: its hostname, or else its policies. -/
def failureReason (listener : Listener) (route : RouteInfo) : String :=
  if hostnamesIntersect listener.hostname route.hostnames then reasonNotAllowedByListeners
  else reasonNoMatchingListenerHostname

/-- The names a binding should match: the visited listeners that pass, in
declaration order. -/
def passingListenerNames (c : Cluster) (gateway : Gateway) (route : RouteInfo) :
    List String :=
  ((visitedListeners route gateway.listeners).filter (listenerPasses c gateway.ns route)).map
    (·.name)

/-- The reason a rejected binding should carry: the last listener's failure
reason when the route names no section, else `NoMatchingParent`. -/
def expectedRejectionReason (gateway : Gateway) (route : RouteInfo) : String :=
  match route.sectionName, gateway.listeners.getLast? with
  | none, some listener => failureReason listener route
  | _, _ => reasonNoMatchingParent

theorem toBool_eq_false_iff {ε α : Type} (x : Except ε α) :
    x.toBool = false ↔ ∃ e, x = .error e := by
  cases x <;> simp [Except.toBool]

/-- A label is valid when its key is a qualified name and its value a label
value. -/
@[simp] theorem newRequirementValid_equals (key value : String) :
    newRequirementValid key .Equals [value] = (isQualifiedName key && isValidLabelValue value) := by
  simp [newRequirementValid, SelectionOperator.admitsValues]

/-- `LabelSelectorAsSelector` fails exactly on an invalid selector. -/
theorem labelSelectorAsSelector_toBool (s : LabelSelector) :
    (labelSelectorAsSelector s).toBool = !s.invalid := by
  have hfind {α : Type} (p : α → Bool) (l : List α) : l.any p = (l.find? p).isSome := by
    rw [Bool.eq_iff_iff, List.find?_isSome, List.any_eq_true]
  unfold labelSelectorAsSelector LabelSelector.invalid
  rw [hfind, hfind]
  cases s.matchLabels.find? fun l => !newRequirementValid l.1 .Equals [l.2] <;>
    cases s.matchExpressions.find? fun r => !requirementValid r <;> rfl

example : (labelSelectorAsSelector ⟨[("bad key!", "x")], []⟩).toBool = false := by decide

section Listener

variable {c : Cluster} {gatewayNamespace : String} {route : RouteInfo} {listener : Listener}

/-- The namespace check fails exactly on a selector policy that does not convert. -/
theorem isNamespaceAllowed_toBool (allowedRoutes : Option AllowedRoutes) (rns : String) :
    (isNamespaceAllowed c allowedRoutes gatewayNamespace rns).toBool =
      !selectorInvalid allowedRoutes := by
  unfold isNamespaceAllowed selectorInvalid
  cases getNamespaceFrom allowedRoutes <;> try rfl
  unfold namespaceMatchesSelector
  cases (allowedRoutes.bind (·.namespaces) |>.bind (·.selector)) with
  | none => rfl
  | some s =>
    have hv := labelSelectorAsSelector_toBool s
    cases hs : labelSelectorAsSelector s with
    | error e => simp_all [Except.toBool]
    | ok selector => cases c.getNamespace rns <;> simp_all [Except.toBool]

/-- `listenerAcceptsRoute` fails exactly when the hostnames intersect and the
namespace check fails. -/
theorem listenerAcceptsRoute_toBool :
    (listenerAcceptsRoute c listener gatewayNamespace route).toBool =
      !(hostnamesIntersect listener.hostname route.hostnames &&
        selectorInvalid listener.allowedRoutes) := by
  have hns := @isNamespaceAllowed_toBool c gatewayNamespace listener.allowedRoutes route.ns
  unfold listenerAcceptsRoute
  cases hostnamesIntersect listener.hostname route.hostnames
  · rfl
  · revert hns
    cases isNamespaceAllowed c listener.allowedRoutes gatewayNamespace route.ns with
    | error e => simp [Except.toBool]
    | ok allowed =>
      intro hns
      have hsel : selectorInvalid listener.allowedRoutes = false := by
        simpa [Except.toBool] using hns.symm
      cases allowed <;> split_ifs <;> simp [Except.toBool, hsel]

/-- A reason `listenerAcceptsRoute` returns is `Accepted` for a passing listener
and its failure reason otherwise. -/
theorem listenerAcceptsRoute_ok {reason : String}
    (h : listenerAcceptsRoute c listener gatewayNamespace route = .ok reason) :
    reason = if listenerPasses c gatewayNamespace route listener then reasonAccepted
      else failureReason listener route := by
  unfold listenerAcceptsRoute at h
  unfold listenerPasses failureReason
  cases hh : hostnamesIntersect listener.hostname route.hostnames
  · simp only [hh, Bool.not_false, if_true] at h
    simpa using h.symm
  · cases hns : isNamespaceAllowed c listener.allowedRoutes gatewayNamespace route.ns <;>
      simp only [hh, hns, Bool.not_true, Bool.false_eq_true, if_false] at h
    · cases h
    · split_ifs at h <;> cases h <;> simp_all [Except.toOption]

theorem failureReason_ne_accepted : failureReason listener route ≠ reasonAccepted := by
  unfold failureReason
  split <;> decide

theorem failureReason_ne_empty : failureReason listener route ≠ "" := by
  unfold failureReason
  split <;> decide

end Listener

section Loop

variable {c : Cluster} {gatewayNamespace : String} {route : RouteInfo}

/-- The loop skips exactly the listeners it does not visit. -/
theorem skip_eq_not_visited (listener : Listener) :
    (route.sectionName.isSome && route.sectionName != some listener.name) =
      !route.sectionName.all (listener.name == ·) := by
  cases route.sectionName with
  | none => rfl
  | some s => exact congrArg (!·) BEq.comm

theorem visitedListeners_cons (listener : Listener) (listeners : List Listener) :
    visitedListeners route (listener :: listeners) =
      if route.sectionName.all (listener.name == ·) then
        listener :: visitedListeners route listeners
      else visitedListeners route listeners := by
  unfold visitedListeners
  rw [List.filter_cons]

/-- The loop fails exactly when a visited listener fails the namespace check
after its hostnames intersect: the first such listener aborts it. -/
theorem findMatchingListenersLoop_toBool (listeners : List Listener) (matched : List String)
    (last : String) :
    (findMatchingListenersLoop c gatewayNamespace route listeners matched last).toBool =
      !(visitedListeners route listeners).any fun l =>
        hostnamesIntersect l.hostname route.hostnames && selectorInvalid l.allowedRoutes := by
  induction listeners generalizing matched last with
  | nil => rfl
  | cons listener listeners ih =>
    rw [findMatchingListenersLoop, skip_eq_not_visited, visitedListeners_cons]
    cases route.sectionName.all (listener.name == ·)
    · exact ih matched last
    have hacc := @listenerAcceptsRoute_toBool c gatewayNamespace route listener
    simp only [Bool.not_true, Bool.false_eq_true, if_false, if_true, List.any_cons]
    cases hr : listenerAcceptsRoute c listener gatewayNamespace route <;> rw [hr] at hacc <;>
      cases hx : (hostnamesIntersect listener.hostname route.hostnames &&
        selectorInvalid listener.allowedRoutes) <;> rw [hx] at hacc <;> try cases hacc
    · rfl
    · simp only [Bool.false_or]
      split <;> exact ih _ _

/-- A loop that finishes appends the names of the visited listeners that pass,
and its last rejection reason is that of the last visited listener that fails,
or the one it started with. -/
theorem findMatchingListenersLoop_ok {listeners : List Listener} {matched : List String}
    {last : String} {result : List String × String}
    (h : findMatchingListenersLoop c gatewayNamespace route listeners matched last = .ok result) :
    result.1 = matched ++ ((visitedListeners route listeners).filter
        (listenerPasses c gatewayNamespace route)).map (·.name) ∧
      result.2 = ((((visitedListeners route listeners).filter
        fun l => !listenerPasses c gatewayNamespace route l).getLast?).map
          (failureReason · route)).getD last := by
  induction listeners generalizing matched last with
  | nil => cases h; simp [visitedListeners]
  | cons listener listeners ih =>
    rw [findMatchingListenersLoop, skip_eq_not_visited] at h
    rw [visitedListeners_cons]
    cases hv : route.sectionName.all (listener.name == ·) <;>
      simp only [hv, Bool.not_false, Bool.not_true, Bool.false_eq_true, if_false, if_true]
        at h ⊢
    · exact ih h
    cases hacc : listenerAcceptsRoute c listener gatewayNamespace route with
    | error e => simp [hacc] at h
    | ok reason =>
      simp only [hacc, listenerAcceptsRoute_ok hacc] at h
      cases hp : listenerPasses c gatewayNamespace route listener
      · simp only [hp, Bool.false_eq_true, if_false, beq_iff_eq, failureReason_ne_accepted]
          at h
        obtain ⟨h1, h2⟩ := ih h
        refine ⟨by simpa [hp] using h1, ?_⟩
        rw [h2, List.filter_cons_of_pos (by simp [hp]), List.getLast?_cons]
        cases (List.filter _ (visitedListeners route listeners)).getLast? <;> rfl
      · simp only [hp, if_true, beq_self_eq_true] at h
        obtain ⟨h1, h2⟩ := ih h
        exact ⟨by simp [h1, hp], by simpa [hp] using h2⟩

end Loop

section Validate

variable {c : Cluster} {gateway : Gateway} {route : RouteInfo}

theorem findMatchingListeners_toBool :
    (findMatchingListeners c gateway route).toBool =
      !(visitedListeners route gateway.listeners).any fun l =>
        hostnamesIntersect l.hostname route.hostnames && selectorInvalid l.allowedRoutes := by
  unfold findMatchingListeners
  cases hl : gateway.listeners.isEmpty
  · rw [← findMatchingListenersLoop_toBool gateway.listeners [] ""]
    cases findMatchingListenersLoop c gateway.ns route gateway.listeners [] "" with
    | error e => rfl
    | ok p => simp only [Bool.false_eq_true, if_false]; split_ifs <;> rfl
  · simp [List.isEmpty_iff.mp hl, Except.toBool, visitedListeners]

/-- What `findMatchingListeners` returns: the passing visited listeners, and
with none of them the expected rejection reason. -/
theorem findMatchingListeners_ok {r : List String × String}
    (h : findMatchingListeners c gateway route = .ok r) :
    r.1 = passingListenerNames c gateway route ∧
      (r.1 = [] → r.2 = expectedRejectionReason gateway route) := by
  unfold findMatchingListeners at h
  cases hl : gateway.listeners.isEmpty
  · simp only [hl, Bool.false_eq_true, if_false] at h
    cases hloop : findMatchingListenersLoop c gateway.ns route gateway.listeners [] "" with
    | error e => simp [hloop] at h
    | ok p =>
      obtain ⟨m, last⟩ := p
      obtain ⟨h1, h2⟩ := findMatchingListenersLoop_ok hloop
      simp only [List.nil_append] at h1 h2
      simp only [hloop] at h
      cases m with
      | cons x xs => simp at h; subst h; exact ⟨h1, by simp⟩
      | nil =>
        cases hs : route.sectionName with
        | some s =>
          simp [hs] at h; subst h
          exact ⟨h1, fun _ => by simp [expectedRejectionReason, hs]⟩
        | none =>
          have hv : visitedListeners route gateway.listeners = gateway.listeners := by
            simp [visitedListeners, hs]
          have hall : gateway.listeners.filter
              (fun l => !listenerPasses c gateway.ns route l) = gateway.listeners := by
            rw [hv] at h1
            simpa [List.filter_eq_nil_iff] using h1.symm
          obtain ⟨l, hl'⟩ := Option.isSome_iff_exists.mp
            (List.getLast?_isSome.mpr (by simpa using hl))
          rw [hv, hall, hl'] at h2
          subst h2
          simp [hs, failureReason_ne_empty] at h
          subst h
          exact ⟨h1, fun _ => by simp [expectedRejectionReason, hs, hl']⟩
  · simp only [hl, if_true] at h
    cases h
    simp [passingListenerNames, visitedListeners, List.isEmpty_iff.mp hl,
      expectedRejectionReason]

/-- `ValidateBinding` fails exactly when a visited listener whose hostnames
intersect the route's has a selector policy that does not convert. -/
theorem validateBinding_toBool :
    (validateBinding c gateway route).toBool =
      !(visitedListeners route gateway.listeners).any fun l =>
        hostnamesIntersect l.hostname route.hostnames && selectorInvalid l.allowedRoutes := by
  unfold validateBinding
  rw [← findMatchingListeners_toBool]
  cases findMatchingListeners c gateway route with
  | error e => rfl
  | ok p => simp only; split_ifs <;> rfl

/-- A result of `ValidateBinding` matches the passing visited listeners, is
accepted exactly when there are some, and otherwise carries the expected reason. -/
theorem validateBinding_ok {result : BindingResult}
    (h : validateBinding c gateway route = .ok result) :
    result.matchedListeners = passingListenerNames c gateway route ∧
      result.accepted = !(passingListenerNames c gateway route).isEmpty ∧
      (result.accepted = false → result.reason = expectedRejectionReason gateway route) := by
  unfold validateBinding at h
  cases hf : findMatchingListeners c gateway route with
  | error e => simp [hf] at h
  | ok p =>
    obtain ⟨h1, h2⟩ := findMatchingListeners_ok hf
    obtain ⟨m, reason⟩ := p
    simp only [hf] at h
    simp only at h1 h2
    subst h1
    cases hm : passingListenerNames c gateway route with
    | nil => simp [hm] at h; subst h; simp [h2 hm]
    | cons x xs => simp [hm] at h; subst h; simp

/-- Naming a section keeps exactly the unrestricted matches of that name. -/
theorem validateBinding_sectionName (s : String) {result : BindingResult}
    (h : validateBinding c gateway { route with sectionName := none } = .ok result) :
    ∃ result', validateBinding c gateway { route with sectionName := some s } = .ok result' ∧
      result'.matchedListeners = result.matchedListeners.filter (· == s) := by
  have hnone := @validateBinding_toBool c gateway { route with sectionName := none }
  have hsome := @validateBinding_toBool c gateway { route with sectionName := some s }
  rw [h] at hnone
  cases hr : validateBinding c gateway { route with sectionName := some s } with
  | error e =>
    rw [hr] at hsome
    simp [Except.toBool, visitedListeners] at hnone hsome
    obtain ⟨l, hl, -, hi, hsel⟩ := hsome
    exact absurd hsel (by simpa using hnone l hl hi)
  | ok result' =>
    refine ⟨result', rfl, ?_⟩
    rw [(validateBinding_ok hr).1, (validateBinding_ok h).1]
    simp [passingListenerNames, visitedListeners, List.filter_map, List.filter_filter,
      listenerPasses, Bool.and_comm]

/-- `ValidateBinding` decides a binding from the three listener checks. It fails
exactly on an unconvertible selector of a visited listener the route's hostnames
reach. Otherwise it matches the passing visited listeners in order, accepts
exactly when there are some, and gives a rejection the expected reason; and
naming a section keeps the unrestricted matches of that name. -/
theorem validateBinding_matches_passing_listeners (c : Cluster) (gateway : Gateway)
    (route : RouteInfo) :
    ((∃ e, validateBinding c gateway route = .error e) ↔
      ∃ l ∈ visitedListeners route gateway.listeners,
        hostnamesIntersect l.hostname route.hostnames = true ∧
          selectorInvalid l.allowedRoutes = true) ∧
    (∀ result, validateBinding c gateway route = .ok result →
      result.matchedListeners = passingListenerNames c gateway route ∧
        (result.accepted = true ↔ passingListenerNames c gateway route ≠ []) ∧
        (result.accepted = false → result.reason = expectedRejectionReason gateway route)) ∧
    ∀ s result, validateBinding c gateway { route with sectionName := none } = .ok result →
      ∃ result', validateBinding c gateway { route with sectionName := some s } = .ok result' ∧
        result'.matchedListeners = result.matchedListeners.filter (· == s) := by
  refine ⟨?_, fun result h => ?_, fun s result h => validateBinding_sectionName s h⟩
  · rw [← toBool_eq_false_iff, validateBinding_toBool]
    simp
  · obtain ⟨h1, h2, h3⟩ := validateBinding_ok h
    refine ⟨h1, ?_, h3⟩
    rw [h2]
    cases passingListenerNames c gateway route <;> simp

end Validate

end PingoraGateway
