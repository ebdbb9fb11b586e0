import PingoraGateway.Correctness.Builder

/-!
# Request timeouts of Gateway API durations

The Gateway API admits a request timeout of the grammar
`([0-9]{1,5}(h|m|s|ms)){1,4}`. On every such string `time.ParseDuration` reads
each component in one round of its loop, the nanosecond total stays far below
the `int64` limit, and `Milliseconds` gives back the exact total in
milliseconds, which the builder sends unless it is zero.
-/

namespace PingoraGateway

/-- A unit of the Gateway API `Duration` grammar. -/
inductive DurationUnit
  | h
  | m
  | s
  | ms
  deriving DecidableEq, Repr

namespace DurationUnit

/-- The unit as written. -/
def text : DurationUnit → List Char
  | h => ['h']
  | m => ['m']
  | s => ['s']
  | ms => ['m', 's']

/-- Milliseconds per unit. -/
def millis : DurationUnit → Nat
  | h => 3600000
  | m => 60000
  | s => 1000
  | ms => 1

end DurationUnit

/-- The value of a decimal numeral read after the value `x`. -/
def decimalValue (digits : List Char) (x : Nat) : Nat :=
  digits.foldl (fun x c => x * 10 + digitValue c) x

/-- A component of the grammar: one to five digits and a unit. -/
structure DurationComponent where
  digits : List Char
  unit : DurationUnit
  digits_isDigit : digits.all Char.isDigit = true
  length_pos : 0 < digits.length
  length_le : digits.length ≤ 5

/-- The component as written. -/
def DurationComponent.text (c : DurationComponent) : List Char := c.digits ++ c.unit.text

/-- The component's milliseconds. -/
def DurationComponent.millis (c : DurationComponent) : Nat :=
  decimalValue c.digits 0 * c.unit.millis

/-- A duration of the grammar: one to four components. -/
structure GatewayDuration where
  components : List DurationComponent
  length_pos : 0 < components.length
  length_le : components.length ≤ 4

/-- The duration as written. -/
def GatewayDuration.text (d : GatewayDuration) : String :=
  ⟨d.components.flatMap DurationComponent.text⟩

/-- The duration's total in milliseconds. -/
def GatewayDuration.millis (d : GatewayDuration) : Nat :=
  (d.components.map DurationComponent.millis).sum

section Digits

theorem digitValue_lt {c : Char} (h : c.isDigit = true) : digitValue c < 10 := by
  simp only [Char.isDigit, Bool.and_eq_true, decide_eq_true_eq] at h
  have h57 : c.val.toNat ≤ 57 := UInt32.toNat_le_of_le (by decide) h.2
  show c.val.toNat - 48 < 10
  omega

/-- A numeral of `n` digits read after `x` stays below `(x + 1) * 10 ^ n`. -/
theorem decimalValue_lt : ∀ (ds : List Char) (x : Nat), ds.all Char.isDigit = true →
    decimalValue ds x < (x + 1) * 10 ^ ds.length
  | [], x, _ => by simp [decimalValue]
  | c :: cs, x, hds => by
    simp only [List.all_cons, Bool.and_eq_true] at hds
    have hc := digitValue_lt hds.1
    calc decimalValue (c :: cs) x
        < (x * 10 + digitValue c + 1) * 10 ^ cs.length := decimalValue_lt cs _ hds.2
      _ ≤ (x + 1) * 10 * 10 ^ cs.length := Nat.mul_le_mul_right _ (by omega)
      _ = (x + 1) * 10 ^ (c :: cs).length := by
        rw [List.length_cons, Nat.pow_succ, Nat.mul_assoc, Nat.mul_comm 10 (10 ^ cs.length)]

/-- `leadingInt` reads a numeral up to the first character that is not a digit,
as long as no prefix comes near the overflow bound. -/
theorem leadingInt_append : ∀ (ds t : List Char) (x : Nat), ds.all Char.isDigit = true →
    (∀ c ∈ t.head?, c.isDigit = false) → (x + 1) * 10 ^ ds.length ≤ durationLimit / 10 →
    leadingInt (ds ++ t) x = some (decimalValue ds x, t)
  | [], [], _, _, _, _ => rfl
  | [], c :: t, x, _, ht, _ => by
    simp [leadingInt, ht c rfl, decimalValue]
  | c :: cs, t, x, hds, ht, hx => by
    simp only [List.all_cons, Bool.and_eq_true] at hds
    have hc := digitValue_lt hds.1
    have hpow : 10 ≤ 10 ^ (cs.length + 1) :=
      Nat.le_self_pow (Nat.succ_ne_zero _) 10
    have hstep : (x + 1) * 10 ≤ durationLimit / 10 := by
      calc (x + 1) * 10 ≤ (x + 1) * 10 ^ (cs.length + 1) := Nat.mul_le_mul_left _ hpow
        _ ≤ durationLimit / 10 := hx
    have hrest : (x * 10 + digitValue c + 1) * 10 ^ cs.length ≤ durationLimit / 10 := by
      calc (x * 10 + digitValue c + 1) * 10 ^ cs.length
          ≤ (x + 1) * 10 * 10 ^ cs.length := Nat.mul_le_mul_right _ (by omega)
        _ = (x + 1) * 10 ^ (cs.length + 1) := by
          rw [Nat.pow_succ, Nat.mul_assoc, Nat.mul_comm 10 (10 ^ cs.length)]
        _ ≤ durationLimit / 10 := hx
    have hlim : durationLimit / 10 ≤ durationLimit := Nat.div_le_self _ _
    simp only [List.cons_append, leadingInt, hds.1, Bool.not_true, Bool.false_eq_true, if_false]
    rw [if_neg (by omega), if_neg (by omega)]
    exact leadingInt_append cs t _ hds.2 ht hrest

end Digits

section Units

/-- A unit is read whole: `fractionPart` finds no fraction before it. -/
theorem fractionPart_unit (u : DurationUnit) (r : List Char) :
    fractionPart (u.text ++ r) = (0, 1, u.text ++ r, false) := by
  cases u <;> rfl

/-- A unit followed by a digit or by nothing is read as the whole unit. -/
theorem takeWhile_unit (u : DurationUnit) {r : List Char}
    (hr : ∀ c ∈ r.head?, c.isDigit = true) :
    (u.text ++ r).takeWhile (fun c => !isNumberChar c) = u.text := by
  cases r with
  | nil => cases u <;> rfl
  | cons c r =>
    have hc : isNumberChar c = true := by simp [isNumberChar, hr c rfl]
    cases u <;> simp [DurationUnit.text, isNumberChar, hc, hr c rfl]

theorem unitMap_text (u : DurationUnit) : unitMap u.text = some (u.millis * 1000000) := by
  cases u <;> rfl

theorem unit_head_not_digit (u : DurationUnit) (r : List Char) :
    ∀ c ∈ (u.text ++ r).head?, c.isDigit = false := by
  cases u <;> simp [DurationUnit.text]

theorem unit_millis_le (u : DurationUnit) : u.millis ≤ 3600000 := by
  cases u <;> decide

end Units

section Text

/-- Written components start with a digit. -/
theorem head_text_isDigit : ∀ comps : List DurationComponent,
    ∀ x ∈ (comps.flatMap DurationComponent.text).head?, x.isDigit = true
  | [] => by simp
  | ⟨digits, u, hdig, hpos, _⟩ :: _ => by
    obtain ⟨d0, ds, rfl⟩ := List.exists_cons_of_ne_nil (List.ne_nil_of_length_pos hpos)
    simp only [List.all_cons, Bool.and_eq_true] at hdig
    simp [DurationComponent.text, hdig.1]

/-- Every component is written with at least two characters. -/
theorem two_mul_length_le_text : ∀ comps : List DurationComponent,
    2 * comps.length ≤ (comps.flatMap DurationComponent.text).length
  | [] => Nat.le_refl _
  | c :: cs => by
    have hu : 0 < c.unit.text.length := by cases c.unit <;> decide
    have := two_mul_length_le_text cs
    have := c.length_pos
    simp only [List.flatMap_cons, List.length_append, List.length_cons, DurationComponent.text]
    omega

end Text

section Loop

/-- A component's numeral has at most five digits. -/
theorem DurationComponent.pow_length_le (c : DurationComponent) :
    (0 + 1) * 10 ^ c.digits.length ≤ 10 ^ 5 := by
  rw [Nat.zero_add, Nat.one_mul]
  exact Nat.pow_le_pow_right (by decide) c.length_le

/-- A component's value is below `10 ^ 5`. -/
theorem decimalValue_digits_lt (c : DurationComponent) : decimalValue c.digits 0 < 10 ^ 5 :=
  Nat.lt_of_lt_of_le (decimalValue_lt c.digits 0 c.digits_isDigit) c.pow_length_le

/-- A component is at most `99999h`. -/
theorem DurationComponent.millis_lt (c : DurationComponent) :
    c.millis < 10 ^ 5 * 3600000 := by
  unfold DurationComponent.millis
  have hv := decimalValue_digits_lt c
  have hu := unit_millis_le c.unit
  calc decimalValue c.digits 0 * c.unit.millis
      ≤ decimalValue c.digits 0 * 3600000 := Nat.mul_le_mul_left _ hu
    _ < 10 ^ 5 * 3600000 := Nat.mul_lt_mul_of_pos_right hv (by decide)

/-- One round of the loop reads one component and adds its nanoseconds. -/
theorem parseDurationLoop_component (fuel : Nat) (c : DurationComponent) {r : List Char}
    (hr : ∀ x ∈ r.head?, x.isDigit = true) {d : Nat}
    (hd : d + c.millis * 1000000 ≤ durationLimit) :
    parseDurationLoop (fuel + 1) (c.text ++ r) d =
      parseDurationLoop fuel r (d + c.millis * 1000000) := by
  have hint : leadingInt (c.digits ++ (c.unit.text ++ r)) 0 =
      some (decimalValue c.digits 0, c.unit.text ++ r) :=
    leadingInt_append c.digits _ 0 c.digits_isDigit (unit_head_not_digit c.unit r)
      (Nat.le_trans c.pow_length_le (by decide))
  obtain ⟨d0, ds, hds⟩ := List.exists_cons_of_ne_nil (List.ne_nil_of_length_pos c.length_pos)
  have hdig := c.digits_isDigit
  simp only [hds, List.all_cons, Bool.and_eq_true] at hdig
  simp only [DurationComponent.text, DurationComponent.millis, hds, List.append_assoc,
    List.cons_append] at hint hd ⊢
  rw [Nat.mul_assoc] at hd ⊢
  have hvu : decimalValue (d0 :: ds) 0 * (c.unit.millis * 1000000) ≤ durationLimit := by omega
  have hcomp : componentValue (decimalValue (d0 :: ds) 0) 0 1 (c.unit.millis * 1000000) =
      some (decimalValue (d0 :: ds) 0 * (c.unit.millis * 1000000)) := by
    have hpos : 0 < c.unit.millis * 1000000 := by cases c.unit <;> decide
    simp [componentValue, Nat.le_div_iff_mul_le hpos, hvu]
  have hpre : ((c.unit.text ++ r).length != (d0 :: (ds ++ (c.unit.text ++ r))).length) = true := by
    simp only [List.length_cons, List.length_append, bne_iff_ne, ne_eq]
    omega
  have hnum : isNumberChar d0 = true := by simp [isNumberChar, hdig.1]
  have hunit : c.unit.text.isEmpty = false := by cases c.unit <;> rfl
  have hlim : durationLimit < 2 ^ 64 := by decide
  rw [parseDurationLoop]
  simp only [hnum, Bool.not_true, Bool.false_eq_true, if_false, hint, hpre, fractionPart_unit,
    Bool.not_false, Bool.false_and, takeWhile_unit c.unit hr, hunit, unitMap_text, hcomp]
  rw [Nat.mod_eq_of_lt (Nat.lt_of_le_of_lt hd hlim), if_neg (Nat.not_lt.mpr hd), List.drop_left]

/-- The loop reads a list of components, one per round, and returns the sum of
their nanoseconds. -/
theorem parseDurationLoop_components : ∀ (comps : List DurationComponent) (fuel d : Nat),
    comps.length < fuel →
    d + (comps.map DurationComponent.millis).sum * 1000000 ≤ durationLimit →
    parseDurationLoop fuel (comps.flatMap DurationComponent.text) d =
      some (d + (comps.map DurationComponent.millis).sum * 1000000)
  | [], fuel + 1, d, _, _ => by simp [parseDurationLoop]
  | c :: cs, fuel + 1, d, hfuel, hd => by
    simp only [List.map_cons, List.sum_cons, List.flatMap_cons] at hd ⊢
    rw [parseDurationLoop_component fuel c (head_text_isDigit cs)
        (by rw [Nat.add_mul] at hd; omega),
      parseDurationLoop_components cs fuel _ (by simp at hfuel; omega)
        (by rw [Nat.add_mul] at hd; omega)]
    rw [Nat.add_mul, Nat.add_assoc]

end Loop

/-- `n` components make at most `n` times `99999h`. -/
theorem components_millis_le : ∀ comps : List DurationComponent,
    (comps.map DurationComponent.millis).sum ≤ comps.length * (10 ^ 5 * 3600000)
  | [] => Nat.zero_le _
  | c :: cs =>
    calc c.millis + (cs.map DurationComponent.millis).sum
        ≤ 10 ^ 5 * 3600000 + cs.length * (10 ^ 5 * 3600000) :=
          Nat.add_le_add c.millis_lt.le (components_millis_le cs)
      _ = (cs.length + 1) * (10 ^ 5 * 3600000) := by rw [Nat.succ_mul cs.length, Nat.add_comm]

/-- A duration of at most four components of at most `99999h` stays far below
the `int64` nanosecond limit. -/
theorem GatewayDuration.nanos_lt (d : GatewayDuration) :
    d.millis * 1000000 < durationLimit :=
  calc d.millis * 1000000 ≤ d.components.length * (10 ^ 5 * 3600000) * 1000000 :=
        Nat.mul_le_mul_right _ (components_millis_le d.components)
    _ ≤ 4 * (10 ^ 5 * 3600000) * 1000000 :=
        Nat.mul_le_mul_right _ (Nat.mul_le_mul_right _ d.length_le)
    _ < durationLimit := by decide

section Parse

/-- A string that starts with a digit has no sign: `ParseDuration` returns the
loop's total when it is below the `int64` limit. -/
theorem parseGatewayDuration_unsigned {str : String} {n : Nat}
    (hhead : ∀ c ∈ str.data.head?, c.isDigit = true) (hlen : 2 ≤ str.data.length)
    (hloop : parseDurationLoop (str.data.length + 1) str.data 0 = some n)
    (hn : n < durationLimit) : parseGatewayDuration str = .ok n := by
  obtain ⟨c, c1, cs, hs⟩ : ∃ c c1 cs, str.data = c :: c1 :: cs := by
    match h : str.data, hlen with
    | c :: c1 :: cs, _ => exact ⟨c, c1, cs, rfl⟩
  have hc := hhead c (by rw [hs]; rfl)
  have hbound : ¬n > durationLimit - 1 := by omega
  unfold parseGatewayDuration
  rw [hs] at hloop ⊢
  split
  rename_i neg s hsplit
  split at hsplit
  case h_1 _ _ hminus => cases hminus; exact absurd hc (by decide)
  case h_2 _ _ hplus => cases hplus; exact absurd hc (by decide)
  case h_3 =>
    cases hsplit
    rw [hloop]
    simp [hbound]

/-- A request timeout that parses to whole milliseconds is sent as them. -/
theorem requestTimeoutMs_of_parse {str : String} {n : Nat}
    (h : parseGatewayDuration str = .ok (n * 1000000 : Nat)) :
    requestTimeoutMs (some ⟨some str⟩) = n := by
  have hms : milliseconds (n * 1000000 : Nat) = n :=
    congrArg Nat.cast (Nat.mul_div_cancel n (by decide : 0 < 1000000))
  simp only [requestTimeoutMs, Option.some_bind, h, hms]
  rcases Nat.eq_zero_or_pos n with rfl | hpos
  · rfl
  · simp [hpos]

/-- A built rule carries the timeout of its source rule. -/
theorem buildHTTPRouteRule_timeoutMs {b : PingoraBuilder} {ns : String} {rule : HTTPRouteRule}
    {w : Routing.HTTPRouteRule} (h : b.buildHTTPRouteRule ns rule = .ok w) :
    w.timeoutMs = requestTimeoutMs rule.timeouts := by
  unfold PingoraBuilder.buildHTTPRouteRule at h
  cases hm : rule.ruleMatches.isEmpty <;>
    simp only [hm, if_true, if_false, Bool.false_eq_true, pure_bind] at h
  · obtain ⟨_, -, h⟩ := bind_eq_ok h
    obtain ⟨_, -, h⟩ := bind_eq_ok h
    cases h
    rfl
  · obtain ⟨_, -, h⟩ := bind_eq_ok h
    cases h
    rfl

end Parse

/-- On every duration of the Gateway API grammar `time.ParseDuration` returns the
exact total in nanoseconds, below the `int64` limit, and the builder sends the
exact total in milliseconds, zero standing for an unset timeout; it builds every
rule the API server admits whose Service refs name the core group. -/
theorem gateway_duration_timeout_exact (d : GatewayDuration) :
    parseGatewayDuration d.text = .ok (d.millis * 1000000 : Nat) ∧
      d.millis * 1000000 < durationLimit ∧
      requestTimeoutMs (some ⟨some d.text⟩) = d.millis ∧
      (∀ (b : PingoraBuilder) (ns : String) (rule : HTTPRouteRule) (w : Routing.HTTPRouteRule),
        rule.timeouts = some ⟨some d.text⟩ → b.buildHTTPRouteRule ns rule = .ok w →
        w.timeoutMs = d.millis) ∧
      ∀ (b : PingoraBuilder) (ns : String) (rule : HTTPRouteRule),
        rule.timeouts = some ⟨some d.text⟩ → httpRuleAdmitted rule = true →
        CoreServices rule.backendRefs →
        ∃ w, b.buildHTTPRouteRule ns rule = .ok w ∧ w.timeoutMs = d.millis := by
  have hlen : 2 * d.components.length ≤ d.text.data.length := two_mul_length_le_text d.components
  have hpos := d.length_pos
  have hloop : parseDurationLoop (d.text.data.length + 1) d.text.data 0 =
      some (d.millis * 1000000) := by
    rw [← Nat.zero_add (d.millis * 1000000)]
    exact parseDurationLoop_components d.components _ 0 (by omega)
      (by rw [Nat.zero_add]; exact d.nanos_lt.le)
  have hparse : parseGatewayDuration d.text = .ok (d.millis * 1000000 : Nat) :=
    parseGatewayDuration_unsigned (head_text_isDigit d.components) (by omega) hloop d.nanos_lt
  have htimeout : ∀ (b : PingoraBuilder) (ns : String) (rule : HTTPRouteRule)
      (w : Routing.HTTPRouteRule), rule.timeouts = some ⟨some d.text⟩ →
      b.buildHTTPRouteRule ns rule = .ok w → w.timeoutMs = d.millis := fun b ns rule w ht hw => by
    rw [buildHTTPRouteRule_timeoutMs hw, ht, requestTimeoutMs_of_parse hparse]
  refine ⟨hparse, d.nanos_lt, requestTimeoutMs_of_parse hparse, htimeout,
    fun b ns rule ht hadm hcore => ?_⟩
  obtain ⟨w, hw⟩ := buildHTTPRouteRule_ok_of_core_services b ns hadm hcore
  exact ⟨w, hw, htimeout b ns rule w ht hw⟩

end PingoraGateway
