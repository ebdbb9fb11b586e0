import PingoraGateway.Api.Types

/-!
# Request timeouts

`parseGatewayDuration` is Go's `time.ParseDuration`: an optional sign, then
components of digits, an optional fraction and a unit, summed in unsigned
nanoseconds with the library's overflow checks. The fraction's `float64`
product is taken exactly; Gateway API durations have no fraction.
-/

namespace PingoraGateway

/-- `1<<63`, the bound of the unsigned accumulators. -/
def durationLimit : Nat := 2 ^ 63

/-- The value of a decimal digit. -/
def digitValue (c : Char) : Nat := c.toNat - '0'.toNat

/-- `leadingInt`: the leading `[0-9]*` onto `x`, and the rest; `none` on overflow. -/
def leadingInt : List Char → Nat → Option (Nat × List Char)
  | [], x => some (x, [])
  | c :: cs, x =>
    if !c.isDigit then some (x, c :: cs)
    else if x > durationLimit / 10 then none
    else
      let x := x * 10 + digitValue c
      if x > durationLimit then none else leadingInt cs x

/-- `leadingFraction`: the leading `[0-9]*` as a numerator and its power-of-ten
scale; digits past the precision are skipped, not an error. -/
def leadingFraction : List Char → Nat → Nat → Bool → Nat × Nat × List Char
  | [], x, scale, _ => (x, scale, [])
  | c :: cs, x, scale, overflow =>
    if !c.isDigit then (x, scale, c :: cs)
    else if overflow then leadingFraction cs x scale true
    else if x > (durationLimit - 1) / 10 then leadingFraction cs x scale true
    else
      let y := x * 10 + digitValue c
      if y > durationLimit then leadingFraction cs x scale true
      else leadingFraction cs y (scale * 10) false

/-- `unitMap`: nanoseconds per unit. -/
def unitMap (u : List Char) : Option Nat :=
  if u == "ns".data then some 1
  else if u == "us".data || u == "µs".data || u == "μs".data then some 1000
  else if u == "ms".data then some 1000000
  else if u == "s".data then some 1000000000
  else if u == "m".data then some 60000000000
  else if u == "h".data then some 3600000000000
  else none

/-- A character that ends a unit: a digit or a dot. -/
def isNumberChar (c : Char) : Bool := c == '.' || c.isDigit

/-- The optional `.[0-9]*` after a component's integer part: the numerator, the
scale, the rest, and whether a digit was consumed. -/
def fractionPart : List Char → Nat × Nat × List Char × Bool
  | '.' :: rest =>
    let (f, scale, s) := leadingFraction rest 0 1 false
    (f, scale, s, s.length != rest.length)
  | s => (0, 1, s, false)

/-- One component's nanoseconds from its integer part, fraction and unit; `none`
on overflow. -/
def componentValue (v f scale unit : Nat) : Option Nat :=
  if v > durationLimit / unit then none
  else
    let v := v * unit
    if f > 0 then
      let v := v + f * unit / scale
      if v > durationLimit then none else some v
    else some v

/-- The component loop of `time.ParseDuration` over the rest `s`, adding to the
`uint64` total `d`; each round consumes a unit, so the length bounds the rounds. -/
def parseDurationLoop : Nat → List Char → Nat → Option Nat
  | 0, _, _ => none
  | fuel + 1, s, d =>
    match s with
    | [] => some d
    | c :: _ =>
      if !isNumberChar c then none
      else
        match leadingInt s 0 with
        | none => none
        | some (v, afterInt) =>
          let pre := afterInt.length != s.length
          let (f, scale, afterFraction, post) := fractionPart afterInt
          if !pre && !post then none
          else
            let u := afterFraction.takeWhile fun c => !isNumberChar c
            if u.isEmpty then none
            else
              match unitMap u with
              | none => none
              | some unit =>
                match componentValue v f scale unit with
                | none => none
                | some v =>
                  let d := (d + v) % 2 ^ 64
                  if d > durationLimit then none
                  else parseDurationLoop fuel (afterFraction.drop u.length) d

/-- `parseGatewayDuration`, that is `time.ParseDuration`, in nanoseconds. -/
def parseGatewayDuration (str : String) : Except String Int :=
  let (neg, s) : Bool × List Char :=
    match str.data with
    | '-' :: rest => (true, rest)
    | '+' :: rest => (false, rest)
    | s => (false, s)
  if s == ['0'] then .ok 0
  else if s.isEmpty then .error ("time: invalid duration " ++ str)
  else
    match parseDurationLoop (s.length + 1) s 0 with
    | none => .error ("time: invalid duration " ++ str)
    | some d =>
      if neg then .ok (-(d : Int))
      else if d > durationLimit - 1 then .error ("time: invalid duration " ++ str)
      else .ok d

/-- `Duration.Milliseconds`: nanoseconds over a million, truncated toward zero. -/
def milliseconds (d : Int) : Int := d.tdiv 1000000

end PingoraGateway
