import PingoraGateway.Binding.Hostname

/-!
# Label keys, label values and selector requirements

What `metav1.LabelSelectorAsSelector` checks of each entry of a selector through
`labels.NewRequirement`. A key is a qualified name: a name part of at most 63
characters, alphanumerics, `-`, `_` and `.`, that starts and ends with an
alphanumeric, behind an optional DNS-1123 subdomain prefix and a `/`. A value is
empty or such a name part. The operator fixes how many values there are. The
patterns are anchored regular expressions over ASCII classes, so a string that
matches one has as many bytes as characters, and each is written as a check on
the character list.
-/

namespace PingoraGateway

/-- `qualifiedNameMaxLength`, which is also `LabelValueMaxLength`. -/
def qualifiedNameMaxLength : Nat := 63

/-- `DNS1123SubdomainMaxLength`. -/
def dns1123SubdomainMaxLength : Nat := 253

/-- `qnameExtCharFmt`: `[-A-Za-z0-9_.]`. -/
def isQualifiedNameExtChar (ch : Char) : Bool :=
  ch.isAlphanum || ch == '-' || ch == '_' || ch == '.'

/-- `qualifiedNameFmt`, `([A-Za-z0-9][-A-Za-z0-9_.]*)?[A-Za-z0-9]`, matching a
whole name part, within the length limit. -/
def qualifiedNamePartValid (name : List Char) : Bool :=
  name.length ≤ qualifiedNameMaxLength &&
    match name.head?, name.getLast? with
    | some a, some b => a.isAlphanum && b.isAlphanum && name.all isQualifiedNameExtChar
    | _, _ => false

/-- `IsDNS1123Subdomain`: dot-separated labels of lowercase alphanumerics and
inner hyphens, within the length limit. -/
def isDNS1123Subdomain (value : List Char) : Bool :=
  value.length ≤ dns1123SubdomainMaxLength && isConcreteName value

/-- `IsQualifiedName`: a name part, after a DNS-1123 subdomain prefix and a `/`
when there is one; an empty prefix is no subdomain, and a second `/` is an
error. -/
def isQualifiedName (value : String) : Bool :=
  match value.data.splitOn '/' with
  | [name] => qualifiedNamePartValid name
  | [pfx, name] => isDNS1123Subdomain pfx && qualifiedNamePartValid name
  | _ => false

/-- `IsValidLabelValue`: empty, or a name part. -/
def isValidLabelValue (value : String) : Bool :=
  value.data.isEmpty || qualifiedNamePartValid value.data

/-- The `selection.Operator`s `LabelSelectorAsSelector` builds requirements with. -/
inductive SelectionOperator
  | Equals
  | In
  | NotIn
  | Exists
  | DoesNotExist
  deriving DecidableEq, Repr

/-- The operator `LabelSelectorAsSelector` maps a `LabelSelectorOperator` to,
none for one it does not know. -/
def selectionOperator (operator : String) : Option SelectionOperator :=
  if operator == "In" then some .In
  else if operator == "NotIn" then some .NotIn
  else if operator == "Exists" then some .Exists
  else if operator == "DoesNotExist" then some .DoesNotExist
  else none

/-- The number of values `labels.NewRequirement` admits for an operator. -/
def SelectionOperator.admitsValues : SelectionOperator → List String → Bool
  | .Equals, vals => vals.length == 1
  | .In, vals | .NotIn, vals => !vals.isEmpty
  | .Exists, vals | .DoesNotExist, vals => vals.isEmpty

/-- Whether `labels.NewRequirement` returns no error: a qualified-name key, a
number of values the operator admits, and valid label values. -/
def newRequirementValid (key : String) (op : SelectionOperator) (vals : List String) : Bool :=
  isQualifiedName key && op.admitsValues vals && vals.all isValidLabelValue

/-- `%q` of an operator: the text in double quotes, with `"` and `\` escaped. -/
def goQuote (s : String) : String :=
  let escape (ch : Char) : String :=
    if ch.toNat == 34 || ch.toNat == 92 then "\\" ++ ch.toString else ch.toString
  "\"" ++ String.join (s.data.map escape) ++ "\""

/-- The error of `labels.NewRequirement`, named by the key it is about. -/
def newRequirementError (key : String) : String :=
  "invalid label requirement for key " ++ goQuote key

end PingoraGateway
