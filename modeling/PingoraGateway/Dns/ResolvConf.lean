import Mathlib.Data.List.Basic
import Mathlib.Data.List.DropRight

/-!
# Cluster domain detection from resolv.conf

The `dns` package reads `/etc/resolv.conf` line by line, skips comments, and in
the first `search` line that lists a domain `svc.<domain>` takes `<domain>` as
the cluster domain. Go strings are modelled by their characters; the standard
library functions the package calls (`unicode.IsSpace`, `strings.TrimSpace`,
`strings.Fields`, `strings.CutPrefix` and `bufio.ScanLines`) are given by what
they compute on valid text.
-/

namespace PingoraGateway

/-- The `White_Space` ranges of Go's `unicode` tables. -/
def whiteSpaceRanges : List (Nat × Nat) :=
  [(0x09, 0x0D), (0x20, 0x20), (0x85, 0x85), (0xA0, 0xA0), (0x1680, 0x1680), (0x2000, 0x200A),
    (0x2028, 0x2029), (0x202F, 0x202F), (0x205F, 0x205F), (0x3000, 0x3000)]

/-- `unicode.IsSpace`. -/
def isSpace (c : Char) : Bool :=
  whiteSpaceRanges.any fun r => r.1 ≤ c.toNat && c.toNat ≤ r.2

/-- `strings.TrimSpace`: leading and trailing white space removed. -/
def trimSpace (s : List Char) : List Char :=
  (s.dropWhile isSpace).rdropWhile isSpace

/-- `strings.Fields`: the maximal runs of characters that are not white space. -/
def fields (s : List Char) : List (List Char) :=
  (s.splitOnP isSpace).filter fun field => !field.isEmpty

/-- `strings.CutPrefix`: the rest after the prefix, and whether it was there. -/
def cutPrefix (s pre : List Char) : List Char × Bool :=
  if pre.isPrefixOf s then (s.drop pre.length, true) else (s, false)

/-- `dropCR`: a line's final carriage return. -/
def dropCR (line : List Char) : List Char :=
  if line.getLast? = some '\r' then line.dropLast else line

/-- `bufio.ScanLines` run to the end of the input, with the current line so far:
a line ends at a newline, and a last line needs none. -/
def scanLinesLoop : List Char → List Char → List (List Char)
  | [], line => if line.isEmpty then [] else [dropCR line]
  | c :: rest, line =>
    if c = '\n' then dropCR line :: scanLinesLoop rest [] else scanLinesLoop rest (line ++ [c])

/-- The lines `bufio.Scanner` yields with `ScanLines`. -/
def scanLines (data : List Char) : List (List Char) := scanLinesLoop data []

/-- The prefix of a search domain that names the cluster domain after it. -/
def svcPrefix : List Char := "svc.".data

/-- The prefix of a `search` line. -/
def searchPrefix : List Char := "search ".data

/-- `extractClusterDomain`: the rest of the first search domain `svc.<rest>` with
a non-empty rest, or the empty string. -/
def extractClusterDomain : List (List Char) → List Char
  | [] => []
  | domain :: domains =>
    let (clusterDomain, found) := cutPrefix domain svcPrefix
    if found && !clusterDomain.isEmpty then clusterDomain else extractClusterDomain domains

/-- The loop of `parseResolvConf` over the lines still to scan. -/
def parseResolvConfLines : List (List Char) → String × Bool
  | [] => ("", false)
  | line :: lines =>
    let line := trimSpace line
    if line.isEmpty || "#".data.isPrefixOf line || ";".data.isPrefixOf line then
      parseResolvConfLines lines
    else if searchPrefix.isPrefixOf line then
      let domains := (fields line).drop 1
      let domain := extractClusterDomain domains
      if !domain.isEmpty then (⟨domain⟩, true) else parseResolvConfLines lines
    else parseResolvConfLines lines

/-- `parseResolvConf`: the cluster domain of the first `search` line that lists
one, and whether one was found. -/
def parseResolvConf (content : String) : String × Bool :=
  parseResolvConfLines (scanLines content.data)

/-- `DetectClusterDomainFromFile`, with the file's content, or `none` when it
cannot be opened. -/
def detectClusterDomainFromFile (file : Option String) : String × Bool :=
  match file with
  | none => ("", false)
  | some content => parseResolvConf content

/-- `DefaultClusterDomain`. -/
def defaultClusterDomain : String := "cluster.local"

end PingoraGateway
