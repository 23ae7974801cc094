import CatalogDdl.Text.Numeral
import CatalogDdl.Text.Words

/-!
# The version of the target server

Whether foreign keys and checks can be applied without review depends on the server. Its version is
the dotted number before the first hyphen; a server that calls itself TiDB is treated apart.

- `versionComponents`: the numbers of a dotted version, without the zeros at the end.
- `compareComponents`: the order of such lists, in which the first difference decides and a list
  comes before its extensions.
- `ServerVersion`: what is known of a server.
- `ServerVersion.placement`: the scripts that foreign keys and checks go to.
-/

namespace CatalogDdl.Ddl

/-- The number that the decimal digits at the front of a text write; zero if there are none or the
number does not fit 64 bits. -/
def leadingNumber (cs : List Char) : Nat :=
  match Text.readNat? (cs.takeWhile fun c => (Text.digit? c).isSome) with
  | some n => if n < Text.bound64 then n else 0
  | none => 0

/-- A list without the zeros at its end. -/
def dropTrailingZeros (ns : List Nat) : List Nat := (ns.reverse.dropWhile (· == 0)).reverse

/-- The numbers of a dotted version, without the zeros at the end. -/
def versionComponents (s : String) : List Nat :=
  dropTrailingZeros ((Text.splitAt '.' (Text.trimChars s.toList)).map leadingNumber)

/-- The order of lists of numbers: the first difference decides, and a list comes before its
extensions. -/
def compareComponents : List Nat → List Nat → Ordering
  | [], [] => .eq
  | [], _ :: _ => .lt
  | _ :: _, [] => .gt
  | m :: ms, n :: ns => if m < n then .lt else if n < m then .gt else compareComponents ms ns

/-- What is known of a server. -/
structure ServerVersion where
  /-- What the server says. -/
  raw : String
  /-- Whether it calls itself TiDB. -/
  isTiDB : Bool
  /-- Its numbers. -/
  components : List Nat
  deriving DecidableEq, Repr

namespace ServerVersion

/-- The server that gives a version text. -/
def ofText (raw : String) : ServerVersion where
  raw := raw
  isTiDB := Text.contains raw "TiDB"
  components := versionComponents (String.ofList (raw.toList.takeWhile (· != '-')))

/-- The last version that reads checks without enforcing them. -/
def lastIgnoringChecks : String := "8.0.15"

/-- Whether a server enforces checks. -/
def enforcesChecks (v : ServerVersion) : Bool :=
  compareComponents v.components (versionComponents lastIgnoringChecks) == .gt

end ServerVersion

/-- The script that a statement is written to. -/
inductive Destination where
  | primary
  | compatibility
  deriving DecidableEq, Repr

/-- The scripts of the two kinds of statements that depend on the server. -/
structure Placement where
  foreignKeys : Destination
  checks : Destination
  deriving DecidableEq, Repr

/-- TiDB has both reviewed; another server has the checks reviewed unless it enforces them. -/
def ServerVersion.placement (v : ServerVersion) : Placement :=
  if v.isTiDB then ⟨.compatibility, .compatibility⟩
  else if v.enforcesChecks then ⟨.primary, .primary⟩
  else ⟨.primary, .compatibility⟩

end CatalogDdl.Ddl
