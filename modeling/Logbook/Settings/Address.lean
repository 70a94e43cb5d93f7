import Logbook.Text.Decimal
import Logbook.Text.Hexadecimal

/-!
# Network addresses

## Main definitions

* `Host` — an address of version 4 or 6.
* `Endpoint` — a host and a port.
* `Endpoint.text`, `Endpoint.parse?` — the usual spelling.
-/

namespace Logbook

/-- The address of a host. -/
inductive Host
  /-- Four bytes. -/
  | v4 (bytes : List Nat)
  /-- Eight groups of sixteen bits, and the number of the network that they belong to, if it is not
  zero. -/
  | v6 (groups : List Nat) (network : Nat)
  deriving DecidableEq, Repr

namespace Host

/-- Numbers between separators. -/
def join (separator : String) (parts : List (List Char)) : List Char :=
  separator.toList.intercalate parts

/-- Four bytes with dots between them. -/
def writeV4 (bytes : List Nat) : List Char := join "." (bytes.map Decimal.natural)

/-- Groups in hexadecimal with colons between them. -/
def writeGroups (groups : List Nat) : List Char := join ":" (groups.map (Nat.toDigits 16))

/-- The start and the length of the longest run of zeros, the first of them where several are equally
long.  The list is looked at from position `at`; `run` zeros stand right before it. -/
def longestZeros (position run : Nat) (best : Nat × Nat) : List Nat → Nat × Nat
  | [] => best
  | g :: rest =>
    if g = 0 then
      let run := run + 1
      let best := if best.2 < run then (position + 1 - run, run) else best
      longestZeros (position + 1) run best rest
    else longestZeros (position + 1) 0 best rest

/-- Eight groups; two colons stand for the longest run of zeros, if it has two groups or more, and an
embedded address of version 4 keeps its dots. -/
def writeV6 (groups : List Nat) : List Char :=
  match groups with
  | [0, 0, 0, 0, 0, 0xffff, a, b] =>
    "::ffff:".toList ++ writeV4 [a / 256, a % 256, b / 256, b % 256]
  | _ =>
    let (start, length) := longestZeros 0 0 (0, 0) groups
    if length < 2 then writeGroups groups
    else writeGroups (groups.take start) ++ "::".toList ++
      writeGroups (groups.drop (start + length))

/-- The characters of a host. -/
def write : Host → List Char
  | .v4 bytes => writeV4 bytes
  | .v6 groups network =>
    '[' :: writeV6 groups ++ (if network = 0 then [] else '%' :: Decimal.natural network) ++ [']']

/-- The parts of a text between separators. -/
def split (separator : Char) : List Char → List (List Char)
  | [] => [[]]
  | c :: rest =>
    if c = separator then [] :: split separator rest
    else match split separator rest with
      | [] => [[c]]
      | part :: parts => (c :: part) :: parts

/-- A number below `bound` without leading zeros. -/
def decimal? (bound : Nat) (ds : List Char) : Option Nat :=
  if ds.length = 1 ∨ ds.head? ≠ some '0' then Decimal.below? bound ds else none

/-- Four bytes with dots between them. -/
def readV4? (text : List Char) : Option (List Nat) := do
  let bytes ← (split '.' text).mapM (decimal? 256)
  if bytes.length = 4 then return bytes else none

/-- One to four hexadecimal digits. -/
def group? (ds : List Char) : Option Nat := do
  if ds.isEmpty ∨ 4 < ds.length then none
  let values ← ds.mapM Hexadecimal.digit?
  return Positional.value 16 values

/-- Groups with colons between them, of which the last two may be an address of version 4. -/
def groups? : List (List Char) → Option (List Nat)
  | [] => some []
  | [last] =>
    match readV4? last with
    | some [a, b, c, d] => some [a * 256 + b, c * 256 + d]
    | _ => (fun g => [g]) <$> group? last
  | part :: rest => do
    let g ← group? part
    let gs ← groups? rest
    return g :: gs

/-- Eight groups. -/
def readAll? (text : List Char) : Option (List Nat) := do
  let gs ← groups? (split ':' text)
  if gs.length = 8 then return gs else none

/-- The groups before two colons that stand together; there may be none. -/
def readLeft? (text : List Char) : Option (List Nat) :=
  if text.isEmpty then some [] else (split ':' text).mapM group?

/-- The groups behind two colons that stand together; there may be none. -/
def readRight? (text : List Char) : Option (List Nat) :=
  if text.isEmpty then some [] else groups? (split ':' text)

/-- A text split at the first two colons that stand together. -/
def atGap : List Char → Option (List Char × List Char)
  | ':' :: ':' :: rest => some ([], rest)
  | c :: rest => (fun r => (c :: r.1, r.2)) <$> atGap rest
  | [] => none

/-- Eight groups, of which two colons may stand for one zero or more. -/
def readV6? (text : List Char) : Option (List Nat) :=
  match atGap text with
  | none => readAll? text
  | some (left, right) => do
    let l ← readLeft? left
    let r ← readRight? right
    if l.length + r.length < 8 then
      return l ++ List.replicate (8 - l.length - r.length) 0 ++ r
    else none

/-- The number of a network behind a percent sign; without any it is zero. -/
def network? : List Char → Option Nat
  | [] => some 0
  | _ :: ds => Decimal.below? 0x100000000 ds

/-- An address of version 6, with the number of its network behind a percent sign or without. -/
def readScoped? (text : List Char) : Option Host := do
  return .v6 (← readV6? (text.takeWhile (· ≠ '%'))) (← network? (text.dropWhile (· ≠ '%')))

end Host

/-- A host and a port. -/
structure Endpoint where
  /-- The host. -/
  host : Host
  /-- The port. -/
  port : UInt16
  deriving DecidableEq, Repr

namespace Endpoint

/-- The spelling of an endpoint. -/
def text (e : Endpoint) : String :=
  String.ofList (e.host.write ++ ':' :: Decimal.natural e.port.toNat)

/-- A port number. -/
def port? (ds : List Char) : Option UInt16 := (Decimal.below? 65536 ds).map UInt16.ofNat

/-- The endpoint that a text spells. -/
def parse? (text : String) : Option Endpoint :=
  match text.toList with
  | '[' :: rest => do
    let host ← Host.readScoped? (rest.takeWhile (· ≠ ']'))
    match rest.dropWhile (· ≠ ']') with
    | ']' :: ':' :: ds => return ⟨host, ← port? ds⟩
    | _ => none
  | chars => do
    let host ← Host.readV4? (chars.takeWhile (· ≠ ':'))
    match chars.dropWhile (· ≠ ':') with
    | ':' :: ds => return ⟨.v4 host, ← port? ds⟩
    | _ => none

end Endpoint

end Logbook
