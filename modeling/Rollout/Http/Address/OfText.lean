import Rollout.Http.Address.Basic
import Rollout.Http.Address.Path
import Rollout.Http.Host
import Rollout.Text.Index

/-!
# From URL to address

The address that a URL names, in normal form: the scheme and host in lower case, the port
left out where it is the usual one, dot segments resolved, and characters percent encoded
that may not stand in a part. Not every text is a URL.
-/

namespace Rollout.Address

/-! ## Schemes -/

/-- The usual port of a scheme that names hosts on the network. -/
def usualPort? (scheme : String) : Option Nat :=
  match scheme with
  | "http" => some 80
  | "https" => some 443
  | "ws" => some 80
  | "wss" => some 443
  | "ftp" => some 21
  | _ => none

/-- Whether a scheme has the syntax of hosts and slashes whatever its text looks like. -/
def isSpecial (scheme : String) : Bool := scheme = "file" || (usualPort? scheme).isSome

/-- The scheme of a URL, in lower case, and what follows it. -/
def splitScheme? (cs : List Char) : Option (String × List Char) :=
  let inScheme (c : Char) : Bool := c.isAlphanum || c = '+' || c = '-' || c = '.'
  match cs.dropWhile inScheme with
  | ':' :: rest =>
    if (cs.head?).any Char.isAlpha then
      some (String.ofList ((cs.takeWhile inScheme).map Char.toLower), rest)
    else none
  | _ => none

/-! ## Hosts and ports -/

/-- What stands before the last `@`, and what stands after it. -/
private def splitCredentials (cs : List Char) : Option (List Char) × List Char :=
  let after := (cs.reverse.takeWhile (· ≠ '@')).reverse
  if cs.contains '@' then (some (cs.take (cs.length - after.length - 1)), after)
  else (none, cs)

private def keptInCredentials (c : Char) : Bool :=
  let parting : List Char := ['/', ':', ';', '=', '@', '[', '\\', ']', '^', '|']
  keptInPath c && !parting.contains c

/-- The credentials that a name and a password after a colon write, unless both are empty. -/
private def credentialsOf? (cs : List Char) : Option Credentials :=
  let encoded (part : List Char) : String :=
    Text.percentEncodeBut keptInCredentials (String.ofList part)
  let name := cs.takeWhile (· ≠ ':')
  let password := (cs.dropWhile (· ≠ ':')).drop 1
  if name = [] ∧ password = [] then none else some ⟨encoded name, encoded password⟩

/-- A host and what follows it, a colon with a port or nothing. -/
private def splitPort (cs : List Char) : List Char × List Char :=
  let bracket := if cs.head? = some '[' then cs.takeWhile (· ≠ ']') else []
  let rest := cs.drop bracket.length
  (bracket ++ rest.takeWhile (· ≠ ':'), rest.dropWhile (· ≠ ':'))

/-- A port of at most 16 bits, if there are digits. -/
private def port? (digits : List Char) : Option (Option Nat) :=
  if digits = [] then some none
  else if digits.all Char.isDigit then
    let n := Text.ofDigits digits
    if n < Nat.pow 2 16 then some (some n) else none
  else none

/-! ## Parts -/

/-- The parts of a URL after its scheme, the marks before query and fragment aside. -/
private structure Parts where
  /-- Host and path, or a path alone. -/
  main : List Char
  query : Option String
  fragment : Option String

private def keptInQuery (special : Bool) (c : Char) : Bool :=
  isPlain c && !(c = ' ' || c = '"' || c = '#' || c = '<' || c = '>') &&
    !(special && c = '\'')

private def encodedAfter (kept : Char → Bool) : List Char → Option String
  | [] => none
  | _ :: cs => some (Text.percentEncodeBut kept (String.ofList cs))

private def partsOf (special : Bool) (cs : List Char) : Parts :=
  let front := cs.takeWhile (· ≠ '#')
  { main := front.takeWhile (· ≠ '?')
    query := encodedAfter (keptInQuery special) (front.dropWhile (· ≠ '?'))
    fragment := encodedAfter keptInFragment (cs.dropWhile (· ≠ '#')) }

/-- Whether there is more than the main part. -/
private def Parts.hasMore (parts : Parts) : Bool := parts.query.isSome || parts.fragment.isSome

/-- An address with a path of segments. -/
private def Parts.address (parts : Parts) (scheme : String) (credentials : Option Credentials)
    (host : Option String) (port : Option Nat) (segments : List String) : Address :=
  ⟨scheme, credentials, host, port, .segments segments, parts.query, parts.fragment⟩

/-! ## Kinds of addresses -/

/-- The address of a text that starts with the host. A path may follow the port of an unknown
scheme with a backslash. -/
private def atHost? (scheme : String) (isSlash : Char → Bool) (parts : Parts)
    (cs : List Char) : Option Address := do
  let special := isSpecial scheme
  let (before, rest) := splitCredentials (cs.takeWhile fun c => !isSlash c)
  let path := cs.dropWhile fun c => !isSlash c
  if before = some [] ∧ rest = [] ∧ (path ≠ [] ∨ parts.hasMore) then none
  let credentials := before.bind credentialsOf?
  let (name, afterName) := splitPort rest
  let host ← if special then Host.domain? name else Host.other? name
  if host = "" ∧ (credentials.isSome ∨ afterName ≠ []) then none
  let port ← port? ((afterName.drop 1).takeWhile (· ≠ '\\'))
  let path := (afterName.drop 1).dropWhile (· ≠ '\\') ++ path
  let segments := if path = [] ∧ !special then [] else segmentsOf isSlash path
  return parts.address scheme credentials (some host)
    (if port = usualPort? scheme then none else port) segments

/-- The address of a file. Two slashes precede a host, unless that is a drive letter; a path
on a drive has no host. -/
private def ofFile? (isSlash : Char → Bool) (parts : Parts) : Option Address := do
  let file (host : String) (written : List Char) : Address :=
    let (segments, onDrive) := fileSegments (writtenSegments isSlash written)
    parts.address "file" none (some (if onDrive then "" else host)) none segments
  match parts.main with
  | a :: b :: rest =>
    if isSlash a && isSlash b then
      let name := rest.takeWhile fun c => !isSlash c
      let path := rest.dropWhile fun c => !isSlash c
      if isDrive name then return file "" rest
      let host ← if name = [] then some "" else Host.domain? name
      if host = "" ∨ host = "localhost" then return file "" path
      return file host (withoutSlash isSlash path)
    else return file "" (withoutSlash isSlash (a :: b :: rest))
  | cs => return file "" (withoutSlash isSlash cs)

/-- Blanks and control characters around a URL and line breaks in it do not count. -/
private def clean (cs : List Char) : List Char :=
  let trimmed := cs.dropWhile (· ≤ ' ')
  let trimmed := (trimmed.reverse.dropWhile (· ≤ ' ')).reverse
  trimmed.filter fun c => !(c = '\t' || c = '\n' || c = '\r')

def ofText? (url : String) : Option Address := do
  let (scheme, rest) ← splitScheme? (clean url.toList)
  let special := isSpecial scheme
  let isSlash (c : Char) : Bool := c = '/' || (special && c = '\\')
  let parts := partsOf special rest
  if scheme = "file" then ofFile? isSlash parts
  else if special then atHost? scheme isSlash parts (parts.main.dropWhile isSlash)
  else
    match parts.main with
    | '/' :: '/' :: cs => atHost? scheme isSlash parts cs
    | '/' :: cs => return parts.address scheme none none none (segmentsOf isSlash ('/' :: cs))
    | cs =>
      let path := Text.percentEncodeBut isPlain (String.ofList cs)
      return ⟨scheme, none, none, none, .rootless path, parts.query, parts.fragment⟩

end Rollout.Address
