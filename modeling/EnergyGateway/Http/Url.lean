import EnergyGateway.Text.Ascii
import EnergyGateway.Text.Percent

/-!
# Web addresses

An address is text until it is used: a `#` ends the part that is sent, a `?` ends the path, a backslash counts
as a slash, and segments of one or two dots, plain or encoded, are resolved.  What may not stand in a path or
query is percent-encoded; what is encoded already stays as it is.

A host stands as it is written.  Left out are hosts in brackets (IPv6) and percent-encoded hosts, which count as no
address here; names are not mapped to ASCII, and numbers are not checked to be an IPv4 address.
-/

namespace EnergyGateway

/-- A web address as it is used. -/
structure Url where
  secure : Bool
  authority : String
  /-- The segments of the path, encoded. -/
  segments : List String
  query : Option String
  deriving DecidableEq, Repr

namespace Url

def isSlash (c : Char) : Bool := c == '/' || c == '\\'

/-- The characters that are not encoded in a path. -/
def keptInPath (c : Char) : Bool :=
  0x20 < c.toNat && c.toNat < 0x7F && c ∉ ['"', '#', '<', '>', '?', '^', '\x60', '\x7b', '\x7d']

/-- The characters that are not encoded in a query. -/
def keptInQuery (c : Char) : Bool :=
  0x20 < c.toNat && c.toNat < 0x7F && c ∉ ['"', '#', '<', '>', '\'']

/-- The parts between slashes. -/
def splitSlashes : List Char → List (List Char)
  | [] => [[]]
  | c :: rest =>
    match splitSlashes rest with
    | [] => [[c]]
    | part :: parts => if isSlash c then [] :: part :: parts else (c :: part) :: parts

def isDot (segment : List Char) : Bool :=
  [".", "%2e"].contains (String.ofList (segment.map Char.toLower))

def isDoubleDot (segment : List Char) : Bool :=
  ["..", ".%2e", "%2e.", "%2e%2e"].contains (String.ofList (segment.map Char.toLower))

/-- Whether a segment reads like the letter of a drive. -/
def isDrive : List Char → Bool
  | [letter, mark] => letter.isAlpha && (mark == ':' || mark == '|')
  | _ => false

/-- Go back over the last segment; over the letter of a drive there is no way back. -/
def goBack (done : List (List Char)) : List (List Char) :=
  if (done.getLast?).any isDrive then done else done.dropLast

/-- The segments of a path with the dots resolved: one dot stays, two go back.  Behind dots at the end
comes an empty segment. -/
def resolveDots (done : List (List Char)) : List (List Char) → List (List Char)
  | [] => done
  | [segment] =>
    if isDoubleDot segment then goBack done ++ [[]]
    else if isDot segment then done ++ [[]]
    else done ++ [segment]
  | segment :: rest =>
    if isDoubleDot segment then resolveDots (goBack done) rest
    else if isDot segment then resolveDots done rest
    else resolveDots (done ++ [segment]) rest

/-- The segments of a path that starts with a slash, or of no path at all. -/
def pathSegments (path : List Char) : List String :=
  let raw := splitSlashes (path.drop 1)
  (resolveDots [] (raw.map (Text.percentEncodeExcept keptInPath))).map String.ofList

/-- Whether a text can name a host.  One in brackets or with percent signs cannot. -/
def isHost (host : List Char) : Bool :=
  !host.isEmpty && host.all fun c =>
    0x20 < c.toNat && c.toNat != 0x7F && c ∉ ['#', '%', '/', '<', '>', '?', '@', '[', '\\', ']', '^', '|']

/-- Whether a text is a host with or without a port, behind the name of a user or not. -/
def isAuthority (authority : List Char) : Bool :=
  let hostPort := (authority.reverse.takeWhile (· != '@')).reverse
  let host := hostPort.takeWhile (· != ':')
  let port := (hostPort.dropWhile (· != ':')).drop 1
  isHost host && (port.isEmpty || ((Text.digits? port).any (· ≤ 65535)))

/-- The text behind a scheme, in any case. -/
def behindScheme? (scheme : String) (cs : List Char) : Option (List Char) :=
  let head := cs.take scheme.length
  if head.map Char.toLower == scheme.toList then some (cs.drop scheme.length) else none

/-- The address behind its scheme. -/
def ofAuthority? (secure : Bool) (cs : List Char) : Option Url :=
  let cs := cs.dropWhile isSlash
  let ends (c : Char) : Bool := isSlash c || c == '?' || c == '#'
  let authority := cs.takeWhile (!ends ·)
  let sent := (cs.dropWhile (!ends ·)).takeWhile (· != '#')
  let path := sent.takeWhile (· != '?')
  let query := match sent.dropWhile (· != '?') with
    | _ :: q => some (String.ofList (Text.percentEncodeExcept keptInQuery q))
    | [] => none
  if isAuthority authority then some ⟨secure, String.ofList authority, pathSegments path, query⟩ else none

/-- Read an address.  Blanks and control characters around it do not count, nor tabs and line breaks inside. -/
def parse? (s : String) : Option Url :=
  let isMargin (c : Char) : Bool := c.toNat ≤ 0x20
  let bare := ((s.toList.dropWhile isMargin).reverse.dropWhile isMargin).reverse
  let cs := bare.filter fun c => c ∉ ['\t', '\n', '\r']
  match behindScheme? "http:" cs with
  | some rest => ofAuthority? false rest
  | none => (behindScheme? "https:" cs).bind (ofAuthority? true)

def path (u : Url) : String := "/" ++ "/".intercalate u.segments

/-- What a request for the address asks for: the path and the query. -/
def target (u : Url) : String :=
  match u.query with
  | some q => u.path ++ "?" ++ q
  | none => u.path

end Url

end EnergyGateway
