import EnergyGateway.Json.Reader
import EnergyGateway.Listing

/-!
# The configuration page

The list of configurations is only published inside the page for people, as an object assigned in a script.  The
object is taken to end at the first `};` on the line where it starts.  A page without a readable list counts as
an empty list, and an entry that is no listing is left out.
-/

namespace EnergyGateway.Listing

/-- The assignment in the page. -/
def assignment : List Char := "var configData = ".toList

/-- The text up to the first brace that a semicolon follows, none if the line ends before. -/
def upToBrace : List Char → Option (List Char)
  | '}' :: ';' :: _ => some ['}']
  | '\n' :: _ => none
  | c :: rest => (upToBrace rest).map (c :: ·)
  | [] => none

/-- The object assigned where a text starts. -/
def assigned? (cs : List Char) : Option (List Char) :=
  if assignment.isPrefixOf cs then
    match cs.drop assignment.length with
    | '{' :: rest => (upToBrace rest).map ('{' :: ·)
    | _ => none
  else none

/-- The first object that is assigned in a page. -/
def embedded? : List Char → Option (List Char)
  | [] => none
  | c :: rest => (assigned? (c :: rest)).or (embedded? rest)

/-- The entries of a list of configurations; what is no listing is left out. -/
def ofEntries (entries : List Json) : List Listing := entries.filterMap fun j => read j.document

/-- The configurations that a page lists. -/
def ofPage (page : String) : List Listing :=
  match (embedded? page.toList).bind fun cs => (Document.readChars cs).bind Document.value? with
  | some data =>
    match data.member? "pids" with
    | some (.array entries) => ofEntries entries
    | _ => []
  | none => []

end EnergyGateway.Listing
