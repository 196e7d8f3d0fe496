import EnergyGateway.Form
import EnergyGateway.Http.Url
import EnergyGateway.Text.Base64

/-!
# HTTP messages

Requests carry nothing, a form, a JSON value or a file.  A server answers with a status and a body, unless the
connection breaks before or within its answer.
-/

namespace EnergyGateway.Http

inductive Method where
  | get
  | post
  | put
  | delete
  deriving DecidableEq, Repr

def Method.text : Method → String
  | .get => "GET"
  | .post => "POST"
  | .put => "PUT"
  | .delete => "DELETE"

/-- What a request carries. -/
inductive Payload where
  | none
  | form (f : Form)
  | json (j : Json)
  /-- A file with its name, in a message of one part. -/
  | file (name : String) (contents : ByteArray)

structure Request where
  method : Method
  url : Url
  /-- The value of the header `Authorization`. -/
  authorization : Option String := none
  payload : Payload := .none

/-- An answer.  The body is missing if the connection broke within it. -/
structure Response where
  status : Nat
  body : Option String
  deriving DecidableEq, Repr

/-- The line between the parts of a message. -/
def boundary : String := "BOUNDARY"

/-- The name of a file inside quotes, with a backslash in front of quotes, line breaks and backslashes. -/
def quotedName (name : String) : String :=
  String.ofList (name.toList.flatMap fun c => if c ∈ ['"', '\r', '\n', '\\'] then ['\\', c] else [c])

namespace Payload

def contentType : Payload → Option String
  | .none => Option.none
  | .form _ => some "application/x-www-form-urlencoded"
  | .json _ => some "application/json"
  | .file _ _ => some "multipart/form-data"

/-- The bytes that are sent.  Texts are sent in UTF-8, the contents of a file as they are. -/
def body : Payload → ByteArray
  | .none => .empty
  | .form f => f.encode.toUTF8
  | .json j => j.compact.toUTF8
  | .file name contents =>
    let opening := "--" ++ boundary ++ "\r\nContent-Disposition: form-data; name=\"file\"; filename=\"" ++
      quotedName name ++ "\"\r\n\r\n"
    opening.toUTF8 ++ contents ++ ("\r\n--" ++ boundary ++ "--\r\n").toUTF8

end Payload

/-- The header of basic authentication. -/
def basicAuthorization (user password : String) : String :=
  "Basic " ++ String.ofList (Text.base64 (user ++ ":" ++ password).toUTF8.toList)

/-- Whether a status says that the request was done. -/
def Response.isSuccess (r : Response) : Bool := 200 ≤ r.status && r.status < 300

end EnergyGateway.Http
