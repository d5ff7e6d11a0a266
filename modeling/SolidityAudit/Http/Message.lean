import SolidityAudit.Json.Value

/-!
# Requests and Responses

## Main definitions

* `Request`, `Request.header?`: A request and one of its headers.
* `Response`, `Response.setHeader`: A response with its headers.
-/

namespace SolidityAudit

namespace Http

/-- A request. The path is decoded, the query is not. -/
structure Request where
  method : String := "GET"
  path : String
  query : String := ""
  headers : List (String × String) := []
  body : List UInt8 := []
  /-- The host the request comes from, if it is known. -/
  client : Option String := none

/-- A name in lower case. -/
def lower (s : String) : String :=
  String.ofList (s.toList.map Char.toLower)

/-- The first header of a name, which is given in lower case. -/
def Request.header? (r : Request) (name : String) : Option String :=
  (r.headers.find? fun h => lower h.1 == name).map Prod.snd

/-- The body of a response. -/
inductive Body where
  | json (value : Json)
  | text (content : String)
  /-- A page of documentation, whose content is not part of the service. -/
  | page

/-- A response. Names of headers are in lower case. -/
structure Response where
  status : Nat
  headers : List (String × String) := []
  body : Body

namespace Response

/-- Sets a header in a list of them. -/
def setIn (name value : String) : List (String × String) → List (String × String)
  | [] => [(name, value)]
  | (n, v) :: r => if n = name then (n, value) :: r else (n, v) :: setIn name value r

/-- Sets a header. -/
def setHeader (r : Response) (name value : String) : Response :=
  { r with headers := setIn name value r.headers }

/-- Sets several headers. -/
def setHeaders (r : Response) (headers : List (String × String)) : Response :=
  headers.foldl (fun r h => r.setHeader h.1 h.2) r

/-- The value of a header. -/
def header? (r : Response) (name : String) : Option String :=
  (r.headers.find? fun h => h.1 == name).map Prod.snd

/-- A response with a JSON value. -/
def ofJson (status : Nat) (value : Json) : Response :=
  ⟨status, [("content-type", "application/json")], .json value⟩

/-- A response with plain text of a type. -/
def ofText (status : Nat) (type content : String) : Response :=
  ⟨status, [("content-type", type)], .text content⟩

end Response

end Http

end SolidityAudit
