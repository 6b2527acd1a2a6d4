import DocumentCatalog.Json.Printer
import DocumentCatalog.Text.Split

/-!
Requests and the responses to them.
-/

namespace DocumentCatalog
namespace Http

structure Request where
  method : String
  path : String
  query : String
  headers : List (String × String) := []
  deriving DecidableEq, Repr

namespace Request

/-- Characters of the scheme that a URI may start with. -/
def isSchemeChar (c : Char) : Bool :=
  c.isAlphanum || c == '+' || c == '-' || c == '.'

/-- What a URI asks a host for. One that starts with neither a slash nor a scheme is the host alone
and asks for nothing. -/
def resource (uri : String) : String :=
  let cs := uri.toList
  if cs.head? = some '/' ∨ cs = ['*'] then uri
  else
    match cs.dropWhile isSchemeChar with
    | ':' :: '/' :: '/' :: rest =>
        let target := rest.dropWhile fun c => c != '/' && c != '?' && c != '#'
        String.ofList (if target.head? = some '/' then target else '/' :: target)
    | _ => ""

/-- A request to a URI. The query follows the first question mark; a fragment does not count. -/
def ofUri (method uri : String) (headers : List (String × String)) : Request :=
  let (target, _) := Text.splitFirst '#' (resource uri)
  let (path, query) := Text.splitFirst '?' target
  { method, path, query, headers }

/-- Names of headers are the same in either case. -/
def sameName (x y : String) : Bool :=
  x.toList.map Char.toLower == y.toList.map Char.toLower

/-- The first value of a header. -/
def header? (r : Request) (name : String) : Option String :=
  (r.headers.find? fun header => sameName header.1 name).map (·.2)

end Request

structure Response where
  status : Nat
  headers : List (String × String) := []
  body : String := ""
  deriving DecidableEq, Repr

namespace Response

def ofText (status : Nat) (text : String) : Response :=
  { status, headers := [("content-type", "text/plain; charset=utf-8")], body := text }

def ofJson (status : Nat) (value : Json) : Response :=
  { status, headers := [("content-type", "application/json; charset=utf-8")]
    body := value.compact }

def withHeaders (r : Response) (headers : List (String × String)) : Response :=
  { r with headers := r.headers ++ headers }

end Response

/-- Why a request is not let through to what it asks for. -/
inductive Rejection where
  | notFound
  | methodNotAllowed
  | badQuery (message : String)
  | originMethod
  | originHeaders
  deriving DecidableEq, Repr

namespace Rejection

def status : Rejection → Nat
  | .notFound => 404
  | .methodNotAllowed => 405
  | .badQuery _ => 400
  | .originMethod | .originHeaders => 403

def message : Rejection → String
  | .notFound => "not found"
  | .methodNotAllowed => "method not allowed"
  | .badQuery message => message
  | .originMethod => "request-method not allowed"
  | .originHeaders => "request-headers not allowed"

def response (r : Rejection) : Response :=
  .ofText r.status r.message

end Rejection
end Http
end DocumentCatalog
