import DocumentCatalog.Http.Message
import DocumentCatalog.Text.Numeral

/-!
Sharing responses with pages of other origins. Requests that name no origin are none of its
business; a browser asks with an OPTIONS request before it sends others.
-/

namespace DocumentCatalog
namespace Http

/-- What pages of other origins may do, and for how many seconds they may remember it. Names of
headers are in lower case. -/
structure Sharing where
  methods : List String
  headers : List String
  maxAge : Nat

namespace Sharing

/-- Whether a list of headers names an allowed one. A single one is enough. -/
def allowsHeaders (s : Sharing) (names : String) : Bool :=
  (Text.split ',' names).any fun name => s.headers.any (Request.sameName (Text.trim name) ·)

/-- The answer to a request that asks for permission. -/
def permission (s : Sharing) (origin : String) (request : Request) : Except Rejection Response :=
  if !((request.header? "access-control-request-method").any s.methods.contains) then
    .error .originMethod
  else if !((request.header? "access-control-request-headers").all s.allowsHeaders) then
    .error .originHeaders
  else
    .ok { status := 200
          headers :=
            [("access-control-allow-headers", String.intercalate ", " s.headers),
              ("access-control-allow-methods", String.intercalate ", " s.methods),
              ("access-control-allow-origin", origin),
              ("access-control-expose-headers", ""),
              ("access-control-max-age", Text.numeral s.maxAge)] }

/-- The headers that let a page of the origin see a response. -/
def sharedHeaders (origin : String) : List (String × String) :=
  [("access-control-allow-origin", origin), ("vary", "Origin")]

end Sharing
end Http
end DocumentCatalog
