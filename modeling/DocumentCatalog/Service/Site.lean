import DocumentCatalog.Http.Form
import DocumentCatalog.Http.Sharing
import DocumentCatalog.Pool.Alone
import DocumentCatalog.Service.Constraints
import DocumentCatalog.Service.Paging
import DocumentCatalog.Service.Record
import DocumentCatalog.Store.Backend

/-!
Answering requests. Two paths list the documents of a collection and one tells that the service
runs; they are read with GET, or with HEAD for the headers alone. Every request ends in a record.
-/

namespace DocumentCatalog
namespace Service

inductive Route where
  | documents | health
  deriving DecidableEq, Repr

/-- Paths are compared as they are written. -/
def Route.ofPath? (path : String) : Option Route :=
  if path = "/" ∨ path = "/api/v1/documents" then some .documents
  else if path = "/api/v1/health" then some .health
  else none

/-- What pages of other origins may do: read, with the usual headers. -/
def sharing : Http.Sharing where
  methods := ["GET"]
  headers := ["accept", "authorization", "content-type", "origin", "x-requested-with"]
  maxAge := 3600

def healthBody (config : Config) : Json :=
  .object [("success", .bool true), ("message", .string "Catalog API is running"),
    ("environment", .string config.environment)]

def failureBody (failure : Failure) : Json :=
  .object [("success", .bool false), ("data", .null), ("error", .string failure.chain)]

/-- A service over a store. -/
structure Site (World Handle : Type) where
  backend : Store.Backend World Handle
  config : Config

/-- What a service keeps between requests, in its world. -/
structure Running (World Handle : Type) where
  pool : Pool Handle
  world : World

/-- An answer, the records on the way to it, and what is kept then. -/
structure Reply (World Handle : Type) where
  answer : Except Http.Rejection Http.Response
  records : List Record
  running : Running World Handle

namespace Site

variable {World Handle : Type}

def start (site : Site World Handle) (world : World) : Running World Handle :=
  ⟨site.backend.pool, world⟩

/-- Queries a store, after telling what of the filter was dropped. -/
def query (site : Site World Handle) (handle : Handle) (params : Parameters) :
    Http.Response × List Record :=
  let dropped := ((compiledFilter? params).bind fun compiled =>
    Record.ofCompiled (params.filter.getD "") compiled).toList
  match site.backend.find handle site.config.collection (requestPredicate params site.config)
      (findOptions params site.config) with
  | .ok documents => (.ofJson 200 (.array documents), dropped)
  | .error failure =>
      (.ofJson 500 (failureBody failure),
        dropped ++ [.queryFailed site.config.collection failure])

/-- Lists documents, once there is a store to query. -/
def list (site : Site World Handle) (running : Running World Handle) (params : Parameters) :
    Reply World Handle :=
  let acquired := running.pool.acquire site.backend.toConnector running.world
  let records := Record.ofEvents running.pool.description acquired.events
  let running : Running World Handle := ⟨acquired.pool, acquired.world⟩
  match acquired.result with
  | .error failure =>
      ⟨.ok (.ofJson 500 (failureBody failure)), records ++ [.acquireFailed failure], running⟩
  | .ok handle =>
      let (response, told) := site.query handle params
      ⟨.ok response, records ++ told, running⟩

/-- Answers a request to a path that is known. -/
def get (site : Site World Handle) (running : Running World Handle) (route : Route)
    (query : String) : Reply World Handle :=
  match route with
  | .health => ⟨.ok (.ofJson 200 (healthBody site.config)), [], running⟩
  | .documents =>
      match Parameters.ofPairs (Http.Form.pairs query) with
      | .error duplicate => ⟨.error (.badQuery duplicate.message), [], running⟩
      | .ok params => site.list running params

/-- The answer to a HEAD request has no body; a rejection keeps its text. -/
def withoutBody (reply : Reply World Handle) : Reply World Handle :=
  { reply with answer := reply.answer.map fun response => { response with body := "" } }

/-- Answers a request without regard to its origin. -/
def serve (site : Site World Handle) (running : Running World Handle) (request : Http.Request) :
    Reply World Handle :=
  match Route.ofPath? request.path with
  | none => ⟨.error .notFound, [], running⟩
  | some route =>
      if request.method = "GET" then site.get running route request.query
      else if request.method = "HEAD" then withoutBody (site.get running route request.query)
      else ⟨.error .methodNotAllowed, [], running⟩

/-- Shares an answer with the origin; a rejection becomes a response like others. -/
def share (origin : String) (reply : Reply World Handle) : Reply World Handle :=
  let response := match reply.answer with
    | .ok response => response
    | .error rejection => rejection.response
  { reply with answer := .ok (response.withHeaders (Http.Sharing.sharedHeaders origin)) }

/-- Answers a request with regard to its origin. -/
def serveOrigin (site : Site World Handle) (running : Running World Handle)
    (request : Http.Request) : Reply World Handle :=
  match request.header? "origin" with
  | none => site.serve running request
  | some origin =>
      if request.method = "OPTIONS" then ⟨sharing.permission origin request, [], running⟩
      else share origin (site.serve running request)

/-- The response to a request, all records of it, and what is kept then. -/
def handle (site : Site World Handle) (running : Running World Handle) (request : Http.Request) :
    Http.Response × List Record × Running World Handle :=
  let reply := site.serveOrigin running request
  match reply.answer with
  | .ok response =>
      (response, reply.records ++ [.ofRequest request response.status none], reply.running)
  | .error rejection =>
      (rejection.response, reply.records ++ [.ofRequest request rejection.status rejection],
        reply.running)

/-- Drops the connection to the store. -/
def disconnect (site : Site World Handle) (running : Running World Handle) :
    Running World Handle :=
  { running with
    pool := running.pool.disconnect site.backend.toConnector running.world }

end Site
end Service
end DocumentCatalog
