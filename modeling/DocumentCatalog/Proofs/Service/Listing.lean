import DocumentCatalog.Proofs.Service.Parameters
import DocumentCatalog.Service.Site

/-!
Requests that list documents. They acquire a handle and answer with what it finds, whatever their
parameters say; every other request is answered without the pool.
-/

namespace DocumentCatalog

variable {World Handle : Type}

namespace Pool

variable {c : Connector World Handle} {pool : Pool Handle} {world : World} {cause : Failure}

theorem connectAlone_of_refused {events : List (Event Handle)} (hearlier : .refused cause ∉ events)
    (h : .refused cause ∈ (connectAlone c pool world events).events) :
    (connectAlone c pool world events).result = .error (pool.connectFailure cause) := by
  simp only [connectAlone] at h ⊢
  split at h <;> simp_all

theorem connectAlone_ok_or_refused (c : Connector World Handle) (pool : Pool Handle) (world : World)
    (events : List (Event Handle)) :
    (∃ handle, (connectAlone c pool world events).result = .ok handle) ∨
      ∃ cause, .refused cause ∈ (connectAlone c pool world events).events := by
  simp only [connectAlone]
  split <;> simp

theorem acquire_ok_or_refused (c : Connector World Handle) (pool : Pool Handle) (world : World) :
    (∃ handle, (acquire c pool world).result = .ok handle) ∨
      ∃ cause, .refused cause ∈ (acquire c pool world).events := by
  simp only [acquire]
  split
  · exact connectAlone_ok_or_refused _ _ _ _
  · split
    · exact .inl ⟨_, rfl⟩
    · split
      · exact .inl ⟨_, rfl⟩
      · exact connectAlone_ok_or_refused _ _ _ _

/-- A handle that is kept and answers is acquired, and so is one that is connected to for want of
another. -/
theorem acquire_of_available {handle : Handle}
    (h : pool.slot = some handle ∧ (c.ping handle world).1 = .ok () ∨
      pool.slot = none ∧ (c.connect world).1 = .ok handle) :
    (acquire c pool world).result = .ok handle := by
  obtain ⟨hslot, hping⟩ | ⟨hslot, hconnect⟩ := h
  · cases hresult : c.ping handle world with
    | mk result after =>
        rw [hresult] at hping
        cases hping
        simp only [acquire, hslot, hresult]
  · cases hresult : c.connect world with
    | mk result after =>
        rw [hresult] at hconnect
        cases hconnect
        simp only [acquire, hslot, connectAlone, hresult]

theorem acquire_of_refused (h : .refused cause ∈ (acquire c pool world).events) :
    (acquire c pool world).result = .error (pool.connectFailure cause) := by
  simp only [acquire] at h ⊢
  split at h
  · exact connectAlone_of_refused (by simp) h
  · split at h
    · simp at h
    · split at h
      · simp at h
      · exact connectAlone_of_refused (by simp) h

end Pool

namespace Service

theorem Route.ofPath?_eq_documents_iff {path : String} :
    Route.ofPath? path = some .documents ↔ path = "/" ∨ path = "/api/v1/documents" := by
  simp only [Route.ofPath?]
  split <;> simp_all

/-- A request for documents that is let through. -/
structure IsListing (request : Http.Request) : Prop where
  path : request.path = "/" ∨ request.path = "/api/v1/documents"
  method : request.method = "GET" ∨ request.method = "HEAD"
  once : Parameters.GivenOnce (Http.Form.pairs request.query)

theorem isListing_iff {request : Http.Request} :
    IsListing request ↔
      (request.path = "/" ∨ request.path = "/api/v1/documents") ∧
      (request.method = "GET" ∨ request.method = "HEAD") ∧
      Parameters.GivenOnce (Http.Form.pairs request.query) :=
  ⟨fun ⟨path, method, once⟩ => ⟨path, method, once⟩,
    fun ⟨path, method, once⟩ => ⟨path, method, once⟩⟩

instance (request : Http.Request) : Decidable (IsListing request) :=
  decidable_of_iff' _ isListing_iff

/-- The parameters of a listing. -/
def requested (request : Http.Request) : Parameters :=
  Parameters.stated (Http.Form.pairs request.query)

/-- The response to a listing with GET from the origin of the service. -/
def listing : Except Failure (List Json) → Http.Response
  | .ok documents => .ofJson 200 (.array documents)
  | .error failure => .ofJson 500 (failureBody failure)

/-- The form in which a response is sent: without a body after HEAD, and shared with the origin. -/
def presented (request : Http.Request) (response : Http.Response) : Http.Response :=
  let sent := if request.method = "HEAD" then { response with body := "" } else response
  match request.header? "origin" with
  | none => sent
  | some origin => sent.withHeaders (Http.Sharing.sharedHeaders origin)

theorem presented_status (request : Http.Request) (response : Http.Response) :
    (presented request response).status = response.status := by
  cases h : request.header? "origin" <;>
    simp only [presented, h, Http.Response.withHeaders] <;> split <;> rfl

theorem presented_body {request : Http.Request} (hget : request.method = "GET")
    (response : Http.Response) : (presented request response).body = response.body := by
  cases h : request.header? "origin" <;> simp [presented, h, hget, Http.Response.withHeaders]

namespace Site

variable {site : Site World Handle} {running : Running World Handle} {request : Http.Request}
  {params : Parameters}

/-- What the handle finds that is acquired for a listing. -/
def found (site : Site World Handle) (running : Running World Handle) (params : Parameters) :
    Except Failure (List Json) :=
  (running.pool.acquire site.backend.toConnector running.world).result.bind fun handle =>
    site.backend.find handle site.config.collection (requestPredicate params site.config)
      (findOptions params site.config)

theorem list_answer (site : Site World Handle) (running : Running World Handle)
    (params : Parameters) :
    (site.list running params).answer = .ok (listing (site.found running params)) := by
  simp only [list, found]
  cases (running.pool.acquire site.backend.toConnector running.world).result with
  | error failure => rfl
  | ok handle =>
      simp only [query, Except.bind]
      cases site.backend.find handle site.config.collection (requestPredicate params site.config)
        (findOptions params site.config) <;> rfl

theorem list_running (site : Site World Handle) (running : Running World Handle)
    (params : Parameters) :
    let acquired := running.pool.acquire site.backend.toConnector running.world
    (site.list running params).running = ⟨acquired.pool, acquired.world⟩ := by
  simp only [list]
  cases (running.pool.acquire site.backend.toConnector running.world).result <;> rfl

theorem get_documents (h : IsListing request) :
    site.get running .documents request.query = site.list running (requested request) := by
  simp [get, Parameters.ofPairs_of_givenOnce h.once, requested]

theorem serve_of_listing (h : IsListing request) :
    site.serve running request =
      if request.method = "HEAD" then withoutBody (site.list running (requested request))
      else site.list running (requested request) := by
  have hroute := Route.ofPath?_eq_documents_iff.mpr h.path
  rcases h.method with hmethod | hmethod <;> simp [serve, hroute, hmethod, get_documents h]

section
variable {World' Handle' : Type} {other : Site World' Handle'}

theorem get_of_not_listing {route : Route}
    (h : ¬ (route = .documents ∧ Parameters.GivenOnce (Http.Form.pairs request.query)))
    (hconfig : site.config = other.config) (running : Running World Handle)
    (running' : Running World' Handle') :
    let reply := other.get running' route request.query
    site.get running route request.query = ⟨reply.answer, reply.records, running⟩ := by
  cases route with
  | health => simp only [get, hconfig]
  | documents =>
      obtain ⟨parameter, _, herror⟩ :=
        Parameters.ofPairs_of_not_givenOnce fun honce => h ⟨rfl, honce⟩
      simp only [get, herror]

theorem serve_of_not_listing (h : ¬ IsListing request) (hconfig : site.config = other.config)
    (running : Running World Handle) (running' : Running World' Handle') :
    let reply := other.serve running' request
    site.serve running request = ⟨reply.answer, reply.records, running⟩ := by
  cases hroute : Route.ofPath? request.path with
  | none => simp only [serve, hroute]
  | some route =>
      by_cases hmethod : request.method = "GET" ∨ request.method = "HEAD"
      · have hget : site.get running route request.query =
            let reply := other.get running' route request.query
            ⟨reply.answer, reply.records, running⟩ := by
          refine get_of_not_listing ?_ hconfig running running'
          rintro ⟨rfl, honce⟩
          exact h ⟨Route.ofPath?_eq_documents_iff.mp hroute, hmethod, honce⟩
        rcases hmethod with hmethod | hmethod <;> simp [serve, hroute, hmethod, hget, withoutBody]
      · obtain ⟨hget, hhead⟩ := not_or.mp hmethod
        simp [serve, hroute, hget, hhead]

/-- A request that is no listing is answered the same over any store, whatever is kept, and leaves
it as it is. -/
theorem handle_of_not_listing (h : ¬ IsListing request) (hconfig : site.config = other.config)
    (running : Running World Handle) (running' : Running World' Handle') :
    site.handle running request =
      ((other.handle running' request).1, (other.handle running' request).2.1, running) := by
  have hserve : site.serve running request =
      let reply := other.serve running' request
      ⟨reply.answer, reply.records, running⟩ :=
    serve_of_not_listing h hconfig running running'
  cases horigin : request.header? "origin" with
  | none =>
      simp only [handle, serveOrigin, horigin, hserve]
      cases (other.serve running' request).answer <;> rfl
  | some origin =>
      by_cases hoptions : request.method = "OPTIONS"
      · simp only [handle, serveOrigin, horigin, hoptions]
        cases sharing.permission origin request <;> rfl
      · simp only [handle, serveOrigin, horigin, hoptions, hserve]
        rfl

end

theorem kept_of_not_listing (h : ¬ IsListing request) (running : Running World Handle) :
    (site.handle running request).2.2 = running :=
  congrArg (·.2.2) (handle_of_not_listing h (Eq.refl site.config) running running)

theorem handle_of_listing (h : IsListing request) (running : Running World Handle) :
    (site.handle running request).1 =
        presented request (listing (site.found running (requested request))) ∧
      (site.handle running request).2.2 = (site.list running (requested request)).running := by
  have hanswer := list_answer site running (requested request)
  cases horigin : request.header? "origin" <;> rcases h.method with hmethod | hmethod <;>
    simp [handle, serveOrigin, share, horigin, serve_of_listing h, withoutBody, hmethod, hanswer,
      Except.map, presented]

theorem found_of_refused {cause : Failure}
    (h : .refused cause ∈
      (running.pool.acquire site.backend.toConnector running.world).events) :
    site.found running params =
      .error (cause.under ("Failed to connect to " ++ running.pool.description)) := by
  simp only [found, Pool.acquire_of_refused h]
  rfl

theorem found_of_acquired {handle : Handle}
    (h : (running.pool.acquire site.backend.toConnector running.world).result = .ok handle) :
    site.found running params =
      site.backend.find handle site.config.collection (requestPredicate params site.config)
        (findOptions params site.config) := by
  simp only [found, h]
  rfl

/-- Documents are listed with GET under both of the paths alike, and no text of a parameter makes it
fail: a store in memory answers with what its collection holds of them, and the only failures are
those of a connection and of the store itself. -/
theorem handle_get (site : Site World Handle) (running : Running World Handle) (query : String)
    (headers : List (String × String)) (honce : Parameters.GivenOnce (Http.Form.pairs query)) :
    let params := Parameters.stated (Http.Form.pairs query)
    let p := requestPredicate params site.config
    let options := findOptions params site.config
    let acquired := running.pool.acquire site.backend.toConnector running.world
    let response (path : String) := (site.handle running ⟨"GET", path, query, headers⟩).1
    response "/" = response "/api/v1/documents" ∧
    ((∃ handle, acquired.result = .ok handle) ∨ ∃ cause, .refused cause ∈ acquired.events) ∧
    (∀ handle,
      running.pool.slot = some handle ∧ (site.backend.ping handle running.world).1 = .ok () ∨
        running.pool.slot = none ∧ (site.backend.connect running.world).1 = .ok handle →
      acquired.result = .ok handle) ∧
    ∀ path, path = "/" ∨ path = "/api/v1/documents" →
      (∀ handle (c : Store.Collections), acquired.result = .ok handle →
        (∀ name p options, site.backend.find handle name p options = .ok (c.find name p options)) →
        (response path).status = 200 ∧
        (∀ documents, c.get? site.config.collection = some documents →
          (response path).body = (Json.array (Query.find documents p options)).compact) ∧
        (c.get? site.config.collection = none → (response path).body = "[]")) ∧
      (∀ cause, .refused cause ∈ acquired.events →
        (response path).status = 500 ∧
        (response path).body =
          (Json.object [("success", .bool false), ("data", .null),
            ("error", .string ("Failed to connect to " ++ running.pool.description ++ ": " ++
              cause.chain))]).compact) ∧
      (∀ handle failure, acquired.result = .ok handle →
        site.backend.find handle site.config.collection p options = .error failure →
        (response path).status = 500 ∧
        (response path).body =
          (Json.object [("success", .bool false), ("data", .null),
            ("error", .string failure.chain)]).compact) := by
  intro params p options acquired response
  have hlisting : ∀ path, path = "/" ∨ path = "/api/v1/documents" →
      IsListing ⟨"GET", path, query, headers⟩ :=
    fun path hpath => ⟨hpath, .inl rfl, honce⟩
  have hresponse : ∀ path, path = "/" ∨ path = "/api/v1/documents" →
      response path =
        presented ⟨"GET", "/", query, headers⟩ (listing (site.found running params)) :=
    fun path hpath => (handle_of_listing (hlisting path hpath) running).1
  refine ⟨(hresponse _ (.inl rfl)).trans (hresponse _ (.inr rfl)).symm,
    Pool.acquire_ok_or_refused _ _ _, fun _ => Pool.acquire_of_available, ?_⟩
  intro path hpath
  rw [hresponse path hpath, presented_status, presented_body rfl]
  refine ⟨?_, ?_, ?_⟩
  · intro handle c hacquired hmemory
    rw [found_of_acquired hacquired, hmemory]
    refine ⟨rfl, ?_, ?_⟩
    · intro documents hdocuments
      simp only [Store.Collections.find, hdocuments]
      rfl
    · intro hmissing
      simp only [Store.Collections.find, hmissing]
      rfl
  · intro cause hrefused
    rw [found_of_refused hrefused]
    exact ⟨rfl, rfl⟩
  · intro handle failure hacquired hfailure
    rw [found_of_acquired hacquired, hfailure]
    exact ⟨rfl, rfl⟩

/-- An unknown parameter, one that is no number and one that is no filter, over a store in memory
and over one that cannot be reached. -/
theorem handle_get_unusable :
    let query := "colour=blue&take=many&filter=_eq"
    let document : Json := .object [("_id", .string "a"), ("name", .string "Sam")]
    let c := Store.Collections.empty.insert "documents" [document]
    let site : Site Unit Store.Collections := ⟨.constant "store" c, {}⟩
    let unreachable : Site Unit Store.Collections := ⟨.unreachable "store" "no route", {}⟩
    let request : Http.Request := ⟨"GET", "/api/v1/documents", query, []⟩
    let response := (site.handle (site.start ()) request).1
    let failed := (unreachable.handle (unreachable.start ()) request).1
    Parameters.GivenOnce (Http.Form.pairs query) ∧
      response.status = 200 ∧ response.body = "[\x7b\"name\":\"Sam\"\x7d]" ∧
      failed.status = 500 ∧
      failed.body = "\x7b\"success\":false,\"data\":null," ++
        "\"error\":\"Failed to connect to store: no route\"\x7d" := by
  intro query document c site unreachable request response failed
  have honce : Parameters.GivenOnce (Http.Form.pairs query) := by decide
  have hparams : Parameters.stated (Http.Form.pairs query) =
      { take := some "many", filter := some "_eq" } := by decide
  have hp : requestPredicate { take := some "many", filter := some "_eq" } {} = .empty := rfl
  have hoptions : findOptions { take := some "many", filter := some "_eq" } {} =
      { limit := some 100, sort := [⟨"tokenid", .ascending⟩], exclude := ["_id"] } := rfl
  have hfind : Query.find [document] .empty
      { limit := some 100, sort := [⟨"tokenid", .ascending⟩], exclude := ["_id"] } =
        [.object [("name", .string "Sam")]] := by
    have hfilter : [document].filter (Filter.Predicate.selects .empty) = [document] := rfl
    simp only [Query.find, Query.sorted, hfilter, List.mergeSort_singleton]
    rfl
  obtain ⟨-, -, havailable, hserved⟩ := handle_get site (site.start ()) query [] honce
  obtain ⟨-, -, -, hunreachable⟩ :=
    handle_get unreachable (unreachable.start ()) query [] honce
  obtain ⟨hstatus, hbody, -⟩ :=
    (hserved _ (.inr rfl)).1 c c (havailable c (.inr ⟨rfl, rfl⟩)) fun _ _ _ => rfl
  obtain ⟨hfailed, herror⟩ := (hunreachable _ (.inr rfl)).2.1 ⟨"no route", []⟩
    (.tail _ (.tail _ (.head _)))
  refine ⟨honce, hstatus, ?_, hfailed, ?_⟩
  · rw [hbody [document] rfl, hparams, hp, hoptions, hfind]
    decide +kernel
  · refine herror.trans (?_ : (Json.object [("success", .bool false), ("data", .null),
      ("error", .string "Failed to connect to store: no route")]).compact = _)
    decide +kernel

end Site
end Service
end DocumentCatalog
