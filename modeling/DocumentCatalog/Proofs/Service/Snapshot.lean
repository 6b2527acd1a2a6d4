import DocumentCatalog.Proofs.Service.Listing
import DocumentCatalog.Service.Session
import Mathlib.Data.List.Induction

/-!
Answers from the files of a directory. A listing that finds no store in the pool loads the files as
they are then, and what was loaded answers until the connection is dropped.
-/

namespace DocumentCatalog

variable {World Handle : Type}

/-- The same store in worlds that also hold the worlds in which it was connected to. -/
def Store.Backend.watched (b : Backend World Handle) : Backend (World × List World) Handle where
  description := b.description
  connect world :=
    let (result, after) := b.connect world.1
    (result, after, world.2 ++ [world.1])
  ping handle world :=
    let (result, after) := b.ping handle world.1
    (result, after, world.2)
  find := b.find

namespace Pool

theorem acquire_watched (b : Store.Backend World Handle) (pool : Pool Handle) (world : World)
    (told : List World) :
    let acquired := acquire b.toConnector pool world
    let watched := acquire b.watched.toConnector pool (world, told)
    watched.result = acquired.result ∧ watched.pool = acquired.pool ∧
      watched.world.1 = acquired.world ∧ watched.events = acquired.events := by
  have hconnect : ∀ world told events,
      let acquired := connectAlone b.toConnector pool world events
      let watched := connectAlone b.watched.toConnector pool (world, told) events
      watched.result = acquired.result ∧ watched.pool = acquired.pool ∧
        watched.world.1 = acquired.world ∧ watched.events = acquired.events := by
    intro world told events
    rcases hconnect : b.connect world with ⟨_ | handle, after⟩ <;>
      simp [connectAlone, Store.Backend.watched, hconnect]
  cases hslot : pool.slot with
  | none => simpa only [acquire, hslot] using hconnect world told _
  | some handle =>
      rcases hfirst : b.ping handle world with ⟨first | _, after⟩
      · rcases hsecond : b.ping handle after with ⟨second | _, last⟩
        · simpa [acquire, hslot, Store.Backend.watched, hfirst, hsecond] using hconnect last told _
        · simp [acquire, hslot, Store.Backend.watched, hfirst, hsecond]
      · simp [acquire, hslot, Store.Backend.watched, hfirst]

/-- No call of the pool runs. -/
structure Idle (pool : Pool Handle) : Prop where
  owner : pool.owner = none
  calls : pool.calls = []

theorem Idle.disconnect {pool : Pool Handle} (h : pool.Idle) (c : Connector World Handle)
    (world : World) : pool.disconnect c world = { description := pool.description } := by
  obtain ⟨description, slot, owner, calls⟩ := pool
  obtain ⟨rfl, rfl⟩ := h
  exact disconnect_eq c description slot world

variable (path : String) (pool : Pool Store.Collections) (node : Store.Node)

theorem acquire_directory :
    let acquired := acquire (Store.Backend.directory path).toConnector pool node
    acquired.result = (match pool.slot with
      | some c => .ok c
      | none => (Store.load path node).mapError fun error => pool.connectFailure error.failure) ∧
    acquired.pool = { pool with slot := pool.slot.or (Store.load path node).toOption } ∧
    acquired.world = node := by
  obtain ⟨description, _ | c, owner, calls⟩ := pool
  · cases hload : Store.load path node <;>
      simp [acquire, connectAlone, Store.Backend.directory, Store.Backend.answering, hload,
        Except.mapError, Except.toOption]
  · simp [acquire, Store.Backend.directory, Store.Backend.answering]

/-- A connection is made, and the directory loaded, exactly if the pool keeps nothing. -/
theorem acquire_watched_directory (told : List Store.Node) :
    (acquire (Store.Backend.directory path).watched.toConnector pool (node, told)).world.2 =
      told ++ if pool.slot = none then [node] else [] := by
  obtain ⟨description, _ | c, owner, calls⟩ := pool
  · cases hload : Store.load path node <;>
      simp [acquire, connectAlone, Store.Backend.watched, Store.Backend.directory,
        Store.Backend.answering, hload, Except.mapError]
  · simp [acquire, Store.Backend.watched, Store.Backend.directory, Store.Backend.answering]

end Pool

namespace Service
namespace Site

/-- The same service over a store that is watched. -/
def watched (site : Site World Handle) : Site (World × List World) Handle :=
  ⟨site.backend.watched, site.config⟩

/-- The worlds in which a request connects to the store. -/
def connects (site : Site World Handle) (running : Running World Handle) (request : Http.Request) :
    List World :=
  (site.watched.handle ⟨running.pool, running.world, []⟩ request).2.2.world.2

/-- Watching changes neither what is answered nor what is kept. -/
theorem handle_watched (site : Site World Handle) (running : Running World Handle)
    (request : Http.Request) :
    let handled := site.handle running request
    let watched := site.watched.handle ⟨running.pool, running.world, []⟩ request
    watched.1 = handled.1 ∧ watched.2.2.pool = handled.2.2.pool ∧
      watched.2.2.world.1 = handled.2.2.world := by
  intro handled watched
  by_cases hlisting : IsListing request
  · obtain ⟨hresult, hpool, hworld, -⟩ :=
      Pool.acquire_watched site.backend running.pool running.world []
    obtain ⟨hresponse, hkept⟩ : handled.1 = _ ∧ handled.2.2 = _ := handle_of_listing hlisting _
    obtain ⟨hresponse', hkept'⟩ : watched.1 = _ ∧ watched.2.2 = _ := handle_of_listing hlisting _
    rw [hresponse, hresponse', hkept, hkept', list_running, list_running]
    refine ⟨?_, hpool, hworld⟩
    simp only [found, Site.watched, hresult]
    rfl
  · have hconfig : site.watched.config = site.config := rfl
    have hwatched : watched = (handled.1, handled.2.1, ⟨running.pool, running.world, []⟩) :=
      handle_of_not_listing hlisting hconfig _ running
    rw [hwatched, kept_of_not_listing hlisting]
    exact ⟨rfl, rfl, rfl⟩

/-- What is kept after some steps. -/
def after (site : Site Store.Node Handle) (running : Running Store.Node Handle)
    (steps : List Step) : Running Store.Node Handle :=
  steps.foldl (fun running step => (site.step running step).2) running

/-- The contents of the directory that a step loads. -/
def loadsOf (site : Site Store.Node Handle) (running : Running Store.Node Handle) :
    Step → List Store.Node
  | .request request => site.connects running request
  | .write _ _ | .disconnect => []

/-- The contents of the directory that some steps load, in their order. -/
def loads (site : Site Store.Node Handle) (running : Running Store.Node Handle) :
    List Step → List Store.Node
  | [] => []
  | first :: rest => site.loadsOf running first ++ site.loads (site.step running first).2 rest

section
variable (site : Site Store.Node Handle) (running : Running Store.Node Handle)

theorem after_append (steps more : List Step) :
    site.after running (steps ++ more) = site.after (site.after running steps) more :=
  List.foldl_append

theorem after_concat (steps : List Step) (step : Step) :
    site.after running (steps ++ [step]) = (site.step (site.after running steps) step).2 :=
  after_append site running steps [step]

theorem loads_append (steps more : List Step) :
    site.loads running (steps ++ more) =
      site.loads running steps ++ site.loads (site.after running steps) more := by
  induction steps generalizing running with
  | nil => rfl
  | cons first rest ih =>
      simp only [List.cons_append, loads, ih, List.append_assoc, after, List.foldl_cons]

theorem loads_concat (steps : List Step) (step : Step) :
    site.loads running (steps ++ [step]) =
      site.loads running steps ++ site.loadsOf (site.after running steps) step := by
  rw [loads_append]
  simp only [loads, List.append_nil]

theorem steps_append (steps more : List Step) :
    site.steps running (steps ++ more) =
      site.steps running steps ++ site.steps (site.after running steps) more := by
  induction steps generalizing running with
  | nil => rfl
  | cons first rest ih => simp only [List.cons_append, Site.steps, ih, after, List.foldl_cons]

theorem length_steps (steps : List Step) : (site.steps running steps).length = steps.length := by
  induction steps generalizing running with
  | nil => rfl
  | cons first rest ih => simp only [Site.steps, List.length_cons, ih]

end

/-- A service over the files of a directory. -/
def ofDirectory (path : String) (config : Config) : Site Store.Node Store.Collections :=
  ⟨.directory path, config⟩

end Site

/-- A directory after the writes among some steps. -/
def written (directory : Store.Node) (steps : List Step) : Store.Node :=
  steps.foldl (fun node step => match step with
    | .write name octets => node.write name octets
    | .disconnect | .request _ => node) directory

/-- What the last load came to that did not fail. -/
def lastLoaded (path : String) (loads : List Store.Node) : Option Store.Collections :=
  (loads.filterMap fun node => (Store.load path (some node)).toOption).getLast?

theorem lastLoaded_nil (path : String) : lastLoaded path [] = none :=
  rfl

theorem lastLoaded_singleton (path : String) (node : Store.Node) :
    lastLoaded path [node] = (Store.load path (some node)).toOption := by
  cases h : (Store.load path (some node)).toOption <;> simp [lastLoaded, h]

theorem lastLoaded_append (path : String) (loads more : List Store.Node) :
    lastLoaded path (loads ++ more) = (lastLoaded path more).or (lastLoaded path loads) := by
  simp only [lastLoaded, List.filterMap_append, List.getLast?_append]

namespace Site

variable {path : String} {config : Config}
  {running : Running Store.Node Store.Collections} {request : Http.Request}

theorem kept_of_listing (h : IsListing request) (running : Running Store.Node Store.Collections) :
    let site := ofDirectory path config
    let loaded := Store.load path (some running.world)
    (site.handle running request).2.2 =
      ⟨{ running.pool with slot := running.pool.slot.or loaded.toOption }, running.world⟩ := by
  intro site loaded
  obtain ⟨-, hpool, hworld⟩ := Pool.acquire_directory path running.pool running.world
  rw [(handle_of_listing h running).2, list_running]
  exact congrArg₂ Running.mk hpool hworld

theorem connects_directory (running : Running Store.Node Store.Collections)
    (request : Http.Request) :
    (ofDirectory path config).connects running request =
      if IsListing request ∧ running.pool.slot = none then [running.world] else [] := by
  by_cases h : IsListing request
  · rw [connects, (handle_of_listing h _).2, list_running]
    simp only [h, true_and]
    exact Pool.acquire_watched_directory path running.pool running.world []
  · rw [connects, kept_of_not_listing h]
    simp [h]

/-- What a request makes of the store in the pool. -/
theorem step_request (running : Running Store.Node Store.Collections) (request : Http.Request) :
    ((ofDirectory path config).step running (.request request)).2 =
      if IsListing request then
        let loaded := Store.load path (some running.world)
        ⟨{ running.pool with slot := running.pool.slot.or loaded.toOption }, running.world⟩
      else running := by
  split
  next h => exact kept_of_listing h running
  next h => exact kept_of_not_listing h running

theorem step_disconnect (h : running.pool.Idle) :
    ((ofDirectory path config).step running .disconnect).2 =
      ⟨{ description := running.pool.description }, running.world⟩ := by
  simp only [step, disconnect, h.disconnect]

theorem idle_step (h : running.pool.Idle) (step : Step) :
    ((ofDirectory path config).step running step).2.pool.Idle := by
  cases step with
  | write name octets => exact h
  | disconnect =>
      rw [step_disconnect h]
      exact ⟨rfl, rfl⟩
  | request request =>
      rw [step_request]
      split
      · exact ⟨h.owner, h.calls⟩
      · exact h

theorem world_step (running : Running Store.Node Store.Collections) (step : Step) :
    ((ofDirectory path config).step running step).2.world = written running.world [step] := by
  cases step with
  | write name octets => rfl
  | disconnect => simp only [step, disconnect, written, List.foldl_cons, List.foldl_nil]
  | request request =>
      rw [step_request]
      split <;> rfl

/-- The pool keeps what a step loads, if the load succeeds, and what it kept before otherwise. -/
theorem slot_step {step : Step} (hstep : step ≠ .disconnect) :
    let site := ofDirectory path config
    (site.step running step).2.pool.slot =
      (lastLoaded path (site.loadsOf running step)).or running.pool.slot := by
  cases step with
  | write name octets => rfl
  | disconnect => exact absurd rfl hstep
  | request request =>
      simp only [step_request, loadsOf, connects_directory]
      by_cases hlisting : IsListing request
      · -- a store that is kept is never loaded again, so no load can come before it
        cases running.pool.slot with
        | none => simp [hlisting, lastLoaded_singleton]
        | some c => simp [hlisting, lastLoaded_nil]
      · simp [hlisting, lastLoaded_nil]

theorem slot_step_some {step : Step} {c : Store.Collections} (hslot : running.pool.slot = some c)
    (hstep : step ≠ .disconnect) :
    ((ofDirectory path config).step running step).2.pool.slot = some c := by
  have hloads : (ofDirectory path config).loadsOf running step = [] := by
    cases step <;> simp [loadsOf, connects_directory, hslot]
  rw [slot_step hstep, hloads, lastLoaded_nil, hslot]
  rfl

variable {steps : List Step}

theorem idle_after (h : running.pool.Idle) (steps : List Step) :
    ((ofDirectory path config).after running steps).pool.Idle := by
  induction steps generalizing running with
  | nil => exact h
  | cons first rest ih => exact ih (idle_step h first)

theorem world_after (running : Running Store.Node Store.Collections) (steps : List Step) :
    ((ofDirectory path config).after running steps).world = written running.world steps := by
  induction steps generalizing running with
  | nil => rfl
  | cons first rest ih => exact (ih _).trans (congrArg (written · rest) (world_step running first))

theorem slot_after (hslot : running.pool.slot = none) (hsteps : .disconnect ∉ steps) :
    let site := ofDirectory path config
    (site.after running steps).pool.slot = lastLoaded path (site.loads running steps) := by
  induction steps using List.reverseRecOn with
  | nil => exact hslot
  | append_singleton steps step ih =>
      obtain ⟨hsteps, hstep⟩ : Step.disconnect ∉ steps ∧ step ≠ .disconnect := by
        simpa [eq_comm] using hsteps
      simp only [after_concat, loads_concat, slot_step hstep, lastLoaded_append, ih hsteps]

theorem slot_after_some {c : Store.Collections} (hslot : running.pool.slot = some c)
    (hsteps : .disconnect ∉ steps) :
    ((ofDirectory path config).after running steps).pool.slot = some c := by
  induction steps generalizing running with
  | nil => exact hslot
  | cons first rest ih =>
      obtain ⟨hfirst, hrest⟩ := not_or.mp (mt List.mem_cons.mpr hsteps)
      exact ih (slot_step_some hslot (Ne.symm hfirst)) hrest

/-- Whatever the pool keeps is what was loaded last. The converse fails, since a disconnect drops
what was loaded. -/
theorem lastLoaded_of_slot {c : Store.Collections} (hidle : running.pool.Idle)
    (hempty : running.pool.slot = none) :
    let site := ofDirectory path config
    (site.after running steps).pool.slot = some c →
      lastLoaded path (site.loads running steps) = some c := by
  intro site hslot
  -- on the end of the run, where the step decides what is kept and what was loaded last
  induction steps using List.reverseRecOn with
  | nil => simp [after, hempty] at hslot
  | append_singleton steps step ih =>
      rw [after_concat] at hslot
      rw [loads_concat, lastLoaded_append]
      by_cases hstep : step = .disconnect
      · subst hstep
        rw [step_disconnect (idle_after hidle steps)] at hslot
        cases hslot
      · rw [slot_step hstep] at hslot
        obtain hloaded | ⟨hnone, hkept⟩ := Option.or_eq_some_iff.mp hslot
        · exact Option.or_eq_some_iff.mpr (.inl hloaded)
        · exact Option.or_eq_some_iff.mpr (.inr ⟨hnone, ih hkept⟩)

/-- What a listing finds in the pool or loads, and answers from. -/
def Finds (path : String) (running : Running Store.Node Store.Collections)
    (c : Store.Collections) : Prop :=
  running.pool.slot = some c ∨
    running.pool.slot = none ∧ Store.load path (some running.world) = .ok c

def answerOf (config : Config) (request : Http.Request) (c : Store.Collections) : Http.Response :=
  let params := requested request
  presented request (.ofJson 200 (.array (c.find config.collection (requestPredicate params config)
    (findOptions params config))))

theorem handle_of_finds (h : IsListing request) {c : Store.Collections}
    (hfinds : Finds path running c) :
    let site := ofDirectory path config
    (site.handle running request).1 = answerOf config request c ∧
      (site.handle running request).2.2.pool.slot = some c := by
  intro site
  constructor
  · have hresult :
        (running.pool.acquire site.backend.toConnector running.world).result = .ok c := by
      refine (Pool.acquire_directory path running.pool running.world).1.trans ?_
      obtain hslot | ⟨hslot, hload⟩ := hfinds
      · rw [hslot]
      · rw [hslot, hload]
        rfl
    rw [(handle_of_listing h running).1, found_of_acquired hresult]
    rfl
  · rw [kept_of_listing h]
    obtain hslot | ⟨hslot, hload⟩ := hfinds
    · rw [hslot]
      rfl
    · rw [hslot, hload]
      rfl

theorem handle_of_load_error (h : IsListing request) {error : Store.LoadError}
    (hslot : running.pool.slot = none)
    (hload : Store.load path (some running.world) = .error error) :
    let site := ofDirectory path config
    (site.handle running request).1.status = 500 ∧
      (site.handle running request).2.2.pool.slot = none := by
  intro site
  constructor
  · have hresult : (running.pool.acquire site.backend.toConnector running.world).result =
        .error (running.pool.connectFailure error.failure) := by
      refine (Pool.acquire_directory path running.pool running.world).1.trans ?_
      rw [hslot, hload]
      rfl
    have hfound : site.found running (requested request) =
        .error (running.pool.connectFailure error.failure) := by
      rw [found, hresult]
      rfl
    rw [(handle_of_listing h running).1, presented_status, hfound]
    rfl
  · rw [kept_of_listing h, hslot, hload]
    rfl

theorem finds_or_load_error (path : String) (running : Running Store.Node Store.Collections) :
    (∃ c, Finds path running c) ∨
      running.pool.slot = none ∧
        ∃ error, Store.load path (some running.world) = .error error := by
  cases hslot : running.pool.slot with
  | some c => exact .inl ⟨c, .inl hslot⟩
  | none =>
      cases hload : Store.load path (some running.world) with
      | ok c => exact .inl ⟨c, .inr ⟨hslot, hload⟩⟩
      | error error => exact .inr ⟨rfl, error, rfl⟩

theorem answerOf_status (config : Config) (request : Http.Request) (c : Store.Collections) :
    (answerOf config request c).status = 200 :=
  presented_status _ _

/-- A service over the files of a directory, after any steps. A listing loads the directory exactly
if nothing is kept, which is so from the start or a disconnect until a load succeeds; it answers
from the load that succeeded last, and fails where its own load fails. What is kept answers all
later requests, whatever is written, until the connection is dropped; and no other request than a
listing comes to it. -/
theorem ofDirectory_snapshot (path : String) (config : Config) (directory : Store.Node)
    (steps : List Step) :
    let site := ofDirectory path config
    let start := site.start directory
    let running := site.after start steps
    (∀ step, site.loads start (steps ++ [step]) = site.loads start steps ++ match step with
      | .request request =>
          if IsListing request ∧ running.pool.slot = none then [written directory steps] else []
      | .write _ _ | .disconnect => []) ∧
    (∀ earlier later, steps = earlier ++ later →
      earlier = [] ∨ earlier.getLast? = some .disconnect → .disconnect ∉ later →
      running.pool.slot = lastLoaded path (site.loads (site.after start earlier) later)) ∧
    (∀ request, IsListing request →
      let params := requested request
      let response := (site.handle running request).1
      let next := site.after start (steps ++ [.request request])
      (response.status = 200 → ∃ c,
        lastLoaded path (site.loads start (steps ++ [.request request])) = some c ∧
        response = presented request (.ofJson 200 (.array (c.find config.collection
          (requestPredicate params config) (findOptions params config))))) ∧
      (∀ c, running.pool.slot = some c ∨
        running.pool.slot = none ∧ Store.load path (some (written directory steps)) = .ok c →
        response.status = 200) ∧
      (∀ error, running.pool.slot = none →
        Store.load path (some (written directory steps)) = .error error →
        response.status = 500 ∧ next.pool.slot = none)) ∧
    (∀ c later, running.pool.slot = some c → .disconnect ∉ later →
      ∀ request, (site.handle (site.after running later) request).1 =
        (site.handle running request).1) ∧
    (∀ request, ¬ IsListing request → (site.handle running request).2.2 = running) ∧
    ∀ request more, (site.session directory (steps ++ .request request :: more))[steps.length]? =
      some (.answered (site.handle running request).1 (site.handle running request).2.1) := by
  intro site start running
  have hidle : start.pool.Idle := ⟨rfl, rfl⟩
  have hworld : running.world = written directory steps := world_after start steps
  refine ⟨?_, ?_, ?_, ?_, ?_, ?_⟩
  · intro step
    rw [loads_concat, ← hworld]
    cases step with
    | write name octets | disconnect => rfl
    | request request => exact congrArg _ (connects_directory running request)
  · rintro earlier later rfl hearlier hlater
    have hempty : (site.after start earlier).pool.slot = none := by
      obtain rfl | hlast := hearlier
      · rfl
      · obtain ⟨before, rfl⟩ := List.getLast?_eq_some_iff.mp hlast
        rw [after_concat, step_disconnect (idle_after hidle before)]
    rw [← slot_after hempty hlater, ← after_append]
  · intro request hlisting params response next
    have hnext : next = (site.handle running request).2.2 :=
      after_concat site start steps (.request request)
    rw [← hworld]
    refine ⟨?_, ?_, ?_⟩
    · intro hstatus
      obtain ⟨c, hfinds⟩ | ⟨hslot, error, hload⟩ := finds_or_load_error path running
      · obtain ⟨hresponse, hkept⟩ : response = answerOf config request c ∧ _ :=
          handle_of_finds hlisting hfinds
        rw [← hnext] at hkept
        exact ⟨c, lastLoaded_of_slot hidle rfl hkept, hresponse⟩
      · have hfailed : response.status = 500 :=
          (handle_of_load_error hlisting hslot hload).1
        simp [hfailed] at hstatus
    · intro c hfinds
      have hresponse : response = answerOf config request c :=
        (handle_of_finds hlisting hfinds).1
      rw [hresponse, answerOf_status]
    · intro error hslot hload
      rw [hnext]
      exact handle_of_load_error hlisting hslot hload
  · intro c later hslot hlater request
    by_cases hlisting : IsListing request
    · have hkept : (site.after running later).pool.slot = some c :=
        slot_after_some hslot hlater
      exact (handle_of_finds hlisting (.inl hkept)).1.trans
        (handle_of_finds hlisting (.inl hslot)).1.symm
    · rw [handle_of_not_listing hlisting rfl _ running]
  · exact fun request hlisting => kept_of_not_listing hlisting running
  · intro request more
    have hlength := length_steps site start steps
    rw [session, steps_append, List.getElem?_append_right (Nat.le_of_eq hlength), hlength,
      Nat.sub_self]
    rfl

/-- A file that is mended after it could not be read, and written once more after it was. -/
theorem ofDirectory_snapshot_mended :
    let name := Text.Utf8.encode "documents.json"
    let file (text : String) : Store.Node := .file (Text.Utf8.encode text)
    let directory : Store.Node := .directory [(name, file "[")]
    let list : Http.Request := ⟨"GET", "/", "", []⟩
    let mended : List Step := [.request list, .write name (Text.Utf8.encode "[\"old\"]")]
    let loaded := mended ++ [.request list]
    let later : List Step := [.write name (Text.Utf8.encode "[\"new\"]")]
    let site := ofDirectory "data" {}
    let start := site.start directory
    (site.handle start list).1.status = 500 ∧
      (site.handle (site.after start mended) list).1.status = 200 ∧
      site.loads start loaded = [directory, .directory [(name, file "[\"old\"]")]] ∧
      (site.handle (site.after (site.after start loaded) later) list).1 =
        (site.handle (site.after start loaded) list).1 := by
  intro name file directory list mended loaded later site start
  have hlisting : IsListing list := by decide
  have hbroken : Store.load "data" (some directory) =
      .error (.noDocuments "data/documents.json" ⟨.endInArray, 1, 1⟩) := rfl
  have hmended : written directory mended = .directory [(name, file "[\"old\"]")] := rfl
  have hload : Store.load "data" (some (written directory mended)) =
      .ok (Store.Collections.empty.insert "documents" [.string "old"]) := rfl
  obtain ⟨hloads₀, -, hlist₀, -⟩ := ofDirectory_snapshot "data" {} directory []
  obtain ⟨hloads₁, -⟩ := ofDirectory_snapshot "data" {} directory [.request list]
  obtain ⟨hloads₂, -, hlist₂, -⟩ := ofDirectory_snapshot "data" {} directory mended
  obtain ⟨-, hslot₃, -, hkept₃, -⟩ := ofDirectory_snapshot "data" {} directory loaded
  obtain ⟨hfailed, hslot₁⟩ := (hlist₀ list hlisting).2.2 _ rfl hbroken
  have hslot₂ : (site.after start mended).pool.slot = none := hslot₁
  have hanswered : (site.handle (site.after start mended) list).1.status = 200 :=
    (hlist₂ list hlisting).2.1 _ (.inr ⟨hslot₂, hload⟩)
  obtain ⟨c, hlast, -⟩ := (hlist₂ list hlisting).1 hanswered
  refine ⟨hfailed, hanswered, ?_, ?_⟩
  · have hfirst : site.loads start [.request list] = [directory] :=
      (hloads₀ (.request list)).trans (congrArg ([] ++ ·) (if_pos ⟨hlisting, rfl⟩))
    have hsecond : site.loads start mended = [directory] :=
      (hloads₁ _).trans (congrArg (· ++ []) hfirst)
    refine (hloads₂ (.request list)).trans ?_
    rw [hsecond, ← hmended]
    exact congrArg _ (if_pos ⟨hlisting, hslot₂⟩)
  · have hslot := hslot₃ [] loaded rfl (.inl rfl) (by simp [loaded, mended])
    exact hkept₃ c later (hslot.trans hlast) (by simp [later]) list

end Site
end Service
end DocumentCatalog
