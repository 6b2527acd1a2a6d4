import DocumentCatalog.Pool.Machine

/-!
Running calls of a pool against a store that answers at once. The calls take turns, one step each,
and a call that has to wait for the lock leaves its turn out.
-/

namespace DocumentCatalog

/-- How handles are made and tried. What they do may change the world. -/
structure Connector (World Handle : Type) where
  connect : World → Except Failure Handle × World
  ping : Handle → World → Except Failure Unit × World

/-- A pool in a world, and what has happened so far. -/
structure Scene (World Handle : Type) where
  pool : Pool Handle
  world : World
  trace : List (Nat × Event Handle) := []

namespace Connector

variable {World Handle : Type}

/-- The event that a ping brings about. -/
def tried (c : Connector World Handle) (handle : Handle) (world : World) : Event Handle × World :=
  match c.ping handle world with
  | (.ok (), world) => (.answered, world)
  | (.error cause, world) => (.unanswered cause, world)

/-- The event that a connection attempt brings about. -/
def attempted (c : Connector World Handle) (world : World) : Event Handle × World :=
  match c.connect world with
  | (.ok handle, world) => (.connected handle, world)
  | (.error cause, world) => (.refused cause, world)

/-- What a call in some phase does next, unless it has ended. -/
def next? (c : Connector World Handle) (world : World) : Phase Handle → Option (Event Handle × World)
  | .looking | .asking => some (.looked, world)
  | .waiting | .closing => some (.locked, world)
  | .pinging handle | .rechecking handle => some (c.tried handle world)
  | .connecting => some (c.attempted world)
  | .acquired _ | .failed _ | .closed | .told _ => none

/-- The turn of one call. -/
def turn (c : Connector World Handle) (scene : Scene World Handle) (call : Nat) :
    Scene World Handle :=
  match (scene.pool.calls[call]?).bind (c.next? scene.world) with
  | none => scene
  | some (event, world) =>
      match scene.pool.step? call event with
      | none => scene
      | some pool => ⟨pool, world, scene.trace ++ [(call, event)]⟩

/-- One turn of each call. -/
def round (c : Connector World Handle) (scene : Scene World Handle) : Scene World Handle :=
  (List.range scene.pool.calls.length).foldl c.turn scene

def rounds (c : Connector World Handle) : Nat → Scene World Handle → Scene World Handle
  | 0, scene => scene
  | n + 1, scene => c.rounds n (c.round scene)

/-- Runs calls that start together until all have ended: no call takes more than five steps, and in
every round one of them moves. -/
def run (c : Connector World Handle) (pool : Pool Handle) (world : World)
    (calls : List (Phase Handle)) : Scene World Handle :=
  c.rounds (5 * calls.length) ⟨{ pool with calls := calls }, world, []⟩

end Connector

namespace Phase

variable {Handle : Type}

/-- The outcome of a call that acquires. -/
def result? : Phase Handle → Option (Except Failure Handle)
  | .acquired handle => some (.ok handle)
  | .failed failure => some (.error failure)
  | _ => none

end Phase

/-- What calls of a pool came to. -/
structure Outcome (World Handle : Type) where
  results : List (Except Failure Handle)
  pool : Pool Handle
  world : World
  events : List (Event Handle)

namespace Pool

variable {World Handle : Type}

/-- The pool after its calls have ended. -/
def idle (pool : Pool Handle) : Pool Handle :=
  { pool with calls := [] }

/-- Acquires a handle so many times at once. -/
def acquireMany (c : Connector World Handle) (count : Nat) (pool : Pool Handle) (world : World) :
    Outcome World Handle :=
  let scene := c.run pool world (List.replicate count .looking)
  { results := scene.pool.calls.filterMap Phase.result?
    pool := scene.pool.idle
    world := scene.world
    events := scene.trace.map (·.2) }

/-- Drops the handle; the next call that acquires has to connect. -/
def disconnect (c : Connector World Handle) (pool : Pool Handle) (world : World) : Pool Handle :=
  (c.run pool world [.closing]).pool.idle

end Pool
end DocumentCatalog
