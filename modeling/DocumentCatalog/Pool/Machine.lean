import DocumentCatalog.Failure
import DocumentCatalog.Text.Quoted

/-!
A pool that keeps one handle to a store and lets any number of calls run at once. A call moves by
steps, between which other calls may move. To look at the handle no call may hold the lock; the lock
belongs to one call at a time, and only its owner replaces the handle.
-/

namespace DocumentCatalog

/-- What a call is about to do, or how it ended. -/
inductive Phase (Handle : Type) where
  /-- Acquiring: looks at the handle that is kept. -/
  | looking
  /-- Acquiring: waits for an answer through the handle it saw. -/
  | pinging (handle : Handle)
  /-- Acquiring: waits for the lock. -/
  | waiting
  /-- Acquiring: owns the lock and waits for an answer through the handle kept by now. -/
  | rechecking (handle : Handle)
  /-- Acquiring: owns the lock and waits for a new handle. -/
  | connecting
  | acquired (handle : Handle)
  | failed (failure : Failure)
  /-- Disconnecting: waits for the lock. -/
  | closing
  | closed
  /-- Asking whether a handle is kept. -/
  | asking
  | told (connected : Bool)

/-- What one step of a call brings about. -/
inductive Event (Handle : Type) where
  | looked
  | answered
  | unanswered (cause : Failure)
  | locked
  | connected (handle : Handle)
  | refused (cause : Failure)

/-- The pool: where it connects to, the handle it keeps, the call that owns its lock, and the calls
by number. -/
structure Pool (Handle : Type) where
  description : String
  slot : Option Handle := none
  owner : Option Nat := none
  calls : List (Phase Handle) := []

namespace Pool

variable {Handle : Type}

/-- A pool for debugging, shown by the description alone. -/
def debug (pool : Pool Handle) : String :=
  "StorePool \x7b connector: " ++ Text.quoted pool.description ++ " \x7d"

def isConnected (pool : Pool Handle) : Bool :=
  pool.slot.isSome

/-- One more call. -/
def begin (pool : Pool Handle) (phase : Phase Handle) : Pool Handle :=
  { pool with calls := pool.calls ++ [phase] }

/-- Moves a call to its next phase. -/
def put (pool : Pool Handle) (call : Nat) (phase : Phase Handle) : Pool Handle :=
  { pool with calls := pool.calls.set call phase }

/-- Ends a call that owns the lock. -/
def release (pool : Pool Handle) (call : Nat) (phase : Phase Handle) : Pool Handle :=
  { pool.put call phase with owner := none }

/-- Why a call ends that could not connect. -/
def connectFailure (pool : Pool Handle) (cause : Failure) : Failure :=
  cause.under ("Failed to connect to " ++ pool.description)

/-- What a look at the handle leads to. -/
def look (pool : Pool Handle) (call : Nat) : Pool Handle :=
  pool.put call (match pool.slot with
    | some handle => .pinging handle
    | none => .waiting)

/-- What the lock leads to: another call may have replaced the handle in the meantime. -/
def lock (pool : Pool Handle) (call : Nat) : Pool Handle :=
  { pool.put call (match pool.slot with
      | some handle => .rechecking handle
      | none => .connecting) with owner := some call }

/-- A step of a call, if the event is one that it can have now. -/
def step? (pool : Pool Handle) (call : Nat) (event : Event Handle) : Option (Pool Handle) :=
  match pool.calls[call]?, event with
  | some .looking, .looked => if pool.owner.isSome then none else some (pool.look call)
  | some (.pinging handle), .answered => some (pool.put call (.acquired handle))
  | some (.pinging _), .unanswered _ => some (pool.put call .waiting)
  | some .waiting, .locked => if pool.owner.isSome then none else some (pool.lock call)
  | some (.rechecking handle), .answered => some (pool.release call (.acquired handle))
  | some (.rechecking _), .unanswered _ => some (pool.put call .connecting)
  | some .connecting, .connected handle =>
      some { pool.release call (.acquired handle) with slot := some handle }
  | some .connecting, .refused cause =>
      some (pool.release call (.failed (pool.connectFailure cause)))
  | some .closing, .locked =>
      if pool.owner.isSome then none else some { pool.put call .closed with slot := none }
  | some .asking, .looked =>
      if pool.owner.isSome then none else some (pool.put call (.told pool.isConnected))
  | _, _ => none

end Pool
end DocumentCatalog
