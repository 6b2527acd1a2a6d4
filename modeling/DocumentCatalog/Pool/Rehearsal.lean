import DocumentCatalog.Pool.Run

/-!
A place to connect to whose health is set by hand, for trying out a pool. It counts what is asked of
it, and its handles are the numbers of the connections that made them.
-/

namespace DocumentCatalog

structure Rehearsal where
  healthy : Bool := true
  /-- Whether a new connection restores the health. -/
  heals : Bool := true
  /-- Why connections fail, if they do. -/
  fault : Option String := none
  attempts : Nat := 0
  connects : Nat := 0
  pings : Nat := 0
  deriving DecidableEq, Repr

namespace Rehearsal

def name : String := "scripted"

def connect (r : Rehearsal) : Except Failure Nat × Rehearsal :=
  match r.fault with
  | some reason => (.error { reason }, { r with attempts := r.attempts + 1 })
  | none =>
      (.ok (r.connects + 1),
        { r with
          attempts := r.attempts + 1, connects := r.connects + 1, healthy := r.healthy || r.heals })

def ping (r : Rehearsal) : Except Failure Unit × Rehearsal :=
  (if r.healthy then .ok () else .error { reason := "connection reset" },
    { r with pings := r.pings + 1 })

def connector : Connector Rehearsal Nat where
  connect := connect
  ping _ := ping

end Rehearsal
end DocumentCatalog
