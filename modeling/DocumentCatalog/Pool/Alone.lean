import DocumentCatalog.Pool.Run

/-!
A call that acquires a handle while no other call runs. The main statement says that this is what
the steps of the pool come to for a single call.
-/

namespace DocumentCatalog

structure Acquisition (World Handle : Type) where
  result : Except Failure Handle
  pool : Pool Handle
  world : World
  events : List (Event Handle)

def Acquisition.outcome {World Handle : Type} (a : Acquisition World Handle) :
    Outcome World Handle :=
  ⟨[a.result], a.pool, a.world, a.events⟩

namespace Pool

variable {World Handle : Type}

/-- Connects, and keeps the handle if there is one. -/
def connectAlone (c : Connector World Handle) (pool : Pool Handle) (world : World)
    (events : List (Event Handle)) : Acquisition World Handle :=
  match c.connect world with
  | (.ok handle, world) =>
      ⟨.ok handle, { pool with slot := some handle }, world, events ++ [.connected handle]⟩
  | (.error cause, world) =>
      ⟨.error (pool.connectFailure cause), pool, world, events ++ [.refused cause]⟩

/-- Takes the handle that is kept if it answers, at the second attempt at the latest, and connects
otherwise. -/
def acquire (c : Connector World Handle) (pool : Pool Handle) (world : World) :
    Acquisition World Handle :=
  match pool.slot with
  | none => connectAlone c pool world [.looked, .locked]
  | some handle =>
      match c.ping handle world with
      | (.ok (), world) => ⟨.ok handle, pool, world, [.looked, .answered]⟩
      | (.error first, world) =>
          match c.ping handle world with
          | (.ok (), world) =>
              ⟨.ok handle, pool, world, [.looked, .unanswered first, .locked, .answered]⟩
          | (.error second, world) =>
              connectAlone c pool world
                [.looked, .unanswered first, .locked, .unanswered second]

theorem acquireMany_one (c : Connector World Handle) (description : String) (slot : Option Handle)
    (world : World) :
    acquireMany c 1 { description, slot } world =
      (acquire c { description, slot } world).outcome := by
  cases slot with
  | none =>
      cases hc : c.connect world with
      | mk result world' =>
          cases result <;>
            simp [acquireMany, acquire, connectAlone, Connector.run, Connector.rounds,
              Connector.round, Connector.turn, Connector.next?, Connector.attempted, step?, look,
              lock, put, release, idle, Phase.result?, Acquisition.outcome, connectFailure, hc,
              List.range, List.range.loop]
  | some handle =>
      cases hp : c.ping handle world with
      | mk first world₁ =>
          cases hq : c.ping handle world₁ with
          | mk second world₂ =>
              cases hc : c.connect world₂ with
              | mk result world₃ =>
                  cases first <;> cases second <;> cases result <;>
                    simp [acquireMany, acquire, connectAlone, Connector.run, Connector.rounds,
                      Connector.round, Connector.turn, Connector.next?, Connector.attempted,
                      Connector.tried, step?, look, lock, put, release, idle, Phase.result?,
                      Acquisition.outcome, connectFailure, hp, hq, hc, List.range, List.range.loop]

theorem disconnect_eq (c : Connector World Handle) (description : String) (slot : Option Handle)
    (world : World) :
    disconnect c { description, slot } world = { description } := by
  simp [disconnect, Connector.run, Connector.rounds, Connector.round, Connector.turn,
    Connector.next?, step?, put, idle, List.range, List.range.loop]

end Pool
end DocumentCatalog
