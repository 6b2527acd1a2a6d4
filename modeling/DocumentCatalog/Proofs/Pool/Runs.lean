import DocumentCatalog.Pool.Run

/-!
Runs of a pool. Calls begin at any time and move in any order, with any outcome of pings and
connection attempts; a call is never given up half way. Runs under a connector, where the calls take
turns, are such runs.
-/

namespace DocumentCatalog

/-- What a call is for. -/
inductive Request where
  | acquire | disconnect | ask
  deriving DecidableEq, Repr

def Request.phase {Handle : Type} : Request → Phase Handle
  | .acquire => .looking
  | .disconnect => .closing
  | .ask => .asking

inductive Move (Handle : Type) where
  | begin (request : Request)
  | step (call : Nat) (event : Event Handle)

variable {Handle : Type}

namespace Move

def begins : Move Handle → Bool
  | .begin _ => true
  | .step _ _ => false

/-- Whether the move ends an attempt to connect. -/
def attempts : Move Handle → Bool
  | .step _ (.connected _) | .step _ (.refused _) => true
  | _ => false

def made? : Move Handle → Option Handle
  | .step _ (.connected handle) => some handle
  | _ => none

end Move

def connections (moves : List (Move Handle)) : List Handle :=
  moves.filterMap Move.made?

theorem connections_append (moves more : List (Move Handle)) :
    connections (moves ++ more) = connections moves ++ connections more :=
  List.filterMap_append

theorem connections_concat (moves : List (Move Handle)) (move : Move Handle) :
    connections (moves ++ [move]) = connections moves ++ move.made?.toList := by
  rw [connections_append]
  cases h : move.made? <;> simp [connections, h]

theorem connections_of_made_none {moves : List (Move Handle)} {move : Move Handle}
    (h : move.made? = none) : connections (moves ++ [move]) = connections moves := by
  rw [connections_concat, h]
  exact List.append_nil _

namespace Pool

def move? (pool : Pool Handle) : Move Handle → Option (Pool Handle)
  | .begin request => some (pool.begin request.phase)
  | .step call event => pool.step? call event

/-- The pool after some moves, if each of them is possible when its turn comes. -/
def run? (pool : Pool Handle) (moves : List (Move Handle)) : Option (Pool Handle) :=
  moves.foldlM move? pool

variable {start pool next : Pool Handle} {moves : List (Move Handle)} {move : Move Handle}

theorem run?_nil : start.run? [] = some start :=
  rfl

theorem run?_append (more : List (Move Handle)) :
    start.run? (moves ++ more) = (start.run? moves).bind (·.run? more) :=
  List.foldlM_append

/-- A run can be stopped after each of its moves. -/
theorem run?_prefix {more : List (Move Handle)} (hrun : start.run? (moves ++ more) = some pool) :
    ∃ middle, start.run? moves = some middle ∧ middle.run? more = some pool := by
  rw [run?_append, Option.bind_eq_some_iff] at hrun
  exact hrun

theorem run?_concat :
    start.run? (moves ++ [move]) = some next ↔
      ∃ pool, start.run? moves = some pool ∧ pool.move? move = some next := by
  rw [run?_append, Option.bind_eq_some_iff]
  simp [run?]

theorem run?_replicate_begin (request : Request) (count : Nat) :
    pool.run? (List.replicate count (.begin request)) =
      some { pool with calls := pool.calls ++ List.replicate count request.phase } := by
  induction count generalizing pool with
  | zero => simp [run?_nil]
  | succ count ih =>
      change (pool.begin request.phase).run? (List.replicate count (.begin request)) = _
      rw [ih]
      simp [Pool.begin, List.replicate_succ]

/-- What holds at the start and is kept by every move holds after every run. -/
theorem run_induction {motive : List (Move Handle) → Pool Handle → Prop} (nil : motive [] start)
    (concat : ∀ moves pool move next, start.run? moves = some pool → motive moves pool →
      pool.move? move = some next → motive (moves ++ [move]) next)
    (hrun : start.run? moves = some pool) : motive moves pool := by
  -- the last move of a run is the first of the reversed list, so the induction is on that list
  have hreverse : ∀ (reversed : List (Move Handle)) (pool : Pool Handle),
      start.run? reversed.reverse = some pool → motive reversed.reverse pool := by
    intro reversed
    induction reversed with
    | nil =>
        intro pool h
        cases h
        exact nil
    | cons move reversed ih =>
        intro next h
        rw [List.reverse_cons] at h ⊢
        obtain ⟨pool, hpool, hmove⟩ := run?_concat.mp h
        exact concat _ pool move next hpool (ih pool hpool) hmove
  have h := hreverse moves.reverse pool
  rw [List.reverse_reverse] at h
  exact h hrun

/-- The steps that a call can take, with the phase before it and what it leaves. -/
inductive Step (pool : Pool Handle) (call : Nat) : Event Handle → Pool Handle → Prop where
  | seen {handle} (phase : pool.calls[call]? = some .looking) (free : pool.owner = none)
      (kept : pool.slot = some handle) : Step pool call .looked (pool.put call (.pinging handle))
  | unseen (phase : pool.calls[call]? = some .looking) (free : pool.owner = none)
      (empty : pool.slot = none) : Step pool call .looked (pool.put call .waiting)
  | answered {handle} (phase : pool.calls[call]? = some (.pinging handle)) :
      Step pool call .answered (pool.put call (.acquired handle))
  | unanswered {handle} (phase : pool.calls[call]? = some (.pinging handle)) (cause : Failure) :
      Step pool call (.unanswered cause) (pool.put call .waiting)
  | locked {handle} (phase : pool.calls[call]? = some .waiting) (free : pool.owner = none)
      (kept : pool.slot = some handle) :
      Step pool call .locked { pool.put call (.rechecking handle) with owner := some call }
  | lockedEmpty (phase : pool.calls[call]? = some .waiting) (free : pool.owner = none)
      (empty : pool.slot = none) :
      Step pool call .locked { pool.put call .connecting with owner := some call }
  | rechecked {handle} (phase : pool.calls[call]? = some (.rechecking handle)) :
      Step pool call .answered (pool.release call (.acquired handle))
  | lost {handle} (phase : pool.calls[call]? = some (.rechecking handle)) (cause : Failure) :
      Step pool call (.unanswered cause) (pool.put call .connecting)
  | connected (phase : pool.calls[call]? = some .connecting) (handle : Handle) :
      Step pool call (.connected handle)
        { pool.release call (.acquired handle) with slot := some handle }
  | refused (phase : pool.calls[call]? = some .connecting) (cause : Failure) :
      Step pool call (.refused cause) (pool.release call (.failed (pool.connectFailure cause)))
  | closed (phase : pool.calls[call]? = some .closing) (free : pool.owner = none) :
      Step pool call .locked { pool.put call .closed with slot := none }
  | told (phase : pool.calls[call]? = some .asking) (free : pool.owner = none) :
      Step pool call .looked (pool.put call (.told pool.isConnected))

theorem step?_eq_some_iff {call : Nat} {event : Event Handle} :
    pool.step? call event = some next ↔ Step pool call event next := by
  constructor
  · intro h
    unfold step? at h
    split at h
    · next phase =>
        split at h
        · cases h
        · next free =>
            have hfree : pool.owner = none := by simpa using free
            cases h
            unfold look
            cases hslot : pool.slot with
            | none => exact .unseen phase hfree hslot
            | some handle => exact .seen phase hfree hslot
    · next phase =>
        cases h
        exact .answered phase
    · next cause phase =>
        cases h
        exact .unanswered phase cause
    · next phase =>
        split at h
        · cases h
        · next free =>
            have hfree : pool.owner = none := by simpa using free
            cases h
            unfold lock
            cases hslot : pool.slot with
            | none => exact .lockedEmpty phase hfree hslot
            | some handle => exact .locked phase hfree hslot
    · next phase =>
        cases h
        exact .rechecked phase
    · next cause phase =>
        cases h
        exact .lost phase cause
    · next handle phase =>
        cases h
        exact .connected phase handle
    · next cause phase =>
        cases h
        exact .refused phase cause
    · next phase =>
        split at h
        · cases h
        · next free =>
            cases h
            exact .closed phase (by simpa using free)
    · next phase =>
        split at h
        · cases h
        · next free =>
            cases h
            exact .told phase (by simpa using free)
    · cases h
  · intro h
    cases h with
    | seen phase free kept => simp [step?, look, phase, free, kept]
    | unseen phase free empty => simp [step?, look, phase, free, empty]
    | answered phase | unanswered phase | rechecked phase | lost phase | connected phase
    | refused phase => simp [step?, phase]
    | locked phase free kept => simp [step?, lock, phase, free, kept]
    | lockedEmpty phase free empty => simp [step?, lock, phase, free, empty]
    | closed phase free | told phase free => simp [step?, phase, free]

theorem length_calls_move (hmove : pool.move? move = some next) :
    next.calls.length = pool.calls.length + if move.begins then 1 else 0 := by
  cases move with
  | begin request =>
      cases hmove
      exact List.length_append
  | step call event =>
      cases step?_eq_some_iff.mp hmove <;> exact List.length_set

theorem length_calls (hrun : start.run? moves = some pool) :
    pool.calls.length = start.calls.length + moves.countP Move.begins := by
  refine run_induction
    (motive := fun moves pool =>
      pool.calls.length = start.calls.length + moves.countP Move.begins) rfl ?_ hrun
  intro moves pool move next _ ih hmove
  rw [length_calls_move hmove, ih, List.countP_append, List.countP_singleton, Nat.add_assoc]

end Pool

def Scene.moves {World : Type} (scene : Scene World Handle) : List (Move Handle) :=
  scene.trace.map fun (call, event) => .step call event

namespace Connector

variable {World : Type} (c : Connector World Handle) {start : Pool Handle}
  {scene : Scene World Handle}

theorem run?_turn (call : Nat) (h : start.run? scene.moves = some scene.pool) :
    start.run? (c.turn scene call).moves = some (c.turn scene call).pool := by
  unfold turn
  split
  · exact h
  · next event world _ =>
      split
      · exact h
      · next pool hstep =>
          have hmoves : (Scene.mk pool world (scene.trace ++ [(call, event)])).moves =
              scene.moves ++ [.step call event] := List.map_append
          rw [hmoves]
          exact Pool.run?_concat.mpr ⟨scene.pool, h, hstep⟩

theorem run?_turns (calls : List Nat) (h : start.run? scene.moves = some scene.pool) :
    start.run? (calls.foldl c.turn scene).moves = some (calls.foldl c.turn scene).pool := by
  induction calls generalizing scene with
  | nil => exact h
  | cons call calls ih => exact ih (c.run?_turn call h)

theorem run?_rounds (n : Nat) (h : start.run? scene.moves = some scene.pool) :
    start.run? (c.rounds n scene).moves = some (c.rounds n scene).pool := by
  induction n generalizing scene with
  | zero => exact h
  | succ n ih => exact ih (c.run?_turns _ h)

/-- Calls that take turns under a connector make a run. -/
theorem run?_run (pool : Pool Handle) (world : World) (calls : List (Phase Handle)) :
    ({ pool with calls } : Pool Handle).run? (c.run pool world calls).moves =
      some (c.run pool world calls).pool :=
  c.run?_rounds _ rfl

/-- Calls that acquire at once, from a pool where nothing is under way. -/
theorem run?_acquire (pool : Pool Handle) (world : World) (count : Nat) :
    pool.idle.run? (List.replicate count (.begin .acquire) ++
        (c.run pool world (List.replicate count .looking)).moves) =
      some (c.run pool world (List.replicate count .looking)).pool := by
  rw [Pool.run?_append, Pool.run?_replicate_begin]
  exact c.run?_run pool world (List.replicate count .looking)

end Connector
end DocumentCatalog
