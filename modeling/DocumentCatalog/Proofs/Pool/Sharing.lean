import DocumentCatalog.Proofs.Pool.Latest

/-!
Calls that acquire at once share one connection. A call that finds no handle, or one that does not
answer, waits for the lock and looks again: of all that wait, the first connects, and the others find
its handle.
-/

namespace DocumentCatalog

variable {Handle : Type}

def Phase.ended : Phase Handle → Bool
  | .acquired _ | .failed _ | .closed | .told _ => true
  | _ => false

/-- The handle that the call waits for an answer through. -/
def Phase.pinged? : Phase Handle → Option Handle
  | .pinging handle | .rechecking handle => some handle
  | _ => none

/-- Where a call that acquires may be, given the handle kept at the start and those connected since:
any handle it has come by is one of these, and it connects only while there has been no connection. -/
def Phase.Served (slot : Option Handle) (made : List Handle) : Phase Handle → Prop
  | .looking | .waiting => True
  | .pinging handle | .rechecking handle | .acquired handle => slot = some handle ∨ handle ∈ made
  | .connecting => made = []
  | .failed _ | .closing | .closed | .asking | .told _ => False

/-- Where a call may be that has seen the handle, if any, and waits for nothing but its answer. -/
def Phase.Content (kept : Handle) : Phase Handle → Prop
  | .looking => True
  | .pinging handle | .acquired handle => handle = kept
  | _ => False

def Move.unanswered : Move Handle → Bool
  | .step _ (.unanswered _) => true
  | _ => false

/-- Nothing but calls that acquire; whoever connects succeeds, and once there has been a connection
so does whoever pings. -/
structure Undisturbed (moves : List (Move Handle)) : Prop where
  acquires : ∀ request, .begin request ∈ moves → request = .acquire
  connects : ∀ call cause, .step call (.refused cause) ∉ moves
  answers : moves.Pairwise fun earlier later => earlier.made?.isSome → later.unanswered = false

namespace Undisturbed

variable {moves more : List (Move Handle)} {call : Nat} {cause : Failure}

theorem before (h : Undisturbed (moves ++ more)) : Undisturbed moves where
  acquires request hmem := h.acquires request (List.mem_append_left more hmem)
  connects call cause hmem := h.connects call cause (List.mem_append_left more hmem)
  answers := (List.pairwise_append.mp h.answers).1

theorem connections_eq_nil (h : Undisturbed (moves ++ [.step call (.unanswered cause)])) :
    connections moves = [] := by
  rw [List.eq_nil_iff_forall_not_mem]
  intro handle hmem
  obtain ⟨move, hmove, hmade⟩ := List.mem_filterMap.mp hmem
  have hfails := (List.pairwise_append.mp h.answers).2.2 move hmove _ (List.mem_singleton_self _)
    (by rw [hmade]; rfl)
  cases hfails

theorem attempts_eq (h : Undisturbed moves) :
    moves.countP Move.attempts = (connections moves).length := by
  unfold connections
  rw [List.length_filterMap_eq_countP]
  refine List.countP_congr fun move hmem => ?_
  cases move with
  | begin request => exact Iff.rfl
  | step call event =>
      cases event with
      | refused cause => exact absurd hmem (h.connects call cause)
      | _ => exact Iff.rfl

end Undisturbed

namespace Pool

variable {slot : Option Handle} {start pool next : Pool Handle} {moves : List (Move Handle)}
  {move : Move Handle} {call : Nat} {after : Phase Handle} {handle : Handle}

/-- The handle kept is the first one or the only one connected since, and every call has come by no
other. -/
structure Shared (slot : Option Handle) (moves : List (Move Handle)) (pool : Pool Handle) :
    Prop where
  ownership : Ownership pool
  kept : pool.slot = (connections moves).getLast?.or slot
  once : (connections moves).length ≤ 1
  served : ∀ phase ∈ pool.calls, phase.Served slot (connections moves)

namespace Shared

theorem initial (description : String) (slot : Option Handle) :
    Shared slot [] { description, slot : Pool Handle } where
  ownership := .initial description slot
  kept := rfl
  once := Nat.zero_le 1
  served phase hmem := by cases hmem

theorem at_call (h : Shared slot moves pool) {phase : Phase Handle}
    (hcall : pool.calls[call]? = some phase) : phase.Served slot (connections moves) :=
  h.served phase (List.mem_of_getElem? hcall)

theorem found (h : Shared slot moves pool) (hslot : pool.slot = some handle) :
    slot = some handle ∨ handle ∈ connections moves := by
  have hkept := h.kept
  rw [hslot] at hkept
  rcases Option.or_eq_some_iff.mp hkept.symm with hlast | ⟨_, hfirst⟩
  · exact .inr (List.mem_of_getLast? hlast)
  · exact .inl hfirst

theorem unconnected (h : Shared slot moves pool) (hslot : pool.slot = none) :
    connections moves = [] := by
  have hkept := h.kept
  rw [hslot] at hkept
  exact List.getLast?_eq_none_iff.mp (Option.or_eq_none_iff.mp hkept.symm).1

theorem quiet (h : Shared slot moves pool) (hmove : pool.move? move = some next)
    (hmade : move.made? = none) (hslot : next.slot = pool.slot)
    (hcalls : ∀ phase ∈ next.calls, phase ∈ pool.calls ∨ phase = after)
    (hafter : after.Served slot (connections moves)) : Shared slot (moves ++ [move]) next := by
  have hsame : connections (moves ++ [move]) = connections moves := connections_of_made_none hmade
  refine ⟨h.ownership.move hmove, ?_, ?_, ?_⟩
  · rw [hslot, hsame]
    exact h.kept
  · rw [hsame]
    exact h.once
  · intro phase hmem
    rw [hsame]
    rcases hcalls phase hmem with hmem | rfl
    · exact h.served phase hmem
    · exact hafter

theorem connect (h : Shared slot moves pool)
    (hmove : pool.move? (.step call (.connected handle)) = some next)
    (hcall : pool.calls[call]? = some .connecting) :
    Shared slot (moves ++ [.step call (.connected handle)]) next := by
  have hnone : connections moves = [] := h.at_call hcall
  have hone : connections (moves ++ [.step call (.connected handle)]) = [handle] := by
    rw [connections_concat, hnone]
    rfl
  have hstep := step?_eq_some_iff.mp hmove
  refine ⟨h.ownership.move hmove, ?_, ?_, ?_⟩
  · rw [hone]
    exact slot_of_made hmove rfl
  · rw [hone]
    exact Nat.le_refl 1
  · rw [hone]
    cases hstep with
    | connected phase =>
        intro phase hmem
        obtain ⟨other, hother⟩ := List.getElem?_of_mem hmem
        rcases (get?_put hcall).mp hother with ⟨_, rfl⟩ | ⟨hne, hother⟩
        · exact .inr (List.mem_singleton_self handle)
        · have hserved := h.at_call hother
          rw [hnone] at hserved
          -- a second call that connects would own the lock as well
          cases phase with
          | connecting => exact absurd (h.ownership.unique hother rfl hcall rfl) hne
          | pinging | rechecking | acquired => exact .inl (hserved.resolve_right List.not_mem_nil)
          | _ => exact hserved

theorem moved (h : Shared slot moves pool) (calm : Undisturbed (moves ++ [move]))
    (hmove : pool.move? move = some next) : Shared slot (moves ++ [move]) next := by
  have hlast : move ∈ moves ++ [move] := List.mem_append_right moves (List.mem_singleton_self move)
  cases move with
  | begin request =>
      cases calm.acquires request hlast
      cases hmove
      exact h.quiet rfl rfl rfl mem_begin (trivial : (Phase.looking : Phase Handle).Served _ _)
  | step call event =>
      cases step?_eq_some_iff.mp hmove with
      | seen phase free kept | locked phase free kept =>
          exact h.quiet hmove rfl rfl mem_put (h.found kept)
      | unseen phase | unanswered phase => exact h.quiet hmove rfl rfl mem_put trivial
      | answered phase | rechecked phase =>
          have hserved := h.at_call phase
          exact h.quiet hmove rfl rfl mem_put hserved
      | lockedEmpty phase free empty => exact h.quiet hmove rfl rfl mem_put (h.unconnected empty)
      | lost phase => exact h.quiet hmove rfl rfl mem_put calm.connections_eq_nil
      | connected phase => exact h.connect hmove phase
      | refused phase cause => exact absurd hlast (calm.connects call cause)
      | closed phase | told phase => exact absurd (h.at_call phase) id

theorem run {description : String} (calm : Undisturbed moves)
    (hrun : ({ description, slot } : Pool Handle).run? moves = some pool) :
    Shared slot moves pool := by
  refine run_induction
    (motive := fun moves pool => Undisturbed moves → Shared slot moves pool) ?_ ?_ hrun calm
  · intro _
    exact initial description slot
  · intro moves pool move next _ ih hmove calm
    exact (ih calm.before).moved calm hmove

theorem acquired (h : Shared slot moves pool) {phase : Phase Handle} (hmem : phase ∈ pool.calls)
    (hended : phase.ended = true) :
    ∃ handle, phase = .acquired handle ∧ (slot = some handle ∨ handle ∈ connections moves) := by
  have hserved := h.served phase hmem
  cases phase with
  | acquired handle => exact ⟨handle, rfl, hserved⟩
  | failed | closed | told => exact absurd hserved id
  | _ => cases hended

end Shared

/-- Every ping of the handle in a run from the start is answered. -/
def Answering (start : Pool Handle) (moves : List (Move Handle)) (handle : Handle) : Prop :=
  ∀ earlier later pool call cause, moves = earlier ++ .step call (.unanswered cause) :: later →
    start.run? earlier = some pool → (pool.calls[call]?).bind Phase.pinged? ≠ some handle

theorem Answering.before {more : List (Move Handle)} (h : Answering start (moves ++ more) handle) :
    Answering start moves handle := by
  rintro earlier later pool call cause rfl hrun
  exact h earlier (later ++ more) pool call cause (List.append_assoc ..) hrun

/-- The handle kept from the start is all that the calls have come by, and none of them waits. -/
structure Reused (handle : Handle) (moves : List (Move Handle)) (pool : Pool Handle) : Prop where
  kept : pool.slot = some handle
  unconnected : connections moves = []
  content : ∀ phase ∈ pool.calls, phase.Content handle

namespace Reused

theorem at_call (h : Reused handle moves pool) {phase : Phase Handle}
    (hcall : pool.calls[call]? = some phase) : phase.Content handle :=
  h.content phase (List.mem_of_getElem? hcall)

theorem quiet (h : Reused handle moves pool) (hmade : move.made? = none)
    (hslot : next.slot = pool.slot)
    (hcalls : ∀ phase ∈ next.calls, phase ∈ pool.calls ∨ phase = after)
    (hafter : after.Content handle) : Reused handle (moves ++ [move]) next where
  kept := hslot.trans h.kept
  unconnected := (connections_of_made_none hmade).trans h.unconnected
  content phase hmem := by
    rcases hcalls phase hmem with hmem | rfl
    · exact h.content phase hmem
    · exact hafter

theorem moved (h : Reused handle moves pool) (calm : Undisturbed (moves ++ [move]))
    (hmove : pool.move? move = some next)
    (hanswers : ∀ call cause, move = .step call (.unanswered cause) →
      (pool.calls[call]?).bind Phase.pinged? ≠ some handle) :
    Reused handle (moves ++ [move]) next := by
  cases move with
  | begin request =>
      cases calm.acquires request (List.mem_append_right moves (List.mem_singleton_self _))
      cases hmove
      exact h.quiet rfl rfl mem_begin (trivial : (Phase.looking : Phase Handle).Content _)
  | step call event =>
      cases step?_eq_some_iff.mp hmove with
      | seen phase free kept =>
          rw [h.kept] at kept
          exact h.quiet rfl rfl mem_put (Option.some.inj kept).symm
      | unseen phase free empty =>
          rw [h.kept] at empty
          cases empty
      | answered phase =>
          have hpinging := h.at_call phase
          exact h.quiet rfl rfl mem_put hpinging
      | unanswered phase cause =>
          have hpinged := hanswers call cause rfl
          cases h.at_call phase
          rw [phase] at hpinged
          exact absurd rfl hpinged
      | locked phase | lockedEmpty phase | rechecked phase | lost phase | connected phase
      | refused phase | closed phase | told phase => exact absurd (h.at_call phase) id

theorem run {description : String} (calm : Undisturbed moves)
    (hrun : ({ description, slot := some handle } : Pool Handle).run? moves = some pool)
    (answering : Answering { description, slot := some handle } moves handle) :
    Reused handle moves pool := by
  refine run_induction
    (motive := fun moves pool => Undisturbed moves →
      Answering { description, slot := some handle } moves handle → Reused handle moves pool)
    ?_ ?_ hrun calm answering
  · intro _ _
    exact ⟨rfl, rfl, fun _ hmem => by cases hmem⟩
  · intro moves pool move next hpool ih hmove calm answering
    refine (ih calm.before answering.before).moved calm hmove ?_
    rintro call cause rfl
    exact answering moves [] pool call cause rfl hpool

end Reused

/-- Any number of calls that acquire, in whatever order they move until all have ended. One of them
connects if the pool was empty, none if its handle answers, and at most one in any case; all of them
return the one handle. -/
theorem acquires_share_connection {description : String} {count : Nat} (calm : Undisturbed moves)
    (hrun : ({ description, slot } : Pool Handle).run? moves = some pool)
    (hended : ∀ phase ∈ pool.calls, phase.ended = true)
    (hcount : moves.countP Move.begins = count) (hpositive : 1 ≤ count) :
    moves.countP Move.attempts ≤ 1 ∧
    (slot = none → ∃ handle, connections moves = [handle] ∧ moves.countP Move.attempts = 1 ∧
      pool.calls = List.replicate count (.acquired handle)) ∧
    (∀ handle, slot = some handle → Answering { description, slot } moves handle →
      moves.countP Move.attempts = 0 ∧
        pool.calls = List.replicate count (.acquired handle)) := by
  have hshared := Shared.run calm hrun
  have hlength : pool.calls.length = count := by
    rw [length_calls hrun, hcount]
    exact Nat.zero_add count
  rw [calm.attempts_eq]
  refine ⟨hshared.once, ?_, ?_⟩
  · rintro rfl
    have hconnected : ∀ phase ∈ pool.calls,
        ∃ handle, phase = .acquired handle ∧ handle ∈ connections moves := by
      intro phase hmem
      obtain ⟨handle, hphase, hnone | hmade⟩ := hshared.acquired hmem (hended phase hmem)
      · cases hnone
      · exact ⟨handle, hphase, hmade⟩
    obtain ⟨first, hfirst⟩ := List.exists_mem_of_length_pos (hlength ▸ hpositive)
    obtain ⟨handle, _, hhandle⟩ := hconnected first hfirst
    have hone : connections moves = [handle] := by
      obtain ⟨only, honly⟩ := List.length_eq_one_iff.mp
        (Nat.le_antisymm hshared.once (List.length_pos_of_mem hhandle))
      rw [honly] at hhandle ⊢
      rw [List.mem_singleton.mp hhandle]
    refine ⟨handle, hone, by rw [hone]; rfl, List.eq_replicate_iff.mpr ⟨hlength, ?_⟩⟩
    intro phase hmem
    obtain ⟨own, hphase, hown⟩ := hconnected phase hmem
    rw [hone] at hown
    rw [hphase, List.mem_singleton.mp hown]
  · rintro handle rfl answering
    have hreused := Reused.run calm hrun answering
    refine ⟨by rw [hreused.unconnected]; rfl, List.eq_replicate_iff.mpr ⟨hlength, ?_⟩⟩
    intro phase hmem
    obtain ⟨own, hphase, _⟩ := hshared.acquired hmem (hended phase hmem)
    have hcontent := hreused.content phase hmem
    rw [hphase] at hcontent ⊢
    cases hcontent
    rfl

/-- Two calls that both find an empty pool, and two that both find a handle that answers. -/
theorem acquires_share_connection_two :
    let begun : List (Move Nat) :=
      [.begin .acquire, .begin .acquire, .step 0 .looked, .step 1 .looked]
    let connecting := begun ++
      [.step 0 .locked, .step 0 (.connected 7), .step 1 .locked, .step 1 .answered]
    let reusing := begun ++ [.step 0 .answered, .step 1 .answered]
    let empty : Pool Nat := { description := "store" }
    let full : Pool Nat := { description := "store", slot := some 7 }
    let ended : Pool Nat :=
      { description := "store", slot := some 7, calls := [.acquired 7, .acquired 7] }
    (empty.run? connecting = some ended ∧ ∃ handle, connections connecting = [handle] ∧
      ended.calls = List.replicate 2 (.acquired handle)) ∧
      full.run? reusing = some ended ∧ reusing.countP Move.attempts = 0 ∧
        ended.calls = List.replicate 2 (.acquired 7) := by
  intro begun connecting reusing empty full ended
  have hended : ∀ phase ∈ ended.calls, phase.ended = true := by decide
  refine ⟨?_, ?_⟩
  · have calm : Undisturbed connecting :=
      { acquires := by simp [connecting, begun]
        connects := by simp [connecting, begun]
        answers := by decide }
    have hrun : empty.run? connecting = some ended := rfl
    have hcount : connecting.countP Move.begins = 2 := rfl
    obtain ⟨_, hempty, _⟩ := acquires_share_connection calm hrun hended hcount (by decide)
    obtain ⟨handle, hone, _, hcalls⟩ := hempty rfl
    exact ⟨hrun, handle, hone, hcalls⟩
  · have calm : Undisturbed reusing :=
      { acquires := by simp [reusing, begun]
        connects := by simp [reusing, begun]
        answers := by decide }
    have hrun : full.run? reusing = some ended := rfl
    have hcount : reusing.countP Move.begins = 2 := rfl
    obtain ⟨_, _, hfull⟩ := acquires_share_connection calm hrun hended hcount (by decide)
    refine ⟨hrun, hfull 7 rfl ?_⟩
    intro earlier later pool call cause hsplit
    have hmem : Move.step call (.unanswered cause) ∈ reusing := by
      rw [hsplit]
      exact List.mem_append_right earlier List.mem_cons_self
    simp [reusing, begun] at hmem

end Pool
end DocumentCatalog
