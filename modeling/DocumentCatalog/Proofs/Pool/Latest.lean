import DocumentCatalog.Proofs.Pool.Ownership

/-!
The handle that a pool keeps is the one connected last, or none: a disconnect drops it, and nothing
else than a connection puts one there.
-/

namespace DocumentCatalog

variable {Handle : Type}

namespace Pool

variable {start pool next : Pool Handle} {moves : List (Move Handle)} {move : Move Handle}
  {handle : Handle}

theorem slot_of_made (hmove : pool.move? move = some next) (hmade : move.made? = some handle) :
    next.slot = some handle := by
  cases move with
  | begin request => cases hmade
  | step call event =>
      cases step?_eq_some_iff.mp hmove with
      | connected phase made =>
          cases hmade
          rfl
      | _ => cases hmade

theorem made_or_slot (hmove : pool.move? move = some next) (hslot : next.slot = some handle) :
    move.made? = some handle ∨ move.made? = none ∧ pool.slot = some handle := by
  cases move with
  | begin request =>
      cases hmove
      exact .inr ⟨rfl, hslot⟩
  | step call event =>
      cases step?_eq_some_iff.mp hmove with
      | connected phase made => exact .inl hslot
      | closed phase free => cases hslot
      | _ => exact .inr ⟨rfl, hslot⟩

theorem connections_getLast? {description : String}
    (hrun : ({ description } : Pool Handle).run? moves = some pool)
    (hslot : pool.slot = some handle) : (connections moves).getLast? = some handle := by
  revert handle
  refine run_induction
    (motive := fun moves pool =>
      ∀ {handle}, pool.slot = some handle → (connections moves).getLast? = some handle) ?_ ?_ hrun
  · intro handle hslot
    cases hslot
  · intro moves pool move next _ ih hmove handle hslot
    rw [connections_concat, List.getLast?_append]
    rcases made_or_slot hmove hslot with hmade | ⟨hnone, hkept⟩
    · rw [hmade]
      rfl
    · rw [hnone]
      exact ih hkept

/-- The handle kept later was connected no earlier: any numbering that does not fall from one
connection to the next does not fall from the handle kept before to the handle kept after. -/
theorem generation_le {description : String} {before : Pool Handle} {later : List (Move Handle)}
    {handle' : Handle} {generation : Handle → Nat}
    (hbefore : ({ description } : Pool Handle).run? moves = some before)
    (hrun : ({ description } : Pool Handle).run? (moves ++ later) = some pool)
    (hgenerations : (connections (moves ++ later)).Pairwise (generation · ≤ generation ·))
    (hhandle : before.slot = some handle) (hhandle' : pool.slot = some handle') :
    generation handle ≤ generation handle' := by
  have hlast := connections_getLast? hbefore hhandle
  have hlast' := connections_getLast? hrun hhandle'
  rw [connections_append] at hgenerations hlast'
  rw [List.getLast?_append] at hlast'
  cases hlater : (connections later).getLast? with
  | none =>
      rw [hlater, hlast] at hlast'
      cases hlast'
      exact Nat.le_refl _
  | some newest =>
      rw [hlater] at hlast'
      cases hlast'
      exact (List.pairwise_append.mp hgenerations).2.2 handle (List.mem_of_getLast? hlast) _
        (List.mem_of_getLast? hlater)

/-- A handle that was connected is kept before anything else happens, and the call that connected it
returns it. -/
theorem connected_cached {call : Nat} {later : List (Move Handle)}
    (hrun : start.run? (moves ++ .step call (.connected handle) :: later) = some pool) :
    ∃ cached, start.run? (moves ++ [.step call (.connected handle)]) = some cached ∧
      cached.slot = some handle ∧ cached.calls[call]? = some (.acquired handle) := by
  rw [List.append_cons] at hrun
  obtain ⟨cached, hcached, _⟩ := run?_prefix hrun
  refine ⟨cached, hcached, ?_⟩
  obtain ⟨middle, _, hmove⟩ := run?_concat.mp hcached
  refine ⟨slot_of_made hmove rfl, ?_⟩
  cases step?_eq_some_iff.mp hmove with
  | connected phase => exact (get?_put phase).mpr (.inl ⟨rfl, rfl⟩)

/-- A pool through any run from its start, whatever its calls, pings and connections come to. Only
the owner of the lock connects; the handle kept is the one connected last, so it is never replaced by
an older one; and every handle that was connected is kept at once. -/
theorem slot_latest {description : String}
    (hrun : ({ description } : Pool Handle).run? moves = some pool) :
    (∀ call : Nat, pool.calls[call]? = some .connecting →
      pool.owner = some call ∧
        ∀ other : Nat, pool.calls[other]? = some .connecting → other = call) ∧
    (pool.slot = none ∨ ∃ handle, pool.slot = some handle ∧
      (connections moves).getLast? = some handle) ∧
    (∀ earlier later before handle handle' (generation : Handle → Nat), moves = earlier ++ later →
      ({ description } : Pool Handle).run? earlier = some before →
      (connections moves).Pairwise (generation · ≤ generation ·) →
      before.slot = some handle → pool.slot = some handle' →
      generation handle ≤ generation handle') ∧
    (∀ earlier later call handle, moves = earlier ++ .step call (.connected handle) :: later →
      ∃ cached, ({ description } : Pool Handle).run?
          (earlier ++ [.step call (.connected handle)]) = some cached ∧
        cached.slot = some handle ∧ cached.calls[call]? = some (.acquired handle)) := by
  have howned := (Ownership.initial description none).run hrun
  refine ⟨?_, ?_, ?_, ?_⟩
  · intro call hcall
    exact ⟨howned.holder hcall rfl, fun other hother => howned.unique hother rfl hcall rfl⟩
  · cases hslot : pool.slot with
    | none => exact .inl rfl
    | some handle => exact .inr ⟨handle, rfl, connections_getLast? hrun hslot⟩
  · rintro earlier later before handle handle' generation rfl hbefore hgenerations hhandle hhandle'
    exact generation_le hbefore hrun hgenerations hhandle hhandle'
  · rintro earlier later call handle rfl
    exact connected_cached hrun

/-- One call connects, a second connects again as nothing answers it, and a third is about to. -/
theorem slot_latest_third :
    let cause : Failure := { reason := "connection reset" }
    let first : List (Move Nat) :=
      [.begin .acquire, .step 0 .looked, .step 0 .locked, .step 0 (.connected 1)]
    let again : Nat → List (Move Nat) := fun call =>
      [.begin .acquire, .step call .looked, .step call (.unanswered cause), .step call .locked,
        .step call (.unanswered cause)]
    let moves := first ++ (again 1 ++ .step 1 (.connected 2) :: again 2)
    let pool : Pool Nat :=
      { description := "store", slot := some 2, owner := some 2
        calls := [.acquired 1, .acquired 2, .connecting] }
    ({ description := "store" } : Pool Nat).run? moves = some pool ∧
      (∀ other : Nat, pool.calls[other]? = some .connecting → other = 2) ∧
      (connections moves).getLast? = some 2 ∧ id 1 ≤ id 2 := by
  intro cause first again moves pool
  have hrun : ({ description := "store" } : Pool Nat).run? moves = some pool := rfl
  obtain ⟨hconnecting, hlatest, hgeneration, _⟩ := slot_latest hrun
  refine ⟨hrun, (hconnecting 2 rfl).2, ?_, ?_⟩
  · obtain hnone | ⟨handle, hslot, hlast⟩ := hlatest
    · cases hnone
    · cases hslot
      exact hlast
  · exact hgeneration first _ _ 1 2 id rfl rfl (by decide) rfl rfl

end Pool
end DocumentCatalog
