import DocumentCatalog.Proofs.Pool.Sharing

/-!
The course of a single call that acquires, whatever other calls do between its steps. It pings at
most twice and tries to connect at most once, and only for want of a handle that answers. What it
returns has answered it or was made by it; if it fails, it has changed nothing.
-/

namespace DocumentCatalog

variable {Handle : Type}

namespace Event

def answers : Event Handle → Bool
  | .answered | .unanswered _ => true
  | _ => false

def attempts : Event Handle → Bool
  | .connected _ | .refused _ => true
  | _ => false

end Event

namespace Phase

/-- How many pings a call may still have to wait for. -/
def pingsLeft : Phase Handle → Nat
  | .looking | .pinging _ => 2
  | .waiting | .rechecking _ => 1
  | _ => 0

/-- How many attempts to connect a call may still have to wait for. -/
def attemptsLeft : Phase Handle → Nat
  | .looking | .pinging _ | .waiting | .rechecking _ | .connecting => 1
  | _ => 0

end Phase

namespace Move

def request? : Move Handle → Option Request
  | .begin request => some request
  | .step _ _ => none

def eventOf? (call : Nat) : Move Handle → Option (Event Handle)
  | .begin _ => none
  | .step other event => if other = call then some event else none

end Move

/-- What the calls are for, in the order in which they begin. -/
def requests (moves : List (Move Handle)) : List Request :=
  moves.filterMap Move.request?

theorem requests_concat (moves : List (Move Handle)) (move : Move Handle) :
    requests (moves ++ [move]) = requests moves ++ move.request?.toList := by
  rw [requests, List.filterMap_append]
  cases h : move.request? <;> simp [requests, h]

theorem length_requests (moves : List (Move Handle)) :
    (requests moves).length = moves.countP Move.begins := by
  rw [requests, List.length_filterMap_eq_countP]
  refine List.countP_congr fun move _ => ?_
  cases move <;> simp [Move.request?, Move.begins]

namespace Pool

variable {start pool next : Pool Handle} {moves : List (Move Handle)} {move : Move Handle}
  {call : Nat} {event : Event Handle} {phase after : Phase Handle} {handle : Handle}

/-- The steps of a call, each with the pool in which it is taken. -/
def stepsOf (call : Nat) (pool : Pool Handle) :
    List (Move Handle) → List (Pool Handle × Event Handle)
  | [] => []
  | move :: rest =>
      (move.eventOf? call).toList.map (pool, ·) ++
        match pool.move? move with
        | some next => stepsOf call next rest
        | none => []

theorem stepsOf_cons {rest : List (Move Handle)} (hmove : start.move? move = some next) :
    stepsOf call start (move :: rest) =
      (move.eventOf? call).toList.map (start, ·) ++ stepsOf call next rest := by
  rw [stepsOf, hmove]

theorem run?_cons {rest : List (Move Handle)} (hrun : start.run? (move :: rest) = some pool) :
    ∃ next, start.move? move = some next ∧ next.run? rest = some pool := by
  rw [run?, List.foldlM_cons] at hrun
  exact Option.bind_eq_some_iff.mp hrun

theorem stepsOf_concat (hrun : start.run? moves = some pool) :
    stepsOf call start (moves ++ [move]) =
      stepsOf call start moves ++ (move.eventOf? call).toList.map (pool, ·) := by
  induction moves generalizing start with
  | nil =>
      cases hrun
      cases h : pool.move? move <;> simp [stepsOf, h]
  | cons first rest ih =>
      obtain ⟨next, hfirst, hrest⟩ := run?_cons hrun
      rw [List.cons_append, stepsOf_cons hfirst, stepsOf_cons hfirst, ih hrest, List.append_assoc]

/-- A step of a call is a move of the run, taken in the pool to which the moves before it lead. -/
theorem of_mem_stepsOf {before : Pool Handle}
    (hmem : (before, event) ∈ stepsOf call start moves) :
    ∃ earlier later, moves = earlier ++ .step call event :: later ∧
      start.run? earlier = some before := by
  induction moves generalizing start with
  | nil => cases hmem
  | cons move rest ih =>
      rw [stepsOf, List.mem_append] at hmem
      rcases hmem with hmem | hmem
      · cases move with
        | begin request => cases hmem
        | step other made =>
            by_cases hother : other = call
            · simp only [Move.eventOf?, if_pos hother, Option.toList_some, List.map_cons,
                List.map_nil, List.mem_singleton, Prod.mk.injEq] at hmem
              obtain ⟨rfl, rfl⟩ := hmem
              exact ⟨[], rest, by rw [hother]; rfl, rfl⟩
            · simp [Move.eventOf?, hother] at hmem
      · cases hmove : start.move? move with
        | none => simp [hmove] at hmem
        | some next =>
            rw [hmove] at hmem
            obtain ⟨earlier, later, rfl, hrun⟩ := ih hmem
            refine ⟨move :: earlier, later, rfl, ?_⟩
            rw [run?, List.foldlM_cons, hmove]
            exact hrun

/-- What a call that acquires can have gone through before it comes to a phase. It owns the lock at
every step between taking it and giving it back, and the slot is then as it was found. -/
inductive Course (call : Nat) : List (Pool Handle × Event Handle) → Phase Handle → Prop
  | begun : Course call [] .looking
  | seen {steps pool handle} (course : Course call steps .looking)
      (kept : pool.slot = some handle) :
      Course call (steps ++ [(pool, .looked)]) (.pinging handle)
  | unseen {steps pool} (course : Course call steps .looking) :
      Course call (steps ++ [(pool, .looked)]) .waiting
  | answered {steps pool handle} (course : Course call steps (.pinging handle))
      (phase : pool.calls[call]? = some (.pinging handle)) :
      Course call (steps ++ [(pool, .answered)]) (.acquired handle)
  | unanswered {steps pool handle} (course : Course call steps (.pinging handle))
      (cause : Failure) : Course call (steps ++ [(pool, .unanswered cause)]) .waiting
  | locked {steps pool handle} (course : Course call steps .waiting)
      (kept : pool.slot = some handle) :
      Course call (steps ++ [(pool, .locked)]) (.rechecking handle)
  | lockedEmpty {steps pool} (course : Course call steps .waiting) (empty : pool.slot = none) :
      Course call (steps ++ [(pool, .locked)]) .connecting
  | rechecked {steps pool handle} (course : Course call steps (.rechecking handle))
      (phase : pool.calls[call]? = some (.rechecking handle)) :
      Course call (steps ++ [(pool, .answered)]) (.acquired handle)
  | lost {steps pool handle} (course : Course call steps (.rechecking handle))
      (phase : pool.calls[call]? = some (.rechecking handle)) (owned : pool.owner = some call)
      (kept : pool.slot = some handle) (cause : Failure) :
      Course call (steps ++ [(pool, .unanswered cause)]) .connecting
  | connected {steps pool} (course : Course call steps .connecting)
      (owned : pool.owner = some call)
      (kept : ∀ before, (before, .locked) ∈ steps → before.slot = pool.slot) (handle : Handle) :
      Course call (steps ++ [(pool, .connected handle)]) (.acquired handle)
  | refused {steps pool} (course : Course call steps .connecting)
      (owned : pool.owner = some call)
      (kept : ∀ before, (before, .locked) ∈ steps → before.slot = pool.slot) (cause : Failure) :
      Course call (steps ++ [(pool, .refused cause)]) (.failed (pool.connectFailure cause))

/-- Why a call connects: as owner of the lock it finds no handle, or one that did not answer it
since it took the lock. -/
def Lacks (call : Nat) (steps : List (Pool Handle × Event Handle)) (pool : Pool Handle) : Prop :=
  pool.owner = some call ∧ (pool.slot = none ∨ ∃ asked handle cause, pool.slot = some handle ∧
    (asked, .unanswered cause) ∈ steps ∧ asked.owner = some call ∧ asked.slot = some handle ∧
    asked.calls[call]? = some (.rechecking handle))

namespace Course

variable {steps more : List (Pool Handle × Event Handle)} {before : Pool Handle}

theorem counts_le (course : Course call steps phase) :
    (steps.map (·.2)).countP Event.answers + phase.pingsLeft ≤ 2 ∧
      (steps.map (·.2)).countP Event.attempts + phase.attemptsLeft ≤ 1 := by
  induction course with
  | begun => simp [Phase.pingsLeft, Phase.attemptsLeft]
  | seen _ _ ih | unseen _ ih | answered _ _ ih | unanswered _ _ ih | locked _ _ ih
  | lockedEmpty _ _ ih | rechecked _ _ ih | lost _ _ _ _ _ ih | connected _ _ _ _ ih
  | refused _ _ _ _ ih =>
      simp only [List.map_append, List.map_cons, List.map_nil, List.countP_append,
        List.countP_singleton, Event.answers, Event.attempts, Phase.pingsLeft, Phase.attemptsLeft,
        Bool.false_eq_true, if_false, if_true] at ih ⊢
      omega

theorem acquires (course : Course call steps phase) : phase ≠ .closing ∧ phase ≠ .asking := by
  cases course <;> exact ⟨nofun, nofun⟩

/-- A call takes the lock only once. -/
theorem eq_of_locked (course : Course call steps .waiting)
    (hmem : (before, .locked) ∈ steps ++ [(pool, .locked)]) : before = pool := by
  rcases List.mem_append.mp hmem with hmem | hmem
  · cases course with
    | unseen course =>
        cases course
        simp at hmem
    | unanswered course =>
        cases course with
        | seen course =>
            cases course
            simp at hmem
  · cases List.mem_singleton.mp hmem
    rfl

theorem locked_of_rechecking (course : Course call steps (.rechecking handle)) :
    ∃ before, (before, .locked) ∈ steps ∧ before.slot = some handle := by
  cases course with
  | locked _ kept => exact ⟨_, List.mem_concat_self, kept⟩

theorem locked_of_connecting (course : Course call steps .connecting) :
    ∃ before, (before, .locked) ∈ steps := by
  cases course with
  | lockedEmpty => exact ⟨_, List.mem_concat_self⟩
  | lost course =>
      obtain ⟨before, hlocked, _⟩ := course.locked_of_rechecking
      exact ⟨before, List.mem_append_left _ hlocked⟩

theorem lacks (course : Course call steps .connecting) (owned : pool.owner = some call)
    (kept : ∀ before, (before, .locked) ∈ steps → before.slot = pool.slot) :
    Lacks call steps pool := by
  refine ⟨owned, ?_⟩
  cases course with
  | lockedEmpty _ empty => exact .inl ((kept _ List.mem_concat_self).symm.trans empty)
  | lost course phase owned' kept' cause =>
      obtain ⟨before, hlocked, hslot⟩ := course.locked_of_rechecking
      have hsame := kept before (List.mem_append_left _ hlocked)
      exact .inr ⟨_, _, cause, hsame.symm.trans hslot, List.mem_concat_self, owned', kept', phase⟩

theorem lacks_append (h : Lacks call steps pool) : Lacks call (steps ++ more) pool := by
  obtain ⟨owned, hempty | ⟨asked, handle, cause, hslot, hmem, hasked⟩⟩ := h
  · exact ⟨owned, .inl hempty⟩
  · exact ⟨owned, .inr ⟨asked, handle, cause, hslot, List.mem_append_left more hmem, hasked⟩⟩

theorem lacks_of_attempts (course : Course call steps phase) (hmem : (before, event) ∈ steps)
    (hattempts : event.attempts = true) : Lacks call steps before := by
  induction course with
  | begun => cases hmem
  | seen _ _ ih | unseen _ ih | answered _ _ ih | unanswered _ _ ih | locked _ _ ih
  | lockedEmpty _ _ ih | rechecked _ _ ih | lost _ _ _ _ _ ih =>
      rcases List.mem_append.mp hmem with hmem | hmem
      · exact lacks_append (ih hmem)
      · cases List.mem_singleton.mp hmem
        cases hattempts
  | connected course owned kept _ ih | refused course owned kept _ ih =>
      rcases List.mem_append.mp hmem with hmem | hmem
      · exact lacks_append (ih hmem)
      · cases List.mem_singleton.mp hmem
        exact lacks_append (course.lacks owned kept)

theorem supplied (course : Course call steps (.acquired handle)) :
    (∃ asked, (asked, .answered) ∈ steps ∧
      (asked.calls[call]?).bind Phase.pinged? = some handle) ∨
    ∃ asked, (asked, .connected handle) ∈ steps := by
  cases course with
  | answered _ phase | rechecked _ phase =>
      exact .inl ⟨_, List.mem_concat_self, by rw [phase]; rfl⟩
  | connected => exact .inr ⟨_, List.mem_concat_self⟩

theorem failed_of_refused {cause : Failure} (course : Course call steps phase)
    (hmem : (before, .refused cause) ∈ steps) : ∃ failure, phase = .failed failure := by
  induction course with
  | begun => cases hmem
  | seen _ _ ih | unseen _ ih | answered _ _ ih | unanswered _ _ ih | locked _ _ ih
  | lockedEmpty _ _ ih | rechecked _ _ ih | lost _ _ _ _ _ ih | connected _ _ _ _ ih =>
      -- nothing follows a failure
      rcases List.mem_append.mp hmem with hmem | hmem
      · obtain ⟨failure, hfailed⟩ := ih hmem
        cases hfailed
      · cases List.mem_singleton.mp hmem
  | refused => exact ⟨_, rfl⟩

theorem refused_of_failed {failure : Failure} (course : Course call steps (.failed failure)) :
    ∃ before refusing cause, (before, .locked) ∈ steps ∧ (refusing, .refused cause) ∈ steps ∧
      failure = refusing.connectFailure cause ∧ refusing.slot = before.slot := by
  cases course with
  | refused course owned kept cause =>
      obtain ⟨before, hlocked⟩ := course.locked_of_connecting
      exact ⟨before, _, cause, List.mem_append_left _ hlocked, List.mem_concat_self, rfl,
        (kept before hlocked).symm⟩

end Course

/-- A step moves the call that takes it, and no other call. -/
theorem Step.put (hstep : Step pool call event next) :
    ∃ before after, pool.calls[call]? = some before ∧ next.calls = (pool.put call after).calls := by
  cases hstep with
  | seen phase | unseen phase | answered phase | unanswered phase | locked phase
  | lockedEmpty phase | rechecked phase | lost phase | connected phase | refused phase
  | closed phase | told phase => exact ⟨_, _, phase, rfl⟩

/-- Only the owner of the lock replaces the handle. -/
theorem slot_of_owned (h : Ownership pool) (howner : pool.owner = some call)
    (hmove : pool.move? move = some next) (hother : move.eventOf? call = none) :
    next.slot = pool.slot := by
  cases move with
  | begin request =>
      cases hmove
      rfl
  | step other event =>
      cases step?_eq_some_iff.mp hmove with
      | connected phase =>
          have hholder := h.holder phase rfl
          rw [howner] at hholder
          cases hholder
          simp [Move.eventOf?] at hother
      | closed phase free =>
          rw [howner] at free
          cases free
      | _ => rfl

/-- Where a call is after a run, and what it has gone through. -/
structure Followed (start : Pool Handle) (moves : List (Move Handle)) (pool : Pool Handle)
    (call : Nat) (phase : Phase Handle) : Prop where
  reached : pool.calls[call]? = some phase
  course : Course call (stepsOf call start moves) phase
  kept : phase.holdsLock = true →
    ∀ before, (before, .locked) ∈ stepsOf call start moves → before.slot = pool.slot

namespace Followed

/-- What is to be shown of a step that moves the call to another phase. -/
theorem put (h : Followed start moves pool call phase) (hrun : start.run? moves = some pool)
    (hcalls : next.calls = (pool.put call after).calls)
    (course : Course call (stepsOf call start moves ++ [(pool, event)]) after)
    (kept : after.holdsLock = true →
      ∀ before, (before, .locked) ∈ stepsOf call start moves ++ [(pool, event)] →
        before.slot = next.slot) :
    Followed start (moves ++ [.step call event]) next call after := by
  have hsteps : stepsOf call start (moves ++ [.step call event]) =
      stepsOf call start moves ++ [(pool, event)] := by
    rw [stepsOf_concat hrun, Move.eventOf?, if_pos rfl]
    rfl
  refine ⟨?_, ?_, ?_⟩
  · rw [hcalls]
    exact (get?_put h.reached).mpr (.inl ⟨rfl, rfl⟩)
  · rw [hsteps]
    exact course
  · rw [hsteps]
    exact kept

theorem step (h : Followed start moves pool call phase) (hrun : start.run? moves = some pool)
    (howned : Ownership pool) (hstep : Step pool call event next) :
    ∃ after, Followed start (moves ++ [.step call event]) next call after := by
  have hcourse := h.course
  cases hstep with
  | seen hphase free hslot =>
      cases h.reached.symm.trans hphase
      exact ⟨_, h.put hrun rfl (hcourse.seen hslot) nofun⟩
  | unseen hphase =>
      cases h.reached.symm.trans hphase
      exact ⟨_, h.put hrun rfl hcourse.unseen nofun⟩
  | answered hphase =>
      cases h.reached.symm.trans hphase
      exact ⟨_, h.put hrun rfl (hcourse.answered hphase) nofun⟩
  | unanswered hphase cause =>
      cases h.reached.symm.trans hphase
      exact ⟨_, h.put hrun rfl (hcourse.unanswered cause) nofun⟩
  | locked hphase free hslot =>
      cases h.reached.symm.trans hphase
      refine ⟨_, h.put hrun rfl (hcourse.locked hslot) fun _ before hmem => ?_⟩
      rw [hcourse.eq_of_locked hmem]
      rfl
  | lockedEmpty hphase free hslot =>
      cases h.reached.symm.trans hphase
      refine ⟨_, h.put hrun rfl (hcourse.lockedEmpty hslot) fun _ before hmem => ?_⟩
      rw [hcourse.eq_of_locked hmem]
      rfl
  | rechecked hphase =>
      cases h.reached.symm.trans hphase
      exact ⟨_, h.put hrun rfl (hcourse.rechecked hphase) nofun⟩
  | lost hphase cause =>
      cases h.reached.symm.trans hphase
      refine ⟨_, h.put hrun rfl
        (hcourse.lost hphase (howned.holder hphase rfl) (howned.kept hphase) cause) ?_⟩
      intro _ before hmem
      rcases List.mem_append.mp hmem with hmem | hmem
      · exact h.kept rfl before hmem
      · cases List.mem_singleton.mp hmem
  | connected hphase made =>
      cases h.reached.symm.trans hphase
      exact ⟨_, h.put hrun rfl
        (hcourse.connected (howned.holder hphase rfl) (h.kept rfl) made) nofun⟩
  | refused hphase cause =>
      cases h.reached.symm.trans hphase
      exact ⟨_, h.put hrun rfl
        (hcourse.refused (howned.holder hphase rfl) (h.kept rfl) cause) nofun⟩
  | closed hphase =>
      cases h.reached.symm.trans hphase
      exact absurd rfl hcourse.acquires.1
  | told hphase =>
      cases h.reached.symm.trans hphase
      exact absurd rfl hcourse.acquires.2

theorem other (h : Followed start moves pool call phase) (hrun : start.run? moves = some pool)
    (howned : Ownership pool) (hmove : pool.move? move = some next)
    (hother : move.eventOf? call = none) : Followed start (moves ++ [move]) next call phase := by
  have hsteps : stepsOf call start (moves ++ [move]) = stepsOf call start moves := by
    rw [stepsOf_concat hrun, hother]
    exact List.append_nil _
  refine ⟨?_, ?_, ?_⟩
  · cases move with
    | begin request =>
        cases hmove
        exact get?_begin.mpr (.inl h.reached)
    | step mover event =>
        have hne : call ≠ mover := by
          rintro rfl
          simp [Move.eventOf?] at hother
        obtain ⟨before, after, hmover, hcalls⟩ := (step?_eq_some_iff.mp hmove).put
        rw [hcalls]
        exact (get?_put hmover).mpr (.inr ⟨hne, h.reached⟩)
  · rw [hsteps]
    exact h.course
  · rw [hsteps]
    intro hholds before hmem
    have howner := howned.holder h.reached hholds
    exact (h.kept hholds before hmem).trans (slot_of_owned howned howner hmove hother).symm

end Followed

theorem stepsOf_eq_nil (hrun : start.run? moves = some pool) (hnew : pool.calls.length ≤ call) :
    stepsOf call start moves = [] := by
  refine run_induction
    (motive := fun moves pool => pool.calls.length ≤ call → stepsOf call start moves = [])
    (fun _ => rfl) ?_ hrun hnew
  intro moves pool move next hrun ih hmove hnew
  have hlength := length_calls_move hmove
  rw [stepsOf_concat hrun, ih (by omega)]
  cases move with
  | begin request => rfl
  | step mover event =>
      obtain ⟨before, after, hmover, _⟩ := (step?_eq_some_iff.mp hmove).put
      have hlt := (List.getElem?_eq_some_iff.mp hmover).1
      rw [Move.eventOf?, if_neg (by omega)]
      rfl

theorem Followed.begun (hrun : start.run? moves = some pool) :
    Followed start (moves ++ [.begin .acquire]) (pool.begin .looking) pool.calls.length .looking := by
  have hsteps : stepsOf pool.calls.length start (moves ++ [.begin .acquire]) = [] := by
    rw [stepsOf_concat hrun, stepsOf_eq_nil hrun (Nat.le_refl _)]
    rfl
  refine ⟨get?_begin.mpr (.inr ⟨rfl, rfl⟩), ?_, nofun⟩
  rw [hsteps]
  exact .begun

/-- Every call that was begun to acquire is in some phase, after a course that leads there. -/
theorem exists_followed (hstart : Ownership start) (hnone : start.calls = [])
    (hrun : start.run? moves = some pool) (hrequest : (requests moves)[call]? = some .acquire) :
    ∃ phase, Followed start moves pool call phase := by
  refine run_induction
    (motive := fun moves pool => (requests moves)[call]? = some .acquire →
      ∃ phase, Followed start moves pool call phase) nofun ?_ hrun hrequest
  intro moves pool move next hrun ih hmove hrequest
  have howned := hstart.run hrun
  rw [requests_concat] at hrequest
  cases move with
  | begin request =>
      have hlength : (requests moves).length = pool.calls.length := by
        rw [length_calls hrun, hnone, length_requests]
        exact (Nat.zero_add _).symm
      rw [Move.request?, Option.toList_some, List.getElem?_append, List.getElem?_singleton,
        hlength] at hrequest
      split at hrequest
      · obtain ⟨phase, hphase⟩ := ih hrequest
        exact ⟨phase, hphase.other hrun howned hmove rfl⟩
      · next hge =>
          obtain ⟨hlast, hacquire⟩ := Option.ite_none_right_eq_some.mp hrequest
          have hcall : call = pool.calls.length := by omega
          cases hacquire
          cases hmove
          rw [hcall]
          exact ⟨_, .begun hrun⟩
  | step mover event =>
      rw [Move.request?, Option.toList_none, List.append_nil] at hrequest
      obtain ⟨phase, hphase⟩ := ih hrequest
      by_cases hmover : mover = call
      · subst hmover
        exact hphase.step hrun howned (step?_eq_some_iff.mp hmove)
      · exact ⟨phase, hphase.other hrun howned hmove (if_neg hmover)⟩

theorem description_run (hrun : start.run? moves = some pool) :
    pool.description = start.description := by
  refine run_induction (motive := fun _ pool => pool.description = start.description) rfl ?_ hrun
  intro moves pool move next _ ih hmove
  rw [← ih]
  cases move with
  | begin request =>
      cases hmove
      rfl
  | step call event => cases step?_eq_some_iff.mp hmove <;> rfl

/-- A handle that is kept is returned to a call that looks at it and gets an answer. -/
theorem run?_reuse (howner : pool.owner = none) (hslot : pool.slot = some handle) :
    pool.run? [.begin .acquire, .step pool.calls.length .looked,
        .step pool.calls.length .answered] =
      some { pool with calls := pool.calls ++ [.acquired handle] } := by
  simp [run?, move?, begin, Request.phase, step?, look, put, howner, hslot]

/-- What holds of a call that acquires, whatever phase it has come to. -/
structure Faithful (start : Pool Handle) (moves : List (Move Handle)) (pool : Pool Handle)
    (call : Nat) (phase : Phase Handle) : Prop where
  pings : ((stepsOf call start moves).map (·.2)).countP Event.answers + phase.pingsLeft ≤ 2
  attempts : ((stepsOf call start moves).map (·.2)).countP Event.attempts + phase.attemptsLeft ≤ 1
  connecting : phase = .connecting → Lacks call (stepsOf call start moves) pool
  connected : ∀ before event, (before, event) ∈ stepsOf call start moves →
    event.attempts = true → Lacks call (stepsOf call start moves) before
  /-- The handle it returns has answered it, or was made by it. -/
  live : ∀ handle, phase = .acquired handle →
    (∃ asked, (asked, .answered) ∈ stepsOf call start moves ∧
      (asked.calls[call]?).bind Phase.pinged? = some handle) ∨
    ∃ asked, (asked, .connected handle) ∈ stepsOf call start moves
  failed_iff : (∃ failure, phase = .failed failure) ↔
    ∃ refusing cause, (refusing, .refused cause) ∈ stepsOf call start moves
  /-- The slot that it found with the lock is the slot that it leaves, and a handle there can be
  used again. -/
  unchanged : ∀ failure, phase = .failed failure → ∃ before refusing cause left,
    (before, .locked) ∈ stepsOf call start moves ∧
    (refusing, .refused cause) ∈ stepsOf call start moves ∧
    refusing.move? (.step call (.refused cause)) = some left ∧ left.slot = before.slot ∧
    failure = cause.under ("Failed to connect to " ++ start.description) ∧
    failure.chain = "Failed to connect to " ++ start.description ++ ": " ++ cause.chain ∧
    ∀ handle, before.slot = some handle →
      left.run? [.begin .acquire, .step left.calls.length .looked,
          .step left.calls.length .answered] =
        some { left with calls := left.calls ++ [.acquired handle] }

theorem Followed.unchanged (h : Followed start moves pool call phase)
    (hrun : start.run? moves = some pool) {failure : Failure} (hfailed : phase = .failed failure) :
    ∃ before refusing cause left, (before, .locked) ∈ stepsOf call start moves ∧
      (refusing, .refused cause) ∈ stepsOf call start moves ∧
      refusing.move? (.step call (.refused cause)) = some left ∧ left.slot = before.slot ∧
      failure = cause.under ("Failed to connect to " ++ start.description) ∧
      left.owner = none := by
  subst hfailed
  obtain ⟨before, refusing, cause, hlocked, hrefused, hfailure, hsame⟩ := h.course.refused_of_failed
  obtain ⟨earlier, later, hmoves, hearlier⟩ := of_mem_stepsOf hrefused
  subst hmoves
  obtain ⟨middle, hmiddle, hrest⟩ := run?_prefix hrun
  cases hearlier.symm.trans hmiddle
  obtain ⟨left, hleft, _⟩ := run?_cons hrest
  rw [connectFailure, description_run hearlier] at hfailure
  refine ⟨before, refusing, cause, left, hlocked, hrefused, hleft, ?_⟩
  cases step?_eq_some_iff.mp hleft with
  | refused => exact ⟨hsame, hfailure, rfl⟩

/-- Every call that acquires, in any run and whatever the pings and connection attempts come to,
pings at most twice and tries to connect at most once, that only as owner of the lock and for want
of a handle that answers; a handle that it returns has answered it or was made by it; and it fails
if and only if its attempt to connect does, leaving the slot as it was. -/
theorem acquire_faithful {description : String} {slot : Option Handle}
    (hrun : ({ description, slot } : Pool Handle).run? moves = some pool)
    (hrequest : (requests moves)[call]? = some .acquire) :
    ∃ phase, pool.calls[call]? = some phase ∧
      Faithful { description, slot } moves pool call phase := by
  have hstart := Ownership.initial description slot
  obtain ⟨phase, h⟩ := exists_followed hstart rfl hrun hrequest
  obtain ⟨hpings, hattempts⟩ := h.course.counts_le
  refine ⟨phase, h.reached, hpings, hattempts, ?_, ?_, ?_, ?_, ?_⟩
  · rintro rfl
    exact h.course.lacks ((hstart.run hrun).holder h.reached rfl) (h.kept rfl)
  · intro before event hmem htries
    exact h.course.lacks_of_attempts hmem htries
  · rintro handle rfl
    exact h.course.supplied
  · constructor
    · rintro ⟨failure, hfailed⟩
      obtain ⟨_, refusing, cause, _, _, hrefused, _⟩ := h.unchanged hrun hfailed
      exact ⟨refusing, cause, hrefused⟩
    · rintro ⟨refusing, cause, hrefused⟩
      exact h.course.failed_of_refused hrefused
  · intro failure hfailed
    obtain ⟨before, refusing, cause, left, hlocked, hrefused, hleft, hslot, hfailure, howner⟩ :=
      h.unchanged hrun hfailed
    refine ⟨before, refusing, cause, left, hlocked, hrefused, hleft, hslot, hfailure, ?_, ?_⟩
    · rw [hfailure]
      rfl
    · intro handle hkept
      exact run?_reuse howner (hslot.trans hkept)

/-- The handle of the first call does not answer the second one, which cannot connect either. The
handle stays, answers again, and is what the third call returns. -/
theorem acquire_faithful_recovered :
    let lost : Failure := { reason := "connection reset" }
    let refusal : Failure := { reason := "unreachable host" }
    let start : Pool Nat := { description := "store" }
    let moves : List (Move Nat) :=
      [.begin .acquire, .step 0 .looked, .step 0 .locked, .step 0 (.connected 1),
        .begin .acquire, .step 1 .looked, .begin .acquire, .step 1 (.unanswered lost),
        .step 1 .locked, .step 1 (.unanswered lost), .step 1 (.refused refusal), .step 2 .looked,
        .step 2 .answered]
    let failure : Failure :=
      { reason := "Failed to connect to store", causes := ["unreachable host"] }
    let pool : Pool Nat :=
      { description := "store", slot := some 1
        calls := [.acquired 1, .failed failure, .acquired 1] }
    (start.run? moves = some pool ∧ (requests moves)[1]? = some .acquire) ∧
      Faithful start moves pool 1 (.failed failure) ∧
      ∃ refusing cause, (refusing, .refused cause) ∈ stepsOf 1 start moves := by
  intro lost refusal start moves failure pool
  have hrun : start.run? moves = some pool := rfl
  have hrequest : (requests moves)[1]? = some .acquire := rfl
  obtain ⟨phase, hphase, hfaithful⟩ := acquire_faithful hrun hrequest
  cases hphase
  exact ⟨⟨hrun, hrequest⟩, hfaithful, hfaithful.failed_iff.mp ⟨failure, rfl⟩⟩

end Pool
end DocumentCatalog
