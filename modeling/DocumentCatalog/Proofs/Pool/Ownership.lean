import DocumentCatalog.Proofs.Pool.Runs

/-!
The lock of a pool. It belongs to the call that is checking the handle again or connecting, to no
other call, and nobody else replaces the handle in the meantime.
-/

namespace DocumentCatalog

variable {Handle : Type}

/-- Whether a call in this phase owns the lock. -/
def Phase.holdsLock : Phase Handle → Bool
  | .rechecking _ | .connecting => true
  | _ => false

theorem Request.holdsLock_phase (request : Request) :
    (request.phase : Phase Handle).holdsLock = false := by
  cases request <;> rfl

namespace Pool

variable {pool next : Pool Handle} {call other : Nat} {before after phase : Phase Handle}

theorem get?_begin :
    (pool.begin after).calls[call]? = some phase ↔
      pool.calls[call]? = some phase ∨ call = pool.calls.length ∧ phase = after := by
  change (pool.calls ++ [after])[call]? = some phase ↔ _
  rw [List.getElem?_append, List.getElem?_singleton]
  split
  · next hlt => simp [Nat.ne_of_lt hlt]
  · next hge =>
      rw [List.getElem?_eq_none (Nat.le_of_not_lt hge)]
      have hsub : call - pool.calls.length = 0 ↔ call = pool.calls.length := by omega
      simp [hsub, eq_comm]

theorem get?_put (hcall : pool.calls[call]? = some before) :
    (pool.put call after).calls[other]? = some phase ↔
      other = call ∧ phase = after ∨ other ≠ call ∧ pool.calls[other]? = some phase := by
  have hlt := (List.getElem?_eq_some_iff.mp hcall).1
  change (pool.calls.set call after)[other]? = some phase ↔ _
  by_cases hother : other = call
  · subst hother
    rw [List.getElem?_set_self hlt]
    simp [eq_comm]
  · rw [List.getElem?_set_ne (Ne.symm hother)]
    simp [hother]

theorem mem_begin : ∀ phase ∈ (pool.begin after).calls, phase ∈ pool.calls ∨ phase = after := by
  intro phase hmem
  rw [← List.mem_singleton, ← List.mem_append]
  exact hmem

theorem mem_put : ∀ phase ∈ (pool.put call after).calls, phase ∈ pool.calls ∨ phase = after :=
  fun _ hmem => List.mem_or_eq_of_mem_set hmem

/-- The lock belongs to the one call in a phase that needs it, and a handle is checked again only as
long as it is the handle kept. -/
structure Ownership (pool : Pool Handle) : Prop where
  holder : ∀ {call : Nat} {phase : Phase Handle}, pool.calls[call]? = some phase →
    phase.holdsLock = true → pool.owner = some call
  held : ∀ {call : Nat}, pool.owner = some call →
    ∃ phase, pool.calls[call]? = some phase ∧ phase.holdsLock = true
  kept : ∀ {call : Nat} {handle : Handle}, pool.calls[call]? = some (.rechecking handle) →
    pool.slot = some handle

namespace Ownership

theorem initial (description : String) (slot : Option Handle) :
    Ownership { description, slot : Pool Handle } where
  holder h := by simp at h
  held h := by simp at h
  kept h := by simp at h

theorem unique (h : Ownership pool) {phase' : Phase Handle}
    (hcall : pool.calls[call]? = some phase) (hphase : phase.holdsLock = true)
    (hother : pool.calls[other]? = some phase') (hphase' : phase'.holdsLock = true) :
    call = other := by
  have howner := h.holder hcall hphase
  rw [h.holder hother hphase'] at howner
  exact (Option.some.inj howner).symm

/-- Where the lock, the handle and the calls that own the lock are the same, nothing is lost. -/
theorem congr (h : Ownership pool) (howner : next.owner = pool.owner)
    (hslot : next.slot = pool.slot)
    (hcalls : ∀ (call : Nat) (phase : Phase Handle), phase.holdsLock = true →
      (next.calls[call]? = some phase ↔ pool.calls[call]? = some phase)) : Ownership next where
  holder hcall hholds := by
    rw [howner]
    exact h.holder ((hcalls _ _ hholds).mp hcall) hholds
  held hcall := by
    rw [howner] at hcall
    obtain ⟨phase, hphase, hholds⟩ := h.held hcall
    exact ⟨phase, (hcalls _ _ hholds).mpr hphase, hholds⟩
  kept hcall := by
    rw [hslot]
    exact h.kept ((hcalls _ _ rfl).mp hcall)

theorem begin (h : Ownership pool) (hafter : after.holdsLock = false) :
    Ownership (pool.begin after) := by
  refine h.congr rfl rfl ?_
  intro call phase hholds
  have hne : phase ≠ after := by
    rintro rfl
    rw [hafter] at hholds
    cases hholds
  simp [get?_begin, hne]

theorem put (h : Ownership pool) (hcall : pool.calls[call]? = some before)
    (hbefore : before.holdsLock = false) (hafter : after.holdsLock = false) :
    Ownership (pool.put call after) := by
  refine h.congr rfl rfl ?_
  intro other phase hholds
  rw [get?_put hcall]
  constructor
  · rintro (⟨rfl, rfl⟩ | ⟨_, hother⟩)
    · rw [hafter] at hholds
      cases hholds
    · exact hother
  · intro hother
    refine .inr ⟨?_, hother⟩
    rintro rfl
    rw [hcall] at hother
    cases hother
    rw [hbefore] at hholds
    cases hholds

/-- A call that no other keeps from the lock may take it, give it back and replace the handle. -/
theorem settle (h : Ownership pool) (alone : pool.owner = none ∨ pool.owner = some call)
    (hcall : pool.calls[call]? = some before) {slot : Option Handle} {owner : Option Nat}
    (howner : owner = if after.holdsLock then some call else none)
    (hkept : ∀ handle, after = .rechecking handle → slot = some handle) :
    Ownership { pool.put call after with slot, owner } := by
  -- whoever else were in a phase that needs the lock would own it already
  have hcalls : ∀ {other : Nat} {phase : Phase Handle},
      (pool.put call after).calls[other]? = some phase → phase.holdsLock = true →
      other = call ∧ phase = after := by
    intro other phase hother hholds
    rcases (get?_put hcall).mp hother with heq | ⟨hne, hother⟩
    · exact heq
    · have hother := h.holder hother hholds
      rcases alone with hnone | hsome
      · rw [hnone] at hother
        cases hother
      · rw [hsome] at hother
        exact absurd (Option.some.inj hother).symm hne
  refine ⟨?_, ?_, ?_⟩
  · intro other phase hother hholds
    obtain ⟨rfl, rfl⟩ := hcalls hother hholds
    exact howner.trans (if_pos hholds)
  · intro other hsome
    change owner = some other at hsome
    rw [howner] at hsome
    split at hsome
    · next hholds =>
        cases hsome
        exact ⟨after, (get?_put hcall).mpr (.inl ⟨rfl, rfl⟩), hholds⟩
    · cases hsome
  · intro other handle hother
    exact hkept handle (hcalls hother rfl).2.symm

theorem step {event : Event Handle} (h : Ownership pool) (hstep : Step pool call event next) :
    Ownership next := by
  cases hstep with
  | seen phase | unseen phase | answered phase | unanswered phase | told phase =>
      exact h.put phase rfl rfl
  | locked phase free kept =>
      exact h.settle (.inl free) phase rfl (by rintro _ ⟨⟩; exact kept)
  | lockedEmpty phase free => exact h.settle (.inl free) phase rfl nofun
  | lost phase =>
      have howner := h.holder phase rfl
      have hnext : Ownership
          { pool.put call .connecting with slot := pool.slot, owner := pool.owner } :=
        h.settle (.inr howner) phase howner nofun
      exact hnext
  | rechecked phase | connected phase | refused phase =>
      exact h.settle (.inr (h.holder phase rfl)) phase rfl nofun
  | closed phase free => exact h.settle (.inl free) phase free nofun

theorem move {move : Move Handle} (h : Ownership pool) (hmove : pool.move? move = some next) :
    Ownership next := by
  cases move with
  | begin request =>
      cases hmove
      exact h.begin request.holdsLock_phase
  | step call event => exact h.step (step?_eq_some_iff.mp hmove)

theorem run {start : Pool Handle} {moves : List (Move Handle)} (h : Ownership start)
    (hrun : start.run? moves = some pool) : Ownership pool := by
  have hkept : ∀ moves pool move next, start.run? moves = some pool → Ownership pool →
      pool.move? move = some next → Ownership next :=
    fun _ _ _ _ _ h hmove => h.move hmove
  exact run_induction h hkept hrun

end Ownership
end Pool
end DocumentCatalog
