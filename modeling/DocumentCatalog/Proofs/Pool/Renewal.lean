import DocumentCatalog.Proofs.Pool.Ownership

/-!
What a disconnect brings about. Calls that are under way may still hold the handle that it drops,
but none of them puts it back: the handles that are kept later, and those that calls come by which
begin later, are made by connections that start later.
-/

namespace DocumentCatalog

variable {Handle : Type}

/-- The handle that a call has come by. -/
def Phase.handle? : Phase Handle → Option Handle
  | .pinging handle | .rechecking handle | .acquired handle => some handle
  | _ => none

theorem Request.handle?_phase (request : Request) :
    (request.phase : Phase Handle).handle? = none := by
  cases request <;> rfl

namespace Pool

variable {start pool next : Pool Handle} {moves more : List (Move Handle)} {move : Move Handle}
  {call other : Nat} {before after : Phase Handle} {handle : Handle}

/-- With this move a call starts to connect. -/
def Opens (pool : Pool Handle) (move : Move Handle) (call : Nat) : Prop :=
  pool.calls[call]? ≠ some .connecting ∧
    ∃ next, pool.move? move = some next ∧ next.calls[call]? = some .connecting

/-- A call started to connect in the course of the moves, and has not moved since. -/
def Underway (start : Pool Handle) (moves : List (Move Handle)) (call : Nat) : Prop :=
  ∃ first opening rest pool, moves = first ++ opening :: rest ∧ start.run? first = some pool ∧
    pool.Opens opening call ∧ ∀ event, .step call event ∉ rest

/-- A connection started in the course of the moves, and ended with this handle. -/
def Fresh (start : Pool Handle) (moves : List (Move Handle)) (handle : Handle) : Prop :=
  ∃ first call rest, moves = first ++ .step call (.connected handle) :: rest ∧
    Underway start first call

theorem Opens.underway (hopens : pool.Opens move call) (hrun : start.run? moves = some pool) :
    Underway start (moves ++ [move]) call :=
  ⟨moves, move, [], pool, rfl, hrun, hopens, fun _ => List.not_mem_nil⟩

theorem Underway.concat (h : Underway start moves call) (hmove : ∀ event, move ≠ .step call event) :
    Underway start (moves ++ [move]) call := by
  obtain ⟨first, opening, rest, pool, rfl, hrun, hopens, hrest⟩ := h
  refine ⟨first, opening, rest ++ [move], pool, by simp, hrun, hopens, ?_⟩
  intro event hmem
  rcases List.mem_append.mp hmem with hmem | hmem
  · exact hrest event hmem
  · exact hmove event (List.mem_singleton.mp hmem).symm

theorem Underway.fresh (h : Underway start moves call) :
    Fresh start (moves ++ [.step call (.connected handle)]) handle :=
  ⟨moves, call, [], rfl, h⟩

namespace Fresh

theorem append (h : Fresh start moves handle) : Fresh start (moves ++ more) handle := by
  obtain ⟨first, call, rest, rfl, hunderway⟩ := h
  exact ⟨first, call, rest ++ more, by simp, hunderway⟩

theorem mem_connections (h : Fresh start moves handle) : handle ∈ connections moves := by
  obtain ⟨first, call, rest, rfl, _⟩ := h
  rw [connections_append]
  exact List.mem_append_right _ List.mem_cons_self

end Fresh

/-- Nothing from before the moves is left, except with the calls that were there before: the handle
kept and those that later calls have come by are new, and so is every attempt to connect. -/
structure Renewed (start : Pool Handle) (moves : List (Move Handle)) (pool : Pool Handle) :
    Prop where
  kept : ∀ {handle}, pool.slot = some handle → Fresh start moves handle
  connecting : ∀ {call : Nat}, pool.calls[call]? = some .connecting → Underway start moves call
  begun : ∀ {call : Nat} {phase : Phase Handle} {handle : Handle}, start.calls.length ≤ call →
    pool.calls[call]? = some phase → phase.handle? = some handle → Fresh start moves handle

namespace Renewed

theorem initial (hslot : pool.slot = none)
    (hidle : ∀ call : Nat, pool.calls[call]? ≠ some .connecting) : Renewed pool [] pool where
  kept hkept := by
    rw [hslot] at hkept
    cases hkept
  connecting hcall := absurd hcall (hidle _)
  begun hnew hcall := by
    rw [List.getElem?_eq_none hnew] at hcall
    cases hcall

theorem begin (h : Renewed start moves pool) (request : Request) :
    Renewed start (moves ++ [.begin request]) (pool.begin request.phase) where
  kept hkept := (h.kept hkept).append
  connecting hcall := by
    rcases get?_begin.mp hcall with hcall | ⟨_, hphase⟩
    · exact (h.connecting hcall).concat nofun
    · cases request <;> cases hphase
  begun hnew hcall hhandle := by
    rcases get?_begin.mp hcall with hcall | ⟨_, rfl⟩
    · exact (h.begun hnew hcall hhandle).append
    · rw [request.handle?_phase] at hhandle
      cases hhandle

/-- What is to be shown of a step that moves a call from one phase to another. -/
theorem put {event : Event Handle} (h : Renewed start moves pool)
    (hcall : pool.calls[call]? = some before) (hcalls : next.calls = (pool.put call after).calls)
    (hkept : ∀ handle, next.slot = some handle →
      pool.slot = some handle ∨ Fresh start (moves ++ [.step call event]) handle)
    (hconnecting : after = .connecting → Underway start (moves ++ [.step call event]) call)
    (hbegun : ∀ handle, after.handle? = some handle → before.handle? = some handle ∨
      Fresh start (moves ++ [.step call event]) handle) :
    Renewed start (moves ++ [.step call event]) next where
  kept hslot := by
    rcases hkept _ hslot with hslot | hfresh
    · exact (h.kept hslot).append
    · exact hfresh
  connecting hother := by
    rw [hcalls] at hother
    rcases (get?_put hcall).mp hother with ⟨rfl, hafter⟩ | ⟨hne, hother⟩
    · exact hconnecting hafter.symm
    · exact (h.connecting hother).concat (by rintro _ ⟨⟩; exact hne rfl)
  begun hnew hother hhandle := by
    rw [hcalls] at hother
    rcases (get?_put hcall).mp hother with ⟨rfl, rfl⟩ | ⟨_, hother⟩
    · rcases hbegun _ hhandle with hhandle | hfresh
      · exact (h.begun hnew hcall hhandle).append
      · exact hfresh
    · exact (h.begun hnew hother hhandle).append

theorem step {event : Event Handle} (h : Renewed start moves pool)
    (hrun : start.run? moves = some pool) (hstep : Step pool call event next) :
    Renewed start (moves ++ [.step call event]) next := by
  have hmove : pool.move? (.step call event) = some next := step?_eq_some_iff.mpr hstep
  cases hstep with
  | seen phase free kept | locked phase free kept =>
      refine h.put phase rfl (fun _ => .inl) nofun ?_
      rintro handle ⟨⟩
      exact .inr (h.kept kept).append
  | answered phase | rechecked phase => exact h.put phase rfl (fun _ => .inl) nofun fun _ => .inl
  | unseen phase | unanswered phase | refused phase | told phase =>
      exact h.put phase rfl (fun _ => .inl) nofun nofun
  | lockedEmpty phase | lost phase =>
      have hopens : pool.Opens (.step call _) call :=
        ⟨by rw [phase]; nofun, _, hmove, (get?_put phase).mpr (.inl ⟨rfl, rfl⟩)⟩
      exact h.put phase rfl (fun _ => .inl) (fun _ => hopens.underway hrun) nofun
  | connected phase handle =>
      have hfresh : Fresh start (moves ++ [.step call (.connected handle)]) handle :=
        (h.connecting phase).fresh
      exact h.put phase rfl (by rintro _ ⟨⟩; exact .inr hfresh) nofun
        (by rintro _ ⟨⟩; exact .inr hfresh)
  | closed phase => exact h.put phase rfl nofun nofun nofun

theorem run (hslot : start.slot = none)
    (hidle : ∀ call : Nat, start.calls[call]? ≠ some .connecting)
    (hrun : start.run? moves = some pool) : Renewed start moves pool := by
  refine run_induction (motive := Renewed start) (initial hslot hidle) ?_ hrun
  intro moves pool move next hrun h hmove
  cases move with
  | begin request =>
      cases hmove
      exact h.begin request
  | step call event => exact h.step hrun (step?_eq_some_iff.mp hmove)

end Renewed

/-- A disconnect leaves no handle, and nobody who owns the lock. -/
theorem closed_empty (hclosing : pool.calls[call]? = some .closing)
    (hclose : pool.move? (.step call .locked) = some next) :
    next.slot = none ∧ next.owner = none := by
  cases step?_eq_some_iff.mp hclose with
  | locked phase | lockedEmpty phase =>
      rw [phase] at hclosing
      cases hclosing
  | closed phase free => exact ⟨rfl, free⟩

/-- A call that begins after a disconnect has ended returns the handle of a connection that started
after it, whatever the calls are doing that were there before. Where every connection makes a handle
of its own, this is none that was there before. -/
theorem acquired_after_disconnect {description : String} {slot : Option Handle} {closer : Nat}
    {earlier between later : List (Move Handle)} {opened closed ready : Pool Handle}
    (hopened : ({ description, slot } : Pool Handle).run? earlier = some opened)
    (hclosing : opened.calls[closer]? = some .closing)
    (hclose : opened.move? (.step closer .locked) = some closed)
    (hready : closed.run? between = some ready)
    (hrun : ready.run? (.begin .acquire :: later) = some pool)
    (hacquired : pool.calls[ready.calls.length]? = some (.acquired handle)) :
    Fresh closed (between ++ .begin .acquire :: later) handle ∧
      ((slot.toList ++ connections
          (earlier ++ .step closer .locked :: (between ++ .begin .acquire :: later))).Nodup →
        handle ∉ slot.toList ++ connections earlier) := by
  obtain ⟨hslot, howner⟩ := closed_empty hclosing hclose
  have howned : Ownership closed := ((Ownership.initial description slot).run hopened).move hclose
  have hidle : ∀ call : Nat, closed.calls[call]? ≠ some .connecting := by
    intro call hcall
    rw [howned.holder hcall rfl] at howner
    cases howner
  have hwhole : closed.run? (between ++ .begin .acquire :: later) = some pool := by
    rw [run?_append, hready]
    exact hrun
  have hnew : closed.calls.length ≤ ready.calls.length := by
    rw [length_calls hready]
    exact Nat.le_add_right _ _
  have hfresh := (Renewed.run hslot hidle hwhole).begun hnew hacquired rfl
  refine ⟨hfresh, ?_⟩
  intro hdistinct hmem
  rw [connections_append, ← List.append_assoc] at hdistinct
  exact (List.nodup_append.mp hdistinct).2.2 handle hmem handle hfresh.mem_connections rfl

/-- One call connects, and another one sees its handle right before the disconnect. It gets no
answer, is the first to connect again, and the call that began after the disconnect finds that
handle. -/
theorem acquired_after_disconnect_overtaken :
    let earlier : List (Move Nat) :=
      [.begin .acquire, .step 0 .looked, .step 0 .locked, .step 0 (.connected 1),
        .begin .acquire, .step 1 .looked, .begin .disconnect]
    let between : List (Move Nat) := [.step 1 (.unanswered { reason := "connection reset" })]
    let later : List (Move Nat) :=
      [.step 3 .looked, .step 1 .locked, .step 1 (.connected 2), .step 3 .locked,
        .step 3 .answered]
    let opened : Pool Nat :=
      { description := "store", slot := some 1, calls := [.acquired 1, .pinging 1, .closing] }
    let closed : Pool Nat :=
      { description := "store", calls := [.acquired 1, .pinging 1, .closed] }
    let ready : Pool Nat :=
      { description := "store", calls := [.acquired 1, .waiting, .closed] }
    let pool : Pool Nat :=
      { description := "store", slot := some 2
        calls := [.acquired 1, .acquired 2, .closed, .acquired 2] }
    (({ description := "store" } : Pool Nat).run? earlier = some opened ∧
      opened.move? (.step 2 .locked) = some closed ∧ closed.run? between = some ready ∧
      ready.run? (.begin .acquire :: later) = some pool) ∧
      Fresh closed (between ++ .begin .acquire :: later) 2 ∧ 2 ∉ connections earlier := by
  intro earlier between later opened closed ready pool
  have hopened : ({ description := "store" } : Pool Nat).run? earlier = some opened := rfl
  have hclose : opened.move? (.step 2 .locked) = some closed := rfl
  have hready : closed.run? between = some ready := rfl
  have hrun : ready.run? (.begin .acquire :: later) = some pool := rfl
  have hacquired : pool.calls[ready.calls.length]? = some (.acquired 2) := rfl
  obtain ⟨hfresh, hold⟩ :=
    acquired_after_disconnect hopened rfl hclose hready hrun hacquired
  exact ⟨⟨hopened, hclose, hready, hrun⟩, hfresh, hold (by decide)⟩

end Pool
end DocumentCatalog
