import DocumentCatalog.Service.Parameters

/-!
Reading the pairs of a query. They are accepted exactly if no parameter is given twice, and then a
parameter has the value that stands with its name; pairs of other names do not count.
-/

namespace DocumentCatalog
namespace Service

theorem Parameter.ofName?_eq_some_iff {name : String} {parameter : Parameter} :
    Parameter.ofName? name = some parameter ↔ parameter.name = name := by
  constructor
  · intro h
    simpa using List.find?_some h
  · rintro rfl
    cases parameter <;> decide

namespace Parameters

/-- The parameters among the names of some pairs. -/
def named (pairs : List (String × String)) : List Parameter :=
  pairs.filterMap fun pair => Parameter.ofName? pair.1

/-- Whether no parameter is given twice, whatever else is given. -/
def GivenOnce (pairs : List (String × String)) : Prop :=
  (named pairs).Nodup

instance (pairs : List (String × String)) : Decidable (GivenOnce pairs) :=
  inferInstanceAs (Decidable (named pairs).Nodup)

def ofValues (value? : Parameter → Option String) : Parameters where
  page := value? .page
  take := value? .take
  sortField := value? .sortField
  sortDirection := value? .sortDirection
  search := value? .search
  filter := value? .filter
  ids := value? .ids

/-- The values that stand with the names of the parameters. -/
def stated (pairs : List (String × String)) : Parameters :=
  ofValues fun parameter => pairs.lookup parameter.name

theorem get?_set (p : Parameters) (value : String) (parameter other : Parameter) :
    (p.set value parameter).get? other =
      if parameter = other then some value else p.get? other := by
  cases parameter <;> cases other <;> rfl

theorem ofValues_get? (p : Parameters) : ofValues p.get? = p :=
  rfl

theorem named_cons (pair : String × String) (pairs : List (String × String)) :
    named (pair :: pairs) = (Parameter.ofName? pair.1).toList ++ named pairs := by
  cases h : Parameter.ofName? pair.1 <;> simp [named, h]

theorem add_of_unnamed {pair : String × String} (h : Parameter.ofName? pair.1 = none)
    (p : Parameters) : p.add pair = .ok p := by
  simp [add, h]

theorem add_of_named {pair : String × String} {parameter : Parameter}
    (h : Parameter.ofName? pair.1 = some parameter) (p : Parameters) :
    p.add pair =
      if (p.get? parameter).isSome then .error ⟨pair.1⟩ else .ok (p.set pair.2 parameter) := by
  simp [add, h]

theorem lookup_name (pair : String × String) (pairs : List (String × String))
    (parameter : Parameter) :
    (pair :: pairs).lookup parameter.name =
      if Parameter.ofName? pair.1 = some parameter then some pair.2
      else pairs.lookup parameter.name := by
  rw [List.lookup_cons]
  by_cases h : parameter.name = pair.1
  · simp [h, Parameter.ofName?_eq_some_iff.mpr h]
  · have hne : Parameter.ofName? pair.1 ≠ some parameter := by
      rwa [Ne, Parameter.ofName?_eq_some_iff]
    simp [hne, beq_eq_false_iff_ne.mpr h]

/-- Pairs that name nothing twice and nothing that has a value already are taken in one by one. -/
theorem foldlM_add {p : Parameters} {pairs : List (String × String)} (honce : (named pairs).Nodup)
    (hfree : ∀ parameter ∈ named pairs, p.get? parameter = none) :
    pairs.foldlM add p =
      .ok (ofValues fun parameter => (p.get? parameter).or (pairs.lookup parameter.name)) := by
  induction pairs generalizing p with
  | nil =>
      simp only [List.lookup_nil, Option.or_none]
      exact congrArg Except.ok (ofValues_get? p).symm
  | cons pair pairs ih =>
      simp only [List.foldlM_cons, lookup_name]
      cases hname : Parameter.ofName? pair.1 with
      | none =>
          rw [named_cons, hname] at honce hfree
          rw [add_of_unnamed hname]
          exact (ih honce hfree).trans (by simp)
      | some parameter =>
          rw [named_cons, hname] at honce hfree
          obtain ⟨hnew, honce⟩ := List.nodup_cons.mp honce
          obtain ⟨habsent, hfree⟩ := List.forall_mem_cons.mp hfree
          have hset : ∀ other ∈ named pairs, (p.set pair.2 parameter).get? other = none := by
            intro other hother
            have hne : parameter ≠ other := by
              rintro rfl
              exact hnew hother
            rw [get?_set, if_neg hne, hfree other hother]
          rw [add_of_named hname, if_neg (by simp [habsent])]
          refine (ih honce hset).trans ?_
          congr 2
          funext other
          rw [get?_set]
          by_cases hother : parameter = other
          · subst hother
            simp [habsent]
          · simp [hother]

theorem foldlM_add_error {p : Parameters} {pairs : List (String × String)}
    (h : ¬ ((named pairs).Nodup ∧ ∀ parameter ∈ named pairs, p.get? parameter = none)) :
    ∃ parameter ∈ named pairs, pairs.foldlM add p = .error ⟨parameter.name⟩ := by
  induction pairs generalizing p with
  | nil => exact absurd ⟨List.nodup_nil, by simp [named]⟩ h
  | cons pair pairs ih =>
      rw [named_cons] at h ⊢
      simp only [List.foldlM_cons]
      cases hname : Parameter.ofName? pair.1 with
      | none =>
          rw [hname] at h
          rw [add_of_unnamed hname]
          exact ih h
      | some parameter =>
          rw [hname] at h
          rw [add_of_named hname]
          cases hvalue : p.get? parameter with
          | some value =>
              refine ⟨parameter, List.mem_cons_self, ?_⟩
              rw [Parameter.ofName?_eq_some_iff.mp hname]
              rfl
          | none =>
              obtain ⟨other, hother, herror⟩ : ∃ other ∈ named pairs,
                  pairs.foldlM add (p.set pair.2 parameter) = .error ⟨other.name⟩ := by
                apply ih
                rintro ⟨honce, hfree⟩
                simp only [get?_set] at hfree
                apply h
                refine ⟨List.nodup_cons.mpr ⟨fun hmem => ?_, honce⟩,
                  List.forall_mem_cons.mpr ⟨hvalue, fun other hother => ?_⟩⟩
                · simpa using hfree parameter hmem
                · have := hfree other hother
                  split at this
                  · cases this
                  · exact this
              exact ⟨other, List.mem_cons_of_mem _ hother, herror⟩

variable {pairs : List (String × String)}

theorem ofPairs_of_givenOnce (h : GivenOnce pairs) : ofPairs pairs = .ok (stated pairs) := by
  have hfree : ∀ parameter ∈ named pairs, ({} : Parameters).get? parameter = none := by
    intro parameter _
    cases parameter <;> rfl
  refine (foldlM_add h hfree).trans ?_
  rw [stated]
  congr 2
  funext parameter
  cases parameter <;> rfl

theorem ofPairs_of_not_givenOnce (h : ¬ GivenOnce pairs) :
    ∃ parameter ∈ named pairs, ofPairs pairs = .error ⟨parameter.name⟩ :=
  foldlM_add_error fun hboth => h hboth.1

end Parameters
end Service
end DocumentCatalog
