import DocumentCatalog.Proofs.Json.Alike
import DocumentCatalog.Proofs.Query.Order
import DocumentCatalog.Proofs.Query.Selection

/-!
What selecting and sorting read of a document: the values at the paths that the conditions and the
keys name, and of these nothing that depends on the order of the members of an object.
-/

namespace DocumentCatalog
namespace Query

open Json (Alike rel_or rel_bind)

mutual

/-- The paths that the conditions name, those below the combining keys included. -/
def paths : List (String × Json) → List String
  | [] => []
  | (key, condition) :: rest => pathsEntry key condition ++ paths rest

def pathsEntry (key : String) : Json → List String
  | .array items =>
      if key = Filter.andKey ∨ key = Filter.orKey then pathsEach items else [key]
  | _ => if key = Filter.andKey ∨ key = Filter.orKey then [] else [key]

def pathsEach : List Json → List String
  | [] => []
  | .object conditions :: rest => paths conditions ++ pathsEach rest
  | _ :: rest => pathsEach rest

end

mutual

/-- The conditions on fields with their paths, those below the combining keys included. -/
def fieldConditions : List (String × Json) → List (String × Json)
  | [] => []
  | (key, condition) :: rest => fieldConditionsEntry key condition ++ fieldConditions rest

def fieldConditionsEntry (key : String) : Json → List (String × Json)
  | .array items =>
      if key = Filter.andKey ∨ key = Filter.orKey then fieldConditionsEach items
      else [(key, .array items)]
  | condition => if key = Filter.andKey ∨ key = Filter.orKey then [] else [(key, condition)]

def fieldConditionsEach : List Json → List (String × Json)
  | [] => []
  | .object conditions :: rest => fieldConditions conditions ++ fieldConditionsEach rest
  | _ :: rest => fieldConditionsEach rest

end

mutual

theorem paths_eq : ∀ conditions : List (String × Json),
    paths conditions = (fieldConditions conditions).map (·.1)
  | [] => rfl
  | (key, condition) :: rest => by
      rw [paths, fieldConditions, List.map_append, pathsEntry_eq key condition, paths_eq rest]

theorem pathsEntry_eq (key : String) : ∀ condition : Json,
    pathsEntry key condition = (fieldConditionsEntry key condition).map (·.1)
  | .array items => by
      rw [pathsEntry, fieldConditionsEntry, pathsEach_eq items]
      split <;> rfl
  | .null | .bool _ | .number _ | .string _ | .object _ => by
      rw [pathsEntry, fieldConditionsEntry]
      · split <;> rfl
      all_goals simp

theorem pathsEach_eq : ∀ items : List Json,
    pathsEach items = (fieldConditionsEach items).map (·.1)
  | [] => rfl
  | .object conditions :: rest => by
      rw [pathsEach, fieldConditionsEach, List.map_append, paths_eq conditions, pathsEach_eq rest]
  | .null :: rest | .bool _ :: rest | .number _ :: rest | .string _ :: rest | .array _ :: rest =>
      pathsEach_eq rest

end

variable {x y : Json}

theorem equal_alike (h : Alike x y) (expected : Json) : equal x expected = equal y expected := by
  rcases h.shape with rfl | ⟨members, others, rfl, rfl⟩ | ⟨items, others, rfl, rfl⟩
  · rfl
  · exact h.same expected
  · exact h.same expected

theorem compare?_alike (h : Alike x y) (operand : Json) :
    compare? x operand = compare? y operand := by
  rcases h.shape with rfl | ⟨members, others, rfl, rfl⟩ | ⟨items, others, rfl, rfl⟩ <;> rfl

theorem matchesPattern_alike (h : Alike x y) (flags : Pattern.Flags) (pattern : Json) :
    matchesPattern flags x pattern = matchesPattern flags y pattern := by
  rcases h.shape with rfl | ⟨members, others, rfl, rfl⟩ | ⟨items, others, rfl, rfl⟩ <;> rfl

theorem equalOrContains_alike (h : Alike x y) (expected : Json) :
    equalOrContains x expected = equalOrContains y expected := by
  induction h with
  | refl x => rfl
  | trans _ _ ihxy ihyz => exact ihxy.trans ihyz
  | reorder hdistinct hperm =>
      simp [equalOrContains, equal_alike (.reorder hdistinct hperm)]
  | member before after key h _ =>
      simp [equalOrContains, equal_alike (.member before after key h)]
  | item before after h _ =>
      simp [equalOrContains, equal_alike (.item before after h), equal_alike h]

theorem isAmong_alike (h : Alike x y) (candidates : Json) :
    isAmong x candidates = isAmong y candidates := by
  cases candidates with
  | array candidates => simp [isAmong, equalOrContains_alike h]
  | _ => rfl

theorem compares_alike (h : Alike x y) (operator : Filter.Operator) (operand : Json) :
    compares operator x operand = compares operator y operand := by
  cases operator with
  | eq => exact equalOrContains_alike h operand
  | lt | lte | gt | gte => simp [compares, compare?_alike h]

variable {v w : Option Json}

theorem holds_alike (h : Option.Rel Alike v w) (test : Test) (tests : Entries Json)
    (operand : Json) : test.holds tests v operand = test.holds tests w operand := by
  cases h with
  | none => rfl
  | some h =>
      cases test with
      | comparison operator => exact compares_alike h operator operand
      | among => exact isAmong_alike h operand
      | pattern => exact matchesPattern_alike h _ operand
      | options | unknown => rfl

theorem meets_alike (h : Option.Rel Alike v w) (condition : Json) :
    meets v condition = meets w condition := by
  unfold meets
  cases tests? condition with
  | some tests => simp only [holds_alike h]
  | none =>
      cases h with
      | none => rfl
      | some h => exact equalOrContains_alike h condition

/-- The places among the values and among their kind do not depend on the order of members. -/
theorem places_alike (h : Option.Rel Alike v w) :
    kindRank v = kindRank w ∧ amount v = amount w ∧ letters v = letters w := by
  cases h with
  | none => exact ⟨rfl, rfl, rfl⟩
  | some h =>
      rcases h.shape with rfl | ⟨members, others, rfl, rfl⟩ | ⟨items, others, rfl, rfl⟩ <;>
        exact ⟨rfl, rfl, rfl⟩

theorem compareForSort_alike {v' w' : Option Json} (hv : Option.Rel Alike v v')
    (hw : Option.Rel Alike w w') : compareForSort v w = compareForSort v' w' := by
  obtain ⟨hkind, hamount, hletters⟩ := places_alike hv
  obtain ⟨hkind', hamount', hletters'⟩ := places_alike hw
  simp only [compareForSort_eq, compareLex, compareOn, hkind, hamount, hletters, hkind', hamount',
    hletters']

theorem resolve?_cons (document : Json) (first : String) (rest : List String) :
    resolve? document (first :: rest) =
      (document.member? (Text.join '.' (first :: rest))).or
        ((document.member? first).bind fun inner => resolve? inner rest) := by
  rw [resolve?]
  cases document.member? (Text.join '.' (first :: rest)) <;> rfl

/-- What is found at a path is related as the documents are, if members are. -/
theorem resolve?_rel {r : Json → Json → Prop}
    (hmember : ∀ {x y}, r x y → ∀ key, Option.Rel r (x.member? key) (y.member? key)) (h : r x y)
    (components : List String) :
    Option.Rel r (resolve? x components) (resolve? y components) := by
  induction components generalizing x y with
  | nil => exact .none
  | cons first rest ih =>
      rw [resolve?_cons, resolve?_cons]
      exact rel_or (hmember h _) (rel_bind (hmember h first) ih)

/-- Whether two documents have alike values at a path, or neither has one. -/
def AlikeAt (x y : Json) (path : String) : Prop :=
  Option.Rel Alike (lookup? x path) (lookup? y path)

theorem alikeAt (h : Alike x y) (path : String) : AlikeAt x y path :=
  resolve?_rel Alike.member? h _

theorem fieldConditionsEntry_field {key : String} (condition : Json) (hand : key ≠ Filter.andKey)
    (hor : key ≠ Filter.orKey) : fieldConditionsEntry key condition = [(key, condition)] := by
  cases condition <;> simp [fieldConditionsEntry, hand, hor]

/-- Whether two documents meet the same ones of some conditions on fields. -/
def MeetAlike (x y : Json) (conditions : List (String × Json)) : Prop :=
  ∀ condition ∈ conditions,
    meets (lookup? x condition.1) condition.2 = meets (lookup? y condition.1) condition.2

theorem selectsEntry_field_congr {key : String} {condition : Json} (hand : key ≠ Filter.andKey)
    (hor : key ≠ Filter.orKey) (h : MeetAlike x y (fieldConditionsEntry key condition)) :
    selectsEntry x key condition = selectsEntry y key condition := by
  rw [fieldConditionsEntry_field _ hand hor, MeetAlike, List.forall_mem_singleton] at h
  rw [selectsEntry_field _ _ hand hor, selectsEntry_field _ _ hand hor, h]

mutual

/-- A predicate looks at a document through its conditions on fields alone. -/
theorem selects_congr_of_meets : ∀ conditions : List (String × Json),
    MeetAlike x y (fieldConditions conditions) → selects x conditions = selects y conditions
  | [], _ => rfl
  | (key, condition) :: rest, h => by
      simp only [MeetAlike, fieldConditions, List.forall_mem_append] at h
      rw [selects, selects, selectsEntry_congr_of_meets key condition h.1,
        selects_congr_of_meets rest h.2]

theorem selectsEntry_congr_of_meets (key : String) : ∀ condition : Json,
    MeetAlike x y (fieldConditionsEntry key condition) →
      selectsEntry x key condition = selectsEntry y key condition
  | .array items, h => by
      by_cases hand : key = Filter.andKey
      · simp only [fieldConditionsEntry, hand, true_or, if_true] at h
        rw [hand, selectsEntry_and, selectsEntry_and, selectsEach_congr_of_meets items h]
      · by_cases hor : key = Filter.orKey
        · simp only [fieldConditionsEntry, hor, or_true, if_true] at h
          rw [hor, selectsEntry_or, selectsEntry_or, selectsSome_congr_of_meets items h]
        · exact selectsEntry_field_congr hand hor h
  | .null, h | .bool _, h | .number _, h | .string _, h | .object _, h => by
      by_cases hcombining : key = Filter.andKey ∨ key = Filter.orKey
      · simp [selectsEntry, hcombining]
      · obtain ⟨hand, hor⟩ := not_or.mp hcombining
        exact selectsEntry_field_congr hand hor h

theorem selectsEach_congr_of_meets : ∀ items : List Json,
    MeetAlike x y (fieldConditionsEach items) → selectsEach x items = selectsEach y items
  | [], _ => rfl
  | .object conditions :: rest, h => by
      simp only [MeetAlike, fieldConditionsEach, List.forall_mem_append] at h
      rw [selectsEach, selectsEach, selects_congr_of_meets conditions h.1,
        selectsEach_congr_of_meets rest h.2]
  | .null :: rest, h | .bool _ :: rest, h | .number _ :: rest, h | .string _ :: rest, h
  | .array _ :: rest, h => selectsEach_congr_of_meets rest h

theorem selectsSome_congr_of_meets : ∀ items : List Json,
    MeetAlike x y (fieldConditionsEach items) → selectsSome x items = selectsSome y items
  | [], _ => rfl
  | .object conditions :: rest, h => by
      simp only [MeetAlike, fieldConditionsEach, List.forall_mem_append] at h
      rw [selectsSome, selectsSome, selects_congr_of_meets conditions h.1,
        selectsSome_congr_of_meets rest h.2]
  | .null :: rest, h | .bool _ :: rest, h | .number _ :: rest, h | .string _ :: rest, h
  | .array _ :: rest, h => selectsSome_congr_of_meets rest h

end

/-- A predicate reads nothing of a document but the values at its paths. -/
theorem selects_congr (conditions : List (String × Json))
    (h : ∀ path ∈ paths conditions, AlikeAt x y path) :
    selects x conditions = selects y conditions := by
  rw [paths_eq, List.forall_mem_map] at h
  exact selects_congr_of_meets conditions fun condition hmem =>
    meets_alike (h condition hmem) condition.2

/-- Sorting reads nothing of a document but the values at the fields of the keys. -/
theorem compareByKeys_congr {x' y' : Json} (keys : List SortKey)
    (hx : ∀ key ∈ keys, AlikeAt x x' key.field) (hy : ∀ key ∈ keys, AlikeAt y y' key.field) :
    compareByKeys keys x y = compareByKeys keys x' y' := by
  induction keys with
  | nil => rfl
  | cons key keys ih =>
      have hkey : key.compare x y = key.compare x' y' := by
        unfold SortKey.compare compareAt
        rw [compareForSort_alike (hx key List.mem_cons_self) (hy key List.mem_cons_self)]
      rw [compareByKeys, compareByKeys, hkey]
      rw [ih (fun other hother => hx other (List.mem_cons_of_mem _ hother))
        (fun other hother => hy other (List.mem_cons_of_mem _ hother))]

end Query
end DocumentCatalog
