import DocumentCatalog.Proofs.Query.Reading
import DocumentCatalog.Proofs.Text.Split

/-!
Where a path leads to. Going down through its first components, from one object to the next, the
first object that has a member under the rest of the path gives the value; what is no object is not
gone into.
-/

namespace DocumentCatalog
namespace Query

/-- What lies below a value along some keys, each of them the key of a member of an object. -/
inductive Below : Json → List String → Json → Prop where
  | here (value : Json) : Below value [] value
  | member {members : Entries Json} {key : String} {keys : List String} {inner value : Json} :
      Entries.get? members key = some inner → Below inner keys value →
      Below (.object members) (key :: keys) value

/-- Whether the first components of a path lead from a document to an object that has a value under
all the others, joined to one key. -/
def FoundAt (document : Json) (components : List String) (level : Nat) (value : Json) : Prop :=
  ∃ members, Below document (components.take level) (.object members) ∧
    Entries.get? members (Text.join '.' (components.drop level)) = some value

variable {document value : Json} {first : String} {rest components keys : List String}

theorem below_cons_iff :
    Below document (first :: keys) value ↔
      ∃ inner, document.member? first = some inner ∧ Below inner keys value := by
  constructor
  · intro h
    cases h with
    | member hinner hbelow => exact ⟨_, hinner, hbelow⟩
  · rintro ⟨inner, hinner, hbelow⟩
    cases document with
    | object members => exact .member hinner hbelow
    | null | bool _ | number _ | string _ | array _ => cases hinner

theorem Below.append {more : List String} (h : Below document (keys ++ more) value) :
    ∃ inner, Below document keys inner ∧ Below inner more value := by
  induction keys generalizing document with
  | nil => exact ⟨document, .here document, h⟩
  | cons key keys ih =>
      obtain ⟨inner, hinner, hbelow⟩ := below_cons_iff.mp h
      obtain ⟨last, hlast, hmore⟩ := ih hbelow
      exact ⟨last, below_cons_iff.mpr ⟨inner, hinner, hlast⟩, hmore⟩

theorem Below.unique {other : Json} (h : Below document keys value)
    (hother : Below document keys other) : value = other := by
  induction h with
  | here value =>
      cases hother
      rfl
  | member hinner _ ih =>
      cases hother with
      | member hinner' hbelow =>
          cases hinner.symm.trans hinner'
          exact ih hbelow

theorem foundAt_zero :
    FoundAt document components 0 value ↔
      document.member? (Text.join '.' components) = some value := by
  constructor
  · rintro ⟨members, hbelow, hvalue⟩
    cases hbelow
    exact hvalue
  · intro h
    cases document with
    | object members => exact ⟨members, .here _, h⟩
    | null | bool _ | number _ | string _ | array _ => cases h

theorem foundAt_succ {level : Nat} :
    FoundAt document (first :: rest) (level + 1) value ↔
      ∃ inner, document.member? first = some inner ∧ FoundAt inner rest level value := by
  unfold FoundAt
  rw [List.take_succ_cons, List.drop_succ_cons]
  simp only [below_cons_iff]
  constructor
  · rintro ⟨members, ⟨inner, hinner, hbelow⟩, hvalue⟩
    exact ⟨inner, hinner, members, hbelow, hvalue⟩
  · rintro ⟨inner, hinner, members, hbelow, hvalue⟩
    exact ⟨members, ⟨inner, hinner, hbelow⟩, hvalue⟩

theorem resolve?_eq_none_iff :
    resolve? document components = none ↔
      ∀ level < components.length, ∀ value, ¬ FoundAt document components level value := by
  induction components generalizing document with
  | nil => simp [resolve?]
  | cons first rest ih =>
      rw [resolve?_cons, Option.or_eq_none_iff, List.length_cons, Nat.forall_lt_succ_left]
      apply and_congr
      · simp only [foundAt_zero, Option.eq_none_iff_forall_ne_some, ne_eq]
      · cases hfirst : document.member? first with
        | none => simp [foundAt_succ, hfirst]
        | some inner => simp [foundAt_succ, hfirst, ih]

/-- A value that is found deeper counts only if nothing is found before, whatever it is. -/
theorem resolve?_eq_some_iff :
    resolve? document components = some value ↔
      ∃ level < components.length, FoundAt document components level value ∧
        ∀ earlier < level, ∀ other, ¬ FoundAt document components earlier other := by
  induction components generalizing document with
  | nil => simp [resolve?]
  | cons first rest ih =>
      rw [resolve?_cons, Option.or_eq_some_iff, List.length_cons, Nat.exists_lt_succ_left]
      apply or_congr
      · simp [foundAt_zero]
      · simp only [Nat.forall_lt_succ_left, foundAt_zero, ← Option.eq_none_iff_forall_ne_some]
        cases hfirst : document.member? first with
        | none => simp [foundAt_succ, hfirst]
        | some inner =>
            -- the deeper levels are those of the one value that the first component leads to
            simp only [foundAt_succ, hfirst, ih, Option.some.injEq, exists_eq_left',
              Option.bind_some]
            constructor
            · rintro ⟨hnone, level, hlevel, hfound, hearlier⟩
              exact ⟨level, hlevel, hfound, hnone, hearlier⟩
            · rintro ⟨level, hlevel, hfound, hnone, hearlier⟩
              exact ⟨hnone, level, hlevel, hfound, hearlier⟩

theorem FoundAt.lt_of_below {level deeper : Nat} {inner : Json}
    (h : FoundAt document components deeper value)
    (hinner : Below document (components.take level) inner)
    (hobject : ∀ members, inner ≠ .object members) : deeper < level := by
  by_contra hle
  have hprefix : components.take level <+: components.take deeper :=
    List.take_prefix_take_left (Nat.le_of_not_lt hle)
  obtain ⟨more, hmore⟩ := hprefix
  obtain ⟨members, hbelow, -⟩ := h
  rw [← hmore] at hbelow
  obtain ⟨reached, hreached, hrest⟩ := hbelow.append
  cases hinner.unique hreached
  cases hrest with
  | here => exact hobject members rfl
  | member => exact hobject _ rfl

/-- Looking up a path, which is cut at every point, finds a value exactly where it is the first one
on the way down, and nothing exactly where there is none on the way. What is no object ends the
way. -/
theorem lookup?_first_level (document : Json) (path : String) :
    let components := Text.split '.' path
    (components ≠ [] ∧ (∀ component ∈ components, '.' ∉ component.toList) ∧
      Text.join '.' components = path) ∧
    (∀ value, lookup? document path = some value ↔
      ∃ level < components.length, FoundAt document components level value ∧
        ∀ earlier < level, ∀ other, ¬ FoundAt document components earlier other) ∧
    (lookup? document path = none ↔
      ∀ level < components.length, ∀ value, ¬ FoundAt document components level value) ∧
    ∀ level inner, Below document (components.take level) inner →
      (∀ members, inner ≠ .object members) →
      ∀ deeper value, FoundAt document components deeper value → deeper < level := by
  intro components
  refine ⟨⟨?_, fun _ => Text.not_mem_of_mem_split, Text.join_split '.' path⟩,
    fun _ => resolve?_eq_some_iff, resolve?_eq_none_iff, ?_⟩
  · have hlength : components.length = path.toList.count '.' + 1 := Text.length_split '.' path
    exact List.ne_nil_of_length_pos (hlength ▸ Nat.succ_pos _)
  · intro level inner hinner hobject deeper value hfound
    exact hfound.lt_of_below hinner hobject

/-- Keys with points at three levels. Two components are never gone down at once, and an array is
not gone into. -/
theorem lookup?_first_level_points :
    let document : Json := .object
      [("a.b", .object [("c", .string "two at once")]),
        ("a", .object [("b", .object [("c", .string "deeper")]), ("b.c", .string "first")]),
        ("list", .array [.object [("c", .string "item")]])]
    lookup? document "a.b.c" = some (.string "first") ∧
      FoundAt document ["a", "b", "c"] 2 (.string "deeper") ∧ lookup? document "list.c" = none := by
  intro document
  obtain ⟨-, hsome, -, -⟩ := lookup?_first_level document "a.b.c"
  obtain ⟨-, -, hnone, hobject⟩ := lookup?_first_level document "list.c"
  refine ⟨(hsome _).mpr ⟨1, by decide, ?_, ?_⟩, ?_, hnone.mpr ?_⟩
  · exact ⟨_, .member rfl (.here _), rfl⟩
  · intro earlier hearlier other hfound
    cases Nat.lt_one_iff.mp hearlier
    exact Option.some_ne_none other (foundAt_zero.mp hfound).symm
  · exact ⟨_, .member rfl (.member rfl (.here _)), rfl⟩
  · intro level _ value hfound
    have hlevel : level < 1 :=
      hobject 1 _ (.member rfl (.here _)) (fun _ => Json.noConfusion) level value hfound
    cases Nat.lt_one_iff.mp hlevel
    exact Option.some_ne_none value (foundAt_zero.mp hfound).symm

end Query
end DocumentCatalog
