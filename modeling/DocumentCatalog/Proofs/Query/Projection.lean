import DocumentCatalog.Proofs.Entries
import DocumentCatalog.Query.Find

/-!
Documents without some of their fields. Exactly the other members are left, each once and with its
value, although every removal moves one of them: the names that are left out decide what is left,
and the order of the removals decides no more than the places.
-/

namespace DocumentCatalog

/-- Whether no two members of a value have the same key. -/
def Json.Distinct : Json → Prop
  | .object members => (Entries.keys members).Nodup
  | _ => True

instance : (document : Json) → Decidable document.Distinct
  | .object members => inferInstanceAs (Decidable (Entries.keys members).Nodup)
  | .null | .bool _ | .number _ | .string _ | .array _ => .isTrue trivial

namespace Query

variable {x : Json} {members : Entries Json} {exclude : List String}

theorem without_perm (h : (Entries.keys members).Nodup) (exclude : List String) :
    ∃ kept, without exclude (.object members) = .object kept ∧
      kept.Perm (members.filter fun member => decide (member.1 ∉ exclude)) :=
  ⟨_, rfl, Entries.foldl_swapErase_perm exclude h⟩

theorem member?_without (h : x.Distinct) (exclude : List String) (key : String) :
    (without exclude x).member? key = if key ∈ exclude then none else x.member? key := by
  cases x with
  | object members =>
      obtain ⟨kept, hkept, hperm⟩ := without_perm h exclude
      rw [hkept, Json.member?,
        Entries.get?_perm (Entries.nodup_keys_of_perm_filter h hperm) hperm,
        Entries.get?_filter (fun key => decide (key ∉ exclude))]
      by_cases hk : key ∈ exclude <;> simp [hk, Json.member?]
  | _ => simp [without, Json.member?]

theorem not_mem_keys_without (h : x.Distinct) (hmembers : without exclude x = .object members)
    {key : String} (hkey : key ∈ exclude) : key ∉ Entries.keys members := by
  cases x with
  | object all =>
      obtain ⟨kept, hkept, hperm⟩ := without_perm h exclude
      cases hkept.symm.trans hmembers
      intro hmem
      obtain ⟨member, hmember, rfl⟩ := List.mem_map.mp hmem
      have hpublic := (List.mem_filter.mp (hperm.mem_iff.mp hmember)).2
      simp [hkey] at hpublic
  | _ => simp [without] at hmembers

theorem without_of_not_object (h : ∀ members, x ≠ .object members) : without exclude x = x := by
  cases x with
  | object members => exact absurd rfl (h members)
  | null | bool _ | number _ | string _ | array _ => rfl

/-- Removals that do not find their key change nothing, the order of the members included. -/
theorem without_of_not_mem (h : ∀ key ∈ exclude, key ∉ Entries.keys members) :
    without exclude (.object members) = .object members :=
  congrArg Json.object (Entries.foldl_swapErase_of_not_mem h)

theorem without_without (h : x.Distinct) (exclude : List String) :
    without exclude (without exclude x) = without exclude x := by
  cases hwithout : without exclude x with
  | object members =>
      exact without_of_not_mem fun key hkey => not_mem_keys_without h hwithout hkey
  | null | bool _ | number _ | string _ | array _ => rfl

/-- The last member comes into the place of the removed one, and no other member is moved. -/
theorem without_one {before rest : Entries Json} {key : String} {value : Json}
    (h : (Entries.keys (before ++ (key, value) :: rest)).Nodup) :
    without [key] (.object (before ++ (key, value) :: rest)) =
      .object (before ++ (rest.getLast?.toList ++ rest.dropLast)) := by
  have hbefore : key ∉ Entries.keys before := by
    rw [Entries.keys, List.map_append] at h
    intro hmem
    exact (List.nodup_append.mp h).2.2 key hmem key List.mem_cons_self rfl
  rw [without, List.foldl_cons, List.foldl_nil, Entries.swapErase_append hbefore,
    Entries.swapErase_cons_self]

/-- Leaving out fields leaves exactly the other members of a document, each once and with its value.
Neither the order nor the repetition of the names makes a difference to them, and leaving the fields
out again changes nothing. The removals are made one after the other, each of which moves the last
member into the place of the removed one. -/
theorem without_exact (x : Json) (h : x.Distinct) (exclude : List String) :
    ((∀ members, x ≠ .object members) → without exclude x = x) ∧
    (∀ members, x = .object members → ∃ kept, without exclude x = .object kept ∧
      (Entries.keys kept).Nodup ∧
      (∀ key value, (key, value) ∈ kept ↔ (key, value) ∈ members ∧ key ∉ exclude) ∧
      ∀ names : List String, (∀ name, name ∈ names ↔ name ∈ exclude) →
        ∃ others, without names x = .object others ∧ others.Perm kept) ∧
    without exclude (without exclude x) = without exclude x ∧
    (∀ key rest, without (key :: rest) x = without rest (without [key] x)) ∧
    ∀ before key value rest, x = .object (before ++ (key, value) :: rest) →
      without [key] x = .object (before ++ (rest.getLast?.toList ++ rest.dropLast)) := by
  refine ⟨without_of_not_object, ?_, without_without h exclude, ?_, ?_⟩
  · rintro members rfl
    obtain ⟨kept, hkept, hperm⟩ := without_perm h exclude
    refine ⟨kept, hkept, Entries.nodup_keys_of_perm_filter h hperm, ?_, ?_⟩
    · intro key value
      rw [hperm.mem_iff, List.mem_filter, decide_eq_true_iff]
    · intro names hnames
      obtain ⟨others, hothers, hperm'⟩ := without_perm h names
      refine ⟨others, hothers, hperm'.trans ?_⟩
      simpa only [hnames] using hperm.symm
  · intro key rest
    cases x with
    | object members => rfl
    | null | bool _ | number _ | string _ | array _ => rfl
  · rintro before key value rest rfl
    exact without_one h

/-- The last member is moved into the first place and is removed from there. -/
theorem without_exact_moved :
    let x : Json := .object [("_id", .string "a"), ("hat", .object [("_id", .null)]),
      ("name", .string "b"), ("secret", .bool true)]
    x.Distinct ∧ without ["_id", "none", "secret", "_id"] x =
        .object [("name", .string "b"), ("hat", .object [("_id", .null)])] ∧
      ∃ others, without ["secret", "_id", "none"] x = .object others ∧
        others.Perm [("name", .string "b"), ("hat", .object [("_id", .null)])] := by
  intro x
  have h : x.Distinct := by decide
  obtain ⟨-, hobject, -, -, -⟩ := without_exact x h ["_id", "none", "secret", "_id"]
  obtain ⟨kept, hkept, -, -, hnames⟩ := hobject _ rfl
  have hleft : without ["_id", "none", "secret", "_id"] x =
      .object [("name", .string "b"), ("hat", .object [("_id", .null)])] := rfl
  cases hkept.symm.trans hleft
  refine ⟨h, hleft, hnames _ fun name => ?_⟩
  simp only [List.mem_cons, List.not_mem_nil, or_false]
  grind

end Query
end DocumentCatalog
