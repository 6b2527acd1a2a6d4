import DocumentCatalog.Json.Basic
import DocumentCatalog.Proofs.Entries

/-!
Values that differ in nothing but the order in which their objects hold their members. Structural
equality with a third value does not tell them apart, and what is found under a key of the one is
alike what is found under it in the other.
-/

namespace DocumentCatalog
namespace Json

/-- Equality up to the order of the members of the objects, at any depth. Only objects with distinct
keys may be reordered, since of several members of one key the first counts. -/
inductive Alike : Json → Json → Prop where
  | refl (x : Json) : Alike x x
  | trans {x y z : Json} : Alike x y → Alike y z → Alike x z
  | reorder {members others : Entries Json} :
      (Entries.keys members).Nodup → members.Perm others →
      Alike (.object members) (.object others)
  | member {x y : Json} (before after : Entries Json) (key : String) :
      Alike x y →
      Alike (.object (before ++ (key, x) :: after)) (.object (before ++ (key, y) :: after))
  | item {x y : Json} (before after : List Json) :
      Alike x y → Alike (.array (before ++ x :: after)) (.array (before ++ y :: after))

variable {x y : Json}

/-- Only objects and arrays are alike without being the same. -/
theorem Alike.shape (h : Alike x y) :
    x = y ∨ (∃ members others, x = .object members ∧ y = .object others) ∨
      ∃ items others, x = .array items ∧ y = .array others := by
  induction h with
  | refl x => exact .inl rfl
  | trans _ _ ihxy ihyz =>
      rcases ihxy with rfl | ⟨members, others, rfl, rfl⟩ | ⟨items, others, rfl, rfl⟩
      · exact ihyz
      · rcases ihyz with rfl | ⟨_, last, _, rfl⟩ | ⟨_, _, hne, _⟩
        · exact .inr (.inl ⟨members, others, rfl, rfl⟩)
        · exact .inr (.inl ⟨members, last, rfl, rfl⟩)
        · exact Json.noConfusion hne
      · rcases ihyz with rfl | ⟨_, _, hne, _⟩ | ⟨_, last, _, rfl⟩
        · exact .inr (.inr ⟨items, others, rfl, rfl⟩)
        · exact Json.noConfusion hne
        · exact .inr (.inr ⟨items, last, rfl, rfl⟩)
  | reorder _ _ | member _ _ _ _ _ => exact .inr (.inl ⟨_, _, rfl, rfl⟩)
  | item _ _ _ _ => exact .inr (.inr ⟨_, _, rfl, rfl⟩)

theorem rel_refl {r : Json → Json → Prop} (h : ∀ x, r x x) (value : Option Json) :
    Option.Rel r value value := by
  cases value with
  | none => exact .none
  | some value => exact .some (h value)

theorem rel_trans {r : Json → Json → Prop} (h : ∀ {x y z}, r x y → r y z → r x z)
    {u v w : Option Json} (huv : Option.Rel r u v) (hvw : Option.Rel r v w) :
    Option.Rel r u w := by
  cases huv with
  | none => exact hvw
  | some huv =>
      cases hvw with
      | some hvw => exact .some (h huv hvw)

theorem rel_or {r : Json → Json → Prop} {u v u' v' : Option Json} (h : Option.Rel r u v)
    (h' : Option.Rel r u' v') : Option.Rel r (u.or u') (v.or v') := by
  cases h with
  | none => exact h'
  | some h => exact .some h

theorem rel_bind {r : Json → Json → Prop} {u v : Option Json} {f g : Json → Option Json}
    (h : Option.Rel r u v) (hfg : ∀ {x y}, r x y → Option.Rel r (f x) (g y)) :
    Option.Rel r (u.bind f) (v.bind g) := by
  cases h with
  | none => exact .none
  | some h => exact hfg h

/-- What is found under a key where one of the values was replaced. -/
theorem rel_get? {r : Json → Json → Prop} (hrefl : ∀ x, r x x) (before after : Entries Json)
    (key : String) (h : r x y) (wanted : String) :
    Option.Rel r (Entries.get? (before ++ (key, x) :: after) wanted)
      (Entries.get? (before ++ (key, y) :: after) wanted) := by
  rw [Entries.get?_append, Entries.get?_append, Entries.get?_cons, Entries.get?_cons]
  apply rel_or (rel_refl hrefl _)
  by_cases hk : key = wanted
  · rw [if_pos hk, if_pos hk]
    exact .some h
  · rw [if_neg hk, if_neg hk]
    exact rel_refl hrefl _

theorem any_get?_congr {f : Json → Bool} (h : f x = f y) (before after : Entries Json)
    (key wanted : String) :
    (Entries.get? (before ++ (key, x) :: after) wanted).any f =
      (Entries.get? (before ++ (key, y) :: after) wanted).any f := by
  rw [Entries.get?_append, Entries.get?_append, Entries.get?_cons, Entries.get?_cons]
  cases Entries.get? before wanted with
  | some _ => rfl
  | none => by_cases hk : key = wanted <;> simp [hk, h]

theorem Alike.member? (h : Alike x y) (key : String) :
    Option.Rel Alike (x.member? key) (y.member? key) := by
  induction h with
  | refl x => exact rel_refl .refl _
  | trans _ _ ihxy ihyz => exact rel_trans .trans ihxy ihyz
  | reorder hdistinct hperm =>
      simp only [Json.member?, Entries.get?_perm hdistinct hperm]
      exact rel_refl .refl _
  | member before after other h _ => exact rel_get? .refl before after other h key
  | item _ _ _ _ => exact .none

theorem sameMembers_eq_all (members others : Entries Json) :
    sameMembers members others =
      members.all fun member => (Entries.get? others member.1).any (same member.2) := by
  induction members with
  | nil => simp [sameMembers]
  | cons member rest ih =>
      rw [sameMembers, ih, List.all_cons]
      cases Entries.get? others member.1 <;> rfl

theorem sameItems_congr (before after : List Json) {items : List Json}
    (h : ∀ z ∈ items, same x z = same y z) :
    sameItems (before ++ x :: after) items = sameItems (before ++ y :: after) items := by
  induction before generalizing items with
  | nil => cases items <;> simp_all [sameItems]
  | cons _ before ih =>
      cases items with
      | nil => rfl
      | cons z zs =>
          simp only [List.cons_append, sameItems, ih fun w hw => h w (List.mem_cons_of_mem _ hw)]

theorem sameItems_congr_right (h : ∀ z, same z x = same z y) (before after items : List Json) :
    sameItems items (before ++ x :: after) = sameItems items (before ++ y :: after) := by
  induction before generalizing items with
  | nil => cases items <;> simp [sameItems, h]
  | cons _ before ih => cases items <;> simp [sameItems, ih]

theorem Alike.same (h : Alike x y) (z : Json) : Json.same x z = Json.same y z := by
  induction h generalizing z with
  | refl x => rfl
  | trans _ _ ihxy ihyz => exact (ihxy z).trans (ihyz z)
  | reorder _ hperm =>
      cases z with
      | object members =>
          simp only [Json.same, sameMembers_eq_all, hperm.length_eq, hperm.all_eq]
      | _ => simp [Json.same]
  | member before after key _ ih =>
      cases z with
      | object members => simp [Json.same, sameMembers_eq_all, funext ih]
      | _ => simp [Json.same]
  | item before after _ ih =>
      cases z with
      | array items => simp [Json.same, sameItems_congr before after fun z _ => ih z]
      | _ => simp [Json.same]

theorem Alike.same_right (h : Alike x y) (z : Json) : Json.same z x = Json.same z y := by
  induction h generalizing z with
  | refl x => rfl
  | trans _ _ ihxy ihyz => exact (ihxy z).trans (ihyz z)
  | reorder hdistinct hperm =>
      cases z with
      | object members =>
          simp only [Json.same, sameMembers_eq_all, hperm.length_eq,
            Entries.get?_perm hdistinct hperm]
      | _ => simp [Json.same]
  | member before after key _ ih =>
      cases z with
      | object members =>
          simp [Json.same, sameMembers_eq_all, any_get?_congr (ih _) before after key]
      | _ => simp [Json.same]
  | item before after _ ih =>
      cases z with
      | array items => simp [Json.same, sameItems_congr_right ih]
      | _ => simp [Json.same]

end Json
end DocumentCatalog
