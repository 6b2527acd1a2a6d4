import DocumentCatalog.Proofs.Json.Alike
import DocumentCatalog.Proofs.Number.Exactness

/-!
The two spellings of an integer, with and without a fraction. Structural equality tells them apart:
wherever one number of a value is spelled the other way, the value is no longer equal to what it was
equal to. Only a value without numbers cannot tell.
-/

namespace DocumentCatalog
namespace Json

/-- Whether two numbers are the two spellings of an integer of at most 53 bits. -/
inductive Number.Respelled : Number → Number → Prop where
  | withFraction {i : Int} (h : -0x8000000000000000 ≤ i ∧ i < 0x10000000000000000) {x : Binary64} :
      i.natAbs ≤ 2 ^ 53 → x.Represents i → Respelled (.integer i h) (.decimal x)
  | withoutFraction {i : Int} (h : -0x8000000000000000 ≤ i ∧ i < 0x10000000000000000)
      {x : Binary64} :
      i.natAbs ≤ 2 ^ 53 → x.Represents i → Respelled (.decimal x) (.integer i h)

/-- Whether two values differ in the spelling of a single number, at any depth. -/
inductive Respelled : Json → Json → Prop where
  | number {m n : Number} : m.Respelled n → Respelled (.number m) (.number n)
  | member {x y : Json} (before after : Entries Json) (key : String) :
      Respelled x y →
      Respelled (.object (before ++ (key, x) :: after)) (.object (before ++ (key, y) :: after))
  | item {x y : Json} (before after : List Json) :
      Respelled x y → Respelled (.array (before ++ x :: after)) (.array (before ++ y :: after))

mutual

/-- Whether there is no number in a value, at any depth. -/
def numberless : Json → Bool
  | .number _ => false
  | .array items => numberlessItems items
  | .object members => numberlessMembers members
  | _ => true

def numberlessItems : List Json → Bool
  | [] => true
  | item :: rest => numberless item && numberlessItems rest

def numberlessMembers : List (String × Json) → Bool
  | [] => true
  | (_, value) :: rest => numberless value && numberlessMembers rest

end

theorem numberlessItems_eq_all (items : List Json) :
    numberlessItems items = items.all numberless := by
  induction items with
  | nil => rfl
  | cons item rest ih => rw [numberlessItems, ih, List.all_cons]

theorem numberlessMembers_eq_all (members : Entries Json) :
    numberlessMembers members = members.all fun member => numberless member.2 := by
  induction members with
  | nil => rfl
  | cons member rest ih => rw [numberlessMembers, ih, List.all_cons]

theorem Number.Respelled.position_eq {m n : Number} (h : m.Respelled n) :
    m.toBinary64.position = n.toBinary64.position := by
  cases h with
  | withFraction _ hi hx => exact (Binary64.position_eq_of_represents hi hx).symm
  | withoutFraction _ hi hx => exact Binary64.position_eq_of_represents hi hx

theorem Number.Respelled.not_same {m n k : Number} (h : m.Respelled n) (hm : m.same k = true) :
    n.same k = false := by
  cases h <;> cases k <;> simp_all [Number.same]

variable {x y : Json}

theorem Respelled.not_numberless (h : Respelled x y) :
    x.numberless = false ∧ y.numberless = false := by
  induction h with
  | number _ => exact ⟨rfl, rfl⟩
  | member before after key _ ih => simp [numberless, numberlessMembers_eq_all, ih]
  | item before after _ ih => simp [numberless, numberlessItems_eq_all, ih]

/-- What has no numbers is equal to both spellings or to none. -/
theorem Respelled.same (h : Respelled x y) {z : Json} (hz : z.numberless = true) :
    Json.same x z = Json.same y z := by
  induction h generalizing z with
  | number _ =>
      cases z with
      | number _ => cases hz
      | _ => rfl
  | @member x y before after key _ ih =>
      cases z with
      | object members =>
          rw [numberless, numberlessMembers_eq_all, List.all_eq_true] at hz
          have hfound : (Entries.get? members key).any (Json.same x) =
              (Entries.get? members key).any (Json.same y) := by
            cases hget : Entries.get? members key with
            | none => rfl
            | some z => exact ih (hz _ (Entries.mem_of_get? hget))
          simp [Json.same, sameMembers_eq_all, hfound]
      | _ => rfl
  | item before after _ ih =>
      cases z with
      | array items =>
          rw [numberless, numberlessItems_eq_all, List.all_eq_true] at hz
          simp only [Json.same, sameItems_congr before after fun z hmem => ih (hz z hmem)]
      | _ => rfl

theorem sameItems_eq_false (h : ∀ {z}, same x z = true → same y z = false)
    {before after items : List Json} (hx : sameItems (before ++ x :: after) items = true) :
    sameItems (before ++ y :: after) items = false := by
  induction before generalizing items with
  | nil =>
      cases items with
      | nil => rfl
      | cons z zs =>
          simp only [List.nil_append, sameItems, Bool.and_eq_true] at hx ⊢
          rw [h hx.1, Bool.false_and]
  | cons _ before ih =>
      cases items with
      | nil => rfl
      | cons z zs =>
          simp only [List.cons_append, sameItems, Bool.and_eq_true] at hx ⊢
          rw [ih hx.2, Bool.and_false]

/-- What is equal to a value is not equal to it in another spelling. -/
theorem Respelled.not_same (h : Respelled x y) {z : Json} (hx : Json.same x z = true) :
    Json.same y z = false := by
  induction h generalizing z with
  | number h =>
      cases z with
      | number _ => exact h.not_same hx
      | _ => rfl
  | member before after key _ ih =>
      cases z with
      | object members =>
          simp only [Json.same, sameMembers_eq_all, List.all_append, List.all_cons,
            Bool.and_eq_true] at hx
          obtain ⟨z, hget, hz⟩ := (Option.any_eq_true _ _).mp hx.2.2.1
          simp [Json.same, sameMembers_eq_all, hget, ih hz]
      | _ => rfl
  | item before after _ ih =>
      cases z with
      | array items => exact sameItems_eq_false ih hx
      | _ => rfl

theorem Respelled.member? (h : Respelled x y) (key : String) :
    Option.Rel (Relation.ReflTransGen Respelled) (x.member? key) (y.member? key) := by
  cases h with
  | number _ | item _ _ _ => exact .none
  | member before after other h =>
      exact rel_get? (fun _ => .refl) before after other (.single h) key

theorem member?_respelled (h : Relation.ReflTransGen Respelled x y) (key : String) :
    Option.Rel (Relation.ReflTransGen Respelled) (x.member? key) (y.member? key) := by
  induction h with
  | refl => exact rel_refl (fun _ => .refl) _
  | tail _ hstep ih => exact rel_trans .trans ih (hstep.member? key)

end Json
end DocumentCatalog
