import DocumentCatalog.Json.Number
import DocumentCatalog.Entries

/-!
Values of documents and filters, and their structural equality. Objects keep the order of their
members, but equality does not look at it.
-/

namespace DocumentCatalog

inductive Json where
  | null
  | bool (value : Bool)
  | number (value : Json.Number)
  | string (value : String)
  | array (items : List Json)
  | object (members : List (String × Json))
  deriving Repr, Inhabited

namespace Json

/-- The value of an object's member; no other value has members. -/
def member? : Json → String → Option Json
  | .object members, key => Entries.get? members key
  | _, _ => none

mutual

/-- Structural equality, where objects are equal if they have equally many members and each member
of the one has an equal one in the other. -/
def same : Json → Json → Bool
  | .null, .null => true
  | .bool x, .bool y => x == y
  | .number x, .number y => x.same y
  | .string x, .string y => x == y
  | .array xs, .array ys => sameItems xs ys
  | .object xs, .object ys => xs.length == ys.length && sameMembers xs ys
  | _, _ => false

def sameItems : List Json → List Json → Bool
  | [], [] => true
  | x :: xs, y :: ys => same x y && sameItems xs ys
  | _, _ => false

/-- Whether each of the first members has an equal one among the second. -/
def sameMembers : List (String × Json) → List (String × Json) → Bool
  | [], _ => true
  | (key, x) :: rest, ys =>
      (match Entries.get? ys key with
        | some y => same x y
        | none => false) && sameMembers rest ys

end

end Json
end DocumentCatalog
