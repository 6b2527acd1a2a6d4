import DocumentCatalog.Text.Numeral
import DocumentCatalog.Text.Quoted

/-!
Why a part of a filter contributes nothing. A diagnostic never makes the filter fail.
-/

namespace DocumentCatalog
namespace Filter

inductive Diagnostic where
  /-- A token with fewer than three parts. -/
  | malformedShape (token : String) (parts : Nat)
  /-- A token of three parts whose second one is no operator. -/
  | unknownOperator (token operator : String)
  /-- A comparison with something that is no finite number. -/
  | invalidNumber (field value : String)
  /-- A truth value that is neither `true` nor `false`. -/
  | invalidBoolean (field value : String)
  deriving DecidableEq, Repr

namespace Diagnostic

def kind : Diagnostic → String
  | .malformedShape .. => "malformed_expression_shape"
  | .unknownOperator .. => "unknown_operator"
  | .invalidNumber .. => "invalid_numeric_literal"
  | .invalidBoolean .. => "invalid_boolean_literal"

def message : Diagnostic → String
  | .malformedShape token parts =>
      "Ignoring expression " ++ Text.quoted token ++ ": expected at least 3 parts, found " ++
        Text.numeral parts
  | .unknownOperator token operator =>
      "Ignoring expression " ++ Text.quoted token ++ ": unknown operator " ++ Text.quoted operator
  | .invalidNumber field value =>
      "Dropping constraint on " ++ field ++ ": " ++ Text.quoted value ++ " is not a valid number"
  | .invalidBoolean field value =>
      "Dropping constraint on " ++ field ++ ": " ++ Text.quoted value ++ " is not a valid boolean"

end Diagnostic
end Filter
end DocumentCatalog
