import DocumentCatalog.Text.Numeral

/-!
Failures with their causes, the outermost reason first.
-/

namespace DocumentCatalog

structure Failure where
  reason : String
  causes : List String := []
  deriving DecidableEq, Repr

namespace Failure

/-- Puts a reason before what was known so far. -/
def under (failure : Failure) (reason : String) : Failure :=
  ⟨reason, failure.reason :: failure.causes⟩

/-- A reason and the causes behind it on one line. -/
def joined (reason : String) : List String → String
  | [] => reason
  | cause :: causes => reason ++ ": " ++ joined cause causes

/-- The failure on one line. -/
def chain (failure : Failure) : String :=
  joined failure.reason failure.causes

/-- A cause on a line of its own, numbered unless it is the only one. -/
def causeLine (single : Bool) (index : Nat) (cause : String) : String :=
  if single then "    " ++ cause
  else
    let number := Text.numeral index
    String.ofList (List.replicate (5 - number.length) ' ') ++ number ++ ": " ++ cause

/-- The report that a program ends with. -/
def report (failure : Failure) : String :=
  let lines := failure.causes.mapIdx (causeLine (failure.causes.length == 1))
  let causes := if lines.isEmpty then [] else ["", "Caused by:"] ++ lines
  String.intercalate "\n" (("Error: " ++ failure.reason) :: causes) ++ "\n"

end Failure
end DocumentCatalog
