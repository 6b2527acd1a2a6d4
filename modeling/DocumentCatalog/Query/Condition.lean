import DocumentCatalog.Filter.Expression
import DocumentCatalog.Pattern.Reader
import DocumentCatalog.Query.Order

/-!
Conditions on the value of one field. An object all of whose keys start with a dollar sign is a list
of tests that must all succeed; any other condition is a value to be equal to. A missing value meets
no condition but the one that states options alone.
-/

namespace DocumentCatalog
namespace Query

/-- Equality with a value, or with one of the elements of an array. -/
def equalOrContains (value expected : Json) : Bool :=
  equal value expected ||
    match value with
    | .array items => items.any (equal · expected)
    | _ => false

/-- What a key of a condition tests. -/
inductive Test where
  | comparison (operator : Filter.Operator)
  | among
  | pattern
  | options
  | unknown
  deriving DecidableEq, Repr

namespace Test

def ofKey (key : String) : Test :=
  match [Filter.Operator.eq, .lt, .lte, .gt, .gte].find? (·.storeKey == key) with
  | some operator => .comparison operator
  | none =>
      if key = "$in" then .among
      else if key = "$regex" then .pattern
      else if key = "$options" then .options
      else .unknown

end Test

/-- Whether a value compares with an operand as the operator says. -/
def compares (operator : Filter.Operator) (value operand : Json) : Bool :=
  match operator with
  | .eq => equalOrContains value operand
  | .lt => (compare? value operand).any (·.isLT)
  | .lte => (compare? value operand).any (·.isLE)
  | .gt => (compare? value operand).any (·.isGT)
  | .gte => (compare? value operand).any (·.isGE)

def isAmong (value : Json) : Json → Bool
  | .array candidates => candidates.any (equalOrContains value ·)
  | _ => false

/-- The modes that the options of a pattern ask for; other letters do not count. -/
def patternFlags (options : Option Json) : Pattern.Flags :=
  match options with
  | some (.string letters) =>
      { ignoreCase := letters.toList.contains 'i', multiLine := letters.toList.contains 'm' }
  | _ => {}

/-- Whether a text matches a pattern. A pattern that is refused matches nothing. -/
def matchesPattern (flags : Pattern.Flags) : Json → Json → Bool
  | .string s, .string pattern => (Pattern.Regex.ofPattern? flags pattern).any (·.isMatch s)
  | _, _ => false

/-- The outcome of one test. Options count together with a pattern only. -/
def Test.holds (test : Test) (tests : Entries Json) (value : Option Json) (operand : Json) : Bool :=
  match test, value with
  | .options, _ => true
  | _, none => false
  | .comparison operator, some value => compares operator value operand
  | .among, some value => isAmong value operand
  | .pattern, some value =>
      matchesPattern (patternFlags (Entries.get? tests "$options")) value operand
  | .unknown, some _ => false

/-- Whether a key names a test. -/
def isTestKey (key : String) : Bool :=
  key.toList.head? == some '$'

/-- The tests that a condition lists, unless it is a value to be equal to. -/
def tests? : Json → Option (Entries Json)
  | .object members =>
      if !members.isEmpty && members.all (isTestKey ·.1) then some members else none
  | _ => none

/-- Whether a value meets a condition. -/
def meets (value : Option Json) (condition : Json) : Bool :=
  match tests? condition with
  | some tests => tests.all fun test => (Test.ofKey test.1).holds tests value test.2
  | none => value.any (equalOrContains · condition)

end Query
end DocumentCatalog
