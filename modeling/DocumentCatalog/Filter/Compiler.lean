import DocumentCatalog.Filter.Diagnostic
import DocumentCatalog.Filter.Predicate
import DocumentCatalog.Filter.Substitutions
import DocumentCatalog.Text.Split
import DocumentCatalog.Unicode.Case

/-!
Compiling a filter text into a predicate. A filter is cut into tokens and a token into parts;
`field_op_value` is a comparison, a token with more parts a choice among its values. What cannot be
read is reported and contributes nothing.
-/

namespace DocumentCatalog
namespace Filter

/-- What a compiler is made from. -/
structure Settings where
  expressionSeparator : Char := ';'
  partSeparator : Char := '_'
  substitutions : Substitutions := .standard
  joined : Bool := false
  deriving Repr

structure Compiler where
  expressionSeparator : Char
  partSeparator : Char
  separators_differ : expressionSeparator ≠ partSeparator
  substitutions : Substitutions
  joined : Bool

/-- The one reason why settings make no compiler. -/
inductive SettingsError where
  | equalSeparators (separator : Char)
  deriving DecidableEq, Repr

def SettingsError.message : SettingsError → String
  | .equalSeparators separator =>
      "Expression and part separators must differ, both are " ++ Text.quotedSingle separator

def Settings.compiler (s : Settings) : Except SettingsError Compiler :=
  if h : s.expressionSeparator = s.partSeparator then
    .error (.equalSeparators s.partSeparator)
  else .ok ⟨s.expressionSeparator, s.partSeparator, h, s.substitutions, s.joined⟩

/-- The value that an equality asks for: the two truth values, else a text. -/
def equalityValue (value : String) : Json :=
  if value = "true" then .bool true
  else if value = "false" then .bool false
  else .string value

/-- The number that a comparison asks for. -/
def comparisonValue (field value : String) : Except Diagnostic Binary64 :=
  match Decimal.read? value with
  | some number => .ok number
  | none => .error (.invalidNumber field value)

/-- A comparison as a predicate of its own. -/
def comparison (field : String) (clause : Clause) : Except Diagnostic Predicate :=
  (comparisonValue field clause.value).map (Predicate.compare field clause.operator)

namespace Compiler

/-- The compiler with the usual separators and substitutions. -/
def standard : Compiler :=
  { expressionSeparator := ';', partSeparator := '_', separators_differ := by decide,
    substitutions := .standard, joined := false }

def tokens (c : Compiler) (filter : String) : List String :=
  Text.split c.expressionSeparator filter

def parts (c : Compiler) (token : String) : List String :=
  Text.split c.partSeparator token

/-- Six parts that read as two comparisons joined by a word. -/
def joinedExpression? (c : Compiler) (field : String) : List String → Option Expression
  | [_, operator, value, join, operator', value'] => do
      let first ← Operator.ofKeyword? operator
      let join ← Join.ofKeyword? join
      let second ← Operator.ofKeyword? operator'
      some (.joined field ⟨first, c.substitutions.apply value⟩ join
        ⟨second, c.substitutions.apply value'⟩)
  | _ => none

/-- Reads the parts of a token. -/
def classifyParts (c : Compiler) (token : String) (parts : List String) :
    Except Diagnostic Expression :=
  match parts with
  | [name, operator, value] =>
      match Operator.ofKeyword? operator with
      | some operator =>
          .ok (.simple (Unicode.lowercase name) operator (c.substitutions.apply value))
      | none => .error (.unknownOperator token operator)
  | name :: _ :: value :: values =>
      let field := Unicode.lowercase name
      let multiple := Expression.multiple field ((value :: values).map c.substitutions.apply)
      if c.joined then .ok ((c.joinedExpression? field parts).getD multiple) else .ok multiple
  | _ => .error (.malformedShape token parts.length)

def classify (c : Compiler) (token : String) : Except Diagnostic Expression :=
  c.classifyParts token (c.parts token)

/-- What each token reads as, in order. -/
def classified (c : Compiler) (filter : String) : List (Except Diagnostic Expression) :=
  (c.tokens filter).map c.classify

def expressions (c : Compiler) (filter : String) : List Expression :=
  (c.classified filter).filterMap Except.toOption

/-- The reason, if there is one. -/
def failure? {α : Type} : Except Diagnostic α → Option Diagnostic
  | .error reason => some reason
  | .ok _ => none

/-- The tokens that are no expressions, in order. -/
def parseDiagnostics (c : Compiler) (filter : String) : List Diagnostic :=
  (c.classified filter).filterMap failure?

end Compiler

/-- A predicate under construction, the alternatives of the latest choice, and what was dropped. -/
structure Draft where
  predicate : Predicate
  alternatives : List Json
  dropped : List Diagnostic

namespace Draft

def empty : Draft :=
  ⟨.empty, [], []⟩

/-- Both comparisons under the key of the join, or neither. -/
def pushJoined (d : Draft) (join : Join) (first second : Except Diagnostic Predicate) : Draft :=
  let dropped := d.dropped ++ (Compiler.failure? first).toList ++ (Compiler.failure? second).toList
  match first, second with
  | .ok first, .ok second =>
      { d with
        predicate := d.predicate.insert join.storeKey (.array [first.toJson, second.toJson])
        dropped := dropped }
  | _, _ => { d with dropped := dropped }

/-- Writes an expression into the draft. A field that is written again is overwritten, and a choice
replaces the one before it. -/
def push (d : Draft) : Expression → Draft
  | .simple field .eq value =>
      { d with predicate := d.predicate.insert field (equalityValue value) }
  | .simple field operator value =>
      match comparison field ⟨operator, value⟩ with
      | .ok p => { d with predicate := d.predicate.merge p }
      | .error reason => { d with dropped := d.dropped ++ [reason] }
  | .multiple field values =>
      { d with
        alternatives := values.map fun value => (Predicate.equals field (equalityValue value)).toJson }
  | .joined field first join second =>
      d.pushJoined join (comparison field first) (comparison field second)

/-- The finished predicate; the alternatives are written last. -/
def finish (d : Draft) : Predicate :=
  if d.alternatives.isEmpty then d.predicate
  else d.predicate.insert orKey (.array d.alternatives)

end Draft

/-- A predicate and everything that was dropped on the way to it. -/
structure Compiled where
  predicate : Predicate
  diagnostics : List Diagnostic

def Compiler.run (c : Compiler) (filter : String) : Compiled :=
  let draft := (c.expressions filter).foldl Draft.push .empty
  ⟨draft.finish, c.parseDiagnostics filter ++ draft.dropped⟩

def Compiler.compile (c : Compiler) (filter : String) : Predicate :=
  (c.run filter).predicate

end Filter
end DocumentCatalog
