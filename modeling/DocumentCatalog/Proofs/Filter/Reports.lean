import DocumentCatalog.Proofs.Filter.Dropping
import DocumentCatalog.Proofs.Filter.Exits

/-!
What is reported of a filter. Every token is one expression or one diagnostic, and every side of an
expression that has to be a number and is none is one diagnostic more. An expression contributes
nothing exactly when it has such a side, so nothing is left out without a report.
-/

namespace DocumentCatalog
namespace Filter

/-- The sides of an expression that have to be numbers, the first clause first. -/
def Expression.sides : Expression → List Clause
  | .simple _ .eq _ => []
  | .simple _ operator value => [⟨operator, value⟩]
  | .multiple _ _ => []
  | .joined _ first _ second => [first, second]

namespace Expression

/-- What is reported of an expression are its sides that are no finite numbers. -/
theorem problems_eq (e : Expression) :
    e.problems = (e.sides.filter fun side => (Decimal.read? side.value).isNone).map fun side =>
      .invalidNumber e.field side.value := by
  cases e with
  | simple field operator value =>
      cases operator with
      | eq => rfl
      | lt | lte | gt | gte =>
          cases hread : Decimal.read? value <;>
            simp [problems, Clause.problems, Clause.effective, sides, Expression.field, hread]
  | multiple field values => rfl
  | joined field first join second =>
      cases hfirst : Decimal.read? first.value <;> cases hsecond : Decimal.read? second.value <;>
        simp [problems, Clause.problems, Clause.effective, sides, Expression.field, hfirst, hsecond]

theorem effective_eq_false_iff {e : Expression} :
    e.effective = false ↔ ∃ side ∈ e.sides, Decimal.read? side.value = none := by
  rw [← Bool.not_eq_true, ← problems_eq_nil_iff, problems_eq]
  simp

/-- Whether the expression leaves every draft as it is, but for what is reported. -/
def Idle (e : Expression) : Prop :=
  ∀ d : Draft, (d.push e).predicate = d.predicate ∧ (d.push e).alternatives = d.alternatives

theorem idle_of_not_effective {e : Expression} (h : e.effective = false) : e.Idle := by
  intro d
  constructor
  · apply Predicate.eq_of_entries
    rw [Draft.entries_push, write?_of_not_effective h]
    rfl
  · rw [Draft.alternatives_push, alternatives?_of_not_effective h, Option.getD_none]

theorem not_idle_of_effective {e : Expression} (h : e.effective = true) : ¬ e.Idle := by
  intro hidle
  -- a choice shows in a draft with another number of alternatives, a write in the empty draft
  cases hmultiple : e.isMultiple with
  | true =>
      cases e with
      | multiple field values =>
          have hlength := congrArg List.length
            (hidle { Draft.empty with alternatives := .null :: values.map .string }).2
          simp [Draft.push] at hlength
      | simple _ _ _ | joined _ _ _ _ => cases hmultiple
  | false =>
      have hsome : e.write?.isSome = true := by rw [isSome_write?, hmultiple, h]; rfl
      obtain ⟨write, hwrite⟩ := Option.isSome_iff_exists.mp hsome
      have hentries := congrArg Predicate.entries (hidle .empty).1
      rw [Draft.entries_push, hwrite] at hentries
      cases hentries

theorem idle_iff {e : Expression} :
    e.Idle ↔ ∃ side ∈ e.sides, Decimal.read? side.value = none := by
  rw [← effective_eq_false_iff]
  cases heffective : e.effective with
  | true => simpa using not_idle_of_effective heffective
  | false => simpa using idle_of_not_effective heffective

end Expression

namespace Compiler

variable (c : Compiler)

/-- Tokens with what they read as and what is reported of them, one or the other for each token, both
in the order of the tokens. -/
inductive Accounts : List String → List Expression → List Diagnostic → Prop
  | nil : Accounts [] [] []
  | expression {token tokens e expressions diagnostics} (h : c.Reads (c.parts token) e)
      (rest : Accounts tokens expressions diagnostics) :
      Accounts (token :: tokens) (e :: expressions) diagnostics
  | malformed {token tokens expressions diagnostics} (h : (c.parts token).length < 3)
      (rest : Accounts tokens expressions diagnostics) :
      Accounts (token :: tokens) expressions
        (.malformedShape token (c.parts token).length :: diagnostics)
  | unknown {token tokens expressions diagnostics name word value}
      (h : c.parts token = [name, word, value])
      (hword : ∀ operator : Operator, operator.keyword ≠ word)
      (rest : Accounts tokens expressions diagnostics) :
      Accounts (token :: tokens) expressions (.unknownOperator token word :: diagnostics)

variable {c}

theorem accounts_of_tokens (tokens : List String) :
    c.Accounts tokens ((tokens.map c.classify).filterMap Except.toOption)
      ((tokens.map c.classify).filterMap failure?) := by
  induction tokens with
  | nil => exact .nil
  | cons token tokens ih =>
      rw [List.map_cons]
      cases hclass : c.classify token with
      | ok e => exact .expression (classify_eq_ok_iff.mp hclass) ih
      | error reason =>
          rcases classify_eq_error_iff.mp hclass with
            ⟨hfew, rfl⟩ | ⟨name, word, value, hparts, hword, rfl⟩
          · exact .malformed hfew ih
          · exact .unknown hparts hword ih

theorem Accounts.eq {tokens : List String} {expressions : List Expression}
    {diagnostics : List Diagnostic} (h : c.Accounts tokens expressions diagnostics) :
    expressions = (tokens.map c.classify).filterMap Except.toOption ∧
      diagnostics = (tokens.map c.classify).filterMap failure? := by
  induction h with
  | nil => exact ⟨rfl, rfl⟩
  | expression hreads rest ih =>
      obtain ⟨rfl, rfl⟩ := ih
      rw [List.map_cons, classify_eq_ok_iff.mpr hreads]
      exact ⟨rfl, rfl⟩
  | malformed hfew rest ih =>
      obtain ⟨rfl, rfl⟩ := ih
      rw [List.map_cons, classify_eq_error_iff.mpr (.inl ⟨hfew, rfl⟩)]
      exact ⟨rfl, rfl⟩
  | unknown hparts hword rest ih =>
      obtain ⟨rfl, rfl⟩ := ih
      rw [List.map_cons, classify_eq_error_iff.mpr (.inr ⟨_, _, _, hparts, hword, rfl⟩)]
      exact ⟨rfl, rfl⟩

theorem Accounts.length_eq {tokens : List String} {expressions : List Expression}
    {diagnostics : List Diagnostic} (h : c.Accounts tokens expressions diagnostics) :
    expressions.length + diagnostics.length = tokens.length := by
  induction h with
  | nil => rfl
  | expression _ _ ih | malformed _ _ ih | unknown _ _ _ ih =>
      simp only [List.length_cons]
      omega

theorem Accounts.of_mem {tokens : List String} {expressions : List Expression}
    {diagnostics : List Diagnostic} (h : c.Accounts tokens expressions diagnostics)
    {reason : Diagnostic} (hmem : reason ∈ diagnostics) :
    (∃ token parts, reason = .malformedShape token parts) ∨
      ∃ token operator, reason = .unknownOperator token operator := by
  induction h with
  | nil => cases hmem
  | expression _ _ ih => exact ih hmem
  | malformed _ _ ih =>
      rcases List.mem_cons.mp hmem with rfl | hmem
      · exact .inl ⟨_, _, rfl⟩
      · exact ih hmem
  | unknown _ _ _ ih =>
      rcases List.mem_cons.mp hmem with rfl | hmem
      · exact .inr ⟨_, _, rfl⟩
      · exact ih hmem

variable (c) (filter : String)

theorem accounts_filter :
    c.Accounts (c.tokens filter) (c.expressions filter) (c.parseDiagnostics filter) :=
  accounts_of_tokens (c.tokens filter)

theorem exists_invalidNumber {reason : Diagnostic} (h : reason ∈ c.buildDiagnostics filter) :
    ∃ field value, reason = .invalidNumber field value := by
  rw [buildDiagnostics_eq] at h
  obtain ⟨e, -, hproblem⟩ := List.mem_flatMap.mp h
  rw [Expression.problems_eq] at hproblem
  obtain ⟨side, -, rfl⟩ := List.mem_map.mp hproblem
  exact ⟨_, _, rfl⟩

/-- The diagnostics of numbers are those of the expressions, and no token is refused for one. -/
theorem filter_kind_run :
    (c.run filter).diagnostics.filter (·.kind == "invalid_numeric_literal") =
      c.buildDiagnostics filter := by
  have hparse : (c.parseDiagnostics filter).filter (·.kind == "invalid_numeric_literal") = [] := by
    rw [List.filter_eq_nil_iff]
    intro reason hreason
    rcases (c.accounts_filter filter).of_mem hreason with ⟨_, _, rfl⟩ | ⟨_, _, rfl⟩ <;>
      simp [Diagnostic.kind]
  have hbuild : (c.buildDiagnostics filter).filter (·.kind == "invalid_numeric_literal") =
      c.buildDiagnostics filter := by
    rw [List.filter_eq_self]
    intro reason hreason
    obtain ⟨_, _, rfl⟩ := c.exists_invalidNumber filter hreason
    rfl
  change (c.parseDiagnostics filter ++ c.buildDiagnostics filter).filter _ = _
  rw [List.filter_append, hparse, hbuild, List.nil_append]

theorem invalidBoolean_not_mem (field value : String) :
    .invalidBoolean field value ∉ (c.run filter).diagnostics := by
  intro hmem
  rcases List.mem_append.mp hmem with hparse | hbuild
  · rcases (c.accounts_filter filter).of_mem hparse with ⟨_, _, heq⟩ | ⟨_, _, heq⟩ <;> cases heq
  · obtain ⟨_, _, heq⟩ := c.exists_invalidNumber filter hbuild
    cases heq

/-- Every token of a filter is one expression or one diagnostic, in order. After these diagnostics
come those of the expressions, one for each side that is no finite number; an expression with such a
side contributes nothing, and every other one does. No truth value is ever refused, and every number
that is read makes a comparison, so the checks on the way change nothing. -/
theorem run_accounts :
    (c.tokens filter).length = filter.toList.count c.expressionSeparator + 1 ∧
      (c.expressions filter).length + (c.parseDiagnostics filter).length =
        (c.tokens filter).length ∧
      (∀ expressions diagnostics, c.Accounts (c.tokens filter) expressions diagnostics ↔
        expressions = c.expressions filter ∧ diagnostics = c.parseDiagnostics filter) ∧
      (c.run filter).diagnostics = c.parseDiagnostics filter ++
        (c.expressions filter).flatMap (fun e =>
          (e.sides.filter fun side => (Decimal.read? side.value).isNone).map fun side =>
            .invalidNumber e.field side.value) ∧
      (∀ e ∈ c.expressions filter,
        (e.Idle ↔ ∃ side ∈ e.sides, Decimal.read? side.value = none)) ∧
      (∀ field value, .invalidBoolean field value ∉ (c.run filter).diagnostics) ∧
      (∀ (d : Draft) (e : Expression), d.pushChecked e = d.push e) ∧
      ∀ field value number, checkedNumber field value = .ok number →
        ∀ operator, (Predicate.compare? field operator number).isSome = true := by
  have haccounts := c.accounts_filter filter
  refine ⟨Text.length_split _ _, haccounts.length_eq, ?_, ?_, fun e _ => Expression.idle_iff,
    c.invalidBoolean_not_mem filter, Draft.pushChecked_eq,
    fun _ _ _ h => isSome_compare?_of_checkedNumber h⟩
  · intro expressions diagnostics
    constructor
    · exact Accounts.eq
    · rintro ⟨rfl, rfl⟩
      exact haccounts
  · rw [run_eq]
    exact congrArg (c.parseDiagnostics filter ++ ·)
      (List.flatMap_congr fun e _ => e.problems_eq)

/-- Tokens of every kind: two that are no expressions, a number that is none, both sides of joined
comparisons and one side of others, and expressions that are taken as they are. -/
theorem run_accounts_every_kind :
    let c : Compiler := { standard with joined := true }
    let filter := "oops;X_lt_Suit and Tie;y_ne_2;Ab_gt_many_and_lt_inf;b_gt_1_or_lt_1e999;" ++
      "x_eq_true;hat_eq_Red_Blue;z_gte_1e3"
    let half : Expression := .joined "b" ⟨.gt, "1"⟩ .or ⟨.lt, "1e999"⟩
    let thousand : Binary64.Datum := .finite ⟨false, 4652007308841189376, by decide⟩
    (c.expressions filter).length + (c.parseDiagnostics filter).length = 8 ∧
      (c.run filter).diagnostics =
        [.malformedShape "oops" 1, .unknownOperator "y_ne_2" "ne", .invalidNumber "x" "Suit & Tie",
          .invalidNumber "ab" "many", .invalidNumber "ab" "inf", .invalidNumber "b" "1e999"] ∧
      half ∈ c.expressions filter ∧ half.Idle ∧
      checkedNumber "z" "1e3" = .ok thousand ∧
      (Predicate.compare? "z" .gte thousand).isSome = true := by
  intro c filter half thousand
  obtain ⟨htokens, hcounted, -, hdiagnostics, hidle, -, -, hcompare⟩ := run_accounts c filter
  have hhalf : half ∈ c.expressions filter := by decide +kernel
  have hread : (Decimal.readDatum? "1e3").filter (·.finite?.isSome) = some thousand := by
    decide +kernel
  have hnumber : checkedNumber "z" "1e3" = .ok thousand := by rw [checkedNumber, hread]
  refine ⟨?_, hdiagnostics.trans (by decide +kernel), hhalf, ?_, hnumber,
    hcompare "z" "1e3" thousand hnumber .gte⟩
  · rw [hcounted, htokens]
    decide +kernel
  · exact (hidle half hhalf).mpr ⟨⟨.lt, "1e999"⟩, by decide, by decide +kernel⟩

end Compiler
end Filter
end DocumentCatalog
