import DocumentCatalog.Proofs.Filter.Dropping

/-!
What changes when joined comparisons are read. Only a token that has the shape of two joined
comparisons is read in another way; without them it is a choice among its last four parts. Every
other token stays what it is, and what is reported of the tokens is the same.
-/

namespace DocumentCatalog
namespace Filter
namespace Compiler

/-- The compiler that reads joined comparisons, or does not. -/
def withJoined (c : Compiler) (joined : Bool) : Compiler :=
  { c with joined := joined }

/-- Tokens with their expressions without and with joined comparisons. -/
inductive Paired (c : Compiler) : List String → List Expression → List Expression → Prop
  | nil : Paired c [] [] []
  | refused {token tokens plain joined reason}
      (hplain : (c.withJoined false).classify token = .error reason)
      (hjoined : (c.withJoined true).classify token = .error reason)
      (rest : Paired c tokens plain joined) : Paired c (token :: tokens) plain joined
  | alike {token tokens plain joined e} (h : ¬ JoinedShape (c.parts token))
      (hplain : (c.withJoined false).classify token = .ok e)
      (hjoined : (c.withJoined true).classify token = .ok e)
      (rest : Paired c tokens plain joined) :
      Paired c (token :: tokens) (e :: plain) (e :: joined)
  | unlike {token tokens plain joined name first value join second value'}
      (h : c.parts token =
        [name, Operator.keyword first, value, Join.keyword join, Operator.keyword second, value'])
      (rest : Paired c tokens plain joined) :
      Paired c (token :: tokens)
        (.multiple (Unicode.lowercase name)
          ([value, join.keyword, second.keyword, value'].map c.substitutions.apply) :: plain)
        (.joined (Unicode.lowercase name) ⟨first, c.substitutions.apply value⟩ join
          ⟨second, c.substitutions.apply value'⟩ :: joined)

instance (parts : List String) : Decidable (JoinedShape parts) :=
  decidable_of_iff ((standard.joinedExpression? "" parts).isSome = true) (by
    rw [Option.isSome_iff_ne_none, ne_eq, joinedExpression?_eq_none_iff, Classical.not_not])

variable {c : Compiler} {token : String}

theorem Paired.length_eq {tokens : List String} {plain joined : List Expression}
    (h : c.Paired tokens plain joined) : plain.length = joined.length := by
  induction h with
  | nil => rfl
  | refused _ _ _ ih => exact ih
  | alike _ _ _ _ ih | unlike _ _ ih => rw [List.length_cons, List.length_cons, ih]

theorem classify_withJoined_of_not_shape (h : ¬ JoinedShape (c.parts token)) :
    (c.withJoined true).classify token = (c.withJoined false).classify token := by
  change (c.withJoined true).classifyParts token (c.parts token) =
    (c.withJoined false).classifyParts token (c.parts token)
  match hparts : c.parts token with
  | [] | [_] | [_, _] | [_, _, _] => rfl
  | name :: word :: value :: value' :: rest =>
      rw [hparts] at h
      rw [classifyParts_many, classifyParts_many, joinedExpression?_eq_none_iff _ |>.mpr h]
      rfl

section

variable {name value value' : String} {first second : Operator} {join : Join}
  (h : c.parts token =
    [name, first.keyword, value, join.keyword, second.keyword, value'])
include h

theorem classify_withJoined_false : (c.withJoined false).classify token =
    .ok (.multiple (Unicode.lowercase name)
      ([value, join.keyword, second.keyword, value'].map c.substitutions.apply)) := by
  rw [classify_eq_ok_iff, show (c.withJoined false).parts token = _ from h]
  exact .multiple _ _ _ _ _ fun henabled => nomatch henabled

theorem classify_withJoined_true : (c.withJoined true).classify token =
    .ok (.joined (Unicode.lowercase name) ⟨first, c.substitutions.apply value⟩ join
      ⟨second, c.substitutions.apply value'⟩) := by
  rw [classify_eq_ok_iff, show (c.withJoined true).parts token = _ from h]
  exact .joined _ _ _ _ _ _ rfl

end

theorem paired_of_tokens (tokens : List String) :
    c.Paired tokens ((tokens.map (c.withJoined false).classify).filterMap Except.toOption)
      ((tokens.map (c.withJoined true).classify).filterMap Except.toOption) := by
  induction tokens with
  | nil => exact .nil
  | cons token tokens ih =>
      rw [List.map_cons, List.map_cons]
      by_cases hshape : JoinedShape (c.parts token)
      · obtain ⟨name, first, value, join, second, value', hsix⟩ := hshape
        rw [classify_withJoined_false hsix, classify_withJoined_true hsix]
        exact .unlike hsix ih
      · have hsame := classify_withJoined_of_not_shape hshape
        cases hplain : (c.withJoined false).classify token with
        | error reason =>
            rw [hplain] at hsame
            rw [hsame]
            exact .refused hplain hsame ih
        | ok e =>
            rw [hplain] at hsame
            rw [hsame]
            exact .alike hshape hplain hsame ih

theorem failure?_classify_withJoined (token : String) :
    failure? ((c.withJoined true).classify token) =
      failure? ((c.withJoined false).classify token) := by
  by_cases hshape : JoinedShape (c.parts token)
  · -- an expression either way, so never reported
    obtain ⟨name, first, value, join, second, value', hsix⟩ := hshape
    rw [classify_withJoined_false hsix, classify_withJoined_true hsix]
    rfl
  · rw [classify_withJoined_of_not_shape hshape]

theorem parseDiagnostics_withJoined (filter : String) :
    (c.withJoined true).parseDiagnostics filter = (c.withJoined false).parseDiagnostics filter := by
  simp only [parseDiagnostics, classified, List.filterMap_map]
  exact List.filterMap_congr fun token _ => failure?_classify_withJoined token

theorem expressions_withJoined_of_not_shape {filter : String}
    (h : ∀ token ∈ c.tokens filter, ¬ JoinedShape (c.parts token)) :
    (c.withJoined true).expressions filter = (c.withJoined false).expressions filter := by
  have hclassified :
      (c.withJoined true).classified filter = (c.withJoined false).classified filter :=
    List.map_congr_left fun token htoken => classify_withJoined_of_not_shape (h token htoken)
  rw [expressions, expressions, hclassified]

/-- With joined comparisons a filter without tokens of their shape is compiled as before. In any
filter only the tokens of that shape are read in another way, each as one expression still, on the
same field and with the same texts; what is reported of the tokens does not change. -/
theorem run_withJoined (c : Compiler) (filter : String) :
    let plain := c.withJoined false
    let joining := c.withJoined true
    ((∀ token ∈ c.tokens filter, ¬ JoinedShape (c.parts token)) →
      joining.expressions filter = plain.expressions filter ∧
        joining.run filter = plain.run filter) ∧
      (joining.expressions filter).length = (plain.expressions filter).length ∧
      joining.parseDiagnostics filter = plain.parseDiagnostics filter ∧
      c.Paired (c.tokens filter) (plain.expressions filter) (joining.expressions filter) := by
  intro plain joining
  have hpaired : c.Paired (c.tokens filter) (plain.expressions filter)
      (joining.expressions filter) := paired_of_tokens (c.tokens filter)
  have hparse := c.parseDiagnostics_withJoined filter
  refine ⟨?_, hpaired.length_eq.symm, hparse, hpaired⟩
  intro hshape
  have hexpressions := expressions_withJoined_of_not_shape hshape
  refine ⟨hexpressions, ?_⟩
  rw [run, run, hparse, hexpressions]

/-- A near miss in the word between the comparisons, beside a token of another length and one that is
refused; and a token of the shape between two others, whose values are keywords or substituted. -/
theorem run_withJoined_near_miss :
    let c : Compiler := standard
    let near := "x_gt_1_nor_lt_2;x_gt_1_and_lt;hat_eq_Red_Blue;oops;x_gt_1"
    let shaped := "x_gt_1;X_eq_and_or_lte_Suit and Tie;oops;x_gt_1_nor_lt_2"
    (∀ token ∈ c.tokens near, ¬ JoinedShape (c.parts token)) ∧
      (c.withJoined true).run near = (c.withJoined false).run near ∧
      (c.withJoined false).expressions shaped = [.simple "x" .gt "1",
        .multiple "x" ["and", "or", "lte", "Suit & Tie"], .multiple "x" ["1", "nor", "lt", "2"]] ∧
      (c.withJoined true).expressions shaped = [.simple "x" .gt "1",
        .joined "x" ⟨.eq, "and"⟩ .or ⟨.lte, "Suit & Tie"⟩, .multiple "x" ["1", "nor", "lt", "2"]] ∧
      (c.withJoined true).parseDiagnostics shaped =
        (c.withJoined false).parseDiagnostics shaped := by
  intro c near shaped
  have hnear : ∀ token ∈ c.tokens near, ¬ JoinedShape (c.parts token) := by decide +kernel
  obtain ⟨hrun, -⟩ := run_withJoined c near
  obtain ⟨-, -, hparse, -⟩ := run_withJoined c shaped
  exact ⟨hnear, (hrun hnear).2, by decide +kernel, by decide +kernel, hparse⟩

end Compiler
end Filter
end DocumentCatalog
