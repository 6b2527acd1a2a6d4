import DocumentCatalog.Proofs.Filter.Rendering
import DocumentCatalog.Proofs.Filter.Reports

/-!
Substitution as a change of the filter text. Replacing every value in the text, once, by the last
entry for it and compiling without a table gives the same expressions and the same predicate as
compiling with the table. The names and operators of a token are not values and stay as they are.
-/

namespace DocumentCatalog
namespace Filter

/-- The text that the last pair for a text gives for it, or the text itself. -/
def lastEntry (pairs : List (String × String)) (raw : String) : String :=
  (pairs.reverse.lookup raw).getD raw

theorem Substitutions.table_foldl_add (s : Substitutions) (pairs : List (String × String)) :
    (pairs.foldl (fun s pair => s.add pair.1 pair.2) s).table = Entries.merge s.table pairs := by
  induction pairs generalizing s with
  | nil => rfl
  | cons pair pairs ih => exact ih (s.add pair.1 pair.2)

theorem Substitutions.apply_ofList (pairs : List (String × String)) (raw : String) :
    (ofList pairs).apply raw = lastEntry pairs raw := by
  rw [apply, ofList, table_foldl_add, Entries.get?_merge, empty, Entries.get?_nil, Option.or_none]
  rfl

/-- The parts of a token with every value replaced, which are the third part and those after it. -/
def replacedParts (replace : String → String) (parts : List String) : List String :=
  parts.take 2 ++ (parts.drop 2).map replace

theorem length_replacedParts (replace : String → String) (parts : List String) :
    (replacedParts replace parts).length = parts.length := by
  rw [replacedParts, List.length_append, List.length_map, ← List.length_append,
    List.take_append_drop]

theorem take_replacedParts (replace : String → String) (parts : List String) :
    (replacedParts replace parts).take 2 = parts.take 2 := by
  match parts with
  | [] | [_] | _ :: _ :: _ => rfl

namespace Compiler

section

variable (c : Compiler) (replace : String → String)

def replacedToken (token : String) : String :=
  Text.join c.partSeparator (replacedParts replace (c.parts token))

/-- The filter with every value replaced. -/
def replacedFilter (filter : String) : String :=
  Text.join c.expressionSeparator ((c.tokens filter).map (c.replacedToken replace))

variable {c replace} (hreplace : ∀ s, c.Plain s → c.Plain (replace s)) {filter : String}
include hreplace

theorem plain_of_mem_replacedParts {token part : String} (htoken : token ∈ c.tokens filter)
    (hpart : part ∈ replacedParts replace (c.parts token)) : c.Plain part := by
  rcases List.mem_append.mp hpart with hkept | hvalue
  · exact plain_of_mem_split htoken (List.mem_of_mem_take hkept)
  · obtain ⟨raw, hraw, rfl⟩ := List.mem_map.mp hvalue
    exact hreplace raw (plain_of_mem_split htoken (List.mem_of_mem_drop hraw))

theorem parts_replacedToken {token : String} (htoken : token ∈ c.tokens filter) :
    c.parts (c.replacedToken replace token) = replacedParts replace (c.parts token) := by
  apply Text.split_join
  · rw [← List.length_pos_iff, length_replacedParts, parts, Text.length_split]
    omega
  · exact fun _ hpart => (plain_of_mem_replacedParts hreplace htoken hpart).2

theorem not_mem_replacedToken {token : String} (htoken : token ∈ c.tokens filter) :
    c.expressionSeparator ∉ (c.replacedToken replace token).toList := by
  intro hmem
  obtain ⟨part, hpart, hmem⟩ := (Text.mem_join_iff c.separators_differ).mp hmem
  exact (plain_of_mem_replacedParts hreplace htoken hpart).1 hmem

theorem tokens_replacedFilter :
    c.tokens (c.replacedFilter replace filter) =
      (c.tokens filter).map (c.replacedToken replace) := by
  apply Text.split_join
  · rw [ne_eq, List.map_eq_nil_iff, ← ne_eq, ← List.length_pos_iff, tokens, Text.length_split]
    omega
  · intro token htoken
    obtain ⟨original, horiginal, rfl⟩ := List.mem_map.mp htoken
    exact not_mem_replacedToken hreplace horiginal

theorem parts_replacedFilter :
    (c.tokens (c.replacedFilter replace filter)).map c.parts =
      (c.tokens filter).map fun token => replacedParts replace (c.parts token) := by
  rw [tokens_replacedFilter hreplace, List.map_map]
  apply List.map_congr_left
  intro token htoken
  rw [Function.comp_apply]
  exact parts_replacedToken hreplace htoken

end

/-- The compiler without a table. -/
def bare (c : Compiler) : Compiler :=
  { c with substitutions := .empty }

variable {c : Compiler}

/-- Without joined comparisons the table is asked for the values only, so it can be asked before. -/
theorem classifyParts_replacedParts (hplain : c.joined = false) (token other : String)
    (parts : List String) :
    (c.bare.classifyParts other (replacedParts c.substitutions.apply parts)).toOption =
      (c.classifyParts token parts).toOption := by
  match parts with
  | [] | [_] | [_, _] => rfl
  | [name, word, value] =>
      change (c.bare.classifyParts other [name, word, c.substitutions.apply value]).toOption = _
      rw [classifyParts_three, classifyParts_three]
      cases Operator.ofKeyword? word <;> rfl
  | name :: word :: value :: value' :: rest =>
      change (c.bare.classifyParts other (name :: word :: c.substitutions.apply value ::
        c.substitutions.apply value' :: rest.map c.substitutions.apply)).toOption = _
      have hunchanged : c.bare.substitutions.apply = id := rfl
      rw [classifyParts_many, classifyParts_many, hplain, show c.bare.joined = false from hplain,
        if_neg Bool.false_ne_true, if_neg Bool.false_ne_true, hunchanged, List.map_id]
      rfl

section

variable (htable : ∀ entry ∈ c.substitutions.table, c.Plain entry.2) (filter : String)
include htable

theorem plain_apply (s : String) (hs : c.Plain s) : c.Plain (c.substitutions.apply s) := by
  rcases c.substitutions.apply_cases s with hraw | hvalue
  · rwa [hraw]
  · obtain ⟨entry, hentry, heq⟩ := List.mem_map.mp hvalue
    exact heq ▸ htable entry hentry

theorem expressions_replacedFilter (hplain : c.joined = false) :
    c.bare.expressions (c.replacedFilter c.substitutions.apply filter) = c.expressions filter := by
  have htokens : c.bare.tokens (c.replacedFilter c.substitutions.apply filter) =
      (c.tokens filter).map (c.replacedToken c.substitutions.apply) :=
    tokens_replacedFilter (plain_apply htable)
  simp only [expressions, classified, htokens, List.filterMap_map]
  apply List.filterMap_congr
  intro token htoken
  have hparts : c.bare.parts (c.replacedToken c.substitutions.apply token) =
      replacedParts c.substitutions.apply (c.parts token) :=
    parts_replacedToken (plain_apply htable) htoken
  simp only [Function.comp_apply, classify, hparts]
  exact classifyParts_replacedParts hplain _ _ _

/-- A table is asked once for every value and for nothing else: if its entries, of which the last for
a text counts, have no separators, and no joined comparisons are read, then replacing the values in
the text and compiling without the table gives the same expressions, the same predicate and the same
diagnostics of numbers. Every token keeps its name, its operator and the number of its parts. -/
theorem run_replacedFilter (hplain : c.joined = false) (pairs : List (String × String))
    (hpairs : c.substitutions = .ofList pairs) :
    let replaced := c.replacedFilter (lastEntry pairs) filter
    c.bare.expressions replaced = c.expressions filter ∧
      c.bare.compile replaced = c.compile filter ∧
      (c.bare.run replaced).diagnostics.filter (·.kind == "invalid_numeric_literal") =
        (c.run filter).diagnostics.filter (·.kind == "invalid_numeric_literal") ∧
      (c.bare.tokens replaced).map c.bare.parts =
        (c.tokens filter).map (fun token => replacedParts (lastEntry pairs) (c.parts token)) ∧
      (c.bare.tokens replaced).map
          (fun token => ((c.bare.parts token).take 2, (c.bare.parts token).length)) =
        (c.tokens filter).map fun token => ((c.parts token).take 2, (c.parts token).length) := by
  have happly : lastEntry pairs = c.substitutions.apply := by
    funext raw
    rw [hpairs, Substitutions.apply_ofList]
  rw [happly]
  intro replaced
  have hexpressions : c.bare.expressions replaced = c.expressions filter :=
    expressions_replacedFilter htable filter hplain
  have hparts : (c.bare.tokens replaced).map c.bare.parts =
      (c.tokens filter).map fun token => replacedParts c.substitutions.apply (c.parts token) :=
    parts_replacedFilter (plain_apply htable)
  refine ⟨hexpressions, ?_, ?_, hparts, ?_⟩
  · rw [compile, compile, run, run, hexpressions]
  · rw [filter_kind_run, filter_kind_run, buildDiagnostics, buildDiagnostics, hexpressions]
  · have hshape := congrArg (List.map fun parts => (parts.take 2, parts.length)) hparts
    simp only [List.map_map, Function.comp_def, take_replacedParts, length_replacedParts] at hshape
    exact hshape

end

/-- Two texts that stand for each other, one of them entered twice; a truth value, a number and nothing
at all; and entries for the name and the operator of a token, which are not asked for. -/
theorem run_replacedFilter_cyclic :
    let pairs := [("a", "x"), ("a", "b"), ("b", "a"), ("ten", "10"), ("yes", "true"), ("gone", ""),
      ("X", "z"), ("eq", "gt")]
    let c : Compiler := { standard with substitutions := .ofList pairs }
    let filter := "X_eq_a;x_lt_ten;b_in_a_b_gone;X_gt_yes;y_ne_a;a_a"
    let replaced := "X_eq_b;x_lt_10;b_in_b_a_;X_gt_true;y_ne_b;a_a"
    (∀ entry ∈ c.substitutions.table, c.Plain entry.2) ∧ c.joined = false ∧
      c.substitutions = .ofList pairs ∧ c.replacedFilter (lastEntry pairs) filter = replaced ∧
      c.bare.expressions replaced = c.expressions filter ∧
      c.bare.compile replaced = c.compile filter ∧
      (c.bare.run replaced).diagnostics.filter (·.kind == "invalid_numeric_literal") =
        [.invalidNumber "x" "true"] := by
  intro pairs c filter replaced
  have htable : ∀ entry ∈ c.substitutions.table, c.Plain entry.2 := by decide +kernel
  have htext : c.replacedFilter (lastEntry pairs) filter = replaced := by decide +kernel
  obtain ⟨hexpressions, hcompile, hnumbers, -⟩ := run_replacedFilter htable filter rfl pairs rfl
  rw [htext] at hexpressions hcompile hnumbers
  exact ⟨htable, rfl, rfl, htext, hexpressions, hcompile, hnumbers.trans (by decide +kernel)⟩

end Compiler
end Filter
end DocumentCatalog
