import DocumentCatalog.Proofs.Service.Paging

/-!
What a request can ask for at most. A configuration that the service starts with allows a page of at
least one document, and no text of a request makes a page larger than that or lets a number wrap
around: a number that is no use is replaced before anything is computed with it.
-/

namespace DocumentCatalog

namespace Query

theorem length_find_le (documents : List Json) (p : Filter.Predicate) {options : Options}
    {limit : Nat} (h : options.limit = some limit) :
    (find documents p options).length ≤ limit := by
  rw [find_limit documents p options limit h]
  exact List.length_take_le _ _

end Query

namespace Service

namespace Config

theorem readLimit_bounds {text : Option String} {limit : Nat} (h : readLimit text = .ok limit) :
    1 ≤ limit ∧ limit ≤ Text.greatestWord := by
  cases text with
  | none =>
      cases h
      decide
  | some text =>
      cases hread : Text.readWord text with
      | error cause => simp [readLimit, hread] at h
      | ok n =>
          have hword := ((Text.readNat_eq_ok_iff _ _ _).mp hread).2
          cases n with
          | zero => simp [readLimit, hread] at h
          | succ n =>
              simp only [readLimit, hread, Except.ok.injEq] at h
              omega

/-- A text that cannot be read keeps the service from starting; lists are read whatever they are. -/
theorem of_ofEnvironment {env : Environment} {config : Config} (h : ofEnvironment env = .ok config) :
    readLimit (env.text? "RESULTS_LIMIT") = .ok config.resultsLimit ∧
      config.searchableFields = ((env.text? "SEARCHABLE_FIELDS").map Text.entries).getD
        ({} : Config).searchableFields ∧
      config.privateFields = ((env.text? "PRIVATE_FIELDS").map Text.entries).getD
        ({} : Config).privateFields := by
  unfold ofEnvironment at h
  cases hport : readPort (env.text? "PORT") with
  | error cause => simp [hport, bind, Except.bind] at h
  | ok port =>
      cases hlimit : readLimit (env.text? "RESULTS_LIMIT") with
      | error cause => simp [hport, hlimit, bind, Except.bind] at h
      | ok limit =>
          simp only [hport, hlimit, bind, Except.bind, pure, Except.pure, Except.ok.injEq] at h
          rw [← h]
          exact ⟨rfl, rfl, rfl⟩

theorem resultsLimit_bounds {env : Environment} {config : Config}
    (h : ofEnvironment env = .ok config) :
    1 ≤ config.resultsLimit ∧ config.resultsLimit ≤ Text.greatestWord :=
  readLimit_bounds (of_ofEnvironment h).1

end Config

/-- Whether a parameter is a numeral for a number, apart from blanks around it. -/
def Written (text : Option String) (n : Nat) : Prop :=
  ∃ s, text = some s ∧ Text.Denotes (Text.trim s) n

/-- The number that a parameter stands for: the written one if it is between one and the greatest
allowed, and the default in every other case. -/
inductive Choice (text : Option String) (greatest default : Nat) : Nat → Prop where
  | written {n : Nat} (h : Written text n) (positive : 1 ≤ n) (allowed : n ≤ greatest) :
      Choice text greatest default n
  | other (h : ∀ n, Written text n → ¬ (1 ≤ n ∧ n ≤ greatest)) :
      Choice text greatest default default

theorem Written.unique {text : Option String} {m n : Nat} (hm : Written text m)
    (hn : Written text n) : m = n := by
  obtain ⟨s, hs, hdenotes⟩ := hm
  obtain ⟨other, hother, hdenotes'⟩ := hn
  have heq : s = other := Option.some.inj (hs.symm.trans hother)
  subst heq
  exact hdenotes.unique hdenotes'

theorem word?_eq_some_iff (text : Option String) (n : Nat) :
    word? text = some n ↔ Written text n ∧ n ≤ Text.greatestWord := by
  have hoption : ∀ result : Except Text.NumeralError Nat,
      result.toOption = some n ↔ result = .ok n := by
    intro result
    cases result <;> simp [Except.toOption]
  cases text with
  | none => simp [word?, Written]
  | some s =>
      simp only [word?, Option.bind_some, hoption, Text.readWord, Text.readNat_eq_ok_iff, Written,
        Option.some.injEq, exists_eq_left']

section

variable {text : Option String} {greatest default : Nat}

theorem choice_of_word? (hword : greatest ≤ Text.greatestWord) :
    Choice text greatest default
      (match word? text with
        | some n => if 1 ≤ n ∧ n ≤ greatest then n else default
        | none => default) := by
  cases h : word? text with
  | none =>
      refine .other fun n hn hrange => ?_
      have hread := (word?_eq_some_iff text n).mpr ⟨hn, Nat.le_trans hrange.2 hword⟩
      rw [h] at hread
      cases hread
  | some n =>
      obtain ⟨hwritten, -⟩ := (word?_eq_some_iff text n).mp h
      by_cases hrange : 1 ≤ n ∧ n ≤ greatest
      · simp only [if_pos hrange]
        exact .written hwritten hrange.1 hrange.2
      · simp only [if_neg hrange]
        exact .other fun m hm => (hwritten.unique hm) ▸ hrange

theorem Choice.bounds {n : Nat} (h : Choice text greatest default n) (hpositive : 1 ≤ default)
    (hdefault : default ≤ greatest) : 1 ≤ n ∧ n ≤ greatest := by
  cases h with
  | written _ positive allowed => exact ⟨positive, allowed⟩
  | other _ => exact ⟨hpositive, hdefault⟩

theorem Choice.eq_iff {n m : Nat} (h : Choice text greatest default n) (hpositive : 1 ≤ default)
    (hdefault : default ≤ greatest) (hm : Written text m) : n = m ↔ 1 ≤ m ∧ m ≤ greatest := by
  constructor
  · rintro rfl
    exact h.bounds hpositive hdefault
  · intro hrange
    cases h with
    | written hn _ _ => exact hn.unique hm
    | other hother => exact absurd hrange (hother m hm)

end

theorem choice_pageSize (take : Option String) {limit : Nat} (h : limit ≤ Text.greatestWord) :
    Choice take limit limit (pageSize take limit) :=
  choice_of_word? h

theorem choice_pageNumber (page : Option String) :
    Choice page Text.greatestWord 1 (pageNumber page) := by
  have hchoice : Choice page Text.greatestWord 1 _ := choice_of_word? (Nat.le_refl _)
  cases h : word? page with
  | none => simpa only [pageNumber, h] using hchoice
  | some n =>
      have hword := ((word?_eq_some_iff page n).mp h).2
      simpa only [pageNumber, h, hword, and_true] using hchoice

/-- A page has at least one document to offer and at most as many as the configuration allows, and
what stands before it is counted without wrapping around. -/
theorem find_bounded {env : Environment} {config : Config}
    (h : Config.ofEnvironment env = .ok config) (params : Parameters) (documents : List Json)
    (p : Filter.Predicate) :
    let options := findOptions params config
    ∃ size number,
      options.limit = some size ∧ 1 ≤ size ∧ size ≤ config.resultsLimit ∧
      Choice params.take config.resultsLimit config.resultsLimit size ∧
      (∀ n, Written params.take n → (size = n ↔ 1 ≤ n ∧ n ≤ config.resultsLimit)) ∧
      1 ≤ number ∧ number ≤ Text.greatestWord ∧ Choice params.page Text.greatestWord 1 number ∧
      options.skip = min ((number - 1) * size) Text.greatestWord ∧
      (Query.find documents p options).length ≤ config.resultsLimit := by
  intro options
  obtain ⟨hpositive, hword⟩ := Config.resultsLimit_bounds h
  have hsize := choice_pageSize params.take hword
  have hnumber := choice_pageNumber params.page
  obtain ⟨hone, hlimit⟩ := hsize.bounds hpositive (Nat.le_refl _)
  obtain ⟨hfirst, hlast⟩ := hnumber.bounds (Nat.le_refl 1) (by decide)
  have hsome : options.limit = some (pageSize params.take config.resultsLimit) := rfl
  have hlength := Query.length_find_le documents p hsome
  exact ⟨_, pageNumber params.page, hsome, hone, hlimit, hsize,
    fun n hn => hsize.eq_iff hpositive (Nat.le_refl _) hn, hfirst, hlast, hnumber, rfl,
    Nat.le_trans hlength hlimit⟩

/-- Pages of seven out of at most twenty-five, and the last one that a word can number. -/
theorem find_bounded_last_page :
    let env : Environment := [("RESULTS_LIMIT", [50, 53])]
    let config : Config := { resultsLimit := 25 }
    let params : Parameters := { take := some "\t+007 ", page := some "18446744073709551615" }
    Config.ofEnvironment env = .ok config ∧ Written params.take 7 ∧
      Written params.page Text.greatestWord ∧
      (findOptions params config).limit = some 7 ∧
      (findOptions params config).skip = Text.greatestWord := by
  intro env config params
  have hconfig : Config.ofEnvironment env = .ok config := rfl
  have htake : Written params.take 7 :=
    ((word?_eq_some_iff params.take 7).mp (by decide +kernel)).1
  have hpage : Written params.page Text.greatestWord :=
    ((word?_eq_some_iff params.page Text.greatestWord).mp (by decide +kernel)).1
  obtain ⟨size, number, hlimit, -, -, -, hsize, -, -, hnumber, hskip, -⟩ :=
    find_bounded hconfig params [] .empty
  have hseven : size = 7 := (hsize 7 htake).mpr (by decide)
  have hlast : number = Text.greatestWord :=
    (hnumber.eq_iff (Nat.le_refl 1) (by decide) hpage).mpr (by decide)
  rw [hseven] at hlimit hskip
  rw [hlast] at hskip
  exact ⟨hconfig, htake, hpage, hlimit, hskip.trans (by decide)⟩

end Service
end DocumentCatalog
