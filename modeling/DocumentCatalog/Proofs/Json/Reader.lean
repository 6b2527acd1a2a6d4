import DocumentCatalog.Json.Reader
import Mathlib.Logic.Basic

/-!
Reading an array against reading any value. The two readers take the same steps while the outermost
container is an array, and once it is not, no array can be found any more: to take a step and then
pass to the reader of arrays is to pass to it first and take its step.
-/

namespace DocumentCatalog
namespace Json
namespace Reader

def Frame.isArray : Frame → Bool
  | .array _ => true
  | .object _ _ => false

/-- Whether these containers, innermost first, may belong to an array. -/
def withinArray (stack : List Frame) : Bool :=
  stack.getLast?.all Frame.isArray

@[simp] theorem withinArray_nil : withinArray [] = true := rfl

@[simp] theorem withinArray_singleton (frame : Frame) : withinArray [frame] = frame.isArray := rfl

@[simp] theorem withinArray_cons_cons (frame next : Frame) (outer : List Frame) :
    withinArray (frame :: next :: outer) = withinArray (next :: outer) := by
  simp [withinArray]

/-- An array changes nothing about what its items belong to. -/
@[simp] theorem withinArray_array (items : List Json) (outer : List Frame) :
    withinArray (.array items :: outer) = withinArray outer := by
  cases outer <;> simp [Frame.isArray]

theorem withinArray_object (members other : List (String × Json)) (key key' : String)
    (outer : List Frame) :
    withinArray (.object members key :: outer) = withinArray (.object other key' :: outer) := by
  cases outer <;> simp [Frame.isArray]

/-- What the reader of arrays expects at the same point, if the value can still be an array. -/
def Expected.toItems? : Expected Json → Option (Expected (List Json))
  | .value stack => if withinArray stack then some (.value stack) else none
  | .firstItem outer => if withinArray outer then some (.firstItem outer) else none
  | .item items outer => if withinArray outer then some (.item items outer) else none
  | .moreItems items outer => if withinArray outer then some (.moreItems items outer) else none
  | .firstMember outer =>
      if withinArray (.object [] "" :: outer) then some (.firstMember outer) else none
  | .member members outer =>
      if withinArray (.object [] "" :: outer) then some (.member members outer) else none
  | .colon members key outer =>
      if withinArray (.object [] "" :: outer) then some (.colon members key outer) else none
  | .moreMembers members outer =>
      if withinArray (.object [] "" :: outer) then some (.moreMembers members outer) else none
  | .nothing result => (items result).toOption.map .nothing

def State.toItems? : State Json → Option (State (List Json))
  | .between expected => expected.toItems?.map .between
  | .token value stack => if withinArray stack then some (.token value stack) else none
  | .key text members outer =>
      if withinArray (.object [] "" :: outer) then some (.key text members outer) else none

theorem toOption_put (stack : List Frame) (value : Json) :
    (if withinArray stack then (put items stack value).toOption else none) =
      (put .ok stack value).toOption.bind Expected.toItems? := by
  match stack with
  | [] => cases value <;> rfl
  | .array found :: outer =>
      rw [withinArray_array]
      rfl
  | .object members key :: outer =>
      rw [withinArray_object members [] key ""]
      rfl

theorem toOption_close (stack : List Frame) (value : Json) :
    (if withinArray stack then (close items stack value).toOption else none) =
      (close .ok stack value).toOption.bind State.toItems? := by
  have hclose : ∀ {α : Type} (accept : Json → Except Fault α),
      (close accept stack value).toOption = (put accept stack value).toOption.map .between := by
    intro α accept
    unfold close
    cases put accept stack value <;> rfl
  rw [hclose, hclose, Option.bind_map]
  have hput := congrArg (Option.map State.between) (toOption_put stack value)
  rw [Option.map_bind] at hput
  refine Eq.trans ?_ hput
  split <;> rfl

theorem toOption_enter (frame : Frame) (outer : List Frame) (empty : Json)
    {inside : Expected Json} {other : Expected (List Json)}
    (h : inside.toItems? = if withinArray (frame :: outer) then some other else none) :
    (if withinArray (frame :: outer) then
        (enter items (frame :: outer) empty other).toOption else none) =
      (enter .ok (frame :: outer) empty inside).toOption.bind State.toItems? := by
  unfold enter
  by_cases hdepth : (frame :: outer).length < greatestDepth
  · simp only [if_pos hdepth]
    refine Eq.trans ?_ (congrArg (Option.map State.between) h).symm
    exact Option.map_if.symm
  · simp only [if_neg hdepth]
    exact ite_self none

theorem toOption_startValue (stack : List Frame) (c : Char) :
    (if withinArray stack then (startValue items stack c).toOption else none) =
      (startValue .ok stack c).toOption.bind State.toItems? := by
  unfold startValue
  by_cases harray : c = '['
  · simp only [if_pos harray]
    cases stack with
    | nil => rfl
    | cons frame outer => exact toOption_enter frame outer (.array []) rfl
  by_cases hobject : c = '\x7b'
  · simp only [if_neg harray, if_pos hobject]
    cases stack with
    | nil => rfl
    | cons frame outer =>
        refine toOption_enter frame outer (.object []) ?_
        rw [Expected.toItems?, withinArray_cons_cons]
  simp only [if_neg harray, if_neg hobject]
  cases Token.start? c with
  | none => exact ite_self none
  | some token => rfl

/-- An object that is not part of an array becomes none by being closed. -/
theorem toOption_close_object (members : List (String × Json)) (outer : List Frame) :
    (if withinArray (.object [] "" :: outer) then
        (close items outer (.object members)).toOption else none) =
      (close .ok outer (.object members)).toOption.bind State.toItems? := by
  cases outer with
  | nil => rfl
  | cons frame outer =>
      rw [withinArray_cons_cons]
      exact toOption_close _ _

theorem toOption_startKey (members : List (String × Json)) (outer : List Frame) (c : Char) :
    (if withinArray (.object [] "" :: outer) then
        (startKey members outer c : Except Flaw (State (List Json))).toOption else none) =
      (startKey members outer c).toOption.bind State.toItems? := by
  unfold startKey
  by_cases hquote : c = '"'
  · simp only [if_pos hquote]
    rfl
  · simp only [if_neg hquote]
    split <;> rfl

theorem toOption_meet (expected : Expected Json) (c : Char) :
    (expected.toItems?.bind fun other => (meet items other c).toOption) =
      (meet .ok expected c).toOption.bind State.toItems? := by
  cases expected with
  | nothing result => cases result <;> rfl
  | value stack =>
      rw [Expected.toItems?, apply_ite_left Option.bind]
      exact toOption_startValue stack c
  | firstItem outer =>
      rw [Expected.toItems?, apply_ite_left Option.bind]
      unfold meet
      by_cases hclose : c = ']'
      · simp only [if_pos hclose]
        exact toOption_close outer _
      · simp only [if_neg hclose]
        rw [← withinArray_array [] outer]
        exact toOption_startValue _ c
  | item found outer =>
      rw [Expected.toItems?, apply_ite_left Option.bind]
      unfold meet
      by_cases hclose : c = ']'
      · simp only [if_pos hclose]
        exact ite_self none
      · simp only [if_neg hclose]
        rw [← withinArray_array found outer]
        exact toOption_startValue _ c
  | moreItems found outer =>
      rw [Expected.toItems?, apply_ite_left Option.bind]
      unfold meet
      by_cases hcomma : c = ','
      · simp only [if_pos hcomma]
        exact Option.map_if.symm
      by_cases hclose : c = ']'
      · simp only [if_neg hcomma, if_pos hclose]
        exact toOption_close outer _
      · simp only [if_neg hcomma, if_neg hclose]
        exact ite_self none
  | firstMember outer =>
      rw [Expected.toItems?, apply_ite_left Option.bind]
      unfold meet
      by_cases hclose : c = '\x7d'
      · simp only [if_pos hclose]
        exact toOption_close_object [] outer
      · simp only [if_neg hclose]
        exact toOption_startKey [] outer c
  | member members outer =>
      rw [Expected.toItems?, apply_ite_left Option.bind]
      unfold meet
      by_cases hclose : c = '\x7d'
      · simp only [if_pos hclose]
        exact ite_self none
      · simp only [if_neg hclose]
        exact toOption_startKey members outer c
  | colon members key outer =>
      rw [Expected.toItems?, apply_ite_left Option.bind]
      unfold meet
      by_cases hcolon : c = ':'
      · simp only [if_pos hcolon]
        rw [withinArray_object [] members "" key]
        exact Option.map_if.symm
      · simp only [if_neg hcolon]
        exact ite_self none
  | moreMembers members outer =>
      rw [Expected.toItems?, apply_ite_left Option.bind]
      unfold meet
      by_cases hcomma : c = ','
      · simp only [if_pos hcomma]
        exact Option.map_if.symm
      by_cases hclose : c = '\x7d'
      · simp only [if_neg hcomma, if_pos hclose]
        exact toOption_close_object members outer
      · simp only [if_neg hcomma, if_neg hclose]
        exact ite_self none

theorem toOption_between (expected : Expected Json) (c : Char) :
    (expected.toItems?.bind fun other => (between items other c).toOption) =
      (between .ok expected c).toOption.bind State.toItems? := by
  unfold between
  cases isGap c with
  | true =>
      simp only [if_true]
      exact (Option.map_eq_bind).symm
  | false => exact toOption_meet expected c

theorem toOption_put_bind {β : Type} (stack : List Frame) (value : Json)
    (f : Expected (List Json) → Option β) :
    (if withinArray stack then (put items stack value).toOption.bind f else none) =
      (put .ok stack value).toOption.bind fun expected => expected.toItems?.bind f := by
  have hput := congrArg (Option.bind · f) (toOption_put stack value)
  rw [Option.bind_assoc] at hput
  refine Eq.trans ?_ hput
  split <;> rfl

theorem toOption_closeBefore (stack : List Frame) (value : Json) (c : Char) :
    (if withinArray stack then (closeBefore items stack value c).toOption else none) =
      (closeBefore .ok stack value c).toOption.bind State.toItems? := by
  have hclose : ∀ {α : Type} (accept : Json → Except Fault α),
      (closeBefore accept stack value c).toOption =
        (put accept stack value).toOption.bind fun expected =>
          (between accept expected c).toOption := by
    intro α accept
    unfold closeBefore
    cases put accept stack value <;> rfl
  simp only [hclose, toOption_put_bind, toOption_between, Option.bind_assoc]

theorem toOption_step (state : State Json) (c : Char) :
    (state.toItems?.bind fun other => (step items other c).toOption) =
      (step .ok state c).toOption.bind State.toItems? := by
  cases state with
  | between expected =>
      rw [State.toItems?, Option.bind_map]
      exact toOption_between expected c
  | token token stack =>
      rw [State.toItems?, apply_ite_left Option.bind]
      simp only [Option.bind_some, Option.bind_none, step]
      match token.step c with
      | .error flaw => exact ite_self none
      | .ok (.reading token) => rfl
      | .ok (.ended value) => exact toOption_close stack value
      | .ok (.endedBefore value) => exact toOption_closeBefore stack value c
  | key text members outer =>
      rw [State.toItems?, apply_ite_left Option.bind]
      simp only [Option.bind_some, Option.bind_none, step]
      match text.step c with
      | .error flaw => exact ite_self none
      | .ok (.inl text) => rfl
      | .ok (.inr key) => exact Option.map_if.symm

theorem toOption_finish_expected (expected : Expected Json) :
    (expected.toItems?.bind fun other => other.finish.toOption) =
      expected.finish.toOption.bind fun value => (items value).toOption := by
  cases expected with
  | nothing result => cases result <;> rfl
  | value _ | firstItem _ | item _ _ | moreItems _ _ | firstMember _ | member _ _ | colon _ _ _
  | moreMembers _ _ =>
      rw [Expected.toItems?, apply_ite_left Option.bind]
      exact ite_self none

theorem toOption_finish (state : State Json) :
    (state.toItems?.bind fun other => (finish items other).toOption) =
      (finish .ok state).toOption.bind fun value => (items value).toOption := by
  cases state with
  | between expected =>
      rw [State.toItems?, Option.bind_map]
      exact toOption_finish_expected expected
  | token token stack =>
      rw [State.toItems?, apply_ite_left Option.bind]
      simp only [Option.bind_some, Option.bind_none]
      cases hfinish : token.finish with
      | error fault =>
          simp only [finish, hfinish]
          exact ite_self none
      | ok value =>
          have hput : ∀ {α : Type} (accept : Json → Except Fault α),
              (finish accept (.token token stack)).toOption =
                (put accept stack value).toOption.bind fun expected =>
                  expected.finish.toOption := by
            intro α accept
            simp only [finish, hfinish]
            cases h : put accept stack value <;> simp [h, Except.toOption, bind, Except.bind]
          simp only [hput, toOption_put_bind, toOption_finish_expected, Option.bind_assoc]
  | key _ _ _ =>
      rw [State.toItems?, apply_ite_left Option.bind]
      exact ite_self none

theorem toOption_run (state : State Json) (place : Place) (cs : List Char) :
    (state.toItems?.bind fun other => (run items other place cs).toOption) =
      (run .ok state place cs).toOption.bind fun value => (items value).toOption := by
  have herror : ∀ {ε δ α : Type} (result : Except ε α) (f : ε → δ),
      (result.mapError f).toOption = result.toOption := by
    intro ε δ α result f
    cases result <;> rfl
  induction cs generalizing state place with
  | nil =>
      simp only [run, herror]
      exact toOption_finish state
  | cons c rest ih =>
      have hrun : ∀ {α : Type} (accept : Json → Except Fault α) (state : State α),
          (run accept state place (c :: rest)).toOption =
            (step accept state c).toOption.bind fun next =>
              (run accept next (place.after c) rest).toOption := by
        intro α accept state
        rw [run]
        cases step accept state c <;> rfl
      simp only [hrun]
      rw [← Option.bind_assoc, toOption_step, Option.bind_assoc, Option.bind_assoc]
      simp only [ih]

end Reader

/-- Reading an array is reading any value and finding an array. -/
theorem toOption_readArray (s : String) : (readArray s).toOption = readArray? s := by
  refine (Reader.toOption_run (.between (.value [])) {} s.toList).trans ?_
  rw [readArray?, read?, read]
  cases (Reader.run .ok (.between (.value [])) {} s.toList).toOption with
  | none => rfl
  | some value => cases value <;> rfl

theorem readArray_eq_ok_iff {s : String} {items : List Json} :
    readArray s = .ok items ↔ readArray? s = some items := by
  rw [← toOption_readArray]
  cases readArray s <;> simp [Except.toOption]

/-- An object is refused where it starts, whatever is wrong with it. -/
example : readArray "\n \x7b]" = .error ⟨.wrongKind .object "a sequence", 2, 1⟩ := rfl

end Json
end DocumentCatalog
