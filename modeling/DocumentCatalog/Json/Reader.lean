import DocumentCatalog.Json.Token

/-!
Reading a value that takes up a whole text, in one pass that stops at the first fault. Between the
parts of a value only the four blanks of the format may stand. Of two members with one key the later
value counts, at the place of the earlier one; values nest at most 127 deep.
-/

namespace DocumentCatalog
namespace Json
namespace Reader

/-- A container that is not closed yet. Items are kept last first; an object knows the key whose
value is being read. -/
inductive Frame where
  | array (items : List Json)
  | object (members : List (String × Json)) (key : String)

/-- What comes next between the values without parts. The open containers are listed innermost
first. -/
inductive Expected (α : Type) where
  | value (stack : List Frame)
  /-- A value, or the end of the array that was just opened. -/
  | firstItem (outer : List Frame)
  /-- A value, after a comma. -/
  | item (items : List Json) (outer : List Frame)
  | moreItems (items : List Json) (outer : List Frame)
  /-- A key, or the end of the object that was just opened. -/
  | firstMember (outer : List Frame)
  /-- A key, after a comma. -/
  | member (members : List (String × Json)) (outer : List Frame)
  | colon (members : List (String × Json)) (key : String) (outer : List Frame)
  | moreMembers (members : List (String × Json)) (outer : List Frame)
  /-- Nothing but blanks. -/
  | nothing (result : α)

inductive State (α : Type) where
  | between (expected : Expected α)
  | token (token : Token) (stack : List Frame)
  | key (text : Quoted) (members : List (String × Json)) (outer : List Frame)

def greatestDepth : Nat := 127

def isGap (c : Char) : Bool :=
  c == ' ' || c == '\t' || c == '\n' || c == '\r'

variable {α : Type} (accept : Json → Except Fault α)

/-- Puts a finished value into the container it stands in. A value that stands in none is the result
if it is accepted. -/
def put (stack : List Frame) (value : Json) : Except Fault (Expected α) :=
  match stack with
  | [] => (accept value).map .nothing
  | .array items :: outer => .ok (.moreItems (value :: items) outer)
  | .object members key :: outer => .ok (.moreMembers (Entries.insert key value members) outer)

/-- Ends a value with a character of its own. -/
def close (stack : List Frame) (value : Json) : Except Flaw (State α) :=
  match put accept stack value with
  | .ok expected => .ok (.between expected)
  | .error fault => .error { fault }

/-- Opens a container, if the stack is not too high. The outermost one is refused before it is read
if it would not be accepted empty. -/
def enter (stack : List Frame) (empty : Json) (inside : Expected α) : Except Flaw (State α) :=
  match stack with
  | [] =>
      match accept empty with
      | .ok _ => .ok (.between inside)
      | .error fault => .error { fault, octets := 0 }
  | _ :: _ =>
      if stack.length < greatestDepth then .ok (.between inside) else .error { fault := .tooDeep }

/-- The first character of a value. -/
def startValue (stack : List Frame) (c : Char) : Except Flaw (State α) :=
  if c = '[' then enter accept stack (.array []) (.firstItem stack)
  else if c = '\x7b' then enter accept stack (.object []) (.firstMember stack)
  else
    match Token.start? c with
    | some token => .ok (.token token stack)
    | none => .error { fault := .noValue }

/-- The first character of a key. -/
def startKey (members : List (String × Json)) (outer : List Frame) (c : Char) :
    Except Flaw (State α) :=
  if c = '"' then .ok (.key (.plain []) members outer) else .error { fault := .noKey }

/-- A character that is no blank, between the values without parts. -/
def meet (expected : Expected α) (c : Char) : Except Flaw (State α) :=
  match expected with
  | .value stack => startValue accept stack c
  | .firstItem outer =>
      if c = ']' then close accept outer (.array []) else startValue accept (.array [] :: outer) c
  | .item items outer =>
      if c = ']' then .error { fault := .trailingComma }
      else startValue accept (.array items :: outer) c
  | .moreItems items outer =>
      if c = ',' then .ok (.between (.item items outer))
      else if c = ']' then close accept outer (.array items.reverse)
      else .error { fault := .noEndOfArray }
  | .firstMember outer =>
      if c = '\x7d' then close accept outer (.object []) else startKey [] outer c
  | .member members outer =>
      if c = '\x7d' then .error { fault := .trailingComma } else startKey members outer c
  | .colon members key outer =>
      if c = ':' then .ok (.between (.value (.object members key :: outer)))
      else .error { fault := .noColon }
  | .moreMembers members outer =>
      if c = ',' then .ok (.between (.member members outer))
      else if c = '\x7d' then close accept outer (.object members)
      else .error { fault := .noEndOfObject }
  | .nothing _ => .error { fault := .trailingText }

def between (expected : Expected α) (c : Char) : Except Flaw (State α) :=
  if isGap c then .ok (.between expected) else meet accept expected c

/-- Ends a value before a character that belongs to what comes next. -/
def closeBefore (stack : List Frame) (value : Json) (c : Char) : Except Flaw (State α) :=
  match put accept stack value with
  | .ok expected => between accept expected c
  | .error fault => .error { fault, octets := 0 }

def step (state : State α) (c : Char) : Except Flaw (State α) :=
  match state with
  | .between expected => between accept expected c
  | .token token stack =>
      match token.step c with
      | .error flaw => .error flaw
      | .ok (.reading token) => .ok (.token token stack)
      | .ok (.ended value) => close accept stack value
      | .ok (.endedBefore value) => closeBefore accept stack value c
  | .key text members outer =>
      match text.step c with
      | .error flaw => .error flaw
      | .ok (.inl text) => .ok (.key text members outer)
      | .ok (.inr key) => .ok (.between (.colon members key outer))

/-- What the end of the text leaves open, unless nothing was expected. -/
def Expected.finish : Expected α → Except Fault α
  | .value _ | .item _ _ | .member _ _ => .error .endInValue
  | .firstItem _ | .moreItems _ _ => .error .endInArray
  | .firstMember _ | .colon _ _ _ | .moreMembers _ _ => .error .endInObject
  | .nothing result => .ok result

def finish (state : State α) : Except Fault α :=
  match state with
  | .between expected => expected.finish
  | .token token stack => do
      let value ← token.finish
      let expected ← put accept stack value
      expected.finish
  | .key _ _ _ => .error .endInString

/-- Reads the rest of a text. -/
def run (state : State α) (place : Place) : List Char → Except Refusal α
  | [] => (finish accept state).mapError fun fault => { fault, place }
  | c :: rest =>
      match step accept state c with
      | .ok next => run next (place.after c) rest
      | .error flaw => .error { fault := flaw.fault, place := place.into c flaw.octets }

/-- The items of an array; a value of any other kind is not accepted. -/
def items : Json → Except Fault (List Json)
  | .array items => .ok items
  | value => .error (.wrongKind value.kind "a sequence")

end Reader

/-- Reads one value that takes up the whole text. -/
def read (s : String) : Except Refusal Json :=
  Reader.run .ok (.between (.value [])) {} s.toList

/-- Reads an array that takes up the whole text. -/
def readArray (s : String) : Except Refusal (List Json) :=
  Reader.run Reader.items (.between (.value [])) {} s.toList

def read? (s : String) : Option Json :=
  (read s).toOption

def readArray? (s : String) : Option (List Json) :=
  match read? s with
  | some (.array items) => some items
  | _ => none

def readObject? (s : String) : Option (List (String × Json)) :=
  match read? s with
  | some (.object members) => some members
  | _ => none

end Json
end DocumentCatalog
