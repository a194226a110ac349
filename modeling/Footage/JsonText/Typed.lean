import Footage.JsonText.Skip
import Footage.Text.Quoted

/-!
# Reading a value of a known type

The reader says what it expects, and the text is refused where it first departs from that. Whole
numbers are told from decimals, choices are strings, and records are objects, or lists with the
fields in order.
-/

namespace Footage.JsonText

open Reading

variable {α β : Type}

/-- Refuses the next value, which is not of the expected type. What it is stands in the
refusal. -/
def unexpected (expected : String) : Reading α := placed do
  match ← peek with
  | some 'n' => do word "null".toList; refuseValue (.invalidType "null" expected)
  | some 't' => do word "true".toList; refuseValue (.invalidType "boolean `true`" expected)
  | some 'f' => do word "false".toList; refuseValue (.invalidType "boolean `false`" expected)
  | some '"' =>
    advance
    refuseValue (.invalidType s!"string {Text.quoted (← string)}" expected)
  | some '[' => refuseValue (.invalidType "sequence" expected)
  | some '{' => refuseValue (.invalidType "map" expected)
  | some '-' =>
    advance
    refuseValue (.invalidType (← number true).text expected)
  | some c =>
    if c.isDigit then refuseValue (.invalidType (← number false).text expected)
    else refuseAhead .expectedValue
  | none => refuseAhead .expectedValue

/-- Goes to the next value, of which the first character is the answer. -/
def start : Reading Char := do
  match ← peekBlank with
  | none => refuseAhead .endInValue
  | some c => return c

/-- `true` or `false`. -/
def truth : Reading Bool := do
  match ← start with
  | 't' => do word "true".toList; return true
  | 'f' => do word "false".toList; return false
  | _ => unexpected "a boolean"

/-- A number that `accept` takes. -/
def numberWith (expected : String) (accept : Number → Except Problem α) : Reading α := do
  let c ← start
  if c = '-' || c.isDigit then
    if c = '-' then advance
    let n ← number (c = '-')
    match accept n with
    | .ok a => return a
    | .error problem => placed (refuseValue problem)
  else unexpected expected

/-- A whole number of at most `bits` bits. -/
def whole (bits : Nat) (expected : String) : Reading Nat :=
  numberWith expected fun
    | .natural n =>
      if FitsIn bits n then .ok n else .error (.invalidValue (Number.natural n).text expected)
    | .negative n => .error (.invalidValue (Number.negative n).text expected)
    | .real x => .error (.invalidType (Number.real x).text expected)

/-- Any number, rounded to a double. -/
def double : Reading Float := numberWith "f64" fun n => .ok n.toFloat

/-- A string that `accept` takes. -/
def stringWith (expected : String) (accept : String → Except Problem α) : Reading α := do
  match ← start with
  | '"' => placed do
    advance
    match accept (← string) with
    | .ok a => return a
    | .error problem => refuseValue problem
  | _ => unexpected expected

/-- Nothing, written as null. -/
def null : Reading Unit := do
  match ← start with
  | 'n' => word "null".toList
  | _ => unexpected "unit"

/-- One of some names, as a string or as the key of null in an object of its own. -/
def choice (choices : List (String × α)) : Reading α := do
  let name := stringWith "variant identifier" fun name =>
    match choices.lookup name with
    | some a => .ok a
    | none => .error (.unknownChoice name (choices.map (·.1)))
  match ← start with
  | '"' => name
  | '{' =>
    advance
    match ← peekBlank with
    | none => refuseAhead .endInObject
    | some '"' => pure ()
    | some '}' => refuseAhead .expectedValue
    | some _ => refuseAhead .keyNotString
    let a ← name
    colon
    null
    match ← peekBlank with
    | none => refuse .endInObject
    | some '}' => do advance; return a
    | some _ => refuse .expectedValue
  | _ => refuseAhead .expectedValue

/-! ## Records -/

/-- A field of a record, and how its value becomes part of what is read. -/
structure Field (α : Type) where
  name : String
  read : α → Reading α

/-- A field that `read` reads and `put` puts in its place. -/
def Field.of (name : String) (read : Reading β) (put : β → α → α) : Field α :=
  ⟨name, fun a => return put (← read) a⟩

/-- A record is collected field by field, and finished when it is complete. -/
structure Shape (α β : Type) where
  expected : String
  fields : List (Field α)
  /-- Fields of other names are refused. -/
  isStrict : Bool
  /-- Finishes an object. -/
  ofObject : α → Except Problem β
  /-- Finishes a list. -/
  ofList : α → Except Problem β

/-- Whether one more member of an object follows. -/
def moreMembers (isFirst : Bool) : Reading Bool := do
  match ← peekBlank with
  | none => refuseAhead .endInObject
  | some '}' => return false
  | some c =>
    if isFirst then
      if c ≠ '"' then refuseAhead .keyNotString
      return true
    else if c ≠ ',' then refuseAhead .expectedCommaOrObjectEnd
    else
      advance
      match ← peekBlank with
      | none => refuseAhead .endInValue
      | some '"' => return true
      | some '}' => refuseAhead .trailingComma
      | some _ => refuseAhead .keyNotString

/-- Whether one more item of a list follows. -/
def moreItems (isFirst : Bool) : Reading Bool := do
  match ← peekBlank with
  | none => refuseAhead .endInList
  | some ']' => return false
  | some c =>
    if isFirst then return true
    else if c ≠ ',' then refuseAhead .expectedCommaOrListEnd
    else
      advance
      match ← peekBlank with
      | none => refuseAhead .endInValue
      | some ']' => refuseAhead .trailingComma
      | some _ => return true

/-- The members of an object, at most `limit` of them. Each field may come once. -/
def membersWithin (shape : Shape α β) : (limit : Nat) → (seen : List String) → α → Reading α
  | 0, _, _ => refuse .endInObject
  | limit + 1, seen, a => do
    if !(← moreMembers seen.isEmpty) then return a
    advance
    let name ← string
    match shape.fields.find? (·.name = name) with
    | some field =>
      if seen.contains name then refuseValue (.duplicateField name)
      colon
      let a ← field.read a
      membersWithin shape limit (name :: seen) a
    | none =>
      if shape.isStrict then refuseValue (.unknownField name (shape.fields.map (·.name)))
      colon
      skipValue
      membersWithin shape limit (name :: seen) a

/-- The items of a list, one for each field as long as there are any. -/
def items : List (Field α) → (isFirst : Bool) → α → Reading α
  | [], _, a => return a
  | field :: rest, isFirst, a => do
    if ← moreItems isFirst then items rest false (← field.read a) else items rest isFirst a

def objectEnd : Reading Unit := do
  match ← peekBlank with
  | none => refuseAhead .endInObject
  | some '}' => advance
  | some ',' => refuseAhead .trailingComma
  | some _ => refuseAhead .trailingCharacters

def listEnd : Reading Unit := do
  match ← peekBlank with
  | none => refuseAhead .endInList
  | some ']' => advance
  | some ',' =>
    advance
    if (← peekBlank) = some ']' then refuseAhead .trailingComma
    refuseAhead .trailingCharacters
  | some _ => refuseAhead .trailingCharacters

/-- Reads what stands between brackets. The closing one is looked for also if that is refused, but
then it does not matter whether it is there. -/
def closedBy (close : Reading Unit) (body : Reading α) : Reading α := fun cursor =>
  let (result, cursor) := body cursor
  let (closed, cursor) := close cursor
  (result.bind fun a => closed.map fun _ => a, cursor)

def finish (result : Except Problem β) : Reading β :=
  match result with
  | .ok b => return b
  | .error problem => refuseValue problem

/-- A record, collected from `initial` on. -/
def record (shape : Shape α β) (initial : α) : Reading β := do
  match ← start with
  | '[' => placed do
    advance
    closedBy listEnd do finish (shape.ofList (← items shape.fields true initial))
  | '{' => placed do
    advance
    closedBy objectEnd do
      finish (shape.ofObject (← membersWithin shape ((← left) + 1) [] initial))
  | _ => unexpected shape.expected

/-- A record in which any field may be missing, and fields of other names are skipped. -/
def lenientRecord (expected : String) (fields : List (Field α)) (initial : α) : Reading α :=
  record { expected, fields, isStrict := false, ofObject := .ok, ofList := .ok } initial

def readAll (value : Reading α) (text : Bytes) : Except Refusal α :=
  let whole : Reading α := do
    let a ← value
    if (← peekBlank).isSome then refuseAhead .trailingCharacters
    return a
  (whole { rest := text }).1

end Footage.JsonText
