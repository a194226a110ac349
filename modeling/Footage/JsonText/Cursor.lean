import Footage.Bytes
import Footage.Report

/-!
# Going over a JSON text

A JSON text is read once, octet by octet. When it is refused, the line and the column tell where;
columns count octets.
-/

namespace Footage.JsonText

inductive Problem where
  | endInList
  | endInObject
  | endInString
  | endInValue
  | expectedColon
  | expectedCommaOrListEnd
  | expectedCommaOrObjectEnd
  | expectedWord
  | expectedValue
  | invalidEscape
  | invalidNumber
  | numberOutOfRange
  | controlCharacter
  | keyNotString
  | loneSurrogate
  | unfinishedSurrogatePair
  | trailingComma
  | trailingCharacters
  /-- A value of another type than the expected one. -/
  | invalidType (found expected : String)
  /-- A value of the right type that is out of its range. -/
  | invalidValue (found expected : String)
  | unknownChoice (name : String) (choices : List String)
  | unknownField (name : String) (fields : List String)
  | missingField (name : String)
  | duplicateField (name : String)
  | invalidLength (length : Nat) (expected : String)
  /-- The sum of the parts of a time span is too large. -/
  | spanOverflow
deriving DecidableEq, Repr

namespace Problem

/-- The names that are allowed, each between backticks. -/
def oneOf (names : List String) : String :=
  match names.map fun name => s!"`{name}`" with
  | [a, b] => s!"{a} or {b}"
  | [a] => a
  | quoted => "one of " ++ String.intercalate ", " quoted

def message : Problem → String
  | endInList => "EOF while parsing a list"
  | endInObject => "EOF while parsing an object"
  | endInString => "EOF while parsing a string"
  | endInValue => "EOF while parsing a value"
  | expectedColon => "expected `:`"
  | expectedCommaOrListEnd => "expected `,` or `]`"
  | expectedCommaOrObjectEnd => "expected `,` or `\x7d`"
  | expectedWord => "expected ident"
  | expectedValue => "expected value"
  | invalidEscape => "invalid escape"
  | invalidNumber => "invalid number"
  | numberOutOfRange => "number out of range"
  | controlCharacter => "control character (\\u0000-\\u001F) found while parsing a string"
  | keyNotString => "key must be a string"
  | loneSurrogate => "lone leading surrogate in hex escape"
  | unfinishedSurrogatePair => "unexpected end of hex escape"
  | trailingComma => "trailing comma"
  | trailingCharacters => "trailing characters"
  | invalidType found expected => s!"invalid type: {found}, expected {expected}"
  | invalidValue found expected => s!"invalid value: {found}, expected {expected}"
  | unknownChoice name choices => s!"unknown variant `{name}`, expected {oneOf choices}"
  | unknownField name fields => s!"unknown field `{name}`, expected {oneOf fields}"
  | missingField name => s!"missing field `{name}`"
  | duplicateField name => s!"duplicate field `{name}`"
  | invalidLength length expected => s!"invalid length {length}, expected {expected}"
  | spanOverflow => "overflow deserializing Duration"

end Problem

/-- A line, counted from one, and the octets before a place in it. -/
structure Place where
  line : Nat
  column : Nat
deriving DecidableEq, Repr

/-- A refusal. One that concerns a whole value has no place until the value is left. -/
structure Refusal where
  problem : Problem
  place : Option Place
deriving DecidableEq, Repr

def Refusal.message (refusal : Refusal) : String :=
  match refusal.place with
  | some place => s!"{refusal.problem.message} at line {place.line} column {place.column}"
  | none => refusal.problem.message

/-- What is still to be read of a text, and the place where that starts. -/
structure Cursor where
  rest : Bytes
  place : Place := ⟨1, 0⟩
deriving DecidableEq, Repr

namespace Cursor

def character (octet : UInt8) : Char := Char.ofNat octet.toNat

def peek? (c : Cursor) : Option Char := c.rest.head?.map character

/-- The place behind the next octet, or this place at the end. -/
def placeAhead (c : Cursor) : Place :=
  match c.peek? with
  | none => c.place
  | some '\n' => ⟨c.place.line + 1, 0⟩
  | some _ => ⟨c.place.line, c.place.column + 1⟩

def advance (c : Cursor) : Cursor := ⟨c.rest.tail, c.placeAhead⟩

def advanceBy (c : Cursor) (count : Nat) : Cursor := count.repeat advance c

/-- The octets up to the first one that does not fit. -/
def run (c : Cursor) (fits : Char → Bool) : List Char :=
  (c.rest.takeWhile fun octet => fits (character octet)).map character

def skipBlank (c : Cursor) : Cursor :=
  c.advanceBy (c.run fun b => b = ' ' || b = '\n' || b = '\t' || b = '\r').length

end Cursor

/-- A step that reads from a text. -/
abbrev Reading (α : Type) := Effect Cursor Refusal α

namespace Reading

variable {α β : Type}

/-- Refuses because of what was read last. -/
def refuse (problem : Problem) : Reading α := do throw ⟨problem, some (← get).place⟩

/-- Refuses because of the next octet. -/
def refuseAhead (problem : Problem) : Reading α := do throw ⟨problem, some (← get).placeAhead⟩

/-- Refuses the value that is being read. -/
def refuseValue (problem : Problem) : Reading α := throw ⟨problem, none⟩

/-- Refusals of the value that the step reads get the place where the step stops. -/
def placed (step : Reading α) : Reading α := fun cursor =>
  let (result, cursor) := step cursor
  (result.mapError fun r => { r with place := some (r.place.getD cursor.place) }, cursor)

/-- The next octet, which is left unread. -/
def peek : Reading (Option Char) := do return (← get).peek?

def next : Reading (Option Char) := modifyGet fun cursor => (cursor.peek?, cursor.advance)

def advance : Reading Unit := modify Cursor.advance

/-- The first octet behind blank space, which is left unread. -/
def peekBlank : Reading (Option Char) := do modify Cursor.skipBlank; peek

/-- The octets up to the first one that does not fit. -/
def takeRun (fits : Char → Bool) : Reading (List Char) :=
  modifyGet fun cursor => let run := cursor.run fits; (run, cursor.advanceBy run.length)

def left : Reading Nat := do return (← get).rest.length

end Reading

end Footage.JsonText
