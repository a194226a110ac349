import Footage.JsonText.Scalar

/-!
# Skipping a value

A value that nobody asked for is read only as far as needed to find its end.
-/

namespace Footage.JsonText

open Reading

/-- Skips an escape, from behind the backslash on. Surrogates are not paired. -/
def skipEscape : Reading Unit := do
  match ← next with
  | none => refuse .endInString
  | some 'u' => discard hexUnit
  | some c => if (escapedOctet? c).isNone then refuse .invalidEscape

/-- Skips a string of at most `limit` parts. -/
def skipStringWithin : (limit : Nat) → Reading Unit
  | 0 => refuse .endInString
  | limit + 1 => do
    match ← peek with
    | none => refuse .endInString
    | some c =>
      if isControl c then refuse .controlCharacter
      advance
      match c with
      | '"' => return
      | '\\' => do skipEscape; skipStringWithin limit
      | _ => skipStringWithin limit

/-- Skips the rest of a string, from behind its first quote on. -/
def skipString : Reading Unit := do skipStringWithin ((← left) + 1)

/-- Skips an exponent, from its letter on. -/
def skipExponent : Reading Unit := do
  advance
  let sign ← peek
  if sign = some '+' ∨ sign = some '-' then advance
  match ← next with
  | none => refuse .invalidNumber
  | some first =>
    if !first.isDigit then refuse .invalidNumber
    discard <| takeRun Char.isDigit

/-- Skips a number, from behind its sign on. -/
def skipNumber : Reading Unit := do
  match ← next with
  | none => refuse .invalidNumber
  | some first =>
    if !first.isDigit then refuse .invalidNumber
    if first = '0' then
      if ((← peek).map Char.isDigit).getD false then refuseAhead .invalidNumber
    else discard <| takeRun Char.isDigit
    if (← peek) = some '.' then
      advance
      if (← takeRun Char.isDigit).isEmpty then refuseAhead .invalidNumber
    if isExponentLetter (← peek) then skipExponent

def colon : Reading Unit := do
  match ← peekBlank with
  | none => refuseAhead .endInObject
  | some ':' => advance
  | some _ => refuseAhead .expectedColon

mutual

/-- Skips a value of at most `limit` parts. -/
def skipValueWithin : (limit : Nat) → Reading Unit
  | 0 => refuse .endInValue
  | limit + 1 => do
    match ← peekBlank with
    | none => refuseAhead .endInValue
    | some 'n' => word "null".toList
    | some 't' => word "true".toList
    | some 'f' => word "false".toList
    | some '"' => do advance; skipString
    | some '-' => do advance; skipNumber
    | some '[' =>
      advance
      match ← peekBlank with
      | none => refuseAhead .endInList
      | some ']' => advance
      | some _ => skipItemsWithin limit
    | some '{' =>
      advance
      match ← peekBlank with
      | none => refuseAhead .endInObject
      | some '}' => advance
      | some _ => skipMembersWithin limit
    | some c => if c.isDigit then skipNumber else refuseAhead .expectedValue

def skipItemsWithin : (limit : Nat) → Reading Unit
  | 0 => refuse .endInList
  | limit + 1 => do
    skipValueWithin limit
    match ← peekBlank with
    | none => refuseAhead .endInList
    | some ',' => do advance; skipItemsWithin limit
    | some ']' => advance
    | some _ => refuseAhead .expectedCommaOrListEnd

def skipMembersWithin : (limit : Nat) → Reading Unit
  | 0 => refuse .endInObject
  | limit + 1 => do
    match ← peekBlank with
    | none => refuseAhead .endInObject
    | some '"' => do advance; skipString
    | some _ => refuseAhead .keyNotString
    colon
    skipValueWithin limit
    match ← peekBlank with
    | none => refuseAhead .endInObject
    | some ',' => do advance; skipMembersWithin limit
    | some '}' => advance
    | some _ => refuseAhead .expectedCommaOrObjectEnd

end

def skipValue : Reading Unit := do skipValueWithin (2 * (← left) + 2)

end Footage.JsonText
