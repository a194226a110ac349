import Footage.Text.Invisible

/-!
# Quoted text

Text in a message stands between quotes. What would end it, or could not be seen, is escaped.
-/

namespace Footage.Text

/-- A character between quotes: `\n`, `\"`, and by its code what cannot be seen. -/
def quotedChar (c : Char) : List Char :=
  match c with
  | '"' => ['\\', '"']
  | '\\' => ['\\', '\\']
  | '\n' => ['\\', 'n']
  | '\r' => ['\\', 'r']
  | '\t' => ['\\', 't']
  | '\x00' => ['\\', '0']
  | c =>
    if isInvisible c then ['\\', 'u', '\x7b'] ++ Nat.toDigits 16 c.toNat ++ ['\x7d'] else [c]

def quoted (text : String) : String :=
  String.ofList ('"' :: text.toList.flatMap quotedChar ++ ['"'])

end Footage.Text
