import Signoff.Json.Basic
import Signoff.Double.Text

/-!
The compact text of a JSON value: no blanks, members in their order, text raw but for quotes,
backslashes and control characters.
-/

namespace Signoff.Json

/-- One hexadecimal digit, in lower case. -/
def hexDigit (n : Nat) : Char := (Nat.digitChar n)

/-- A character inside a JSON string. -/
def escapeChar (c : Char) : List Char :=
  match c with
  | '"' => ['\\', '"']
  | '\\' => ['\\', '\\']
  | '\n' => ['\\', 'n']
  | '\r' => ['\\', 'r']
  | '\t' => ['\\', 't']
  | '\x08' => ['\\', 'b']
  | '\x0c' => ['\\', 'f']
  | c =>
    if c.toNat < 32 then
      ['\\', 'u', '0', '0', hexDigit (c.toNat / 16), hexDigit (c.toNat % 16)]
    else [c]

/-- A string in quotes. -/
def quote (s : String) : String :=
  String.ofList ('"' :: (s.toList.flatMap escapeChar ++ ['"']))

/-- The text of a number. -/
def Number.text : Number → String
  | .int n => toString n
  | .real x => x.text .json

mutual

/-- The compact text of a value. -/
def render : Json → String
  | .null => "null"
  | .bool true => "true"
  | .bool false => "false"
  | .num n => n.text
  | .str s => quote s
  | .arr items => "[" ++ renderItems items ++ "]"
  | .obj members => "\x7b" ++ renderMembers members ++ "\x7d"

def renderItems : List Json → String
  | [] => ""
  | [a] => render a
  | a :: b :: rest => render a ++ "," ++ renderItems (b :: rest)

def renderMembers : List (String × Json) → String
  | [] => ""
  | [(k, a)] => quote k ++ ":" ++ render a
  | (k, a) :: b :: rest => quote k ++ ":" ++ render a ++ "," ++ renderMembers (b :: rest)

end

end Signoff.Json
