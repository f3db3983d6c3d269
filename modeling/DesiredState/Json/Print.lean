import DesiredState.Json.Basic
/-!
Compact JSON text: no blanks, members in their order, and of the characters of a string only the
quote, the backslash and the controls are escaped.
-/

set_option autoImplicit false
set_option relaxedAutoImplicit false

namespace DesiredState.Json

def hexDigit (n : Nat) : Char := Nat.digitChar (n % 16)

def escape (c : Char) : List Char :=
  if c = '"' then ['\\', '"']
  else if c = '\\' then ['\\', '\\']
  else if c = '\x08' then ['\\', 'b']
  else if c = '\x0c' then ['\\', 'f']
  else if c = '\n' then ['\\', 'n']
  else if c = '\x0d' then ['\\', 'r']
  else if c = '\t' then ['\\', 't']
  else if c.toNat < 0x20 then ['\\', 'u', '0', '0', hexDigit (c.toNat / 16), hexDigit c.toNat]
  else [c]

def quote (s : String) : List Char := '"' :: s.toList.flatMap escape ++ ['"']

mutual
def chars : Json → List Char
  | .null => ['n', 'u', 'l', 'l']
  | .bool true => ['t', 'r', 'u', 'e']
  | .bool false => ['f', 'a', 'l', 's', 'e']
  | .int n => (toString n).toList
  | .float x => x.render.toList
  | .str s => quote s
  | .arr items => '[' :: itemChars items ++ [']']
  | .obj ms => '{' :: memberChars ms ++ ['}']
def itemChars : List Json → List Char
  | [] => []
  | [j] => chars j
  | j :: js => chars j ++ ',' :: itemChars js
def memberChars : List (String × Json) → List Char
  | [] => []
  | [(k, j)] => quote k ++ ':' :: chars j
  | (k, j) :: ms => quote k ++ ':' :: chars j ++ ',' :: memberChars ms
end

def compact (j : Json) : String := String.ofList j.chars

end DesiredState.Json
