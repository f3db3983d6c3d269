import DesiredState.Text.Printable
/-!
Texts shown between quotes within messages: quotes, backslashes and characters that cannot be
shown as they are are escaped.
-/

set_option autoImplicit false
set_option relaxedAutoImplicit false

namespace DesiredState.Text

def shownChar (c : Char) : List Char :=
  if c = '\x00' then ['\\', '0']
  else if c = '\t' then ['\\', 't']
  else if c = '\x0d' then ['\\', 'r']
  else if c = '\n' then ['\\', 'n']
  else if c = '"' then ['\\', '"']
  else if c = '\\' then ['\\', '\\']
  else if isPrintable c then [c]
  else ['\\', 'u', '\x7b'] ++ Nat.toDigits 16 c.toNat ++ ['\x7d']

def shown (s : String) : String := String.ofList ('"' :: s.toList.flatMap shownChar ++ ['"'])

def shownOption : Option String → String
  | some s => "Some(" ++ shown s ++ ")"
  | none => "None"

end DesiredState.Text
