-- SUMMARY: Text between quotes, with escapes for characters that cannot be seen.
import Radius.Text.Unseen

/-!
# Quoted text

Quoting makes every character of a text visible: quotes, backslashes and the common
control characters get short escapes, and other characters without a shape of their
own are written as their number between braces.
-/

namespace Radius.Quoted

/-- The number of a character between braces. -/
def numbered (c : Char) : List Char :=
  ['\\', 'u', '\x7b'] ++ Nat.toDigits 16 c.toNat ++ ['\x7d']

/-- A character as it stands between quotes. -/
def escape (c : Char) : List Char :=
  match c with
  | '"'    => ['\\', '"']
  | '\\'   => ['\\', '\\']
  | '\n'   => ['\\', 'n']
  | '\t'   => ['\\', 't']
  | '\x0d' => ['\\', 'r']
  | '\x00' => ['\\', '0']
  | c      => if CharSet.unseen.has c then numbered c else [c]

def quote (text : String) : String :=
  String.ofList ('"' :: text.toList.flatMap escape ++ ['"'])

end Radius.Quoted
