import SilentAuth.Unicode.Hidden

/-!
# Texts between quotes

A text is shown between quotes so that it can be read off: quotes, backslashes, line ends and tabs
are written with a backslash, and characters without a shape of their own by their codes.
-/

namespace SilentAuth

namespace Quoted

/-- How a character stands between quotes. -/
def escapeChar (c : Char) : List Char :=
  if c = '\x00' then ['\\', '0']
  else if c = '\t' then ['\\', 't']
  else if c = '\r' then ['\\', 'r']
  else if c = '\n' then ['\\', 'n']
  else if c = '\\' || c = '"' then ['\\', c]
  else if Hidden.isHidden c then
    '\\' :: 'u' :: '\x7b' :: Nat.toDigits 16 c.toNat ++ ['\x7d']
  else [c]

/-- A text between quotes. -/
def write (s : String) : String :=
  String.ofList ('"' :: s.toList.flatMap escapeChar ++ ['"'])

end Quoted

end SilentAuth
