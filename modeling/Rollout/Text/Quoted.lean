import Rollout.Text.Unseen

/-!
# Quoted text in messages

A piece of text as messages quote it: in double quotes, with quotes and backslashes escaped
and every character that could not be seen spelled out.
-/

namespace Rollout.Text

/-- One character inside the quotes. -/
def spell (c : Char) : List Char :=
  if c = '"' then ['\\', '"']
  else if c = '\\' then ['\\', '\\']
  else if c = '\t' then ['\\', 't']
  else if c = '\r' then ['\\', 'r']
  else if c = '\n' then ['\\', 'n']
  else if c = '\x00' then ['\\', '0']
  else if isUnseen c then '\\' :: 'u' :: '\x7b' :: Nat.toDigits 16 c.toNat ++ ['\x7d']
  else [c]

def quote (s : String) : String :=
  String.ofList ('"' :: s.toList.flatMap spell ++ ['"'])

end Rollout.Text
