import Switchboard.Text.Category

/-!
# Quoted text

Text between quotes in which every character can be seen: quotes and backslashes are escaped, and
characters without a glyph of their own are written by their code point.
-/

namespace Switchboard

namespace Quoted

def byCodePoint (c : Char) : List Char :=
  ['\\', 'u', '\x7b'] ++ Nat.toDigits 16 c.toNat ++ ['\x7d']

def escape (c : Char) : List Char :=
  if c = '"' then ['\\', '"']
  else if c = '\\' then ['\\', '\\']
  else if c = '\n' then ['\\', 'n']
  else if c = '\r' then ['\\', 'r']
  else if c = '\t' then ['\\', 't']
  else if c.toNat = 0 then ['\\', '0']
  else if c.toNat < 0x7f then (if c.toNat < 0x20 then byCodePoint c else [c])
  else if Category.isExtender c || !Category.isPrintable c then byCodePoint c
  else [c]

end Quoted

def quoted (text : String) : String :=
  String.ofList ('"' :: (text.toList.flatMap Quoted.escape ++ ['"']))

def quotedList (texts : List String) : String :=
  "[" ++ ", ".intercalate (texts.map quoted) ++ "]"

end Switchboard
