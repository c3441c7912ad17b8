import TemplateTree.Text.Printable

/-!
Quoted texts. Single quotes are used unless the text holds some and no double quote; the quote in
use, the backslash and all unprintable characters are escaped, so a quoted text has no line break.
-/
namespace TemplateTree.Text

def hexDigits : Nat → Nat → Text
  | 0, _ => []
  | width + 1, n => hexDigits width (n / 16) ++ [Nat.digitChar (n % 16)]

def quoteFor (text : Text) : Char :=
  if text.contains '\'' && !text.contains '"' then '"' else '\''

def escaped (quote c : Char) : Text :=
  if c = quote ∨ c = '\\' then ['\\', c]
  else if c = '\n' then ['\\', 'n']
  else if c = '\r' then ['\\', 'r']
  else if c = '\t' then ['\\', 't']
  else if isPrintable c then [c]
  else if c.toNat < 0x100 then '\\' :: 'x' :: hexDigits 2 c.toNat
  else if c.toNat < 0x10000 then '\\' :: 'u' :: hexDigits 4 c.toNat
  else '\\' :: 'U' :: hexDigits 8 c.toNat

def quoted (text : Text) : Text :=
  quoteFor text :: (text.flatMap (escaped (quoteFor text)) ++ [quoteFor text])

def quotedList (texts : List Text) : Text :=
  '[' :: (joined [',', ' '] (texts.map quoted) ++ [']'])

end TemplateTree.Text
