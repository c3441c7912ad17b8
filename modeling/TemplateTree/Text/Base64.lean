import TemplateTree.Text.Basic

/-!
Bytes written in base 64: four characters for three bytes. Characters outside the alphabet have no
meaning, and padding ends the bytes where a group of four is complete with it.
-/
namespace TemplateTree.Text

def base64Digit? (c : Char) : Option Nat :=
  if 'A' ≤ c ∧ c ≤ 'Z' then some (c.toNat - 'A'.toNat)
  else if 'a' ≤ c ∧ c ≤ 'z' then some (c.toNat - 'a'.toNat + 26)
  else if c.isDigit then some (c.toNat - '0'.toNat + 52)
  else if c = '+' then some 62
  else if c = '/' then some 63
  else none

/-- The bytes of the rest of a text, with `read` in front of them (last one first). `place` counts
the characters of the group so far, `left` holds the bits that they leave over, and `pads` counts
the padding directly before. -/
def base64From? (read : List UInt8) (place left pads : Nat) : Text → Option (List UInt8)
  | [] => if place = 0 then some read.reverse else none
  | c :: text =>
      if c = '=' then
        if 2 ≤ place ∧ 4 ≤ place + pads + 1 then some read.reverse
        else base64From? read place left (if 2 ≤ place then pads + 1 else pads) text
      else match base64Digit? c with
        | none => base64From? read place left pads text
        | some digit =>
            match place with
            | 0 => base64From? read 1 digit 0 text
            | 1 => base64From? ((left * 4 + digit / 16).toUInt8 :: read) 2 (digit % 16) 0 text
            | 2 => base64From? ((left * 16 + digit / 4).toUInt8 :: read) 3 (digit % 4) 0 text
            | _ => base64From? ((left * 64 + digit).toUInt8 :: read) 0 0 0 text

def ofBase64? (text : Text) : Option (List UInt8) :=
  if text.all fun c => c.toNat < 0x80 then base64From? [] 0 0 0 text else none

end TemplateTree.Text
