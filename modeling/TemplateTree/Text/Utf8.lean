import TemplateTree.Text.Basic

/-!
Texts as bytes in UTF-8. Reading names the first bytes that are not a character: those up to the
first that cannot follow, or up to the end of the data.
-/
namespace TemplateTree

inductive Utf8Reason where
  | badStart
  | badContinuation
  | truncated
deriving DecidableEq

/-- Bytes that are no character: `length` of them from a position on, of which `byte` is the
first. -/
structure Utf8Fault where
  position : Nat
  length : Nat
  byte : UInt8
  reason : Utf8Reason
deriving DecidableEq

def Utf8Reason.message : Utf8Reason → String
  | badStart => "invalid start byte"
  | badContinuation => "invalid continuation byte"
  | truncated => "unexpected end of data"

def Utf8Fault.place (fault : Utf8Fault) : String :=
  let hexadecimal := String.ofList (Nat.toDigits 16 fault.byte.toNat)
  if fault.length = 1 then s!"byte 0x{hexadecimal} in position {fault.position}"
  else
    let last := fault.position + fault.length - 1
    s!"bytes in position {fault.position}-{last}"

def Utf8Fault.message (fault : Utf8Fault) : Text :=
  ("'utf-8' codec can't decode " ++ fault.place ++ ": " ++ fault.reason.message).toList

/-- What a first byte tells: how many bytes follow it, the bits that it gives, and the bounds of
the byte behind it. -/
structure Utf8Lead where
  following : Nat
  bits : Nat
  low : Nat
  high : Nat

namespace Text

/-- The first bytes of characters. The bounds keep out surrogates, what lies beyond the last code
point, and characters that have a shorter form. -/
def utf8Lead? (byte : Nat) : Option Utf8Lead :=
  if byte < 0x80 then some ⟨0, byte, 0x80, 0xBF⟩
  else if byte < 0xC2 then none
  else if byte < 0xE0 then some ⟨1, byte - 0xC0, 0x80, 0xBF⟩
  else if byte < 0xF0 then
    some ⟨2, byte - 0xE0, if byte = 0xE0 then 0xA0 else 0x80, if byte = 0xED then 0x9F else 0xBF⟩
  else if byte < 0xF5 then
    some ⟨3, byte - 0xF0, if byte = 0xF0 then 0x90 else 0x80, if byte = 0xF4 then 0x8F else 0xBF⟩
  else none

/-- The code point that the given number of bytes completes, and the bytes behind them. A refusal
tells how many bytes were still to come. -/
def utf8Following (low high bits : Nat) :
    Nat → List UInt8 → Except (Utf8Reason × Nat) (Nat × List UInt8)
  | 0, bytes => .ok (bits, bytes)
  | missing + 1, [] => .error (.truncated, missing + 1)
  | missing + 1, byte :: bytes =>
      if low ≤ byte.toNat ∧ byte.toNat ≤ high then
        utf8Following 0x80 0xBF (bits * 0x40 + (byte.toNat - 0x80)) missing bytes
      else .error (.badContinuation, missing + 1)

theorem length_of_utf8Following {low high bits missing code : Nat} {bytes rest : List UInt8}
    (read : utf8Following low high bits missing bytes = .ok (code, rest)) :
    rest.length ≤ bytes.length := by
  induction missing generalizing low high bits bytes with
  | zero =>
      obtain ⟨-, rfl⟩ : bits = code ∧ bytes = rest := by simpa [utf8Following] using read
      exact Nat.le_refl _
  | succ missing ih =>
      cases bytes with
      | nil => simp [utf8Following] at read
      | cons byte bytes =>
          simp only [utf8Following] at read
          split at read
          · exact Nat.le_succ_of_le (ih read)
          · cases read

def ofUtf8From (position : Nat) (before : Text) : List UInt8 → Except Utf8Fault Text
  | [] => .ok before.reverse
  | byte :: bytes =>
      match utf8Lead? byte.toNat with
      | none => .error ⟨position, 1, byte, .badStart⟩
      | some lead =>
          match _ : utf8Following lead.low lead.high lead.bits lead.following bytes with
          | .error (reason, missing) =>
              .error ⟨position, lead.following + 1 - missing, byte, reason⟩
          | .ok (code, rest) =>
              ofUtf8From (position + lead.following + 1) (Char.ofNat code :: before) rest
termination_by bytes => bytes.length
decreasing_by exact Nat.lt_succ_of_le (length_of_utf8Following ‹_›)

def ofUtf8 (bytes : List UInt8) : Except Utf8Fault Text := ofUtf8From 0 [] bytes

def toUtf8 (text : Text) : List UInt8 := text.flatMap String.utf8EncodeChar

end Text

end TemplateTree
