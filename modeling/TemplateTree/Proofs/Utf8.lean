import TemplateTree.Text.Utf8

/-!
# Texts from their bytes

The bytes of a text are read as that text (`ofUtf8_toUtf8`): those behind the first of a character give six
bits each, and the first gives the rest.
-/

namespace TemplateTree.Text

variable {n low high missing code position : Nat} {byte : UInt8} {bytes rest : List UInt8}
  {before : Text} {lead : Utf8Lead}

theorem utf8Following_six (inside : low ≤ n % 64 + 128 ∧ n % 64 + 128 ≤ high) :
    utf8Following low high (n / 64) (missing + 1) (UInt8.ofNat (n % 64 + 128) :: bytes) =
      utf8Following 0x80 0xBF n missing bytes := by
  have byte : (UInt8.ofNat (n % 64 + 128)).toNat = n % 64 + 128 :=
    UInt8.toNat_ofNat_of_lt' (show _ < 256 by omega)
  have whole : n / 64 * 0x40 + n % 64 = n := Nat.div_add_mod' n 64
  rw [utf8Following, byte, if_pos inside, Nat.add_sub_cancel, whole]

theorem utf8Following_last :
    utf8Following 0x80 0xBF (n / 64) 1 (UInt8.ofNat (n % 64 + 128) :: rest) = .ok (n, rest) := by
  rw [utf8Following_six (by omega), utf8Following]

theorem utf8Lead?_one (bound : n < 0x80) :
    utf8Lead? (UInt8.ofNat n).toNat = some ⟨0, n, 0x80, 0xBF⟩ := by
  rw [UInt8.toNat_ofNat_of_lt' (show _ < 256 by omega), utf8Lead?, if_pos bound]

theorem utf8Lead?_two (least : 0x80 ≤ n) (bound : n < 0x800) :
    utf8Lead? (UInt8.ofNat (n / 64 % 32 + 192)).toNat = some ⟨1, n / 64, 0x80, 0xBF⟩ := by
  have bits : n / 64 % 32 = n / 64 := Nat.mod_eq_of_lt (by omega)
  rw [UInt8.toNat_ofNat_of_lt' (show _ < 256 by omega), bits, utf8Lead?, if_neg (by omega),
    if_neg (by omega), if_pos (by omega), Nat.add_sub_cancel]

theorem utf8Lead?_three (least : 0x800 ≤ n) (bound : n < 0x10000) :
    utf8Lead? (UInt8.ofNat (n / 4096 % 16 + 224)).toNat =
      some ⟨2, n / 64 / 64, if n / 4096 = 0 then 0xA0 else 0x80,
        if n / 4096 = 13 then 0x9F else 0xBF⟩ := by
  have bits : n / 4096 % 16 = n / 4096 := Nat.mod_eq_of_lt (by omega)
  rw [UInt8.toNat_ofNat_of_lt' (show _ < 256 by omega), bits, utf8Lead?, if_neg (by omega),
    if_neg (by omega), if_neg (by omega), if_pos (by omega), Nat.add_sub_cancel,
    Nat.div_div_eq_div_mul]
  simp

theorem utf8Lead?_four (least : 0x10000 ≤ n) (bound : n < 0x110000) :
    utf8Lead? (UInt8.ofNat (n / 262144 % 8 + 240)).toNat =
      some ⟨3, n / 64 / 64 / 64, if n / 262144 = 0 then 0x90 else 0x80,
        if n / 262144 = 4 then 0x8F else 0xBF⟩ := by
  have bits : n / 262144 % 8 = n / 262144 := Nat.mod_eq_of_lt (by omega)
  rw [UInt8.toNat_ofNat_of_lt' (show _ < 256 by omega), bits, utf8Lead?, if_neg (by omega),
    if_neg (by omega), if_neg (by omega), if_neg (by omega), if_pos (by omega),
    Nat.add_sub_cancel, Nat.div_div_eq_div_mul, Nat.div_div_eq_div_mul]
  simp

theorem ofUtf8From_cons (start : utf8Lead? byte.toNat = some lead)
    (follows : utf8Following lead.low lead.high lead.bits lead.following bytes =
      .ok (code, rest)) :
    ofUtf8From position before (byte :: bytes) =
      ofUtf8From (position + lead.following + 1) (Char.ofNat code :: before) rest := by
  rw [ofUtf8From, start]
  dsimp only
  split
  next failed =>
    rw [follows] at failed
    cases failed
  next read =>
    rw [follows] at read
    obtain ⟨rfl, rfl⟩ := Prod.mk.inj (Except.ok.inj read)
    rfl

theorem ofUtf8From_one (bound : n < 0x80) :
    ofUtf8From position before (UInt8.ofNat n :: rest) =
      ofUtf8From (position + 1) (Char.ofNat n :: before) rest :=
  ofUtf8From_cons (utf8Lead?_one bound) rfl

theorem ofUtf8From_two (least : 0x80 ≤ n) (bound : n < 0x800) :
    ofUtf8From position before
        (UInt8.ofNat (n / 64 % 32 + 192) :: UInt8.ofNat (n % 64 + 128) :: rest) =
      ofUtf8From (position + 2) (Char.ofNat n :: before) rest :=
  ofUtf8From_cons (utf8Lead?_two least bound) utf8Following_last

theorem ofUtf8From_three (least : 0x800 ≤ n) (bound : n < 0x10000)
    (valid : n < 0xD800 ∨ 0xDFFF < n) :
    ofUtf8From position before (UInt8.ofNat (n / 4096 % 16 + 224) ::
        UInt8.ofNat (n / 64 % 64 + 128) :: UInt8.ofNat (n % 64 + 128) :: rest) =
      ofUtf8From (position + 3) (Char.ofNat n :: before) rest := by
  refine ofUtf8From_cons (utf8Lead?_three least bound)
    ((utf8Following_six ?_).trans utf8Following_last)
  -- The bounds of the second byte keep out short forms and surrogates.
  dsimp only
  split <;> split <;> omega

theorem ofUtf8From_four (least : 0x10000 ≤ n) (bound : n < 0x110000) :
    ofUtf8From position before (UInt8.ofNat (n / 262144 % 8 + 240) ::
        UInt8.ofNat (n / 4096 % 64 + 128) :: UInt8.ofNat (n / 64 % 64 + 128) ::
        UInt8.ofNat (n % 64 + 128) :: rest) =
      ofUtf8From (position + 4) (Char.ofNat n :: before) rest := by
  have third : n / 4096 = n / 64 / 64 := (Nat.div_div_eq_div_mul n 64 64).symm
  rw [third]
  refine ofUtf8From_cons (utf8Lead?_four least bound)
    ((utf8Following_six ?_).trans ((utf8Following_six (by omega)).trans utf8Following_last))
  -- The bounds of the second byte keep out short forms and what lies beyond the last code point.
  dsimp only
  split <;> split <;> omega

theorem ofUtf8From_utf8EncodeChar (c : Char) :
    ∃ next, ofUtf8From position before (String.utf8EncodeChar c ++ rest) =
      ofUtf8From next (c :: before) rest := by
  have valid : c.toNat < 0xD800 ∨ 0xDFFF < c.toNat ∧ c.toNat < 0x110000 := c.valid
  have code : Char.ofNat c.toNat = c := Char.ofNat_toNat c
  unfold String.utf8EncodeChar
  dsimp only
  split
  next one => exact ⟨_, code ▸ ofUtf8From_one (Nat.lt_succ_of_le one)⟩
  split
  next one two =>
    exact ⟨_, code ▸ ofUtf8From_two (Nat.lt_of_not_le one) (Nat.lt_succ_of_le two)⟩
  split
  next two three =>
    have scalar := valid.imp_right And.left
    exact ⟨_, code ▸ ofUtf8From_three (Nat.lt_of_not_le two) (Nat.lt_succ_of_le three) scalar⟩
  next three =>
    have bound : c.toNat < 0x110000 := by omega
    exact ⟨_, code ▸ ofUtf8From_four (Nat.lt_of_not_le three) bound⟩

theorem ofUtf8From_toUtf8 (text : Text) :
    ofUtf8From position before (toUtf8 text) = .ok (before.reverse ++ text) := by
  induction text generalizing position before with
  | nil => simp [toUtf8, ofUtf8From]
  | cons c text ih =>
      obtain ⟨next, read⟩ : ∃ next,
          ofUtf8From position before (String.utf8EncodeChar c ++ toUtf8 text) =
            ofUtf8From next (c :: before) (toUtf8 text) := ofUtf8From_utf8EncodeChar c
      rw [toUtf8, List.flatMap_cons, ← toUtf8, read, ih]
      simp

theorem ofUtf8_toUtf8 (text : Text) : ofUtf8 (toUtf8 text) = .ok text :=
  ofUtf8From_toUtf8 text

end TemplateTree.Text
