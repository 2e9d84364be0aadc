import Mathlib

/-! # UTF-8

Decoding as `bytes.decode` does it; what was encoded is read back. -/

namespace Foundation

/-- `str.encode("utf-8")`. -/
def utf8 (cs : List Char) : List UInt8 := cs.flatMap String.utf8EncodeChar

/-- `bytes.decode("utf-8")`. -/
def utf8Decode (bytes : List UInt8) : Option (List Char) :=
  (bytes.toByteArray.utf8Decode?).map Array.toList

/-- The range of the byte after the first, for first bytes of more than one byte. -/
def secondRange (first : ℕ) : Option (ℕ × ℕ) :=
  if first = 0xE0 then some (0xA0, 0xBF)
  else if first = 0xED then some (0x80, 0x9F)
  else if first = 0xF0 then some (0x90, 0xBF)
  else if first = 0xF4 then some (0x80, 0x8F)
  else if 0xC2 ≤ first ∧ first ≤ 0xF3 then some (0x80, 0xBF)
  else none

/-- The bytes of a character that starts so. -/
def utf8Length (first : ℕ) : ℕ := if first < 0xE0 then 2 else if first < 0xF0 then 3 else 4

/-- The bytes that one replacement character stands for. -/
def invalidLength : List UInt8 → ℕ
  | [] => 0
  | first :: rest =>
      match secondRange first.toNat, rest with
      | some (lo, hi), second :: rest =>
          if lo ≤ second.toNat ∧ second.toNat ≤ hi then
            2 + ((rest.take (utf8Length first.toNat - 2)).takeWhile fun b =>
              0x80 ≤ b.toNat ∧ b.toNat ≤ 0xBF).length
          else 1
      | _, _ => 1

def utf8ReplaceGo : ℕ → List UInt8 → List Char
  | _, [] => []
  | 0, _ :: _ => []
  | fuel + 1, bytes =>
      match bytes.toByteArray.utf8DecodeChar? 0 with
      | some c => c :: utf8ReplaceGo fuel (bytes.drop c.utf8Size)
      | none => Char.ofNat 0xFFFD :: utf8ReplaceGo fuel (bytes.drop (invalidLength bytes))

/-- `bytes.decode("utf-8", "replace")`. -/
def utf8Replace (bytes : List UInt8) : List Char := utf8ReplaceGo bytes.length bytes

variable {cs ds enc : List Char} {c : Char}

theorem utf8_append (cs ds : List Char) : utf8 (cs ++ ds) = utf8 cs ++ utf8 ds :=
  List.flatMap_append

theorem utf8_cons (c : Char) (cs : List Char) : utf8 (c :: cs) = String.utf8EncodeChar c ++ utf8 cs :=
  List.flatMap_cons

theorem utf8Decode_utf8 (cs : List Char) : utf8Decode (utf8 cs) = some cs := by
  have hdecode : (utf8 cs).toByteArray.utf8Decode? = some cs.toArray := List.utf8Decode?_utf8Encode
  rw [utf8Decode, hdecode]
  rfl

theorem utf8ReplaceGo_utf8 {fuel : ℕ} (h : (utf8 cs).length ≤ fuel) :
    utf8ReplaceGo fuel (utf8 cs) = cs := by
  induction cs generalizing fuel with
  | nil => cases fuel <;> rfl
  | cons c cs ih =>
      rw [utf8_cons, List.length_append, String.length_utf8EncodeChar] at h
      have hpos := c.utf8Size_pos
      obtain ⟨fuel, rfl⟩ := Nat.exists_eq_succ_of_ne_zero (show fuel ≠ 0 by omega)
      have hrest := @ih fuel (by omega)
      have hdecode : (utf8 (c :: cs)).toByteArray.utf8DecodeChar? 0 = some c := by
        rw [utf8_cons, List.toByteArray_append, ByteArray.utf8DecodeChar?_utf8EncodeChar_append]
      have hdrop : (utf8 (c :: cs)).drop c.utf8Size = utf8 cs := by
        rw [utf8_cons, ← String.length_utf8EncodeChar, List.drop_left]
      cases hbytes : utf8 (c :: cs) with
      | nil =>
          have hlength := congrArg List.length hbytes
          rw [utf8_cons, List.length_append, String.length_utf8EncodeChar, List.length_nil] at hlength
          omega
      | cons b bytes =>
          rw [hbytes] at hdecode hdrop
          rw [utf8ReplaceGo, hdecode]
          · dsimp only
            rw [hdrop, hrest]
          · exact List.cons_ne_nil b bytes

theorem utf8Replace_utf8 (cs : List Char) : utf8Replace (utf8 cs) = cs :=
  utf8ReplaceGo_utf8 (Nat.le_refl _)

theorem utf8EncodeChar_ascii (h : c.toNat < 128) :
    String.utf8EncodeChar c = [UInt8.ofNat c.toNat] := by
  have hle : c.val.toNat ≤ 0x7F := Nat.le_of_lt_succ h
  rw [String.utf8EncodeChar, if_pos hle]
  rfl

end Foundation
