import PineAssist.Text.Line

/-!
# Upper and lower case

Names are compared without regard to the case of ASCII letters. It makes no difference whether their
characters or the bytes of their UTF-8 encoding are compared: every byte of a character outside
ASCII is above the letters, and the beginning of an encoded text that encodes a text itself ends
between two characters.
-/

namespace PineAssist.Text

/-- A line with the upper-case ASCII letters in lower case. -/
def lowered (line : Line) : Line :=
  line.map Char.toLower

/-- The code of an ASCII letter in lower case, and any other code itself. -/
def lowerCode (code : Nat) : Nat :=
  if 65 ≤ code ∧ code ≤ 90 then code + 32 else code

/-- The bytes of a text, with the upper-case ASCII letters in lower case. -/
def loweredBytes (text : String) : List UInt8 :=
  text.toUTF8.data.toList.map fun byte => .ofNat (lowerCode byte.toNat)

variable {code : Nat}

theorem lowerCode_le (ascii : code ≤ 127) : lowerCode code ≤ 127 := by
  unfold lowerCode
  split <;> omega

theorem lowerCode_eq_self (wide : 127 < code) : lowerCode code = code := by
  unfold lowerCode
  split <;> omega

theorem toNat_val_toLower (char : Char) : char.toLower.val.toNat = lowerCode char.val.toNat := by
  delta Char.toLower
  unfold lowerCode
  by_cases upper : 65 ≤ char.val.toNat ∧ char.val.toNat ≤ 90
  · have isUpper : char.val ≥ 'A'.val ∧ char.val ≤ 'Z'.val := by
      simp only [ge_iff_le, UInt32.le_iff_toNat_le]
      exact upper
    have isCode : (char.val + 32).toNat = char.val.toNat + 32 := by
      rw [UInt32.toNat_add]
      apply Nat.mod_eq_of_lt
      show char.val.toNat + 32 < _
      omega
    rw [if_pos upper, dif_pos isUpper]
    exact isCode
  · have notUpper : ¬(char.val ≥ 'A'.val ∧ char.val ≤ 'Z'.val) := by
      simp only [ge_iff_le, UInt32.le_iff_toNat_le]
      exact upper
    rw [if_neg upper, dif_neg notUpper]

/-- Every byte of a character beyond ASCII is above the letters and stays as it is. -/
theorem map_lowerCode_utf8EncodeChar (char : Char) :
    ((String.utf8EncodeChar char).map fun byte => .ofNat (lowerCode byte.toNat)) =
      String.utf8EncodeChar char.toLower := by
  have isByte {byte : Nat} (fits : byte < 256) : (UInt8.ofNat byte).toNat = byte := by
    rw [UInt8.toNat_ofNat', Nat.mod_eq_of_lt fits]
  have isCode := toNat_val_toLower char
  generalize isChar : char.val.toNat = code at isCode
  simp only [String.utf8EncodeChar, isCode, isChar]
  by_cases ascii : code ≤ 127
  · rw [if_pos ascii, if_pos (lowerCode_le ascii), List.map_singleton, isByte (by omega)]
  · have kept {byte : Nat} (wide : 127 < byte) (fits : byte < 256) :
        UInt8.ofNat (lowerCode (UInt8.ofNat byte).toNat) = .ofNat byte := by
      rw [isByte fits, lowerCode_eq_self wide]
    rw [lowerCode_eq_self (by omega), if_neg ascii]
    split
    · simp only [List.map_cons, List.map_nil]
      rw [kept (by omega) (by omega), kept (by omega) (by omega)]
    · split
      · simp only [List.map_cons, List.map_nil]
        rw [kept (by omega) (by omega), kept (by omega) (by omega), kept (by omega) (by omega)]
      · simp only [List.map_cons, List.map_nil]
        rw [kept (by omega) (by omega), kept (by omega) (by omega), kept (by omega) (by omega),
          kept (by omega) (by omega)]

theorem loweredBytes_eq (text : String) :
    loweredBytes text = (lowered text.toList).utf8Encode.data.toList := by
  rw [loweredBytes, String.toUTF8, ← String.utf8Encode_toList, List.utf8Encode, List.utf8Encode,
    List.data_toByteArray, List.data_toByteArray, List.map_flatMap, lowered, List.flatMap_map]
  simp only [map_lowerCode_utf8EncodeChar]

/-- No text begins with the bytes of a word without beginning with its characters. -/
theorem loweredBytes_prefix_iff {word name : String} :
    loweredBytes word <+: loweredBytes name ↔ lowered word.toList <+: lowered name.toList := by
  rw [loweredBytes_eq, loweredBytes_eq]
  constructor
  · rintro ⟨rest, isName⟩
    apply List.isPrefix_of_utf8Encode_append_eq_utf8Encode rest.toByteArray
    apply ByteArray.ext
    apply Array.toList_inj.mp
    rw [← isName]
    simp
  · rintro ⟨rest, isName⟩
    rw [← isName, List.utf8Encode_append]
    simp

end PineAssist.Text
