import PineAssist.Text.Measure

/-!
# Counting code units without a bound

Columns have 32 bits and start again from zero on lines that are too long for them. Here code units
are counted in natural numbers. As long as this number fits into 32 bits, both counts agree and
columns may be compared as numbers. No line of a text has more code units than the text.
-/

namespace PineAssist.Text

/-- Number of UTF-16 code units of a line, however large it is. -/
def codeUnits (line : Line) : Nat :=
  line.foldr (fun char total => (utf16Units char).toNat + total) 0

variable {line rest : Line}

@[simp] theorem codeUnits_nil : codeUnits [] = 0 := rfl

@[simp] theorem codeUnits_cons (char : Char) (line : Line) :
    codeUnits (char :: line) = (utf16Units char).toNat + codeUnits line := rfl

@[simp] theorem codeUnits_append (line rest : Line) :
    codeUnits (line ++ rest) = codeUnits line + codeUnits rest := by
  induction line with
  | nil => simp
  | cons char line ih => simp [ih, Nat.add_assoc]

theorem toNat_utf16Units_pos (char : Char) : 0 < (utf16Units char).toNat := by
  unfold utf16Units
  split <;> decide

theorem codeUnits_pos (nonempty : line ≠ []) : 0 < codeUnits line := by
  cases line with
  | nil => contradiction
  | cons char rest =>
      have positive := toNat_utf16Units_pos char
      rw [codeUnits_cons]
      omega

theorem toNat_utf16Length (bounded : codeUnits line < UInt32.size) :
    (utf16Length line).toNat = codeUnits line := by
  induction line with
  | nil => rfl
  | cons char rest ih =>
      rw [codeUnits_cons] at bounded
      rw [utf16Length_cons, UInt32.toNat_add, ih (by omega), codeUnits_cons]
      exact Nat.mod_eq_of_lt bounded

theorem utf16Length_eq_ofNat (line : Line) : utf16Length line = UInt32.ofNat (codeUnits line) := by
  induction line with
  | nil => rfl
  | cons char rest ih => simp [ih, UInt32.ofNat_add]

theorem codeUnits_eq_length (ascii : ∀ char ∈ line, char.toNat < 0x80) :
    codeUnits line = line.length := by
  induction line with
  | nil => rfl
  | cons char rest ih =>
      have narrow := ascii char List.mem_cons_self
      have oneUnit : (utf16Units char).toNat = 1 := by
        rw [utf16Units, if_pos (by omega)]
        rfl
      have others := ih fun other listed => ascii other (List.mem_cons_of_mem char listed)
      rw [codeUnits_cons, List.length_cons]
      omega

theorem utf16Length_append (line rest : Line) :
    utf16Length (line ++ rest) = utf16Length line + utf16Length rest := by
  induction line with
  | nil => simp
  | cons char line ih => simp [ih, UInt32.add_assoc]

theorem utf16Length_lt_append (bounded : codeUnits (line ++ rest) < UInt32.size)
    (nonempty : rest ≠ []) : utf16Length line < utf16Length (line ++ rest) := by
  have positive := codeUnits_pos nonempty
  have isTotal := toNat_utf16Length bounded
  rw [codeUnits_append] at bounded isTotal
  apply UInt32.lt_iff_toNat_lt.mpr
  rw [isTotal, toNat_utf16Length (by omega)]
  omega

theorem utf16Length_le_append (bounded : codeUnits (line ++ rest) < UInt32.size) :
    utf16Length line ≤ utf16Length (line ++ rest) := by
  cases rest with
  | nil =>
      rw [List.append_nil]
      exact UInt32.le_refl _
  | cons char rest =>
      apply UInt32.le_of_lt
      exact utf16Length_lt_append bounded (List.cons_ne_nil char rest)

theorem utf16Length_pos (bounded : codeUnits line < UInt32.size) (nonempty : line ≠ []) :
    0 < utf16Length line := by
  have longer : utf16Length [] < utf16Length ([] ++ line) := utf16Length_lt_append bounded nonempty
  exact longer

section Lines

theorem codeUnits_le_of_sublist (part : line.Sublist rest) : codeUnits line ≤ codeUnits rest := by
  induction part with
  | slnil => exact Nat.le_refl 0
  | cons char _ ih =>
      rw [codeUnits_cons]
      omega
  | cons_cons char _ ih =>
      rw [codeUnits_cons, codeUnits_cons]
      omega

theorem sublist_of_mem_splitOn {chars : List Char} (cut : line ∈ chars.splitOn '\n') :
    line.Sublist chars := by
  rcases List.getElem?_of_mem cut with ⟨index, isLine⟩
  have placed : ((chars.splitOn '\n').intersperse ['\n'])[2 * index]? = some line := by
    rw [List.getElem?_intersperse_two_mul, isLine]
  have part := List.sublist_flatten_of_mem (List.mem_of_getElem? placed)
  rwa [← List.intercalate, List.intercalate_splitOn] at part

theorem sublist_of_mem_lines {text : String} (listed : line ∈ lines text) :
    line.Sublist text.toList := by
  rcases List.mem_map.mp listed with ⟨terminated, cut, rfl⟩
  have part := sublist_of_mem_splitOn cut
  unfold dropCarriageReturn
  split
  · exact (List.dropLast_sublist terminated).trans part
  · exact part

theorem codeUnits_le_of_mem_lines {text : String} (listed : line ∈ lines text) :
    codeUnits line ≤ codeUnits text.toList :=
  codeUnits_le_of_sublist (sublist_of_mem_lines listed)

end Lines

end PineAssist.Text
