import Mathlib.Algebra.Group.Nat.Defs
import PayGraph.Data
import PayGraph.Text.Quoted

/-!
# Hexadecimal digits

A number is read back from its hexadecimal digits, however many zeros stand in front of them.
-/

namespace PayGraph

theorem hexValue?_digitChar {value : Nat} (small : value < 16) :
    hexValue? value.digitChar = some value := by
  have each : ∀ value < 16, hexValue? (Nat.digitChar value) = some value := by decide
  exact each value small

theorem hexNumber?_toDigits (value : Nat) : hexNumber? (Nat.toDigits 16 value) = some value := by
  induction value using Nat.strongRecOn with
  | ind value induction =>
      rcases Nat.lt_or_ge value 16 with small | large
      · rw [Nat.toDigits_of_lt_base small]
        simp [hexNumber?, hexValue?_digitChar small]
      · have shorter := induction (value / 16) (by omega)
        have last_digit := hexValue?_digitChar (Nat.mod_lt value (by decide : 0 < 16))
        have divided := Nat.div_add_mod value 16
        rw [hexNumber?] at shorter
        rw [Nat.toDigits_of_base_le (by decide) large, hexNumber?, List.foldlM_append, shorter]
        simp [last_digit, divided]

theorem hexNumber?_zeros_append (count : Nat) (written : List Char) :
    hexNumber? (List.replicate count '0' ++ written) = hexNumber? written := by
  have zero_digit : hexValue? '0' = some 0 := by decide
  induction count with
  | zero => rfl
  | succ count induction =>
      rw [hexNumber?] at induction ⊢
      rw [List.replicate_succ, List.cons_append, List.foldlM_cons, zero_digit]
      exact induction

theorem hexNumber?_hexText (width value : Nat) : hexNumber? (hexText width value) = some value :=
  (hexNumber?_zeros_append _ _).trans (hexNumber?_toDigits value)

theorem isSome_hexValue?_of_foldlM {written : List Char} {total value : Nat}
    (read : written.foldlM (fun total digit => (hexValue? digit).map (16 * total + ·)) total =
      some value) : ∀ digit ∈ written, (hexValue? digit).isSome := by
  induction written generalizing total with
  | nil => simp
  | cons digit written induction =>
      cases digit_read : hexValue? digit with
      | none => simp [digit_read] at read
      | some found =>
          rw [List.foldlM_cons, digit_read] at read
          intro character character_mem
          rcases List.mem_cons.mp character_mem with rfl | later
          · rw [digit_read]
            rfl
          · exact induction read character later

theorem isSome_hexValue?_of_mem {width value : Nat} {digit : Char}
    (digit_mem : digit ∈ hexText width value) : (hexValue? digit).isSome :=
  isSome_hexValue?_of_foldlM (hexNumber?_hexText width value) digit digit_mem

theorem length_hexText {width value : Nat} (width_pos : 0 < width) (small : value < 16 ^ width) :
    (hexText width value).length = width := by
  have few : (Nat.toDigits 16 value).length ≤ width :=
    (Nat.length_toDigits_le_iff (by decide) width_pos).mpr small
  simp [hexText]
  omega

/-- Four digits stand for every number below `16 ^ 4`. -/
theorem exists_hexText_four_eq {value : Nat} (small : value < 16 ^ 4) :
    ∃ a b c d, hexText 4 value = [a, b, c, d] ∧ hexNumber? [a, b, c, d] = some value := by
  have four := length_hexText (by decide) small
  have read := hexNumber?_hexText 4 value
  match written_eq : hexText 4 value with
  | [a, b, c, d] =>
      rw [written_eq] at read
      exact ⟨a, b, c, d, rfl, read⟩
  | [] | [_] | [_, _] | [_, _, _] | _ :: _ :: _ :: _ :: _ :: _ =>
      rw [written_eq] at four
      simp at four

end PayGraph
