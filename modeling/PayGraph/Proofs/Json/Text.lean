import Mathlib.Tactic.SplitIfs
import PayGraph.Json.Reader
import PayGraph.Json.Writer
import PayGraph.Proofs.Text.Hexadecimal

/-!
# Reading written texts in JSON

Every character of a text is written as an escape that stands for it or as itself.  An escape by a
code unit is never the first half of a surrogate pair, so it is read alone whatever follows it.
-/

namespace PayGraph
namespace Json

section

variable [Halves]

theorem textBody_escaped {escape character : Char} (found : escaped? escape = some character)
    (reversed rest : List Char) :
    textBody reversed ('\\' :: escape :: rest) = textBody (character :: reversed) rest := by
  have not_unit : escape ≠ 'u' := by
    rintro rfl
    cases found
  rw [textBody, found]
  simp [not_unit]

theorem textBody_unit {a b c d : Char} {unit : Nat} (read : hexNumber? [a, b, c, d] = some unit)
    (small : unit < 0xD800) (reversed rest : List Char) :
    textBody reversed ('\\' :: 'u' :: a :: b :: c :: d :: rest) =
      textBody (Char.ofNat unit :: reversed) rest := by
  have alone : unitCharacter unit = Char.ofNat unit := by
    rw [unitCharacter, if_neg (by omega)]
  have unpaired : ∀ low, pairCharacter? unit low = none := by
    intro low
    rw [pairCharacter?, if_neg (by omega)]
  rw [textBody, read]
  cases secondUnit? rest with
  | none => simp only [alone]
  | some low => simp only [alone, unpaired]

theorem textBody_plain {character : Char} (not_quote : character ≠ '"')
    (not_backslash : character ≠ '\\') (visible : 0x20 ≤ character.toNat)
    (reversed rest : List Char) :
    textBody reversed (character :: rest) = textBody (character :: reversed) rest := by
  rw [textBody.eq_def]
  simp [not_backslash, Nat.not_lt.mpr visible]

theorem textBody_control {character : Char} (control : character.toNat < 0x20)
    (reversed rest : List Char) :
    textBody reversed ('\\' :: 'u' :: hexText 4 character.toNat ++ rest) =
      textBody (character :: reversed) rest := by
  obtain ⟨a, b, c, d, written_eq, read⟩ :=
    exists_hexText_four_eq (Nat.lt_trans control (by decide))
  simp only [written_eq, List.cons_append, List.nil_append]
  rw [textBody_unit read (Nat.lt_trans control (by decide)), Char.ofNat_toNat]

/-- Every character is read back from its written form. -/
theorem textBody_escape (character : Char) (reversed rest : List Char) :
    textBody reversed (escape character ++ rest) = textBody (character :: reversed) rest := by
  rw [escape]
  split_ifs with quote backslash line carriage tab backspace feed control
  · exact textBody_escaped (by rw [quote]; rfl) reversed rest
  · exact textBody_escaped (by rw [backslash]; rfl) reversed rest
  · exact textBody_escaped (by rw [line]; rfl) reversed rest
  · exact textBody_escaped (by rw [carriage]; rfl) reversed rest
  · exact textBody_escaped (by rw [tab]; rfl) reversed rest
  · exact textBody_escaped (by rw [backspace]; rfl) reversed rest
  · exact textBody_escaped (by rw [feed]; rfl) reversed rest
  · exact textBody_control control reversed rest
  · exact textBody_plain quote backslash (Nat.not_lt.mp control) reversed rest

theorem textBody_flatMap (content reversed rest : List Char) :
    textBody reversed (content.flatMap escape ++ '"' :: rest) =
      .ok (String.ofList (reversed.reverse ++ content), rest) := by
  induction content generalizing reversed with
  | nil => simp [textBody]
  | cons character content induction =>
      rw [List.flatMap_cons, List.append_assoc, textBody_escape, induction,
        List.reverse_cons, List.append_assoc, List.singleton_append]

/-- A text between quotes is read back after its first quote. -/
theorem exists_body_of_textLiteral (content : String) (rest : List Char) :
    ∃ body, textLiteral content ++ rest = '"' :: body ∧
      textBody [] body = .ok (content, rest) := by
  refine ⟨content.toList.flatMap escape ++ '"' :: rest, by simp [textLiteral], ?_⟩
  rw [textBody_flatMap, List.reverse_nil, List.nil_append, String.ofList_toList]

end

theorem not_mem_escape (character : Char) : '\r' ∉ escape character := by
  rw [escape]
  split_ifs with _ _ _ carriage _ _ _ control
  · decide
  · decide
  · decide
  · decide
  · decide
  · decide
  · decide
  · intro return_mem
    have digit_mem : '\r' ∈ hexText 4 character.toNat := by simpa using return_mem
    have digit := isSome_hexValue?_of_mem digit_mem
    simp [hexValue?] at digit
  · simpa using Ne.symm carriage

theorem not_mem_textLiteral (content : String) : '\r' ∉ textLiteral content := by
  simp only [textLiteral, List.mem_append, List.mem_cons, List.mem_flatMap, List.not_mem_nil,
    or_false, not_or, not_exists, not_and]
  exact ⟨⟨by decide, fun character _ => not_mem_escape character⟩, by decide⟩

end Json
end PayGraph
