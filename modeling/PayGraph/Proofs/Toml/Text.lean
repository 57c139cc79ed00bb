import PayGraph.Proofs.Number.Numeral
import PayGraph.Proofs.Text.Hexadecimal
import PayGraph.Toml.Reader
import PayGraph.Toml.Writer

/-!
# Reading written texts and keys in TOML

Every character of a text is written as an escape that stands for it or, where that is allowed, as
itself.  A key is read back from its bare form as well as from its quoted one.
-/

namespace PayGraph
namespace Toml

theorem basicBody_escape {input after : List Char} {character : Char}
    (read : escape input = .ok (character, after)) (reversed : List Char) :
    basicBody reversed ('\\' :: input) = basicBody (character :: reversed) after := by
  rw [basicBody]
  split
  · rename_i fault failed
    rw [read] at failed
    cases failed
  · rename_i found rest found_read
    rw [read] at found_read
    cases found_read
    rfl

theorem basicBody_plain {character : Char} (not_quote : character ≠ '"')
    (not_backslash : character ≠ '\\') (not_control : isControl character = false)
    (reversed rest : List Char) :
    basicBody reversed (character :: rest) = basicBody (character :: reversed) rest := by
  rw [basicBody]
  · simp [not_control]
  · exact not_quote
  · exact not_backslash

theorem toNat_lt_of_isControl {character : Char} (control : isControl character) :
    character.toNat < 128 := by
  simp only [isControl, Bool.or_eq_true, Bool.and_eq_true, decide_eq_true_eq] at control
  omega

theorem escape_hexText {character : Char} (control : isControl character) (rest : List Char) :
    escape ('u' :: hexText 4 character.toNat ++ rest) = .ok (character, rest) := by
  have small := toNat_lt_of_isControl control
  obtain ⟨a, b, c, d, written_eq, read⟩ := exists_hexText_four_eq (Nat.lt_trans small (by decide))
  have scalar : character.toNat < 0xD800 := Nat.lt_trans small (by decide)
  rw [written_eq]
  simp [escape, codeCharacter?, read, scalar, Char.ofNat_toNat]

theorem basicBody_escapeText (character : Char) (reversed rest : List Char) :
    basicBody reversed (escapeText character ++ rest) = basicBody (character :: reversed) rest := by
  rw [escapeText]
  split_ifs with quote backslash backspace line feed carriage control
  · exact basicBody_escape (by rw [quote]; rfl) reversed
  · exact basicBody_escape (by rw [backslash]; rfl) reversed
  · exact basicBody_escape (by rw [backspace]; rfl) reversed
  · exact basicBody_escape (by rw [line]; rfl) reversed
  · exact basicBody_escape (by rw [feed]; rfl) reversed
  · exact basicBody_escape (by rw [carriage]; rfl) reversed
  · exact basicBody_escape (escape_hexText control rest) reversed
  · exact basicBody_plain quote backslash (by simpa using control) reversed rest

theorem basicBody_flatMap (content reversed rest : List Char) :
    basicBody reversed (content.flatMap escapeText ++ '"' :: rest) =
      .ok (String.ofList (reversed.reverse ++ content), rest) := by
  induction content generalizing reversed with
  | nil => simp [basicBody]
  | cons character content induction =>
      rw [List.flatMap_cons, List.append_assoc, basicBody_escapeText, induction,
        List.reverse_cons, List.append_assoc, List.singleton_append]

theorem basicBody_textLiteral (content : String) (rest : List Char) :
    ∃ body, textLiteral content ++ rest = '"' :: body ∧
      basicBody [] body = .ok (content, rest) := by
  refine ⟨content.toList.flatMap escapeText ++ '"' :: rest, by simp [textLiteral], ?_⟩
  rw [basicBody_flatMap, List.reverse_nil, List.nil_append, String.ofList_toList]

theorem exists_escapeText_eq (character : Char) :
    ∃ first others, escapeText character = first :: others ∧ first ≠ '"' := by
  rw [escapeText]
  split_ifs with quote <;> exact ⟨_, _, rfl, by first | decide | exact quote⟩

/-- A written text does not start with three quotes unless another one follows an empty text. -/
theorem ne_three_quotes (content : String) {rest after : List Char}
    (unquoted : rest.head? ≠ some '"') :
    textLiteral content ++ rest ≠ '"' :: '"' :: '"' :: after := by
  rw [textLiteral]
  intro quoted
  cases content_eq : content.toList with
  | nil =>
      rw [content_eq] at quoted
      cases rest with
      | nil => simp at quoted
      | cons mark others => simp_all
  | cons character others =>
      obtain ⟨first, written, first_eq, first_ne⟩ := exists_escapeText_eq character
      simp [content_eq, first_eq, first_ne] at quoted

theorem text_textLiteral (content : String) {rest : List Char} (unquoted : rest.head? ≠ some '"') :
    text (textLiteral content ++ rest) = .ok (content, rest) := by
  have not_long : ∀ after, textLiteral content ++ rest ≠ '"' :: '"' :: '"' :: after :=
    fun _ => ne_three_quotes content unquoted
  obtain ⟨body, written_eq, read⟩ := basicBody_textLiteral content rest
  rw [written_eq] at not_long ⊢
  rw [text, read]
  intro after body_eq
  exact not_long after (congrArg (List.cons '"') body_eq)

theorem isBare_ne_quote {character : Char} (bare : isBare character) :
    character ≠ '"' ∧ character ≠ '\'' := by
  constructor <;> rintro rfl <;> cases bare

theorem keyPart_append {written rest : List Char} (written_ne : written ≠ [])
    (bare : ∀ character ∈ written, isBare character)
    (ends : ∀ mark ∈ rest.head?, isBare mark = false) :
    keyPart (written ++ rest) = .ok (String.ofList written, rest) := by
  have ended : rest.takeWhile isBare = [] ∧ rest.dropWhile isBare = rest := by
    cases rest with
    | nil => exact ⟨rfl, rfl⟩
    | cons mark after => simp [ends mark rfl]
  have taken : (written ++ rest).takeWhile isBare = written := by
    rw [List.takeWhile_append_of_pos bare, ended.1, List.append_nil]
  have dropped : (written ++ rest).dropWhile isBare = rest := by
    rw [List.dropWhile_append_of_pos bare, ended.2]
  obtain ⟨first, others, rfl⟩ := List.exists_cons_of_ne_nil written_ne
  obtain ⟨not_double, not_single⟩ := isBare_ne_quote (bare first List.mem_cons_self)
  rw [keyPart, taken, dropped]
  · intro after quoted
    exact not_double (List.cons.inj quoted).1
  · intro after quoted
    exact not_single (List.cons.inj quoted).1

/-- A written key is read back where no bare character follows it. -/
theorem keyPart_keyText (key : String) {rest : List Char}
    (ends : ∀ mark ∈ rest.head?, isBare mark = false) :
    keyPart (keyText key ++ rest) = .ok (key, rest) := by
  rw [keyText]
  split_ifs with bare
  · simp only [Bool.and_eq_true, List.all_eq_true, Bool.not_eq_true', String.isEmpty_eq_false_iff]
      at bare
    rw [keyPart_append (by simpa using bare.2) bare.1 ends, String.ofList_toList]
  · obtain ⟨body, written_eq, read⟩ := basicBody_textLiteral key rest
    rw [written_eq, keyPart, read]

/-- The text starts with a bare character or a double quote. -/
def Opens (written : List Char) : Prop :=
  ∃ first others, written = first :: others ∧ (isBare first ∨ first = '"')

theorem Opens.append {written : List Char} (opens : Opens written) (rest : List Char) :
    Opens (written ++ rest) := by
  obtain ⟨first, others, rfl, first_eq⟩ := opens
  exact ⟨first, others ++ rest, rfl, first_eq⟩

theorem opens_textLiteral (content : String) : Opens (textLiteral content) :=
  ⟨'"', _, rfl, Or.inr rfl⟩

theorem opens_keyText (key : String) : Opens (keyText key) := by
  rw [keyText]
  split_ifs with bare
  · simp only [Bool.and_eq_true, List.all_eq_true, Bool.not_eq_true', String.isEmpty_eq_false_iff]
      at bare
    have key_ne : key.toList ≠ [] := by simpa using bare.2
    obtain ⟨first, others, key_eq⟩ := List.exists_cons_of_ne_nil key_ne
    exact ⟨first, others, key_eq, Or.inl (bare.1 first (by simp [key_eq]))⟩
  · exact opens_textLiteral key

theorem not_mem_escapeText (character : Char) : '\r' ∉ escapeText character := by
  rw [escapeText]
  split_ifs with _ _ _ _ _ carriage control
  · decide
  · decide
  · decide
  · decide
  · decide
  · decide
  · intro return_mem
    have digit_mem : '\r' ∈ hexText 4 character.toNat := by simpa using return_mem
    have digit := isSome_hexValue?_of_mem digit_mem
    simp [hexValue?] at digit
  · simpa using Ne.symm carriage

theorem not_mem_textLiteral (content : String) : '\r' ∉ textLiteral content := by
  simp only [textLiteral, List.mem_append, List.mem_cons, List.mem_flatMap, List.not_mem_nil,
    or_false, not_or, not_exists, not_and]
  exact ⟨⟨by decide, fun character _ => not_mem_escapeText character⟩, by decide⟩

theorem not_mem_keyText (key : String) : '\r' ∉ keyText key := by
  rw [keyText]
  split_ifs with bare
  · simp only [Bool.and_eq_true, List.all_eq_true] at bare
    intro return_mem
    cases bare.1 _ return_mem
  · exact not_mem_textLiteral key

end Toml
end PayGraph
