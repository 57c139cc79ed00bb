import PayGraph.Proofs.Number.Numeral
import PayGraph.Proofs.Written
import PayGraph.Toml.Reader
import PayGraph.Toml.Writer

/-!
# Reading written numbers in TOML

A run of digits is read up to the first character that is neither a digit nor an underscore, so a
numeral is read in full and what follows it is left.  No numeral looks like a date or a time of day,
whose runs of digits end with a dash or a colon.
-/

namespace PayGraph
namespace Toml

/-- No run of digits goes on with the text. -/
def Stops (rest : List Char) : Prop :=
  ∀ mark ∈ rest.head?, mark.isDigit = false ∧ mark ≠ '_'

theorem ne_underscore_of_isDigit {digit : Char} (is_digit : digit.isDigit) : digit ≠ '_' := by
  rintro rfl
  cases is_digit

theorem digitRun_append {run rest : List Char} (reversed : List Char)
    (run_digits : ∀ digit ∈ run, digit.isDigit) (stops : Stops rest) :
    digitRun Char.isDigit reversed (run ++ rest) = (reversed.reverse ++ run, rest) := by
  induction run generalizing reversed with
  | nil =>
      cases rest with
      | nil => simp [digitRun]
      | cons mark after =>
          obtain ⟨not_digit, not_joined⟩ := stops mark rfl
          simp [digitRun, not_digit, not_joined]
  | cons digit run induction =>
      have is_digit := run_digits digit List.mem_cons_self
      have not_joined := ne_underscore_of_isDigit is_digit
      have following := induction (digit :: reversed)
        fun next next_mem => run_digits next (List.mem_cons_of_mem _ next_mem)
      simp [digitRun, is_digit, not_joined, following]

theorem digits_append {run rest : List Char} (run_ne : run ≠ [])
    (run_digits : ∀ digit ∈ run, digit.isDigit) (stops : Stops rest) :
    digits Char.isDigit (run ++ rest) = (run, rest) := by
  obtain ⟨first, following, rfl⟩ := List.exists_cons_of_ne_nil run_ne
  have first_digit := run_digits first List.mem_cons_self
  have read := digitRun_append [first]
    (fun next next_mem => run_digits next (List.mem_cons_of_mem _ next_mem)) stops
  simpa [digits, first_digit] using read

section

variable {rest : List Char} (parted : Parted rest)

include parted

theorem stops_of_parted : Stops rest := by
  cases parted <;> simp [Stops]

theorem stops_exponentText (numeral : Numeral) : Stops (numeral.exponentText ++ rest) := by
  rw [Numeral.exponentText]
  split
  · exact stops_of_parted parted
  · simp [Stops]

theorem stops_fractionText (numeral : Numeral) :
    Stops (numeral.fractionText ++ (numeral.exponentText ++ rest)) := by
  rw [Numeral.fractionText]
  split
  · exact stops_exponentText parted numeral
  · simp [Stops]

theorem fractionPart_append (numeral : Numeral) :
    fractionPart (numeral.fractionText ++ (numeral.exponentText ++ rest)) =
      (numeral.fraction, numeral.exponentText ++ rest) := by
  by_cases absent : numeral.fraction = []
  · rw [Numeral.fractionText, if_pos absent, absent, Numeral.exponentText]
    cases numeral.exponent? with
    | none => cases parted <;> rfl
    | some exponent => rfl
  · have read := digits_append absent numeral.fraction_digits (stops_exponentText parted numeral)
    rw [Numeral.fractionText, if_neg absent]
    obtain ⟨first, others, fraction_eq⟩ := List.exists_cons_of_ne_nil absent
    rw [fraction_eq] at read ⊢
    simp only [List.cons_append] at read
    simp only [List.cons_append, fractionPart, read]

theorem exponentPart_append (numeral : Numeral) :
    exponentPart (numeral.exponentText ++ rest) = (numeral.exponent?, rest) := by
  rw [Numeral.exponentText]
  cases numeral.exponent? with
  | none => cases parted <;> rfl
  | some exponent =>
      obtain ⟨run, text_eq, run_ne, run_digits, value_eq⟩ :=
        Decimal.exists_exponentText_eq exponent
      have read := digits_append run_ne run_digits (stops_of_parted parted)
      by_cases negative : exponent < 0
      · simp only [text_eq, if_pos negative, List.cons_append, exponentPart, read]
        simp [value_eq, abs_of_neg negative]
      · simp only [text_eq, if_neg negative, List.cons_append, exponentPart, read]
        simpa [value_eq] using negative

/-- A numeral is read in full, a lone zero before its fraction or exponent included. -/
theorem decimal_append (negative : Bool) (numeral : Numeral) :
    decimal negative (numeral.text ++ rest) =
      (numeral.data negative).map fun data => (data, rest) := by
  have following_eq : numeral.text ++ rest =
      numeral.whole ++ (numeral.fractionText ++ (numeral.exponentText ++ rest)) := by
    simp only [Numeral.text, List.append_assoc]
  have read := digits_append numeral.whole_ne numeral.whole_digits
    (stops_fractionText parted numeral)
  have nonempty : numeral.whole.isEmpty = false := by simpa using numeral.whole_ne
  rw [following_eq]
  unfold decimal
  split
  next whole afterWhole whole_eq =>
    have parts_eq : (whole, afterWhole) =
        (numeral.whole, numeral.fractionText ++ (numeral.exponentText ++ rest)) := by
      rw [← whole_eq]
      split
      next after leading =>
        obtain ⟨lone, after_eq⟩ := Numeral.whole_eq_of_leading leading
        rw [lone, after_eq]
      next => exact read
    cases parts_eq
    simp only [nonempty, Bool.false_eq_true, if_false, fractionPart_append parted,
      exponentPart_append parted, Numeral.data, Numeral.decimal]
    split
    · cases boundedWhole negative numeral.whole <;> rfl
    · rfl

end

theorem exists_mark (numeral : Numeral) {rest : List Char} (parted : Parted rest) :
    ∃ mark after, numeral.text ++ rest = numeral.whole ++ mark :: after ∧
      mark ∈ ['.', 'e', ',', ' ', '\n'] := by
  rw [Numeral.text, List.append_assoc, List.append_assoc, Numeral.fractionText,
    Numeral.exponentText]
  split
  · cases numeral.exponent? with
    | none => cases parted <;> exact ⟨_, _, rfl, by simp⟩
    | some exponent => exact ⟨_, _, rfl, by simp⟩
  · exact ⟨_, _, rfl, by simp⟩

theorem prefixed?_append (numeral : Numeral) {rest : List Char} (parted : Parted rest) :
    prefixed? (numeral.text ++ rest) = none := by
  obtain ⟨mark, after, text_eq, mark_mem⟩ := exists_mark numeral parted
  have unmarked {base : Char} {following : List Char}
      (leading : numeral.text ++ rest = '0' :: base :: following) :
      base ∈ ['.', 'e', ',', ' ', '\n'] := by
    rw [text_eq] at leading
    obtain ⟨-, after_eq⟩ := Numeral.whole_eq_of_leading leading
    rw [List.cons.injEq] at after_eq
    rwa [after_eq.1]
  generalize numeral.text ++ rest = input at unmarked
  fun_cases prefixed? input with
  | case1 => simpa using unmarked rfl
  | case2 => simpa using unmarked rfl
  | case3 => simpa using unmarked rfl
  | case4 => rfl

theorem number_append (negative : Bool) (numeral : Numeral) {rest : List Char}
    (parted : Parted rest) :
    number (Numeral.signed negative numeral.text ++ rest) =
      (numeral.data negative).map fun data => (data, rest) := by
  have read := decimal_append parted negative numeral
  have unprefixed := prefixed?_append numeral parted
  obtain ⟨first, others, text_eq, first_digit⟩ := numeral.exists_first_digit
  have first_ne : first ≠ 'i' ∧ first ≠ 'n' ∧ first ≠ '+' ∧ first ≠ '-' := by
    refine ⟨?_, ?_, ?_, ?_⟩ <;> rintro rfl <;> cases first_digit
  rw [text_eq, List.cons_append] at read unprefixed
  cases negative
  · rw [Numeral.signed, if_neg Bool.false_ne_true, text_eq, List.cons_append, number.eq_def,
      unprefixed, ← read]
    simp [first_ne]
  · rw [Numeral.signed, if_pos rfl, List.cons_append, text_eq, List.cons_append, number.eq_def,
      ← read]
    simp [first_ne, prefixed?]

theorem exists_of_twoDigits? {least most value : Nat} {input rest : List Char}
    (read : twoDigits? least most input = some (value, rest)) :
    ∃ first second, input = first :: second :: rest ∧ first.isDigit ∧ second.isDigit := by
  revert read
  fun_cases twoDigits? least most input with
  | case1 first second after number accepted =>
      intro read
      obtain ⟨-, rfl⟩ := Prod.mk.inj (Option.some.inj read)
      simp only [Bool.and_eq_true] at accepted
      exact ⟨first, second, rfl, accepted.1.1.1, accepted.1.1.2⟩
  | case2 => rintro ⟨⟩
  | case3 => rintro ⟨⟩

theorem eq_of_after? {mark : Char} {input rest : List Char} (read : after? mark input = some rest) :
    input = mark :: rest := by
  revert read
  fun_cases after? mark input with
  | case1 => rintro ⟨⟩; rfl
  | case2 => rintro ⟨⟩
  | case3 => rintro ⟨⟩

theorem exists_run_of_date? {input rest : List Char} {exists? : Bool}
    (dated : date? input = some (exists?, rest)) :
    ∃ run after, input = run ++ '-' :: after ∧ run ≠ [] ∧ ∀ digit ∈ run, digit.isDigit := by
  revert dated
  fun_cases date? input with
  | case1 a b c d after year =>
      intro dated
      by_cases year_digits : year.all Char.isDigit
      · exact ⟨year, after, rfl, List.cons_ne_nil _ _, List.all_eq_true.mp year_digits⟩
      · simp [guard, year_digits] at dated
  | case2 => rintro ⟨⟩

theorem exists_run_of_time? {input rest : List Char} (timed : time? input = some rest) :
    ∃ run after, input = run ++ ':' :: after ∧ run ≠ [] ∧ ∀ digit ∈ run, digit.isDigit := by
  cases hour : twoDigits? 0 23 input with
  | none => simp [time?, hour] at timed
  | some found =>
      obtain ⟨value, afterHour⟩ := found
      cases colon : after? ':' afterHour with
      | none => simp [time?, hour, colon] at timed
      | some after =>
          obtain ⟨first, second, rfl, first_digit, second_digit⟩ := exists_of_twoDigits? hour
          rw [eq_of_after? colon]
          refine ⟨[first, second], after, rfl, List.cons_ne_nil _ _, ?_⟩
          simp [first_digit, second_digit]

/-- A date or a time of day starts with digits before a dash or a colon. -/
theorem exists_run_of_moment? {input : List Char} (read : moment? input ≠ none) :
    ∃ run mark after, input = run ++ mark :: after ∧ run ≠ [] ∧
      (∀ digit ∈ run, digit.isDigit) ∧ (mark = '-' ∨ mark = ':') := by
  cases dated : date? input with
  | some found =>
      obtain ⟨run, after, input_eq, run_ne, run_digits⟩ := exists_run_of_date? dated
      exact ⟨run, '-', after, input_eq, run_ne, run_digits, Or.inl rfl⟩
  | none =>
      cases timed : time? input with
      | some rest =>
          obtain ⟨run, after, input_eq, run_ne, run_digits⟩ := exists_run_of_time? timed
          exact ⟨run, ':', after, input_eq, run_ne, run_digits, Or.inr rfl⟩
      | none => simp [moment?, dated, timed] at read

/-- A run of digits is no part of a date or a time of day unless a dash or a colon follows. -/
theorem moment?_append {run after : List Char} {mark : Char}
    (run_digits : ∀ digit ∈ run, digit.isDigit) (not_digit : mark.isDigit = false)
    (unmarked : run = [] ∨ (mark ≠ '-' ∧ mark ≠ ':')) :
    moment? (run ++ mark :: after) = none := by
  by_contra read
  obtain ⟨found, ending, final, input_eq, found_ne, found_digits, ending_eq⟩ :=
    exists_run_of_moment? read
  have ending_not_digit : ending.isDigit = false := by
    rcases ending_eq with rfl | rfl <;> rfl
  have runs_eq := congrArg (List.takeWhile Char.isDigit) input_eq
  have rests_eq := congrArg (List.dropWhile Char.isDigit) input_eq
  simp [List.takeWhile_append_of_pos run_digits, List.takeWhile_append_of_pos found_digits,
    not_digit, ending_not_digit] at runs_eq
  simp [List.dropWhile_append_of_pos run_digits, List.dropWhile_append_of_pos found_digits,
    not_digit, ending_not_digit] at rests_eq
  rcases unmarked with empty | plain
  · exact found_ne (runs_eq ▸ empty)
  · rw [← rests_eq.1] at ending_eq
    exact ending_eq.elim plain.1 plain.2

theorem scalar_eq_number {first : Char} {others : List Char} (first_ne : first ≠ 't' ∧ first ≠ 'f')
    (no_moment : moment? (first :: others) = none) :
    scalar (first :: others) = number (first :: others) := by
  simp [scalar, first_ne, no_moment]

theorem scalar_word {first : Char} {others : List Char} (first_ne : first ≠ 't' ∧ first ≠ 'f')
    (not_digit : first.isDigit = false) : scalar (first :: others) = number (first :: others) := by
  have no_moment : moment? ([] ++ first :: others) = none :=
    moment?_append (by simp) not_digit (Or.inl rfl)
  exact scalar_eq_number first_ne no_moment

/-- A numeral is read as a scalar after its sign. -/
theorem scalar_append (negative : Bool) (numeral : Numeral) {rest : List Char}
    (parted : Parted rest) :
    scalar (Numeral.signed negative numeral.text ++ rest) =
      (numeral.data negative).map fun data => (data, rest) := by
  have read := number_append negative numeral parted
  have no_moment : moment? (Numeral.signed negative numeral.text ++ rest) = none := by
    cases negative
    · obtain ⟨mark, after, text_eq, mark_mem⟩ := exists_mark numeral parted
      have plain : mark.isDigit = false ∧ mark ≠ '-' ∧ mark ≠ ':' := by
        simp only [List.mem_cons, List.not_mem_nil, or_false] at mark_mem
        rcases mark_mem with rfl | rfl | rfl | rfl | rfl <;> decide
      rw [Numeral.signed, if_neg Bool.false_ne_true, text_eq]
      exact moment?_append numeral.whole_digits plain.1 (Or.inr plain.2)
    · change moment? ([] ++ '-' :: (numeral.text ++ rest)) = none
      exact moment?_append (by simp) (by decide) (Or.inl rfl)
  obtain ⟨first, others, first_eq, first_ne⟩ :
      ∃ first others, Numeral.signed negative numeral.text = first :: others ∧
        first ≠ 't' ∧ first ≠ 'f' := by
    cases negative
    · obtain ⟨first, others, text_eq, first_digit⟩ := numeral.exists_first_digit
      refine ⟨first, others, text_eq, ?_, ?_⟩ <;> rintro rfl <;> cases first_digit
    · exact ⟨'-', numeral.text, rfl, by decide, by decide⟩
  rw [first_eq, List.cons_append] at read no_moment ⊢
  rw [scalar_eq_number first_ne no_moment, read]

/-- The numbers that are written as words. -/
def words : List (List Char × Data) :=
  [(['t', 'r', 'u', 'e'], .boolean true), (['f', 'a', 'l', 's', 'e'], .boolean false),
    (['n', 'a', 'n'], .real .nan), (['i', 'n', 'f'], .real (.infinite false)),
    (['-', 'i', 'n', 'f'], .real (.infinite true))]

/-- A number is written as a word or as a numeral that stands for it. -/
theorem word_or_numeral {number : Number} {written : List Char}
    (written_eq : numberText number = .ok written) :
    (written, Data.ofNumber number) ∈ words ∨
      ∃ (negative : Bool) (numeral : Numeral), written = Numeral.signed negative numeral.text ∧
        numeral.data negative = .ok (.ofNumber number) := by
  cases number with
  | boolean value =>
      cases written_eq
      cases value <;> exact Or.inl (by simp [words, Data.ofNumber])
  | integer value =>
      rw [numberText, boundedText] at written_eq
      split_ifs at written_eq with few
      cases written_eq
      exact Or.inr ⟨_, _, Numeral.wholeText_eq value, Numeral.data_ofNat few⟩
  | real value =>
      cases written_eq
      cases value with
      | nan => exact Or.inl (by simp [words, Data.ofNumber, Binary64.text, SpecialWords.short])
      | infinite negative =>
          cases negative <;>
            exact Or.inl (by simp [words, Data.ofNumber, Binary64.text, SpecialWords.short])
      | finite negative rank =>
          obtain ⟨numeral, text_eq, data_eq⟩ := Numeral.exists_text_shortest rank
          refine Or.inr ⟨negative, numeral, ?_, data_eq negative⟩
          rw [text_eq]
          rfl

/-- A written number is read back, whatever follows its divider. -/
theorem scalar_numberText {number : Number} {written rest : List Char}
    (written_eq : numberText number = .ok written) (parted : Parted rest) :
    scalar (written ++ rest) = .ok (.ofNumber number, rest) := by
  rcases word_or_numeral written_eq with word | ⟨negative, numeral, rfl, data_eq⟩
  · simp only [words, List.mem_cons, Prod.mk.injEq, List.not_mem_nil, or_false] at word
    rcases word with ⟨rfl, data_eq⟩ | ⟨rfl, data_eq⟩ | ⟨rfl, data_eq⟩ | ⟨rfl, data_eq⟩ |
      ⟨rfl, data_eq⟩ <;> rw [data_eq]
    · rfl
    · rfl
    · exact scalar_word (by decide) (by decide)
    · exact scalar_word (by decide) (by decide)
    · exact scalar_word (by decide) (by decide)
  · rw [scalar_append negative numeral parted, data_eq]
    rfl

/-- A written number starts with a character that may stand in a bare key. -/
theorem exists_bare_of_numberText {number : Number} {written : List Char}
    (written_eq : numberText number = .ok written) :
    ∃ first others, written = first :: others ∧ isBare first := by
  rcases word_or_numeral written_eq with word | ⟨negative, numeral, rfl, -⟩
  · simp only [words, List.mem_cons, Prod.mk.injEq, List.not_mem_nil, or_false] at word
    rcases word with ⟨rfl, -⟩ | ⟨rfl, -⟩ | ⟨rfl, -⟩ | ⟨rfl, -⟩ | ⟨rfl, -⟩ <;>
      exact ⟨_, _, rfl, by decide⟩
  · obtain ⟨first, others, text_eq, first_digit⟩ := numeral.exists_first_digit
    cases negative
    · refine ⟨first, others, text_eq, ?_⟩
      simp [isBare, Char.isAlphanum, first_digit]
    · exact ⟨'-', numeral.text, rfl, by decide⟩

theorem not_mem_numberText {number : Number} {written : List Char}
    (written_eq : numberText number = .ok written) : '\r' ∉ written := by
  rcases word_or_numeral written_eq with word | ⟨negative, numeral, rfl, -⟩
  · simp only [words, List.mem_cons, Prod.mk.injEq, List.not_mem_nil, or_false] at word
    rcases word with ⟨rfl, -⟩ | ⟨rfl, -⟩ | ⟨rfl, -⟩ | ⟨rfl, -⟩ | ⟨rfl, -⟩ <;> decide
  · have unsigned := numeral.not_mem_text
    cases negative
    · exact unsigned
    · simpa [Numeral.signed] using unsigned

/-- Exactly the numbers that have a text in traces have one in documents. -/
theorem exists_numberText_iff {number : Number} :
    (∃ written, numberText number = .ok written) ↔ number.IsWritten := by
  cases number with
  | boolean value => exact ⟨fun _ => Number.isWritten_boolean value, fun _ => ⟨_, rfl⟩⟩
  | real value => exact ⟨fun _ => Number.isWritten_real value, fun _ => ⟨_, rfl⟩⟩
  | integer value =>
      rw [Number.isWritten_integer_iff, numberText, boundedText]
      split_ifs with few
      · exact ⟨fun _ => few, fun _ => ⟨_, rfl⟩⟩
      · simpa using few

end Toml
end PayGraph
