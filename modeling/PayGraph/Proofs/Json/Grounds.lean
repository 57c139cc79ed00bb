import PayGraph.Json.Reader
import PayGraph.Proofs.Grounds

/-!
# Faults of the JSON reader

Each reader of a part is grounded, and so is the reader of a document, where a bracket takes the
room of one nesting.
-/

namespace PayGraph
namespace Json

variable {cost room : Nat}

theorem skip_suffix (input : List Char) : skip input <:+ input :=
  List.dropWhile_suffix _

theorem suffix_of_skip_eq {input rest : List Char} {mark : Char}
    (skipped : skip input = mark :: rest) : rest <:+ input :=
  (List.suffix_cons mark rest).trans (skipped ▸ skip_suffix input)

theorem grounded_textBody [Halves] (reversed input : List Char) :
    Grounded cost room input (textBody reversed input) := by
  fun_induction textBody reversed input with
  | case1 | case3 | case8 | case9 => trivial
  | case2 reversed rest => exact List.suffix_cons '"' rest
  | case4 reversed a b c d rest _ _ _ induction =>
      exact induction.of_suffix (List.suffix_append ['\\', 'u', a, b, c, d] rest)
  | case5 reversed a b c d rest _ _ _ _ _ induction =>
      exact induction.of_suffix (List.suffix_append ['\\', 'u', a, b, c, d] rest)
  | case6 reversed a b c d rest _ _ _ _ _ _ induction =>
      exact induction.of_suffix
        ((List.drop_suffix 6 rest).trans (List.suffix_append ['\\', 'u', a, b, c, d] rest))
  | case7 reversed escape rest _ _ _ induction =>
      exact induction.of_suffix (List.suffix_append ['\\', escape] rest)
  | case10 reversed character rest _ _ _ _ induction =>
      exact induction.cons character

theorem spanDigits_eq (input : List Char) :
    (Decimal.spanDigits input).1 ++ (Decimal.spanDigits input).2 = input ∧
      ∀ digit ∈ (Decimal.spanDigits input).1, digit.isDigit :=
  ⟨List.takeWhile_append_dropWhile, List.all_eq_true.mp List.all_takeWhile⟩

theorem spanDigits_suffix (input : List Char) : (Decimal.spanDigits input).2 <:+ input :=
  List.dropWhile_suffix _

theorem fractionPart_suffix (input : List Char) : (fractionPart input).2 <:+ input := by
  fun_cases fractionPart input with
  | case1 | case3 => exact List.suffix_rfl
  | case2 rest digits after _ spanned =>
      have taken := spanDigits_suffix rest
      rw [spanned] at taken
      exact taken.trans (List.suffix_cons '.' rest)

theorem exponentPart_suffix (input : List Char) : (exponentPart input).2 <:+ input := by
  fun_cases exponentPart input with
  | case1 | case3 | case4 => exact List.suffix_rfl
  | case2 marker rest _ negative unsigned sign_eq digits after _ spanned =>
      have unsigned_suffix : unsigned <:+ rest := by
        split at sign_eq <;> cases sign_eq
        · exact List.suffix_cons '-' unsigned
        · exact List.suffix_cons '+' unsigned
        · exact List.suffix_rfl
      have taken := (spanDigits_suffix unsigned).trans unsigned_suffix
      rw [spanned] at taken
      exact taken.trans (List.suffix_cons marker rest)

theorem wholePart_eq (input : List Char) :
    (wholePart input).1 ++ (wholePart input).2 = input ∧
      ∀ digit ∈ (wholePart input).1, digit.isDigit := by
  fun_cases wholePart input with
  | case1 rest => simp
  | case2 => exact spanDigits_eq input

/-- Only the digits of a whole number can be too many. -/
theorem grounded_numeral (negative : Bool) (input : List Char) :
    Grounded cost room input (numeral negative input) := by
  obtain ⟨input_eq, whole_digits⟩ := wholePart_eq input
  have after_suffix {whole afterWhole fraction afterFraction rest : List Char}
      {exponent? : Option Int} (whole_eq : wholePart input = (whole, afterWhole))
      (fraction_eq : fractionPart afterWhole = (fraction, afterFraction))
      (exponent_eq : exponentPart afterFraction = (exponent?, rest)) : rest <:+ input := by
    have taken := (exponentPart_suffix afterFraction).trans
      (fraction_eq ▸ fractionPart_suffix afterWhole)
    rw [exponent_eq] at taken
    rw [whole_eq] at input_eq
    exact taken.trans ⟨whole, input_eq⟩
  fun_cases numeral negative input with
  | case1 => trivial
  | case2 whole afterWhole _ whole_eq _ _ fraction_eq _ rest exponent_eq =>
      rw [whole_eq] at input_eq whole_digits
      cases converted : boundedWhole negative whole with
      | ok value => exact after_suffix whole_eq fraction_eq exponent_eq
      | error fault =>
          exact hasLongRun_of_boundedWhole converted (List.filter_eq_self.mpr whole_digits)
            ⟨[], afterWhole, input_eq⟩ fun digit digit_mem => Or.inl (whole_digits digit digit_mem)
  | case3 whole afterWhole _ whole_eq _ _ fraction_eq _ rest exponent_eq =>
      exact after_suffix whole_eq fraction_eq exponent_eq

theorem grounded_expect (word : String) (value : Data) (input : List Char) :
    Grounded cost room input (expect word value input) := by
  fun_cases expect word value input with
  | case1 => exact List.drop_suffix _ _
  | case2 => trivial

theorem grounded_scalar (input : List Char) : Grounded cost room input (scalar input) := by
  fun_cases scalar input with
  | case1 | case2 | case3 | case4 | case5 => exact (grounded_expect _ _ _).cons _
  | case6 rest => exact (grounded_expect _ _ rest).of_suffix (List.suffix_append ['-', 'I'] rest)
  | case7 rest => exact (grounded_numeral true rest).cons '-'
  | case8 => exact grounded_numeral false input

/-- Items are grounded if each item is. -/
theorem grounded_items {item : Scan Data} (reads : Reads cost room item) (fuel : Nat)
    (reversed : List Data) (input : List Char) :
    Grounded cost room input (items item fuel reversed input) := by
  fun_induction items item fuel reversed input with
  | case1 | case5 => trivial
  | case2 _ _ input _ refused => exact (reads input).of_error refused
  | case3 _ _ input _ afterValue read rest closed =>
      exact (suffix_of_skip_eq closed).trans ((reads input).of_ok read)
  | case4 _ _ input _ afterValue read rest divided induction =>
      exact induction.of_suffix ((skip_suffix rest).trans
        ((suffix_of_skip_eq divided).trans ((reads input).of_ok read)))

theorem grounded_entries [Halves] {item : Scan Data} (reads : Reads cost room item) (fuel : Nat)
    (found : Entries) (input : List Char) :
    Grounded cost room input (entries item fuel found input) := by
  have key_read (afterQuote : List Char) :
      Grounded cost room ('"' :: afterQuote) (textBody [] afterQuote) :=
    (grounded_textBody [] afterQuote).cons '"'
  -- the value of an entry is read behind its key and its colon
  have value_read {afterQuote afterKey afterColon : List Char} {key : String}
      (read : textBody [] afterQuote = .ok (key, afterKey))
      (colon : skip afterKey = ':' :: afterColon) :
      Grounded cost room ('"' :: afterQuote) (item (skip afterColon)) :=
    (reads (skip afterColon)).of_suffix ((skip_suffix afterColon).trans
      ((suffix_of_skip_eq colon).trans ((key_read afterQuote).of_ok read)))
  fun_induction entries item fuel found input with
  | case1 | case6 | case7 | case8 => trivial
  | case2 _ _ afterQuote _ refused => exact (key_read afterQuote).of_error refused
  | case3 _ _ afterQuote key afterKey read afterColon colon _ refused =>
      exact (value_read read colon).of_error refused
  | case4 _ _ afterQuote key afterKey read afterColon colon _ afterValue found rest closed =>
      exact (suffix_of_skip_eq closed).trans ((value_read read colon).of_ok found)
  | case5 _ _ afterQuote key afterKey read afterColon colon _ afterValue found rest divided
      induction =>
      exact induction.of_suffix ((skip_suffix rest).trans
        ((suffix_of_skip_eq divided).trans ((value_read read colon).of_ok found)))

/-- A value is grounded where a bracket takes the room of one nesting. -/
theorem reads_value [Halves] (parts depth : Nat) : Reads 1 depth (value parts depth) := by
  induction depth using Nat.strongRecOn with
  | ind depth induction =>
      intro input
      fun_cases value parts depth input with
      | case1 _ rest =>
          refine ((grounded_textBody [] rest).cons '"').map ?_
          exact fun found => rfl
      | case2 rest => exact grounds_open (Or.inl rfl) Nat.one_pos
      | case3 rest inner after closed =>
          exact (suffix_of_skip_eq closed).trans (List.suffix_cons '[' rest)
      | case4 rest inner =>
          have read := (grounded_items (induction inner (Nat.lt_succ_self inner)) parts []
            (skip rest)).of_suffix (skip_suffix rest)
          refine (read.map ?_).of_open (Or.inl rfl) Nat.le.refl
          exact fun found => rfl
      | case5 rest => exact grounds_open (Or.inr rfl) Nat.one_pos
      | case6 rest inner after closed =>
          exact (suffix_of_skip_eq closed).trans (List.suffix_cons '{' rest)
      | case7 rest inner =>
          have read := (grounded_entries (induction inner (Nat.lt_succ_self inner)) parts []
            (skip rest)).of_suffix (skip_suffix rest)
          refine (read.map ?_).of_open (Or.inr rfl) Nat.le.refl
          exact fun found => rfl
      | case8 => exact grounded_scalar input

/-- A document that is not read has grounds for it. -/
theorem grounds_of_read_error [Host] {document : List Char} {fault : ParseFault}
    (refused : read document = .error fault) : Grounds 1 Stack.json document fault := by
  have grounded := (reads_value document.length Stack.json (skip document)).of_suffix
    (skip_suffix document)
  revert refused
  fun_cases read document with
  | case1 _ unread =>
      rintro ⟨⟩
      exact grounded.of_error unread
  | case2 => nofun
  | case3 =>
      rintro ⟨⟩
      trivial

end Json
end PayGraph
