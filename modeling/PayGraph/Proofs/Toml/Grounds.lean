import PayGraph.Proofs.Grounds
import PayGraph.Proofs.Toml.Scalar

/-!
# Faults of the TOML reader

Each reader of a part is grounded, and so is the reader of a document, where a bracket takes the
room of three nestings at most.
-/

namespace PayGraph
namespace Toml

variable {cost room : Nat}

/-- A part was dropped off the front of a text, or the text is malformed. -/
def Trims (input : List Char) : Except ParseFault (List Char) → Prop
  | .ok rest => rest <:+ input
  | .error fault => fault = .malformed

theorem Trims.of_ok {input rest : List Char} {outcome : Except ParseFault (List Char)}
    (trims : Trims input outcome) (trimmed : outcome = .ok rest) : rest <:+ input := by
  rw [trimmed] at trims
  exact trims

theorem Trims.of_error {input : List Char} {fault : ParseFault}
    {outcome : Except ParseFault (List Char)} (trims : Trims input outcome)
    (refused : outcome = .error fault) : Grounds cost room input fault := by
  rw [refused] at trims
  rw [show fault = .malformed from trims]
  trivial

theorem Trims.of_suffix {part input : List Char} {outcome : Except ParseFault (List Char)}
    (trims : Trims part outcome) (part_of : part <:+ input) : Trims input outcome := by
  cases outcome with
  | ok rest => exact List.IsSuffix.trans trims part_of
  | error fault => exact trims

theorem skipBlanks_suffix (input : List Char) : skipBlanks input <:+ input :=
  List.dropWhile_suffix _

theorem suffix_of_skipBlanks_eq {input rest : List Char} {mark : Char}
    (skipped : skipBlanks input = mark :: rest) : rest <:+ input :=
  (List.suffix_cons mark rest).trans (skipped ▸ skipBlanks_suffix input)

theorem trims_skipComment (input : List Char) : Trims input (skipComment input) := by
  fun_cases skipComment input with
  | case1 => rfl
  | case2 rest => exact (List.dropWhile_suffix _).trans (List.suffix_cons '#' rest)
  | case3 => exact List.suffix_rfl

theorem trims_skipLines (fuel : Nat) (input : List Char) : Trims input (skipLines fuel input) := by
  have comment_trims {input rest : List Char}
      (started : input.dropWhile (fun character => isBlank character || character = '\n') =
        '#' :: rest) : Trims input (skipComment ('#' :: rest)) :=
    (trims_skipComment ('#' :: rest)).of_suffix (started ▸ List.dropWhile_suffix _)
  fun_induction skipLines fuel input with
  | case1 => exact List.suffix_rfl
  | case2 _ input rest started after commented induction =>
      exact induction.of_suffix ((comment_trims started).of_ok commented)
  | case3 _ input rest started fault commented =>
      have trims := comment_trims started
      rw [commented] at trims
      exact trims
  | case4 => exact List.dropWhile_suffix _

/-! ## Texts and keys -/

theorem grounded_escape (input : List Char) : Grounded cost room input (escape input) := by
  fun_cases escape input with
  | case1 a b c d rest => exact List.suffix_append ['u', a, b, c, d] rest
  | case3 a b c d e f g h rest => exact List.suffix_append ['U', a, b, c, d, e, f, g, h] rest
  | case5 letter rest => exact List.suffix_cons letter rest
  | case2 | case4 | case6 | case7 => trivial

theorem grounded_basicBody (reversed input : List Char) :
    Grounded cost room input (basicBody reversed input) := by
  fun_induction basicBody reversed input with
  | case1 | case5 => trivial
  | case2 reversed rest => exact List.suffix_cons '"' rest
  | case3 reversed rest fault refused =>
      exact ((grounded_escape rest).cons '\\').of_error refused
  | case4 reversed rest character after read _ induction =>
      exact induction.of_suffix (((@grounded_escape cost room rest).cons '\\').of_ok read)
  | case6 reversed character rest _ _ _ induction => exact induction.cons character

theorem grounded_literalBody (reversed input : List Char) :
    Grounded cost room input (literalBody reversed input) := by
  fun_induction literalBody reversed input with
  | case1 | case3 => trivial
  | case2 reversed rest => exact List.suffix_cons '\'' rest
  | case4 reversed character rest _ _ induction => exact induction.cons character

theorem closing_suffix (quote : Char) (reversed input : List Char) :
    (closing quote reversed input).2 <:+ input := by
  fun_cases closing quote reversed input with
  | case1 rest => exact List.suffix_append [quote, quote] rest
  | case2 second rest => exact List.suffix_cons quote (second :: rest)
  | case4 => exact List.suffix_cons quote []
  | case3 | case5 | case6 => exact List.suffix_rfl

theorem grounded_longBasicBody (joining : Joining) (reversed input : List Char) :
    Grounded cost room input (longBasicBody joining reversed input) := by
  fun_induction longBasicBody joining reversed input with
  | case1 | case4 | case8 | case13 => trivial
  | case2 joining reversed next after _ induction => exact induction.cons next
  | case3 joining reversed next after _ _ induction => exact induction.cons next
  | case5 joining reversed next after _ _ _ _ induction => exact induction.cons next
  | case6 joining reversed after =>
      exact (closing_suffix _ _ _).trans
        ((List.drop_suffix 2 after).trans (List.suffix_cons '"' after))
  | case7 joining reversed after _ _ _ _ _ induction => exact induction.cons '"'
  | case9 joining reversed _ next after _ _ _ _ _ induction =>
      exact (induction.cons next).cons '\\'
  | case10 joining reversed _ after _ _ _ _ _ induction =>
      exact (induction.cons '\n').cons '\\'
  | case11 joining reversed _ next after _ _ fault refused =>
      exact ((grounded_escape (next :: after)).cons '\\').of_error refused
  | case12 joining reversed _ next after _ _ character rest read _ _ _ _ _ induction =>
      exact induction.of_suffix
        (((@grounded_escape cost room (next :: after)).cons '\\').of_ok read)
  | case14 joining reversed next after _ _ _ _ _ _ _ induction => exact induction.cons next

theorem grounded_longLiteralBody (reversed input : List Char) :
    Grounded cost room input (longLiteralBody reversed input) := by
  fun_induction longLiteralBody reversed input with
  | case1 | case3 => trivial
  | case2 reversed rest =>
      exact (closing_suffix _ _ _).trans (List.suffix_append ['\'', '\'', '\''] rest)
  | case4 reversed character rest _ _ induction => exact induction.cons character

theorem dropBreak_suffix (input : List Char) : dropBreak input <:+ input := by
  fun_cases dropBreak input with
  | case1 rest => exact List.suffix_cons '\n' rest
  | case2 => exact List.suffix_rfl

theorem grounded_text (input : List Char) : Grounded cost room input (text input) := by
  fun_cases text input with
  | case1 rest =>
      exact (grounded_longBasicBody _ _ _).of_suffix
        ((dropBreak_suffix rest).trans (List.suffix_append ['"', '"', '"'] rest))
  | case2 rest => exact (grounded_basicBody [] rest).cons '"'
  | case3 rest =>
      exact (grounded_longLiteralBody _ _).of_suffix
        ((dropBreak_suffix rest).trans (List.suffix_append ['\'', '\'', '\''] rest))
  | case4 rest => exact (grounded_literalBody [] rest).cons '\''
  | case5 => trivial

theorem grounded_keyPart (input : List Char) : Grounded cost room input (keyPart input) := by
  fun_cases keyPart input with
  | case1 rest => exact (grounded_basicBody [] rest).cons '"'
  | case2 rest => exact (grounded_literalBody [] rest).cons '\''
  | case3 => trivial
  | case4 => exact List.dropWhile_suffix _

theorem grounded_keyParts (fuel : Nat) (reversed : List String) (input : List Char) :
    Grounded cost room input (keyParts fuel reversed input) := by
  fun_induction keyParts fuel reversed input with
  | case1 => trivial
  | case2 _ _ input _ refused => exact (grounded_keyPart input).of_error refused
  | case3 _ _ input part rest read after dotted induction =>
      have rest_suffix : rest <:+ input := (@grounded_keyPart cost room input).of_ok read
      exact induction.of_suffix
        ((skipBlanks_suffix after).trans ((suffix_of_skipBlanks_eq dotted).trans rest_suffix))
  | case4 _ _ input part rest read =>
      have rest_suffix : rest <:+ input := (@grounded_keyPart cost room input).of_ok read
      exact (skipBlanks_suffix rest).trans rest_suffix

/-! ## Numbers and moments -/

/-- The parts of a text are a run of digits at its front, without the underscores in it, and what
follows the run. -/
def SplitsRun (isDigit : Char → Bool) (input : List Char) (parts : List Char × List Char) : Prop :=
  ∃ run, run ++ parts.2 = input ∧ (∀ character ∈ run, isDigit character ∨ character = '_') ∧
    run.filter isDigit = parts.1

theorem SplitsRun.suffix {isDigit : Char → Bool} {input : List Char} {parts : List Char × List Char}
    (splits : SplitsRun isDigit input parts) : parts.2 <:+ input := by
  obtain ⟨run, input_eq, -, -⟩ := splits
  exact ⟨run, input_eq⟩

theorem exists_digitRun_eq {isDigit : Char → Bool} (not_digit : isDigit '_' = false)
    (reversed input : List Char) :
    ∃ run, run ++ (digitRun isDigit reversed input).2 = input ∧
      (∀ character ∈ run, isDigit character ∨ character = '_') ∧
      (digitRun isDigit reversed input).1 = reversed.reverse ++ run.filter isDigit := by
  fun_induction digitRun isDigit reversed input with
  | case1 reversed digit rest is_digit induction =>
      obtain ⟨run, rest_eq, plain, written_eq⟩ := induction
      refine ⟨'_' :: digit :: run, ?_, ?_, ?_⟩
      · rw [List.cons_append, List.cons_append, rest_eq]
      · simpa [is_digit] using plain
      · simp [written_eq, not_digit, is_digit]
  | case3 reversed digit rest _ is_digit induction =>
      obtain ⟨run, rest_eq, plain, written_eq⟩ := induction
      refine ⟨digit :: run, ?_, ?_, ?_⟩
      · rw [List.cons_append, rest_eq]
      · simpa [is_digit] using plain
      · simp [written_eq, is_digit]
  | case2 | case4 | case5 => exact ⟨[], rfl, by simp, by simp⟩

theorem digits_splitsRun {isDigit : Char → Bool} (not_digit : isDigit '_' = false)
    (input : List Char) : SplitsRun isDigit input (digits isDigit input) := by
  fun_cases digits isDigit input with
  | case1 first rest is_digit =>
      obtain ⟨run, rest_eq, plain, written_eq⟩ := exists_digitRun_eq not_digit [first] rest
      refine ⟨first :: run, ?_, ?_, ?_⟩
      · rw [List.cons_append, rest_eq]
      · simpa [is_digit] using plain
      · simp [written_eq, is_digit]
  | case2 | case3 => exact ⟨[], rfl, by simp, rfl⟩

theorem digits_suffix (input : List Char) : (digits Char.isDigit input).2 <:+ input :=
  (digits_splitsRun (by decide) input).suffix

theorem fractionPart_suffix (input : List Char) : (fractionPart input).2 <:+ input := by
  fun_cases fractionPart input with
  | case1 | case3 => exact List.suffix_rfl
  | case2 rest => exact (digits_suffix rest).trans (List.suffix_cons '.' rest)

theorem exponentPart_suffix (input : List Char) : (exponentPart input).2 <:+ input := by
  fun_cases exponentPart input with
  | case1 | case3 | case4 => exact List.suffix_rfl
  | case2 marker rest _ negative unsigned sign_eq written after _ read =>
      have unsigned_suffix : unsigned <:+ rest := by
        split at sign_eq <;> cases sign_eq
        · exact List.suffix_cons '-' unsigned
        · exact List.suffix_cons '+' unsigned
        · exact List.suffix_rfl
      have taken := (digits_suffix unsigned).trans unsigned_suffix
      rw [read] at taken
      exact taken.trans (List.suffix_cons marker rest)

/-- Only the digits of a whole number can be too many. -/
theorem grounded_decimal (negative : Bool) (input : List Char) :
    Grounded cost room input (decimal negative input) := by
  have zero_splits (rest : List Char) : SplitsRun Char.isDigit ('0' :: rest) (['0'], rest) :=
    ⟨['0'], rfl, by simp, by simp⟩
  have after_suffix {afterWhole fraction afterFraction rest : List Char} {exponent? : Option Int}
      (whole_suffix : afterWhole <:+ input)
      (fraction_eq : fractionPart afterWhole = (fraction, afterFraction))
      (exponent_eq : exponentPart afterFraction = (exponent?, rest)) : rest <:+ input := by
    have taken := (exponentPart_suffix afterFraction).trans
      (fraction_eq ▸ fractionPart_suffix afterWhole)
    rw [exponent_eq] at taken
    exact taken.trans whole_suffix
  fun_cases decimal negative input with
  | case1 => trivial
  | case2 whole afterWhole whole_eq _ _ _ fraction_eq _ rest exponent_eq =>
      have splits : SplitsRun Char.isDigit input (whole, afterWhole) := by
        rw [← whole_eq]
        split
        · exact zero_splits _
        · exact digits_splitsRun (by decide) input
      cases converted : boundedWhole negative whole with
      | ok value => exact after_suffix splits.suffix fraction_eq exponent_eq
      | error fault =>
          obtain ⟨run, input_eq, plain, digits_eq⟩ := splits
          exact hasLongRun_of_boundedWhole converted digits_eq ⟨[], afterWhole, input_eq⟩ plain
  | case3 whole afterWhole whole_eq _ _ _ fraction_eq _ rest exponent_eq =>
      have splits : SplitsRun Char.isDigit input (whole, afterWhole) := by
        rw [← whole_eq]
        split
        · exact zero_splits _
        · exact digits_splitsRun (by decide) input
      exact after_suffix splits.suffix fraction_eq exponent_eq

theorem based_suffix {isDigit : Char → Bool} (not_digit : isDigit '_' = false) {base : Nat}
    {input : List Char} {found : Nat × List Char × List Char}
    (read : (match digits isDigit input with
      | ([], _) => none
      | (written, after) => some (base, written, after)) = some found) : found.2.2 <:+ input := by
  have splits := digits_splitsRun not_digit input
  rcases parts_eq : digits isDigit input with ⟨_ | ⟨first, rest⟩, after⟩
  · rw [parts_eq] at read
    cases read
  · rw [parts_eq] at read splits
    cases read
    exact splits.suffix

theorem prefixed?_suffix {input written rest : List Char} {base : Nat}
    (read : prefixed? input = some (base, written, rest)) : rest <:+ input := by
  revert read
  fun_cases prefixed? input with
  | case1 based after =>
      exact fun read =>
        (based_suffix (by decide) read).trans (List.suffix_append ['0', 'x'] after)
  | case2 based after =>
      exact fun read =>
        (based_suffix (by decide) read).trans (List.suffix_append ['0', 'b'] after)
  | case3 based after =>
      exact fun read =>
        (based_suffix (by decide) read).trans (List.suffix_append ['0', 'o'] after)
  | case4 => rintro ⟨⟩

theorem grounded_number (input : List Char) : Grounded cost room input (number input) := by
  fun_cases number input with
  | case1 _ _ _ _ read => exact prefixed?_suffix read
  | case2 rest => exact List.suffix_append ['i', 'n', 'f'] rest
  | case3 rest => exact List.suffix_append ['+', 'i', 'n', 'f'] rest
  | case4 rest => exact List.suffix_append ['-', 'i', 'n', 'f'] rest
  | case5 rest => exact List.suffix_append ['n', 'a', 'n'] rest
  | case6 rest => exact List.suffix_append ['+', 'n', 'a', 'n'] rest
  | case7 rest => exact List.suffix_append ['-', 'n', 'a', 'n'] rest
  | case8 rest => exact (grounded_decimal true rest).cons '-'
  | case9 rest => exact (grounded_decimal false rest).cons '+'
  | case10 => exact grounded_decimal false input

theorem twoDigits?_suffix {least most value : Nat} {input rest : List Char}
    (read : twoDigits? least most input = some (value, rest)) : rest <:+ input := by
  obtain ⟨first, second, rfl, -⟩ := exists_of_twoDigits? read
  exact List.suffix_append [first, second] rest

theorem after?_suffix {mark : Char} {input rest : List Char}
    (read : after? mark input = some rest) : rest <:+ input := by
  rw [eq_of_after? read]
  exact List.suffix_cons mark rest

theorem time?_suffix {input rest : List Char} (read : time? input = some rest) :
    rest <:+ input := by
  simp only [time?, bind, Option.bind_eq_some_iff] at read
  obtain ⟨⟨hour, afterHour⟩, hour_read, afterColon, colon_read, ⟨minute, afterMinute⟩, minute_read,
    beforeSecond, second_colon, ⟨second, afterSecond⟩, second_read, fraction_read⟩ := read
  have second_suffix : afterSecond <:+ input :=
    (twoDigits?_suffix second_read).trans ((after?_suffix second_colon).trans
      ((twoDigits?_suffix minute_read).trans ((after?_suffix colon_read).trans
        (twoDigits?_suffix hour_read))))
  have rest_suffix : rest <:+ afterSecond := by
    dsimp only at fraction_read
    split at fraction_read
    next fraction =>
      have fraction_suffix : (Decimal.spanDigits fraction).2 <:+ fraction :=
        List.dropWhile_suffix _
      rcases spanned : Decimal.spanDigits fraction with ⟨_ | ⟨first, others⟩, afterFraction⟩
      · rw [spanned] at fraction_read
        cases fraction_read
        exact List.suffix_rfl
      · rw [spanned] at fraction_read fraction_suffix
        cases fraction_read
        exact fraction_suffix.trans (List.suffix_cons '.' fraction)
    next =>
      cases fraction_read
      exact List.suffix_rfl
  exact rest_suffix.trans second_suffix

theorem afterOffset_suffix (input : List Char) : afterOffset input <:+ input := by
  have signed_suffix (sign : Char) (rest : List Char) :
      ((twoDigits? 0 23 rest).bind fun hour =>
        (after? ':' hour.2).bind fun afterColon =>
          (twoDigits? 0 59 afterColon).bind fun minute =>
            some minute.2).getD (sign :: rest) <:+ sign :: rest := by
    cases read : (twoDigits? 0 23 rest).bind fun hour =>
        (after? ':' hour.2).bind fun afterColon =>
          (twoDigits? 0 59 afterColon).bind fun minute => some minute.2 with
    | none => exact List.suffix_rfl
    | some final =>
        simp only [Option.bind_eq_some_iff] at read
        obtain ⟨hour, hour_read, afterColon, colon_read, minute, minute_read, final_eq⟩ := read
        cases final_eq
        exact ((twoDigits?_suffix minute_read).trans ((after?_suffix colon_read).trans
          (twoDigits?_suffix hour_read))).trans (List.suffix_cons sign rest)
  fun_cases afterOffset input with
  | case1 rest => exact List.suffix_cons 'Z' rest
  | case2 rest => exact List.suffix_cons 'z' rest
  | case3 _ rest => exact signed_suffix '+' rest
  | case4 _ rest => exact signed_suffix '-' rest
  | case5 => exact List.suffix_rfl

theorem date?_suffix {input rest : List Char} {exists? : Bool}
    (read : date? input = some (exists?, rest)) : rest <:+ input := by
  revert read
  fun_cases date? input with
  | case1 a b c d afterYear =>
      intro read
      simp only [bind, Option.bind_eq_some_iff] at read
      obtain ⟨-, -, ⟨month, afterMonth⟩, month_read, afterDash, dash_read, ⟨day, final⟩, day_read,
        final_eq⟩ := read
      cases final_eq
      exact ((twoDigits?_suffix day_read).trans ((after?_suffix dash_read).trans
        (twoDigits?_suffix month_read))).trans (List.suffix_append [a, b, c, d, '-'] afterYear)
  | case2 => rintro ⟨⟩

theorem afterDateTime_suffix (input : List Char) : afterDateTime input <:+ input := by
  fun_cases afterDateTime input with
  | case1 mark rest _ final read =>
      exact (afterOffset_suffix final).trans
        ((time?_suffix read).trans (List.suffix_cons mark rest))
  | case2 | case3 | case4 => exact List.suffix_rfl

theorem grounded_moment? {input : List Char} {outcome : Except ParseFault (Data × List Char)}
    (read : moment? input = some outcome) : Grounded cost room input outcome := by
  revert read
  fun_cases moment? input with
  | case1 _ exists? rest dated =>
      rintro ⟨⟩
      cases exists? with
      | true => exact (afterDateTime_suffix rest).trans (date?_suffix dated)
      | false => trivial
  | case2 =>
      intro read
      obtain ⟨rest, timed, rfl⟩ := Option.map_eq_some_iff.mp read
      exact time?_suffix timed

theorem grounded_scalar (input : List Char) : Grounded cost room input (scalar input) := by
  fun_cases scalar input with
  | case1 rest => exact List.suffix_append ['t', 'r', 'u', 'e'] rest
  | case2 rest => exact List.suffix_append ['f', 'a', 'l', 's', 'e'] rest
  | case3 _ _ _ _ read => exact grounded_moment? read
  | case4 => exact grounded_number input

/-! ## Values -/

theorem grounded_assignment {item : Scan Data} (reads : Reads cost room item) (fuel : Nat)
    (input : List Char) : Grounded cost room input (assignment fuel item input) := by
  have key_read := @grounded_keyParts cost room fuel [] input
  fun_cases assignment fuel item input with
  | case1 _ refused => exact key_read.of_error refused
  | case2 key rest read =>
      have value_read := (reads (skipBlanks rest)).of_suffix
        ((skipBlanks_suffix rest).trans ((List.suffix_cons '=' rest).trans (key_read.of_ok read)))
      refine value_read.map ?_
      exact fun found => rfl
  | case3 => trivial

/-- Items are grounded if each item is. -/
theorem grounded_items {item : Scan Data} (reads : Reads cost room item) (fuel parts : Nat)
    (reversed : List Data) (input : List Char) :
    Grounded cost room input (items fuel item parts reversed input) := by
  have value_read {input start : List Char} (started : skipLines fuel input = .ok start) :
      Grounded cost room input (item start) :=
    (reads start).of_suffix ((trims_skipLines fuel input).of_ok started)
  have after_trims {input start afterValue : List Char} {value : Data}
      (started : skipLines fuel input = .ok start) (read : item start = .ok (value, afterValue)) :
      Trims input (skipLines fuel afterValue) :=
    (trims_skipLines fuel afterValue).of_suffix ((value_read started).of_ok read)
  fun_induction items fuel item parts reversed input with
  | case1 | case8 => trivial
  | case2 _ _ input _ refused => exact (trims_skipLines fuel input).of_error refused
  | case3 _ _ input rest closed =>
      exact (List.suffix_cons ']' rest).trans ((trims_skipLines fuel input).of_ok closed)
  | case4 _ _ _ start _ started _ refused => exact (value_read started).of_error refused
  | case5 _ _ _ start _ started _ _ read _ refused =>
      exact (after_trims started read).of_error refused
  | case6 _ _ _ start _ started _ _ read rest closed =>
      exact (List.suffix_cons ']' rest).trans ((after_trims started read).of_ok closed)
  | case7 _ _ _ start _ started _ _ read rest divided induction =>
      exact induction.of_suffix
        ((List.suffix_cons ',' rest).trans ((after_trims started read).of_ok divided))

/-! ## Changes of tables -/

/-- What fails does so for something malformed. -/
def OnlyMalformed {Found : Type} (outcome : Except ParseFault Found) : Prop :=
  ∀ fault, outcome = .error fault → fault = .malformed

variable {Value Found : Type}

theorem onlyMalformed_ok (found : Found) : OnlyMalformed (.ok found) := by
  rintro fault ⟨⟩

theorem onlyMalformed_malformed : OnlyMalformed (.error .malformed : Except ParseFault Found) := by
  rintro fault ⟨⟩
  rfl

theorem OnlyMalformed.map {outcome : Except ParseFault Value} (only : OnlyMalformed outcome)
    (make : Value → Found) : OnlyMalformed (outcome.map make) := by
  cases outcome with
  | ok value => exact onlyMalformed_ok _
  | error fault =>
      rintro cause ⟨⟩
      exact only fault rfl

theorem OnlyMalformed.grounds {outcome : Except ParseFault Found} (only : OnlyMalformed outcome)
    {fault : ParseFault} (refused : outcome = .error fault) (input : List Char) :
    Grounds cost room input fault := by
  rw [only fault refused]
  trivial

theorem onlyMalformed_addEntry (key : String) (value : Data) (entries : Entries) :
    OnlyMalformed (addEntry key value entries) := by
  fun_cases addEntry key value entries with
  | case1 => exact onlyMalformed_malformed
  | case2 => exact onlyMalformed_ok _

theorem onlyMalformed_appendItem (key : String) (entries : Entries) :
    OnlyMalformed (Draft.appendItem key entries) := by
  fun_cases Draft.appendItem key entries with
  | case1 | case2 => exact onlyMalformed_ok _
  | case3 => exact onlyMalformed_malformed

theorem onlyMalformed_changeAt {throughLists : Bool} {change : Entries → Except ParseFault Entries}
    (only : ∀ entries, OnlyMalformed (change entries)) (path : List String) (entries : Entries) :
    OnlyMalformed (changeAt throughLists change path entries) := by
  fun_induction changeAt throughLists change path entries with
  | case1 entries => exact only entries
  | case2 _ _ _ _ induction | case3 _ _ _ _ _ induction => exact induction.map _
  | case4 _ _ _ _ _ _ _ _ induction => exact induction.map _
  | case5 | case6 | case7 => exact onlyMalformed_malformed

theorem onlyMalformed_assign (draft : Draft) (key : List String) (value : Data) :
    OnlyMalformed (draft.assign key value) := by
  fun_cases Draft.assign draft key value with
  | case1 => exact onlyMalformed_malformed
  | case2 => exact (onlyMalformed_changeAt (onlyMalformed_addEntry _ value) _ _).map _

theorem onlyMalformed_openTable (draft : Draft) (key : List String) :
    OnlyMalformed (draft.openTable key) := by
  fun_cases Draft.openTable draft key with
  | case1 => exact onlyMalformed_malformed
  | case2 => exact (onlyMalformed_changeAt onlyMalformed_ok _ _).map _

theorem onlyMalformed_openItem (draft : Draft) (key : List String) :
    OnlyMalformed (draft.openItem key) := by
  fun_cases Draft.openItem draft key with
  | case1 => exact onlyMalformed_malformed
  | case2 => exact (onlyMalformed_changeAt (onlyMalformed_appendItem _) _ _).map _

/-! ## Nestings and documents -/

theorem grounded_inlineEntries {item : Scan Data} (reads : Reads cost room item)
    (fuel parts : Nat) (frozen : List (List String)) (found : Entries) (input : List Char) :
    Grounded cost room input (inlineEntries fuel item parts frozen found input) := by
  fun_induction inlineEntries fuel item parts frozen found input with
  | case1 | case3 | case7 => trivial
  | case2 _ _ _ input _ refused => exact (grounded_assignment reads fuel input).of_error refused
  | case4 _ _ _ input key value _ _ _ _ refused =>
      have added := onlyMalformed_addEntry (key.getLastD "") value
      exact (onlyMalformed_changeAt added _ _).grounds refused input
  | case5 _ _ _ input _ _ afterValue read _ _ _ rest closed =>
      exact (suffix_of_skipBlanks_eq closed).trans
        ((grounded_assignment reads fuel input).of_ok read)
  | case6 _ _ _ input _ _ afterValue read _ _ _ rest divided induction =>
      exact induction.of_suffix ((skipBlanks_suffix rest).trans
        ((suffix_of_skipBlanks_eq divided).trans
          ((grounded_assignment reads fuel input).of_ok read)))

/-- A value is grounded where a bracket takes the room of three nestings. -/
theorem reads_value (fuel depth : Nat) : Reads 3 depth (value fuel depth) := by
  -- a list takes the room of two nestings and a table that of three
  induction depth using Nat.strongRecOn with
  | ind depth induction =>
      intro input
      fun_cases value fuel depth input with
      | case1 | case2 =>
          refine (grounded_text _).map ?_
          exact fun found => rfl
      | case3 | case4 => exact grounds_open (Or.inl rfl) (by decide)
      | case5 rest inner =>
          have read := grounded_items (induction inner (by omega)) fuel fuel [] rest
          refine (read.map ?_).of_open (Or.inl rfl) (by decide)
          exact fun found => rfl
      | case6 | case7 | case8 => exact grounds_open (Or.inr rfl) (by decide)
      | case9 rest inner after closed =>
          exact (suffix_of_skipBlanks_eq closed).trans (List.suffix_cons '{' rest)
      | case10 rest inner =>
          have read := (grounded_inlineEntries (induction inner (by omega)) fuel fuel [] []
            (skipBlanks rest)).of_suffix (skipBlanks_suffix rest)
          refine (read.map ?_).of_open (Or.inr rfl) (by decide)
          exact fun found => rfl
      | case11 => exact grounded_scalar input

/-- Lists that are nested beyond the room are given up, whatever follows their brackets. -/
theorem value_of_deep {fuel depth count : Nat} (deep : depth < 2 * count) (rest : List Char) :
    value (fuel + 1) depth (List.replicate count '[' ++ rest) = .error .nesting := by
  induction count generalizing depth with
  | zero => omega
  | succ count induction =>
      rw [List.replicate_succ, List.cons_append]
      match depth with
      | 0 | 1 => rfl
      | inner + 2 =>
          obtain ⟨others, rfl⟩ : ∃ others, count = others + 1 := ⟨count - 1, by omega⟩
          have within : value (fuel + 1) inner (List.replicate (others + 1) '[' ++ rest) =
              .error .nesting := induction (by omega)
          rw [List.replicate_succ, List.cons_append] at within ⊢
          have listed : items (fuel + 1) (value (fuel + 1) inner) (fuel + 1) []
              ('[' :: (List.replicate others '[' ++ rest)) = .error .nesting := by
            have start : skipLines (fuel + 1) ('[' :: (List.replicate others '[' ++ rest)) =
                .ok ('[' :: (List.replicate others '[' ++ rest)) := rfl
            rw [items.eq_def]
            simp [start, within]
          rw [value.eq_def]
          simp only [listed]
          rfl

section

variable [Stack]

/-- A statement is grounded with the room of a whole document. -/
theorem grounded_statement (fuel : Nat) (draft : Draft) (input : List Char) :
    Grounded 3 Stack.toml input (statement fuel draft input) := by
  -- the key of a header is read behind its brackets
  have item_key (rest : List Char) :
      Grounded 3 Stack.toml ('[' :: '[' :: rest) (keyParts fuel [] (skipBlanks rest)) :=
    (grounded_keyParts fuel [] (skipBlanks rest)).of_suffix
      ((skipBlanks_suffix rest).trans (List.suffix_append ['[', '['] rest))
  have table_key (rest : List Char) :
      Grounded 3 Stack.toml ('[' :: rest) (keyParts fuel [] (skipBlanks rest)) :=
    (grounded_keyParts fuel [] (skipBlanks rest)).of_suffix
      ((skipBlanks_suffix rest).trans (List.suffix_cons '[' rest))
  have assigned (input : List Char) :
      Grounded 3 Stack.toml input (assignment fuel (value fuel Stack.toml) input) :=
    grounded_assignment (reads_value fuel Stack.toml) fuel input
  fun_cases statement fuel draft input with
  | case1 | case2 | case3 => exact List.suffix_rfl
  | case4 rest _ refused => exact (item_key rest).of_error refused
  | case5 rest key after read _ refused => exact (onlyMalformed_openItem _ key).grounds refused _
  | case6 rest key opened final _ read =>
      exact (List.suffix_append [']', ']'] final).trans ((item_key rest).of_ok read)
  | case7 | case11 => trivial
  | case8 rest _ _ refused => exact (table_key rest).of_error refused
  | case9 rest _ key after read _ refused => exact (onlyMalformed_openTable _ key).grounds refused _
  | case10 rest _ key opened final _ read =>
      exact (List.suffix_cons ']' final).trans ((table_key rest).of_ok read)
  | case12 input _ refused =>
      rw [refused]
      exact (assigned input).of_error refused
  | case13 input key found rest read =>
      rw [read]
      dsimp only
      cases outcome : draft.assign key found with
      | error fault => exact (onlyMalformed_assign draft key found).grounds outcome input
      | ok changed => exact (assigned input).of_ok read

/-- Lines that are not read have grounds for it. -/
theorem grounds_of_lines_error {fuel count : Nat} {draft : Draft} {input : List Char}
    {fault : ParseFault} (refused : lines fuel count draft input = .error fault) :
    Grounds 3 Stack.toml input fault := by
  have stated (draft : Draft) (input : List Char) :
      Grounded 3 Stack.toml input (statement fuel draft (skipBlanks input)) :=
    (grounded_statement fuel draft (skipBlanks input)).of_suffix (skipBlanks_suffix input)
  have after_trims {draft changed : Draft} {input rest : List Char}
      (read : statement fuel draft (skipBlanks input) = .ok (changed, rest)) :
      Trims input (skipComment (skipBlanks rest)) :=
    (trims_skipComment (skipBlanks rest)).of_suffix
      ((skipBlanks_suffix rest).trans ((stated draft input).of_ok read))
  fun_induction lines fuel count draft input with
  | case1 | case5 => cases refused
  | case2 | case7 =>
      cases refused
      trivial
  | case3 _ draft input _ unread =>
      cases refused
      exact (stated draft input).of_error unread
  | case4 _ _ input _ rest read _ commented =>
      cases refused
      exact (after_trims read).of_error commented
  | case6 _ _ input _ rest read after commented induction =>
      exact (induction refused).of_suffix
        ((List.suffix_cons '\n' after).trans ((after_trims read).of_ok commented))

end

theorem rebroken_unifyBreaks (text : List Char) : Rebroken text (unifyBreaks text) := by
  fun_induction unifyBreaks text with
  | case1 rest induction => exact .paired induction
  | case2 character rest others induction => exact .keep character induction
  | case3 => exact .nil

theorem grounds_of_read_error [Stack] {document : List Char} {fault : ParseFault}
    (refused : read document = .error fault) : Grounds 3 Stack.toml document fault :=
  (rebroken_unifyBreaks document).grounds (grounds_of_lines_error refused)

end Toml
end PayGraph
