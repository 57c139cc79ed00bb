import Mathlib.Data.List.TakeWhile
import PayGraph.Proofs.Outcomes
import PayGraph.Terminal.Markup

/-!
# Markup that can be shown

A text without opening brackets and backslashes is shown as it stands, escaped or not.  Such texts,
some of them in a style, make up messages that can always be shown: each tag that is opened is
closed right after its text, and the word for the style has a normal form.
-/

namespace PayGraph
namespace Terminal

namespace Style

theorem colour_ne_noComponent {word : List Char}
    (plain : argument? "rgb(" (lowerCase word) = none) : colour word ≠ .error .noComponent := by
  rw [colour]
  split
  · nofun
  · rw [plain]
    split
    · split <;> nofun
    · split <;> nofun
    · rename_i lacking _ _
      cases lacking
    · nofun

/-- A single word has a normal form unless it is a colour of three components. -/
theorem exists_normalize {word : List Char} (single : wordsOf word = [word])
    (plain : argument? "rgb(" (lowerCase (lowerCase word)) = none) :
    ∃ name, normalize word = .ok name := by
  have coloured := colour_ne_noComponent plain
  have defined : ofDefinition word ≠ .error .noComponent := by
    rw [ofDefinition]
    split
    · nofun
    · rw [single, ofWords]
      dsimp only
      -- Alone, `on`, `not` and `link` lack their word, and an attribute is a style; what is left is
      -- read as a colour.
      split
      · nofun
      · split
        · nofun
        · split
          · nofun
          · split
            · nofun
            · cases found : colour (lowerCase word) with
              | ok name => nofun
              | error fault =>
                  rintro ⟨⟩
                  exact coloured found
  rw [normalize]
  split
  · exact ⟨_, rfl⟩
  · exact ⟨_, rfl⟩
  · rename_i lacking
    exact absurd lacking defined

end Style

namespace Markup

/-- The text has no bracket that could open a tag and no backslash. -/
def IsBland (text : List Char) : Prop :=
  '[' ∉ text ∧ '\\' ∉ text

instance : DecidablePred IsBland :=
  fun _ => inferInstanceAs (Decidable (_ ∧ _))

theorem IsBland.append {text rest : List Char} (bland : IsBland text) (rest_bland : IsBland rest) :
    IsBland (text ++ rest) := by
  rw [IsBland, List.mem_append, List.mem_append, not_or, not_or]
  exact ⟨⟨bland.1, rest_bland.1⟩, bland.2, rest_bland.2⟩

/-- A lower-case word that names a style, and no colour by its components. -/
structure IsStyle (word : List Char) : Prop where
  nonempty : word ≠ []
  letters : word.all Char.isLower = true
  trimmed : trim word = word
  single : wordsOf word = [word]
  plain : Style.argument? "rgb(" (lowerCase (lowerCase word)) = none

theorem tag?_eq_none {character : Char} (no_bracket : character ≠ '[')
    (no_backslash : character ≠ '\\') (rest : List Char) : tag? (character :: rest) = none := by
  have kept : (character :: rest).dropWhile (· = '\\') = character :: rest := by
    rw [List.dropWhile_cons_of_neg (by simpa using no_backslash)]
  simp only [tag?, kept]
  split
  · next same => exact absurd (List.cons.inj same).1 no_bracket
  · rfl

theorem pieces_nil (reversed : List Char) : pieces reversed [] = [.plain reversed.reverse] := by
  rw [pieces]
  rfl

theorem pieces_append {text : List Char} (bland : IsBland text) (reversed rest : List Char) :
    pieces reversed (text ++ rest) = pieces (text.reverse ++ reversed) rest := by
  induction text generalizing reversed with
  | nil => rfl
  | cons character text induction =>
      obtain ⟨no_bracket, no_backslash⟩ := bland
      rw [List.mem_cons, not_or] at no_bracket no_backslash
      have untagged := tag?_eq_none (Ne.symm no_bracket.1) (Ne.symm no_backslash.1) (text ++ rest)
      have step : pieces reversed (character :: (text ++ rest)) =
          pieces (character :: reversed) (text ++ rest) := by
        rw [pieces]
        split
        · rename_i tagged
          rw [untagged] at tagged
          cases tagged
        · rfl
      rw [List.cons_append, step, induction ⟨no_bracket.2, no_backslash.2⟩, List.reverse_cons,
        List.append_assoc, List.singleton_append]

theorem pieces_tag {first : Char} {inner : List Char} (opens : opensTag first = true)
    (no_end : ']' ∉ inner) (no_start : '[' ∉ inner) (reversed rest : List Char) :
    pieces reversed ('[' :: first :: (inner ++ ']' :: rest)) =
      .plain reversed.reverse :: .tag 0 (first :: inner) :: pieces [] rest := by
  have inside : ∀ character ∈ inner, (character ≠ ']' && character ≠ '[') = true := by
    intro character character_mem
    rw [Bool.and_eq_true, decide_eq_true_eq, decide_eq_true_eq]
    exact ⟨fun same => no_end (same ▸ character_mem), fun same => no_start (same ▸ character_mem)⟩
  have found : content? (first :: (inner ++ ']' :: rest)) = some (first :: inner, rest) := by
    rw [content?, if_pos opens, List.dropWhile_append_of_pos inside,
      List.takeWhile_append_of_pos inside, List.dropWhile_cons_of_neg (by decide),
      List.takeWhile_cons_of_neg (by decide), List.append_nil]
    rfl
  have tagged : tag? ('[' :: first :: (inner ++ ']' :: rest)) =
      some (.tag 0 (first :: inner), rest) := by
    rw [tag?, List.dropWhile_cons_of_neg (by decide), List.takeWhile_cons_of_neg (by decide)]
    simp only [found]
    rfl
  rw [pieces]
  split
  · rename_i held
    rw [tagged] at held
    cases held
    rfl
  · rename_i untagged
    rw [tagged] at untagged
    cases untagged

/-- Pieces that can be shown: every tag that is closed has been opened, and every style is one. -/
def Presentable (found : List Piece) : Prop :=
  (∃ text, renderPieces [] found = .ok text) ∧
    ∀ definition ∈ found.filterMap definition?, ∃ name, normalize definition = .ok name

theorem presentable_plain {found : List Piece} (rest : Presentable found)
    (characters : List Char) : Presentable (.plain characters :: found) := by
  obtain ⟨⟨text, rendered⟩, normal⟩ := rest
  exact ⟨⟨shown characters ++ text, by rw [renderPieces, rendered]; rfl⟩, normal⟩

section

variable {word : List Char} (style : IsStyle word)

include style

theorem IsStyle.exists_normalize : ∃ name, normalize word = .ok name := by
  obtain ⟨name, normal⟩ := Style.exists_normalize style.single style.plain
  exact ⟨name, by rw [normalize, normal]; rfl⟩

theorem IsStyle.ne_of_mem {letter other : Char} (letter_mem : letter ∈ word)
    (not_letter : other.isLower = false) : letter ≠ other := by
  rintro rfl
  rw [List.all_eq_true.mp style.letters letter letter_mem] at not_letter
  cases not_letter

theorem IsStyle.nameOf_eq : nameOf word = word := by
  rw [nameOf, List.takeWhile_eq_self_iff]
  intro letter letter_mem
  exact decide_eq_true (style.ne_of_mem letter_mem (by decide))

theorem IsStyle.argumentOf?_eq : argumentOf? word = none := by
  have whole : word.dropWhile (· ≠ '=') = [] := by
    rw [List.dropWhile_eq_nil_iff]
    intro letter letter_mem
    exact decide_eq_true (style.ne_of_mem letter_mem (by decide))
  rw [argumentOf?, whole]

theorem IsStyle.head?_ne_slash : word.head? ≠ some '/' := by
  intro slashed
  exact style.ne_of_mem (List.mem_of_mem_head? slashed) (by decide : '/'.isLower = false) rfl

/-- Text in a style: the tag is closed right after it. -/
theorem presentable_span {found : List Piece} (rest : Presentable found) (text : List Char) :
    Presentable (.tag 0 word :: .plain text :: .tag 0 ('/' :: word) :: found) := by
  obtain ⟨⟨remaining, rendered⟩, normal⟩ := rest
  obtain ⟨name, name_eq⟩ := style.exists_normalize
  have opened : openTag word = .ok ⟨name, none⟩ := by
    rw [openTag, style.nameOf_eq, style.argumentOf?_eq, name_eq]
    rfl
  have named : trim (nameOf ('/' :: word)).tail = word := by
    have slashed : nameOf ('/' :: word) = '/' :: nameOf word :=
      List.takeWhile_cons_of_pos (by decide)
    rw [slashed, List.tail_cons, style.nameOf_eq, style.trimmed]
  have closed : closeTag [⟨name, none⟩] ('/' :: word) = .ok [] := by
    have ended : endTag ⟨name, none⟩ = .ok () := by
      cases name <;> simp [endTag]
    have nonempty : word.isEmpty = false := by
      rw [List.isEmpty_eq_false_iff]
      exact style.nonempty
    rw [closeTag, named, nonempty, name_eq]
    simp [ended, Except.map, bind, Except.bind, pure, Except.pure]
  constructor
  · have unslashed : (word.head? = some '/') = False := eq_false style.head?_ne_slash
    refine ⟨shown text ++ remaining, ?_⟩
    simp [renderPieces, unslashed, opened, closed, rendered, Except.map, bind, Except.bind]
  · have defines : definition? (.tag 0 word) = some word := by
      rw [definition?, if_neg (by simp [style.head?_ne_slash]), style.nameOf_eq,
        style.argumentOf?_eq]
      simp
    have closes : definition? (.tag 0 ('/' :: word)) = none := by
      rw [definition?, List.head?_cons, if_pos (Or.inr rfl)]
    intro definition definition_mem
    rw [List.filterMap_cons_some defines, List.filterMap_cons_none (by rfl),
      List.filterMap_cons_none closes, List.mem_cons] at definition_mem
    rcases definition_mem with rfl | later
    · exact ⟨name, name_eq⟩
    · exact normal definition later

end

/-- Bland text, parts of which may stand in a style. -/
inductive IsStyled : List Char → Prop
  | nil : IsStyled []
  | bland {text rest : List Char} : IsBland text → IsStyled rest → IsStyled (text ++ rest)
  | span {word text rest : List Char} : IsStyle word → IsBland text → IsStyled rest →
      IsStyled ('[' :: (word ++ ']' :: (text ++ '[' :: '/' :: (word ++ ']' :: rest))))

theorem IsStyled.presentable {markup : List Char} (styled : IsStyled markup)
    (reversed : List Char) : Presentable (pieces reversed markup) := by
  induction styled generalizing reversed with
  | nil =>
      have empty : Presentable [] := ⟨⟨[], rfl⟩, nofun⟩
      rw [pieces_nil]
      exact presentable_plain empty _
  | bland bland _ induction =>
      rw [pieces_append bland]
      exact induction _
  | @span word text rest style bland _ induction =>
      obtain ⟨first, inner, rfl⟩ := List.exists_cons_of_ne_nil style.nonempty
      have absent {mark : Char} (not_letter : mark.isLower = false) : mark ∉ first :: inner :=
        fun present => style.ne_of_mem present not_letter rfl
      have no_end : ']' ∉ first :: inner := absent (by decide)
      have no_start : '[' ∉ first :: inner := absent (by decide)
      have opens : opensTag first = true := by
        rw [opensTag, List.all_eq_true.mp style.letters first List.mem_cons_self]
        rfl
      rw [List.cons_append, pieces_tag opens (List.not_mem_of_not_mem_cons no_end)
        (List.not_mem_of_not_mem_cons no_start), pieces_append bland, List.append_nil,
        pieces_tag (by decide) no_end no_start, List.reverse_reverse]
      exact presentable_plain (presentable_span style (induction []) text) _

/-- Styled text can be shown. -/
theorem IsStyled.exists_render {markup : String} (styled : IsStyled markup.toList) :
    ∃ text, render markup = .ok text := by
  obtain ⟨⟨characters, rendered⟩, normal⟩ := styled.presentable []
  have shown_eq : ∃ characters, showPieces (pieces [] markup.toList) = .ok characters := by
    obtain ⟨names, names_eq⟩ := Except.exists_mapM_eq_ok normal
    exact ⟨characters, by rw [showPieces, rendered]; simp only [bind, Except.bind, names_eq]; rfl⟩
  rw [render]
  split
  · obtain ⟨characters, characters_eq⟩ := shown_eq
    exact ⟨_, by rw [characters_eq]; rfl⟩
  · exact ⟨_, rfl⟩

theorem IsBland.styled {text : List Char} (bland : IsBland text) : IsStyled text := by
  have styled := IsStyled.bland bland .nil
  rwa [List.append_nil] at styled

/-- Bland text needs no escape. -/
theorem escape_eq_self {content : String} (bland : IsBland content.toList) :
    escape content = content := by
  have single : pieces [] content.toList = [.plain content.toList] := by
    have appended := pieces_append bland [] []
    rwa [List.append_nil, List.append_nil, pieces_nil, List.reverse_reverse] at appended
  have unended : content.toList.reverse.head? ≠ some '\\' := by
    intro ended
    exact bland.2 (List.mem_reverse.mp (List.mem_of_mem_head? ended))
  rw [escape, single]
  simp only [List.flatMap_cons, List.flatMap_nil, List.append_nil, unended, false_and, if_false,
    String.ofList_toList]

/-- Words for the styles of messages. -/
def styleWords : List String :=
  ["bold", "cyan", "dim", "green", "red", "yellow"]

theorem isStyle_of_mem {word : String} (listed : word ∈ styleWords) : IsStyle word.toList := by
  simp only [styleWords, List.mem_cons, List.not_mem_nil, or_false] at listed
  rcases listed with rfl | rfl | rfl | rfl | rfl | rfl
  all_goals exact ⟨by decide, by decide, by decide, by decide, by decide⟩

theorem IsStyled.of_bland (text : String) {rest : List Char} (bland : IsBland text.toList)
    (styled : IsStyled rest) : IsStyled (text.toList ++ rest) :=
  .bland bland styled

/-- Bland text in a style of messages. -/
theorem IsStyled.of_span (word text : String) {rest : List Char} (listed : word ∈ styleWords)
    (bland : IsBland text.toList) (styled : IsStyled rest) :
    IsStyled ('[' :: (word.toList ++
      ']' :: (text.toList ++ '[' :: '/' :: (word.toList ++ ']' :: rest)))) :=
  .span (isStyle_of_mem listed) bland styled

end Markup
end Terminal
end PayGraph
