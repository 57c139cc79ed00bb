import PayGraph.Terminal.Layout
import PayGraph.Terminal.Markup

/-!
# A single word on a terminal

A word of ordinary characters that starts no markup is shown as it is.  It stands on one line as far
as it fits; a longer word is cut at every multiple of the width, and the lines together still hold
just its characters.
-/

namespace PayGraph
namespace Terminal

/-- A printable character of one cell that is no blank, as letters, digits and signs are. -/
def IsGlyph (character : Char) : Prop :=
  0x21 ≤ character.toNat ∧ character.toNat ≤ 0x7E

instance (character : Char) : Decidable (IsGlyph character) :=
  inferInstanceAs (Decidable (_ ∧ _))

theorem not_isGlyph_joiner : ¬IsGlyph joiner := by
  decide

theorem not_isGlyph_selector : ¬IsGlyph selector := by
  decide

section Glyph

variable {character : Char} (glyph : IsGlyph character)

include glyph

theorem IsGlyph.ne_of_not {other : Char} (blank : ¬IsGlyph other) : character ≠ other := by
  rintro rfl
  exact blank glyph

theorem IsGlyph.cells_eq : cells character = 1 := by
  obtain ⟨lower, upper⟩ := glyph
  have ordinary : 0x20 ≤ character.toNat ∧ character.toNat < 0x7F := by omega
  rw [cells, if_pos ordinary]

theorem IsGlyph.not_separates : separates character = false := by
  obtain ⟨lower, upper⟩ := glyph
  simp only [separates, isSpace, Bool.or_eq_false_iff, Bool.and_eq_false_iff,
    decide_eq_false_iff_not]
  omega

theorem IsGlyph.not_isDropped : Markup.isDropped character = false := by
  obtain ⟨lower, upper⟩ := glyph
  simp only [Markup.isDropped, Bool.or_eq_false_iff, decide_eq_false_iff_not]
  omega

end Glyph

theorem Emoji.replace_eq_self {characters : List Char} (unnamed : ':' ∉ characters) :
    replace characters = characters := by
  induction characters with
  | nil => rw [replace]
  | cons character rest induction =>
      rw [List.mem_cons, not_or] at unnamed
      rw [replace, if_neg (Ne.symm unnamed.1), induction unnamed.2]

/-- A word that neither opens a tag nor names an emoji is shown as it is. -/
theorem Markup.render_of_glyphs {markup : String}
    (glyphs : ∀ character ∈ markup.toList, IsGlyph character) (unmarked : '[' ∉ markup.toList)
    (unnamed : ':' ∉ markup.toList) : render markup = .ok markup := by
  have untagged : markup.toList.contains '[' = false := by simpa using unmarked
  have undropped : markup.toList.filter (fun one => !isDropped one) = markup.toList := by
    rw [List.filter_eq_self]
    intro character member
    rw [(glyphs character member).not_isDropped, Bool.not_false]
  rw [render]
  simp only [untagged, Bool.false_eq_true, if_false, Emoji.replace_eq_self unnamed]
  rw [Except.map, undropped, String.ofList_toList]

/-- The lines hold the text in order, each but the last being as wide as it may be. -/
inductive Folds (limit : Nat) : List Char → List (List Char) → Prop
  | last {text : List Char} : text.length ≤ limit → Folds limit text [text]
  | line {line rest : List Char} {lines : List (List Char)} :
      line.length = limit → rest ≠ [] → Folds limit rest lines →
        Folds limit (line ++ rest) (line :: lines)

namespace Folds

variable {limit : Nat} {text : List Char} {lines : List (List Char)}

theorem flatten_eq (folds : Folds limit text lines) : lines.flatten = text := by
  induction folds with
  | last => simp
  | line _ _ _ induction => rw [List.flatten_cons, induction]

theorem length_le (folds : Folds limit text lines) : ∀ line ∈ lines, line.length ≤ limit := by
  induction folds with
  | last short => simpa using short
  | line full _ _ induction => exact List.forall_mem_cons.mpr ⟨Nat.le_of_eq full, induction⟩

theorem ne_nil (folds : Folds limit text lines) : lines ≠ [] := by
  cases folds <;> exact List.cons_ne_nil _ _

/-- A text that fits on a line has no other, and a text that does not has several. -/
theorem length_lines (folds : Folds limit text lines) :
    if text.length ≤ limit then lines = [text] else 2 ≤ lines.length := by
  cases folds with
  | last short => rw [if_pos short]
  | @line line rest lines full more folded =>
      have long : ¬(line ++ rest).length ≤ limit := by
        have rest_pos := List.length_pos_iff.mpr more
        rw [List.length_append]
        omega
      have others_pos := List.length_pos_iff.mpr folded.ne_nil
      rw [if_neg long, List.length_cons]
      omega

end Folds

section Glyphs

variable {text : List Char} {limit : Nat}

theorem widthAfter_of_glyphs (glyphs : ∀ character ∈ text, IsGlyph character)
    (last? : Option Char) :
    widthAfter last? text = text.length := by
  induction text generalizing last? with
  | nil => rfl
  | cons character rest induction =>
      obtain ⟨glyph, rest_glyphs⟩ := List.forall_mem_cons.mp glyphs
      rw [widthAfter.eq_def]
      simp only [glyph.ne_of_not not_isGlyph_joiner, glyph.ne_of_not not_isGlyph_selector,
        glyph.cells_eq, Nat.one_ne_zero, if_false]
      rw [induction rest_glyphs, List.length_cons, Nat.add_comm]

theorem width_of_glyphs (glyphs : ∀ character ∈ text, IsGlyph character) :
    width text = text.length :=
  widthAfter_of_glyphs glyphs none

/-- A character by itself. -/
def Cluster.single (character : Char) : Cluster :=
  ⟨[character], 1⟩

theorem split_of_glyphs (glyphs : ∀ character ∈ text, IsGlyph character) (cluster : Cluster)
    (last? : Option Char) :
    Cluster.split (some cluster) last? text = cluster :: text.map Cluster.single := by
  induction text generalizing cluster last? with
  | nil => rfl
  | cons character rest induction =>
      obtain ⟨glyph, rest_glyphs⟩ := List.forall_mem_cons.mp glyphs
      rw [Cluster.split.eq_def]
      simp only [glyph.ne_of_not not_isGlyph_joiner, glyph.ne_of_not not_isGlyph_selector,
        glyph.cells_eq, Nat.one_ne_zero, if_false]
      rw [induction rest_glyphs, List.map_cons, Cluster.single]

theorem clusters_of_glyphs (glyphs : ∀ character ∈ text, IsGlyph character) :
    clusters text = text.map Cluster.single := by
  cases text with
  | nil => rfl
  | cons character rest =>
      obtain ⟨glyph, rest_glyphs⟩ := List.forall_mem_cons.mp glyphs
      rw [clusters, Cluster.split]
      simp only [glyph.ne_of_not not_isGlyph_joiner, glyph.ne_of_not not_isGlyph_selector,
        glyph.cells_eq, Nat.one_ne_zero, decide_false, Bool.or_self, Bool.false_eq_true, if_false]
      rw [split_of_glyphs rest_glyphs, List.map_cons, Cluster.single]

theorem folds_chop (limit_pos : 0 < limit) (line : List Char) (fits : line.length ≤ limit) :
    Folds limit (line ++ text) (chop limit line line.length (text.map Cluster.single)) := by
  induction text generalizing line with
  | nil =>
      rw [List.append_nil]
      exact .last fits
  | cons character rest induction =>
      rw [List.map_cons, chop]
      split
      · rename_i full
        refine .line (Nat.le_antisymm fits (Nat.le_of_lt_succ full)) (List.cons_ne_nil _ _) ?_
        exact induction [character] limit_pos
      · rename_i room
        have longer := induction (line ++ [character]) (by
          rw [List.length_append]
          exact Nat.not_lt.mp room)
        rwa [List.append_assoc, List.length_append] at longer

theorem splitWhere_of_undivided {divides : Char → Bool}
    (undivided : ∀ character ∈ text, divides character = false) :
    splitWhere divides text = [text] := by
  induction text with
  | nil => rfl
  | cons character rest induction =>
      obtain ⟨whole, rest_whole⟩ := List.forall_mem_cons.mp undivided
      rw [splitWhere, whole, induction rest_whole]
      rfl

theorem all_separates_of_glyphs (glyphs : ∀ character ∈ text, IsGlyph character)
    (nonempty : text ≠ []) : text.all separates = false := by
  obtain ⟨character, rest, rfl⟩ := List.exists_cons_of_ne_nil nonempty
  rw [List.all_cons, (glyphs character List.mem_cons_self).not_separates, Bool.false_and]

theorem words_of_glyphs {reversed : List Char} (glyphs : ∀ character ∈ text, IsGlyph character)
    (reversed_glyphs : ∀ character ∈ reversed, IsGlyph character)
    (nonempty : reversed ++ text ≠ []) :
    words reversed text = [reversed.reverse ++ text] := by
  induction text generalizing reversed with
  | nil =>
      rw [List.append_nil] at nonempty ⊢
      rw [words, if_neg]
      simp [all_separates_of_glyphs reversed_glyphs nonempty]
  | cons character rest induction =>
      obtain ⟨glyph, rest_glyphs⟩ := List.forall_mem_cons.mp glyphs
      have parted : (reversed.head?.map separates).getD false = false := by
        cases reversed with
        | nil => rfl
        | cons newest others => exact (reversed_glyphs newest List.mem_cons_self).not_separates
      rw [words]
      simp only [parted, Bool.and_false, Bool.false_and, Bool.false_eq_true, if_false]
      rw [induction rest_glyphs (List.forall_mem_cons.mpr ⟨glyph, reversed_glyphs⟩)
        (List.append_ne_nil_of_left_ne_nil (List.cons_ne_nil _ _) _), List.reverse_cons,
        List.append_assoc]
      rfl

theorem trimEnd_of_glyphs (glyphs : ∀ character ∈ text, IsGlyph character) :
    trimEnd text = text := by
  rw [trimEnd]
  cases reverse_eq : text.reverse with
  | nil => rw [List.reverse_eq_nil_iff.mp reverse_eq]; rfl
  | cons newest others =>
      have glyph : IsGlyph newest := glyphs newest (by
        rw [← List.mem_reverse, reverse_eq]
        exact List.mem_cons_self)
      rw [List.dropWhile_cons_of_neg (by simp [glyph.not_separates]), ← reverse_eq,
        List.reverse_reverse]

theorem crop_trimExcess_of_glyphs (glyphs : ∀ character ∈ text, IsGlyph character)
    (fits : text.length ≤ limit) (overflow : Overflow) :
    crop overflow limit (trimExcess limit text) = text := by
  have trimmed : trimExcess limit text = text := by
    rw [trimExcess, trimEnd_of_glyphs glyphs]
    simp
  rw [trimmed, crop, width_of_glyphs glyphs, if_neg]
  omega

theorem expandTabs_of_glyphs (glyphs : ∀ character ∈ text, IsGlyph character) :
    expandTabs text = text := by
  have tabless : ∀ character ∈ text, decide (character = '\t') = false := fun character member =>
    decide_eq_false ((glyphs character member).ne_of_not (by decide))
  rw [expandTabs, splitWhere_of_undivided tabless, fillTabs]

/-- A word of ordinary characters is folded over lines. -/
theorem folds_fill (limit_pos : 0 < limit) (glyphs : ∀ character ∈ text, IsGlyph character) :
    Folds limit text (fill .fold limit [] 0 [text]) := by
  rw [fill, trimEnd_of_glyphs glyphs, width_of_glyphs glyphs]
  split
  · rename_i fits
    rw [fill, List.nil_append]
    exact .last (by omega)
  · rename_i long
    have folds : Folds limit text (chop limit [] 0 (clusters text)) := by
      rw [clusters_of_glyphs glyphs]
      exact folds_chop limit_pos [] (Nat.zero_le limit)
    rw [if_pos (by omega)]
    dsimp only
    rw [fill, List.isEmpty_nil, if_pos rfl, List.nil_append, List.getLastD_eq_getLast?,
      List.getLast?_eq_some_getLast folds.ne_nil, Option.getD_some,
      List.dropLast_concat_getLast folds.ne_nil]
    exact folds

/-- A word of ordinary characters is folded at the width of the terminal. -/
theorem folds_layout (limit_pos : 0 < limit) (glyphs : ∀ character ∈ text, IsGlyph character)
    (nonempty : text ≠ []) : Folds limit text (layout .fold limit text) := by
  have unbroken : ∀ character ∈ text, decide (character = '\n') = false := fun character member =>
    decide_eq_false ((glyphs character member).ne_of_not (by decide))
  have folds := folds_fill limit_pos glyphs
  have kept : ∀ line ∈ fill .fold limit [] 0 [text],
      crop .fold limit (trimExcess limit line) = line := by
    intro line member
    refine crop_trimExcess_of_glyphs (fun character within => glyphs character ?_)
      (folds.length_le line member) .fold
    rw [← folds.flatten_eq]
    exact List.mem_flatten_of_mem member within
  have undivided : words [] text = [text] :=
    words_of_glyphs glyphs (List.forall_mem_nil _) nonempty
  rw [layout, splitLines, splitWhere_of_undivided unbroken, List.flatMap_singleton,
    expandTabs_of_glyphs glyphs]
  simp only [undivided]
  rwa [List.map_congr_left kept, List.map_id']

end Glyphs
end Terminal
end PayGraph
