import Mathlib
import PayGraph.Proofs.Number.Alike

/-!
# Comparing numbers

A condition compares the exact values of two numbers, whichever kinds hold them.  So the conditions
are the relations of one total order, and a whole number beyond the reach of double precision keeps
its place in it.  Not-a-number has no exact value and stands in no relation.
-/

namespace PayGraph

namespace Extent

theorem less_iff {left right : Extent} :
    left.less right = true ↔ left.toExact < right.toExact := by
  have unit_pos : (0 : ℚ) < Binary64.unitsPerOne := Nat.cast_pos.mpr Binary64.unitsPerOne_pos
  cases left with
  | below =>
      cases right with
      | below => exact iff_of_false Bool.false_ne_true (lt_irrefl _)
      | «at» units => exact iff_of_true rfl (bot_lt_iff_ne_bot.mpr (WithBotTop.coe_ne_bot _))
      | above => exact iff_of_true rfl bot_lt_top
  | «at» units =>
      cases right with
      | below => exact iff_of_false Bool.false_ne_true not_lt_bot
      | «at» other =>
          rw [less, decide_eq_true_iff, toExact, toExact, WithBotTop.coe_lt_coe,
            div_lt_div_iff_of_pos_right unit_pos, Int.cast_lt]
      | above => exact iff_of_true rfl (lt_top_iff_ne_top.mpr (WithBotTop.coe_ne_top _))
  | above => cases right <;> exact iff_of_false Bool.false_ne_true not_top_lt

end Extent

namespace Number

/-- A number other than not-a-number. -/
def IsOrdered (number : Number) : Prop :=
  number ≠ .real .nan

variable {number left right : Number}

theorem rational?_eq_none_iff : number.rational? = none ↔ number = .real .nan := by
  constructor
  · intro valueless
    cases number with
    | boolean | integer => cases valueless
    | real value =>
        cases value with
        | nan => rfl
        | infinite | finite => cases valueless
  · rintro rfl
    rfl

theorem IsOrdered.exists_exact (ordered : number.IsOrdered) :
    ∃ exact, number.rational? = some exact := by
  rw [← Option.isSome_iff_exists, Option.isSome_iff_ne_none, ne_eq, rational?_eq_none_iff]
  exact ordered

/-- Two numbers are related if their exact values are. -/
theorem relate_iff {relation : Extent → Extent → Bool}
    {exactRelation : WithBotTop ℚ → WithBotTop ℚ → Prop}
    (exactly : ∀ left right, relation left right = true ↔
      exactRelation left.toExact right.toExact) :
    relate relation left right = true ↔ ∃ leftExact rightExact,
      left.rational? = some leftExact ∧ right.rational? = some rightExact ∧
        exactRelation leftExact rightExact := by
  rw [rational?_eq, rational?_eq, relate]
  cases left.extent? with
  | none => simp
  | some leftExtent =>
      cases right.extent? with
      | none => simp
      | some rightExtent => simp [exactly]

theorem relate_congr (same : left.extent? = right.extent?) (relation : Extent → Extent → Bool)
    (other : Number) :
    relate relation left other = relate relation right other ∧
      relate relation other left = relate relation other right := by
  simp only [relate, same, and_self]

theorem extent?_eq_of_equal (same : left.equal right = true) : left.extent? = right.extent? := by
  rw [equal, relate] at same
  split at same
  · rename_i leftExtent rightExtent left_extent right_extent
    rw [left_extent, right_extent, of_decide_eq_true same]
  · cases same

end Number

namespace Operator

variable {node : String} {condition : Operator} {left right : Number}

/-- The relation of exact values that a condition asks for. -/
def Relates : Operator → WithBotTop ℚ → WithBotTop ℚ → Prop
  | .greaterThan, left, right => right < left
  | .lessThan, left, right => left < right
  | .equal, left, right => left = right
  | .greaterEqual, left, right => right ≤ left
  | .lessEqual, left, right => left ≤ right
  | _, _, _ => False

/-- Two numbers meet a condition. -/
def Meets (node : String) (condition : Operator) (left right : Number) : Prop :=
  condition.compare node left right = .ok true

theorem meets_relation {relation : Number → Number → Bool}
    (relation_eq : condition.relation? = some relation) :
    Meets node condition left right ↔ relation left right = true := by
  rw [Meets, compare, relation_eq, Except.ok.injEq]

/-- Two numbers meet a condition if and only if they have exact values that do. -/
theorem meets_iff : Meets node condition left right ↔ ∃ leftExact rightExact,
    left.rational? = some leftExact ∧ right.rational? = some rightExact ∧
      condition.Relates leftExact rightExact := by
  have equal_iff (leftExtent rightExtent : Extent) :
      decide (leftExtent = rightExtent) = true ↔ leftExtent.toExact = rightExtent.toExact := by
    rw [decide_eq_true_iff, Extent.toExact_injective.eq_iff]
  have atMost_iff (leftExtent rightExtent : Extent) :
      (leftExtent.less rightExtent || decide (leftExtent = rightExtent)) = true ↔
        leftExtent.toExact ≤ rightExtent.toExact := by
    rw [Bool.or_eq_true, Extent.less_iff, equal_iff, le_iff_lt_or_eq]
  -- a condition that holds the other way round is met by the exchanged numbers
  have exchanged {holds : WithBotTop ℚ → WithBotTop ℚ → Prop} :
      (∃ rightExact leftExact, right.rational? = some rightExact ∧
        left.rational? = some leftExact ∧ holds rightExact leftExact) ↔
      ∃ leftExact rightExact, left.rational? = some leftExact ∧
        right.rational? = some rightExact ∧ holds rightExact leftExact := by
    rw [exists_comm]
    simp only [and_left_comm]
  cases condition with
  | sum | subtraction | multiplication | division | percentage =>
      simp [Meets, compare, relation?, Relates]
  | lessThan => exact (meets_relation rfl).trans (Number.relate_iff fun _ _ => Extent.less_iff)
  | equal => exact (meets_relation rfl).trans (Number.relate_iff equal_iff)
  | lessEqual => exact (meets_relation rfl).trans (Number.relate_iff atMost_iff)
  | greaterThan =>
      have mirrored : Meets node .greaterThan left right ↔ Meets node .lessThan right left :=
        Iff.rfl
      rw [mirrored, meets_relation rfl, Number.less, Number.relate_iff fun _ _ => Extent.less_iff]
      exact exchanged
  | greaterEqual =>
      have mirrored : Meets node .greaterEqual left right ↔ Meets node .lessEqual right left :=
        Iff.rfl
      rw [mirrored, meets_relation rfl, Number.atMost, Number.relate_iff atMost_iff]
      exact exchanged

theorem meets_iff_relates {leftExact rightExact : WithBotTop ℚ}
    (left_exact : left.rational? = some leftExact)
    (right_exact : right.rational? = some rightExact) :
    Meets node condition left right ↔ condition.Relates leftExact rightExact := by
  simp [meets_iff, left_exact, right_exact]

theorem meets_trans {middle : Number} (transitive : ∀ left middle right,
      condition.Relates left middle → condition.Relates middle right → condition.Relates left right)
    (first : Meets node condition left middle) (second : Meets node condition middle right) :
    Meets node condition left right := by
  obtain ⟨leftExact, middleExact, left_exact, middle_exact, first_related⟩ := meets_iff.mp first
  obtain ⟨_, rightExact, same_exact, right_exact, second_related⟩ := meets_iff.mp second
  rw [middle_exact] at same_exact
  cases same_exact
  exact meets_iff.mpr ⟨leftExact, rightExact, left_exact, right_exact,
    transitive _ _ _ first_related second_related⟩

/-- Of two ordered numbers one is the greater, or they are equal, and only one of these holds. -/
theorem existsUnique_meets (node : String) (left_ordered : left.IsOrdered)
    (right_ordered : right.IsOrdered) :
    ∃! condition, condition ∈ [greaterThan, lessThan, equal] ∧ Meets node condition left right := by
  obtain ⟨leftExact, left_exact⟩ := left_ordered.exists_exact
  obtain ⟨rightExact, right_exact⟩ := right_ordered.exists_exact
  simp only [meets_iff_relates left_exact right_exact]
  have only {met : Operator} (listed : met ∈ [greaterThan, lessThan, equal])
      (related : met.Relates leftExact rightExact)
      (others : ∀ other ∈ [greaterThan, lessThan, equal], other ≠ met →
        ¬other.Relates leftExact rightExact) :
      ∃! condition, condition ∈ [greaterThan, lessThan, equal] ∧
        condition.Relates leftExact rightExact :=
    ⟨met, ⟨listed, related⟩, fun other ⟨other_listed, other_related⟩ =>
      not_imp_not.mp (others other other_listed) other_related⟩
  rcases lt_trichotomy leftExact rightExact with less | same | greater
  · refine only (by decide : lessThan ∈ _) less ?_
    simp [Relates, less.not_gt, less.ne]
  · refine only (by decide : Operator.equal ∈ _) same ?_
    simp [Relates, same]
  · refine only (by decide : greaterThan ∈ _) greater ?_
    simp [Relates, greater.not_gt, greater.ne']

theorem exists_answer (relational : condition.isRelational = true) (node : String)
    (left right : Number) : ∃ answer, condition.compare node left right = .ok answer := by
  cases condition with
  | sum | subtraction | multiplication | division | percentage => cases relational
  | greaterThan | lessThan | equal | greaterEqual | lessEqual => exact ⟨_, rfl⟩

theorem compare_eq_false (relational : condition.isRelational = true)
    (unmet : ¬Meets node condition left right) : condition.compare node left right = .ok false := by
  obtain ⟨answer, answered⟩ := exists_answer relational node left right
  cases answer with
  | false => exact answered
  | true => exact absurd answered unmet

theorem compare_congr {node : String} {left right : Number} (same : left.extent? = right.extent?)
    (condition : Operator) (other : Number) :
    condition.compare node left other = condition.compare node right other ∧
      condition.compare node other left = condition.compare node other right := by
  have related_alike (relation : Extent → Extent → Bool) := Number.relate_congr same relation other
  cases condition with
  | sum | subtraction | multiplication | division | percentage => exact ⟨rfl, rfl⟩
  | lessThan | equal | lessEqual =>
      exact ⟨congrArg Except.ok (related_alike _).1, congrArg Except.ok (related_alike _).2⟩
  | greaterThan | greaterEqual =>
      exact ⟨congrArg Except.ok (related_alike _).2, congrArg Except.ok (related_alike _).1⟩

/-- The laws of the conditions of a node: they are the relations of one total order on the numbers
other than not-a-number, the order of their exact values. -/
structure Coherent (node : String) : Prop where
  /-- A condition is met exactly by numbers whose exact values stand in its relation. -/
  exactly : ∀ {condition : Operator} {left right : Number} {leftExact rightExact : WithBotTop ℚ},
    left.rational? = some leftExact → right.rational? = some rightExact →
      (Meets node condition left right ↔ condition.Relates leftExact rightExact)
  trichotomy : ∀ {left right : Number}, left.IsOrdered → right.IsOrdered →
    ∃! condition, condition ∈ [greaterThan, lessThan, equal] ∧ Meets node condition left right
  greaterEqual_iff : ∀ {left right : Number}, Meets node .greaterEqual left right ↔
    Meets node .greaterThan left right ∨ Meets node .equal left right
  lessEqual_iff : ∀ {left right : Number}, Meets node .lessEqual left right ↔
    Meets node .lessThan left right ∨ Meets node .equal left right
  greaterThan_iff : ∀ {left right : Number},
    Meets node .greaterThan left right ↔ Meets node .lessThan right left
  lessThan_trans : ∀ {left middle right : Number}, Meets node .lessThan left middle →
    Meets node .lessThan middle right → Meets node .lessThan left right
  equal_trans : ∀ {left middle right : Number}, Meets node .equal left middle →
    Meets node .equal middle right → Meets node .equal left right
  /-- Equal numbers may take each other's place on either side of every condition. -/
  interchange : ∀ {left right : Number}, Meets node .equal left right →
    ∀ (condition : Operator) (other : Number),
      condition.compare node left other = condition.compare node right other ∧
        condition.compare node other left = condition.compare node other right
  nan_unrelated : ∀ {condition : Operator}, condition.isRelational = true → ∀ other,
    condition.compare node (.real .nan) other = .ok false ∧
      condition.compare node other (.real .nan) = .ok false
  answered : ∀ {condition : Operator}, condition.isRelational = true → ∀ left right,
    ∃ answer, condition.compare node left right = .ok answer
  /-- An arithmetic operator is no condition, and it has no symbol either. -/
  arithmetic_refused : ∀ {condition : Operator}, condition.isRelational = false → ∀ left right,
    condition.compare node left right = .error (.unsupported node condition.word) ∧
      condition.symbol node = .error (.unsupported node condition.word)

/-- The conditions of every node are coherent. -/
theorem compare_coherent (node : String) : Coherent node where
  exactly := meets_iff_relates
  trichotomy := existsUnique_meets node
  greaterEqual_iff := by
    intro left right
    simp only [meets_iff, Relates, le_iff_lt_or_eq, and_or_left, exists_or, eq_comm]
  lessEqual_iff := by
    intro left right
    simp only [meets_iff, Relates, le_iff_lt_or_eq, and_or_left, exists_or]
  greaterThan_iff := Iff.rfl
  lessThan_trans := meets_trans fun _ _ _ => lt_trans
  equal_trans := meets_trans fun _ _ _ => Eq.trans
  interchange := fun same =>
    compare_congr (Number.extent?_eq_of_equal ((meets_relation rfl).mp same))
  nan_unrelated := by
    intro condition relational other
    constructor
    · refine compare_eq_false relational fun met => ?_
      obtain ⟨_, _, valued, -, -⟩ := meets_iff.mp met
      cases valued
    · refine compare_eq_false relational fun met => ?_
      obtain ⟨_, _, -, valued, -⟩ := meets_iff.mp met
      cases valued
  answered := fun relational => exists_answer relational node
  arithmetic_refused := by
    intro condition arithmetic left right
    cases condition with
    | sum | subtraction | multiplication | division | percentage => exact ⟨rfl, rfl⟩
    | greaterThan | lessThan | equal | greaterEqual | lessEqual => cases arithmetic

/-- A whole number beside the double-precision value that it would be rounded to. -/
example : greaterThan.compare "bonus" (.integer 9007199254740993)
    (.real (.finite false ⟨4845873199050653696, by decide⟩)) = .ok true := by
  decide +kernel

end Operator
end PayGraph
