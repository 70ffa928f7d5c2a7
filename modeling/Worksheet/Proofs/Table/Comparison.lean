import Mathlib.Data.String.Basic
import Worksheet.Proofs.Double.Order
import Worksheet.Proofs.Table.Filtering

/-!
# The laws of comparisons

The operators of a filter are all read off one comparison of the two sides.  Two numbers compare,
for what is not a number has no reading as one, and so do two texts; two other sides compare in no
way, though they are still equal or not.  So exactly one of equal and different holds between the
two sides of any row, and exactly one of less, equal and greater between two sides that compare.
-/

namespace Worksheet

lemma isNaN_of_actualNumber? {x y : Float} (h : Value.actualNumber? x = some y) :
    y.isNaN = false := by
  unfold Value.actualNumber? at h
  split at h
  · exact absurd h (by simp)
  · obtain rfl := Option.some.inj h
    exact Bool.eq_false_iff.2 ‹_›

namespace Table

variable {a b : Option Value} {sides : Sides}

/-- What a cell reads as is a number. -/
lemma isNaN_of_readingOf {x : Float} (h : readingOf a = .ok (some x)) : x.isNaN = false := by
  have hzero : (0.0 : Float).isNaN = false := by decide
  have hone : (1.0 : Float).isNaN = false := by decide
  cases a with
  | none => exact absurd (Except.ok.inj h) (by simp)
  | some v =>
    cases v with
    | null => exact Option.some.inj (Except.ok.inj h) ▸ hzero
    | bool truth =>
      obtain rfl := Option.some.inj (Except.ok.inj h)
      cases truth
      · exact hzero
      · exact hone
    | number n =>
      obtain ⟨y, -, h⟩ := exists_of_bind_eq_ok h
      exact isNaN_of_actualNumber? (Except.ok.inj h)
    | text s =>
      have h := Except.ok.inj h
      split at h
      · exact Option.some.inj h ▸ hzero
      · obtain ⟨y, -, h⟩ := Option.bind_eq_some_iff.1 h
        exact isNaN_of_actualNumber? h
    | list items => exact absurd (Except.ok.inj h) (by simp)
    | record fields => exact absurd (Except.ok.inj h) (by simp)

/-! ### Two sides -/

/-- Two cells that an order is about: both read as numbers, or both are texts. -/
def Ordered (a b : Option Value) : Prop :=
  (∃ x y, readingOf a = .ok (some x) ∧ readingOf b = .ok (some y)) ∨
    ∃ s t, a = some (.text s) ∧ b = some (.text t)

/-- How two sides compare; `none` if they do not. -/
def Sides.compare? : Sides → Option Ordering
  | numbers x y => Double.compare? x y
  | texts s t => some (compare s t)
  | other _ _ => none

/-- What the sides of a comparison are made of. -/
inductive SidesOf (a b : Option Value) : Sides → Prop
  | numbers {x y : Float} (hx : readingOf a = .ok (some x)) (hy : readingOf b = .ok (some y)) :
    SidesOf a b (.numbers x y)
  | texts {s t : String} (hs : a = some (.text s)) (ht : b = some (.text t)) :
    SidesOf a b (.texts s t)
  | other (h : ¬Ordered a b) : SidesOf a b (.other (a.getD .null) (b.getD .null))

lemma eq_some_text_of_getD {s : String} (h : a.getD .null = .text s) : a = some (.text s) := by
  cases a with
  | none => exact absurd h (by simp)
  | some v => exact congrArg some h

lemma sidesOf_spec (h : sidesOf a b = .ok sides) : SidesOf a b sides := by
  obtain ⟨x?, hx, h⟩ := exists_of_bind_eq_ok h
  obtain ⟨y?, hy, h⟩ := exists_of_bind_eq_ok h
  split at h
  · obtain rfl := Except.ok.inj h
    exact .numbers hx hy
  · rename_i hs ht _
    obtain rfl := Except.ok.inj h
    exact .texts (eq_some_text_of_getD hs) (eq_some_text_of_getD ht)
  · rename_i hnumbers _ htexts
    obtain rfl := Except.ok.inj h
    refine .other ?_
    rintro (⟨x, y, hx', hy'⟩ | ⟨s, t, rfl, rfl⟩)
    · rw [hx] at hx'
      rw [hy] at hy'
      exact hnumbers x y (Except.ok.inj hx') (Except.ok.inj hy')
    · exact htexts s t rfl rfl

/-- Cells compare exactly if an order is about them: what they read as is a number. -/
lemma SidesOf.isSome_compare?_iff (h : SidesOf a b sides) :
    sides.compare?.isSome ↔ Ordered a b := by
  cases h with
  | numbers hx hy =>
    refine iff_of_true ?_ (Or.inl ⟨_, _, hx, hy⟩)
    exact Double.isSome_compare? (isNaN_of_readingOf hx) (isNaN_of_readingOf hy)
  | texts hs ht => exact iff_of_true rfl (Or.inr ⟨_, _, hs, ht⟩)
  | other hnot => exact iff_of_false Bool.false_ne_true hnot

/-! ### Operators -/

namespace Sides

lemma hold_less : sides.hold "<" = true ↔ sides.compare? = some .lt := by
  cases sides with
  | numbers x y => exact decide_eq_true_iff.trans Double.lt_iff_compare?
  | texts s t =>
    have hcompare : compare s t = .lt ↔ s < t := compare_lt_iff_lt
    rw [compare?, Option.some.injEq, hcompare]
    exact decide_eq_true_iff
  | other a b => exact iff_of_false Bool.false_ne_true (by simp [compare?])

lemma hold_greater : sides.hold ">" = true ↔ sides.compare? = some .gt := by
  cases sides with
  | numbers x y =>
    refine decide_eq_true_iff.trans (Double.lt_iff_compare?.trans ?_)
    rw [compare?, ← Double.swap_compare? x y]
    rcases Double.compare? x y with _ | _ | _ | _ <;> simp
  | texts s t =>
    have hcompare : compare s t = .gt ↔ t < s := compare_gt_iff_gt
    rw [compare?, Option.some.injEq, hcompare]
    exact decide_eq_true_iff
  | other a b => exact iff_of_false Bool.false_ne_true (by simp [compare?])

lemma hold_atMost :
    sides.hold "<=" = true ↔ sides.compare? = some .lt ∨ sides.compare? = some .eq := by
  cases sides with
  | numbers x y => exact decide_eq_true_iff.trans Double.le_iff_compare?
  | texts s t =>
    have hcompare : compare s t ≠ .gt ↔ ¬t < s := compare_gt_iff_gt.not
    have hhold : (texts s t).hold "<=" = !decide (t < s) := rfl
    rw [hhold, Bool.not_eq_true', decide_eq_false_iff_not, ← hcompare, compare?]
    cases compare s t <;> simp
  | other a b => exact iff_of_false Bool.false_ne_true (by simp [compare?])

lemma hold_atLeast :
    sides.hold ">=" = true ↔ sides.compare? = some .gt ∨ sides.compare? = some .eq := by
  cases sides with
  | numbers x y =>
    refine decide_eq_true_iff.trans (Double.le_iff_compare?.trans ?_)
    rw [compare?, ← Double.swap_compare? x y]
    rcases Double.compare? x y with _ | _ | _ | _ <;> simp
  | texts s t =>
    have hcompare : compare s t ≠ .lt ↔ ¬s < t := compare_lt_iff_lt.not
    have hhold : (texts s t).hold ">=" = !decide (s < t) := rfl
    rw [hhold, Bool.not_eq_true', decide_eq_false_iff_not, ← hcompare, compare?]
    cases compare s t <;> simp
  | other a b => exact iff_of_false Bool.false_ne_true (by simp [compare?])

/-- Sides that do not compare may still be equal. -/
lemma hold_equal (h : sides.compare?.isSome) :
    sides.hold "==" = true ↔ sides.compare? = some .eq := by
  cases sides with
  | numbers x y => exact Double.beq_iff_compare?
  | texts s t =>
    have hcompare : compare s t = .eq ↔ s = t := compare_eq_iff_eq
    rw [compare?, Option.some.injEq, hcompare]
    exact beq_iff_eq
  | other a b => exact absurd h Bool.false_ne_true

lemma hold_different : sides.hold "!=" = true ↔ ¬sides.hold "==" = true := by
  have hhold : sides.hold "!=" = !sides.hold "==" := rfl
  rw [hhold, Bool.not_eq_true', Bool.not_eq_true]

lemma existsUnique_hold_equal (sides : Sides) :
    ∃! operator, operator ∈ ["==", "!="] ∧ sides.hold operator = true := by
  by_cases hequal : sides.hold "==" = true
  · refine ⟨"==", ⟨by simp, hequal⟩, ?_⟩
    rintro operator ⟨hmem, hhold⟩
    obtain rfl | rfl := List.mem_pair.1 hmem
    · rfl
    · exact absurd hequal (hold_different.1 hhold)
  · refine ⟨"!=", ⟨by simp, hold_different.2 hequal⟩, ?_⟩
    rintro operator ⟨hmem, hhold⟩
    obtain rfl | rfl := List.mem_pair.1 hmem
    · exact absurd hhold hequal
    · rfl

/-- The operator that holds where two sides compare in one way and no other. -/
def operatorOf : Ordering → String
  | .lt => "<"
  | .eq => "=="
  | .gt => ">"

lemma hold_operatorOf (h : sides.compare?.isSome) (order : Ordering) :
    sides.hold (operatorOf order) = true ↔ sides.compare? = some order := by
  cases order with
  | lt => exact hold_less
  | eq => exact hold_equal h
  | gt => exact hold_greater

lemma mem_operators_iff {operator : String} :
    operator ∈ ["<", "==", ">"] ↔ ∃ order, operator = operatorOf order := by
  constructor
  · intro h
    simp only [List.mem_cons, List.not_mem_nil, or_false] at h
    obtain rfl | rfl | rfl := h
    · exact ⟨.lt, rfl⟩
    · exact ⟨.eq, rfl⟩
    · exact ⟨.gt, rfl⟩
  · rintro ⟨order, rfl⟩
    cases order <;> simp [operatorOf]

lemma existsUnique_hold_order (h : sides.compare?.isSome) :
    ∃! operator, operator ∈ ["<", "==", ">"] ∧ sides.hold operator = true := by
  obtain ⟨order, horder⟩ := Option.isSome_iff_exists.1 h
  refine ⟨operatorOf order, ⟨mem_operators_iff.2 ⟨order, rfl⟩, (hold_operatorOf h order).2 horder⟩,
    ?_⟩
  rintro operator ⟨hmem, hhold⟩
  obtain ⟨order', rfl⟩ := mem_operators_iff.1 hmem
  rw [hold_operatorOf h, horder] at hhold
  rw [Option.some.inj hhold]

lemma not_hold_of_compare?_eq_none (h : sides.compare? = none) :
    ∀ operator ∈ ["<", ">", "<=", ">="], ¬sides.hold operator = true := by
  simp only [List.forall_mem_cons, hold_less, hold_greater, hold_atMost, hold_atLeast, h]
  simp

end Sides

/-! ### Rows -/

/-- The criterion with another operator. -/
def Criteria.withOperator (criteria : Criteria) (operator : String) : Criteria :=
  { criteria with operator := operator }

/-- Whether the criterion with another operator keeps a row. -/
def Criteria.KeepsBy (criteria : Criteria) (operator : String) (row : Row) : Prop :=
  (criteria.withOperator operator).keeps row = true

variable {criteria : Criteria} {row : Row} {operator : String}

lemma matches?_withOperator
    (h : sidesOf (row.lookup criteria.column) (criteria.right row) = .ok sides) :
    (criteria.withOperator operator).matches? row = .ok (sides.hold operator) := by
  have hmatches : (criteria.withOperator operator).matches? row =
      (do return (← sidesOf (row.lookup criteria.column) (criteria.right row)).hold operator) := rfl
  rw [hmatches, h]
  rfl

lemma keepsBy_iff (h : sidesOf (row.lookup criteria.column) (criteria.right row) = .ok sides) :
    criteria.KeepsBy operator row ↔ sides.hold operator = true := by
  rw [Criteria.KeepsBy, keeps_eq_true_iff, matches?_withOperator h, Except.ok.injEq]

/-- What the operators have to do with each other on one row. -/
structure ComparisonLaws (criteria : Criteria) (row : Row) : Prop where
  answers : ∀ operator, ∃ keep, (criteria.withOperator operator).matches? row = .ok keep
  equal_or_different : ∃! operator, operator ∈ ["==", "!="] ∧ criteria.KeepsBy operator row
  less_equal_or_greater : Ordered (row.lookup criteria.column) (criteria.right row) →
    ∃! operator, operator ∈ ["<", "==", ">"] ∧ criteria.KeepsBy operator row
  atMost_iff : Ordered (row.lookup criteria.column) (criteria.right row) →
    (criteria.KeepsBy "<=" row ↔ criteria.KeepsBy "<" row ∨ criteria.KeepsBy "==" row)
  atLeast_iff : Ordered (row.lookup criteria.column) (criteria.right row) →
    (criteria.KeepsBy ">=" row ↔ criteria.KeepsBy ">" row ∨ criteria.KeepsBy "==" row)
  unordered : ¬Ordered (row.lookup criteria.column) (criteria.right row) →
    ∀ operator ∈ ["<", ">", "<=", ">="], ¬criteria.KeepsBy operator row

lemma comparisonLaws (hleft : ¬Fails (readingOf (row.lookup criteria.column)))
    (hright : ¬Fails (readingOf (criteria.right row))) : ComparisonLaws criteria row := by
  rw [fails_readingOf] at hleft hright
  obtain ⟨sides, hsides⟩ := not_fails_iff.1 (mt fails_sidesOf.1 (not_or.2 ⟨hleft, hright⟩))
  have hkeeps (operator : String) : criteria.KeepsBy operator row ↔ sides.hold operator = true :=
    keepsBy_iff hsides
  have hordered := (sidesOf_spec hsides).isSome_compare?_iff
  refine ⟨fun operator => ⟨_, matches?_withOperator hsides⟩, ?_, fun h => ?_, fun h => ?_,
    fun h => ?_, fun h => ?_⟩
  · simpa only [hkeeps] using sides.existsUnique_hold_equal
  · simpa only [hkeeps] using Sides.existsUnique_hold_order (hordered.2 h)
  · rw [hkeeps, hkeeps, hkeeps, Sides.hold_atMost, Sides.hold_less, Sides.hold_equal (hordered.2 h)]
  · rw [hkeeps, hkeeps, hkeeps, Sides.hold_atLeast, Sides.hold_greater,
      Sides.hold_equal (hordered.2 h)]
  · have hnone : sides.compare? = none := by simpa using mt hordered.1 h
    simpa only [hkeeps] using Sides.not_hold_of_compare?_eq_none hnone

/-! ### Datasets -/

lemma keeps_different (h : ComparisonLaws criteria row) :
    (criteria.withOperator "!=").keeps row = !(criteria.withOperator "==").keeps row := by
  obtain ⟨operator, ⟨hmem, hkeeps⟩, hunique⟩ := h.equal_or_different
  obtain rfl | rfl := List.mem_pair.1 hmem
  · have hnot : ¬criteria.KeepsBy "!=" row := fun h =>
      absurd (hunique "!=" ⟨by simp, h⟩) (by decide)
    rw [show (criteria.withOperator "==").keeps row = true from hkeeps]
    exact Bool.eq_false_iff.2 hnot
  · have hnot : ¬criteria.KeepsBy "==" row := fun h =>
      absurd (hunique "==" ⟨by simp, h⟩) (by decide)
    rw [Bool.eq_false_iff.2 hnot]
    exact hkeeps

/-- Both sides of the comparison have a reading or have none; neither is a number too large for a
double. -/
def Criteria.Reads (criteria : Criteria) (row : Row) : Prop :=
  ¬Fails (readingOf (row.lookup criteria.column)) ∧ ¬Fails (readingOf (criteria.right row))

lemma not_fails_filter_withOperator {d : Dataset}
    (h : ∀ row ∈ d.rows, criteria.Reads row) (operator : String) :
    ¬Fails (filter d (criteria.withOperator operator)) := by
  rw [fails_filter]
  rintro ⟨row, hrow, hcell⟩
  have hreads := h row hrow
  rw [Criteria.Reads, fails_readingOf, fails_readingOf] at hreads
  exact hcell.elim hreads.1 hreads.2

/-- **The laws of comparisons.**  On a row whose two sides can be read, each operator has an answer,
and exactly one of `==` and `!=` keeps the row.  If both sides read as numbers or both are texts,
exactly one of `<`, `==` and `>` does, and `<=` and `>=` do as these say; otherwise no order keeps
the row.  So `==` and `!=` split the rows of a dataset, in their order, with none lost and none
kept twice. -/
theorem comparisons_partition (criteria : Criteria) :
    (∀ row, criteria.Reads row → ComparisonLaws criteria row) ∧
    ∀ d : Dataset, d.rows ≠ [] → (∀ row ∈ d.rows, criteria.Reads row) →
      ∃ equal different,
        filter d (criteria.withOperator "==") = .ok (changed { d with rows := equal }) ∧
        filter d (criteria.withOperator "!=") = .ok (changed { d with rows := different }) ∧
        equal.Sublist d.rows ∧ different.Sublist d.rows ∧ (equal ++ different).Perm d.rows ∧
        (∀ row ∈ equal, criteria.KeepsBy "==" row) ∧
        ∀ row ∈ different, criteria.KeepsBy "!=" row := by
  refine ⟨fun row h => comparisonLaws h.1 h.2, fun d hrows h => ?_⟩
  have hequal := filter_eq_changed hrows (not_fails_filter_withOperator h "==")
  have hdifferent := filter_eq_changed hrows (not_fails_filter_withOperator h "!=")
  have hnot : d.rows.filter (criteria.withOperator "!=").keeps =
      d.rows.filter fun row => !(criteria.withOperator "==").keeps row :=
    List.filter_congr fun row hrow => keeps_different (comparisonLaws (h row hrow).1 (h row hrow).2)
  refine ⟨_, _, hequal, hdifferent, List.filter_sublist, List.filter_sublist, ?_,
    fun row hrow => (List.mem_filter.1 hrow).2, fun row hrow => (List.mem_filter.1 hrow).2⟩
  rw [hnot]
  exact List.filter_append_perm _ _

/-- Cells of all kinds, to be compared with the cell next to them. -/
def measured : Dataset where
  rows := [[("Read", .text " 5 "), ("Limit", .float 5.0)],
    [("Read", .null), ("Limit", .text "1e3")],
    [("Read", .text "5"), ("Limit", .text "five")], [("Limit", .null)],
    [("Read", .list [.number (.nan 0)]), ("Limit", .list [.number (.nan 0)])],
    [("Read", .number (.nan 0)), ("Limit", .number (.nan 0))]]
  columns := [⟨"Read", "Read", .number, none⟩, ⟨"Limit", "Limit", .number, none⟩]

/-- Whether the reading is the limit. -/
def atLimit : Criteria :=
  { column := "Read", operator := "", value := .text "Limit", mode := .column }

/-- Numbers, texts and other cells all fall on one side or the other. -/
theorem comparisons_partition_measured :
    (∀ row ∈ measured.rows, atLimit.Reads row) ∧
      (∃ row ∈ measured.rows, ComparisonLaws atLimit row ∧
        Ordered (row.lookup "Read") (row.lookup "Limit")) ∧
      ∃ equal different,
        filter measured (atLimit.withOperator "==") =
          .ok (changed { measured with rows := equal }) ∧
        filter measured (atLimit.withOperator "!=") =
          .ok (changed { measured with rows := different }) ∧
        (equal ++ different).Perm measured.rows := by
  have hread {row : Row} {x y : Option Float} (hx : readingOf (row.lookup "Read") = .ok x)
      (hy : readingOf (row.lookup "Limit") = .ok y) : atLimit.Reads row :=
    ⟨not_fails_iff.2 ⟨x, hx⟩, not_fails_iff.2 ⟨y, hy⟩⟩
  have hreads : ∀ row ∈ measured.rows, atLimit.Reads row := by
    simp only [measured, List.forall_mem_cons]
    exact ⟨hread rfl rfl, hread rfl rfl, hread rfl rfl, hread rfl rfl, hread rfl rfl,
      hread rfl rfl, by simp⟩
  obtain ⟨hlaws, hsplit⟩ := comparisons_partition atLimit
  obtain ⟨equal, different, hequal, hdifferent, -, -, hperm, -⟩ :=
    hsplit measured (List.cons_ne_nil _ _) hreads
  exact ⟨hreads, ⟨_, List.mem_cons_self, hlaws _ (hreads _ List.mem_cons_self),
    Or.inl ⟨_, _, rfl, rfl⟩⟩, equal, different, hequal, hdifferent, hperm⟩

end Table

end Worksheet
