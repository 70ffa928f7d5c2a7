import Worksheet.Proofs.Table.Overflow
import Worksheet.Proofs.Table.Rewriting

/-!
# What references mean

Compiling a formula whose brackets are not nested reads the formula with all its references replaced
at once, so the order of columns, single values and aggregates makes no difference.  If moreover
different names have different identifiers, each identifier is bound to what its reference stands
for: the single value of that name, or else the cell of that column, and the value of the aggregate.
-/

namespace Worksheet.Table

open Worksheet.Text

variable {formula : String} {d : Dataset} {scalars : List (String × ScalarInput)}

/-- The names that references can have: those of the columns and of the single values. -/
def knownNames (d : Dataset) (scalars : List (String × ScalarInput)) : List String :=
  d.columnIds ++ scalars.map (·.1)

/-- Compiling a formula returns, and it is `expression` that is read. -/
def Reads (formula : String) (d : Dataset) (scalars : List (String × ScalarInput))
    (expression : String) : Prop :=
  ∃ constants, compile formula d scalars = .ok ((Formula.parse expression).map fun expr =>
    ⟨expression, expr, constants, columnReferences d⟩)

/-- No two names, and no two aggregates, share an identifier. -/
structure Unambiguous (formula : String) (d : Dataset) (scalars : List (String × ScalarInput)) :
    Prop where
  names : ∀ x ∈ knownNames d scalars, ∀ y ∈ knownNames d scalars,
    identifier x = identifier y → x = y
  aggregates : ∀ a ∈ aggregates formula, ∀ b ∈ aggregates formula,
    identifier a.text = identifier b.text → a.text = b.text

/-- No other name has the identifier of this one. -/
def OwnIdentifier (d : Dataset) (scalars : List (String × ScalarInput)) (x : String) : Prop :=
  ∀ y ∈ knownNames d scalars, identifier y = identifier x → y = x

lemma Unambiguous.ownIdentifier (h : Unambiguous formula d scalars) {x : String}
    (hx : x ∈ knownNames d scalars) : OwnIdentifier d scalars x :=
  fun y hy heq => h.names y hy x hx heq

/-- The value that a reference to a name has in a row. -/
inductive Means (scalars : List (String × ScalarInput)) (row : Row) (x : String) : Value → Prop
  /-- A single value wins over the columns. -/
  | single {scalar : ScalarInput} (h : (Keyed.ofPairs scalars).lookup x = some scalar) :
    Means scalars row x (.float scalar.value)
  /-- A cell that is missing is not a number. -/
  | missing (hcolumn : x ∉ scalars.map (·.1)) (h : row.lookup x = none) :
    Means scalars row x (.float Double.nan)
  /-- A cell with nothing in it is zero. -/
  | empty (hcolumn : x ∉ scalars.map (·.1)) (h : row.lookup x = some .null) :
    Means scalars row x (.int 0)
  /-- Any other cell has its reading. -/
  | cell {v : Value} (hcolumn : x ∉ scalars.map (·.1)) (h : row.lookup x = some v)
    (hne : v ≠ .null) : Means scalars row x v.ofCell

/-! ### What is read -/

lemma substituteReferences_eq_rewriting (hs : Unnested formula.toList)
    (hfree : ∀ x ∈ knownNames d scalars, BracketFree x) (hlookup : hasLookup formula = false) :
    substituteReferences formula d scalars = rewriting (knownNames d scalars) formula := by
  have hcolumns : (columnReferences d).map (·.1) = Keyed.distinct d.columnIds := by
    rw [columnReferences, List.map_map]
    exact List.map_id _
  have hsame : ∀ x, x ∈ (columnReferences d).map (·.1) ++ scalars.map (·.1) ↔
      x ∈ knownNames d scalars := by
    intro x
    rw [hcolumns, knownNames, List.mem_append, List.mem_append, Keyed.mem_distinct]
  have hturn : substituteReferences formula d scalars =
      replacedInTurn (aggregates formula)
        ((columnReferences d).map (·.1) ++ scalars.map (·.1)) formula := by
    simp only [substituteReferences, hlookup]
    rfl
  rw [hturn, replacedInTurn_eq_rewriting hs (fun x hx => hfree x ((hsame x).1 hx))
    fun a => Iff.rfl, rewriting_congr hfree hsame]

/-- Compiling returns unless the value of an aggregate leaves the range. -/
lemma reads_substituteReferences (scalars : List (String × ScalarInput))
    (hcompute : ∀ a ∈ aggregates formula, ∃ n, a.compute d.rows = .ok n) :
    Reads formula d scalars (substituteReferences formula d scalars) := by
  have hreturns : ¬ Fails (compile formula d scalars) := by
    rw [fails_compile]
    rintro ⟨a, ha, hoverflow⟩
    exact not_fails_iff.2 (hcompute a ha) (fails_compute.2 hoverflow)
  obtain ⟨outcome, hcompile⟩ := not_fails_iff.1 hreturns
  obtain ⟨constants, -, houtcome⟩ := exists_of_bind_eq_ok hcompile
  exact ⟨constants, by rw [hcompile, ← Except.ok.inj houtcome]⟩

lemma reads_rewriting (hs : Unnested formula.toList)
    (hfree : ∀ x ∈ knownNames d scalars, BracketFree x) (hlookup : hasLookup formula = false)
    (hcompute : ∀ a ∈ aggregates formula, ∃ n, a.compute d.rows = .ok n) :
    Reads formula d scalars (rewriting (knownNames d scalars) formula) := by
  rw [← substituteReferences_eq_rewriting hs hfree hlookup]
  exact reads_substituteReferences scalars hcompute

/-! ### What identifiers are bound to -/

lemma lookup_scalarBindings {x : String} (h : OwnIdentifier d scalars x) :
    (scalarBindings scalars).reverse.lookup (referenceName x) =
      ((Keyed.ofPairs scalars).lookup x).map fun scalar => .float scalar.value := by
  have hown : ∀ pair ∈ scalars.reverse, referenceName pair.1 = referenceName x → pair.1 = x := by
    intro pair hpair heq
    have hmem : pair.1 ∈ knownNames d scalars :=
      List.mem_append_right _ (List.mem_map_of_mem (List.mem_reverse.1 hpair))
    exact h _ hmem (identifier_eq_iff.2 (referenceName_eq_iff.1 heq))
  rw [Keyed.lookup_ofPairs, scalarBindings, ← List.map_reverse]
  exact Keyed.lookup_map referenceName (fun scalar : ScalarInput => Value.float scalar.value) hown

lemma find?_column {x : String} (h : OwnIdentifier d scalars x) (hx : x ∈ d.columnIds) :
    ((Keyed.distinct d.columnIds).reverse.find? fun y => referenceName y == referenceName x) =
      some x := by
  obtain ⟨y, hfind⟩ := Option.isSome_iff_exists.1 (isSome_find?_column hx)
  have hy := Keyed.mem_distinct.1 (List.mem_reverse.1 (List.mem_of_find?_eq_some hfind))
  have heq := List.find?_some hfind
  rw [beq_iff_eq, referenceName_eq_iff, ← identifier_eq_iff] at heq
  rw [hfind, h y (List.mem_append_left _ hy) heq]

lemma means_cellOf {row : Row} {x : String} (hx : x ∉ scalars.map (·.1)) :
    Means scalars row x (cellOf row x) := by
  rw [cellOf]
  split
  · exact .missing hx ‹_›
  · exact .empty hx ‹_›
  · rename_i v hne hv
    exact .cell hx hv hne

/-- The identifier of a name is bound to what the name means. -/
lemma exists_scope_referenceName (h : Unambiguous formula d scalars) {c : Compiled}
    (hc : compile formula d scalars = .ok (.ok c)) {x : String} (hx : x ∈ knownNames d scalars)
    (row : Row) :
    ∃ v, c.scope row (referenceName x) = some v ∧ Means scalars row x v := by
  rw [scope_referenceName hc, lookup_scalarBindings (h.ownIdentifier hx)]
  cases hscalar : (Keyed.ofPairs scalars).lookup x with
  | some scalar => exact ⟨_, rfl, .single hscalar⟩
  | none =>
    rw [Keyed.lookup_ofPairs, Keyed.lookup_reverse_eq_none_iff] at hscalar
    have hcolumn := (List.mem_append.1 hx).resolve_right hscalar
    rw [find?_column (h.ownIdentifier hx) hcolumn]
    exact ⟨_, rfl, means_cellOf hscalar⟩

/-- No other family of identifiers has that of an aggregate. -/
lemma lookup_tableBindings_aggregate {constants : List (String × Value)}
    (h : tableBindings formula d scalars = .ok constants) {a : Aggregate} (ha : a.Proper) :
    ∃ values, aggregateBindings formula d.rows = .ok values ∧
      constants.lookup (identifier a.text) = values.reverse.lookup (identifier a.text) := by
  obtain ⟨values, hvalues, rfl⟩ := exists_of_tableBindings h
  have harrays : (arrayBindings formula d).reverse.lookup (identifier a.text) = none :=
    Keyed.lookup_reverse_eq_none_iff.2
      (not_mem_arrayBindings_keys fun y => arrayName_ne_identifier_text ha y)
  have hscalars : (scalarBindings scalars).reverse.lookup (identifier a.text) = none := by
    rw [Keyed.lookup_reverse_eq_none_iff, mem_scalarBindings_keys]
    rintro ⟨scalar, -, heq⟩
    exact referenceName_ne_identifier_text ha _ heq
  refine ⟨values, hvalues, ?_⟩
  rw [Keyed.lookup_ofPairs, List.reverse_append, List.reverse_append, List.lookup_append,
    List.lookup_append, harrays, hscalars, Option.none_or, Option.none_or]

/-- The identifier of an aggregate is bound to its value. -/
lemma exists_scope_aggregate (h : Unambiguous formula d scalars) {c : Compiled}
    (hc : compile formula d scalars = .ok (.ok c)) {a : Aggregate} (ha : a ∈ aggregates formula)
    (row : Row) :
    ∃ n, a.compute d.rows = .ok n ∧
      c.scope row (identifier a.text) = some (.number (n.getD (.int 0))) := by
  obtain ⟨hconstants, -, -⟩ := compile_eq_ok hc
  obtain ⟨values, hvalues, hlookup⟩ :=
    lookup_tableBindings_aggregate hconstants (proper_of_mem_aggregates ha)
  have hbound : values.reverse.lookup (identifier a.text) ≠ none := by
    rw [ne_eq, Keyed.lookup_reverse_eq_none_iff, not_not, aggregateBindings_keys hvalues]
    exact List.mem_map_of_mem ha
  obtain ⟨v, hv⟩ := Option.ne_none_iff_exists'.1 hbound
  obtain ⟨before, after, hsplit, -⟩ := List.lookup_eq_some_iff.1 hv
  have hmem : (identifier a.text, v) ∈ values := by
    rw [← List.mem_reverse, hsplit]
    exact List.mem_append_right _ List.mem_cons_self
  obtain ⟨b, hb, hpair⟩ := exists_of_mem_mapM hvalues hmem
  obtain ⟨w, hw, hpair⟩ := exists_of_bind_eq_ok hpair
  obtain ⟨htext, rfl⟩ := Prod.mk.inj (Except.ok.inj hpair)
  -- an aggregate of the same identifier is the same aggregate
  obtain rfl : b = a := Aggregate.eq_of_text_eq (proper_of_mem_aggregates hb)
    (proper_of_mem_aggregates ha) (h.aggregates b hb a ha htext)
  obtain ⟨n, hn, hw⟩ := exists_of_bind_eq_ok hw
  refine ⟨n, hn, ?_⟩
  rw [Compiled.scope, hlookup, hv]
  exact congrArg some (Except.ok.inj hw).symm

/-! ### The whole formula -/

lemma mem_knownNames_of_perm {d' : Dataset} {scalars' : List (String × ScalarInput)}
    (hcolumns : d'.columns.Perm d.columns) (hscalars : scalars'.Perm scalars) (x : String) :
    x ∈ knownNames d' scalars' ↔ x ∈ knownNames d scalars := by
  have hids : d'.columnIds.Perm d.columnIds := hcolumns.map Column.id
  have hnames : (scalars'.map (·.1)).Perm (scalars.map (·.1)) := hscalars.map _
  exact (hids.append hnames).mem_iff

/-- **References are replaced at once and mean what they name.**  Let the brackets of a formula not
be nested, nor stand in a name, and let it have no lookups; let its aggregates have values.  Then
compiling it reads the formula with all mentions replaced by their identifiers in a single pass,
whichever way columns, single values and aggregates are ordered.  If no two names and no two
aggregates share an identifier, every row binds the identifier of a name to what the name means
there, and that of an aggregate to its value, or to zero if it has none. -/
theorem references_replaced_at_once (formula : String) (d : Dataset)
    (scalars : List (String × ScalarInput)) (hs : Unnested formula.toList)
    (hfree : ∀ x ∈ knownNames d scalars, BracketFree x) (hlookup : hasLookup formula = false)
    (hcompute : ∀ a ∈ aggregates formula, ∃ n, a.compute d.rows = .ok n) :
    Reads formula d scalars (rewriting (knownNames d scalars) formula) ∧
    (∀ d' scalars', d'.rows = d.rows → d'.columns.Perm d.columns → scalars'.Perm scalars →
      Reads formula d' scalars' (rewriting (knownNames d scalars) formula)) ∧
    (∀ order names, order.Perm (aggregates formula) →
      (∀ x, x ∈ names ↔ x ∈ knownNames d scalars) →
      replacedInTurn order names formula = rewriting (knownNames d scalars) formula) ∧
    (Unambiguous formula d scalars → ∀ c, compile formula d scalars = .ok (.ok c) → ∀ row,
      (∀ x ∈ knownNames d scalars,
        ∃ v, c.scope row (referenceName x) = some v ∧ Means scalars row x v) ∧
      ∀ a ∈ aggregates formula, ∃ n, a.compute d.rows = .ok n ∧
        c.scope row (identifier a.text) = some (.number (n.getD (.int 0)))) := by
  refine ⟨reads_rewriting hs hfree hlookup hcompute, ?_, ?_, ?_⟩
  · intro d' scalars' hrows hcolumns hscalars
    have hsame := mem_knownNames_of_perm hcolumns hscalars
    rw [← rewriting_congr hfree hsame]
    exact reads_rewriting hs (fun x hx => hfree x ((hsame x).1 hx)) hlookup (hrows ▸ hcompute)
  · intro order names horder hsame
    rw [← rewriting_congr hfree hsame]
    exact replacedInTurn_eq_rewriting hs (fun x hx => hfree x ((hsame x).1 hx))
      fun a => horder.mem_iff
  · intro h c hc row
    exact ⟨fun x hx => exists_scope_referenceName h hc hx row,
      fun a ha => exists_scope_aggregate h hc ha row⟩

/-- Goods that are sold, one of them without a weight. -/
def sales : Dataset :=
  { rows := [[("Weight", .int 2)], [("Weight", .null)]]
    columns := [⟨"Weight", "Weight", .number, none⟩, ⟨"Net Price", "Net Price", .number, none⟩] }

/-- A price for all of them, under the name of a column. -/
def netPrice : List (String × ScalarInput) := [("Net Price", { value := 1.5 })]

/-- The name inside of an aggregate is no reference of its own, and the single value is read and not
the column of its name. -/
theorem references_replaced_at_once_sales :
    ∃ c, compile "$COUNT_[Weight] * [Weight] + [Net Price]" sales netPrice = .ok (.ok c) ∧
      c.expression = "_COUNT__Weight_ * _c_Weight + _c_Net_Price" ∧
      c.scope [("Weight", .null)] "_COUNT__Weight_" = some (.int 1) ∧
      c.scope [("Weight", .null)] "_c_Weight" = some (.int 0) ∧
      c.scope [("Weight", .null)] "_c_Net_Price" = some (.float 1.5) := by
  have haggregates : aggregates "$COUNT_[Weight] * [Weight] + [Net Price]" =
      [⟨"COUNT", "Weight"⟩] := by decide
  have hrewriting : rewriting (knownNames sales netPrice)
      "$COUNT_[Weight] * [Weight] + [Net Price]" =
        "_COUNT__Weight_ * _c_Weight + _c_Net_Price" := by decide
  have hfree : ∀ x ∈ knownNames sales netPrice, BracketFree x := by
    unfold BracketFree
    decide
  have hcompute : ∀ a ∈ aggregates "$COUNT_[Weight] * [Weight] + [Net Price]",
      ∃ n, a.compute sales.rows = .ok n := by
    rw [haggregates]
    intro a ha
    obtain rfl := List.mem_singleton.1 ha
    exact ⟨some (.int 1), rfl⟩
  have hunambiguous : Unambiguous "$COUNT_[Weight] * [Weight] + [Net Price]" sales netPrice := by
    refine ⟨by decide, ?_⟩
    rw [haggregates]
    decide
  obtain ⟨⟨constants, hcompile⟩, -, -, hmeans⟩ := references_replaced_at_once
    "$COUNT_[Weight] * [Weight] + [Net Price]" sales netPrice (by decide) hfree (by decide) hcompute
  obtain ⟨expr, hparse⟩ : ∃ expr,
      Formula.parse "_COUNT__Weight_ * _c_Weight + _c_Net_Price" = .ok expr := ⟨_, rfl⟩
  rw [hrewriting, hparse] at hcompile
  obtain ⟨hnames, hvalues⟩ := hmeans hunambiguous _ hcompile [("Weight", .null)]
  refine ⟨_, hcompile, rfl, ?_, ?_, ?_⟩
  · obtain ⟨n, hn, hscope⟩ := hvalues ⟨"COUNT", "Weight"⟩ (by decide)
    obtain rfl : some (.int 1) = n := Except.ok.inj hn
    exact hscope
  · obtain ⟨v, hscope, hv⟩ := hnames "Weight" (by decide)
    cases hv with
    | single h =>
      have hnone : (Keyed.ofPairs netPrice).lookup "Weight" = none := rfl
      exact absurd (hnone.symm.trans h) (by simp)
    | missing _ h => exact absurd h (by simp)
    | empty => exact hscope
    | cell _ h hne => exact absurd (Option.some.inj h).symm hne
  · obtain ⟨v, hscope, hv⟩ := hnames "Net Price" (by decide)
    cases hv with
    | single h =>
      obtain rfl := Option.some.inj h
      exact hscope
    | missing hcolumn => exact absurd (by decide) hcolumn
    | empty hcolumn => exact absurd (by decide) hcolumn
    | cell hcolumn => exact absurd (by decide) hcolumn

end Worksheet.Table
