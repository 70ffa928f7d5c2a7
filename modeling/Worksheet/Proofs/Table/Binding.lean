import Worksheet.Proofs.Formula.Reading
import Worksheet.Proofs.Keyed
import Worksheet.Proofs.Outcome
import Worksheet.Proofs.Table.Bracketed
import Worksheet.Proofs.Text.Scan
import Worksheet.Table.FormulaColumn

/-!
# What a reference in a table formula reads

A compiled formula looks an identifier up among what is bound for the whole table, and then among
the columns, the last one first.  So a reference to a column reads the cell of that column unless
the name of a single value is alike, or the name of a later column is.
-/

namespace Worksheet.Table

open Worksheet.Text

variable {formula : String} {d : Dataset} {scalars : List (String × ScalarInput)}

/-- A formula binds something for a dataset with single values. -/
def Bound.Occurs (formula : String) (d : Dataset) (scalars : List (String × ScalarInput)) :
    Bound → Prop
  | .aggregate a => a ∈ aggregates formula
  | .reference name => name ∈ d.columnIds ∨ name ∈ scalars.map (·.1)
  | .cells name => name ∈ d.columnIds ∧ hasLookup formula = true

/-- Nothing that is bound later, or for the whole table, has a name like that of the column. -/
def Unshadowed (d : Dataset) (scalars : List (String × ScalarInput)) (x : String) : Prop :=
  (∀ scalar ∈ scalars, ¬ Alike scalar.1 x) ∧
    ∃ before after, Keyed.distinct d.columnIds = before ++ x :: after ∧
      ∀ y ∈ after, ¬ Alike y x

lemma unshadowed_of_alone {x : String} (hids : d.columnIds = [x]) : Unshadowed d [] x := by
  refine ⟨fun scalar h => absurd h List.not_mem_nil, [], [], ?_,
    fun y h => absurd h List.not_mem_nil⟩
  rw [hids]
  rfl

/-! ### The bindings for the whole table -/

lemma mem_foldl_unseen {found seen : List Aggregate} {a : Aggregate} :
    a ∈ found.foldl (fun seen a => if a ∈ seen then seen else seen ++ [a]) seen ↔
      a ∈ seen ∨ a ∈ found := by
  induction found generalizing seen with
  | nil => simp
  | cons b found ih =>
    rw [List.foldl_cons, ih, List.mem_cons, ← or_assoc]
    refine or_congr_left ?_
    split
    · exact ⟨Or.inl, fun h => h.elim id fun heq => heq ▸ ‹b ∈ seen›⟩
    · rw [List.mem_append, List.mem_singleton]

lemma mem_aggregates {a : Aggregate} :
    a ∈ aggregates formula ↔ a ∈ matches? aggregatePattern formula.toList := by
  rw [aggregates, mem_foldl_unseen, or_iff_right List.not_mem_nil]

/-- An aggregate of a formula stands somewhere in it. -/
lemma exists_of_mem_aggregates {a : Aggregate} (h : a ∈ aggregates formula) :
    ∃ s, s <:+ formula.toList ∧ aggregate? s = some a := by
  obtain ⟨before, s, width, hsuffix, hfound⟩ := foundIn_of_mem_matches? (mem_aggregates.1 h)
  obtain ⟨b, haggregate, heq⟩ := Option.map_eq_some_iff.1 hfound
  obtain rfl : b = a := (Prod.mk.inj heq).1
  exact ⟨s, hsuffix, haggregate⟩

lemma proper_of_mem_aggregates {a : Aggregate} (h : a ∈ aggregates formula) : a.Proper := by
  obtain ⟨s, -, hfound⟩ := exists_of_mem_aggregates h
  exact (aggregate?_eq_some_iff.1 hfound).1

lemma Bound.Occurs.proper {p : Bound} (h : p.Occurs formula d scalars) : p.Proper := by
  cases p with
  | aggregate a => exact proper_of_mem_aggregates h
  | reference name => trivial
  | cells name => trivial

/-- The single values by the identifiers of their references. -/
def scalarBindings (scalars : List (String × ScalarInput)) : List (String × Value) :=
  scalars.map fun (name, scalar) => (referenceName name, Value.float scalar.value)

/-- The bindings for the whole table before any of them wins over another. -/
lemma exists_of_tableBindings {constants : List (String × Value)}
    (h : tableBindings formula d scalars = .ok constants) :
    ∃ values, aggregateBindings formula d.rows = .ok values ∧
      constants = Keyed.ofPairs (values ++ scalarBindings scalars ++ arrayBindings formula d) := by
  obtain ⟨values, hvalues, h⟩ := exists_of_bind_eq_ok h
  exact ⟨values, hvalues, (Except.ok.inj h).symm⟩

lemma aggregateBindings_keys {rows : List Row} {values : List (String × Value)}
    (h : aggregateBindings formula rows = .ok values) :
    values.map (·.1) = (aggregates formula).map fun a => identifier a.text := by
  rw [← List.forall₂_eq_eq_eq, List.forall₂_map_left_iff, List.forall₂_map_right_iff]
  refine (forall₂_of_mapM h).flip.imp fun pair a hpair => ?_
  obtain ⟨v, -, hpair⟩ := exists_of_bind_eq_ok hpair
  exact (congrArg Prod.fst (Except.ok.inj hpair)).symm

lemma arrayBindings_keys :
    (arrayBindings formula d).map (·.1) =
      if hasLookup formula then
        (Keyed.distinct d.columnIds).map fun y => arrayName (referenceName y)
      else [] := by
  rw [arrayBindings]
  split
  · rw [columnReferences, List.map_map, List.map_map]
    rfl
  · rfl

lemma not_mem_arrayBindings_keys {name : String}
    (h : ∀ y, arrayName (referenceName y) ≠ name) :
    name ∉ (arrayBindings formula d).map (·.1) := by
  rw [arrayBindings_keys]
  split
  · rw [List.mem_map]
    rintro ⟨y, _, heq⟩
    exact h y heq
  · exact List.not_mem_nil

/-- Neither an aggregate nor a whole column has the identifier of a reference. -/
lemma lookup_tableBindings {constants : List (String × Value)}
    (h : tableBindings formula d scalars = .ok constants) (x : String) :
    constants.lookup (referenceName x) =
      (scalarBindings scalars).reverse.lookup (referenceName x) := by
  obtain ⟨values, hvalues, rfl⟩ := exists_of_tableBindings h
  have harrays : (arrayBindings formula d).reverse.lookup (referenceName x) = none :=
    Keyed.lookup_reverse_eq_none_iff.2
      (not_mem_arrayBindings_keys fun y => (referenceName_ne_arrayName x y).symm)
  have haggregates : values.reverse.lookup (referenceName x) = none := by
    rw [Keyed.lookup_reverse_eq_none_iff, aggregateBindings_keys hvalues, List.mem_map]
    rintro ⟨a, ha, heq⟩
    exact referenceName_ne_identifier_text (proper_of_mem_aggregates ha) x heq.symm
  rw [Keyed.lookup_ofPairs, List.reverse_append, List.reverse_append, List.lookup_append,
    List.lookup_append, harrays, haggregates, Option.none_or, Option.or_none]

/-! ### The scope of a row -/

lemma mem_scalarBindings_keys {name : String} :
    name ∈ (scalarBindings scalars).map (·.1) ↔
      ∃ scalar ∈ scalars, referenceName scalar.1 = name := by
  rw [scalarBindings, List.map_map, List.mem_map]
  rfl

lemma lookup_scalarBindings_eq_none_iff {x : String} :
    (scalarBindings scalars).reverse.lookup (referenceName x) = none ↔
      ∀ scalar ∈ scalars, ¬ Alike scalar.1 x := by
  rw [Keyed.lookup_reverse_eq_none_iff, mem_scalarBindings_keys]
  simp only [not_exists, not_and, referenceName_eq_iff]

/-- The column that an identifier is looked up in: the last one with a name that is alike. -/
lemma find?_columnReferences (x : String) :
    ((columnReferences d).reverse.find? fun column => column.2 == referenceName x) =
      ((Keyed.distinct d.columnIds).reverse.find? fun y => referenceName y == referenceName x).map
        fun y => (y, referenceName y) := by
  rw [columnReferences, ← List.map_reverse, List.find?_map]
  rfl

lemma isSome_find?_column {x : String} (hx : x ∈ d.columnIds) :
    ((Keyed.distinct d.columnIds).reverse.find? fun y =>
      referenceName y == referenceName x).isSome := by
  rw [List.find?_isSome]
  exact ⟨x, List.mem_reverse.2 (Keyed.mem_distinct.2 hx), beq_self_eq_true _⟩

lemma find?_eq_self_iff {x : String} :
    ((Keyed.distinct d.columnIds).reverse.find? fun y => referenceName y == referenceName x) =
        some x ↔
      ∃ before after, Keyed.distinct d.columnIds = before ++ x :: after ∧
        ∀ y ∈ after, ¬ Alike y x := by
  have hmark : ∀ y : String, (!(referenceName y == referenceName x)) = true ↔ ¬ Alike y x := by
    intro y
    rw [Bool.not_eq_true', beq_eq_false_iff_ne, ne_eq, referenceName_eq_iff]
  rw [List.find?_eq_some_iff_append]
  constructor
  · rintro ⟨_, after, before, hsplit, hafter⟩
    refine ⟨before.reverse, after.reverse, ?_, ?_⟩
    · rw [← List.reverse_reverse (Keyed.distinct d.columnIds), hsplit, List.reverse_append,
        List.reverse_cons, List.append_assoc]
      rfl
    · exact fun y hy => (hmark y).1 (hafter y (List.mem_reverse.1 hy))
  · rintro ⟨before, after, hsplit, hafter⟩
    refine ⟨beq_self_eq_true _, after.reverse, before.reverse, ?_, ?_⟩
    · rw [hsplit, List.reverse_append, List.reverse_cons, List.append_assoc]
      rfl
    · exact fun y hy => (hmark y).2 (hafter y (List.mem_reverse.1 hy))

lemma compile_eq_ok {c : Compiled} (h : compile formula d scalars = .ok (.ok c)) :
    tableBindings formula d scalars = .ok c.constants ∧ c.columns = columnReferences d ∧
      Formula.parse (substituteReferences formula d scalars) = .ok c.expr := by
  obtain ⟨constants, hconstants, h⟩ := exists_of_bind_eq_ok h
  have h := Except.ok.inj h
  cases hparse : Formula.parse (substituteReferences formula d scalars) with
  | error fault => rw [hparse] at h; exact absurd h (by simp [Except.map])
  | ok expr =>
    rw [hparse] at h
    obtain rfl := Except.ok.inj h
    exact ⟨hconstants, rfl, rfl⟩

/-- A compiled formula binds an identifier, for the whole table or for a row. -/
def Compiled.Binds (c : Compiled) (name : String) : Prop :=
  name ∈ Keyed.keys c.constants ∨ name ∈ c.columns.map (·.2)

/-- Exactly what occurs in a formula is bound. -/
lemma binds_iff {c : Compiled} (h : compile formula d scalars = .ok (.ok c)) {name : String} :
    c.Binds name ↔ ∃ p : Bound, p.Occurs formula d scalars ∧ p.identifier = name := by
  obtain ⟨hconstants, hcolumns, -⟩ := compile_eq_ok h
  obtain ⟨values, haggregates, hvalues⟩ := exists_of_tableBindings hconstants
  have hkeys := aggregateBindings_keys haggregates
  have hreferences : (columnReferences d).map (·.2) =
      (Keyed.distinct d.columnIds).map referenceName := by
    rw [columnReferences, List.map_map]
    rfl
  rw [Compiled.Binds, hvalues, hcolumns, hreferences, Keyed.keys_ofPairs, Keyed.mem_distinct,
    List.map_append, List.map_append, List.mem_append, List.mem_append, hkeys, arrayBindings_keys]
  constructor
  · rintro (((hname | hname) | hname) | hname)
    · obtain ⟨a, ha, rfl⟩ := List.mem_map.1 hname
      exact ⟨.aggregate a, ha, rfl⟩
    · obtain ⟨pair, hpair, rfl⟩ := List.mem_map.1 hname
      obtain ⟨scalar, hscalar, rfl⟩ := List.mem_map.1 hpair
      exact ⟨.reference scalar.1, Or.inr (List.mem_map_of_mem hscalar), rfl⟩
    · split at hname
      · rename_i hlookup
        obtain ⟨y, hy, rfl⟩ := List.mem_map.1 hname
        exact ⟨.cells y, ⟨Keyed.mem_distinct.1 hy, hlookup⟩, rfl⟩
      · exact absurd hname List.not_mem_nil
    · obtain ⟨y, hy, rfl⟩ := List.mem_map.1 hname
      exact ⟨.reference y, Or.inl (Keyed.mem_distinct.1 hy), rfl⟩
  · rintro ⟨p, hp, rfl⟩
    cases p with
    | aggregate a => exact Or.inl (Or.inl (Or.inl (List.mem_map_of_mem hp)))
    | reference y =>
      rcases hp with hy | hy
      · exact Or.inr (List.mem_map_of_mem (Keyed.mem_distinct.2 hy))
      · obtain ⟨scalar, hscalar, rfl⟩ := List.mem_map.1 hy
        refine Or.inl (Or.inl (Or.inr (List.mem_map.2 ⟨_, List.mem_map_of_mem hscalar, rfl⟩)))
    | cells y =>
      rw [if_pos hp.2]
      exact Or.inl (Or.inr (List.mem_map_of_mem (Keyed.mem_distinct.2 hp.1)))

/-- What the identifier of a reference is bound to in a row: the last single value with a name that
is alike, or else the cell of the last such column. -/
lemma scope_referenceName {c : Compiled} (h : compile formula d scalars = .ok (.ok c)) (row : Row)
    (x : String) :
    c.scope row (referenceName x) =
      ((scalarBindings scalars).reverse.lookup (referenceName x)).or
        (((Keyed.distinct d.columnIds).reverse.find? fun y =>
          referenceName y == referenceName x).map (cellOf row)) := by
  obtain ⟨hconstants, hcolumns, -⟩ := compile_eq_ok h
  rw [Compiled.scope, lookup_tableBindings hconstants, hcolumns]
  simp only [find?_columnReferences, Option.map_map]
  cases (scalarBindings scalars).reverse.lookup (referenceName x) <;> rfl

/-- A reference to a column always has a value. -/
lemma eval_reference {c : Compiled} (h : compile formula d scalars = .ok (.ok c)) {x : String}
    (hx : x ∈ d.columnIds) (row : Row) (v : Value) :
    (Formula.Expr.symbol (referenceName x)).eval (c.scope row) = .ok v ↔
      c.scope row (referenceName x) = some v := by
  have hbound : (c.scope row (referenceName x)).isSome := by
    rw [scope_referenceName h, Option.isSome_or, Option.isSome_map, isSome_find?_column hx,
      Bool.or_true]
  obtain ⟨w, hw⟩ := Option.isSome_iff_exists.1 hbound
  rw [Formula.Expr.eval, Formula.resolve, hw, Except.ok.injEq, Option.some.injEq]

lemma cellOf_null_eq_iff {x y : String} :
    cellOf [(x, .null)] y = cellOf [(x, .null)] x ↔ y = x := by
  have hself : cellOf [(x, .null)] x = .number (.int 0) := by
    rw [cellOf, Keyed.lookup_cons_ite, if_pos rfl]
  constructor
  · intro h
    by_contra hne
    have hother : cellOf [(x, .null)] y = .number (.float Double.nan) := by
      rw [cellOf, Keyed.lookup_cons_ite, if_neg hne]
      rfl
    rw [hself, hother] at h
    exact absurd h (by simp)
  · rintro rfl
    rfl

/-- An empty cell tells the column from all single values and from every other column. -/
lemma reads_own_cell_iff {c : Compiled} (h : compile formula d scalars = .ok (.ok c)) {x : String}
    (hx : x ∈ d.columnIds) :
    (∀ row, (Formula.Expr.symbol (referenceName x)).eval (c.scope row) = .ok (cellOf row x)) ↔
      Unshadowed d scalars x := by
  simp only [eval_reference h hx, scope_referenceName h]
  rw [Unshadowed, ← lookup_scalarBindings_eq_none_iff, ← find?_eq_self_iff]
  constructor
  · -- the row with nothing but an empty cell at `x` tells all readings apart
    intro hreads
    have hrow := hreads [(x, .null)]
    cases hscalar : (scalarBindings scalars).reverse.lookup (referenceName x) with
    | some v =>
      -- single values are doubles, and the empty cell is the integer zero
      obtain ⟨before, after, hsplit, -⟩ := List.lookup_eq_some_iff.1 hscalar
      have hmem : (referenceName x, v) ∈ scalarBindings scalars := by
        rw [← List.mem_reverse, hsplit]
        exact List.mem_append_right _ List.mem_cons_self
      obtain ⟨scalar, _, hpair⟩ := List.mem_map.1 hmem
      obtain rfl : Value.float scalar.2.value = v := (Prod.mk.inj hpair).2
      rw [hscalar, Option.some_or, Option.some.injEq, cellOf, Keyed.lookup_cons_ite,
        if_pos rfl] at hrow
      exact absurd hrow (by simp [Value.float, Value.int])
    | none =>
      rw [hscalar, Option.none_or] at hrow
      obtain ⟨y, hy, hcell⟩ := Option.map_eq_some_iff.1 hrow
      rw [cellOf_null_eq_iff.1 hcell] at hy
      exact ⟨rfl, hy⟩
  · rintro ⟨hscalar, hcolumn⟩ row
    rw [hscalar, hcolumn, Option.none_or, Option.map_some]

end Worksheet.Table
