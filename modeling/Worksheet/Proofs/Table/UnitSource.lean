import Worksheet.Proofs.Table.Meaning
import Worksheet.Proofs.Table.UnitWalk

/-!
# Where the unit of a reference comes from

A reference reads the single value of its name if there is one, and else the column.  The
derivation of units looks into the columns first.  So a reference is *torn* when a single value has
the name of a column with a unit of its own: then the number is that of the single value and the
unit is that of the column.  Where no reference of a formula is torn, its unit is derived as if the
columns behind single values were not there.
-/

namespace Worksheet.Table

open Worksheet.Text

/-! ### What the derivation looks at -/

/-- The names in brackets of a formula, once aggregates have become plain references. -/
def unitReferences (formula : String) : List (List Char) :=
  matches? bracketPattern (withoutAggregates formula)

/-! ### Only the units of references matter -/

section Congruence

variable {f g : List Char → CompoundUnit} {s : List Char}

lemma exactUnit?_congr (h : ∀ name ∈ matches? bracketPattern s, f name = g name) :
    exactUnit? f s = exactUnit? g s := by
  cases hpair : pair? s with
  | none => simp [exactUnit?, hpair]
  | some found =>
    obtain ⟨left, op, right⟩ := found
    by_cases hop : op ∈ ['*', '/', '+', '-']
    · have hsame : ∀ name, left = .reference name ∨ right = .reference name → f name = g name := by
        intro name hname
        refine h name (reference_mem_stops_iff.1 ?_)
        rw [stops_of_pair? hpair hop]
        rcases hname with rfl | rfl <;> simp [Operand.stops]
      simp only [List.mem_cons, List.not_mem_nil, or_false] at hop
      rcases left with a | _ <;> rcases right with b | _ <;>
        simp only [Operand.reference.injEq, reduceCtorEq, or_false, false_or] at hsame <;>
        rcases hop with rfl | rfl | rfl | rfl <;> simp [exactUnit?, hpair, hsame]
    · rw [exactUnit?_of_other hpair hop, exactUnit?_of_other hpair hop]

lemma walkedUnit_congr (h : ∀ name ∈ matches? bracketPattern s, f name = g name) :
    walkedUnit f s = walkedUnit g s := by
  have hfold : (matches? stopPattern s).foldl (Walk.step f) {} =
      (matches? stopPattern s).foldl (Walk.step g) {} := by
    refine List.foldl_ext _ _ _ fun walk stop hstop => ?_
    cases stop with
    | operator c => rfl
    | reference name => simp only [Walk.step, h name (reference_mem_stops_iff.1 hstop)]
  simp only [walkedUnit, hfold]

end Congruence

/-- The unit of a formula depends on the units of its references only. -/
lemma deriveUnit_congr {formula : String}
    {columnUnits scalarUnits columnUnits' scalarUnits' : List (String × String)}
    (h : ∀ name ∈ unitReferences formula,
      unitOf columnUnits scalarUnits name = unitOf columnUnits' scalarUnits' name) :
    deriveUnit formula columnUnits scalarUnits = deriveUnit formula columnUnits' scalarUnits' := by
  simp only [deriveUnit, exactUnit?_congr h, walkedUnit_congr h]

/-! ### What a reference is bound to -/

/-- The value of a reference in a row: that of the single value of its name, or else the cell. -/
def boundValue (scalars : List (String × ScalarInput)) (row : Row) (x : String) : Value :=
  match scalars.lookup x with
  | some scalar => .float scalar.value
  | none => cellOf row x

/-- The unit of what a reference is bound to: that of the single value of its name, or else the
column's; what is missing or empty is no unit. -/
def boundUnit (columnUnits : List (String × String)) (scalars : List (String × ScalarInput))
    (x : String) : CompoundUnit :=
  match scalars.lookup x with
  | some scalar => .parse scalar.unit
  | none => .parse ((columnUnits.lookup x).getD "")

/-- A single value has the name of a column with a unit of its own. -/
def Torn (columnUnits : List (String × String)) (scalars : List (String × ScalarInput))
    (x : String) : Prop :=
  ∃ scalar unit, scalars.lookup x = some scalar ∧ columnUnits.lookup x = some unit ∧ unit ≠ "" ∧
    CompoundUnit.parse unit ≠ CompoundUnit.parse scalar.unit

/-- The units of the columns that no single value stands in front of. -/
def unitsInSight (columnUnits : List (String × String))
    (scalars : List (String × ScalarInput)) : List (String × String) :=
  columnUnits.filter fun column => !Keyed.has scalars column.1

/-- The units of the single values of a request. -/
def ColumnRequest.scalarUnits (request : ColumnRequest) : List (String × String) :=
  request.scalars.map fun (name, scalar) => (name, scalar.unit)

/-- The units of the columns for a request: those that it gives, or else those of the dataset. -/
def ColumnRequest.givenUnits (request : ColumnRequest) (d : Dataset) : List (String × String) :=
  request.columnUnits.getD d.units

section Bindings

variable {columnUnits : List (String × String)} {scalars : List (String × ScalarInput)}
  {x : String}

lemma parse_empty : CompoundUnit.parse "" = .unitless := rfl

/-- The first unit that is given, of the column and then of the single value. -/
lemma unitOf_eq (columnUnits scalarUnits : List (String × String)) (x : String) :
    unitOf columnUnits scalarUnits x.toList =
      .parse ((((columnUnits.lookup x).filter fun unit => !unit.isEmpty).or
        ((scalarUnits.lookup x).filter fun unit => !unit.isEmpty)).getD "") := by
  simp only [unitOf, String.ofList_toList]
  cases (columnUnits.lookup x).filter fun unit => !unit.isEmpty with
  | some unit => rfl
  | none =>
    cases (scalarUnits.lookup x).filter fun unit => !unit.isEmpty with
    | some unit => rfl
    | none => exact parse_empty.symm

/-- An empty unit is as good as none. -/
lemma getD_filter_isEmpty (unit : Option String) :
    (unit.filter fun unit => !unit.isEmpty).getD "" = unit.getD "" := by
  cases unit with
  | none => rfl
  | some unit =>
    by_cases hempty : unit = "" <;> simp [Option.filter, hempty]

lemma lookup_scalarUnits (request : ColumnRequest) (x : String) :
    request.scalarUnits.lookup x = (request.scalars.lookup x).map ScalarInput.unit :=
  Keyed.lookup_map id ScalarInput.unit fun _ _ => id

lemma lookup_unitsInSight (columnUnits : List (String × String))
    (scalars : List (String × ScalarInput)) (x : String) :
    (unitsInSight columnUnits scalars).lookup x =
      if Keyed.has scalars x then none else columnUnits.lookup x := by
  induction columnUnits with
  | nil => exact (ite_self none).symm
  | cons column columnUnits ih =>
    obtain ⟨name, unit⟩ := column
    have hfilter : unitsInSight ((name, unit) :: columnUnits) scalars =
        if Keyed.has scalars name then unitsInSight columnUnits scalars
        else (name, unit) :: unitsInSight columnUnits scalars := by
      cases hhas : Keyed.has scalars name <;> simp [unitsInSight, hhas]
    rw [hfilter, Keyed.lookup_cons_ite]
    by_cases hname : x = name
    · subst hname
      split
      · rw [ih, if_pos ‹_›]
      · rw [Keyed.lookup_cons_ite, if_pos rfl, if_pos rfl]
    · rw [if_neg hname]
      split
      · exact ih
      · rw [Keyed.lookup_cons_ite, if_neg hname, ih]

/-- A single value by whose name the derivation looks into the columns first. -/
lemma unitOf_eq_boundUnit_iff (request : ColumnRequest) (columnUnits : List (String × String))
    (x : String) :
    unitOf columnUnits request.scalarUnits x.toList = boundUnit columnUnits request.scalars x ↔
      ¬ Torn columnUnits request.scalars x := by
  rw [unitOf_eq, lookup_scalarUnits]
  cases hscalar : request.scalars.lookup x with
  | none =>
    have hwhole : ¬ Torn columnUnits request.scalars x := by
      rintro ⟨scalar, _, hsome, -⟩
      rw [hscalar] at hsome
      exact absurd hsome (by simp)
    rw [boundUnit, hscalar, Option.map_none, Option.filter_none, Option.or_none,
      getD_filter_isEmpty]
    exact iff_of_true rfl hwhole
  | some scalar =>
    rw [boundUnit, hscalar, Option.map_some]
    cases hcolumn : (columnUnits.lookup x).filter fun unit => !unit.isEmpty with
    | none =>
      -- the column has no unit, or an empty one
      have hwhole : ¬ Torn columnUnits request.scalars x := by
        rintro ⟨_, unit, -, hunit, hne, -⟩
        rw [hunit] at hcolumn
        exact absurd hcolumn (by simp [Option.filter, hne])
      rw [Option.none_or, getD_filter_isEmpty, Option.getD_some]
      exact iff_of_true rfl hwhole
    | some unit =>
      obtain ⟨hunit, hne⟩ := Option.filter_eq_some_iff.1 hcolumn
      rw [Option.some_or, Option.getD_some]
      constructor
      · rintro hsame ⟨scalar', unit', hscalar', hunit', -, hother⟩
        obtain rfl := Option.some.inj (hscalar.symm.trans hscalar')
        obtain rfl := Option.some.inj (hunit.symm.trans hunit')
        exact hother hsame
      · intro hwhole
        by_contra hother
        exact hwhole ⟨scalar, unit, hscalar, hunit, by simpa using hne, hother⟩

/-- With the columns in sight alone every unit is that of the binding. -/
lemma unitOf_unitsInSight (request : ColumnRequest) (columnUnits : List (String × String))
    (x : String) :
    unitOf (unitsInSight columnUnits request.scalars) request.scalarUnits x.toList =
      boundUnit columnUnits request.scalars x := by
  have hlookup := lookup_unitsInSight columnUnits request.scalars x
  have hhas : Keyed.has request.scalars x = true ↔ x ∈ Keyed.keys request.scalars :=
    Keyed.has_iff_mem_keys
  rw [Keyed.mem_keys_iff] at hhas
  have hwhole : ¬ Torn (unitsInSight columnUnits request.scalars) request.scalars x := by
    rintro ⟨scalar, unit, hscalar, hunit, -⟩
    rw [hlookup, if_pos (hhas.2 (by rw [hscalar]; rfl))] at hunit
    exact absurd hunit (by simp)
  rw [(unitOf_eq_boundUnit_iff request _ x).2 hwhole, boundUnit, boundUnit, hlookup]
  cases hscalar : request.scalars.lookup x with
  | some scalar => rfl
  | none =>
    rw [hscalar] at hhas
    rw [if_neg fun h => absurd (hhas.1 h) (by simp)]

end Bindings

/-! ### Values and units of references -/

lemma ofPairs_of_nodup {α : Type} {entries : List (String × α)}
    (h : (Keyed.keys entries).Nodup) : Keyed.ofPairs entries = entries :=
  Keyed.putAll_of_fresh h fun _ _ => List.not_mem_nil

/-- A row binds the identifier of a name to the single value, or else to the cell. -/
lemma scope_eq_boundValue {formula : String} {d : Dataset} {scalars : List (String × ScalarInput)}
    {c : Compiled} {x : String} (hscalars : (Keyed.keys scalars).Nodup)
    (hc : compile formula d scalars = .ok (.ok c)) (hx : x ∈ knownNames d scalars)
    (hown : OwnIdentifier d scalars x) (row : Row) :
    c.scope row (referenceName x) = some (boundValue scalars row x) := by
  rw [scope_referenceName hc, lookup_scalarBindings hown, ofPairs_of_nodup hscalars, boundValue]
  cases hscalar : scalars.lookup x with
  | some scalar => rfl
  | none =>
    have hout : x ∉ scalars.map (·.1) := fun hmem => by
      have hsome := Keyed.mem_keys_iff.1 hmem
      rw [hscalar] at hsome
      exact absurd hsome (by simp)
    rw [find?_column hown ((List.mem_append.1 hx).resolve_right hout)]
    rfl

/-- **The unit of a reference is that of what it is bound to unless the two are torn apart.**  A row
reads a reference from the single value of its name, and only without one from the column; this
holds for every name that shares its identifier with no other.  The unit that is derived for the
reference is that of the same binding exactly if the single value is not in front of a column with
another unit of its own.  If no reference of the formula is torn, its unit is derived as from the
columns that no single value is in front of, and then all units are those of the bindings. -/
theorem unit_of_binding_iff (d : Dataset) (request : ColumnRequest)
    (hscalars : (Keyed.keys request.scalars).Nodup) :
    (∀ c, compile request.formula d request.scalars = .ok (.ok c) →
      ∀ x ∈ knownNames d request.scalars, OwnIdentifier d request.scalars x → ∀ row,
        c.scope row (referenceName x) = some (boundValue request.scalars row x)) ∧
    (∀ x, unitOf (request.givenUnits d) request.scalarUnits x.toList =
        boundUnit (request.givenUnits d) request.scalars x ↔
      ¬ Torn (request.givenUnits d) request.scalars x) ∧
    (∀ x, unitOf (unitsInSight (request.givenUnits d) request.scalars) request.scalarUnits
        x.toList = boundUnit (request.givenUnits d) request.scalars x) ∧
    ((∀ name ∈ unitReferences request.formula,
        ¬ Torn (request.givenUnits d) request.scalars (String.ofList name)) →
      request.derive d =
        deriveUnit request.formula (unitsInSight (request.givenUnits d) request.scalars)
          request.scalarUnits) := by
  refine ⟨fun c hc x hx hown row => scope_eq_boundValue hscalars hc hx hown row,
    unitOf_eq_boundUnit_iff request _, unitOf_unitsInSight request _, fun hwhole => ?_⟩
  refine deriveUnit_congr fun name hname => ?_
  have hunit := (unitOf_eq_boundUnit_iff request (request.givenUnits d) _).2 (hwhole name hname)
  rw [← unitOf_unitsInSight, String.toList_ofList] at hunit
  exact hunit

/-- A mass in kilograms, and a single value of the same name in litres. -/
def shadowedMass : Dataset :=
  { rows := [[("X", .int 5)]], columns := [⟨"X", "X", .number, some "kg"⟩] }

/-- Twice that value. -/
def twiceShadowed : ColumnRequest :=
  { name := "out", formula := "[X] * 2", scalars := [("X", { value := 100, unit := "L" })] }

/-- The value is that of the single value, and the unit is that of the column. -/
theorem unit_of_binding_iff_shadowed :
    (Keyed.keys twiceShadowed.scalars).Nodup ∧
    (∃ c, compile twiceShadowed.formula shadowedMass twiceShadowed.scalars = .ok (.ok c) ∧
      c.scope [("X", .int 5)] (referenceName "X") = some (.float 100)) ∧
    Torn (twiceShadowed.givenUnits shadowedMass) twiceShadowed.scalars "X" ∧
    unitOf (twiceShadowed.givenUnits shadowedMass) twiceShadowed.scalarUnits "X".toList ≠
      boundUnit (twiceShadowed.givenUnits shadowedMass) twiceShadowed.scalars "X" ∧
    (twiceShadowed.derive shadowedMass).unit = "kg" := by
  have hkeys : (Keyed.keys twiceShadowed.scalars).Nodup := by decide
  obtain ⟨hvalue, hunit, -, -⟩ := unit_of_binding_iff shadowedMass twiceShadowed hkeys
  have htorn : Torn (twiceShadowed.givenUnits shadowedMass) twiceShadowed.scalars "X" :=
    ⟨_, "kg", rfl, rfl, by decide, by decide +kernel⟩
  have hown : OwnIdentifier shadowedMass twiceShadowed.scalars "X" := by
    unfold OwnIdentifier
    decide
  have hcompile : ∃ c, compile twiceShadowed.formula shadowedMass twiceShadowed.scalars =
      .ok (.ok c) := ⟨_, rfl⟩
  obtain ⟨c, hc⟩ := hcompile
  exact ⟨hkeys, ⟨c, hc, hvalue c hc "X" (by decide) hown _⟩, htorn,
    fun h => (hunit "X").1 h htorn, by decide +kernel⟩

end Worksheet.Table
