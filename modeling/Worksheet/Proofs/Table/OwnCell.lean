import Worksheet.Proofs.Formula.Phrase
import Worksheet.Proofs.Table.Binding

/-!
# Which references read their own column

The formula `[x]` is rewritten to the identifier of `x` and nothing else, whatever columns and
single values there are: no other reference, aggregate or lookup call is found in it.  Its value in
a row is therefore that of the identifier, which is the cell of `x` exactly when nothing bound
later is alike.
-/

namespace Worksheet.Table

open Worksheet.Text

variable {formula : String} {d : Dataset} {scalars : List (String × ScalarInput)} {x : String}

/-! ### A formula that is one reference -/

/-- An aggregate starts with a dollar sign and has a bracket behind it. -/
lemma mem_of_aggregate? {c : Char} {s : List Char} {a : Aggregate}
    (h : aggregate? (c :: s) = some a) : c = '$' ∧ '[' ∈ s := by
  obtain ⟨-, -, -, hhead⟩ := aggregate?_eq_some_iff.1 h
  rw [toList_text, List.cons_prefix_cons] at hhead
  exact ⟨hhead.1.symm, hhead.2.subset (by simp)⟩

lemma aggregates_bracket (hx : BracketFree x) : aggregates (bracket x) = [] := by
  have hno : NoMatch aggregatePattern (bracket x).toList := by
    intro before c rest hsuffix
    rw [toList_bracket] at hsuffix
    cases hfound : aggregate? (c :: rest) with
    | none => rw [aggregatePattern, hfound, Option.map_none]
    | some a =>
      obtain ⟨rfl, hmem⟩ := mem_of_aggregate? hfound
      rcases List.suffix_cons_iff.1 hsuffix with heq | htail
      · exact absurd (List.cons.inj heq).1 (by decide)
      · have hmem := htail.subset (List.mem_cons_of_mem _ hmem)
        rw [List.mem_append, List.mem_singleton] at hmem
        exact (hmem.elim hx.1 (by decide)).elim
  rw [aggregates, matches?_of_noMatch hno, List.foldl_nil]

/-- In a bracketed name no other bracketed name is found. -/
lemma replaceReference_bracket_of_ne (hx : BracketFree x) {y : String} (hne : y ≠ x) :
    replaceReference (bracket x).toList y = (bracket x).toList := by
  refine substitute_of_noMatch (noMatch_literalPattern fun t hsuffix hpre => ?_) _
  rw [toList_bracket] at hsuffix hpre
  obtain ⟨c, cs, rfl⟩ : ∃ c cs, t = c :: cs := by
    cases t with
    | nil => exact absurd (List.prefix_nil.1 hpre) (by simp)
    | cons c cs => exact ⟨c, cs, rfl⟩
  obtain ⟨rfl, hpre'⟩ := List.cons_prefix_cons.1 hpre
  -- an opening bracket stands only in front, a closing one only at the end
  rcases List.suffix_cons_iff.1 hsuffix with heq | htail
  · obtain rfl : cs = x.toList ++ [']'] := (List.cons.inj heq).2
    rcases List.prefix_concat_iff.1 hpre' with hsame | hinside
    · exact hne (String.toList_inj.1 (List.append_cancel_right hsame))
    · exact hx.2 (hinside.subset (List.mem_append_right _ (List.mem_singleton_self _)))
  · have hmem := htail.subset List.mem_cons_self
    rw [List.mem_append, List.mem_singleton] at hmem
    exact (hmem.elim hx.1 (by decide)).elim

lemma not_mem_referenceName {c : Char} (hc : isNameChar c = false) (x : String) :
    c ∉ (referenceName x).toList := by
  intro hmem
  have := isNameChar_of_mem_referenceName hmem
  rw [hc] at this
  exact absurd this (by decide)

lemma replaceReference_referenceName (x y : String) :
    replaceReference (referenceName x).toList y = (referenceName x).toList := by
  refine substitute_of_noMatch (noMatch_literalPattern fun t hsuffix hpre => ?_) _
  rw [toList_bracket] at hpre
  have hmem := hsuffix.subset (hpre.subset List.mem_cons_self)
  exact not_mem_referenceName (by decide) x hmem

lemma replaceReference_self (x : String) :
    replaceReference (bracket x).toList x = (referenceName x).toList :=
  replaceAll_self (by rw [toList_bracket]; simp) _

/-- A reference is replaced when its name has its turn, and stays replaced. -/
lemma foldl_replaceReference (hx : BracketFree x) {names : List String} (hmem : x ∈ names) :
    names.foldl replaceReference (bracket x).toList = (referenceName x).toList := by
  have hkeep : ∀ names : List String,
      names.foldl replaceReference (referenceName x).toList = (referenceName x).toList := by
    intro names
    induction names with
    | nil => rfl
    | cons y names ih => rw [List.foldl_cons, replaceReference_referenceName, ih]
  -- names before the turn of `x` change nothing, and neither do those after it
  induction names with
  | nil => exact absurd hmem List.not_mem_nil
  | cons y names ih =>
    rw [List.foldl_cons]
    by_cases hy : y = x
    · rw [hy, replaceReference_self, hkeep]
    · rw [replaceReference_bracket_of_ne hx hy]
      exact ih ((List.mem_cons.1 hmem).resolve_left (Ne.symm hy))

lemma mem_of_lookupCall? {s : List Char} {found : LookupCall × Nat}
    (h : lookupCall? s = some found) : '(' ∈ s := by
  unfold lookupCall? at h
  split at h
  · rename_i rest htrim
    have hmem : '(' ∈ trimStart (s.drop "XLOOKUP".length) := htrim ▸ List.mem_cons_self
    exact List.mem_of_mem_drop ((List.dropWhile_suffix _).subset hmem)
  · split at h <;> exact absurd h (by simp [bind, Option.bind])

lemma withWholeColumns_referenceName (references : List String) (x : String) :
    withWholeColumns references (referenceName x).toList = (referenceName x).toList := by
  refine substitute_of_noMatch (fun before c rest hsuffix => ?_) _
  cases hfound : lookupPattern before (c :: rest) with
  | none => rfl
  | some found =>
    have hmem := hsuffix.subset (mem_of_lookupCall? hfound)
    exact absurd hmem (not_mem_referenceName (by decide) x)

lemma substituteReferences_bracket (hx : BracketFree x) (hmem : x ∈ d.columnIds) :
    substituteReferences (bracket x) d scalars = referenceName x := by
  have hnames : x ∈ (columnReferences d).map (·.1) ++ scalars.map (·.1) := by
    refine List.mem_append_left _ (List.mem_map.2 ⟨(x, referenceName x), ?_, rfl⟩)
    exact List.mem_map.2 ⟨x, Keyed.mem_distinct.2 hmem, rfl⟩
  have haggregates : replaceAggregates (bracket x) = (bracket x).toList := by
    rw [replaceAggregates, aggregates_bracket hx, List.foldl_nil]
  rw [substituteReferences, haggregates]
  simp only [foldl_replaceReference hx hnames, withWholeColumns_referenceName, ite_self,
    String.ofList_toList]

lemma isName_referenceName (x : String) : Formula.Phrase.IsName (referenceName x).toList := by
  have hlist := toList_referenceName x
  refine ⟨_, _, hlist, rfl, fun c hc => ?_, fun hword => ?_⟩
  · have hmem : c ∈ (referenceName x).toList := by
      rw [hlist]
      exact List.mem_cons_of_mem _ hc
    exact isNameChar_of_mem_referenceName hmem
  · have hfirst : ∀ word ∈ ["not", "true", "false", "null"], word.toList.head? ≠ some '_' := by
      decide
    rw [String.ofList_toList] at hword
    exact hfirst _ hword (by rw [hlist]; rfl)

lemma parse_referenceName (x : String) :
    Formula.parse (referenceName x) = .ok (.symbol (referenceName x)) := by
  obtain ⟨c, cs, hname, hc, hcs, hplain⟩ := isName_referenceName x
  rw [String.ofList_toList] at hplain
  exact Formula.parse_name hname hc hcs hplain

lemma compile_bracket (hx : BracketFree x) (hmem : x ∈ d.columnIds) :
    ∃ c, compile (bracket x) d scalars = .ok (.ok c) ∧ c.expr = .symbol (referenceName x) := by
  have hvalues : aggregateBindings (bracket x) d.rows = .ok [] := by
    rw [aggregateBindings, aggregates_bracket hx]
    rfl
  simp only [compile, tableBindings, hvalues, substituteReferences_bracket hx hmem,
    parse_referenceName]
  exact ⟨_, rfl, rfl⟩

/-- **Which references read their own column.**  A compiled formula binds the identifiers of
what occurs in it, and two of them are equal exactly when the names are alike.  So a reference to a
column has the cell of that very column as its value, in every row, if and only if no single value
and no later column has a name that is alike; and this is what the formula `[x]` computes. -/
theorem reads_own_column_iff (formula : String) (d : Dataset)
    (scalars : List (String × ScalarInput)) :
    (∀ c, compile formula d scalars = .ok (.ok c) →
      (∀ name, c.Binds name ↔ ∃ p : Bound, p.Occurs formula d scalars ∧ p.identifier = name) ∧
      ∀ x ∈ d.columnIds,
        ((∀ row, (Formula.Expr.symbol (referenceName x)).eval (c.scope row) =
            .ok (cellOf row x)) ↔
          Unshadowed d scalars x)) ∧
    (∀ p q : Bound, p.Occurs formula d scalars → q.Occurs formula d scalars →
      (p.identifier = q.identifier ↔ p.Alike q)) ∧
    ∀ x ∈ d.columnIds, BracketFree x →
      ∃ c, compile (bracket x) d scalars = .ok (.ok c) ∧
        ((∀ row, c.expr.eval (c.scope row) = .ok (cellOf row x)) ↔ Unshadowed d scalars x) := by
  refine ⟨fun c hc => ⟨fun name => binds_iff hc, fun x hx => reads_own_cell_iff hc hx⟩, ?_, ?_⟩
  · intro p q hp hq
    exact Bound.identifier_eq_iff hp.proper hq.proper
  · intro x hx hfree
    obtain ⟨c, hc, hexpr⟩ := compile_bracket hfree hx
    refine ⟨c, hc, ?_⟩
    rw [hexpr]
    exact reads_own_cell_iff hc hx

/-- Two columns with names that are alike. -/
def twins : Dataset :=
  { rows := [[("a b", .int 1), ("a_b", .int 2)]]
    columns := [⟨"a b", "a b", .number, none⟩, ⟨"a_b", "a_b", .number, none⟩] }

/-- The first of two columns with names that are alike is never read: `[a b]` has the cells of
`a_b`. -/
theorem reads_own_column_iff_twins :
    twins.columnIds.Nodup ∧ "a b" ∈ twins.columnIds ∧ "a_b" ∈ twins.columnIds ∧
    BracketFree "a b" ∧ BracketFree "a_b" ∧
    (Bound.reference "a b").identifier = (Bound.reference "a_b").identifier ∧
    (∃ c, compile "[a b]" twins [] = .ok (.ok c) ∧ c.Binds (referenceName "a b") ∧
      ¬ ∀ row, c.expr.eval (c.scope row) = .ok (cellOf row "a b")) ∧
    ∃ c, compile "[a_b]" twins [] = .ok (.ok c) ∧
      ∀ row, c.expr.eval (c.scope row) = .ok (cellOf row "a_b") := by
  have hfirst : "a b" ∈ twins.columnIds := by decide
  have hsecond : "a_b" ∈ twins.columnIds := by decide
  have hfree : BracketFree "a b" := by unfold BracketFree; decide
  have hfree' : BracketFree "a_b" := by unfold BracketFree; decide
  have halike : Alike "a_b" "a b" := referenceName_eq_iff.1 (by decide)
  have hunshadowed : Unshadowed twins [] "a_b" :=
    ⟨fun scalar h => absurd h List.not_mem_nil, ["a b"], [], by decide,
      fun y h => absurd h List.not_mem_nil⟩
  have hshadowed : ¬ Unshadowed twins [] "a b" := by
    rintro ⟨-, before, after, hsplit, hafter⟩
    have hdistinct : Keyed.distinct twins.columnIds = ["a b", "a_b"] := by decide
    rw [hdistinct] at hsplit
    cases before with
    | nil =>
      obtain rfl : ["a_b"] = after := (List.cons.inj hsplit).2
      exact hafter "a_b" (by decide) halike
    | cons y before =>
      have hmem : "a b" ∈ ["a_b"] := by
        rw [(List.cons.inj hsplit).2]
        exact List.mem_append_right _ List.mem_cons_self
      exact absurd hmem (by decide)
  obtain ⟨hbinds, hshare, hlone⟩ := reads_own_column_iff "[a b]" twins []
  obtain ⟨c, hc, hreads⟩ := hlone "a b" hfirst hfree
  obtain ⟨c', hc', hreads'⟩ := hlone "a_b" hsecond hfree'
  exact ⟨by decide, hfirst, hsecond, hfree, hfree',
    (hshare (.reference "a b") (.reference "a_b") (Or.inl hfirst) (Or.inl hsecond)).2
      (referenceName_eq_iff.1 (by decide)),
    ⟨c, hc, ((hbinds c hc).1 _).2 ⟨.reference "a b", Or.inl hfirst, rfl⟩,
      fun hall => hshadowed (hreads.1 hall)⟩,
    c', hc', hreads'.2 hunshadowed⟩

end Worksheet.Table
