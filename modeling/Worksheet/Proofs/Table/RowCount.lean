import Worksheet.Proofs.Table.CombinedColumns

/-!
# Row counts

No operation makes more rows than the largest of the datasets that it takes.  A formula column, a
filter and a join go through the rows of one dataset and give at most one row for each; so does
every transform but a combination, which gives as many rows as its longest source has.
-/

namespace Worksheet

/-- The dataset has at most `n` rows. -/
def Dataset.AtMost (n : Int) (d : Dataset) : Prop := d.rows.length ≤ n

lemma Dataset.AtMost.of_length_le {n : Int} {d made : Dataset} (h : d.AtMost n)
    (hle : made.rows.length ≤ d.rows.length) : made.AtMost n :=
  (Int.ofNat_le.2 hle).trans h

namespace Table

variable {n : Int} {d : Dataset}

/-- The operation gives no dataset of more than `n` rows. -/
def Outcome.AtMost (n : Int) (outcome : Outcome) : Prop :=
  Gives (fun success => success.dataset.AtMost n) outcome

lemma atMost_changed (h : d.AtMost n) : Outcome.AtMost n (changed d) := .ok h

lemma atMost_error (fault : TableFault) : Outcome.AtMost n (.error fault) := Gives.error fault

/-! ### Transforms -/

lemma longest_le_iff {sources : List Dataset} {m : Nat} :
    longest sources ≤ m ↔ ∀ source ∈ sources, source.rows.length ≤ m := by
  rw [← Nat.not_lt, longest, lt_foldl_max_iff]
  simp

/-- Where one dataset is within the bound, so is the length of the longest of any others that are:
without others it is zero. -/
lemma longest_le (h : d.AtMost n) {sources : List Dataset}
    (hsources : ∀ source ∈ sources, source.AtMost n) : (longest sources : Int) ≤ n := by
  obtain ⟨m, rfl⟩ := Int.eq_ofNat_of_zero_le ((Int.natCast_nonneg d.rows.length).trans h)
  exact Int.ofNat_le.2 (longest_le_iff.2 fun source hsource =>
    Int.ofNat_le.1 (hsources source hsource))

/-- A transform keeps the number of rows, or makes as many as the longest source has. -/
lemma length_of_apply {sources : Option (List Dataset)} {op : Operation} {made : Dataset}
    (hmade : op.apply sources d = .ok made) :
    made.rows.length = d.rows.length ∨ made.rows.length = longest (sources.getD [d]) := by
  cases op with
  | delete id =>
    obtain rfl := Except.ok.inj hmade
    exact Or.inl (List.length_map _)
  | rename id newName =>
    obtain rfl := Except.ok.inj hmade
    exact Or.inl (List.length_map _)
  | select wanted =>
    obtain rfl := Except.ok.inj hmade
    rw [selectColumns]
    split
    · exact Or.inl rfl
    · exact Or.inl (List.length_map _)
  | setUnit id unit =>
    obtain rfl := Except.ok.inj hmade
    exact Or.inl rfl
  | combine inputs => exact Or.inr (length_of_combine hmade)

lemma atMost_apply {sources : Option (List Dataset)} {op : Operation} {made : Dataset}
    (h : d.AtMost n) (hsources : ∀ source ∈ sources.getD [], source.AtMost n)
    (hmade : op.apply sources d = .ok made) : made.AtMost n := by
  rcases length_of_apply hmade with hlength | hlength
  · exact h.of_length_le hlength.le
  · rw [Dataset.AtMost, hlength]
    cases sources with
    | none => exact longest_le h (by simpa using h)
    | some sources => exact longest_le h hsources

lemma atMost_transform {sources : Option (List Dataset)} (operations : List Operation)
    (h : d.AtMost n) (hsources : ∀ source ∈ sources.getD [], source.AtMost n) :
    Outcome.AtMost n (transform d operations sources) :=
  Gives.bind fun _ hlast => atMost_changed <|
    foldlM_invariant (Dataset.AtMost n)
      (fun _ _ _ _ hd hmade => atMost_apply hd hsources hmade) h hlast

/-! ### Filters, joins and formula columns -/

lemma atMost_filter {criteria : Criteria} (h : d.AtMost n) :
    Gives (Outcome.AtMost n) (filter d criteria) := by
  rw [filter]
  split
  · exact .ok (atMost_error _)
  · exact .bind fun kept hkept => .ok <| atMost_changed <|
      h.of_length_le (sublist_of_filterRows hkept).length_le

lemma atMost_join {main lookup : Dataset} {keys : JoinKeys} (h : main.AtMost n) :
    Outcome.AtMost n (join main lookup keys) := by
  rw [join]
  split
  · exact atMost_error _
  · exact atMost_changed (h.of_length_le (by rw [List.length_map]))

lemma length_withColumn_le (d : Dataset) (column : Column) (cells : List Value) :
    (withColumn d column cells).rows.length ≤ d.rows.length := by
  rw [withColumn, List.length_zipWith]
  exact Nat.min_le_left _ _

lemma atMost_addColumn {request : ColumnRequest} (h : d.AtMost n) :
    Gives (Outcome.AtMost n) (addColumn d request) := by
  rintro outcome houtcome success rfl
  obtain ⟨column, cells, -, hdataset⟩ := dataset_of_addColumn houtcome
  rw [hdataset]
  exact h.of_length_le (length_withColumn_le d column cells)

end Table

end Worksheet
