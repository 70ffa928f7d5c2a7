import Worksheet.Proofs.Keyed
import Worksheet.Pipeline.JoinSides

/-!
# Edges that no side of a join takes

An edge takes a side of a join by its handle, if it is the first with this handle, or by being first
among those left over.  Dropping edges that take no side leaves both sides as they are.
-/

namespace Worksheet.Pipeline

variable {p : Edge → Bool}

lemma firstWith_cons (handle : String) (edge : Edge) (edges : List Edge) :
    firstWith handle (edge :: edges) =
      if edge.targetHandle = some handle then some edge else firstWith handle edges := by
  rw [firstWith, firstWith, List.find?_cons]
  by_cases h : edge.targetHandle = some handle
  · rw [if_pos h, beq_iff_eq.2 h]
  · rw [if_neg h, beq_false_of_ne h]

lemma firstWith_filter {handle : String} {edges : List Edge}
    (h : ∀ e ∈ firstWith handle edges, p e = true) :
    firstWith handle (edges.filter p) = firstWith handle edges := by
  induction edges with
  | nil => rfl
  | cons edge edges ih =>
    rw [firstWith_cons] at h ⊢
    by_cases hedge : edge.targetHandle = some handle
    · rw [if_pos hedge] at h ⊢
      rw [List.filter_cons_of_pos (h edge rfl), firstWith_cons, if_pos hedge]
    · rw [if_neg hedge] at h ⊢
      by_cases hp : p edge = true
      · rw [List.filter_cons_of_pos hp, firstWith_cons, if_neg hedge, ih h]
      · rw [List.filter_cons_of_neg hp, ih h]

/-- An edge whose handle is not among those looked for is left over. -/
lemma withoutFirst_cons_of_not_mem {handles : List String} {edge : Edge} (edges : List Edge)
    (h : ∀ handle ∈ edge.targetHandle, handle ∉ handles) :
    withoutFirst handles (edge :: edges) = edge :: withoutFirst handles edges := by
  rw [withoutFirst]
  split
  · rename_i handle hhandle
    rw [if_neg (h handle hhandle)]
  · rfl

lemma withoutFirst_filter {handles : List String} {edges : List Edge} (hnodup : handles.Nodup)
    (h : ∀ handle ∈ handles, ∀ e ∈ firstWith handle edges, p e = true) :
    withoutFirst handles (edges.filter p) = (withoutFirst handles edges).filter p := by
  induction edges generalizing handles with
  | nil => rfl
  | cons edge edges ih =>
    by_cases htaken : ∃ handle ∈ handles, edge.targetHandle = some handle
    · obtain ⟨handle, hmem, hhandle⟩ := htaken
      have hedge : p edge = true := h handle hmem edge (by rw [firstWith_cons, if_pos hhandle]; rfl)
      rw [List.filter_cons_of_pos hedge, withoutFirst, withoutFirst, hhandle]
      simp only [hmem, if_true]
      refine ih (hnodup.erase handle) fun other hother e he => ?_
      have hne : other ≠ handle := by
        rintro rfl
        exact hnodup.not_mem_erase hother
      refine h other (List.mem_of_mem_erase hother) e ?_
      rwa [firstWith_cons, if_neg (by rw [hhandle, Option.some.injEq]; exact Ne.symm hne)]
    · have hrest : ∀ handle ∈ edge.targetHandle, handle ∉ handles :=
        fun handle hhandle hmem => htaken ⟨handle, hmem, hhandle⟩
      have hfirst : ∀ handle ∈ handles, ∀ e ∈ firstWith handle edges, p e = true := by
        intro handle hmem e he
        refine h handle hmem e ?_
        rwa [firstWith_cons, if_neg fun hhandle => htaken ⟨handle, hmem, hhandle⟩]
      rw [withoutFirst_cons_of_not_mem edges hrest]
      by_cases hp : p edge = true
      · rw [List.filter_cons_of_pos hp, List.filter_cons_of_pos hp,
          withoutFirst_cons_of_not_mem _ hrest, ih hnodup hfirst]
      · rw [List.filter_cons_of_neg hp, List.filter_cons_of_neg hp, ih hnodup hfirst]

lemma takeSide_filter {named : Option Edge} {left : List Edge}
    (h : ∀ e ∈ (takeSide named left).1, p e = true) :
    takeSide named (left.filter p) =
      ((takeSide named left).1, (takeSide named left).2.filter p) := by
  cases named with
  | some edge => rfl
  | none =>
    cases left with
    | nil => rfl
    | cons edge left => rw [List.filter_cons_of_pos (h edge rfl)]; rfl

/-- The sides of a join stay the same when edges are dropped that are no side. -/
lemma joinSides_filter {mainHandle lookupHandle : String} {edges : List Edge}
    (h : ∀ e ∈ joinSides mainHandle lookupHandle edges, p e = true) :
    joinSides mainHandle lookupHandle (edges.filter p) =
      joinSides mainHandle lookupHandle edges := by
  have hsides : ∀ edges, joinSides mainHandle lookupHandle edges =
      (takeSide (firstWith mainHandle edges)
        (withoutFirst (Keyed.distinct [mainHandle, lookupHandle]) edges)).1.toList ++
      (takeSide (firstWith lookupHandle edges) (takeSide (firstWith mainHandle edges)
        (withoutFirst (Keyed.distinct [mainHandle, lookupHandle]) edges)).2).1.toList :=
    fun _ => rfl
  rw [hsides] at h
  have hmain := fun e he => h e (List.mem_append_left _ (Option.mem_toList.2 he))
  have hlookup := fun e he => h e (List.mem_append_right _ (Option.mem_toList.2 he))
  -- the first edge with a handle is the side of this handle
  have hfirst : ∀ handle ∈ Keyed.distinct [mainHandle, lookupHandle],
      ∀ e ∈ firstWith handle edges, p e = true := by
    intro handle hhandle e he
    rw [Keyed.mem_distinct, List.mem_pair] at hhandle
    rcases hhandle with rfl | rfl
    · exact hmain e (by rw [Option.mem_def.1 he]; rfl)
    · exact hlookup e (by rw [Option.mem_def.1 he]; rfl)
  have hfirstMain := hfirst mainHandle (by simp)
  have hfirstLookup := hfirst lookupHandle (by simp)
  rw [hsides, hsides, firstWith_filter hfirstMain, firstWith_filter hfirstLookup,
    withoutFirst_filter (Keyed.nodup_distinct _) hfirst, takeSide_filter hmain,
    takeSide_filter hlookup]

end Worksheet.Pipeline
