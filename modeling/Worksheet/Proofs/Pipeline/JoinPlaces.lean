import Worksheet.Proofs.Pipeline.Sides

/-!
# The places of the sides of a join

Which of the edges into a join become its sides is said by their places.  The first edge with the
handle of a side takes this side.  A side without such an edge takes the first place that no handle
has chosen, the main side before the lookup side.  So the sides never share an edge, two edges are
enough for two sides, and edges with other handles matter only where a handle is missing.
-/

namespace Worksheet.Pipeline

/-! ### Places -/

/-- The place of the first edge with a handle. -/
def named? (handle : String) (edges : List Edge) : Option Nat :=
  edges.findIdx? fun edge => edge.targetHandle == some handle

/-- The places of the edges that no handle chooses, in order. -/
def spare (handles : List String) (edges : List Edge) : List Nat :=
  (List.range edges.length).filter fun k => ∀ handle ∈ handles, named? handle edges ≠ some k

/-- The least number with a property, or none if there is no such number. -/
def Least (P : Nat → Prop) : Option Nat → Prop
  | some k => P k ∧ ∀ m < k, ¬P m
  | none => ∀ k, ¬P k

/-- The places of the two sides: that of the first edge with the handle of the side, or else the
least place that no handle has chosen and the main side has not taken. -/
structure Takes (mainHandle lookupHandle : String) (edges : List Edge)
    (main lookup : Option Nat) : Prop where
  main_named : ∀ k, named? mainHandle edges = some k → main = some k
  lookup_named : ∀ k, named? lookupHandle edges = some k → lookup = some k
  main_spare : named? mainHandle edges = none →
    Least (fun k => k ∈ spare [mainHandle, lookupHandle] edges) main
  lookup_spare : named? lookupHandle edges = none →
    Least (fun k => k ∈ spare [mainHandle, lookupHandle] edges ∧ main ≠ some k) lookup

variable {handles : List String} {handle : String} {edge : Edge} {edges : List Edge} {k : Nat}

lemma named?_cons (handle : String) (edge : Edge) (edges : List Edge) :
    named? handle (edge :: edges) =
      if edge.targetHandle = some handle then some 0 else (named? handle edges).map (· + 1) := by
  rw [named?, named?, List.findIdx?_cons]
  simp only [beq_iff_eq]

/-- A place that a handle chooses has an edge with this handle. -/
lemma exists_of_named? (h : named? handle edges = some k) :
    ∃ e, edges[k]? = some e ∧ e.targetHandle = some handle := by
  obtain ⟨hk, hhandle, -⟩ := List.findIdx?_eq_some_iff_getElem.1 h
  exact ⟨edges[k], List.getElem?_eq_getElem hk, beq_iff_eq.1 hhandle⟩

lemma lt_of_named? (h : named? handle edges = some k) : k < edges.length :=
  (List.findIdx?_eq_some_iff_getElem.1 h).1

/-- One place has one handle. -/
lemma eq_of_named? {other : String} (h : named? handle edges = some k)
    (hother : named? other edges = some k) : handle = other := by
  obtain ⟨e, he, hhandle⟩ := exists_of_named? h
  obtain ⟨e', he', hhandle'⟩ := exists_of_named? hother
  obtain rfl := Option.some.inj (he.symm.trans he')
  exact Option.some.inj (hhandle.symm.trans hhandle')

lemma mem_spare : k ∈ spare handles edges ↔
    k < edges.length ∧ ∀ handle ∈ handles, named? handle edges ≠ some k := by
  rw [spare, List.mem_filter, List.mem_range, decide_eq_true_iff]

lemma pairwise_spare (handles : List String) (edges : List Edge) :
    (spare handles edges).Pairwise (· < ·) :=
  List.pairwise_lt_range.filter _

/-! ### The leftover edges by their places -/

lemma firstWith_eq_bind (handle : String) (edges : List Edge) :
    firstWith handle edges = (named? handle edges).bind fun k => edges[k]? := by
  induction edges with
  | nil => rfl
  | cons edge edges ih =>
    rw [firstWith_cons, named?_cons]
    by_cases h : edge.targetHandle = some handle
    · rw [if_pos h, if_pos h]
      rfl
    · rw [if_neg h, if_neg h, ih, Option.bind_map]
      rfl

lemma spare_cons_of_taken (hnodup : handles.Nodup) (hmem : handle ∈ handles)
    (hedge : edge.targetHandle = some handle) :
    spare handles (edge :: edges) = (spare (handles.erase handle) edges).map Nat.succ := by
  have hzero : ¬∀ other ∈ handles, named? other (edge :: edges) ≠ some 0 := fun h =>
    h handle hmem (by rw [named?_cons, if_pos hedge])
  have hsucc : ∀ k, (∀ other ∈ handles, named? other (edge :: edges) ≠ some (k + 1)) ↔
      ∀ other ∈ handles.erase handle, named? other edges ≠ some k := by
    intro k
    simp only [hnodup.mem_erase_iff]
    refine forall_congr' fun other => ?_
    by_cases hother : other = handle
    · subst hother
      simp [named?_cons, hedge]
    · have hne : edge.targetHandle ≠ some other := by
        rw [hedge, Ne, Option.some.injEq]
        exact Ne.symm hother
      simp [named?_cons, hne, hother]
  rw [spare, spare, List.length_cons, List.range_succ_eq_map,
    List.filter_cons_of_neg (by simpa using hzero), List.filter_map]
  refine congrArg _ (List.filter_congr fun k _ => ?_)
  exact decide_eq_decide.2 (hsucc k)

lemma spare_cons_of_free (h : ∀ handle ∈ handles, edge.targetHandle ≠ some handle) :
    spare handles (edge :: edges) = 0 :: (spare handles edges).map Nat.succ := by
  have hzero : ∀ other ∈ handles, named? other (edge :: edges) ≠ some 0 := fun other hother => by
    simp [named?_cons, h other hother]
  have hsucc : ∀ k, (∀ other ∈ handles, named? other (edge :: edges) ≠ some (k + 1)) ↔
      ∀ other ∈ handles, named? other edges ≠ some k := fun k =>
    forall₂_congr fun other hother => by simp [named?_cons, h other hother]
  rw [spare, spare, List.length_cons, List.range_succ_eq_map,
    List.filter_cons_of_pos (by simpa using hzero), List.filter_map]
  refine congrArg _ (congrArg _ (List.filter_congr fun k _ => ?_))
  exact decide_eq_decide.2 (hsucc k)

/-- The edges at places behind the first one are those at the places before, without it. -/
lemma filterMap_map_succ (edge : Edge) (edges : List Edge) (places : List Nat) :
    (places.map Nat.succ).filterMap (fun k => (edge :: edges)[k]?) =
      places.filterMap fun k => edges[k]? := by
  rw [List.filterMap_map]
  rfl

lemma withoutFirst_eq_filterMap (hnodup : handles.Nodup) (edges : List Edge) :
    withoutFirst handles edges = (spare handles edges).filterMap fun k => edges[k]? := by
  induction edges generalizing handles with
  | nil => rfl
  | cons edge edges ih =>
    by_cases htaken : ∃ handle ∈ handles, edge.targetHandle = some handle
    · obtain ⟨handle, hmem, hedge⟩ := htaken
      rw [spare_cons_of_taken hnodup hmem hedge, filterMap_map_succ, ← ih (hnodup.erase handle),
        withoutFirst, hedge]
      simp only [hmem, if_true]
    · have hfree : ∀ handle ∈ handles, edge.targetHandle ≠ some handle :=
        fun handle hmem hedge => htaken ⟨handle, hmem, hedge⟩
      rw [spare_cons_of_free hfree, withoutFirst_cons_of_not_mem edges
        fun handle hedge hmem => hfree handle hmem hedge, ih hnodup,
        ← filterMap_map_succ edge edges]
      rfl

/-! ### The sides by their places -/

/-- The place of a side, given the place that its handle chooses and the places left over; and the
places left over then. -/
def takePlace : Option Nat → List Nat → Option Nat × List Nat
  | some k, free => (some k, free)
  | none, free => (free.head?, free.tail)

lemma takeSide_places {named : Option Nat} {free : List Nat}
    (hnamed : ∀ k ∈ named, k < edges.length) (hfree : ∀ k ∈ free, k < edges.length) :
    takeSide (named.bind fun k => edges[k]?) (free.filterMap fun k => edges[k]?) =
      ((takePlace named free).1.bind fun k => edges[k]?,
        (takePlace named free).2.filterMap fun k => edges[k]?) := by
  cases named with
  | some k =>
    have hlt : k < edges.length := hnamed k rfl
    simp [takeSide, takePlace, List.getElem?_eq_getElem hlt]
  | none =>
    cases free with
    | nil => rfl
    | cons k free =>
      have hlt : k < edges.length := hfree k List.mem_cons_self
      simp [takeSide, takePlace, List.getElem?_eq_getElem hlt]

lemma least_head? {free : List Nat} (h : free.Pairwise (· < ·)) :
    Least (fun k => k ∈ free) free.head? := by
  cases free with
  | nil => exact fun _ => List.not_mem_nil
  | cons i free =>
    refine ⟨List.mem_cons_self, fun m hm hmem => ?_⟩
    rcases List.mem_cons.1 hmem with rfl | hmem
    · exact Nat.lt_irrefl _ hm
    · exact Nat.lt_asymm hm (List.rel_of_pairwise_cons h hmem)

lemma mem_tail_iff {free : List Nat} (h : free.Pairwise (· < ·)) :
    k ∈ free.tail ↔ k ∈ free ∧ free.head? ≠ some k := by
  cases free with
  | nil => simp
  | cons i free =>
    have hne : k ∈ free → i ≠ k := fun hmem => Nat.ne_of_lt (List.rel_of_pairwise_cons h hmem)
    rw [List.tail_cons, List.mem_cons, List.head?_cons, Ne, Option.some.injEq]
    constructor
    · exact fun hmem => ⟨.inr hmem, hne hmem⟩
    · rintro ⟨rfl | hmem, hi⟩
      · exact absurd rfl hi
      · exact hmem

/-- The places left over are those that the side has not taken. -/
lemma mem_takePlace_iff {named : Option Nat} {free : List Nat} (h : free.Pairwise (· < ·))
    (hnamed : ∀ k ∈ free, named ≠ some k) :
    k ∈ (takePlace named free).2 ↔ k ∈ free ∧ (takePlace named free).1 ≠ some k := by
  cases named with
  | some i => exact ⟨fun hmem => ⟨hmem, hnamed k hmem⟩, And.left⟩
  | none => exact mem_tail_iff h

lemma pairwise_takePlace {named : Option Nat} {free : List Nat} (h : free.Pairwise (· < ·)) :
    (takePlace named free).2.Pairwise (· < ·) := by
  cases named with
  | some _ => exact h
  | none => exact h.tail

/-- The place of the main side, and the places left over by it. -/
def mainPlace (mainHandle lookupHandle : String) (edges : List Edge) : Option Nat × List Nat :=
  takePlace (named? mainHandle edges) (spare [mainHandle, lookupHandle] edges)

/-- The place of the lookup side. -/
def lookupPlace (mainHandle lookupHandle : String) (edges : List Edge) : Option Nat :=
  (takePlace (named? lookupHandle edges) (mainPlace mainHandle lookupHandle edges).2).1

section Takes

variable {mainHandle lookupHandle : String} {main lookup : Option Nat}

lemma mem_mainPlace_iff : k ∈ (mainPlace mainHandle lookupHandle edges).2 ↔
    k ∈ spare [mainHandle, lookupHandle] edges ∧
      (mainPlace mainHandle lookupHandle edges).1 ≠ some k :=
  mem_takePlace_iff (pairwise_spare _ _) fun _ hk => (mem_spare.1 hk).2 _ List.mem_cons_self

lemma takes_places (mainHandle lookupHandle : String) (edges : List Edge) :
    Takes mainHandle lookupHandle edges (mainPlace mainHandle lookupHandle edges).1
      (lookupPlace mainHandle lookupHandle edges) := by
  have hsorted := pairwise_spare [mainHandle, lookupHandle] edges
  refine ⟨fun k hk => ?_, fun k hk => ?_, fun hnone => ?_, fun hnone => ?_⟩
  · rw [mainPlace, hk, takePlace]
  · rw [lookupPlace, hk, takePlace]
  · rw [mainPlace, hnone]
    exact least_head? hsorted
  · have hrest : (mainPlace mainHandle lookupHandle edges).2.Pairwise (· < ·) :=
      pairwise_takePlace hsorted
    have hleast := least_head? hrest
    simp only [mem_mainPlace_iff] at hleast
    rw [lookupPlace, hnone]
    exact hleast

/-- The sides of a join are the edges at the places that the sides take. -/
lemma joinSides_eq_filterMap (h : mainHandle ≠ lookupHandle) (edges : List Edge) :
    joinSides mainHandle lookupHandle edges =
      ((mainPlace mainHandle lookupHandle edges).1.toList ++
        (lookupPlace mainHandle lookupHandle edges).toList).filterMap fun k => edges[k]? := by
  have hnodup : [mainHandle, lookupHandle].Nodup := by simpa using h
  have hdistinct : Keyed.distinct [mainHandle, lookupHandle] = [mainHandle, lookupHandle] := by
    simp [Keyed.distinct, Ne.symm h]
  have hspare : ∀ k ∈ spare [mainHandle, lookupHandle] edges, k < edges.length :=
    fun k hk => (mem_spare.1 hk).1
  have hrest : ∀ k ∈ (mainPlace mainHandle lookupHandle edges).2, k < edges.length :=
    fun k hk => hspare k (mem_mainPlace_iff.1 hk).1
  simp only [joinSides, hdistinct, withoutFirst_eq_filterMap hnodup, firstWith_eq_bind]
  rw [takeSide_places (fun k hk => lt_of_named? hk) hspare, ← mainPlace,
    takeSide_places (fun k hk => lt_of_named? hk) hrest, ← lookupPlace]
  simp only [Option.toList_bind, List.filterMap_eq_flatMap_toList, List.flatMap_append,
    Function.comp_def]

/-- The sides take different places. -/
lemma Takes.apart (htakes : Takes mainHandle lookupHandle edges main lookup)
    (h : mainHandle ≠ lookupHandle) (hmain : main = some k) : lookup ≠ some k := by
  rintro rfl
  rcases hlookup : named? lookupHandle edges with _ | j
  · exact (htakes.lookup_spare hlookup).1.2 hmain
  · obtain rfl : k = j := Option.some.inj (htakes.lookup_named j hlookup)
    subst hmain
    rcases hnamed : named? mainHandle edges with _ | i
    · have hfree := (mem_spare.1 (htakes.main_spare hnamed).1).2
      exact hfree lookupHandle (by simp) hlookup
    · obtain rfl : k = i := Option.some.inj (htakes.main_named i hnamed)
      exact h (eq_of_named? hnamed hlookup)

lemma Takes.main_lt (htakes : Takes mainHandle lookupHandle edges (some k) lookup) :
    k < edges.length := by
  rcases hnamed : named? mainHandle edges with _ | i
  · exact (mem_spare.1 (htakes.main_spare hnamed).1).1
  · obtain rfl : k = i := Option.some.inj (htakes.main_named i hnamed)
    exact lt_of_named? hnamed

lemma Takes.lookup_lt (htakes : Takes mainHandle lookupHandle edges main (some k)) :
    k < edges.length := by
  rcases hnamed : named? lookupHandle edges with _ | i
  · exact (mem_spare.1 (htakes.lookup_spare hnamed).1.1).1
  · obtain rfl : k = i := Option.some.inj (htakes.lookup_named i hnamed)
    exact lt_of_named? hnamed

/-- One of two places is not the given one. -/
lemma exists_lt_ne {n : Nat} (h : 2 ≤ n) (taken : Option Nat) : ∃ k < n, taken ≠ some k := by
  by_cases hzero : taken = some 0
  · exact ⟨1, by omega, by simp [hzero]⟩
  · exact ⟨0, by omega, hzero⟩

/-- With two edges, no side is without a place. -/
lemma Takes.exists_of_two_le (htakes : Takes mainHandle lookupHandle edges main lookup)
    (htwo : 2 ≤ edges.length) : (∃ i, main = some i) ∧ ∃ j, lookup = some j := by
  constructor
  · cases main with
    | none =>
      have hnamed : named? mainHandle edges = none :=
        Option.eq_none_iff_forall_ne_some.2 fun k hk =>
          Option.some_ne_none k (htakes.main_named k hk).symm
      obtain ⟨k, hlt, hne⟩ := exists_lt_ne htwo (named? lookupHandle edges)
      exact absurd (mem_spare.2 ⟨hlt, by simp [hnamed, hne]⟩) (htakes.main_spare hnamed k)
    | some i => exact ⟨i, rfl⟩
  · cases lookup with
    | none =>
      have hnamed : named? lookupHandle edges = none :=
        Option.eq_none_iff_forall_ne_some.2 fun k hk =>
          Option.some_ne_none k (htakes.lookup_named k hk).symm
      obtain ⟨k, hlt, hne⟩ := exists_lt_ne htwo main
      have hmain : named? mainHandle edges ≠ some k := fun hk => hne (htakes.main_named k hk)
      exact absurd ⟨mem_spare.2 ⟨hlt, by simp [hnamed, hmain]⟩, hne⟩
        (htakes.lookup_spare hnamed k)
    | some j => exact ⟨j, rfl⟩

end Takes

/-! ### Orders of the edges -/

lemma firstWith_eq_head? (handle : String) (edges : List Edge) :
    firstWith handle edges =
      (edges.filter fun edge => edge.targetHandle == some handle).head? := by
  rw [firstWith, List.head?_filter]

/-- Where both handles are there, only the first edge of each is looked at. -/
lemma joinSides_of_named {mainHandle lookupHandle : String} {a b : Edge}
    (hmain : firstWith mainHandle edges = some a)
    (hlookup : firstWith lookupHandle edges = some b) :
    joinSides mainHandle lookupHandle edges = [a, b] := by
  rw [joinSides, hmain, hlookup]
  rfl

lemma exists_firstWith (h : ∃ e ∈ edges, e.targetHandle = some handle) :
    ∃ a, firstWith handle edges = some a := by
  obtain ⟨e, hmem, hhandle⟩ := h
  exact Option.isSome_iff_exists.1 (List.find?_isSome.2 ⟨e, hmem, beq_iff_eq.2 hhandle⟩)

/-- Edges in another order, where those with one handle keep theirs, have the same sides. -/
lemma joinSides_eq_of_filter_eq {mainHandle lookupHandle : String} {others : List Edge}
    (h : ∀ handle : String, others.filter (fun e => e.targetHandle == some handle) =
      edges.filter fun e => e.targetHandle == some handle)
    (hmain : ∃ e ∈ edges, e.targetHandle = some mainHandle)
    (hlookup : ∃ e ∈ edges, e.targetHandle = some lookupHandle) :
    joinSides mainHandle lookupHandle others = joinSides mainHandle lookupHandle edges := by
  obtain ⟨a, ha⟩ := exists_firstWith hmain
  obtain ⟨b, hb⟩ := exists_firstWith hlookup
  have hfirst : ∀ handle, firstWith handle others = firstWith handle edges := fun handle => by
    rw [firstWith_eq_head?, firstWith_eq_head?, h]
  rw [joinSides_of_named ha hb, joinSides_of_named ((hfirst _).trans ha) ((hfirst _).trans hb)]

/-! ### The sides of a join -/

/-- Each side of a join takes the first edge with its handle, or else the first edge left over by
the handles and by the side before it.  No edge is on both sides, two edges give two sides, and
where both handles are there, only the order of the edges with one handle matters. -/
theorem joinSides_places (mainHandle lookupHandle : String) (h : mainHandle ≠ lookupHandle)
    (edges : List Edge) :
    (∃ main lookup, Takes mainHandle lookupHandle edges main lookup ∧
      (∀ k, main = some k → k < edges.length ∧ lookup ≠ some k) ∧
      (∀ k, lookup = some k → k < edges.length) ∧
      joinSides mainHandle lookupHandle edges =
        (main.toList ++ lookup.toList).filterMap (fun k => edges[k]?) ∧
      (2 ≤ edges.length → ∃ i j a b, main = some i ∧ lookup = some j ∧
        edges[i]? = some a ∧ edges[j]? = some b ∧
        joinSides mainHandle lookupHandle edges = [a, b])) ∧
    ∀ others : List Edge,
      (∀ handle : String, others.filter (fun e => e.targetHandle == some handle) =
        edges.filter fun e => e.targetHandle == some handle) →
      (∃ e ∈ edges, e.targetHandle = some mainHandle) →
      (∃ e ∈ edges, e.targetHandle = some lookupHandle) →
      joinSides mainHandle lookupHandle others = joinSides mainHandle lookupHandle edges := by
  refine ⟨?_, fun others hothers => joinSides_eq_of_filter_eq hothers⟩
  have htakes := takes_places mainHandle lookupHandle edges
  have hsides := joinSides_eq_filterMap h edges
  generalize (mainPlace mainHandle lookupHandle edges).1 = main at htakes hsides
  generalize lookupPlace mainHandle lookupHandle edges = lookup at htakes hsides
  refine ⟨main, lookup, htakes, fun k hk => ⟨(hk ▸ htakes).main_lt, htakes.apart h hk⟩,
    fun k hk => (hk ▸ htakes).lookup_lt, hsides, fun htwo => ?_⟩
  obtain ⟨⟨i, rfl⟩, j, rfl⟩ := htakes.exists_of_two_le htwo
  have ha := List.getElem?_eq_getElem htakes.main_lt
  have hb := List.getElem?_eq_getElem htakes.lookup_lt
  refine ⟨i, j, _, _, rfl, rfl, ha, hb, ?_⟩
  rw [hsides]
  simp [ha, hb]

/-- An edge without a handle in front of both sides takes neither. -/
theorem joinSides_places_of_moved :
    joinSides "main" "lookup"
        [⟨"c", "j", none⟩, ⟨"b", "j", some "lookup"⟩, ⟨"a", "j", some "main"⟩] =
      joinSides "main" "lookup"
        [⟨"b", "j", some "lookup"⟩, ⟨"a", "j", some "main"⟩, ⟨"c", "j", none⟩] :=
  (joinSides_places "main" "lookup" (by decide) _).2 _ (fun _ => rfl)
    ⟨⟨"a", "j", some "main"⟩, by decide, rfl⟩ ⟨⟨"b", "j", some "lookup"⟩, by decide, rfl⟩

end Worksheet.Pipeline
