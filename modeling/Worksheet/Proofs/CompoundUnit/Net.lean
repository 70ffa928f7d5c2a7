import Mathlib.Data.Finsupp.Basic
import Mathlib.Data.String.Basic
import Mathlib.Tactic.Lemma
import Worksheet.CompoundUnit.Parser

/-!
# Units as net counts

What a unit means is how often each token stands above the line, less how often below.  Cancelling
keeps these counts and leaves no token on both sides; multiplying adds them, dividing subtracts
them, and two units are compatible exactly when they agree in all of them.  As every finite choice
of counts is taken by some unit, units up to compatibility are the free abelian group on their
tokens.
-/

namespace Worksheet.CompoundUnit

/-- No token stands on both sides. -/
def Reduced (u : CompoundUnit) : Prop := u.numerator.Disjoint u.denominator

/-! ### Cancelling -/

/-- Cancelling takes tokens off the lower side and adds none. -/
lemma cancel_sublist (numerator denominator : List String) :
    (cancel numerator denominator).2.Sublist denominator := by
  fun_induction cancel numerator denominator with
  | case1 denominator => exact List.Sublist.refl _
  | case2 t ts denominator _ ih => exact ih.trans List.erase_sublist
  | case3 t ts denominator _ kept rest heq ih => rwa [heq] at ih

/-- Cancelling keeps some of the tokens of the upper side. -/
lemma cancel_fst_sublist (numerator denominator : List String) :
    (cancel numerator denominator).1.Sublist numerator := by
  fun_induction cancel numerator denominator with
  | case1 denominator => exact List.Sublist.refl _
  | case2 t ts denominator _ ih => exact ih.cons t
  | case3 t ts denominator _ kept rest heq ih =>
    rw [heq] at ih
    exact ih.cons_cons t

/-- The invariant of cancelling: whatever is taken off one side is taken off the other. -/
lemma count_cancel (numerator denominator : List String) (token : String) :
    (cancel numerator denominator).1.count token + denominator.count token =
      numerator.count token + (cancel numerator denominator).2.count token := by
  fun_induction cancel numerator denominator with
  | case1 denominator => simp
  | case2 t ts denominator hmem ih =>
    have hpos : 0 < denominator.count t := List.count_pos_iff.2 hmem
    rw [List.count_erase] at ih
    rw [List.count_cons]
    by_cases ht : t = token
    · subst ht
      simp only [beq_self_eq_true, if_true] at ih ⊢
      omega
    · simp only [beq_iff_eq, ht, if_false] at ih ⊢
      omega
  | case3 t ts denominator _ kept rest heq ih =>
    rw [heq] at ih
    simp only [List.count_cons] at ih ⊢
    omega

/-- A token is kept above the line only if none was left to cancel it below. -/
lemma disjoint_cancel (numerator denominator : List String) :
    (cancel numerator denominator).1.Disjoint (cancel numerator denominator).2 := by
  fun_induction cancel numerator denominator with
  | case1 denominator => exact List.disjoint_nil_left _
  | case2 t ts denominator _ ih => exact ih
  | case3 t ts denominator hmem kept rest heq ih =>
    have hrest := cancel_sublist ts denominator
    rw [heq] at ih hrest
    exact List.disjoint_cons_left.2 ⟨fun h => hmem (hrest.subset h), ih⟩

lemma numerator_simplify_sublist (u : CompoundUnit) :
    u.simplify.numerator.Sublist u.numerator := cancel_fst_sublist _ _

lemma denominator_simplify_sublist (u : CompoundUnit) :
    u.simplify.denominator.Sublist u.denominator := cancel_sublist _ _

lemma simplify_reduced (u : CompoundUnit) : u.simplify.Reduced :=
  disjoint_cancel u.numerator u.denominator

lemma cancel_of_disjoint {numerator denominator : List String}
    (h : numerator.Disjoint denominator) :
    cancel numerator denominator = (numerator, denominator) := by
  induction numerator with
  | nil => rfl
  | cons t ts ih =>
    obtain ⟨ht, hts⟩ := List.disjoint_cons_left.1 h
    rw [cancel, if_neg ht, ih hts]

/-- Where no token stands on both sides there is nothing to cancel. -/
lemma Reduced.simplify_eq {u : CompoundUnit} (h : u.Reduced) : u.simplify = u := by
  simp [simplify, cancel_of_disjoint h]

@[simp] lemma net_simplify (u : CompoundUnit) (token : String) :
    u.simplify.net token = u.net token := by
  have h := count_cancel u.numerator u.denominator token
  have hnet : u.simplify.net token =
      ((cancel u.numerator u.denominator).1.count token : Int) -
        (cancel u.numerator u.denominator).2.count token := rfl
  rw [hnet, net]
  omega

/-! ### Products, quotients and read units -/

lemma mul_reduced (a b : CompoundUnit) : (a * b).Reduced := simplify_reduced _

lemma div_reduced (a b : CompoundUnit) : (a / b).Reduced := simplify_reduced _

lemma unitless_reduced : unitless.Reduced := List.disjoint_nil_left _

lemma parse?_reduced (s : Option String) : (parse? s).Reduced := by
  cases s with
  | none => exact unitless_reduced
  | some s =>
    rw [parse?, parse]
    split
    · exact unitless_reduced
    · exact simplify_reduced _

lemma Reduced.unitless_mul {u : CompoundUnit} (h : u.Reduced) : unitless * u = u := by
  show simplify ⟨[] ++ u.numerator, [] ++ u.denominator⟩ = u
  simpa using h.simplify_eq

lemma Reduced.mul_unitless {u : CompoundUnit} (h : u.Reduced) : u * unitless = u := by
  show simplify ⟨u.numerator ++ [], u.denominator ++ []⟩ = u
  simpa using h.simplify_eq

lemma Reduced.div_unitless {u : CompoundUnit} (h : u.Reduced) : u / unitless = u := by
  show simplify ⟨u.numerator ++ [], u.denominator ++ []⟩ = u
  simpa using h.simplify_eq

@[simp] lemma net_mul (a b : CompoundUnit) (token : String) :
    (a * b).net token = a.net token + b.net token := by
  have h : (a * b).net token =
      net ⟨a.numerator ++ b.numerator, a.denominator ++ b.denominator⟩ token := net_simplify _ _
  rw [h, net, net, net, List.count_append, List.count_append]
  omega

@[simp] lemma net_div (a b : CompoundUnit) (token : String) :
    (a / b).net token = a.net token - b.net token := by
  have h : (a / b).net token =
      net ⟨a.numerator ++ b.denominator, a.denominator ++ b.numerator⟩ token := net_simplify _ _
  rw [h, net, net, net, List.count_append, List.count_append]
  omega

/-! ### Compatible units -/

/-- Without cancelling partners, the net counts are those of the two sides. -/
lemma Reduced.count_eq {u : CompoundUnit} (h : u.Reduced) (token : String) :
    u.numerator.count token = (u.net token).toNat ∧
      u.denominator.count token = (-u.net token).toNat := by
  have hside : u.numerator.count token = 0 ∨ u.denominator.count token = 0 := by
    by_cases hmem : token ∈ u.numerator
    · exact Or.inr (List.count_eq_zero_of_not_mem (h hmem))
    · exact Or.inl (List.count_eq_zero_of_not_mem hmem)
  rw [net]
  omega

/-- Without cancelling partners, the net counts tell the two sides up to order. -/
lemma Reduced.perm_of_net {a b : CompoundUnit} (ha : a.Reduced) (hb : b.Reduced)
    (h : ∀ token, a.net token = b.net token) :
    a.numerator.Perm b.numerator ∧ a.denominator.Perm b.denominator := by
  rw [List.perm_iff_count, List.perm_iff_count]
  constructor
  · intro token
    rw [(ha.count_eq token).1, (hb.count_eq token).1, h token]
  · intro token
    rw [(ha.count_eq token).2, (hb.count_eq token).2, h token]

lemma compatible_iff_perm {a b : CompoundUnit} :
    a.compatible b = true ↔ a.simplify.numerator.Perm b.simplify.numerator ∧
      a.simplify.denominator.Perm b.simplify.denominator := by
  rw [compatible, Bool.and_eq_true, List.isPerm_iff, List.isPerm_iff]

/-- Units are compatible when no token tells them apart. -/
lemma compatible_iff_net {a b : CompoundUnit} :
    a.compatible b = true ↔ ∀ token, a.net token = b.net token := by
  rw [compatible_iff_perm]
  constructor
  · rintro ⟨hnum, hden⟩ token
    rw [← net_simplify a, ← net_simplify b, net, net, hnum.count_eq token, hden.count_eq token]
  · intro h
    refine (simplify_reduced a).perm_of_net (simplify_reduced b) fun token => ?_
    rw [net_simplify, net_simplify, h token]

/-- The tokens by their texts. -/
def sorted (tokens : List String) : List String := tokens.mergeSort (fun s t => decide (s ≤ t))

lemma sorted_eq_iff_perm {l l' : List String} : sorted l = sorted l' ↔ l.Perm l' := by
  have hperm : ∀ l : List String, (sorted l).Perm l := fun l => List.mergeSort_perm l _
  have hsorted : ∀ l : List String, (sorted l).Pairwise (· ≤ ·) := by
    intro l
    have h : (sorted l).Pairwise fun s t => decide (s ≤ t) = true :=
      List.pairwise_mergeSort (fun _ _ _ => by simpa using le_trans)
        (fun s t => by simpa using le_total s t) l
    exact h.imp fun h => of_decide_eq_true h
  constructor
  · intro h
    exact (hperm l).symm.trans (h ▸ hperm l')
  · intro h
    exact ((hperm l).trans (h.trans (hperm l').symm)).eq_of_pairwise
      (fun _ _ _ _ => le_antisymm) (hsorted l) (hsorted l')

/-- Compatible units look the same once they are cancelled and each side is sorted. -/
lemma compatible_iff_sorted {a b : CompoundUnit} :
    a.compatible b = true ↔ sorted a.simplify.numerator = sorted b.simplify.numerator ∧
      sorted a.simplify.denominator = sorted b.simplify.denominator := by
  rw [compatible_iff_perm, sorted_eq_iff_perm, sorted_eq_iff_perm]

lemma compatible_equivalence : Equivalence fun a b : CompoundUnit => a.compatible b = true where
  refl _ := compatible_iff_net.2 fun _ => rfl
  symm h := compatible_iff_net.2 fun token => (compatible_iff_net.1 h token).symm
  trans h h' := compatible_iff_net.2 fun token =>
    (compatible_iff_net.1 h token).trans (compatible_iff_net.1 h' token)

/-! ### Every choice of counts -/

/-- Each token as often as its count says. -/
def repeated (count : String → Nat) (tokens : List String) : List String :=
  tokens.flatMap fun token => List.replicate (count token) token

lemma count_repeated {count : String → Nat} {tokens : List String} (hnodup : tokens.Nodup)
    (token : String) :
    (repeated count tokens).count token = if token ∈ tokens then count token else 0 := by
  induction tokens with
  | nil => rfl
  | cons first tokens ih =>
    obtain ⟨hfirst, hnodup⟩ := List.nodup_cons.1 hnodup
    rw [repeated, List.flatMap_cons, List.count_append, List.count_replicate, ← repeated,
      ih hnodup]
    by_cases heq : first = token
    · subst heq
      simp [hfirst]
    · simp [heq, Ne.symm heq]

/-- Some unit has the given net counts. -/
lemma exists_net_eq (counts : String →₀ Int) :
    ∃ u : CompoundUnit, ∀ token, u.net token = counts token := by
  refine ⟨⟨repeated (fun t => (counts t).toNat) counts.support.toList,
    repeated (fun t => (-counts t).toNat) counts.support.toList⟩, fun token => ?_⟩
  rw [net, count_repeated (Finset.nodup_toList _), count_repeated (Finset.nodup_toList _)]
  by_cases hmem : token ∈ counts.support
  · rw [if_pos (Finset.mem_toList.2 hmem), if_pos (Finset.mem_toList.2 hmem)]
    omega
  · rw [if_neg (mt Finset.mem_toList.1 hmem), if_neg (mt Finset.mem_toList.1 hmem),
      Finsupp.notMem_support_iff.1 hmem]
    rfl

/-- **Units are the free abelian group on their tokens.**  Cancelling keeps the net counts and
leaves no token on both sides, as it is with products, quotients and whatever has been read from a
text; net counts add up under multiplication and are subtracted under division; compatible, which
is to look the same cancelled and sorted, are the units with the same net counts.  So
compatibility is an equivalence that multiplication and division respect, dividing by a unit
undoes multiplying by it, and every finite choice of net counts belongs to some unit. -/
theorem net_laws (a b : CompoundUnit) :
    (∀ token, a.simplify.net token = a.net token) ∧ a.simplify.Reduced ∧
    (∀ token, (a * b).net token = a.net token + b.net token) ∧
    (∀ token, (a / b).net token = a.net token - b.net token) ∧
    (a * b).Reduced ∧ (a / b).Reduced ∧ (∀ s, (parse? s).Reduced) ∧
    (a.compatible b = true ↔ sorted a.simplify.numerator = sorted b.simplify.numerator ∧
      sorted a.simplify.denominator = sorted b.simplify.denominator) ∧
    (a.compatible b = true ↔ ∀ token, a.net token = b.net token) ∧
    Equivalence (fun u v : CompoundUnit => u.compatible v = true) ∧
    (∀ a' b' : CompoundUnit, a.compatible a' = true → b.compatible b' = true →
      (a * b).compatible (a' * b') = true ∧ (a / b).compatible (a' / b') = true) ∧
    (a / b * b).compatible a = true ∧
    ∀ counts : String →₀ Int, ∃ u : CompoundUnit, ∀ token, u.net token = counts token := by
  refine ⟨net_simplify a, simplify_reduced a, net_mul a b, net_div a b, mul_reduced a b,
    div_reduced a b, parse?_reduced, compatible_iff_sorted, compatible_iff_net,
    compatible_equivalence, fun a' b' ha hb => ?_, ?_, exists_net_eq⟩
  · rw [compatible_iff_net] at ha hb
    constructor
    · exact compatible_iff_net.2 fun token => by rw [net_mul, net_mul, ha token, hb token]
    · exact compatible_iff_net.2 fun token => by rw [net_div, net_div, ha token, hb token]
  · refine compatible_iff_net.2 fun token => ?_
    rw [net_mul, net_div]
    omega

/-- Cancelling goes by tokens and not by kinds: kilograms and grams do not meet. -/
example : (⟨["kg", "m", "m"], ["m", "g", "kg"]⟩ : CompoundUnit).simplify = ⟨["m"], ["g"]⟩ := by
  decide

end Worksheet.CompoundUnit
