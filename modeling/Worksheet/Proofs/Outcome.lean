import Mathlib.Data.List.Forall2
import Mathlib.Tactic.Lemma

/-!
# Computations that may fail

A computation in steps that gives a result has a result in every step, and what each step keeps
the whole computation keeps.  It gives no result exactly when one of its steps, the first that
does not, gives none.
-/

namespace Worksheet

variable {ε α β : Type}

lemma exists_of_bind_eq_ok {x : Except ε α} {f : α → Except ε β} {b : β}
    (h : (x >>= f) = .ok b) : ∃ a, x = .ok a ∧ f a = .ok b := by
  cases x with
  | error fault => exact absurd h (by simp [bind, Except.bind])
  | ok a => exact ⟨a, rfl, h⟩

lemma mapError_eq_ok_iff {ε' : Type} {x : Except ε α} {f : ε → ε'} {a : α} :
    x.mapError f = .ok a ↔ x = .ok a := by
  cases x <;> simp [Except.mapError]

lemma toOption_eq_some_iff {x : Except ε α} {a : α} : x.toOption = some a ↔ x = .ok a := by
  cases x <;> simp [Except.toOption]

lemma forall₂_of_mapM {f : α → Except ε β} {l : List α} {l' : List β} (h : l.mapM f = .ok l') :
    List.Forall₂ (fun a b => f a = .ok b) l l' := by
  induction l generalizing l' with
  | nil =>
    obtain rfl : [] = l' := Except.ok.inj h
    exact .nil
  | cons a l ih =>
    rw [List.mapM_cons] at h
    obtain ⟨first, hfirst, h⟩ := exists_of_bind_eq_ok h
    obtain ⟨rest, hrest, h⟩ := exists_of_bind_eq_ok h
    obtain rfl : first :: rest = l' := Except.ok.inj h
    exact .cons hfirst (ih hrest)

lemma forall₂_of_mapM_option {f : α → Option β} {l : List α} {l' : List β}
    (h : l.mapM f = some l') : List.Forall₂ (fun a b => f a = some b) l l' := by
  induction l generalizing l' with
  | nil =>
    obtain rfl : [] = l' := Option.some.inj h
    exact .nil
  | cons a l ih =>
    rw [List.mapM_cons] at h
    obtain ⟨first, hfirst, h⟩ := Option.bind_eq_some_iff.1 h
    obtain ⟨rest, hrest, h⟩ := Option.bind_eq_some_iff.1 h
    obtain rfl : first :: rest = l' := Option.some.inj h
    exact .cons hfirst (ih hrest)

lemma exists_of_mem_forall₂ {R : α → β → Prop} {l : List α} {l' : List β}
    (h : List.Forall₂ R l l') {b : β} (hb : b ∈ l') : ∃ a ∈ l, R a b := by
  induction h with
  | nil => exact absurd hb List.not_mem_nil
  | cons hfirst hrest ih =>
    rcases List.mem_cons.1 hb with rfl | hb
    · exact ⟨_, List.mem_cons_self, hfirst⟩
    · obtain ⟨a, ha, hR⟩ := ih hb
      exact ⟨a, List.mem_cons_of_mem _ ha, hR⟩

lemma exists_of_mem_mapM {f : α → Except ε β} {l : List α} {l' : List β} {b : β}
    (h : l.mapM f = .ok l') (hb : b ∈ l') : ∃ a ∈ l, f a = .ok b :=
  exists_of_mem_forall₂ (forall₂_of_mapM h) hb

/-- What each step of a fold keeps is true at its end. -/
lemma foldlM_invariant {f : β → α → Except ε β} (motive : β → Prop) {l : List α} {start last : β}
    (hstep : ∀ a ∈ l, ∀ b b', motive b → f b a = .ok b' → motive b') (hstart : motive start)
    (h : l.foldlM f start = .ok last) : motive last := by
  induction l generalizing start with
  | nil =>
    obtain rfl : start = last := Except.ok.inj h
    exact hstart
  | cons a l ih =>
    rw [List.foldlM_cons] at h
    obtain ⟨next, hnext, hrest⟩ := exists_of_bind_eq_ok h
    exact ih (fun b hb => hstep b (List.mem_cons_of_mem a hb))
      (hstep a List.mem_cons_self start next hstart hnext) hrest

/-! ### When a computation gives nothing -/

/-- The computation gives no result. -/
def Fails (x : Except ε α) : Prop := ∃ fault, x = .error fault

@[simp]
lemma fails_error (fault : ε) : Fails (.error fault : Except ε α) := ⟨fault, rfl⟩

@[simp]
lemma not_fails_ok (a : α) : ¬Fails (.ok a : Except ε α) := by
  rintro ⟨fault, h⟩
  exact absurd h (by simp)

lemma not_fails_iff {x : Except ε α} : ¬Fails x ↔ ∃ a, x = .ok a := by
  cases x with
  | error fault => simp
  | ok a => simp

lemma bind_eq_error_iff {x : Except ε α} {f : α → Except ε β} {fault : ε} :
    x >>= f = .error fault ↔ x = .error fault ∨ ∃ a, x = .ok a ∧ f a = .error fault := by
  cases x <;> simp [bind, Except.bind]

lemma fails_bind {x : Except ε α} {f : α → Except ε β} :
    Fails (x >>= f) ↔ Fails x ∨ ∃ a, x = .ok a ∧ Fails (f a) := by
  cases x <;> simp [bind, Except.bind]

/-- The second part of a computation may fail on grounds that do not depend on the first. -/
lemma fails_bind_of_forall {motive : Prop} {x : Except ε α} {f : α → Except ε β}
    (h : ∀ a, Fails (f a) ↔ motive) : Fails (x >>= f) ↔ Fails x ∨ motive := by
  simp only [fails_bind, h]
  by_cases hx : Fails x
  · exact ⟨fun _ => Or.inl hx, fun _ => Or.inl hx⟩
  · obtain ⟨a, rfl⟩ := not_fails_iff.1 hx
    simp

lemma fails_bind_of_not_fails {x : Except ε α} {f : α → Except ε β} (h : ∀ a, ¬Fails (f a)) :
    Fails (x >>= f) ↔ Fails x := by
  rw [fails_bind_of_forall fun a => iff_false_intro (h a), or_false]

/-- A computation whose second part fails on any first part fails. -/
lemma fails_bind_of_fails {x : Except ε α} {f : α → Except ε β} (h : ∀ a, Fails (f a)) :
    Fails (x >>= f) := by
  rw [fails_bind_of_forall fun a => iff_true_intro (h a)]
  exact Or.inr trivial

/-- What is made of a result makes no difference. -/
lemma fails_bind_pure {x : Except ε α} {f : α → β} :
    Fails (do return f (← x)) ↔ Fails x :=
  fails_bind_of_not_fails fun a => not_fails_ok (f a)

lemma fails_mapError {ε' : Type} {x : Except ε α} {f : ε → ε'} :
    Fails (x.mapError f) ↔ Fails x := by
  cases x <;> simp [Except.mapError]

lemma fails_mapM {f : α → Except ε β} {l : List α} :
    Fails (l.mapM f) ↔ ∃ a ∈ l, Fails (f a) := by
  induction l with
  | nil => exact ⟨fun h => absurd h (not_fails_ok []), by simp⟩
  | cons a l ih =>
    rw [List.mapM_cons, List.exists_mem_cons_iff, ← ih]
    exact fails_bind_of_forall fun first => fails_bind_pure

/-- A fold fails if one of its steps does on whatever the steps before it have come to. -/
lemma fails_foldlM_of_mem {f : β → α → Except ε β} {l : List α} {a : α} (hmem : a ∈ l)
    (h : ∀ b, Fails (f b a)) {start : β} : Fails (l.foldlM f start) := by
  induction l generalizing start with
  | nil => exact absurd hmem List.not_mem_nil
  | cons first l ih =>
    rw [List.foldlM_cons]
    rcases List.mem_cons.1 hmem with rfl | hmem
    · exact fails_bind.2 (Or.inl (h start))
    · exact fails_bind_of_fails fun next => ih hmem

lemma map_eq_error_iff {x : Except ε α} {f : α → β} {fault : ε} :
    x.map f = .error fault ↔ x = .error fault := by
  cases x <;> simp [Except.map]

/-- A fold fails as the first step does that fails, on what the steps before it have come to. -/
lemma foldlM_eq_error_iff {f : β → α → Except ε β} {l : List α} {start : β} {fault : ε} :
    l.foldlM f start = .error fault ↔ ∃ before a after b,
      l = before ++ a :: after ∧ before.foldlM f start = .ok b ∧ f b a = .error fault := by
  induction l generalizing start with
  | nil =>
    refine ⟨fun h => absurd h (by simp [pure, Except.pure]), ?_⟩
    rintro ⟨before, a, after, b, hnil, -⟩
    exact absurd hnil (by simp)
  | cons first l ih =>
    rw [List.foldlM_cons, bind_eq_error_iff]
    constructor
    · rintro (hfirst | ⟨next, hnext, hrest⟩)
      · exact ⟨[], first, l, start, rfl, rfl, hfirst⟩
      · obtain ⟨before, a, after, b, rfl, hbefore, ha⟩ := ih.1 hrest
        refine ⟨first :: before, a, after, b, rfl, ?_, ha⟩
        rw [List.foldlM_cons, hnext]
        exact hbefore
    · rintro ⟨before, a, after, b, hsplit, hbefore, ha⟩
      cases before with
      | nil =>
        obtain ⟨rfl, rfl⟩ := List.cons.inj hsplit
        obtain rfl : start = b := Except.ok.inj hbefore
        exact Or.inl ha
      | cons first' before =>
        obtain ⟨rfl, rfl⟩ := List.cons.inj hsplit
        rw [List.foldlM_cons] at hbefore
        obtain ⟨next, hnext, hbefore⟩ := exists_of_bind_eq_ok hbefore
        exact Or.inr ⟨next, hnext, ih.2 ⟨before, a, after, b, rfl, hbefore, ha⟩⟩

lemma mapError_eq_error_iff {ε' : Type} {x : Except ε α} {f : ε → ε'} {fault : ε'} :
    x.mapError f = .error fault ↔ ∃ cause, x = .error cause ∧ f cause = fault := by
  cases x <;> simp [Except.mapError]

/-- What is made of a result fails as the result does. -/
lemma bind_pure_eq_error_iff {x : Except ε α} {f : α → β} {fault : ε} :
    (do return f (← x)) = .error fault ↔ x = .error fault := by
  rw [bind_eq_error_iff]
  exact or_iff_left fun ⟨a, _, h⟩ => by simp [pure, Except.pure] at h

/-! ### What a computation gives -/

/-- Whatever the computation gives has the property. -/
def Gives (motive : α → Prop) (x : Except ε α) : Prop := ∀ a, x = .ok a → motive a

namespace Gives

variable {motive : α → Prop}

lemma ok {a : α} (h : motive a) : Gives motive (.ok a : Except ε α) := by
  intro b hb
  exact Except.ok.inj hb ▸ h

lemma error (fault : ε) : Gives motive (.error fault) := by
  intro a ha
  exact absurd ha (by simp)

lemma bind {x : Except ε β} {f : β → Except ε α} (h : ∀ b, x = .ok b → Gives motive (f b)) :
    Gives motive (x >>= f) := by
  intro a ha
  obtain ⟨b, hb, hab⟩ := exists_of_bind_eq_ok ha
  exact h b hb a hab

lemma mapError {ε' : Type} {x : Except ε α} (f : ε → ε') (h : Gives motive x) :
    Gives motive (x.mapError f) := by
  cases x with
  | error fault => exact error (f fault)
  | ok a => exact ok (h a rfl)

end Gives

end Worksheet
