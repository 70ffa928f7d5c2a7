import Mathlib.Tactic.Lemma
import Worksheet.Dimensional.Term

/-!
# Phrases

A phrase is a sum, difference, product, quotient, negation or parenthesis as it is written, without
regard to which operator binds first.  Its tokens are always read as some term: what an operator
takes from the open frames never reaches past the innermost open parenthesis, so a closing one
finds its partner.  The leaves of the term are among the tokens.
-/

namespace Worksheet.Dimensional

/-- The sign that an operator is written with. -/
def Op.sign : Op → Sign
  | add => .plus
  | sub => .minus
  | mul => .star
  | div => .slash

/-- An expression as it is written. -/
inductive Phrase where
  | name (text : List Char)
  | decimal (text : List Char)
  | neg (a : Phrase)
  | binary (op : Op) (a b : Phrase)
  | group (a : Phrase)
  deriving DecidableEq, Repr

/-- The tokens of a phrase, in order. -/
def Phrase.tokens : Phrase → List Token
  | name text => [.name text]
  | decimal text => [.number text]
  | neg a => .sign .minus :: a.tokens
  | binary op a b => a.tokens ++ .sign op.sign :: b.tokens
  | group a => .sign .openParen :: (a.tokens ++ [.sign .closeParen])

/-- The names in a phrase. -/
def Phrase.names : Phrase → List String
  | name text => [String.ofList text]
  | decimal _ => []
  | neg a => a.names
  | binary _ a b => a.names ++ b.names
  | group a => a.names

lemma Phrase.mem_names {a : Phrase} {text : List Char} (h : .name text ∈ a.tokens) :
    String.ofList text ∈ a.names := by
  induction a with
  | name text' =>
    obtain rfl : text = text' := by simpa [tokens] using h
    exact List.mem_singleton_self _
  | decimal text' => exact absurd h (by simp [tokens])
  | neg a ih => exact ih (by simpa [tokens] using h)
  | binary op a b iha ihb =>
    have h : .name text ∈ a.tokens ∨ .name text ∈ b.tokens := by simpa [tokens] using h
    exact List.mem_append.2 (h.imp iha ihb)
  | group a ih => exact ih (by simpa [tokens] using h)

/-! ### Every phrase is read as a term -/

/-- Frames that begin with no operator are those of a parenthesis or none. -/
lemma nil_or_group {frames : List Frame} (hneg : ∀ outer, frames = .neg :: outer → False)
    (hbinary : ∀ op left outer, frames = .binary op left :: outer → False) :
    frames = [] ∨ ∃ outer, frames = .group :: outer := by
  cases frames with
  | nil => exact Or.inl rfl
  | cons frame outer =>
    cases frame with
    | neg => exact absurd rfl (hneg outer)
    | binary op left => exact absurd rfl (hbinary op left outer)
    | group => exact Or.inr ⟨outer, rfl⟩

/-- The frames from the innermost open parenthesis on. -/
def enclosing : List Frame → List Frame
  | [] => []
  | .group :: frames => .group :: frames
  | .neg :: frames => enclosing frames
  | .binary _ _ :: frames => enclosing frames

lemma enclosing_unwind (level : Nat) (frames : List Frame) (t : Term) :
    enclosing (unwind level frames t).1 = enclosing frames := by
  fun_induction unwind level frames t with
  | case1 frames t ih => exact ih
  | case2 op left frames t hlevel ih => exact ih
  | case3 op left frames t hlevel => rfl
  | case4 frames t _ _ => rfl

/-- At level zero every frame up to the innermost parenthesis is closed. -/
lemma unwind_zero (frames : List Frame) (t : Term) :
    (unwind 0 frames t).1 = enclosing frames := by
  fun_induction unwind 0 frames t with
  | case1 frames t ih => exact ih
  | case2 op left frames t hlevel ih => exact ih
  | case3 op left frames t hlevel => exact absurd (Nat.zero_le _) hlevel
  | case4 frames t hneg hbinary =>
    obtain rfl | ⟨outer, rfl⟩ := nil_or_group hneg hbinary
    · rfl
    · rfl

lemma step_operand (frames : List Frame) (token : Token) :
    Reader.step ⟨none, frames⟩ token = startOperand frames token := rfl

lemma step_complete (frames : List Frame) (t : Term) (token : Token) :
    Reader.step ⟨some t, frames⟩ token = continueWith frames t token := rfl

lemma continueWith_op (op : Op) (frames : List Frame) (t : Term) :
    continueWith frames t (.sign op.sign) =
      some ⟨none, .binary op (unwind op.level frames t).2 :: (unwind op.level frames t).1⟩ := by
  cases op <;> rfl

lemma continueWith_closeParen {frames outer : List Frame} (t : Term)
    (h : enclosing frames = .group :: outer) :
    continueWith frames t (.sign .closeParen) = some ⟨some (unwind 0 frames t).2, outer⟩ := by
  have hframes : unwind 0 frames t = (.group :: outer, (unwind 0 frames t).2) := by
    rw [← h, ← unwind_zero frames t]
  rw [continueWith, hframes]

/-- The tokens of a phrase leave a complete term, inside the same parentheses as before. -/
lemma foldlM_tokens (a : Phrase) (frames : List Frame) :
    ∃ t frames', a.tokens.foldlM Reader.step ⟨none, frames⟩ = some ⟨some t, frames'⟩ ∧
      enclosing frames' = enclosing frames := by
  induction a generalizing frames with
  | name text => exact ⟨_, frames, rfl, rfl⟩
  | decimal text => exact ⟨_, frames, rfl, rfl⟩
  | neg a ih =>
    obtain ⟨t, frames', hread, hframes⟩ := ih (.neg :: frames)
    refine ⟨t, frames', ?_, hframes⟩
    rw [Phrase.tokens, List.foldlM_cons]
    exact hread
  | binary op a b iha ihb =>
    -- the operator may take frames that were open before `a`, but none behind a parenthesis
    obtain ⟨t, frames', hread, hframes⟩ := iha frames
    obtain ⟨t', frames'', hread', hframes'⟩ :=
      ihb (.binary op (unwind op.level frames' t).2 :: (unwind op.level frames' t).1)
    refine ⟨t', frames'', ?_, ?_⟩
    · rw [Phrase.tokens, List.foldlM_append, hread, Option.bind_eq_bind, Option.bind_some,
        List.foldlM_cons, step_complete, continueWith_op]
      exact hread'
    · rw [hframes', enclosing, enclosing_unwind, hframes]
  | group a ih =>
    obtain ⟨t, frames', hread, hframes⟩ := ih (.group :: frames)
    refine ⟨(unwind 0 frames' t).2, frames, ?_, rfl⟩
    have hopen : Reader.step ⟨none, frames⟩ (.sign .openParen) =
        some ⟨none, .group :: frames⟩ := rfl
    rw [Phrase.tokens, List.foldlM_cons, hopen, Option.bind_eq_bind, Option.bind_some,
      List.foldlM_append, hread, Option.bind_eq_bind, Option.bind_some, List.foldlM_cons,
      step_complete, continueWith_closeParen t hframes]
    rfl

lemma exists_parse?_tokens (a : Phrase) : ∃ t, parse? a.tokens = some t := by
  obtain ⟨t, frames, hread, hframes⟩ := foldlM_tokens a []
  refine ⟨(unwind 0 frames t).2, ?_⟩
  have hclosed : unwind 0 frames t = ([], (unwind 0 frames t).2) := by
    rw [← unwind_zero] at hframes
    exact Prod.ext hframes rfl
  rw [parse?, hread, Option.bind_some, Reader.finish?, Option.bind_some, hclosed]

/-! ### The leaves of a term -/

/-- The tokens that are left in a term. -/
def Term.leaves : Term → List Token
  | name text => [.name text.toList]
  | number text => [.number text]
  | neg a => a.leaves
  | binary _ a b => a.leaves ++ b.leaves

/-- The leaves of an unfinished term. -/
def Frame.leaves : Frame → List Token
  | binary _ left => left.leaves
  | _ => []

/-- The leaves of all that a reader has read. -/
def Reader.leaves (r : Reader) : List Token :=
  (r.complete.map Term.leaves).getD [] ++ r.frames.flatMap Frame.leaves

lemma leaves_unwind (level : Nat) (frames : List Frame) (t : Term) {leaf : Token}
    (h : leaf ∈ (unwind level frames t).2.leaves ∨
      leaf ∈ (unwind level frames t).1.flatMap Frame.leaves) :
    leaf ∈ t.leaves ∨ leaf ∈ frames.flatMap Frame.leaves := by
  fun_induction unwind level frames t with
  | case1 frames t ih =>
    rcases ih h with ht | hframes
    · exact Or.inl ht
    · exact Or.inr hframes
  | case2 op left frames t hlevel ih =>
    rw [List.flatMap_cons, List.mem_append]
    rcases ih h with ht | hframes
    · rcases List.mem_append.1 ht with hleft | hright
      · exact Or.inr (Or.inl hleft)
      · exact Or.inl hright
    · exact Or.inr (Or.inr hframes)
  | case3 op left frames t hlevel => exact h
  | case4 frames t _ _ => exact h

lemma leaves_step {r r' : Reader} {token leaf : Token} (h : r.step token = some r')
    (hleaf : leaf ∈ r'.leaves) : leaf ∈ r.leaves ∨ leaf = token := by
  obtain ⟨complete, frames⟩ := r
  cases complete with
  | none =>
    rw [step_operand] at h
    unfold startOperand at h
    split at h
    · obtain rfl := Option.some.inj h
      simpa [Reader.leaves, Term.leaves, or_comm] using hleaf
    · obtain rfl := Option.some.inj h
      simpa [Reader.leaves, Term.leaves, or_comm] using hleaf
    · obtain rfl := Option.some.inj h
      exact Or.inl (by simpa [Reader.leaves, Frame.leaves] using hleaf)
    · obtain rfl := Option.some.inj h
      exact Or.inl (by simpa [Reader.leaves, Frame.leaves] using hleaf)
    · exact absurd h (by simp)
  | some t =>
    refine Or.inl (List.mem_append.2 ?_)
    rw [step_complete] at h
    unfold continueWith at h
    split at h
    · -- a closing parenthesis closes frames, an operator closes some and opens one
      split at h
      · rename_i outer t' hunwind
        obtain rfl := Option.some.inj h
        refine leaves_unwind 0 frames t ?_
        rw [hunwind]
        exact List.mem_append.1 hleaf
      · exact absurd h (by simp)
    · obtain ⟨op, -, hop⟩ := Option.map_eq_some_iff.1 h
      subst hop
      refine leaves_unwind op.level frames t ?_
      rw [Reader.leaves, List.mem_append, List.flatMap_cons, List.mem_append] at hleaf
      exact hleaf.resolve_left List.not_mem_nil
    · exact absurd h (by simp)

lemma leaves_foldlM {tokens : List Token} {r r' : Reader}
    (h : tokens.foldlM Reader.step r = some r') {leaf : Token} (hleaf : leaf ∈ r'.leaves) :
    leaf ∈ r.leaves ∨ leaf ∈ tokens := by
  induction tokens generalizing r with
  | nil =>
    obtain rfl := Option.some.inj h
    exact Or.inl hleaf
  | cons token tokens ih =>
    rw [List.foldlM_cons] at h
    obtain ⟨next, hstep, hrest⟩ := Option.bind_eq_some_iff.1 h
    rcases ih hrest with hnext | hmem
    · rcases leaves_step hstep hnext with hr | rfl
      · exact Or.inl hr
      · exact Or.inr List.mem_cons_self
    · exact Or.inr (List.mem_cons_of_mem token hmem)

/-- A term has no leaves but those it was read from. -/
lemma leaves_parse? {tokens : List Token} {t : Term} (h : parse? tokens = some t) :
    t.leaves ⊆ tokens := by
  intro leaf hleaf
  obtain ⟨r, hread, hfinish⟩ := Option.bind_eq_some_iff.1 h
  obtain ⟨complete, hcomplete, hclosed⟩ := Option.bind_eq_some_iff.1 hfinish
  have hr : leaf ∈ r.leaves := by
    rw [Reader.leaves, hcomplete, List.mem_append]
    refine leaves_unwind 0 r.frames complete ?_
    split at hclosed
    · rename_i t' hunwind
      obtain rfl := Option.some.inj hclosed
      rw [hunwind]
      exact Or.inl hleaf
    · exact absurd hclosed (by simp)
  exact (leaves_foldlM hread hr).resolve_left List.not_mem_nil

/-! ### Calls -/

/-- A parenthesis behind a name opens no group, so a term calls no functions. -/
lemma parse?_of_call {before after : List Token} {name : List Char} :
    parse? (before ++ .name name :: .sign .openParen :: after) = none := by
  have hcall : ∀ r : Reader,
      (.name name :: .sign .openParen :: after).foldlM Reader.step r = none := by
    intro r
    obtain ⟨complete, frames⟩ := r
    cases complete with
    | none => rfl
    | some t => rfl
  rw [parse?, List.foldlM_append]
  cases before.foldlM Reader.step ⟨none, []⟩ with
  | none => rfl
  | some r => rw [Option.bind_eq_bind, Option.bind_some, hcall, Option.bind_none]

end Worksheet.Dimensional
