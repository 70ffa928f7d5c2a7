import Worksheet.Proofs.Dimensional.Grammar
import Worksheet.Proofs.Dimensional.Spacing

/-!
# Chains

A chain is a formula without parentheses: operands with an operator between any two neighbours and
blanks around the operators.  A chain that multiplies and divides is worked through from left to
right, so the unit of its quantity is what the operators make of the units of its operands in this
order.
-/

namespace Worksheet.Dimensional

open Worksheet.Text

/-! ### Chains and their texts -/

/-- Any number of blanks. -/
abbrev Blanks := { s : List Char // ∀ c ∈ s, isBlank c = true }

/-- An operator with the operand on its right, and the blanks before and behind the operator. -/
structure Chain.Link (α : Type) where
  before : Blanks
  op : Op
  after : Blanks
  operand : α

/-- A first operand, further operands behind operators, and the blanks at both ends. -/
structure Chain (α : Type) where
  lead : Blanks
  first : α
  links : List (Chain.Link α)
  trail : Blanks

/-- The unit that an operator makes of two units; a sum keeps that of its left operand. -/
def Op.unit : Op → CompoundUnit → CompoundUnit → CompoundUnit
  | mul, u, v => u * v
  | div, u, v => u / v
  | _, u, _ => u

lemma Op.unit_result (op : Op) (x y : Quantity) : (op.result x y).unit = op.unit x.unit y.unit := by
  cases op <;> rfl

namespace Chain

variable {α β : Type}

/-- A link as it is written. -/
def Link.text (write : α → List Char) (l : Link α) : List Char :=
  l.before.1 ++ l.op.sign.char :: (l.after.1 ++ write l.operand)

/-- A chain as it is written. -/
def text (write : α → List Char) (c : Chain α) : List Char :=
  c.lead.1 ++ (write c.first ++ (c.links.flatMap (Link.text write) ++ c.trail.1))

/-- The operands in order. -/
def operands (c : Chain α) : List α := c.first :: c.links.map Link.operand

/-- No operator of the chain is a sum or a difference. -/
def SumFree (c : Chain α) : Prop := ∀ l ∈ c.links, l.op = .mul ∨ l.op = .div

instance (c : Chain α) : Decidable c.SumFree :=
  inferInstanceAs (Decidable (∀ l ∈ c.links, _))

/-- The unit of a chain whose operands have units, from left to right. -/
def unit (unitOf : α → CompoundUnit) (c : Chain α) : CompoundUnit :=
  c.links.foldl (fun u l => l.op.unit u (unitOf l.operand)) (unitOf c.first)

/-- The same operators stand between operands that are related. -/
structure Related (R : α → β → Prop) (c : Chain α) (d : Chain β) : Prop where
  first : R c.first d.first
  links : List.Forall₂ (fun l m => l.op = m.op ∧ R l.operand m.operand) c.links d.links

namespace Related

variable {R : α → β → Prop} {c : Chain α} {d : Chain β}

lemma sumFree (h : Related R c d) (hc : c.SumFree) : d.SumFree := by
  intro m hm
  obtain ⟨l, hl, hop, -⟩ := exists_of_mem_forall₂ h.links hm
  rw [← hop]
  exact hc l hl

lemma exists_of_mem (h : Related R c d) {y : β} (hy : y ∈ d.operands) : ∃ x, R x y := by
  rcases List.mem_cons.1 hy with rfl | hy
  · exact ⟨_, h.first⟩
  · obtain ⟨m, hm, rfl⟩ := List.mem_map.1 hy
    obtain ⟨l, -, -, hR⟩ := exists_of_mem_forall₂ h.links hm
    exact ⟨_, hR⟩

lemma unit_eq (h : Related R c d) {f : α → CompoundUnit} {g : β → CompoundUnit}
    (hunits : ∀ x y, R x y → f x = g y) : c.unit f = d.unit g := by
  have hfold : ∀ u, c.links.foldl (fun u l => l.op.unit u (f l.operand)) u =
      d.links.foldl (fun u m => m.op.unit u (g m.operand)) u := by
    have hlinks := h.links
    revert hlinks
    generalize c.links = ls, d.links = ms
    intro hlinks
    induction hlinks with
    | nil => exact fun _ => rfl
    | cons hlm _ ih =>
      intro u
      rw [List.foldl_cons, List.foldl_cons, hlm.1, hunits _ _ hlm.2, ih]
  rw [unit, unit, hfold, hunits _ _ h.first]

end Related

end Chain

/-! ### Reading a chain piece by piece -/

namespace Chain

section Reading

variable {α γ : Type} {F : List Char → List γ} {write : α → List Char} {P : List Char → Prop}
  {B : Blanks → List γ} {S : Op → List γ} {W : α → List γ}

/-- What is read for a link: the blanks, the operator and the operand in order. -/
def Link.read (B : Blanks → List γ) (S : Op → List γ) (W : α → List γ) (l : Link α) : List γ :=
  B l.before ++ (S l.op ++ (B l.after ++ W l.operand))

/-- What reads blanks, operators and operands one after another reads a chain so; an operand may
need that what follows it is what follows an operand in a chain. -/
lemma read_text (hnil : F [] = []) (hblank : ∀ (u : Blanks) s, F (u.1 ++ s) = B u ++ F s)
    (hsign : ∀ (op : Op) s, F (op.sign.char :: s) = S op ++ F s)
    (hfollow : ∀ (links : List (Link α)) (trail : Blanks),
      P (links.flatMap (Link.text write) ++ trail.1))
    (c : Chain α) (hoperand : ∀ x ∈ c.operands, ∀ s, P s → F (write x ++ s) = W x ++ F s) :
    F (c.text write) =
      B c.lead ++ (W c.first ++ (c.links.flatMap (Link.read B S W) ++ B c.trail)) := by
  obtain ⟨hfirst, hlinks⟩ := List.forall_mem_cons.1 hoperand
  have hread : F (c.links.flatMap (Link.text write) ++ c.trail.1) =
      c.links.flatMap (Link.read B S W) ++ B c.trail := by
    revert hlinks
    generalize c.links = links
    intro hlinks
    induction links with
    | nil =>
      have htrail := hblank c.trail []
      rwa [hnil, List.append_nil, List.append_nil] at htrail
    | cons l links ih =>
      obtain ⟨hl, hlinks⟩ := List.forall_mem_cons.1 hlinks
      rw [List.flatMap_cons, List.flatMap_cons, Link.text, Link.read]
      simp only [List.append_assoc, List.cons_append]
      rw [hblank, hsign, hblank, hl _ (hfollow links c.trail), ih hlinks]
  rw [text, hblank, hfirst _ (hfollow c.links c.trail), hread]

end Reading

end Chain

/-! ### Tokens of a chain of names -/

/-- An ASCII letter, and then letters, digits and underscores. -/
def IsIdentifier (text : List Char) : Prop :=
  ∃ c cs, text = c :: cs ∧ c.isAlpha = true ∧ ∀ d ∈ cs, isNameChar d = true

lemma forward_tokenPattern : Forward tokenPattern := fun _ _ _ => rfl

lemma tokenPattern_of_isBlank {c : Char} (h : isBlank c = true) (s : List Char) :
    tokenPattern none (c :: s) = none := by
  have hne : ∀ d, isBlank d = false → c ≠ d := fun d hd => ne_of_class h hd
  have halpha : c.isAlpha = false := by
    cases halpha : c.isAlpha with
    | false => rfl
    | true =>
      have hname : isNameChar c = true := by simp [isNameChar, Char.isAlphanum, halpha]
      rw [not_isBlank_of_isNameChar hname] at h
      exact absurd h (by decide)
  have hdigit : isDecimalDigit c = false := by
    cases hdigit : isDecimalDigit c with
    | false => rfl
    | true =>
      rw [not_isBlank_of_isDecimalDigit hdigit] at h
      exact absurd h (by decide)
  have hpoint : Stops isPoint (c :: s) := by
    intro d hd
    obtain rfl : c = d := by simpa using hd
    exact beq_false_of_ne (hne '.' (by decide))
  have hwidth : decimalWidth (c :: s) = 0 := by
    simp [decimalWidth, leadingDecimalWidth, digitsWidth, hdigit, fractionWidth_of_stops hpoint]
  have hsign : sign? c = none := by
    unfold sign?
    split <;> first | rfl | exact absurd rfl (hne _ (by decide))
  simp [tokenPattern, token?, name?, halpha, hwidth, hsign]

lemma tokenize_blanks {u : List Char} (h : ∀ c ∈ u, isBlank c = true) (s : List Char) :
    matches? tokenPattern (u ++ s) = matches? tokenPattern s := by
  induction u with
  | nil => rfl
  | cons c u ih =>
    obtain ⟨hc, hu⟩ := List.forall_mem_cons.1 h
    rw [List.cons_append, matches?_cons forward_tokenPattern (tokenPattern_of_isBlank hc _), ih hu]

lemma tokenize_sign (op : Op) (s : List Char) :
    matches? tokenPattern (op.sign.char :: s) = .sign op.sign :: matches? tokenPattern s := by
  have hfound : tokenPattern none ([op.sign.char] ++ s) =
      some (.sign op.sign, [op.sign.char].length) := by
    cases op <;> rfl
  exact matches?_append forward_tokenPattern (List.cons_ne_nil _ _) hfound

lemma tokenize_identifier {text s : List Char} (h : IsIdentifier text) (hs : Stops isNameChar s) :
    matches? tokenPattern (text ++ s) = .name text :: matches? tokenPattern s := by
  obtain ⟨c, cs, rfl, hc, hcs⟩ := h
  refine matches?_append forward_tokenPattern (List.cons_ne_nil c cs) ?_
  rw [tokenPattern, token?, name?_append hc hcs hs]
  rfl

namespace Chain

lemma stops_isNameChar_blanks (u : Blanks) {s : List Char} (hs : Stops isNameChar s) :
    Stops isNameChar (u.1 ++ s) := by
  obtain ⟨u, hu⟩ := u
  cases u with
  | nil => exact hs
  | cons c u =>
    intro d hd
    obtain rfl : c = d := by simpa using hd
    cases hname : isNameChar c with
    | false => rfl
    | true =>
      have hblank := hu c List.mem_cons_self
      rw [not_isBlank_of_isNameChar hname] at hblank
      exact absurd hblank (by decide)

/-- What follows an operand begins with a blank or a sign, if there is anything. -/
lemma stops_isNameChar_links (links : List (Link String)) (trail : Blanks) :
    Stops isNameChar (links.flatMap (Link.text String.toList) ++ trail.1) := by
  cases links with
  | nil =>
    have htrail := stops_isNameChar_blanks trail (s := []) fun c hc => absurd hc (by simp)
    rwa [List.append_nil] at htrail
  | cons l links =>
    rw [List.flatMap_cons, Link.text, List.append_assoc, List.append_assoc, List.cons_append]
    refine stops_isNameChar_blanks l.before fun c hc => ?_
    obtain rfl : l.op.sign.char = c := by simpa using hc
    cases l.op <;> rfl

/-- The tokens behind the first operand. -/
def Link.tokens (l : Link String) : List Token := [.sign l.op.sign, .name l.operand.toList]

lemma tokenize_text {c : Chain String} (h : ∀ name ∈ c.operands, IsIdentifier name.toList) :
    tokenize (String.ofList (c.text String.toList)) =
      .name c.first.toList :: c.links.flatMap Link.tokens := by
  have hread := read_text (F := matches? tokenPattern) (B := fun _ => [])
    (S := fun op => [.sign op.sign]) (W := fun name : String => [.name name.toList]) rfl
    (fun u s => tokenize_blanks u.2 s) tokenize_sign stops_isNameChar_links c
    fun name hname s hs => tokenize_identifier (h name hname) hs
  rw [tokenize, String.toList_ofList, hread, List.append_nil]
  rfl

/-! ### Quantities of a chain of names -/

/-- The phrase that a link makes of the phrase on its left. -/
def Link.phrase (a : Phrase) (l : Link String) : Phrase := .binary l.op a (.name l.operand.toList)

/-- A chain of names as a phrase: equal operators group to the left. -/
def phrase (c : Chain String) : Phrase := c.links.foldl Link.phrase (.name c.first.toList)

lemma tokens_foldl (links : List (Link String)) (a : Phrase) :
    (links.foldl Link.phrase a).tokens = a.tokens ++ links.flatMap Link.tokens := by
  induction links generalizing a with
  | nil => simp
  | cons l links ih =>
    rw [List.foldl_cons, ih, Link.phrase, Phrase.tokens, List.flatMap_cons, List.append_assoc]
    rfl

/-- Products and quotients of names are derived as one term. -/
lemma derives_foldl {links : List (Link String)} (h : ∀ l ∈ links, l.op = .mul ∨ l.op = .div)
    {a : Phrase} (ha : Derives .term a) : Derives .term (links.foldl Link.phrase a) := by
  induction links generalizing a with
  | nil => exact ha
  | cons l links ih =>
    obtain ⟨hl, hlinks⟩ := List.forall_mem_cons.1 h
    refine ih hlinks (.product ?_ ha (.name _))
    rcases hl with hop | hop <;> rw [hop] <;> rfl

section Evaluation

variable {scope : QuantityScope}

lemma admissible_foldl {links : List (Link String)} (h : ∀ l ∈ links, l.op = .mul ∨ l.op = .div)
    (hbound : ∀ l ∈ links, (scope l.operand).isSome) (strict : Bool) {a : Phrase}
    (ha : a.Admissible strict scope) : (links.foldl Link.phrase a).Admissible strict scope := by
  induction links generalizing a with
  | nil => exact ha
  | cons l links ih =>
    obtain ⟨hl, hlinks⟩ := List.forall_mem_cons.1 h
    obtain ⟨hname, hbound⟩ := List.forall_mem_cons.1 hbound
    refine ih hlinks hbound ⟨ha, fun _ => by rwa [String.ofList_toList], fun hsum => ?_⟩
    rcases hl with hop | hop <;> simp [hop] at hsum

/-- The unit of a name, which is none if the name has no quantity. -/
def unitIn (scope : QuantityScope) (name : String) : CompoundUnit := ((scope name).getD .zero).unit

lemma unit_quantity_foldl (links : List (Link String)) (a : Phrase) :
    ((links.foldl Link.phrase a).quantity scope).unit =
      links.foldl (fun u l => l.op.unit u (unitIn scope l.operand)) (a.quantity scope).unit := by
  induction links generalizing a with
  | nil => rfl
  | cons l links ih =>
    rw [List.foldl_cons, List.foldl_cons, ih, Link.phrase, Phrase.quantity, Op.unit_result,
      Phrase.quantity, String.ofList_toList]
    rfl

/-- A chain of names that multiplies and divides has a quantity, and its unit is that of the
chain. -/
lemma exists_evaluate_text {c : Chain String} (hc : c.SumFree)
    (hnames : ∀ name ∈ c.operands, IsIdentifier name.toList)
    (hbound : ∀ name ∈ c.operands, (scope name).isSome) (strict : Bool) :
    ∃ q, evaluate (String.ofList (c.text String.toList)) scope strict = some q ∧
      q.unit = c.unit (unitIn scope) := by
  obtain ⟨hfirst, hlinks⟩ := List.forall_mem_cons.1 hbound
  have hlinks : ∀ l ∈ c.links, (scope l.operand).isSome := fun l hl =>
    hlinks _ (List.mem_map_of_mem hl)
  have htokens : tokenize (String.ofList (c.text String.toList)) = c.phrase.tokens := by
    rw [tokenize_text hnames, phrase, tokens_foldl]
    rfl
  have hderives : Derives .expression c.phrase :=
    .ofTerm (derives_foldl hc (.ofFactor (.name _)))
  have hadmissible : c.phrase.Admissible strict scope :=
    admissible_foldl hc hlinks strict fun _ => by rwa [String.ofList_toList]
  refine ⟨c.phrase.quantity scope, ?_, ?_⟩
  · rw [evaluate, htokens, parse?_of_derives hderives, Option.bind_some,
      Phrase.eval_term_eq_ok_iff.2 ⟨hadmissible, rfl⟩]
    rfl
  · rw [phrase, unit_quantity_foldl, Phrase.quantity, String.ofList_toList]
    rfl

end Evaluation

end Chain
end Worksheet.Dimensional
