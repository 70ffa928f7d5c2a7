import Worksheet.Proofs.Dimensional.Grammar

/-!
# Recursive descent

A formula over quantities can be read by one procedure for each nonterminal, which takes tokens from
the head of those that are still to come and leaves the rest.  As each procedure takes a token
before it calls itself again, the descent ends, and as it only ever looks at the head of a list,
there is no token that it could miss behind the end.

What is made of the tokens meanwhile is a parameter.  Whatever it is, the descent has the result
that the derived phrase has: building the phrase shows that there is at most one derivation, and
evaluating shows that the evaluation while reading has the quantity of the term that is read first
and evaluated then.
-/

namespace Worksheet.Dimensional

/-- What is made of the tokens of a phrase while they are read; a name and an operator may be
refused. -/
structure Reading (α : Type) where
  name : List Char → Option α
  decimal : List Char → α
  neg : α → α
  binary : Op → α → α → Option α
  group : α → α

/-- A result for the first tokens, with the tokens behind them. -/
structure Part (α : Type) (bound : Nat) where
  value : α
  rest : List Token
  short : rest.length < bound

namespace Part

variable {α : Type} {bound : Nat}

/-- The part behind one more token. -/
def later (p : Part α bound) : Part α (bound + 1) :=
  ⟨p.value, p.rest, p.short.trans (Nat.lt_succ_self _)⟩

/-- The part with another result. -/
def map (f : α → α) (p : Part α bound) : Part α bound := ⟨f p.value, p.rest, p.short⟩

/-- The part up to a closing parenthesis, which is the next token. -/
def close? : Part α bound → Option (Part α bound)
  | ⟨x, .sign .closeParen :: rest, h⟩ => some ⟨x, rest, (Nat.lt_succ_self _).trans h⟩
  | _ => none

end Part

/-- How many nonterminals stand below one in the grammar. -/
@[simp] def Nonterminal.height : Nonterminal → Nat
  | expression => 2
  | term => 1
  | factor => 0

mutual

/-- The result for the tokens that a nonterminal takes from the head. -/
def descend {α : Type} (R : Reading α) :
    Nonterminal → (tokens : List Token) → Option (Part α tokens.length)
  | .expression, tokens => do
    let first ← descend R .term tokens
    have := first.short
    let last ← goOn R .expression first.value first.rest
    return ⟨last.value, last.rest, Nat.lt_of_le_of_lt (Nat.le_of_lt_succ last.short) first.short⟩
  | .term, tokens => do
    let first ← descend R .factor tokens
    have := first.short
    let last ← goOn R .term first.value first.rest
    return ⟨last.value, last.rest, Nat.lt_of_le_of_lt (Nat.le_of_lt_succ last.short) first.short⟩
  | .factor, .name text :: rest => do
    let x ← R.name text
    return ⟨x, rest, Nat.lt_succ_self _⟩
  | .factor, .number text :: rest => some ⟨R.decimal text, rest, Nat.lt_succ_self _⟩
  | .factor, .sign .minus :: rest => do
    let a ← descend R .factor rest
    return (a.map R.neg).later
  | .factor, .sign .openParen :: rest => do
    let a ← descend R .expression rest
    let closed ← a.close?
    return (closed.map R.group).later
  | .factor, _ => none
termination_by n tokens => (tokens.length, n.height)

/-- The result for operands of a nonterminal that go on behind the first. -/
def goOn {α : Type} (R : Reading α) (n : Nonterminal) (x : α) :
    (tokens : List Token) → Option (Part α (tokens.length + 1))
  | .sign s :: rest =>
    match s.op? with
    | some op =>
      if op.nonterminal = n then do
        let b ← descend R op.operand rest
        let y ← R.binary op x b.value
        have := b.short
        let last ← goOn R n y b.rest
        return ⟨last.value, last.rest, by
          have := last.short
          simp only [List.length_cons]
          omega⟩
      else some ⟨x, .sign s :: rest, Nat.lt_succ_self _⟩
    | none => some ⟨x, .sign s :: rest, Nat.lt_succ_self _⟩
  | tokens => some ⟨x, tokens, Nat.lt_succ_self _⟩
termination_by tokens => (tokens.length, 3)

end

lemma Sign.op?_eq_some_iff {s : Sign} {op : Op} : s.op? = some op ↔ s = op.sign := by
  cases s <;> cases op <;> decide

namespace Reading

variable {α : Type} (R : Reading α)

/-- The result for the tokens that a nonterminal takes from the head, and the tokens behind them. -/
def read? (n : Nonterminal) (tokens : List Token) : Option (α × List Token) :=
  (descend R n tokens).map fun p => (p.value, p.rest)

/-- The result for operands that go on behind the first, and the tokens behind them. -/
def more? (n : Nonterminal) (x : α) (tokens : List Token) : Option (α × List Token) :=
  (goOn R n x tokens).map fun p => (p.value, p.rest)

/-- The result up to a closing parenthesis, which is the next token. -/
def close? : α × List Token → Option (α × List Token)
  | (x, .sign .closeParen :: rest) => some (R.group x, rest)
  | _ => none

/-- The result for all tokens. -/
def whole? (tokens : List Token) : Option α :=
  (R.read? .expression tokens).bind fun p => if p.2.isEmpty then some p.1 else none

/-! ### What is read step by step -/

lemma read?_expression (tokens : List Token) : R.read? .expression tokens =
    (R.read? .term tokens).bind fun p => R.more? .expression p.1 p.2 := by
  rw [read?, descend, read?]
  cases descend R .term tokens with
  | none => rfl
  | some first =>
    show Option.map _ ((goOn R .expression first.value first.rest).bind _) =
      (goOn R .expression first.value first.rest).map _
    cases goOn R .expression first.value first.rest <;> rfl

lemma read?_term (tokens : List Token) : R.read? .term tokens =
    (R.read? .factor tokens).bind fun p => R.more? .term p.1 p.2 := by
  rw [read?, descend, read?]
  cases descend R .factor tokens with
  | none => rfl
  | some first =>
    show Option.map _ ((goOn R .term first.value first.rest).bind _) =
      (goOn R .term first.value first.rest).map _
    cases goOn R .term first.value first.rest <;> rfl

lemma read?_name (text : List Char) (rest : List Token) :
    R.read? .factor (.name text :: rest) = (R.name text).map fun x => (x, rest) := by
  rw [read?, descend]
  cases R.name text <;> rfl

lemma read?_number (text : List Char) (rest : List Token) :
    R.read? .factor (.number text :: rest) = some (R.decimal text, rest) := by
  rw [read?, descend]
  rfl

lemma read?_minus (rest : List Token) : R.read? .factor (.sign .minus :: rest) =
    (R.read? .factor rest).map fun p => (R.neg p.1, p.2) := by
  rw [read?, descend, read?]
  cases descend R .factor rest <;> rfl

lemma read?_openParen (rest : List Token) : R.read? .factor (.sign .openParen :: rest) =
    (R.read? .expression rest).bind R.close? := by
  rw [read?, descend, read?]
  cases descend R .expression rest with
  | none => rfl
  | some a =>
    obtain ⟨x, rest, h⟩ := a
    cases rest with
    | nil => rfl
    | cons token rest =>
      cases token with
      | sign s => cases s <;> rfl
      | _ => rfl

lemma read?_factor_eq_none {tokens : List Token}
    (hname : ∀ text rest, tokens ≠ .name text :: rest)
    (hnumber : ∀ text rest, tokens ≠ .number text :: rest)
    (hminus : ∀ rest, tokens ≠ .sign .minus :: rest)
    (hopen : ∀ rest, tokens ≠ .sign .openParen :: rest) : R.read? .factor tokens = none := by
  rw [read?, descend] <;> first | assumption | rfl

/-- Behind an operand an operator of the nonterminal takes the operand on its right. -/
lemma more?_sign (op : Op) (x : α) (rest : List Token) :
    R.more? op.nonterminal x (.sign op.sign :: rest) =
      (R.read? op.operand rest).bind fun p =>
        (R.binary op x p.1).bind fun y => R.more? op.nonterminal y p.2 := by
  rw [more?, goOn, Sign.op?_eq_some_iff.2 rfl]
  simp only [if_true]
  rw [read?]
  cases descend R op.operand rest with
  | none => rfl
  | some b =>
    show Option.map _ ((R.binary op x b.value).bind _) = (R.binary op x b.value).bind _
    cases R.binary op x b.value with
    | none => rfl
    | some y =>
      show Option.map _ ((goOn R op.nonterminal y b.rest).bind _) = R.more? op.nonterminal y b.rest
      rw [more?]
      cases goOn R op.nonterminal y b.rest <;> rfl

/-- The tokens do not go on with an operator of the nonterminal. -/
def Stops (n : Nonterminal) (tokens : List Token) : Prop :=
  ∀ (op : Op) (rest : List Token), tokens = .sign op.sign :: rest → op.nonterminal ≠ n

lemma more?_of_stops {n : Nonterminal} {tokens : List Token} (h : Stops n tokens) (x : α) :
    R.more? n x tokens = some (x, tokens) := by
  rw [more?]
  cases tokens with
  | nil =>
    rw [goOn]
    · rfl
    · simp
  | cons token rest =>
    cases token with
    | sign s =>
      rw [goOn]
      cases hop : s.op? with
      | none => rfl
      | some op =>
        obtain rfl := Sign.op?_eq_some_iff.1 hop
        simp only
        rw [if_neg (h op rest rfl)]
        rfl
    | _ =>
      rw [goOn]
      · rfl
      · simp

lemma stops_factor (tokens : List Token) : Stops .factor tokens := by
  rintro op rest -
  cases op <;> decide

end Reading

/-! ### What is read is what is derived -/

/-- What is made of a phrase. -/
def Phrase.value? {α : Type} (R : Reading α) : Phrase → Option α
  | name text => R.name text
  | decimal text => some (R.decimal text)
  | neg a => (a.value? R).map R.neg
  | binary op a b => (a.value? R).bind fun x => (b.value? R).bind fun y => R.binary op x y
  | group a => (a.value? R).map R.group

section Derivation

variable {α : Type} {R : Reading α}

open Reading

lemma read?_binary {op : Op} {a b : Phrase} {x : α} {rest : List Token}
    (hx : (Phrase.binary op a b).value? R = some x) (hrest : Stops op.operand rest)
    (ha : ∀ y, a.value? R = some y → ∀ tail, R.read? op.nonterminal
      (a.tokens ++ .sign op.sign :: tail) = R.more? op.nonterminal y (.sign op.sign :: tail))
    (hb : ∀ y, b.value? R = some y →
      R.read? op.operand (b.tokens ++ rest) = R.more? op.operand y rest) :
    R.read? op.nonterminal ((Phrase.binary op a b).tokens ++ rest) =
      R.more? op.nonterminal x rest := by
  obtain ⟨y, hy, hx⟩ := Option.bind_eq_some_iff.1 hx
  obtain ⟨z, hz, hx⟩ := Option.bind_eq_some_iff.1 hx
  rw [Phrase.tokens, List.append_assoc, List.cons_append, ha y hy, more?_sign, hb z hz,
    R.more?_of_stops hrest, Option.bind_some, hx, Option.bind_some]

lemma stops_sign {op : Op} {n : Nonterminal} (h : op.nonterminal ≠ n) (rest : List Token) :
    Stops n (.sign op.sign :: rest) := by
  intro op' rest' heq
  have hsign : op.sign = op'.sign := by simpa using (List.cons.inj heq).1
  have hop : op = op' := by
    cases op <;> cases op' <;> first | rfl | exact absurd hsign (by decide)
  rwa [← hop]

lemma stops_closeParen (n : Nonterminal) (rest : List Token) :
    Stops n (.sign .closeParen :: rest) := by
  intro op rest' heq
  cases op <;> exact absurd (List.cons.inj heq).1 (by decide)

/-- A phrase that is derived from a nonterminal is read as a whole, and then what goes on behind
it; that is not the case where the last operand of a sum goes on with a product. -/
lemma Derives.read?_eq {n : Nonterminal} {a : Phrase} (h : Derives n a) {x : α}
    (hx : a.value? R = some x) {rest : List Token} (hrest : n = .expression → Stops .term rest) :
    R.read? n (a.tokens ++ rest) = R.more? n x rest := by
  induction h generalizing x rest with
  | ofTerm ha ih =>
    rw [read?_expression, ih hx (by simp), R.more?_of_stops (hrest rfl), Option.bind_some]
  | @sum op a b hop ha hb iha ihb =>
    have hstops := hrest rfl
    have ha' : ∀ y, a.value? R = some y → op.nonterminal ≠ .term → ∀ tail, R.read? .expression
        (a.tokens ++ .sign op.sign :: tail) = R.more? .expression y (.sign op.sign :: tail) :=
      fun y hy hne tail => iha hy fun _ => stops_sign hne tail
    cases op with
    | add => exact read?_binary hx hstops (ha' · · (by decide)) fun y hy => ihb hy (by simp)
    | sub => exact read?_binary hx hstops (ha' · · (by decide)) fun y hy => ihb hy (by simp)
    | mul => exact absurd hop (by decide)
    | div => exact absurd hop (by decide)
  | ofFactor ha ih =>
    rw [read?_term, ih hx (by simp), R.more?_of_stops (stops_factor rest), Option.bind_some]
  | @product op a b hop ha hb iha ihb =>
    have ha' : ∀ y, a.value? R = some y → ∀ tail, R.read? .term
        (a.tokens ++ .sign op.sign :: tail) = R.more? .term y (.sign op.sign :: tail) :=
      fun y hy tail => iha hy (by simp)
    cases op with
    | add => exact absurd hop (by decide)
    | sub => exact absurd hop (by decide)
    | mul => exact read?_binary hx (stops_factor rest) ha' fun y hy => ihb hy (by simp)
    | div => exact read?_binary hx (stops_factor rest) ha' fun y hy => ihb hy (by simp)
  | @group a ha ih =>
    obtain ⟨y, hy, rfl⟩ := Option.map_eq_some_iff.1 hx
    rw [Phrase.tokens, List.cons_append, List.append_assoc, List.singleton_append, read?_openParen,
      ih hy fun _ => stops_closeParen .term rest, R.more?_of_stops (stops_closeParen _ rest),
      R.more?_of_stops (stops_factor rest)]
    rfl
  | name text =>
    have hname : R.name text = some x := hx
    rw [Phrase.tokens, List.singleton_append, read?_name, hname,
      R.more?_of_stops (stops_factor rest)]
    rfl
  | decimal text =>
    obtain rfl := Option.some.inj hx
    rw [Phrase.tokens, List.singleton_append, read?_number, R.more?_of_stops (stops_factor rest)]
  | @neg a ha ih =>
    obtain ⟨y, hy, rfl⟩ := Option.map_eq_some_iff.1 hx
    rw [Phrase.tokens, List.cons_append, read?_minus, ih hy (by simp),
      R.more?_of_stops (stops_factor rest), R.more?_of_stops (stops_factor rest)]
    rfl

/-- The tokens that a reading has taken off the head are those of a phrase that has the result. -/
def Took (R : Reading α) (n : Nonterminal) (tokens : List Token) (read : Option (α × List Token)) :
    Prop :=
  ∀ x rest, read = some (x, rest) →
    ∃ a, Derives n a ∧ a.value? R = some x ∧ tokens = a.tokens ++ rest

/-- What goes on from the result of a phrase takes a phrase that begins with it. -/
def GoesOn (R : Reading α) (n : Nonterminal) (x : α) (tokens : List Token) : Prop :=
  ∀ a, Derives n a → a.value? R = some x → Took R n (a.tokens ++ tokens) (R.more? n x tokens)

lemma goesOn_of_stops {n : Nonterminal} {x : α} {tokens : List Token} (h : Stops n tokens) :
    GoesOn R n x tokens := by
  intro a ha hx y rest hread
  rw [R.more?_of_stops h] at hread
  obtain ⟨rfl, rfl⟩ := Prod.mk.inj (Option.some.inj hread)
  exact ⟨a, ha, hx, rfl⟩

lemma Took.goOn {m n : Nonterminal} {tokens : List Token} (hlift : ∀ {a}, Derives m a → Derives n a)
    (hfirst : Took R m tokens (R.read? m tokens))
    (hmore : ∀ first : Part α tokens.length, GoesOn R n first.value first.rest) :
    Took R n tokens ((R.read? m tokens).bind fun p => R.more? n p.1 p.2) := by
  intro x rest h
  obtain ⟨p, hp, h⟩ := Option.bind_eq_some_iff.1 h
  obtain ⟨a, ha, hx, htokens⟩ := hfirst p.1 p.2 hp
  obtain ⟨first, -, rfl⟩ := Option.map_eq_some_iff.1 hp
  obtain ⟨b, hb, hy, hrest⟩ := hmore first a (hlift ha) hx x rest h
  exact ⟨b, hb, hy, htokens.trans hrest⟩

lemma Took.goesOn {op : Op} {x : α} {tokens : List Token}
    (hright : Took R op.operand tokens (R.read? op.operand tokens))
    (hmore : ∀ (b : Part α tokens.length) (y : α), GoesOn R op.nonterminal y b.rest) :
    GoesOn R op.nonterminal x (.sign op.sign :: tokens) := by
  intro a ha hx y rest h
  rw [more?_sign] at h
  obtain ⟨p, hp, h⟩ := Option.bind_eq_some_iff.1 h
  obtain ⟨z, hz, h⟩ := Option.bind_eq_some_iff.1 h
  obtain ⟨b, hb, hbx, htokens⟩ := hright p.1 p.2 hp
  have hbinary : (Phrase.binary op a b).value? R = some z := by
    rw [Phrase.value?, hx, Option.bind_some, hbx, Option.bind_some, hz]
  have hjoined : a.tokens ++ .sign op.sign :: tokens = (Phrase.binary op a b).tokens ++ p.2 := by
    rw [htokens, Phrase.tokens, List.append_assoc, List.cons_append]
  obtain ⟨right, -, rfl⟩ := Option.map_eq_some_iff.1 hp
  obtain ⟨c, hc, hcx, hrest⟩ := hmore right z _ (ha.binary hb) hbinary y rest h
  exact ⟨c, hc, hcx, hjoined.trans hrest⟩

lemma Took.group {tokens : List Token}
    (h : Took R .expression tokens (R.read? .expression tokens)) :
    Took R .factor (.sign .openParen :: tokens) ((R.read? .expression tokens).bind R.close?) := by
  intro x rest hclose
  obtain ⟨⟨y, tail⟩, hp, hclose⟩ := Option.bind_eq_some_iff.1 hclose
  obtain ⟨a, ha, hy, htokens⟩ := h y tail hp
  unfold Reading.close? at hclose
  split at hclose
  · rename_i y' rest' heq
    obtain ⟨rfl, rfl⟩ := Prod.mk.inj heq
    obtain ⟨rfl, rfl⟩ := Prod.mk.inj (Option.some.inj hclose)
    refine ⟨.group a, .group ha, by rw [Phrase.value?, hy]; rfl, ?_⟩
    rw [htokens, Phrase.tokens, List.cons_append, List.append_assoc, List.singleton_append]
  · exact absurd hclose (by simp)

/-- Whatever is read has been derived; the induction is that of the descent. -/
lemma took_read? (n : Nonterminal) (tokens : List Token) : Took R n tokens (R.read? n tokens) := by
  apply descend.induct (fun n tokens => Took R n tokens (R.read? n tokens)) (GoesOn R)
  case case1 =>
    intro tokens hfirst hmore
    rw [read?_expression]
    exact hfirst.goOn .ofTerm hmore
  case case2 =>
    intro tokens hfirst hmore
    rw [read?_term]
    exact hfirst.goOn .ofFactor hmore
  case case3 =>
    intro text rest x rest' h
    rw [read?_name] at h
    obtain ⟨y, hy, h⟩ := Option.map_eq_some_iff.1 h
    obtain ⟨rfl, rfl⟩ := Prod.mk.inj h
    exact ⟨_, .name text, hy, rfl⟩
  case case4 =>
    intro text rest x rest' h
    rw [read?_number] at h
    obtain ⟨rfl, rfl⟩ := Prod.mk.inj (Option.some.inj h)
    exact ⟨_, .decimal text, rfl, rfl⟩
  case case5 =>
    intro rest ih x rest' h
    rw [read?_minus] at h
    obtain ⟨p, hp, h⟩ := Option.map_eq_some_iff.1 h
    obtain ⟨rfl, rfl⟩ := Prod.mk.inj h
    obtain ⟨a, ha, hx, htokens⟩ := ih p.1 p.2 hp
    exact ⟨_, .neg ha, by rw [Phrase.value?, hx]; rfl, by rw [htokens]; rfl⟩
  case case6 =>
    intro rest ih
    rw [read?_openParen]
    exact ih.group
  case case7 =>
    intro tokens hname hnumber hminus hopen
    rw [R.read?_factor_eq_none hname hnumber hminus hopen]
    exact fun x rest h => absurd h (by simp)
  case case8 =>
    intro x s rest op hop hright hmore
    obtain rfl := Sign.op?_eq_some_iff.1 hop
    exact hright.goesOn hmore
  case case9 =>
    intro n x s rest op hop hne
    obtain rfl := Sign.op?_eq_some_iff.1 hop
    exact goesOn_of_stops (stops_sign hne rest)
  case case10 =>
    intro n x s rest hop
    refine goesOn_of_stops fun op rest' heq => ?_
    obtain rfl : s = op.sign := by simpa using (List.cons.inj heq).1
    rw [Sign.op?_eq_some_iff.2 rfl] at hop
    exact absurd hop (by simp)
  case case11 =>
    intro n x tokens hsign
    exact goesOn_of_stops fun op rest heq => (hsign _ _ heq).elim

/-- The descent has a result for all tokens exactly where the grammar derives them and the phrase
has the result. -/
lemma whole?_eq_some_iff {tokens : List Token} {x : α} : R.whole? tokens = some x ↔
    ∃ a, Derives .expression a ∧ a.tokens = tokens ∧ a.value? R = some x := by
  constructor
  · intro h
    obtain ⟨⟨y, rest⟩, hread, hend⟩ := Option.bind_eq_some_iff.1 h
    obtain ⟨a, ha, hy, htokens⟩ := took_read? .expression tokens y rest hread
    cases rest with
    | nil => exact ⟨a, ha, by rw [htokens, List.append_nil], hy.trans hend⟩
    | cons token rest => exact absurd hend (by simp)
  · rintro ⟨a, ha, rfl, hx⟩
    have hnil : ∀ n, Stops n [] := fun n op rest heq => absurd heq (by simp)
    have hread := ha.read?_eq hx fun _ => hnil .term
    rw [List.append_nil, R.more?_of_stops (hnil .expression)] at hread
    rw [Reading.whole?, hread]
    rfl

lemma Phrase.tokens_ne_nil (a : Phrase) : a.tokens ≠ [] := by
  cases a <;> simp [tokens]

end Derivation

/-! ### Phrases and quantities -/

/-- The reading that builds the phrase itself. -/
def phrases : Reading Phrase where
  name text := some (.name text)
  decimal := .decimal
  neg := .neg
  binary op a b := some (.binary op a b)
  group := .group

/-- The reading that evaluates what it reads. -/
def quantities (strict : Bool) (scope : QuantityScope) : Reading Quantity where
  name text := (resolve strict scope (String.ofList text)).toOption
  decimal text := ⟨(Double.read? text).getD 0.0, .unitless⟩
  neg := Quantity.neg
  binary op x y := (op.apply x y).toOption
  group := id

lemma value?_phrases (a : Phrase) : a.value? phrases = some a := by
  induction a with
  | name text => rfl
  | decimal text => rfl
  | neg a ih => rw [Phrase.value?, ih]; rfl
  | binary op a b iha ihb => rw [Phrase.value?, iha, ihb]; rfl
  | group a ih => rw [Phrase.value?, ih]; rfl

/-- No tokens are those of two derived phrases. -/
lemma Derives.eq_of_tokens_eq {a b : Phrase} (ha : Derives .expression a)
    (hb : Derives .expression b) (h : a.tokens = b.tokens) : a = b := by
  have hread := whole?_eq_some_iff.2 ⟨a, ha, h, value?_phrases a⟩
  have hread' := whole?_eq_some_iff.2 ⟨b, hb, rfl, value?_phrases b⟩
  exact Option.some.inj (hread.symm.trans hread')

lemma value?_quantities (strict : Bool) (scope : QuantityScope) (a : Phrase) :
    a.value? (quantities strict scope) = (a.term.eval strict scope).toOption := by
  induction a with
  | name text => rfl
  | decimal text => rfl
  | neg a ih =>
    rw [Phrase.value?, ih, Phrase.term, Term.eval]
    cases a.term.eval strict scope <;> rfl
  | binary op a b iha ihb =>
    rw [Phrase.value?, iha, ihb, Phrase.term, Term.eval]
    cases a.term.eval strict scope with
    | error fault => rfl
    | ok x =>
      cases b.term.eval strict scope with
      | error fault => rfl
      | ok y =>
        show (op.apply x y).toOption = ((op.apply x y).mapError _).toOption
        cases op.apply x y <;> rfl
  | group a ih =>
    rw [Phrase.value?, ih]
    exact Option.map_id_apply

/-- **The evaluation over quantities accepts exactly its grammar.**  Tokens have a quantity if and
only if they are derived from an expression whose evaluation from the left meets no sum of
incompatible units and, in strict reading, no name without a quantity, and the quantity is that of
the evaluation.  There is one derivation at most.  A recursive descent that evaluates while it reads
has the same result; it ends on all tokens, and each of its parts takes some tokens from the head of
those that it is given and leaves the rest. -/
theorem quantity_iff_derives (tokens : List Token) (scope : QuantityScope) (strict : Bool) :
    (∀ q, ((parse? tokens).bind fun t => (t.eval strict scope).toOption) = some q ↔
      ∃ a, Derives .expression a ∧ a.tokens = tokens ∧
        a.Admissible strict scope ∧ a.quantity scope = q) ∧
    (∀ a b, Derives .expression a → Derives .expression b → a.tokens = tokens →
      b.tokens = tokens → a = b) ∧
    (quantities strict scope).whole? tokens =
      ((parse? tokens).bind fun t => (t.eval strict scope).toOption) ∧
    ∀ n x rest, (quantities strict scope).read? n tokens = some (x, rest) →
      ∃ taken, taken ≠ [] ∧ tokens = taken ++ rest := by
  have hvalue : ∀ q, ((parse? tokens).bind fun t => (t.eval strict scope).toOption) = some q ↔
      ∃ a, Derives .expression a ∧ a.tokens = tokens ∧
        (a.term.eval strict scope).toOption = some q := by
    intro q
    rw [Option.bind_eq_some_iff]
    constructor
    · rintro ⟨t, ht, hq⟩
      obtain ⟨a, ha, htokens, rfl⟩ := parse?_eq_some_iff.1 ht
      exact ⟨a, ha, htokens, hq⟩
    · rintro ⟨a, ha, htokens, hq⟩
      exact ⟨a.term, parse?_eq_some_iff.2 ⟨a, ha, htokens, rfl⟩, hq⟩
  refine ⟨fun q => ?_, fun a b ha hb hatokens hbtokens => ?_, Option.ext fun q => ?_, ?_⟩
  · rw [hvalue]
    refine exists_congr fun a => and_congr_right fun _ => and_congr_right fun _ => ?_
    rw [toOption_eq_some_iff, Phrase.eval_term_eq_ok_iff]
  · exact ha.eq_of_tokens_eq hb (hatokens.trans hbtokens.symm)
  · rw [hvalue, whole?_eq_some_iff]
    simp only [value?_quantities]
  · intro n x rest h
    obtain ⟨a, -, -, htokens⟩ := took_read? n tokens x rest h
    exact ⟨a.tokens, a.tokens_ne_nil, htokens⟩

end Worksheet.Dimensional
