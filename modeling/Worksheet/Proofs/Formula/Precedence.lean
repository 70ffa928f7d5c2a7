import Worksheet.Proofs.Formula.Spelling

/-!
# The reader inverts writing

A phrase that fits is read as the expression it stands for, however its lexemes are spaced.  What
carries the induction over phrases: the frames in front of a phrase await its kind, that is, no
operator as tight as the phrase closes any of them; and behind the phrase the reader holds its
expression on these frames, that is, closing frames at a level up to that of the phrase comes to
the same as if the expression stood there complete.
-/

namespace Worksheet.Formula

open Worksheet.Text

/-! ### The lexemes of a phrase -/

/-- The terminal of an operator between two operands. -/
def BinaryOp.terminal : BinaryOp → Terminal
  | add => .plus
  | sub => .minus
  | mul => .star
  | div => .slash
  | mod => .percent
  | pow => .caret
  | equal => .equal
  | notEqual => .notEqual
  | less => .less
  | greater => .greater
  | atMost => .atMost
  | atLeast => .atLeast
  | and => .and
  | or => .or
  | xor => .xor
  | other _ => .name

/-- An operator between two operands as a lexeme. -/
def BinaryOp.lexeme (op : BinaryOp) : Lexeme := ⟨op.terminal, op.symbol.toList⟩

/-- The terminal of an operator in front of its operand. -/
def UnaryOp.terminal : UnaryOp → Terminal
  | neg => .minus
  | plus => .plus
  | not => .not
  | other _ => .name

/-- An operator in front of its operand as a lexeme. -/
def UnaryOp.lexeme (op : UnaryOp) : Lexeme := ⟨op.terminal, op.symbol.toList⟩

namespace Phrase

mutual

/-- The lexemes of a phrase, in order. -/
def lexemes : Phrase → List Lexeme
  | number text => [⟨.number, text⟩]
  | string quote content => [⟨.string, quote :: content ++ [quote]⟩]
  | truth true => [⟨.true, "true".toList⟩]
  | truth false => [⟨.false, "false".toList⟩]
  | null => [⟨.null, "null".toList⟩]
  | symbol name => [⟨.name, name⟩]
  | call name arguments => ⟨.name, name⟩ :: ⟨.openParen, ['(']⟩ :: argumentLexemes arguments
  | unary op a => op.lexeme :: a.lexemes
  | binary op a b => a.lexemes ++ op.lexeme :: b.lexemes
  | conditional c a b =>
    c.lexemes ++ ⟨.question, ['?']⟩ :: (a.lexemes ++ ⟨.colon, [':']⟩ :: b.lexemes)
  | group a => ⟨.openParen, ['(']⟩ :: (a.lexemes ++ [⟨.closeParen, [')']⟩])

/-- The lexemes of arguments up to the closing parenthesis. -/
def argumentLexemes : List Phrase → List Lexeme
  | [] => [⟨.closeParen, [')']⟩]
  | a :: arguments => a.lexemes ++ furtherLexemes arguments

/-- The lexemes behind an argument up to the closing parenthesis. -/
def furtherLexemes : List Phrase → List Lexeme
  | [] => [⟨.closeParen, [')']⟩]
  | a :: arguments => ⟨.comma, [',']⟩ :: (a.lexemes ++ furtherLexemes arguments)

end

end Phrase

/-! ### Frames and levels -/

lemma BinaryOp.level_kind (op : BinaryOp) : op.kind.level = op.level := by
  cases op <;> rfl

lemma BinaryOp.level_leftKind (op : BinaryOp) : op.leftKind.level = op.leftLevel := by
  cases op <;> rfl

lemma BinaryOp.level_le_leftLevel (op : BinaryOp) : op.level ≤ op.leftLevel := by
  cases op <;> simp [level, leftLevel]

lemma BinaryOp.leftLevel_pos (op : BinaryOp) : 0 < op.leftLevel := by
  cases op <;> simp [level, leftLevel]

lemma BinaryOp.level_rightKind {op : BinaryOp} (hop : ∀ s, op ≠ .other s) (hpow : op ≠ .pow) :
    op.rightKind.level = op.level + 1 := by
  cases op with
  | other s => exact absurd rfl (hop s)
  | pow => exact absurd rfl hpow
  | _ => rfl

/-- An operator that may stand in an operand of another one does not close it. -/
lemma BinaryOp.level_lt_leftLevel {op next : BinaryOp} (hop : ∀ s, op ≠ .other s)
    (h : op.rightKind.level ≤ next.level) : op.level < next.leftLevel := by
  by_cases hpow : op = .pow
  · subst hpow
    cases next <;> simp_all [rightKind, level, leftLevel, Kind.level]
  · rw [level_rightKind hop hpow] at h
    exact h.trans next.level_le_leftLevel

lemma UnaryOp.level_lt_leftLevel {op : UnaryOp} {next : BinaryOp}
    (h : op.kind.level ≤ next.level) : op.level < next.leftLevel := by
  cases op <;> cases next <;>
    simp_all [kind, level, Kind.level, BinaryOp.level, BinaryOp.leftLevel]

/-- Nothing that binds as tightly as a level closes one of the frames, and a negation may start
behind them if it is as tight. -/
structure Awaits (frames : List Frame) (level : Nat) : Prop where
  admits : level ≤ Kind.not.level → admitsNegation frames = true
  unwind_eq : ∀ op : BinaryOp, level ≤ op.level → ∀ e, unwind op.leftLevel frames e = (frames, e)

namespace Awaits

variable {frames : List Frame} {level level' : Nat}

lemma mono (h : Awaits frames level) (hle : level ≤ level') : Awaits frames level' where
  admits hnot := h.admits (hle.trans hnot)
  unwind_eq op hop := h.unwind_eq op (hle.trans hop)

lemma nil (level : Nat) : Awaits [] level := ⟨fun _ => rfl, fun _ _ _ => rfl⟩

lemma group (level : Nat) : Awaits (.group :: frames) level := ⟨fun _ => rfl, fun _ _ _ => rfl⟩

lemma call (name : String) (arguments : List Expr) (level : Nat) :
    Awaits (.call name arguments :: frames) level := ⟨fun _ => rfl, fun _ _ _ => rfl⟩

lemma choice (condition : Expr) (level : Nat) : Awaits (.choice condition :: frames) level :=
  ⟨fun _ => rfl, fun _ _ _ => rfl⟩

/-- No operator closes a conditional. -/
lemma alternative (condition ifTrue : Expr) (level : Nat) :
    Awaits (.alternative condition ifTrue :: frames) level := by
  refine ⟨fun _ => rfl, fun op _ e => ?_⟩
  rw [unwind, if_neg]
  rw [beq_iff_eq]
  exact op.leftLevel_pos.ne'

lemma unary (op : UnaryOp) : Awaits (.unary op :: frames) op.kind.level := by
  refine ⟨fun hnot => ?_, fun next hnext e => ?_⟩
  · cases op with
    | not => rfl
    | _ => exact absurd hnot (by simp [UnaryOp.kind, Kind.level])
  · rw [unwind, if_neg (not_le.2 (UnaryOp.level_lt_leftLevel hnext))]

lemma binary {op : BinaryOp} (hop : ∀ s, op ≠ .other s) (left : Expr) :
    Awaits (.binary op left :: frames) op.rightKind.level := by
  refine ⟨fun hnot => ?_, fun next hnext e => ?_⟩
  · cases op with
    | or => rfl
    | xor => rfl
    | and => rfl
    | _ => exact absurd hnot (by simp [BinaryOp.rightKind, BinaryOp.kind, Kind.next, Kind.level])
  · rw [unwind, if_neg (not_le.2 (BinaryOp.level_lt_leftLevel hop hnext))]

end Awaits

/-! ### Behind an operand -/

/-- The expression stands complete on the frames, as far as closing them at a level up to the given
one goes.  At the level of powers nothing is ever closed. -/
def Reader.Holds (r : Reader) (e : Expr) (frames : List Frame) (level : Nat) : Prop :=
  ∃ e', r.value? = some e' ∧ ∀ l ≤ level, l ≠ BinaryOp.pow.level →
    unwind l r.frames e' = unwind l frames e

namespace Reader

variable {r : Reader} {e : Expr} {frames : List Frame} {level : Nat}

lemma holds_of_value (h : r.value? = some e) : r.Holds e r.frames level :=
  ⟨e, h, fun _ _ _ => rfl⟩

lemma step_of_value {lexeme : Lexeme} (h : r.value? = some e)
    (hopen : lexeme.terminal ≠ .openParen) : r.step lexeme = continueWith r.frames e lexeme := by
  obtain ⟨focus, frames⟩ := r
  cases focus with
  | operand => exact absurd h (by simp [value?])
  | named name =>
    obtain rfl := Option.some.inj h
    rw [step]
    simp [hopen]
  | complete e' =>
    obtain rfl := Option.some.inj h
    rfl

lemma takes_binary (h : r.value? = some e) {op : BinaryOp} (hop : ∀ s, op ≠ .other s) :
    r.Takes op.lexeme := by
  have hcases : (op.symbol.toList, op.terminal) ∈ signs ∨
      (op.symbol, op.terminal) ∈ logicalWords := by
    cases op with
    | other s => exact absurd rfl (hop s)
    | _ => decide
  rcases hcases with hsign | hword
  · exact takes_sign_of_value h hsign
  · exact takes_word_of_value h hword

/-- An operator takes up what the reader holds. -/
lemma step_binary {op : BinaryOp} (hop : ∀ s, op ≠ .other s) (h : r.Holds e frames level)
    (hlevel : op.leftLevel ≤ level) (hframes : unwind op.leftLevel frames e = (frames, e)) :
    r.Takes op.lexeme ∧ r.step op.lexeme = some ⟨.operand, .binary op e :: frames⟩ := by
  obtain ⟨e', hvalue, hholds⟩ := h
  have hopen : op.lexeme.terminal ≠ .openParen := by
    cases op <;> simp [BinaryOp.lexeme, BinaryOp.terminal]
  have hbinary : op.lexeme.terminal.binary? = some op := by
    cases op with
    | other s => exact absurd rfl (hop s)
    | _ => rfl
  have hpow : op.leftLevel ≠ BinaryOp.pow.level := by
    cases op <;> simp [BinaryOp.leftLevel, BinaryOp.level]
  refine ⟨takes_binary hvalue hop, ?_⟩
  rw [step_of_value hvalue hopen, continueWith, hbinary]
  simp only [hholds _ hlevel hpow, hframes]

/-- What closing all frames up to an open one comes to. -/
lemma Holds.unwind_zero (h : r.Holds e frames level) :
    ∃ e', r.value? = some e' ∧ unwind 0 r.frames e' = unwind 0 frames e := by
  obtain ⟨e', hvalue, hholds⟩ := h
  exact ⟨e', hvalue, hholds 0 (Nat.zero_le _) (by decide)⟩

lemma step_question (h : r.Holds e frames level) (hlevel : BinaryOp.or.leftLevel ≤ level)
    (hframes : unwind BinaryOp.or.leftLevel frames e = (frames, e)) :
    r.Takes ⟨.question, ['?']⟩ ∧
      r.step ⟨.question, ['?']⟩ = some ⟨.operand, .choice e :: frames⟩ := by
  obtain ⟨e', hvalue, hholds⟩ := h
  have hunwind : unwind BinaryOp.or.level r.frames e' = (frames, e) :=
    (hholds _ hlevel (by decide)).trans hframes
  refine ⟨takes_sign_of_value hvalue (by decide), ?_⟩
  rw [step_of_value hvalue (by decide)]
  simp only [continueWith, Terminal.binary?, hunwind]

lemma step_colon {condition : Expr} (h : r.Holds e (.choice condition :: frames) level) :
    r.Takes ⟨.colon, [':']⟩ ∧
      r.step ⟨.colon, [':']⟩ = some ⟨.operand, .alternative condition e :: frames⟩ := by
  obtain ⟨e', hvalue, hunwind⟩ := h.unwind_zero
  refine ⟨takes_sign_of_value hvalue (by decide), ?_⟩
  rw [step_of_value hvalue (by decide)]
  simp only [continueWith, Terminal.binary?, nextBranch, hunwind, unwind]

lemma step_closeParen_group (h : r.Holds e (.group :: frames) level) :
    r.Takes ⟨.closeParen, [')']⟩ ∧
      r.step ⟨.closeParen, [')']⟩ = some ⟨.complete e, frames⟩ := by
  obtain ⟨e', hvalue, hunwind⟩ := h.unwind_zero
  refine ⟨takes_sign_of_value hvalue (by decide), ?_⟩
  rw [step_of_value hvalue (by decide)]
  simp only [continueWith, Terminal.binary?, closeParen, hunwind, unwind]

variable {name : String} {arguments : List Expr}

lemma step_closeParen_call (h : r.Holds e (.call name arguments :: frames) level) :
    r.Takes ⟨.closeParen, [')']⟩ ∧
      r.step ⟨.closeParen, [')']⟩ = some ⟨.complete (.call name (arguments ++ [e])), frames⟩ := by
  obtain ⟨e', hvalue, hunwind⟩ := h.unwind_zero
  refine ⟨takes_sign_of_value hvalue (by decide), ?_⟩
  rw [step_of_value hvalue (by decide)]
  simp only [continueWith, Terminal.binary?, closeParen, hunwind, unwind]

lemma step_comma (h : r.Holds e (.call name arguments :: frames) level) :
    r.Takes ⟨.comma, [',']⟩ ∧
      r.step ⟨.comma, [',']⟩ = some ⟨.operand, .call name (arguments ++ [e]) :: frames⟩ := by
  obtain ⟨e', hvalue, hunwind⟩ := h.unwind_zero
  refine ⟨takes_sign_of_value hvalue (by decide), ?_⟩
  rw [step_of_value hvalue (by decide)]
  simp only [continueWith, Terminal.binary?, nextArgument, hunwind, unwind]

/-- At the end all frames are closed. -/
lemma finish?_of_holds (h : r.Holds e [] level) : r.finish? = some e := by
  obtain ⟨e', hvalue, hunwind⟩ := h.unwind_zero
  obtain ⟨focus, frames⟩ := r
  cases focus with
  | operand => exact absurd hvalue (by simp [value?])
  | named name =>
    obtain rfl := Option.some.inj hvalue
    simp only [finish?, hunwind, unwind]
  | complete e'' =>
    obtain rfl := Option.some.inj hvalue
    simp only [finish?, hunwind, unwind]

end Reader

/-! ### Phrases are read -/

namespace Phrase

/-- Behind all frames that await it, the phrase is read as its expression. -/
def IsRead (a : Phrase) : Prop :=
  ∀ frames, Awaits frames a.kind.level → ∃ r,
    Reader.Path ⟨.operand, frames⟩ a.lexemes r ∧ r.Holds a.expr frames a.kind.level

/-- A single lexeme that is an operand. -/
lemma exists_path_atom {lexeme : Lexeme} {frames : List Frame} {focus : Focus} {e : Expr}
    (htakes : Reader.Takes ⟨.operand, frames⟩ lexeme)
    (hstep : startOperand frames lexeme = some ⟨focus, frames⟩)
    (hvalue : Reader.value? ⟨focus, frames⟩ = some e) (level : Nat) :
    ∃ r, Reader.Path ⟨.operand, frames⟩ [lexeme] r ∧ r.Holds e frames level :=
  ⟨_, .cons htakes hstep (.nil _), Reader.holds_of_value hvalue⟩

lemma isRead_string {quote : Char} {content : List Char} (hquote : IsQuote quote)
    (hcontent : quote ∉ content) : (string quote content).IsRead := by
  intro frames _
  have hvalue : stringValue (quote :: content ++ [quote]) = .text (String.ofList content) := by
    simp [stringValue]
  refine exists_path_atom (Reader.takes_string hquote hcontent) rfl ?_ _
  rw [Reader.value?, hvalue, expr]

lemma literalWords_subset (negation : Bool) : literalWords ⊆ operandWords negation := by
  cases negation
  · exact List.Subset.refl _
  · exact List.subset_cons_self _ _

lemma isRead_truth (b : Bool) : (truth b).IsRead := by
  intro frames _
  cases b with
  | true => exact exists_path_atom (Reader.takes_word (literalWords_subset _ (by decide))) rfl rfl _
  | false => exact exists_path_atom (Reader.takes_word (literalWords_subset _ (by decide))) rfl rfl _

lemma isRead_null : null.IsRead := by
  intro frames _
  exact exists_path_atom (Reader.takes_word (literalWords_subset _ (by decide))) rfl rfl _

lemma takes_unary {op : UnaryOp} (hop : ∀ s, op ≠ .other s) {frames : List Frame}
    (hawaits : Awaits frames op.kind.level) : Reader.Takes ⟨.operand, frames⟩ op.lexeme := by
  cases op with
  | neg => exact Reader.takes_sign (by decide)
  | plus => exact Reader.takes_sign (by decide)
  | not =>
    refine Reader.takes_word ?_
    rw [hawaits.admits le_rfl]
    decide
  | other s => exact absurd rfl (hop s)

lemma isRead_unary {op : UnaryOp} (hop : ∀ s, op ≠ .other s) {a : Phrase}
    (hlevel : op.kind.level ≤ a.kind.level) (ha : a.IsRead) : (unary op a).IsRead := by
  intro frames hawaits
  obtain ⟨r, hpath, e', hvalue, hholds⟩ :=
    ha (.unary op :: frames) ((Awaits.unary op).mono hlevel)
  have hstep : Reader.step ⟨.operand, frames⟩ op.lexeme = some ⟨.operand, .unary op :: frames⟩ := by
    cases op with
    | other s => exact absurd rfl (hop s)
    | _ => rfl
  refine ⟨r, .cons (takes_unary hop hawaits) hstep hpath, e', hvalue, fun l hl hpow => ?_⟩
  have hop' : l ≤ op.level := hl.trans (by cases op <;> exact le_rfl)
  rw [hholds l (hl.trans hlevel) hpow, unwind, if_pos hop', expr]

lemma isRead_binary {op : BinaryOp} (hop : ∀ s, op ≠ .other s) {a b : Phrase}
    (hleft : op.leftKind.level ≤ a.kind.level) (hright : op.rightKind.level ≤ b.kind.level)
    (ha : a.IsRead) (hb : b.IsRead) : (binary op a b).IsRead := by
  intro frames hawaits
  have hawaits' : Awaits frames op.level := by
    rw [← op.level_kind]
    exact hawaits
  rw [op.level_leftKind] at hleft
  obtain ⟨r, hpath, hholds⟩ := ha frames (hawaits'.mono (op.level_le_leftLevel.trans hleft))
  obtain ⟨htakes, hstep⟩ :=
    Reader.step_binary hop hholds hleft (hawaits'.unwind_eq op le_rfl a.expr)
  obtain ⟨r', hpath', e', hvalue, hholds'⟩ :=
    hb (.binary op a.expr :: frames) ((Awaits.binary hop a.expr).mono hright)
  refine ⟨r', hpath.append (.cons htakes hstep hpath'), e', hvalue, fun l hl hpow => ?_⟩
  have hl' : l ≤ op.level := hl.trans op.level_kind.le
  have hright' : l ≤ op.rightKind.level := by
    by_cases hop' : op = .pow
    · -- below the level of powers itself, an exponent is as tight as a power
      subst hop'
      exact Nat.le_of_lt_succ (lt_of_le_of_ne hl' hpow)
    · rw [BinaryOp.level_rightKind hop hop']
      exact Nat.le_succ_of_le hl'
  rw [hholds' l (hright'.trans hright) hpow, unwind, if_pos hl', expr]

lemma isRead_conditional {c a b : Phrase} (hcondition : Kind.or.level ≤ c.kind.level)
    (hc : c.IsRead) (ha : a.IsRead) (hb : b.IsRead) : (conditional c a b).IsRead := by
  intro frames hawaits
  obtain ⟨r, hpath, hholds⟩ := hc frames (hawaits.mono (Nat.zero_le _))
  obtain ⟨htakes, hstep⟩ :=
    Reader.step_question hholds hcondition (hawaits.unwind_eq .or (Nat.zero_le _) c.expr)
  obtain ⟨r', hpath', hholds'⟩ := ha (.choice c.expr :: frames) (Awaits.choice _ _)
  obtain ⟨htakes', hstep'⟩ := Reader.step_colon hholds'
  obtain ⟨r'', hpath'', hholds''⟩ :=
    hb (.alternative c.expr a.expr :: frames) (Awaits.alternative _ _ _)
  obtain ⟨e', hvalue, hunwind⟩ := hholds''.unwind_zero
  refine ⟨r'', hpath.append (.cons htakes hstep
    (hpath'.append (.cons htakes' hstep' hpath''))), e', hvalue, fun l hl _ => ?_⟩
  obtain rfl : l = 0 := Nat.le_zero.1 hl
  rw [hunwind, unwind, if_pos (by decide), expr]

lemma isRead_group {a : Phrase} (ha : a.IsRead) : (group a).IsRead := by
  intro frames _
  obtain ⟨r, hpath, hholds⟩ := ha (.group :: frames) (Awaits.group _)
  obtain ⟨htakes, hstep⟩ := Reader.step_closeParen_group hholds
  exact ⟨_, .cons (Reader.takes_sign (by decide)) rfl (hpath.append (.cons htakes hstep (.nil _))),
    Reader.holds_of_value rfl⟩

/-- What stands behind an argument is read up to the closing parenthesis. -/
lemma path_furtherLexemes {arguments : List Phrase} (h : ∀ a ∈ arguments, a.IsRead)
    {frames : List Frame} {name : String} {before : List Expr} {r : Reader} {e : Expr}
    {level : Nat} (hholds : r.Holds e (.call name before :: frames) level) :
    Reader.Path r (furtherLexemes arguments)
      ⟨.complete (.call name (before ++ e :: arguments.map expr)), frames⟩ := by
  induction arguments generalizing r before e level with
  | nil =>
    obtain ⟨htakes, hstep⟩ := Reader.step_closeParen_call hholds
    exact .cons htakes hstep (.nil _)
  | cons a arguments ih =>
    obtain ⟨ha, harguments⟩ := List.forall_mem_cons.1 h
    obtain ⟨htakes, hstep⟩ := Reader.step_comma hholds
    obtain ⟨r', hpath, hholds'⟩ := ha (.call name (before ++ [e]) :: frames) (Awaits.call _ _ _)
    have hrest := ih harguments hholds'
    rw [List.append_assoc, List.singleton_append] at hrest
    exact .cons htakes hstep (hpath.append hrest)

lemma isRead_call {name : List Char} (hname : IsName name) {arguments : List Phrase}
    (h : ∀ a ∈ arguments, a.IsRead) : (call name arguments).IsRead := by
  intro frames _
  have harguments : Reader.Path ⟨.operand, .call (String.ofList name) [] :: frames⟩
      (argumentLexemes arguments)
      ⟨.complete (.call (String.ofList name) (arguments.map expr)), frames⟩ := by
    cases arguments with
    | nil => exact .cons (Reader.takes_sign (by decide)) rfl (.nil _)
    | cons a arguments =>
      obtain ⟨ha, harguments⟩ := List.forall_mem_cons.1 h
      obtain ⟨r, hpath, hholds⟩ :=
        ha (.call (String.ofList name) [] :: frames) (Awaits.call _ _ _)
      exact hpath.append (path_furtherLexemes harguments hholds)
  have hopen : Reader.Takes ⟨.named (String.ofList name), frames⟩ ⟨.openParen, ['(']⟩ :=
    Reader.takes_sign_of_value rfl (by decide)
  refine ⟨_, .cons (Reader.takes_name hname) rfl (.cons hopen rfl harguments),
    Reader.holds_of_value ?_⟩
  rw [Reader.value?, expr, exprs_eq_map]

/-- **Phrases that fit are read as their expressions.** -/
lemma isRead {a : Phrase} (hproper : a.Proper) (hfits : a.Fits) : a.IsRead := by
  induction a with
  | number text =>
    exact fun frames _ => exists_path_atom (Reader.takes_number hproper) rfl rfl _
  | string quote content => exact isRead_string hproper.1 hproper.2
  | truth b => exact isRead_truth b
  | null => exact isRead_null
  | symbol name => exact fun frames _ => exists_path_atom (Reader.takes_name hproper) rfl rfl _
  | call name arguments ih =>
    rw [Proper, properAll_iff] at hproper
    rw [Fits, fitAll_iff] at hfits
    exact isRead_call hproper.1 fun a ha => ih a ha (hproper.2 a ha) (hfits a ha)
  | unary op a ih => exact isRead_unary hproper.1 hfits.1 (ih hproper.2 hfits.2)
  | binary op a b iha ihb =>
    obtain ⟨⟨hleft, ha⟩, hright, hb⟩ := hfits
    exact isRead_binary hproper.1 hleft hright (iha hproper.2.1 ha) (ihb hproper.2.2 hb)
  | conditional c a b ihc iha ihb =>
    obtain ⟨⟨hcondition, hc⟩, ha, hb⟩ := hfits
    exact isRead_conditional hcondition (ihc hproper.1 hc) (iha hproper.2.1 ha)
      (ihb hproper.2.2 hb)
  | group a ih => exact isRead_group (ih hproper hfits)

lemma parse_of_spelled {a : Phrase} (hproper : a.Proper) (hfits : a.Fits) {text : String}
    (hspelled : Spelled a.lexemes text.toList) : parse text = .ok a.expr := by
  obtain ⟨r, hpath, hholds⟩ := isRead hproper hfits [] (Awaits.nil _)
  have hreads := parse_of_reads (hpath.reads (Reader.finish?_of_holds hholds) hspelled)
  rwa [String.ofList_toList] at hreads

end Phrase

/-- **The reader inverts writing.**  A phrase is read as its expression when it is written with
exactly the parentheses that it needs, and also when it is written with more, as long as those are
there. -/
theorem parse_written {a : Phrase} (h : a.Proper) :
    (∀ text : String, Spaced a.grouped.lexemes text.toList → parse text = .ok a.expr) ∧
      ∀ b : Phrase, b.bare = a.bare → b.Fits → ∀ text : String,
        Spaced b.lexemes text.toList → parse text = .ok a.expr := by
  have hall : ∀ b : Phrase, b.bare = a.bare → b.Fits → ∀ text : String,
      Spaced b.lexemes text.toList → parse text = .ok a.expr := by
    intro b hbare hfits text hspaced
    have hproper : b.Proper := by rwa [← b.proper_bare, hbare, a.proper_bare]
    rw [Phrase.parse_of_spelled hproper hfits hspaced.spelled, ← b.expr_bare, hbare, a.expr_bare]
  exact ⟨hall a.grouped a.bare_grouped a.fits_grouped, hall⟩

/-- A choice between two branches: a negated alternative, a word as a name, an exponent with a
sign, and operands that need parentheses on either side. -/
def choice : Phrase :=
  .conditional
    (.binary .and (.unary .not (.binary .or (.symbol "a".toList) (.number "1.5e3".toList)))
      (.unary .neg (.binary .pow (.symbol "or".toList) (.unary .neg (.number "2".toList)))))
    (.call "f".toList [.string '"' "it's".toList, .call "g".toList []])
    (.binary .mul (.binary .sub (.number ".5".toList) (.truth true))
      (.binary .mod (.number "3.".toList) .null))

lemma proper_choice : choice.Proper := by
  have ha : Phrase.IsName "a".toList :=
    ⟨'a', [], rfl, by decide, List.all_eq_true.1 rfl, by decide⟩
  have hor : Phrase.IsName "or".toList :=
    ⟨'o', ['r'], rfl, by decide, List.all_eq_true.1 rfl, by decide⟩
  have hf : Phrase.IsName "f".toList :=
    ⟨'f', [], rfl, by decide, List.all_eq_true.1 rfl, by decide⟩
  have hg : Phrase.IsName "g".toList :=
    ⟨'g', [], rfl, by decide, List.all_eq_true.1 rfl, by decide⟩
  have hdigits {s : List Char} (h : s.all isDecimalDigit = true) :
      ∀ c ∈ s, isDecimalDigit c = true := List.all_eq_true.1 h
  have hscientific : IsNumeral "1.5e3".toList :=
    ⟨"1.5".toList, "e3".toList, rfl,
      Or.inr ⟨['1'], ['5'], rfl, hdigits rfl, hdigits rfl, by decide⟩,
      Or.inr ⟨'e', [], ['3'], rfl, rfl, by decide, by decide, hdigits rfl⟩⟩
  have hwhole : IsNumeral "2".toList :=
    ⟨['2'], [], rfl, Or.inl ⟨by decide, hdigits rfl⟩, Or.inl rfl⟩
  have hfraction : IsNumeral ".5".toList :=
    ⟨['.', '5'], [], rfl, Or.inr ⟨[], ['5'], rfl, hdigits rfl, hdigits rfl, by decide⟩,
      Or.inl rfl⟩
  have hpoint : IsNumeral "3.".toList :=
    ⟨['3', '.'], [], rfl, Or.inr ⟨['3'], [], rfl, hdigits rfl, hdigits rfl, by decide⟩,
      Or.inl rfl⟩
  exact ⟨⟨nofun, ⟨nofun, nofun, ha, hscientific⟩, nofun, nofun, hor, nofun, hwhole⟩,
    ⟨hf, ⟨Or.inl rfl, by decide⟩, ⟨hg, trivial⟩, trivial⟩,
    nofun, ⟨nofun, hfraction, trivial⟩, nofun, hpoint, trivial⟩

/-- The same choice with parentheses around a condition, an exponent and an argument as well. -/
def paddedChoice : Phrase :=
  .conditional
    (.group (.binary .and
      (.unary .not (.group (.binary .or (.symbol "a".toList) (.number "1.5e3".toList))))
      (.unary .neg (.binary .pow (.symbol "or".toList)
        (.group (.unary .neg (.number "2".toList)))))))
    (.call "f".toList [.string '"' "it's".toList, .group (.call "g".toList [])])
    (.binary .mul (.group (.binary .sub (.number ".5".toList) (.truth true)))
      (.group (.binary .mod (.number "3.".toList) .null)))

/-- Both ways to write the choice are read alike. -/
theorem parse_written_choice :
    choice.Proper ∧ paddedChoice.bare = choice.bare ∧ paddedChoice.Fits ∧
      parse ("not ( a or 1.5e3 ) and - or ^ - 2 ? f ( \"it's\" , g ( ) )" ++
        " : ( .5 - true ) * ( 3. % null )") = .ok choice.expr ∧
      parse (String.ofList (spell paddedChoice.lexemes)) = .ok choice.expr := by
  have hfits : paddedChoice.Fits := by
    simp [paddedChoice, Phrase.Fits, Phrase.FitAll, Phrase.kind]
    decide
  obtain ⟨hgrouped, hpadded⟩ := parse_written proper_choice
  refine ⟨proper_choice, rfl, hfits, hgrouped _ ?_, hpadded paddedChoice rfl hfits _ ?_⟩
  · exact spaced_spell choice.grouped.lexemes
  · rw [String.toList_ofList]
    exact spaced_spell _

end Worksheet.Formula
