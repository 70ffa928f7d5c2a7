import Worksheet.Proofs.Dimensional.Spacing
import Worksheet.Proofs.Formula.Reading

/-!
# One reader inside the other

The reader of formulas over values goes through the same states as the reader of terms over
quantities when it reads what both know: its frames are the images of the same frames, and what it
takes for a lexeme at each place is the next token.  The levels of the two are different numbers
but stand in the same order, so an operator closes the same frames in both.
-/

namespace Worksheet.Dimensional

open Worksheet.Text

/-! ### The same in the other language -/

/-- The operator as one of formulas. -/
def Op.binary : Op → Formula.BinaryOp
  | add => .add
  | sub => .sub
  | mul => .mul
  | div => .div

/-- The term as a formula. -/
def Term.expr : Term → Formula.Expr
  | name text => .symbol text
  | number text => .literal (Formula.numberValue text)
  | neg a => .unary .neg a.expr
  | binary op a b => .binary op.binary a.expr b.expr

/-- The unfinished term as an unfinished formula. -/
def Frame.image : Frame → Formula.Frame
  | neg => .unary .neg
  | binary op left => .binary op.binary left.expr
  | group => .group

/-- The terminal of a sign. -/
def Sign.terminal : Sign → Formula.Terminal
  | plus => .plus
  | minus => .minus
  | star => .star
  | slash => .slash
  | openParen => .openParen
  | closeParen => .closeParen
  | caret => .caret

/-- The token as a lexeme. -/
def Token.lexeme : Token → Formula.Lexeme
  | name text => ⟨.name, text⟩
  | number text => ⟨.number, text⟩
  | sign s => ⟨s.terminal, [s.char]⟩

/-- The states of the two readers between the same tokens. -/
inductive Simulates : Reader → Formula.Reader → Prop
  | operand (frames : List Frame) : Simulates ⟨none, frames⟩ ⟨.operand, frames.map Frame.image⟩
  | named (name : String) (frames : List Frame) :
      Simulates ⟨some (.name name), frames⟩ ⟨.named name, frames.map Frame.image⟩
  | complete (t : Term) (frames : List Frame) :
      Simulates ⟨some t, frames⟩ ⟨.complete t.expr, frames.map Frame.image⟩

/-! ### One step -/

/-- Levels that stand to the operators of both readers in the same way close the same frames. -/
lemma unwind_image {level level' : Nat} (hlevel : ∀ op : Op, level ≤ op.level ↔
    level' ≤ op.binary.level) (hneg : level' ≤ 8) (frames : List Frame) (t : Term) :
    Formula.unwind level' (frames.map Frame.image) t.expr =
      ((unwind level frames t).1.map Frame.image, (unwind level frames t).2.expr) := by
  fun_induction unwind level frames t with
  | case1 frames t ih =>
    have hsign : Formula.UnaryOp.level .neg = 8 := rfl
    rw [List.map_cons, Frame.image, Formula.unwind, hsign, if_pos hneg]
    exact ih
  | case2 op left frames t hop ih =>
    rw [List.map_cons, Frame.image, Formula.unwind, if_pos ((hlevel op).1 hop)]
    exact ih
  | case3 op left frames t hop =>
    rw [List.map_cons, Frame.image, Formula.unwind, if_neg (fun h => hop ((hlevel op).2 h))]
  | case4 frames t hneg hbinary =>
    obtain rfl | ⟨outer, rfl⟩ := nil_or_group hneg hbinary
    · rfl
    · rfl

lemma unwind_zero_image (frames : List Frame) (t : Term) :
    Formula.unwind 0 (frames.map Frame.image) t.expr =
      ((unwind 0 frames t).1.map Frame.image, (unwind 0 frames t).2.expr) :=
  unwind_image (fun op => by simp) (Nat.zero_le 8) frames t

lemma unwind_level_image (op : Op) (frames : List Frame) (t : Term) :
    Formula.unwind op.binary.leftLevel (frames.map Frame.image) t.expr =
      ((unwind op.level frames t).1.map Frame.image, (unwind op.level frames t).2.expr) := by
  refine unwind_image (fun op' => ?_) ?_ frames t
  · cases op <;> cases op' <;> decide
  · cases op <;> decide

/-- Behind a complete term both readers do the same. -/
lemma continueWith_image {frames : List Frame} {t : Term} {token : Token} {d : Reader}
    (h : continueWith frames t token = some d) :
    token.lexeme.terminal ≠ .openParen ∧
      ∃ f, Formula.continueWith (frames.map Frame.image) t.expr token.lexeme = some f ∧
        Simulates d f := by
  obtain ⟨s, rfl⟩ := exists_sign_of_continueWith h
  -- the four operators open a frame around what they have closed
  have hop : ∀ op : Op, s = op.sign → ∃ f,
      Formula.continueWith (frames.map Frame.image) t.expr (Token.sign s).lexeme = some f ∧
        Simulates d f := by
    rintro op rfl
    rw [continueWith_op] at h
    obtain rfl := Option.some.inj h
    have hbinary : (Token.sign op.sign).lexeme.terminal.binary? = some op.binary := by
      cases op <;> rfl
    rw [Formula.continueWith, hbinary]
    simp only [unwind_level_image]
    exact ⟨_, rfl, .operand _⟩
  cases s with
  | plus => exact ⟨by decide, hop .add rfl⟩
  | minus => exact ⟨by decide, hop .sub rfl⟩
  | star => exact ⟨by decide, hop .mul rfl⟩
  | slash => exact ⟨by decide, hop .div rfl⟩
  | openParen => exact absurd h (by simp [continueWith, Sign.op?])
  | caret => exact absurd h (by simp [continueWith, Sign.op?])
  | closeParen =>
    refine ⟨by decide, ?_⟩
    rw [continueWith] at h
    split at h
    · rename_i outer t' hunwind
      obtain rfl := Option.some.inj h
      refine ⟨⟨.complete t'.expr, outer.map Frame.image⟩, ?_, .complete t' outer⟩
      have himage := unwind_zero_image frames t
      rw [hunwind] at himage
      change Formula.closeParen (frames.map Frame.image) t.expr = _
      rw [Formula.closeParen, himage]
      rfl
    · exact absurd h (by simp)

lemma Simulates.step {d d' : Reader} {f : Formula.Reader} (h : Simulates d f) {token : Token}
    (hstep : d.step token = some d') : ∃ f', f.step token.lexeme = some f' ∧ Simulates d' f' := by
  cases h with
  | operand frames =>
    rw [step_operand] at hstep
    unfold startOperand at hstep
    split at hstep
    · obtain rfl := Option.some.inj hstep
      exact ⟨_, rfl, .named _ frames⟩
    · obtain rfl := Option.some.inj hstep
      exact ⟨_, rfl, .complete (.number _) frames⟩
    · obtain rfl := Option.some.inj hstep
      exact ⟨_, rfl, .operand (.neg :: frames)⟩
    · obtain rfl := Option.some.inj hstep
      exact ⟨_, rfl, .operand (.group :: frames)⟩
    · exact absurd hstep (by simp)
  | named name frames =>
    -- only an open parenthesis would make a call of the name, and no term goes on with one
    obtain ⟨hcall, f', hcontinue, hsim⟩ := continueWith_image hstep
    refine ⟨f', ?_, hsim⟩
    have hcall' : (token.lexeme.terminal == .openParen) = false := beq_eq_false_iff_ne.2 hcall
    rw [Formula.Reader.step]
    simp only [hcall', Bool.false_eq_true, if_false]
    exact hcontinue
  | complete t frames =>
    obtain ⟨-, f', hcontinue, hsim⟩ := continueWith_image hstep
    exact ⟨f', hcontinue, hsim⟩

lemma Simulates.finish {d : Reader} {f : Formula.Reader} (h : Simulates d f) {t : Term}
    (hfinish : d.finish? = some t) : f.finish? = some t.expr := by
  obtain ⟨t', hcomplete, hclosed⟩ := Option.bind_eq_some_iff.1 hfinish
  have hunwind : Formula.unwind 0 (d.frames.map Frame.image) t'.expr = ([], t.expr) := by
    rw [unwind_zero_image]
    split at hclosed
    · rename_i e hunwind
      obtain rfl := Option.some.inj hclosed
      rw [hunwind]
      rfl
    · exact absurd hclosed (by simp)
  cases h with
  | operand frames => exact absurd hcomplete (by simp)
  | named name frames =>
    obtain rfl := Option.some.inj hcomplete
    change Formula.unwind 0 (frames.map Frame.image) (.symbol name) = _ at hunwind
    simp only [Formula.Reader.finish?, hunwind]
  | complete t frames =>
    obtain rfl := Option.some.inj hcomplete
    simp only [Formula.Reader.finish?, hunwind]

/-! ### The next lexeme -/

lemma operandLexeme?_decimal {negation : Bool} {text s : List Char} (h : IsDecimal text)
    (hs : Stops isDecimalDigit s) (hexponent : Stops startsExponent s) :
    Formula.operandLexeme? negation (text ++ s) = some ⟨.number, text⟩ := by
  have hwidth := numeralWidth_append h hs hexponent
  obtain ⟨c, cs, rfl, hc⟩ := h.exists_cons
  have hname : isNameStart c = false := by
    rcases hc with hc | rfl
    · exact not_isNameStart_of_isDecimalDigit hc
    · rfl
  have hword : Formula.word? (c :: cs ++ s) = none := by
    rw [List.cons_append, Formula.word?, hname, if_neg Bool.false_ne_true]
  have htake : (c :: cs ++ s).take (cs.length + 1) = c :: cs := List.take_left' rfl
  have hnumber : Formula.number? (c :: cs ++ s) = some (c :: cs) := by
    rw [Formula.number?, hwidth, List.length_cons]
    simp only [htake]
  rw [Formula.operandLexeme?, Formula.lexeme?, hword, hnumber]

lemma not_isLayout_of_plain {token : Token} (h : token.Plain) :
    ∃ c cs, token.text = c :: cs ∧ Formula.isLayout c = false := by
  obtain ⟨c, cs, htext, hc⟩ := h.exists_cons
  refine ⟨c, cs, htext, ?_⟩
  rcases hc with hc | hc | rfl | ⟨s, rfl⟩
  · exact Formula.not_isLayout_of_class hc rfl
  · exact Formula.not_isLayout_of_class hc rfl
  · rfl
  · cases s <;> rfl

/-- Where the reader of terms takes a token, the reader of formulas takes the same characters for
the lexeme of that token. -/
lemma Simulates.lexeme? {d d' : Reader} {f : Formula.Reader} (h : Simulates d f) {token : Token}
    (hplain : token.Plain) (hstep : d.step token = some d') {s : List Char}
    (hs : (∃ sign, token = .sign sign) ∨ Breaks s) :
    f.lexeme? (token.text ++ s) = some token.lexeme := by
  have hbehind : ∀ t frames, Reader.step ⟨some t, frames⟩ token = some d' →
      Formula.operatorLexeme? (token.text ++ s) = some token.lexeme := by
    intro t frames hstep
    obtain ⟨sign, rfl⟩ := exists_sign_of_continueWith hstep
    cases sign <;> rfl
  cases h with
  | operand frames =>
    cases token with
    | name text =>
      obtain ⟨c, cs, rfl, hc, hcs, hword⟩ := hplain
      have hbreaks := hs.resolve_left (by simp)
      refine Formula.operandLexeme?_name (isNameStart_of_isAlpha hc) hcs hbreaks.name
        fun hmem => hword ?_
      have hreserved : ∀ word ∈ ["not", "true", "false", "null"], word ∈ reservedWords := by decide
      exact hreserved _ hmem
    | number text =>
      have hbreaks := hs.resolve_left (by simp)
      exact operandLexeme?_decimal hplain hbreaks.digits hbreaks.exponent
    | sign sign =>
      -- no word starts with a sign, so it does not matter whether a negation may stand here
      change Formula.operandLexeme? _ _ = _
      generalize Formula.admitsNegation (frames.map Frame.image) = negation
      cases negation <;> cases sign <;> rfl
  | named name frames => exact hbehind _ _ hstep
  | complete t frames => exact hbehind _ _ hstep

/-! ### The whole text -/

/-- **The reader of formulas makes of a spaced text the formula of the term that its tokens
make.** -/
lemma Simulates.reads {tokens : List Token} {text : List Char} (h : Spaced tokens text)
    (hplain : ∀ token ∈ tokens, token.Plain) {d final : Reader} {f : Formula.Reader}
    (hsim : Simulates d f) (hread : tokens.foldlM Reader.step d = some final) {t : Term}
    (hfinish : final.finish? = some t) : f.Reads text t.expr := by
  -- from the end of the text backwards: each token takes both readers one step
  induction h generalizing d f with
  | nil =>
    obtain rfl := Option.some.inj hread
    exact .nil (hsim.finish hfinish)
  | space h ih => exact .layout rfl (ih hplain hsim hread)
  | @token token tokens text h ih =>
    have htoken := hplain token List.mem_cons_self
    rw [List.foldlM_cons] at hread
    obtain ⟨next, hstep, hrest⟩ := Option.bind_eq_some_iff.1 hread
    obtain ⟨f', hstep', hsim'⟩ := hsim.step hstep
    have hlexeme := hsim.lexeme? htoken hstep (h.sign_or_breaks hstep hrest)
    have hreads := ih (fun t ht => hplain t (List.mem_cons_of_mem token ht)) hsim' hrest
    obtain ⟨terminal, hterminal⟩ : ∃ terminal, token.lexeme = ⟨terminal, token.text⟩ := by
      cases token <;> exact ⟨_, rfl⟩
    obtain ⟨c, cs, htext, hlayout⟩ := not_isLayout_of_plain htoken
    rw [htext] at hterminal hlexeme ⊢
    rw [hterminal] at hlexeme hstep'
    exact .lexeme hlayout hlexeme hstep' hreads

lemma parse_of_parse? {tokens : List Token} {text : String} (h : Spaced tokens text.toList)
    (hplain : ∀ token ∈ tokens, token.Plain) {t : Term} (hparse : parse? tokens = some t) :
    Formula.parse text = .ok t.expr := by
  obtain ⟨final, hread, hfinish⟩ := Option.bind_eq_some_iff.1 hparse
  exact Simulates.reads h hplain (.operand []) hread hfinish _ _

end Worksheet.Dimensional
