import Mathlib.Tactic.Lemma
import Worksheet.Formula.Parser
import Worksheet.Proofs.Text.Numeral

/-!
# Reading a formula piece by piece

The reader walks a text character by character and keeps count of positions, which only faults
mention.  Here a text is read from its end: if the rest of a text is read as an expression, so is
the text with layout or with one more lexeme in front of it, in the state before that lexeme.
-/

namespace Worksheet.Formula

open Worksheet.Text

/-- The reader makes an expression of a text, wherever the text stands. -/
def Reader.Reads (r : Reader) (s : List Char) (e : Expr) : Prop :=
  ∀ last position, r.run last position 0 s = .ok e

namespace Reader.Reads

variable {r next : Reader} {s : List Char} {e : Expr}

lemma nil (h : r.finish? = some e) : r.Reads [] e := by
  intro last position
  rw [Reader.run, h]

lemma layout {c : Char} (hc : isLayout c = true) (h : r.Reads s e) : r.Reads (c :: s) e := by
  intro last position
  rw [Reader.run, if_pos hc]
  exact h _ _

/-- The characters of the last lexeme are passed over. -/
lemma run_skip (h : r.Reads s e) (cs : List Char) (last position : Position) :
    r.run last position cs.length (cs ++ s) = .ok e := by
  induction cs generalizing position with
  | nil => exact h last position
  | cons c cs ih => exact ih (position.after c)

lemma lexeme {t : Terminal} {c : Char} {cs : List Char} (hlayout : isLayout c = false)
    (hlexeme : r.lexeme? (c :: cs ++ s) = some ⟨t, c :: cs⟩)
    (hstep : r.step ⟨t, c :: cs⟩ = some next) (h : next.Reads s e) :
    r.Reads (c :: cs ++ s) e := by
  intro last position
  rw [List.cons_append] at hlexeme ⊢
  rw [Reader.run, hlayout, hlexeme]
  simp only [Bool.false_eq_true, if_false, hstep, List.length_cons, Nat.add_sub_cancel]
  exact h.run_skip cs _ _

end Reader.Reads

lemma parse_of_reads {s : List Char} {e : Expr} (h : Reader.start.Reads s e) :
    parse (String.ofList s) = .ok e := by
  rw [parse, String.toList_ofList]
  exact h _ _

/-! ### Words -/

lemma word?_append {c : Char} {cs s : List Char} (hc : isNameStart c = true)
    (hcs : ∀ d ∈ cs, isNameChar d = true) (hs : Stops isNameChar s) :
    word? (c :: cs ++ s) = some (c :: cs) := by
  rw [List.cons_append, word?, if_pos hc, takeWhile_append_of_stops hcs hs]

/-- The characters that are layout. -/
def layoutChars : List Char := [' ', '\t', '\n', '\r', '\x0c']

/-- No character of a class without layout characters is one. -/
lemma not_isLayout_of_class {p : Char → Bool} {c : Char} (hc : p c = true)
    (hp : (layoutChars.all fun d => !p d) = true) : isLayout c = false := by
  have hne : ∀ d ∈ layoutChars, (c == d) = false := by
    intro d hd
    have hclass : (!p d) = true := List.all_eq_true.1 hp d hd
    rw [Bool.not_eq_true'] at hclass
    exact beq_eq_false_iff_ne.2 (ne_of_class hc hclass)
  rw [isLayout, hne ' ' (by decide), hne '\t' (by decide), hne '\n' (by decide),
    hne '\r' (by decide), hne '\x0c' (by decide)]
  rfl

/-- Where an operand is expected, a word that is no word of the language is a name. -/
lemma operandLexeme?_name {negation : Bool} {c : Char} {cs s : List Char}
    (hc : isNameStart c = true) (hcs : ∀ d ∈ cs, isNameChar d = true) (hs : Stops isNameChar s)
    (hplain : String.ofList (c :: cs) ∉ ["not", "true", "false", "null"]) :
    operandLexeme? negation (c :: cs ++ s) = some ⟨.name, c :: cs⟩ := by
  have hlookup : (operandWords negation).lookup (String.ofList (c :: cs)) = none := by
    rw [List.lookup_eq_none_iff]
    intro word hword
    have hmem : word.1 ∈ ["not", "true", "false", "null"] := by
      cases negation
      · exact List.mem_cons_of_mem _ (List.mem_map_of_mem hword)
      · exact List.mem_map_of_mem hword
    rw [bne_iff_ne]
    rintro heq
    exact hplain (heq ▸ hmem)
  rw [operandLexeme?, lexeme?, word?_append hc hcs hs]
  simp only [hlookup, Option.getD_none]

/-- A formula that is nothing but a name denotes the symbol of that name. -/
lemma parse_name {name : String} {c : Char} {cs : List Char} (hname : name.toList = c :: cs)
    (hc : isNameStart c = true) (hcs : ∀ d ∈ cs, isNameChar d = true)
    (hplain : name ∉ ["not", "true", "false", "null"]) : parse name = .ok (.symbol name) := by
  have hlist : String.ofList (c :: cs) = name := by rw [← hname, String.ofList_toList]
  have hlexeme : Reader.start.lexeme? (c :: cs ++ []) = some ⟨.name, c :: cs⟩ :=
    operandLexeme?_name hc hcs (by intro d hd; exact absurd hd (by simp)) (hlist ▸ hplain)
  have hstep : Reader.start.step ⟨.name, c :: cs⟩ = some ⟨.named (String.ofList (c :: cs)), []⟩ :=
    rfl
  have hreads : Reader.start.Reads (c :: cs ++ []) (.symbol (String.ofList (c :: cs))) :=
    Reader.Reads.lexeme (not_isLayout_of_class hc rfl) hlexeme hstep (.nil rfl)
  rw [List.append_nil] at hreads
  rw [← hlist]
  exact parse_of_reads hreads

end Worksheet.Formula
