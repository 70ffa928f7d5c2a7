import Worksheet.Proofs.Table.Literals
import Worksheet.Proofs.Table.LookupLexemes
import Worksheet.Proofs.Table.Meaning

/-!
# Lookups get whole columns

A lookup call is found in the text of a formula up to the next commas and parenthesis.  So its
second and third argument become whole columns where no comma stands in the lookup value, and no
other lookup call begins in the default in front of its first parenthesis; and then nothing else
changes.
-/

namespace Worksheet.Table

open Worksheet.Text
open Worksheet.Formula (Expr Lexeme Phrase Spelled BinaryOp UnaryOp)
open Worksheet.Formula.Phrase (argumentLexemes furtherLexemes)

/-! ### Whole columns in expressions -/

/-- Arguments of a lookup with whole columns in the second and third place. -/
def wholeArguments : List Expr → List Expr
  | subject :: .symbol keys :: .symbol results :: more =>
    subject :: .symbol (arrayName keys) :: .symbol (arrayName results) :: more
  | arguments => arguments

mutual

/-- An expression with whole columns in the second and third argument of every lookup. -/
def looksUp : Expr → Expr
  | .literal v => .literal v
  | .symbol name => .symbol name
  | .call name arguments =>
    .call name (if name = "XLOOKUP" then wholeArguments (looksUpAll arguments)
      else looksUpAll arguments)
  | .binary op left right => .binary op (looksUp left) (looksUp right)
  | .unary op operand => .unary op (looksUp operand)
  | .conditional condition ifTrue ifFalse =>
    .conditional (looksUp condition) (looksUp ifTrue) (looksUp ifFalse)

/-- Expressions with whole columns in their lookups. -/
def looksUpAll : List Expr → List Expr
  | [] => []
  | e :: es => looksUp e :: looksUpAll es

end

lemma looksUpAll_eq_map (es : List Expr) : looksUpAll es = es.map looksUp := by
  induction es with
  | nil => rfl
  | cons e es ih => rw [looksUpAll, ih, List.map_cons]

/-! ### Lookups in phrases -/

/-- Up to the first closing parenthesis no call begins, and no literal has one. -/
def Ends : List Lexeme → Prop
  | [] => False
  | lexeme :: lexemes => lexeme = ⟨.closeParen, [')']⟩ ∨
    ')' ∉ lexeme.text ∧ ¬ Opens (lexeme :: lexemes) ∧ Ends lexemes

/-- Whether lexemes end this way can be found out. -/
def decidableEnds : (lexemes : List Lexeme) → Decidable (Ends lexemes)
  | [] => isFalse id
  | _ :: lexemes =>
    have := decidableEnds lexemes
    inferInstanceAs (Decidable (_ ∨ _ ∧ _ ∧ _))

instance : DecidablePred Ends := decidableEnds

/-- The second and third argument are references to columns. -/
def OfColumns (d : Dataset) (arguments : List Phrase) : Prop :=
  ∃ subject keys results more, keys ∈ d.columnIds ∧ results ∈ d.columnIds ∧
    arguments = subject :: .symbol (referenceName keys).toList ::
      .symbol (referenceName results).toList :: more

/-- The lookups of a phrase are found where they stand: no comma stands in a lookup value, no other
call begins in a default in front of its first parenthesis, and nothing that is not a lookup looks
like one. -/
structure Clear (a : Phrase) : Prop where
  literals : ∀ lexeme ∈ a.lexemes, lexeme.terminal = .string → ¬ HoldsHead lexeme.text
  names : ∀ call ∈ a.calls, lookupName <:+ call.1 → call.1 = lookupName
  subjects : ∀ subject more, (lookupName, subject :: more) ∈ a.calls →
    ∀ lexeme ∈ subject.lexemes, ',' ∉ lexeme.text
  defaults : ∀ subject keys results more,
    (lookupName, subject :: keys :: results :: more) ∈ a.calls → Ends (argumentLexemes more)

/-- A phrase whose lookups are in columns and are found where they stand. -/
structure Lookups (d : Dataset) (a : Phrase) : Prop where
  proper : a.Proper
  fits : a.Fits
  columns : ∀ arguments, (lookupName, arguments) ∈ a.calls → OfColumns d arguments
  clear : Clear a

section Lookups

variable {d : Dataset} {references : List String} {a b c : Phrase}
  {arguments arguments' : List Phrase} {lexeme : Lexeme}
  {lexemes lexemes' rest rest' : List Lexeme}

lemma Clear.mono (h : Clear a) (hcalls : ∀ call ∈ b.calls, call ∈ a.calls)
    (hlexemes : ∀ lexeme ∈ b.lexemes, lexeme ∈ a.lexemes) : Clear b where
  literals lexeme hlexeme := h.literals lexeme (hlexemes lexeme hlexeme)
  names call hcall := h.names call (hcalls call hcall)
  subjects subject more hcall := h.subjects subject more (hcalls _ hcall)
  defaults subject keys results more hcall := h.defaults subject keys results more (hcalls _ hcall)

lemma Lookups.mono (h : Lookups d a) (hproper : b.Proper) (hfits : b.Fits)
    (hcalls : ∀ call ∈ b.calls, call ∈ a.calls)
    (hlexemes : ∀ lexeme ∈ b.lexemes, lexeme ∈ a.lexemes) : Lookups d b :=
  ⟨hproper, hfits, fun arguments hcall => h.columns arguments (hcalls _ hcall),
    h.clear.mono hcalls hlexemes⟩

/-- An expression without lookups is left alone. -/
lemma looksUp_of_forall (h : ∀ call ∈ a.calls, call.1 ≠ lookupName) :
    looksUp a.expr = a.expr := by
  induction a with
  | call name arguments ih =>
    obtain ⟨hname, harguments⟩ := List.forall_mem_cons.1 h
    have hne : String.ofList name ≠ "XLOOKUP" := fun heq => hname (String.ofList_injective heq)
    have hall : looksUpAll (arguments.map Phrase.expr) = arguments.map Phrase.expr := by
      rw [looksUpAll_eq_map, List.map_map]
      exact List.map_congr_left fun a ha => ih a ha fun call hcall =>
        harguments call (Phrase.mem_callsAll.2 ⟨a, ha, hcall⟩)
    rw [Phrase.expr, looksUp, if_neg hne, Phrase.exprs_eq_map, hall]
  | unary op a ih => rw [Phrase.expr, looksUp, ih h]
  | binary op a b iha ihb =>
    obtain ⟨ha, hb⟩ := List.forall_mem_append.1 h
    rw [Phrase.expr, looksUp, iha ha, ihb hb]
  | conditional c a b ihc iha ihb =>
    obtain ⟨hc, hab⟩ := List.forall_mem_append.1 h
    obtain ⟨ha, hb⟩ := List.forall_mem_append.1 hab
    rw [Phrase.expr, looksUp, ihc hc, iha ha, ihb hb]
  | group a ih => exact ih h
  | _ => rfl

/-- Without a comma there is no lookup. -/
lemma looksUp_of_no_comma (hcolumns : ∀ arguments, (lookupName, arguments) ∈ a.calls →
    OfColumns d arguments) (hcomma : ∀ lexeme ∈ a.lexemes, ',' ∉ lexeme.text) :
    looksUp a.expr = a.expr := by
  refine looksUp_of_forall ?_
  rintro ⟨name, arguments⟩ hcall rfl
  obtain ⟨subject, keys, results, more, -, -, rfl⟩ := hcolumns _ hcall
  have hmem : (⟨.comma, [',']⟩ : Lexeme) ∈
      argumentLexemes (subject :: .symbol (referenceName keys).toList ::
        .symbol (referenceName results).toList :: more) := by
    rw [argumentLexemes, List.mem_append, furtherLexemes]
    exact Or.inr List.mem_cons_self
  exact hcomma _ (Phrase.mem_lexemes_of_mem_calls hcall hmem) (List.mem_singleton_self _)

/-! ### Lexemes that are kept -/

/-- No parenthesis opens at the head of the lexemes. -/
def Follows (lexemes : List Lexeme) : Prop := ∀ lexeme ∈ lexemes.head?, lexeme.terminal ≠ .openParen

/-- What opens a call is a name in front of a parenthesis. -/
lemma Opens.of_cons (h : Opens (lexeme :: lexemes)) :
    lexeme.terminal = .name ∧ lookupName <:+ lexeme.text ∧ ¬ Follows lexemes := by
  cases lexemes with
  | nil => exact h.elim
  | cons next lexemes => exact ⟨h.1, h.2.1, fun hfollows => hfollows next rfl h.2.2⟩

/-- Operators and marks are kept. -/
lemma Looked.mark (hname : lexeme.terminal ≠ .name) (hstring : lexeme.terminal ≠ .string)
    (h : Looked references lexemes lexemes') :
    Looked references (lexeme :: lexemes) (lexeme :: lexemes') :=
  .keep (fun heq => absurd heq hstring) (fun hopens => hname hopens.of_cons.1) h

lemma terminal_binary {op : BinaryOp} (h : ∀ s, op ≠ .other s) : op.lexeme.terminal ≠ .name ∧
    op.lexeme.terminal ≠ .string ∧ op.lexeme.terminal ≠ .openParen := by
  cases op with
  | other s => exact absurd rfl (h s)
  | _ => simp [BinaryOp.lexeme, BinaryOp.terminal]

lemma terminal_unary {op : UnaryOp} (h : ∀ s, op ≠ .other s) : op.lexeme.terminal ≠ .name ∧
    op.lexeme.terminal ≠ .string := by
  cases op with
  | other s => exact absurd rfl (h s)
  | _ => simp [UnaryOp.lexeme, UnaryOp.terminal]

lemma follows_of_terminal (h : lexeme.terminal ≠ .openParen) : Follows (lexeme :: lexemes) := by
  intro next hnext
  obtain rfl := Option.some.inj hnext
  exact h

lemma follows_furtherLexemes (arguments : List Phrase) (rest : List Lexeme) :
    Follows (furtherLexemes arguments ++ rest) := by
  cases arguments <;> exact follows_of_terminal (by decide)

/-- What is turned into something begins with a call or with a lexeme that is kept. -/
lemma Looked.exists_cons (h : Looked references (lexeme :: lexemes) lexemes') :
    (∃ more, lexeme = ⟨.name, lookupName⟩ ∧ lexemes = ⟨.openParen, ['(']⟩ :: more) ∨
      ∃ more, lexemes' = lexeme :: more ∧ Looked references lexemes more := by
  generalize hall : lexeme :: lexemes = all at h
  cases h with
  | nil => exact absurd hall (List.cons_ne_nil _ _)
  | keep _ _ h =>
    obtain ⟨rfl, rfl⟩ := List.cons.inj hall
    exact Or.inr ⟨_, rfl, h⟩
  | call =>
    rw [callLexemes_append] at hall
    obtain ⟨rfl, rfl⟩ := List.cons.inj hall
    exact Or.inl ⟨_, rfl, rfl⟩

/-- Up to the first closing parenthesis all is kept. -/
lemma Ends.exists_split (h : Ends lexemes) : ∃ front rest,
    lexemes = front ++ ⟨.closeParen, [')']⟩ :: rest ∧ (∀ lexeme ∈ front, ')' ∉ lexeme.text) ∧
      ∀ more lexemes', Looked references (lexemes ++ more) lexemes' →
        ∃ rest', lexemes' = front ++ ⟨.closeParen, [')']⟩ :: rest' ∧
          Looked references (rest ++ more) rest' := by
  induction lexemes with
  | nil => exact h.elim
  | cons lexeme lexemes ih =>
    rcases h with rfl | ⟨hparen, hopens, h⟩
    · refine ⟨[], lexemes, rfl, fun _ hmem => absurd hmem List.not_mem_nil, fun more out hout => ?_⟩
      rcases hout.exists_cons with ⟨_, heq, -⟩ | ⟨rest', rfl, hrest⟩
      · exact absurd heq (by simp)
      · exact ⟨rest', rfl, hrest⟩
    · obtain ⟨front, rest, rfl, hfront, hcut⟩ := ih h
      refine ⟨lexeme :: front, rest, rfl, List.forall_mem_cons.2 ⟨hparen, hfront⟩,
        fun more out hout => ?_⟩
      rcases hout.exists_cons with ⟨more', rfl, hmore⟩ | ⟨out', rfl, hout'⟩
      · -- a call would open here
        exfalso
        refine hopens ?_
        cases front with
        | nil => exact absurd (List.cons.inj hmore).1 (by simp)
        | cons next front =>
          obtain ⟨rfl, -⟩ := List.cons.inj hmore
          exact ⟨rfl, List.suffix_rfl, rfl⟩
      · obtain ⟨rest', rfl, hrest⟩ := hcut more out' hout'
        exact ⟨rest', rfl, hrest⟩

/-! ### Phrase by phrase -/

/-- The second phrase is the first one with whole columns in its lookups. -/
structure Becomes (references : List String) (a b : Phrase) : Prop where
  proper : b.Proper
  fits : b.Fits
  kind : b.kind = a.kind
  expr : b.expr = looksUp a.expr
  looked : ∀ rest rest', Looked references rest rest' → Follows rest →
    Looked references (a.lexemes ++ rest) (b.lexemes ++ rest')

/-- A phrase of one lexeme is kept. -/
lemma becomes_self (hproper : a.Proper) (hfits : a.Fits) (hlexemes : a.lexemes = [lexeme])
    (hexpr : looksUp a.expr = a.expr)
    (hliteral : lexeme.terminal = .string → ¬ HoldsHead lexeme.text) : Becomes references a a where
  proper := hproper
  fits := hfits
  kind := rfl
  expr := hexpr.symm
  looked rest rest' hrest hfollows := by
    rw [hlexemes]
    exact .keep hliteral (fun hopens => hopens.of_cons.2.2 hfollows) hrest

/-- Arguments are turned into others one by one. -/
lemma becomes_arguments (h : List.Forall₂ (Becomes references) arguments arguments') :
    (∀ b ∈ arguments', b.Proper) ∧ (∀ b ∈ arguments', b.Fits) ∧
      arguments'.map Phrase.expr = looksUpAll (arguments.map Phrase.expr) := by
  induction h with
  | nil => simp [looksUpAll]
  | cons h _ ih =>
    rw [List.forall_mem_cons, List.forall_mem_cons, List.map_cons, List.map_cons, looksUpAll,
      h.expr, ih.2.2]
    exact ⟨⟨h.proper, ih.1⟩, ⟨h.fits, ih.2.1⟩, rfl⟩

lemma looked_furtherLexemes (h : List.Forall₂ (Becomes references) arguments arguments')
    (hrest : Looked references rest rest') :
    Looked references (furtherLexemes arguments ++ rest) (furtherLexemes arguments' ++ rest') := by
  induction h with
  | nil => exact .mark (by decide) (by decide) hrest
  | @cons a b arguments arguments' h _ ih =>
    have hfurther := h.looked _ _ ih (follows_furtherLexemes arguments rest)
    rw [← List.append_assoc, ← List.append_assoc] at hfurther
    exact .mark (by decide) (by decide) hfurther

lemma looked_argumentLexemes (h : List.Forall₂ (Becomes references) arguments arguments')
    (hrest : Looked references rest rest') :
    Looked references (argumentLexemes arguments ++ rest)
      (argumentLexemes arguments' ++ rest') := by
  cases h with
  | nil => exact .mark (by decide) (by decide) hrest
  | @cons a b arguments arguments' h hmore =>
    rw [argumentLexemes, argumentLexemes, List.append_assoc, List.append_assoc]
    exact h.looked _ _ (looked_furtherLexemes hmore hrest) (follows_furtherLexemes arguments rest)

lemma becomes_unary {op : UnaryOp} (hop : ∀ s, op ≠ .other s)
    (hlevel : op.kind.level ≤ a.kind.level) (h : Becomes references a b) :
    Becomes references (.unary op a) (.unary op b) where
  proper := ⟨hop, h.proper⟩
  fits := ⟨h.kind ▸ hlevel, h.fits⟩
  kind := rfl
  expr := by rw [Phrase.expr, Phrase.expr, looksUp, h.expr]
  looked rest rest' hrest hfollows :=
    .mark (terminal_unary hop).1 (terminal_unary hop).2 (h.looked rest rest' hrest hfollows)

lemma becomes_binary {op : BinaryOp} {a' b' : Phrase} (hop : ∀ s, op ≠ .other s)
    (hleft : op.leftKind.level ≤ a.kind.level) (hright : op.rightKind.level ≤ b.kind.level)
    (ha : Becomes references a a') (hb : Becomes references b b') :
    Becomes references (.binary op a b) (.binary op a' b') where
  proper := ⟨hop, ha.proper, hb.proper⟩
  fits := ⟨⟨ha.kind ▸ hleft, ha.fits⟩, hb.kind ▸ hright, hb.fits⟩
  kind := rfl
  expr := by rw [Phrase.expr, Phrase.expr, looksUp, ha.expr, hb.expr]
  looked rest rest' hrest hfollows := by
    obtain ⟨hname, hstring, hopen⟩ := terminal_binary hop
    rw [Phrase.lexemes, Phrase.lexemes, List.append_assoc, List.append_assoc]
    exact ha.looked _ _ (.mark hname hstring (hb.looked rest rest' hrest hfollows))
      (follows_of_terminal hopen)

lemma becomes_conditional {a' b' c' : Phrase} (hcondition : Formula.Kind.or.level ≤ c.kind.level)
    (hc : Becomes references c c') (ha : Becomes references a a') (hb : Becomes references b b') :
    Becomes references (.conditional c a b) (.conditional c' a' b') where
  proper := ⟨hc.proper, ha.proper, hb.proper⟩
  fits := ⟨⟨hc.kind ▸ hcondition, hc.fits⟩, ha.fits, hb.fits⟩
  kind := rfl
  expr := by rw [Phrase.expr, Phrase.expr, looksUp, hc.expr, ha.expr, hb.expr]
  looked rest rest' hrest hfollows := by
    have halternative : Looked references (⟨.colon, [':']⟩ :: (b.lexemes ++ rest))
        (⟨.colon, [':']⟩ :: (b'.lexemes ++ rest')) :=
      .mark (by decide) (by decide) (hb.looked rest rest' hrest hfollows)
    have hbranches : Looked references
        (⟨.question, ['?']⟩ :: (a.lexemes ++ ⟨.colon, [':']⟩ :: (b.lexemes ++ rest)))
        (⟨.question, ['?']⟩ :: (a'.lexemes ++ ⟨.colon, [':']⟩ :: (b'.lexemes ++ rest'))) :=
      .mark (by decide) (by decide)
        (ha.looked _ _ halternative (follows_of_terminal (by decide)))
    simpa [Phrase.lexemes] using hc.looked _ _ hbranches (follows_of_terminal (by decide))

lemma becomes_group (h : Becomes references a b) : Becomes references (.group a) (.group b) where
  proper := h.proper
  fits := h.fits
  kind := rfl
  expr := h.expr
  looked rest rest' hrest _ := by
    have hclose :
        Looked references (⟨.closeParen, [')']⟩ :: rest) (⟨.closeParen, [')']⟩ :: rest') :=
      .mark (by decide) (by decide) hrest
    have hall : Looked references
        (⟨.openParen, ['(']⟩ :: (a.lexemes ++ ⟨.closeParen, [')']⟩ :: rest))
        (⟨.openParen, ['(']⟩ :: (b.lexemes ++ ⟨.closeParen, [')']⟩ :: rest')) :=
      .mark (by decide) (by decide) (h.looked _ _ hclose (follows_of_terminal (by decide)))
    simpa [Phrase.lexemes] using hall

/-- A call of something else is kept, up to its arguments. -/
lemma becomes_call {name : List Char} (hname : Phrase.IsName name)
    (hother : ¬ lookupName <:+ name)
    (h : List.Forall₂ (Becomes references) arguments arguments') :
    Becomes references (.call name arguments) (.call name arguments') := by
  obtain ⟨hproper, hfits, hexprs⟩ := becomes_arguments h
  have hne : String.ofList name ≠ "XLOOKUP" := fun heq =>
    hother (String.ofList_injective heq ▸ List.suffix_rfl)
  refine ⟨⟨hname, Phrase.properAll_iff.2 hproper⟩, Phrase.fitAll_iff.2 hfits, rfl, ?_,
    fun rest rest' hrest _ => ?_⟩
  · rw [Phrase.expr, Phrase.expr, looksUp, if_neg hne, Phrase.exprs_eq_map, Phrase.exprs_eq_map,
      hexprs]
  · exact .keep (by simp) (fun hopens => hother hopens.of_cons.2.1)
      (.mark (by decide) (by decide) (looked_argumentLexemes h hrest))

lemma isName_arrayName {name : String} (h : Phrase.IsName name.toList) :
    Phrase.IsName (arrayName name).toList := by
  have hchars : ∀ c ∈ "_col_".toList ++ name.toList, isNameChar c = true := by
    rw [List.forall_mem_append]
    exact ⟨List.all_eq_true.1 (by decide), fun c hc => h.isWord.isNameChar_of_mem hc⟩
  have htext : (arrayName name).toList = '_' :: ("_col_".toList ++ name.toList) := by
    rw [toList_arrayName]
    rfl
  have hwords : ∀ word ∈ ["not", "true", "false", "null"], word.toList.head? ≠ some '_' := by decide
  refine ⟨'_', _, htext, rfl, hchars, fun hmem => hwords _ hmem ?_⟩
  rw [String.toList_ofList, htext]
  rfl

/-- The lexemes of a lookup without a default. -/
lemma lookup_lexemes (subject : Phrase) (keys results : List Char) (rest : List Lexeme) :
    (Phrase.call lookupName [subject, .symbol keys, .symbol results]).lexemes ++ rest =
      callLexemes subject.lexemes keys results none ++ rest := by
  simp [callLexemes_append, Phrase.lexemes, argumentLexemes, furtherLexemes]

/-- The lexemes of a lookup with a default, which is found up to the first parenthesis. -/
lemma lookup_lexemes_default (subject : Phrase) (keys results : List Char) {more : List Phrase}
    {front after : List Lexeme}
    (h : argumentLexemes (a :: more) ++ rest = front ++ ⟨.closeParen, [')']⟩ :: after) :
    (Phrase.call lookupName (subject :: .symbol keys :: .symbol results :: a :: more)).lexemes ++
        rest = callLexemes subject.lexemes keys results (some front) ++ after := by
  rw [argumentLexemes, List.append_assoc] at h
  simp [callLexemes_append, Phrase.lexemes, argumentLexemes, furtherLexemes, h]

/-- **A lookup gets whole columns.** -/
lemma becomes_lookup {subject : Phrase} {keys results : String} {more more' : List Phrase}
    (hkeys : keys ∈ references) (hresults : results ∈ references)
    (hproper : (Phrase.call lookupName (subject :: .symbol keys.toList :: .symbol results.toList ::
      more)).Proper) (hfits : subject.Fits) (hexpr : looksUp subject.expr = subject.expr)
    (hcomma : ∀ lexeme ∈ subject.lexemes, ',' ∉ lexeme.text) (hends : Ends (argumentLexemes more))
    (hmore : List.Forall₂ (Becomes references) more more') :
    Becomes references
      (.call lookupName (subject :: .symbol keys.toList :: .symbol results.toList :: more))
      (.call lookupName (subject :: .symbol (arrayName keys).toList ::
        .symbol (arrayName results).toList :: more')) := by
  obtain ⟨hproper', hfits', hexprs⟩ := becomes_arguments hmore
  obtain ⟨hname, hsubject, hkeys', hresults', hmore'⟩ := hproper
  refine ⟨⟨hname, hsubject, isName_arrayName hkeys', isName_arrayName hresults',
    Phrase.properAll_iff.2 hproper'⟩, ⟨hfits, trivial, trivial, Phrase.fitAll_iff.2 hfits'⟩, rfl,
    ?_, fun rest rest' hrest _ => ?_⟩
  · have heq : String.ofList lookupName = "XLOOKUP" := String.ofList_toList
    rw [Phrase.expr, Phrase.expr, looksUp, if_pos heq]
    simp [looksUpAll, looksUp, wholeArguments, Phrase.exprs, hexpr, hexprs, Phrase.expr]
  · have hwhole : ∀ {name : String}, name ∈ references →
        wholeWord references name.toList = (arrayName name).toList := fun hmem => by
      simp [wholeWord, hmem]
    obtain ⟨lexeme, lexemes, hlexemes, -⟩ := Phrase.exists_lexemes_cons hsubject
    have hplain : subject.lexemes ≠ [] ∧ ∀ lexeme ∈ subject.lexemes, ',' ∉ lexeme.text :=
      ⟨by rw [hlexemes]; exact List.cons_ne_nil _ _, hcomma⟩
    rw [← hwhole hkeys, ← hwhole hresults]
    cases hmore with
    | nil =>
      rw [lookup_lexemes, lookup_lexemes]
      exact .call hplain (fun d hd => absurd hd (by simp)) hrest
    | @cons a b more more' ha hmore =>
      -- the default goes up to the first parenthesis, and what follows it is kept
      obtain ⟨front, after, hsplit, hparen, hcut⟩ := hends.exists_split
      obtain ⟨after', hsplit', hafter⟩ :=
        hcut rest _ (looked_argumentLexemes (.cons ha hmore) hrest)
      have hfront : front ≠ [] := by
        rintro rfl
        obtain ⟨lexeme, lexemes, hlexemes, hlexeme⟩ := Phrase.exists_lexemes_cons hmore'.1
        rw [argumentLexemes, hlexemes] at hsplit
        obtain ⟨rfl, -⟩ := List.cons.inj hsplit
        exact hlexeme rfl
      have hsplitRest : argumentLexemes (a :: more) ++ rest =
          front ++ ⟨.closeParen, [')']⟩ :: (after ++ rest) := by
        rw [hsplit, List.append_assoc, List.cons_append]
      rw [lookup_lexemes_default _ _ _ hsplitRest, lookup_lexemes_default _ _ _ hsplit']
      refine .call hplain (fun d hd => ?_) hafter
      obtain rfl := Option.some.inj hd
      exact ⟨hfront, hparen⟩

/-! ### Formulas -/

lemma exists_forall₂ {α β : Type} {r : α → β → Prop} {as : List α} (h : ∀ a ∈ as, ∃ b, r a b) :
    ∃ bs, List.Forall₂ r as bs := by
  induction as with
  | nil => exact ⟨[], .nil⟩
  | cons a as ih =>
    obtain ⟨⟨b, hb⟩, has⟩ := List.forall_mem_cons.1 h
    obtain ⟨bs, hbs⟩ := ih has
    exact ⟨b :: bs, .cons hb hbs⟩

lemma mem_references {id : String} (h : id ∈ d.columnIds) :
    referenceName id ∈ (columnReferences d).map (·.2) := by
  rw [columnReferences, List.map_map]
  exact List.mem_map_of_mem (Keyed.mem_distinct.2 h)

/-- What stands in a call is a phrase of the same kind. -/
lemma Lookups.argument {name : List Char} (h : Lookups d (.call name arguments))
    (ha : a ∈ arguments) : Lookups d a :=
  h.mono (Phrase.properAll_iff.1 h.proper.2 a ha) (Phrase.fitAll_iff.1 h.fits a ha)
    (fun _ hcall => List.mem_cons_of_mem _ (Phrase.mem_callsAll.2 ⟨a, ha, hcall⟩))
    fun _ hlexeme => List.mem_cons_of_mem _ (List.mem_cons_of_mem _
      (Phrase.mem_argumentLexemes ha hlexeme))

/-- A call with arguments that are turned into such with whole columns is so itself. -/
lemma exists_becomes_call {name : List Char} (h : Lookups d (.call name arguments))
    (hbecome : ∀ a ∈ arguments, ∃ b, Becomes ((columnReferences d).map (·.2)) a b) :
    ∃ b, Becomes ((columnReferences d).map (·.2)) (.call name arguments) b := by
  by_cases hsuffix : lookupName <:+ name
  · obtain rfl := h.clear.names (name, arguments) List.mem_cons_self hsuffix
    obtain ⟨subject, keys, results, more, hkeys, hresults, rfl⟩ :=
      h.columns arguments List.mem_cons_self
    obtain ⟨more', hmore⟩ := exists_forall₂ fun a ha => hbecome a
      (List.mem_cons_of_mem _ (List.mem_cons_of_mem _ (List.mem_cons_of_mem _ ha)))
    have hsubject : Lookups d subject := h.argument List.mem_cons_self
    have hcomma := h.clear.subjects _ _ List.mem_cons_self
    exact ⟨_, becomes_lookup (mem_references hkeys) (mem_references hresults) h.proper
      hsubject.fits (looksUp_of_no_comma hsubject.columns hcomma) hcomma
      (h.clear.defaults _ _ _ _ List.mem_cons_self) hmore⟩
  · obtain ⟨arguments', harguments⟩ := exists_forall₂ hbecome
    exact ⟨_, becomes_call h.proper.1 hsuffix harguments⟩

/-- Every phrase of this kind is turned into one with whole columns. -/
lemma exists_becomes (h : Lookups d a) : ∃ b, Becomes ((columnReferences d).map (·.2)) a b := by
  induction a with
  | number text => exact ⟨_, becomes_self h.proper h.fits rfl rfl (by simp)⟩
  | string quote content =>
    exact ⟨_, becomes_self h.proper h.fits rfl rfl (h.clear.literals _ (List.mem_singleton_self _))⟩
  | truth b => cases b <;> exact ⟨_, becomes_self h.proper h.fits rfl rfl (by simp)⟩
  | null => exact ⟨_, becomes_self h.proper h.fits rfl rfl (by simp)⟩
  | symbol name => exact ⟨_, becomes_self h.proper h.fits rfl rfl (by simp)⟩
  | call name arguments ih => exact exists_becomes_call h fun a ha => ih a ha (h.argument ha)
  | unary op a ih =>
    obtain ⟨b, hb⟩ := ih (h.mono h.proper.2 h.fits.2 (fun _ => id) fun _ => List.mem_cons_of_mem _)
    exact ⟨_, becomes_unary h.proper.1 h.fits.1 hb⟩
  | binary op a b iha ihb =>
    obtain ⟨⟨hleft, hfitsa⟩, hright, hfitsb⟩ := h.fits
    obtain ⟨a', ha⟩ := iha (h.mono h.proper.2.1 hfitsa (fun _ => List.mem_append_left _)
      fun _ => List.mem_append_left _)
    obtain ⟨b', hb⟩ := ihb (h.mono h.proper.2.2 hfitsb (fun _ => List.mem_append_right _)
      fun _ hmem => List.mem_append_right _ (List.mem_cons_of_mem _ hmem))
    exact ⟨_, becomes_binary h.proper.1 hleft hright ha hb⟩
  | conditional c a b ihc iha ihb =>
    obtain ⟨hproperc, hpropera, hproperb⟩ := h.proper
    obtain ⟨⟨hcondition, hfitsc⟩, hfitsa, hfitsb⟩ := h.fits
    have hmem : ∀ lexeme, lexeme ∈ (Phrase.conditional c a b).lexemes ↔ lexeme ∈ c.lexemes ∨
        lexeme = ⟨.question, ['?']⟩ ∨ lexeme ∈ a.lexemes ∨ lexeme = ⟨.colon, [':']⟩ ∨
          lexeme ∈ b.lexemes := fun lexeme => by
      rw [Phrase.lexemes, List.mem_append, List.mem_cons, List.mem_append, List.mem_cons]
    have hcalls : ∀ call, call ∈ (Phrase.conditional c a b).calls ↔
        call ∈ c.calls ∨ call ∈ a.calls ∨ call ∈ b.calls := fun call => by
      rw [Phrase.calls, List.mem_append, List.mem_append]
    obtain ⟨c', hc⟩ := ihc (h.mono hproperc hfitsc (fun _ hcall => (hcalls _).2 (Or.inl hcall))
      fun _ hlexeme => (hmem _).2 (Or.inl hlexeme))
    obtain ⟨a', ha⟩ := iha (h.mono hpropera hfitsa
      (fun _ hcall => (hcalls _).2 (Or.inr (Or.inl hcall)))
      fun _ hlexeme => (hmem _).2 (Or.inr (Or.inr (Or.inl hlexeme))))
    obtain ⟨b', hb⟩ := ihb (h.mono hproperb hfitsb
      (fun _ hcall => (hcalls _).2 (Or.inr (Or.inr hcall)))
      fun _ hlexeme => (hmem _).2 (Or.inr (Or.inr (Or.inr (Or.inr hlexeme)))))
    exact ⟨_, becomes_conditional hcondition hc ha hb⟩
  | group a ih =>
    obtain ⟨b, hb⟩ := ih (h.mono h.proper h.fits (fun _ => id) fun _ hmem =>
      List.mem_cons_of_mem _ (List.mem_append_left _ hmem))
    exact ⟨_, becomes_group hb⟩

end Lookups

lemma arrayName_injective {x y : String} (h : arrayName x = arrayName y) : x = y := by
  rw [← String.toList_inj, toList_arrayName, toList_arrayName] at h
  simpa [String.toList_inj] using h

/-- The identifier of a whole column is bound to all cells of the column. -/
lemma scope_arrayName {formula : String} {d : Dataset} {scalars : List (String × ScalarInput)}
    {c : Compiled} (h : compile formula d scalars = .ok (.ok c))
    (hlookup : hasLookup formula = true) {x : String} (hx : x ∈ d.columnIds)
    (hown : ∀ y ∈ d.columnIds, identifier y = identifier x → y = x) (row : Row) :
    c.scope row (arrayName (referenceName x)) = some (cellsOf d x) := by
  obtain ⟨hconstants, -, -⟩ := compile_eq_ok h
  obtain ⟨values, -, hvalues⟩ := exists_of_tableBindings hconstants
  have harrays : (arrayBindings formula d).reverse.lookup (arrayName (referenceName x)) =
      some (cellsOf d x) := by
    rw [arrayBindings, if_pos hlookup, columnReferences, List.map_map, ← List.map_reverse]
    refine Keyed.lookup_map_of_mem (fun id => arrayName (referenceName id)) (cellsOf d)
      (List.mem_reverse.2 (Keyed.mem_distinct.2 hx)) fun y hy heq => ?_
    exact hown y (Keyed.mem_distinct.1 (List.mem_reverse.1 hy))
      (identifier_eq_iff.2 (referenceName_eq_iff.1 (arrayName_injective heq)))
  rw [Compiled.scope, hvalues, Keyed.lookup_ofPairs, List.reverse_append, List.lookup_append,
    harrays]
  rfl

/-- **Lookups get whole columns.**  Let a formula with lookups, with its references replaced, be
written as a phrase in which the second and third argument of every lookup are references to
columns; let no comma stand in a lookup value, and no other lookup begin in a default in front of
its first parenthesis.  Then compiling reads that phrase with the second and third argument of every
lookup replaced by the whole columns, and with nothing else changed, and every row binds a whole
column to all cells of the column, unless another column has its identifier. -/
theorem lookups_of_compile (formula : String) (d : Dataset) (scalars : List (String × ScalarInput))
    (hlookup : hasLookup formula = true)
    (hcompute : ∀ a ∈ aggregates formula, ∃ n, a.compute d.rows = .ok n) (a : Phrase)
    (ha : Lookups d a)
    (hspelled : Spelled a.lexemes (replaceAllOf (mentions formula d scalars) formula.toList)) :
    ∃ c, compile formula d scalars = .ok (.ok c) ∧
      Formula.parse (String.ofList (replaceAllOf (mentions formula d scalars) formula.toList)) =
        .ok a.expr ∧ c.expr = looksUp a.expr ∧
      ∀ x ∈ d.columnIds, (∀ y ∈ d.columnIds, identifier y = identifier x → y = x) →
        ∀ row, c.scope row (arrayName (referenceName x)) = some (cellsOf d x) := by
  obtain ⟨constants, hcompile⟩ := reads_substituteReferences scalars hcompute
  obtain ⟨b, hb⟩ := exists_becomes ha
  have hlooked : Looked ((columnReferences d).map (·.2)) a.lexemes b.lexemes := by
    have hnil := hb.looked [] [] .nil fun _ hmem => absurd hmem (by simp)
    rwa [List.append_nil, List.append_nil] at hnil
  have hwhole := (hlooked.spelled (Phrase.proper_of_mem_lexemes ha.proper) hspelled).1
  have hread : Formula.parse (substituteReferences formula d scalars) = .ok (looksUp a.expr) := by
    rw [substituteReferences_eq, hlookup, if_pos rfl, ← hb.expr]
    exact Phrase.parse_of_spelled hb.proper hb.fits (by rwa [String.toList_ofList])
  rw [hread] at hcompile
  refine ⟨_, hcompile, ?_, rfl, fun x hx hown row => scope_arrayName hcompile hlookup hx hown row⟩
  exact Phrase.parse_of_spelled ha.proper ha.fits (by rwa [String.toList_ofList])

/-- Lookups in prices behind a condition, one with a call for its default and one with a call for
its lookup value. -/
def priceFormula : String :=
  "IF([Code] == \"b\", XLOOKUP([Code], [Code], [Price], max([Price], null))" ++
    " + XLOOKUP( lower([Code]) ,[Code],[Price] ), null)"

/-- The formula as it is read, its references replaced. -/
def priceLookups : Phrase :=
  .call "IF".toList
    [.binary .equal (.symbol "_c_Code".toList) (.string '"' "b".toList),
     .binary .add
      (.call "XLOOKUP".toList
        [.symbol "_c_Code".toList, .symbol "_c_Code".toList, .symbol "_c_Price".toList,
         .call "max".toList [.symbol "_c_Price".toList, .null]])
      (.call "XLOOKUP".toList
        [.call "lower".toList [.symbol "_c_Code".toList], .symbol "_c_Code".toList,
         .symbol "_c_Price".toList]),
     .null]

lemma lookups_priceLookups : Lookups prices priceLookups := by
  have hname : ∀ {c : Char} {cs : List Char}, isNameStart c = true → cs.all isNameChar = true →
      String.ofList (c :: cs) ∉ ["not", "true", "false", "null"] → Phrase.IsName (c :: cs) :=
    fun hc hcs hne => ⟨_, _, rfl, hc, List.all_eq_true.1 hcs, hne⟩
  have hlookups : ∀ arguments, (lookupName, arguments) ∈ priceLookups.calls →
      arguments = [.symbol "_c_Code".toList, .symbol "_c_Code".toList, .symbol "_c_Price".toList,
        .call "max".toList [.symbol "_c_Price".toList, .null]] ∨
      arguments = [.call "lower".toList [.symbol "_c_Code".toList], .symbol "_c_Code".toList,
        .symbol "_c_Price".toList] := by
    intro arguments h
    simp only [priceLookups, Phrase.calls, Phrase.callsAll, List.nil_append, List.append_nil,
      List.mem_cons, List.mem_append, Prod.mk.injEq, List.not_mem_nil, or_false] at h
    rcases h with ⟨hne, -⟩ | (⟨-, rfl⟩ | ⟨hne, -⟩) | ⟨-, rfl⟩ | ⟨hne, -⟩
    · exact absurd hne (by decide)
    · exact Or.inl rfl
    · exact absurd hne (by decide)
    · exact Or.inr rfl
    · exact absurd hne (by decide)
  have hcode : Phrase.IsName "_c_Code".toList := hname rfl rfl (by decide)
  have hprice : Phrase.IsName "_c_Price".toList := hname rfl rfl (by decide)
  have hlookup : Phrase.IsName "XLOOKUP".toList := hname rfl rfl (by decide)
  refine ⟨⟨hname rfl rfl (by decide), ⟨by simp, hcode, Or.inl rfl, by decide⟩,
    ⟨by simp, ⟨hlookup, hcode, hcode, hprice, ⟨hname rfl rfl (by decide), hprice, trivial, trivial⟩,
      trivial⟩, hlookup, ⟨hname rfl rfl (by decide), hcode, trivial⟩, hcode, hprice, trivial⟩,
    trivial, trivial⟩, ?_, fun arguments h => ?_,
    ⟨fun lexeme hmem hstring => ?_, by decide, ?_, ?_⟩⟩
  · simp [priceLookups, Phrase.Fits, Phrase.FitAll, Phrase.kind]
    decide
  · rcases hlookups arguments h with rfl | rfl
    · exact ⟨_, "Code", "Price", _, by decide, by decide, rfl⟩
    · exact ⟨_, "Code", "Price", _, by decide, by decide, rfl⟩
  · have hplain : ∀ lexeme ∈ priceLookups.lexemes, lexeme.terminal = .string →
        'X' ∉ lexeme.text := by
      decide
    exact not_holdsHead (hplain lexeme hmem hstring)
  · intro subject more h
    rcases hlookups _ h with heq | heq <;> obtain ⟨rfl, rfl⟩ := List.cons.inj heq <;> decide
  · intro subject keys results more h
    rcases hlookups _ h with heq | heq <;> simp only [List.cons.injEq] at heq <;>
      obtain ⟨-, -, -, rfl⟩ := heq <;> decide

/-- Both lookups get the columns of codes and prices, and the other references read cells. -/
theorem lookups_of_compile_prices : ∃ c, compile priceFormula prices [] = .ok (.ok c) ∧
    c.expr = .call "IF"
      [.binary .equal (.symbol "_c_Code") (.literal (.text "b")),
       .binary .add
        (.call "XLOOKUP"
          [.symbol "_c_Code", .symbol "__col__c_Code", .symbol "__col__c_Price",
           .call "max" [.symbol "_c_Price", .literal .null]])
        (.call "XLOOKUP"
          [.call "lower" [.symbol "_c_Code"], .symbol "__col__c_Code", .symbol "__col__c_Price"]),
       .literal .null] ∧
    c.scope [] "__col__c_Price" = some (.list [.int 2, .int 3]) := by
  have haggregates : aggregates priceFormula = [] := by decide +kernel
  have hcompute : ∀ a ∈ aggregates priceFormula, ∃ n, a.compute prices.rows = .ok n := by
    rw [haggregates]
    exact fun a ha => absurd ha List.not_mem_nil
  obtain ⟨c, hcompile, -, hexpr, hscope⟩ := lookups_of_compile priceFormula prices []
    (by decide +kernel) hcompute priceLookups lookups_priceLookups
    (Formula.spelled_of_spells (by decide +kernel))
  exact ⟨c, hcompile, hexpr, hscope "Price" (by decide) (by decide) []⟩

end Worksheet.Table
