import Worksheet.Proofs.Formula.Lexemes
import Worksheet.Proofs.Table.QuotedArguments

/-!
# Whole columns, lexeme by lexeme

In a text that spells lexemes a lookup call is found where the lexemes of one stand, its name first;
no other lexeme has the head of a call in it, unless a literal has, or a longer name in front of a
parenthesis.  So a sequence of lexemes is turned into the one with whole columns where the lookup
value has no comma and the default up to its first parenthesis holds no other call.
-/

namespace Worksheet.Table

open Worksheet.Text
open Worksheet.Formula (Lexeme Terminal Spelled IsWord allWords signs isLayout isQuote
  isBlank_of_isLayout)

/-- The name of lookups. -/
def lookupName : List Char := "XLOOKUP".toList

/-- The head of a call stands at the head of a text: its name and an opening parenthesis. -/
def Names (s : List Char) : Prop :=
  ∃ blanks rest, (∀ c ∈ blanks, isBlank c = true) ∧ s = lookupName ++ (blanks ++ '(' :: rest)

/-- The head of a call stands somewhere in a text. -/
def HoldsHead (s : List Char) : Prop := ∃ t, t <:+ s ∧ Names t

/-- A name that ends like that of lookups, with a parenthesis behind it. -/
def Opens : List Lexeme → Prop
  | name :: next :: _ =>
    name.terminal = .name ∧ lookupName <:+ name.text ∧ next.terminal = .openParen
  | _ => False

instance : DecidablePred Opens
  | [] => isFalse id
  | [_] => isFalse id
  | _ :: _ :: _ => inferInstanceAs (Decidable (_ ∧ _ ∧ _))

/-- The lexemes of a lookup call. -/
def callLexemes (subject : List Lexeme) (keys results : List Char)
    (default : Option (List Lexeme)) : List Lexeme :=
  ⟨.name, lookupName⟩ :: ⟨.openParen, ['(']⟩ :: (subject ++ ⟨.comma, [',']⟩ :: ⟨.name, keys⟩ ::
    ⟨.comma, [',']⟩ :: ⟨.name, results⟩ :: ((default.map (⟨.comma, [',']⟩ :: ·)).getD [] ++
      [⟨.closeParen, [')']⟩]))

lemma callLexemes_append (subject : List Lexeme) (keys results : List Char)
    (default : Option (List Lexeme)) (lexemes : List Lexeme) :
    callLexemes subject keys results default ++ lexemes =
      ⟨.name, lookupName⟩ :: ⟨.openParen, ['(']⟩ :: (subject ++ ⟨.comma, [',']⟩ :: ⟨.name, keys⟩ ::
        ⟨.comma, [',']⟩ :: ⟨.name, results⟩ :: ((default.map (⟨.comma, [',']⟩ :: ·)).getD [] ++
          ⟨.closeParen, [')']⟩ :: lexemes)) := by
  simp [callLexemes]

/-- The second sequence of lexemes is the first one with whole columns in its lookup calls. -/
inductive Looked (references : List String) : List Lexeme → List Lexeme → Prop
  | nil : Looked references [] []
  | keep {lexeme : Lexeme} {lexemes lexemes' : List Lexeme}
    (hliteral : lexeme.terminal = .string → ¬ HoldsHead lexeme.text)
    (hopens : ¬ Opens (lexeme :: lexemes)) (h : Looked references lexemes lexemes') :
    Looked references (lexeme :: lexemes) (lexeme :: lexemes')
  | call {subject : List Lexeme} {keys results : List Char} {default : Option (List Lexeme)}
    {lexemes lexemes' : List Lexeme}
    (hsubject : subject ≠ [] ∧ ∀ lexeme ∈ subject, ',' ∉ lexeme.text)
    (hdefault : ∀ d ∈ default, d ≠ [] ∧ ∀ lexeme ∈ d, ')' ∉ lexeme.text)
    (h : Looked references lexemes lexemes') :
    Looked references (callLexemes subject keys results default ++ lexemes)
      (callLexemes subject (wholeWord references keys) (wholeWord references results) default ++
        lexemes')

/-! ### The heads of calls -/

section Heads

variable {lexeme : Lexeme} {lexemes : List Lexeme} {s t rest : List Char}

lemma names_of_lookupCall? {found : LookupCall × Nat} (h : lookupCall? s = some found) :
    Names s := by
  obtain ⟨-, blanks, rest, hblanks, rfl, -⟩ := exists_of_lookupCall? h
  exact ⟨blanks, _, hblanks, LookupCall.source_append blanks found.1 rest⟩

lemma lookupCall?_eq_none (h : ¬ Names s) : lookupCall? s = none := by
  rw [Option.eq_none_iff_forall_ne_some]
  exact fun found hfound => h (names_of_lookupCall? hfound)

lemma Names.head? (h : Names s) : s.head? = some 'X' := by
  obtain ⟨blanks, rest, -, rfl⟩ := h
  rfl

/-- A text that begins with another character names no call. -/
lemma not_names_of_not_mem (ht : t ≠ []) (hx : 'X' ∉ t) : ¬ Names (t ++ rest) := by
  intro h
  obtain ⟨c, cs, rfl⟩ := List.exists_cons_of_ne_nil ht
  obtain rfl := Option.some.inj h.head?
  exact hx List.mem_cons_self

lemma not_holdsHead (hx : 'X' ∉ s) : ¬ HoldsHead s := by
  rintro ⟨t, hsuffix, hnames⟩
  exact hx (hsuffix.subset (List.mem_of_mem_head? hnames.head?))

/-- What a text that spells lexemes shows behind blanks begins its first lexeme. -/
lemma exists_of_spelled_blanks {blanks : List Char} {c : Char} (h : Spelled lexemes s)
    (hproper : ∀ lexeme ∈ lexemes, lexeme.Proper) (hblanks : ∀ d ∈ blanks, isBlank d = true)
    (hc : isBlank c = false) (hs : s = blanks ++ c :: rest) :
    ∃ lexeme more, lexemes = lexeme :: more ∧ lexeme.text.head? = some c := by
  cases lexemes with
  | nil =>
    have hlayout := h.isLayout_of_nil c (by rw [hs]; simp)
    rw [isBlank_of_isLayout hlayout] at hc
    exact absurd hc (by decide)
  | cons lexeme more =>
    obtain ⟨front, after, hsplit, hfront, -, -⟩ := h.exists_of_cons
    obtain ⟨hne, hfirst, -⟩ := (List.forall_mem_cons.1 hproper).1.edges
    obtain ⟨d, ds, hd⟩ := List.exists_cons_of_ne_nil hne
    rw [hd] at hfirst hsplit
    have hpiece : blanks ++ c :: rest = front ++ d :: (ds ++ after) := by rw [← hs, hsplit]; rfl
    obtain ⟨-, rfl, -⟩ := append_cons_inj_of_class (p := fun e => !isBlank e)
      (fun e he => by rw [hblanks e he]; rfl)
      (fun e he => by rw [isBlank_of_isLayout (hfront e he)]; rfl) (by rw [hc]; rfl)
      (by rw [hfirst d rfl]; rfl) hpiece
    exact ⟨lexeme, more, rfl, by rw [hd]; rfl⟩

lemma terminal_of_head?_paren (h : lexeme.Proper) (hhead : lexeme.text.head? = some '(') :
    lexeme.terminal = .openParen := by
  cases h with
  | name h =>
    obtain ⟨c, cs, rfl, hc, -⟩ := h
    obtain rfl := Option.some.inj hhead
    exact absurd hc (by decide)
  | number h =>
    have hc := h.isNumeralChar_of_mem (List.mem_of_mem_head? hhead)
    exact absurd hc (by decide)
  | string hquote =>
    obtain rfl := Option.some.inj hhead
    exact absurd hquote (by simp [Formula.Phrase.IsQuote])
  | @word word terminal h =>
    have hall : ∀ word ∈ allWords, word.1.toList.head? ≠ some '(' := by decide
    exact absurd hhead (hall (word, terminal) h)
  | @sign text terminal h =>
    have hall : ∀ sign ∈ signs, sign.1.head? = some '(' → sign.2 = .openParen := by decide
    exact hall (text, terminal) h hhead

/-- The head of a call in a name with what follows it is the end of the name and a parenthesis. -/
lemma not_names_of_name {name : List Char} (hname : IsWord name)
    (hapart : Stops isNameChar rest) (hrest : Spelled lexemes rest)
    (hproper : ∀ lexeme ∈ lexemes, lexeme.Proper) (hopens : ¬ Opens (⟨.name, name⟩ :: lexemes))
    (hsuffix : t <:+ name) : ¬ Names (t ++ rest) := by
  rintro ⟨blanks, after, hblanks, hsplit⟩
  have hlookup : ∀ c ∈ lookupName, isNameChar c = true := List.all_eq_true.1 (by decide)
  have hplain : ∀ {u : List Char}, (∀ c ∈ u, isNameChar c = true) → ∀ v,
      u ++ v = blanks ++ '(' :: after → u = [] := by
    intro u hu v hv
    cases u with
    | nil => rfl
    | cons c u =>
      exfalso
      have hc := hu c List.mem_cons_self
      cases blanks with
      | nil =>
        obtain ⟨rfl, -⟩ := List.cons.inj hv
        exact absurd hc (by decide)
      | cons d blanks =>
        obtain ⟨rfl, -⟩ := List.cons.inj hv
        have hblank := hblanks c List.mem_cons_self
        rw [not_isBlank_of_isNameChar hc] at hblank
        exact absurd hblank (by decide)
  have hend : t = lookupName ∧ rest = blanks ++ '(' :: after := by
    rcases List.append_eq_append_iff.1 hsplit with ⟨u, hu, hafter⟩ | ⟨u, rfl, hafter⟩
    · -- the name ends in the midst of the name of lookups
      have hnil : u = [] := by
        cases u with
        | nil => rfl
        | cons c u =>
          have hc := hlookup c (by rw [hu]; simp)
          have hstop := hapart c (by rw [hafter]; rfl)
          rw [hc] at hstop
          exact absurd hstop (by decide)
      rw [hnil, List.append_nil] at hu
      rw [hnil, List.nil_append] at hafter
      exact ⟨hu.symm, hafter⟩
    · have hnil := hplain (fun c hc => hname.isNameChar_of_mem (hsuffix.subset
        (List.mem_append_right _ hc))) rest hafter.symm
      rw [hnil, List.nil_append] at hafter
      exact ⟨by rw [hnil, List.append_nil], hafter.symm⟩
  obtain ⟨rfl, hrest'⟩ := hend
  obtain ⟨next, more, rfl, hhead⟩ :=
    exists_of_spelled_blanks hrest hproper hblanks (by decide) hrest'
  exact hopens ⟨rfl, hsuffix, terminal_of_head?_paren (List.forall_mem_cons.1 hproper).1 hhead⟩

/-- The head of a call that begins in a literal ends in it. -/
lemma not_names_of_string {quote : Char} {content : List Char}
    (hquote : Formula.Phrase.IsQuote quote) (hholds : ¬ HoldsHead (quote :: content ++ [quote]))
    (hne : t ≠ []) (hsuffix : t <:+ quote :: content ++ [quote]) : ¬ Names (t ++ rest) := by
  rintro ⟨blanks, after, hblanks, hsplit⟩
  obtain ⟨u, d, rfl⟩ : ∃ u d, t = u ++ [d] := by
    rcases List.eq_nil_or_concat t with rfl | ⟨u, d, rfl⟩
    · exact absurd rfl hne
    · exact ⟨u, d, List.concat_eq_append⟩
  obtain rfl : d = quote := by
    obtain ⟨front, hfront⟩ := hsuffix
    rw [← List.append_assoc] at hfront
    exact (List.append_inj' hfront rfl).2 |> List.singleton_inj.1
  have hnone : d ∉ lookupName ++ (blanks ++ ['(']) := by
    rw [List.mem_append, List.mem_append, not_or, not_or]
    have hblank : isBlank d = false := by rcases hquote with rfl | rfl <;> decide
    refine ⟨by rcases hquote with rfl | rfl <;> decide, fun hd => ?_,
      by rcases hquote with rfl | rfl <;> decide⟩
    rw [hblanks d hd] at hblank
    exact absurd hblank (by decide)
  have hsplit' : u ++ d :: rest = (lookupName ++ (blanks ++ ['('])) ++ after := by
    simpa using hsplit
  rcases List.append_eq_append_iff.1 hsplit' with ⟨v, hv, hafter⟩ | ⟨v, rfl, -⟩
  · cases v with
    | nil =>
      refine hholds ⟨u ++ [d], hsuffix, blanks, [d], hblanks, ?_⟩
      rw [List.append_nil] at hv
      rw [← hv]
      simp
    | cons e v =>
      obtain ⟨rfl, -⟩ := List.cons.inj hafter
      exact hnone (by rw [hv]; simp)
  · exact hholds ⟨_, hsuffix, blanks, v ++ [d], hblanks, by simp⟩

/-- No call begins in a lexeme that is kept. -/
lemma not_names_of_lexeme (hlexeme : lexeme.Proper) (hapart : lexeme.Apart rest)
    (hrest : Spelled lexemes rest) (hproper : ∀ lexeme ∈ lexemes, lexeme.Proper)
    (hliteral : lexeme.terminal = .string → ¬ HoldsHead lexeme.text)
    (hopens : ¬ Opens (lexeme :: lexemes)) (hsuffix : t <:+ lexeme.text) (hne : t ≠ []) :
    ¬ Names (t ++ rest) := by
  cases hlexeme with
  | name h => exact not_names_of_name h hapart hrest hproper hopens hsuffix
  | number h =>
    refine not_names_of_not_mem hne fun hx => ?_
    exact absurd (h.isNumeralChar_of_mem (hsuffix.subset hx)) (by decide)
  | string hquote => exact not_names_of_string hquote (hliteral rfl) hne hsuffix
  | word h =>
    have hall : ∀ word ∈ allWords, 'X' ∉ word.1.toList := by decide
    exact not_names_of_not_mem hne fun hx => hall _ h (hsuffix.subset hx)
  | sign h =>
    have hall : ∀ sign ∈ signs, 'X' ∉ sign.1 := by decide
    exact not_names_of_not_mem hne fun hx => hall _ h (hsuffix.subset hx)

end Heads

/-! ### The texts of lexemes and calls -/

section Texts

variable {references : List String} {lexemes lexemes' subject : List Lexeme}
  {s rest keys results : List Char} {default : Option (List Lexeme)}

/-- A text in which no call begins is kept. -/
lemma withWholeColumns_append {cs : List Char}
    (h : ∀ t, t <:+ cs → t ≠ [] → ¬ Names (t ++ rest)) :
    withWholeColumns references (cs ++ rest) = cs ++ withWholeColumns references rest :=
  substitute_append_of_apart forward_lookupPattern
    (fun t hsuffix hne => lookupCall?_eq_none (h t hsuffix hne)) _

lemma withWholeColumns_layout {front : List Char} (hfront : ∀ c ∈ front, isLayout c = true) :
    withWholeColumns references (front ++ rest) = front ++ withWholeColumns references rest :=
  withWholeColumns_append fun _ hsuffix hne => not_names_of_not_mem hne fun hx =>
    absurd (hfront _ (hsuffix.subset hx)) (by decide)

lemma withWholeColumns_call {call : LookupCall} (hcall : call.Proper) {blanks : List Char}
    (hblanks : ∀ c ∈ blanks, isBlank c = true) :
    withWholeColumns references (call.source blanks ++ rest) =
      call.text references ++ withWholeColumns references rest :=
  substitute_append forward_lookupPattern (call.source_ne_nil blanks)
    (lookupCall?_append hcall hblanks rest) _

/-- A column argument that is one name becomes that of a whole column. -/
lemma wholeColumns_eq (h : Spelled [⟨.name, keys⟩] s) (hkeys : IsWord keys) :
    wholeColumns references s = wholeWord references keys := by
  have hne : keys ≠ [] := by
    obtain ⟨c, cs, rfl, -⟩ := hkeys
    exact List.cons_ne_nil c cs
  have hfound : wordPattern none (keys ++ []) = some (keys, keys.length) :=
    wordPattern_append hkeys rfl rfl
  have hscan := scanFrom_found hne hfound
  rw [List.append_nil] at hscan
  have htrim : trimChars s = keys := h.trimChars_eq (.name hkeys)
  rw [wholeColumns, htrim, substitute_eq_flatMap, hscan, List.flatMap_cons]
  exact List.append_nil _

lemma proper_of_mem_callLexemes
    (h : ∀ lexeme ∈ callLexemes subject keys results default, lexeme.Proper) :
    (∀ lexeme ∈ subject, lexeme.Proper) ∧ IsWord keys ∧ IsWord results ∧
      ∀ d ∈ default, ∀ lexeme ∈ d, lexeme.Proper := by
  simp only [callLexemes, List.forall_mem_cons, List.forall_mem_append] at h
  obtain ⟨-, -, hsubject, -, hkeys, -, hresults, hdefault, -⟩ := h
  refine ⟨hsubject, hkeys.isWord, hresults.isWord, fun d hd lexeme hlexeme => hdefault lexeme ?_⟩
  rw [Option.mem_def.1 hd]
  exact List.mem_cons_of_mem _ hlexeme

/-- Where the lexemes of a call stand, the call is found. -/
lemma exists_of_callLexemes
    (h : Spelled (callLexemes subject keys results default ++ lexemes) s) :
    ∃ front blanks, ∃ call : LookupCall, ∃ rest, s = front ++ (call.source blanks ++ rest) ∧
      (∀ c ∈ front, isLayout c = true) ∧ (∀ c ∈ blanks, isLayout c = true) ∧
      Spelled subject call.subject ∧ Spelled [⟨.name, keys⟩] call.keys ∧
      Spelled [⟨.name, results⟩] call.results ∧ Option.Rel Spelled default call.default ∧
      Spelled lexemes rest := by
  rw [callLexemes_append] at h
  obtain ⟨front, r, rfl, hfront, -, h⟩ := h.exists_of_cons
  obtain ⟨blanks, r, rfl, hblanks, h⟩ := h.exists_of_mark []
  obtain ⟨subjectText, r, rfl, hsubject, h⟩ := h.exists_of_mark subject
  obtain ⟨keysText, r, rfl, hkeys, h⟩ := h.exists_of_mark [⟨.name, keys⟩]
  cases default with
  | none =>
    obtain ⟨resultsText, rest, rfl, hresults, h⟩ := h.exists_of_mark [⟨.name, results⟩]
    refine ⟨front, blanks, ⟨subjectText, keysText, resultsText, none⟩, rest, ?_, hfront,
      hblanks.isLayout_of_nil, hsubject, hkeys, hresults, .none, h⟩
    rw [LookupCall.source_append]
    rfl
  | some d =>
    obtain ⟨resultsText, r, rfl, hresults, h⟩ := h.exists_of_mark [⟨.name, results⟩]
    obtain ⟨defaultText, rest, rfl, hdefault, h⟩ := h.exists_of_mark d
    refine ⟨front, blanks, ⟨subjectText, keysText, resultsText, some defaultText⟩, rest, ?_, hfront,
      hblanks.isLayout_of_nil, hsubject, hkeys, hresults, .some hdefault, h⟩
    rw [LookupCall.source_append]
    rfl

/-- The arguments of a call are nonempty and hold nothing that ends them too early. -/
lemma proper_of_spelled {call : LookupCall} (hsubject : Spelled subject call.subject)
    (hkeys : Spelled [⟨.name, keys⟩] call.keys) (hresults : Spelled [⟨.name, results⟩] call.results)
    (hdefault : Option.Rel Spelled default call.default)
    (hplain : subject ≠ [] ∧ ∀ lexeme ∈ subject, ',' ∉ lexeme.text)
    (hend : ∀ d ∈ default, d ≠ [] ∧ ∀ lexeme ∈ d, ')' ∉ lexeme.text)
    (hproper : ∀ lexeme ∈ callLexemes subject keys results default, lexeme.Proper) :
    call.Proper := by
  obtain ⟨hsubject', hkeys', hresults', hdefault'⟩ := proper_of_mem_callLexemes hproper
  have hne : ∀ {ls : List Lexeme} {t : List Char}, ls ≠ [] → (∀ lexeme ∈ ls, lexeme.Proper) →
      Spelled ls t → t ≠ [] := by
    intro ls t hls hls' ht
    obtain ⟨lexeme, more, rfl⟩ := List.exists_cons_of_ne_nil hls
    exact ht.ne_nil (List.forall_mem_cons.1 hls').1
  have hword : ∀ {name t : List Char}, IsWord name → Spelled [⟨.name, name⟩] t →
      t ≠ [] ∧ ∀ c, isLayout c = false → isNameChar c = false → c ∉ t := by
    intro name t hname ht
    refine ⟨ht.ne_nil (.name hname), fun c hlayout hc => ht.not_mem hlayout ?_⟩
    rw [List.forall_mem_singleton]
    intro hmem
    rw [hname.isNameChar_of_mem hmem] at hc
    exact absurd hc (by decide)
  refine ⟨⟨hne hplain.1 hsubject' hsubject, hsubject.not_mem (by decide) hplain.2⟩,
    (hword hkeys' hkeys).imp_right fun h => h _ (by decide) (by decide),
    (hword hresults' hresults).imp_right fun h =>
      ⟨h _ (by decide) (by decide), h _ (by decide) (by decide)⟩, fun t ht => ?_⟩
  rw [ht] at hdefault
  cases hdefault with
  | some hd =>
    obtain ⟨hne', hclose⟩ := hend _ rfl
    exact ⟨hne hne' (hdefault' _ rfl) hd, hd.not_mem (by decide) hclose⟩

/-- The text of a call with whole columns spells the lexemes of that. -/
lemma spelled_text {call : LookupCall} (hsubject : Spelled subject call.subject)
    (hkeys : Spelled [⟨.name, keys⟩] call.keys) (hresults : Spelled [⟨.name, results⟩] call.results)
    (hdefault : Option.Rel Spelled default call.default)
    (hproper : ∀ lexeme ∈ callLexemes subject keys results default, lexeme.Proper)
    (hrest : Spelled lexemes rest) :
    Spelled
      (callLexemes subject (wholeWord references keys) (wholeWord references results) default ++
        lexemes)
      (call.text references ++ rest) := by
  obtain ⟨hsubject', hkeys', hresults', hdefault'⟩ := proper_of_mem_callLexemes hproper
  have hmark : ∀ c ∈ [',', '(', ')'], ∀ terminal : Terminal, terminal.runsOn c = false := by
    intro c hc terminal
    simp only [List.mem_cons, List.not_mem_nil, or_false] at hc
    rcases hc with rfl | rfl | rfl <;> cases terminal <;> rfl
  have hcomma : ∀ {ls ms : List Lexeme} {s t : List Char}, Spelled ls s → Spelled ms t →
      Spelled (ls ++ ⟨.comma, [',']⟩ :: ms) (s ++ ',' :: ' ' :: t) :=
    fun hs ht => hs.mark .comma (.layout rfl ht) (hmark _ (by simp)) fun _ => rfl
  have hend : ∀ name : List Char, Spelled
      (⟨.name, name⟩ :: ((default.map (⟨.comma, [',']⟩ :: ·)).getD [] ++
        ⟨.closeParen, [')']⟩ :: lexemes))
      (name ++ ((call.default.map ([',', ' '] ++ trimChars ·)).getD [] ++ ')' :: rest)) := by
    intro name
    have hclose : ∀ {ls : List Lexeme} {s : List Char}, Spelled ls s →
        Spelled (ls ++ ⟨.closeParen, [')']⟩ :: lexemes) (s ++ ')' :: rest) :=
      fun hs => hs.mark .closeParen hrest (hmark _ (by simp)) fun _ => rfl
    generalize call.default = found at hdefault ⊢
    cases hdefault with
    | none => exact hclose (.self ⟨.name, name⟩)
    | some hd =>
      have hd' := hcomma (.self ⟨.name, name⟩) (hclose (hd.trimChars (hdefault' _ rfl)))
      simpa using hd'
  have hopen := (Spelled.self ⟨.name, lookupName⟩).mark .openParen
    (hcomma (hsubject.trimChars hsubject') (hcomma (.self ⟨.name, wholeWord references keys⟩)
      (hend (wholeWord references results)))) (hmark '(' (by simp)) fun _ => rfl
  have hname : "XLOOKUP(".toList = lookupName ++ ['('] := rfl
  rw [callLexemes_append, LookupCall.text_eq, wholeColumns_eq hkeys hkeys',
    wholeColumns_eq hresults hresults', hname]
  simpa using hopen

/-- **Whole columns, lexeme by lexeme.**  A text that spells lexemes is turned into one that spells
the lexemes with whole columns, and its first character is kept. -/
theorem Looked.spelled (h : Looked references lexemes lexemes')
    (hproper : ∀ lexeme ∈ lexemes, lexeme.Proper) (hs : Spelled lexemes s) :
    Spelled lexemes' (withWholeColumns references s) ∧
      (withWholeColumns references s).head? = s.head? := by
  have hfirst : ∀ {front u v : List Char}, u.head? = v.head? →
      (front ++ u).head? = (front ++ v).head? := fun huv => by
    rw [List.head?_append, List.head?_append, huv]
  induction h generalizing s with
  | nil =>
    have hlayout := hs.isLayout_of_nil
    have hkept : withWholeColumns references (s ++ []) = s ++ withWholeColumns references [] :=
      withWholeColumns_layout hlayout
    have hnil : withWholeColumns references [] = [] := rfl
    rw [List.append_nil, hnil, List.append_nil] at hkept
    rw [hkept]
    exact ⟨hs, rfl⟩
  | @keep lexeme lexemes lexemes' hliteral hopens _ ih =>
    obtain ⟨hlexeme, hproper⟩ := List.forall_mem_cons.1 hproper
    obtain ⟨front, rest, rfl, hfront, hapart, hrest⟩ := hs.exists_of_cons
    obtain ⟨hspelled, hhead⟩ := ih hproper hrest
    rw [withWholeColumns_layout hfront, withWholeColumns_append fun t hsuffix hne =>
      not_names_of_lexeme hlexeme hapart hrest hproper hliteral hopens hsuffix hne]
    refine ⟨.layout_append hfront (.lexeme lexeme (fun c hc => hapart c ?_) hspelled),
      hfirst (hfirst hhead)⟩
    rwa [← hhead]
  | @call subject keys results default lexemes lexemes' hplain hend _ ih =>
    obtain ⟨hcall, hproper⟩ := List.forall_mem_append.1 hproper
    obtain ⟨front, blanks, call, rest, rfl, hfront, hblanks, hsubject, hkeys, hresults, hdefault,
      hrest⟩ := exists_of_callLexemes hs
    obtain ⟨hspelled, -⟩ := ih hproper hrest
    have hfound := proper_of_spelled hsubject hkeys hresults hdefault hplain hend hcall
    rw [withWholeColumns_layout hfront, withWholeColumns_call hfound
      fun c hc => isBlank_of_isLayout (hblanks c hc)]
    refine ⟨.layout_append hfront ?_, hfirst rfl⟩
    exact spelled_text hsubject hkeys hresults hdefault hcall hspelled

end Texts

end Worksheet.Table
