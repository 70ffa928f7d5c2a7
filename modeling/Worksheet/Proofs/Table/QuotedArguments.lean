import Worksheet.Proofs.Table.LookupCall
import Worksheet.Proofs.Table.Words
import Worksheet.Proofs.Text.Split

/-!
# String literals in lookup calls

Putting whole columns into lookup calls rewrites the text of a formula without regard to its
literals: the blanks around an argument are taken away, a comma or a parenthesis in a literal ends
an argument, and an identifier in a literal becomes that of a whole column.  A literal is left
alone where every argument closes its quotes, the literals of the column arguments hold no column,
and no call begins in a literal.
-/

namespace Worksheet.Table

open Worksheet.Text
open Worksheet.Formula (isQuote isMark isQuote_of_isMark isMark_of_class IsWord QuotesClosed
  quotedTexts unquotedText content quotesClosed_of_forall
  quotesClosed_string_iff unquotedText_of_forall closed_induction string?_append)
open Worksheet.Formula.Phrase (IsQuote)

/-! ### What a text shows -/

/-- The second text has the literals of the first one, and its marks outside of them. -/
structure Shows (s t : List Char) : Prop where
  texts : quotedTexts t = quotedTexts s
  marks : ∀ c ∈ unquotedText s, isMark c = true → c ∈ unquotedText t

lemma Shows.refl (s : List Char) : Shows s s := ⟨rfl, fun _ hc _ => hc⟩

/-- The second text has the literals of the first one, and both close them. -/
structure Keeps (s t : List Char) : Prop extends Shows s t where
  source : QuotesClosed s
  target : QuotesClosed t

namespace Keeps

variable {s s' t t' : List Char}

lemma refl (h : QuotesClosed s) : Keeps s s := ⟨.refl s, h, h⟩

/-- Without quotes only marks are to be kept. -/
lemma of_unquoted (hs : ∀ c ∈ s, isQuote c = false) (ht : ∀ c ∈ t, isQuote c = false)
    (hmarks : ∀ c ∈ s, isMark c = true → c ∈ t) : Keeps s t := by
  have htexts : ∀ u : List Char, (∀ c ∈ u, isQuote c = false) → quotedTexts u = [] := fun u hu => by
    have hnil : quotedTexts [] = [] := rfl
    have happend := Formula.quotedTexts_append hu []
    rwa [hnil, List.append_nil] at happend
  refine ⟨⟨by rw [htexts s hs, htexts t ht], ?_⟩, quotesClosed_of_forall hs,
    quotesClosed_of_forall ht⟩
  rw [unquotedText_of_forall hs, unquotedText_of_forall ht]
  exact hmarks

lemma of_plain (hs : ∀ c ∈ s, isMark c = false) (ht : ∀ c ∈ t, isQuote c = false) :
    Keeps s t := by
  refine of_unquoted (fun c hc => isQuote_of_isMark (hs c hc)) ht fun c hc hmark => ?_
  rw [hs c hc] at hmark
  exact absurd hmark (by decide)

lemma append_shows (h : Keeps s t) (h' : Shows s' t') : Shows (s ++ s') (t ++ t') where
  texts := by
    rw [h.source.quotedTexts_append, h.target.quotedTexts_append, h.texts, h'.texts]
  marks := by
    intro c hc hmark
    rw [h.source.unquotedText_append, List.mem_append] at hc
    rw [h.target.unquotedText_append, List.mem_append]
    exact hc.imp (fun hc => h.marks c hc hmark) fun hc => h'.marks c hc hmark

lemma append (h : Keeps s t) (h' : Keeps s' t') : Keeps (s ++ s') (t ++ t') :=
  ⟨h.append_shows h'.toShows, h.source.append_iff.2 h'.source, h.target.append_iff.2 h'.target⟩

end Keeps

/-! ### Column arguments -/

section Arguments

variable {references : List String} {s : List Char}

/-- No literal of the text holds one of the references as a word. -/
def HoldsNone (references : List String) (s : List Char) : Prop :=
  ∀ text ∈ quotedTexts s, ∀ word ∈ matches? wordPattern text.toList,
    String.ofList word ∉ references

instance (references : List String) : DecidablePred (HoldsNone references) :=
  fun _ => inferInstanceAs (Decidable (∀ text ∈ _, ∀ word ∈ _, _ ∉ _))

/-- A column argument with the identifiers of whole columns. -/
def wholeWord (references : List String) (word : List Char) : List Char :=
  if references.contains (String.ofList word) then (arrayName (String.ofList word)).toList else word

lemma isNameChar_of_mem_wholeWord {word : List Char} (h : IsWord word) {c : Char}
    (hc : c ∈ wholeWord references word) : isNameChar c = true := by
  unfold wholeWord at hc
  split at hc
  · rw [arrayName, String.toList_append, List.mem_append] at hc
    rcases hc with hc | hc
    · have hall : ("__col_".toList.all isNameChar) = true := by decide
      exact List.all_eq_true.1 hall c hc
    · rw [String.toList_ofList] at hc
      exact h.isNameChar_of_mem hc
  · exact h.isNameChar_of_mem hc

/-- Words that no reference is one of are kept. -/
lemma substitute_wholeWord (h : ∀ word ∈ matches? wordPattern s, String.ofList word ∉ references) :
    substitute wordPattern (wholeWord references) s = s := by
  have hkept : ∀ before skip s, skip ≤ s.length →
      (∀ word, .found word ∈ scanFrom wordPattern before skip s →
        String.ofList word ∉ references) →
      (scanFrom wordPattern before skip s).flatMap (Piece.shown (wholeWord references)) =
        s.drop skip := by
    intro before skip s hskip hnone
    fun_induction scanFrom wordPattern before skip s with
    | case1 => rw [List.drop_nil, List.flatMap_nil]
    | case2 before skip c s ih => exact ih (Nat.le_of_succ_le_succ hskip) hnone
    | case3 before c s word width hfound ih =>
      obtain ⟨rfl, hword, -, rest, hsplit, -⟩ := exists_of_wordPattern hfound
      have hne : String.ofList word ∉ references := hnone word List.mem_cons_self
      have hwhole : wholeWord references word = word := by simp [wholeWord, hne]
      obtain ⟨d, cs, rfl, -⟩ := id hword
      obtain ⟨rfl, rfl⟩ := List.cons.inj hsplit
      rw [List.flatMap_cons, ih (by simp) fun w hw => hnone w (List.mem_cons_of_mem _ hw),
        Piece.shown, hwhole]
      simp
    | case4 before c s hfound ih =>
      rw [List.flatMap_cons, ih (Nat.zero_le _) fun w hw => hnone w (List.mem_cons_of_mem _ hw)]
      rfl
  rw [substitute_eq_flatMap]
  refine (hkept none 0 s (Nat.zero_le _) fun word hword => h word ?_).trans List.drop_zero
  rw [matches?_eq_filterMap]
  exact List.mem_filterMap.2 ⟨_, hword, rfl⟩

lemma not_isWordChar_of_isMark {c : Char} (h : isMark c = true) : isWordChar c = false := by
  simp only [isMark, isQuote, Bool.or_eq_true, beq_iff_eq] at h
  rcases h with (((rfl | rfl) | rfl) | rfl) | rfl <;> decide

/-- Only identifiers are put into the text. -/
lemma of_mem_substitute_wholeWord {c : Char}
    (h : c ∈ substitute wordPattern (wholeWord references) s) : c ∈ s ∨ isNameChar c = true := by
  rw [substitute_eq_flatMap] at h
  obtain ⟨piece, hpiece, hc⟩ := List.mem_flatMap.1 h
  cases piece with
  | plain d =>
    obtain rfl : c = d := List.mem_singleton.1 hc
    exact Or.inl (mem_of_plain_mem_scanFrom hpiece)
  | found word =>
    obtain ⟨_, _, _, -, hfound⟩ := foundIn_of_mem_scanFrom hpiece
    exact Or.inr (isNameChar_of_mem_wholeWord (exists_of_wordPattern hfound).2.1 hc)

/-- Literals without references are kept. -/
lemma keeps_substitute_wholeWord (h : QuotesClosed s) (hnone : HoldsNone references s) :
    Keeps s (substitute wordPattern (wholeWord references) s) := by
  have hstretch : ∀ cs : List Char, (∀ c ∈ cs, isQuote c = false) →
      Keeps cs (substitute wordPattern (wholeWord references) cs) := by
    intro cs hcs
    refine .of_unquoted hcs (fun c hc => ?_) fun c hc hmark => ?_
    · rcases of_mem_substitute_wholeWord hc with hc | hname
      · exact hcs c hc
      · exact isQuote_of_isMark (isMark_of_class hname rfl)
    · obtain ⟨u, v, rfl⟩ := List.append_of_mem hc
      rw [substitute_wordPattern_append (not_isWordChar_of_isMark hmark)]
      exact List.mem_append_right _ List.mem_cons_self
  refine closed_induction (motive := fun s => HoldsNone references s →
    Keeps s (substitute wordPattern (wholeWord references) s)) (fun cs hcs _ => hstretch cs hcs)
    (fun cs quote inner s hcs hquote hinner hs ih hnone => ?_) h hnone
  have hsplit : ∀ s, quote :: (inner ++ quote :: s) = quote :: inner ++ [quote] ++ s :=
    fun s => by simp
  have hstring := string?_append hquote hinner
  have hword : isWordChar quote = false := by
    rcases hquote with rfl | rfl <;> decide
  have hcontent : content (quote :: inner ++ [quote]) = String.ofList inner := by simp [content]
  rw [HoldsNone, hsplit, Formula.quotedTexts_append hcs, Formula.quotedTexts_string (hstring s),
    List.forall_mem_cons, hcontent, String.toList_ofList] at hnone
  have hliteral : Keeps (quote :: inner ++ [quote]) (quote :: inner ++ [quote]) := by
    have hclosed := (quotesClosed_string_iff (hstring [])).2 fun c hc => absurd hc List.not_mem_nil
    rw [List.append_nil] at hclosed
    exact .refl hclosed
  rw [substitute_wordPattern_append hword, substitute_wordPattern_append hword,
    substitute_wholeWord hnone.1, hsplit, hsplit]
  exact (hstretch cs hcs).append (hliteral.append (ih hnone.2))

lemma keeps_trimChars (h : QuotesClosed s) : Keeps s (trimChars s) := by
  have hblanks : ∀ {t : List Char}, (∀ c ∈ t, isBlank c = true) → ∀ c ∈ t, isMark c = false :=
    fun ht c hc => isMark_of_class (ht c hc) (by decide)
  have hnil : ∀ {t : List Char}, (∀ c ∈ t, isBlank c = true) → Keeps t [] := fun ht =>
    .of_plain (hblanks ht) fun c hc => absurd hc List.not_mem_nil
  obtain ⟨left, right, hsplit, hleft, hright⟩ := exists_trimChars s
  have hclosed : QuotesClosed (trimChars s) := by
    rw [hsplit] at h
    have hfront := h.of_append fun c hc => isQuote_of_isMark (hblanks hright c hc)
    exact (hnil hleft).source.append_iff.1 hfront
  have hkeeps := ((hnil hleft).append (Keeps.refl hclosed)).append (hnil hright)
  rwa [← hsplit, List.nil_append, List.append_nil] at hkeeps

lemma keeps_wholeColumns (h : QuotesClosed s) (hnone : HoldsNone references s) :
    Keeps s (wholeColumns references s) := by
  have htrim := keeps_trimChars h
  have hnone' : HoldsNone references (trimChars s) := by
    rwa [HoldsNone, htrim.texts]
  have hwhole := keeps_substitute_wholeWord htrim.target hnone'
  exact ⟨⟨hwhole.texts.trans htrim.texts,
    fun c hc hmark => hwhole.marks c (htrim.marks c hc hmark) hmark⟩, htrim.source, hwhole.target⟩

end Arguments

/-! ### Calls -/

/-- The literals of a call stand in its arguments as wholes, and those of the column arguments hold
none of the references. -/
structure LookupCall.Apart (references : List String) (call : LookupCall) : Prop where
  subject : QuotesClosed call.subject
  keys : QuotesClosed call.keys ∧ HoldsNone references call.keys
  results : QuotesClosed call.results ∧ HoldsNone references call.results
  default : ∀ d ∈ call.default, QuotesClosed d

lemma LookupCall.apart_iff {references : List String} {call : LookupCall} :
    call.Apart references ↔ QuotesClosed call.subject ∧
      (QuotesClosed call.keys ∧ HoldsNone references call.keys) ∧
      (QuotesClosed call.results ∧ HoldsNone references call.results) ∧
      ∀ d ∈ call.default, QuotesClosed d :=
  ⟨fun h => ⟨h.subject, h.keys, h.results, h.default⟩, fun h => ⟨h.1, h.2.1, h.2.2.1, h.2.2.2⟩⟩

instance (references : List String) : DecidablePred (LookupCall.Apart references) :=
  fun _ => decidable_of_iff' _ LookupCall.apart_iff

/-- Pieces of an expression with whole columns in the calls. -/
def looked (references : List String) (pieces : List (Piece LookupCall)) : List Char :=
  pieces.flatMap (Piece.shown (LookupCall.text references))

/-- A call does not begin in a literal, and leaves those in its arguments alone. -/
def CallApart (references : List String) (before _after : List (Piece LookupCall)) :
    Piece LookupCall → Prop
  | .plain _ => True
  | .found call => QuotesClosed (looked references before) ∧ call.Apart references

instance (references : List String) (before after : List (Piece LookupCall)) :
    DecidablePred (CallApart references before after) :=
  fun piece => by cases piece <;> unfold CallApart <;> infer_instance

/-- The lookup calls of an expression stand apart from its literals. -/
def CallsApart (references : List String) (expression : List Char) : Prop :=
  Everywhere (CallApart references) (scan lookupPattern expression)

instance (references : List String) : DecidablePred (CallsApart references) := fun _ => by
  unfold CallsApart
  infer_instance

section Calls

variable {references : List String} {call : LookupCall}

lemma withWholeColumns_eq (references : List String) (s : List Char) :
    withWholeColumns references s = looked references (scan lookupPattern s) :=
  substitute_eq_flatMap _ _ _

lemma LookupCall.text_eq (references : List String) (call : LookupCall) :
    call.text references = "XLOOKUP(".toList ++ (trimChars call.subject ++
      ([',', ' '] ++ (wholeColumns references call.keys ++
      ([',', ' '] ++ (wholeColumns references call.results ++
        ((call.default.map ([',', ' '] ++ trimChars ·)).getD [] ++ [')'])))))) := by
  obtain ⟨subject, keys, results, default⟩ := call
  unfold text
  generalize "XLOOKUP(".toList = name
  cases default <;> simp [List.intercalate]

lemma LookupCall.Apart.keeps (h : call.Apart references) {blanks : List Char}
    (hblanks : ∀ c ∈ blanks, isBlank c = true) :
    Keeps (call.source blanks) (call.text references) := by
  have hplain : ∀ {s t : List Char}, (∀ c ∈ s, isMark c = false) →
      (t.all fun c => !isQuote c) = true → Keeps s t := fun hs ht =>
    .of_plain hs fun c hc => by simpa using List.all_eq_true.1 ht c hc
  have hcomma : Keeps [','] [',', ' '] :=
    hplain (List.forall_mem_singleton.2 (by decide)) (by decide)
  have hclose : Keeps [')'] [')'] := hplain (List.forall_mem_singleton.2 (by decide)) (by decide)
  have hname : Keeps ("XLOOKUP".toList ++ (blanks ++ ['('])) "XLOOKUP(".toList := by
    refine hplain (fun c hc => ?_) (by decide)
    rw [List.mem_append, List.mem_append] at hc
    rcases hc with hc | hc | hc
    · exact isMark_of_class (p := fun c => "XLOOKUP".toList.contains c)
        (by simpa using hc) (by decide)
    · exact isMark_of_class (hblanks c hc) (by decide)
    · exact List.mem_singleton.1 hc ▸ rfl
  have hdefault : Keeps ((call.default.map (',' :: ·)).getD [])
      ((call.default.map ([',', ' '] ++ trimChars ·)).getD []) := by
    cases hd : call.default with
    | none => exact .refl (quotesClosed_of_forall fun c hc => absurd hc List.not_mem_nil)
    | some d => exact hcomma.append (keeps_trimChars (h.default d hd))
  have hkeeps := hname.append ((keeps_trimChars h.subject).append (hcomma.append
    ((keeps_wholeColumns h.keys.1 h.keys.2).append (hcomma.append
      ((keeps_wholeColumns h.results.1 h.results.2).append (hdefault.append hclose))))))
  rw [LookupCall.text_eq]
  unfold LookupCall.source
  generalize "XLOOKUP".toList = name at hkeeps ⊢
  simpa using hkeeps

/-- The literals of a text are kept from call to call. -/
lemma shows_looked (front : List Char) {s : List Char}
    (h : Everywhere (fun before => CallApart references (front.map .plain ++ before))
      (scan lookupPattern s)) :
    Shows (front ++ s) (front ++ looked references (scan lookupPattern s)) := by
  have hfront : ∀ front : List Char, looked references (front.map .plain) = front := fun front => by
    rw [looked, List.flatMap_map]
    exact List.flatMap_singleton' front
  -- what stands in front is the text behind the last call
  induction s using call_induction generalizing front with
  | nil => exact .refl _
  | plain c s hnone ih =>
    rw [scan_plain_lookup hnone, everywhere_cons] at h
    have htail := ih (front ++ [c]) (by simpa using h.2)
    rw [scan_plain_lookup hnone, looked, List.flatMap_cons]
    simpa [looked, Piece.shown] using htail
  | found call blanks s hproper hblanks ih =>
    rw [scan_call hproper hblanks, everywhere_cons] at h
    obtain ⟨⟨hopen, happart⟩, htail⟩ := h
    rw [List.append_nil, hfront] at hopen
    have hcall := happart.keeps hblanks
    have hrest : Shows s (looked references (scan lookupPattern s)) := by
      refine ih [] fun before piece after hsplit => ?_
      have hpiece := htail before piece after hsplit
      cases piece with
      | plain c => trivial
      | found call' =>
        refine ⟨?_, hpiece.2⟩
        have hclosed := hpiece.1
        rw [looked, List.flatMap_append, ← looked, hfront, hopen.append_iff, List.flatMap_cons,
          Piece.shown, hcall.target.append_iff] at hclosed
        exact hclosed
    rw [scan_call hproper hblanks, looked, List.flatMap_cons, Piece.shown]
    exact (Keeps.refl hopen).append_shows (hcall.append_shows hrest)

/-- **Whole columns leave literals alone** where the calls stand apart from them. -/
lemma shows_withWholeColumns {s : List Char} (h : CallsApart references s) :
    Shows s (withWholeColumns references s) := by
  rw [withWholeColumns_eq]
  exact shows_looked [] h

end Calls

end Worksheet.Table
