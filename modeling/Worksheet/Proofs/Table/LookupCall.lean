import Worksheet.Proofs.Text.Numeral
import Worksheet.Proofs.Text.Scan
import Worksheet.Table.Lookup

/-!
# How lookup calls are found

A lookup call is found in a text by its name, an opening parenthesis and the next commas and
parenthesis, whatever these belong to.
-/

namespace Worksheet.Table

open Worksheet.Text

namespace LookupCall

/-- The characters of a call, with blanks behind its name. -/
def source (blanks : List Char) (call : LookupCall) : List Char :=
  "XLOOKUP".toList ++ (blanks ++ '(' :: (call.subject ++ ',' :: (call.keys ++
    ',' :: (call.results ++ ((call.default.map (',' :: ·)).getD [] ++ [')'])))))

lemma source_append (blanks : List Char) (call : LookupCall) (rest : List Char) :
    call.source blanks ++ rest = "XLOOKUP".toList ++ (blanks ++ '(' :: (call.subject ++
      ',' :: (call.keys ++ ',' :: (call.results ++
        ((call.default.map (',' :: ·)).getD [] ++ ')' :: rest))))) := by
  unfold source
  generalize "XLOOKUP".toList = name
  simp

/-- The arguments are not empty and do not hold what ends them. -/
structure Proper (call : LookupCall) : Prop where
  subject : call.subject ≠ [] ∧ ',' ∉ call.subject
  keys : call.keys ≠ [] ∧ ',' ∉ call.keys
  results : call.results ≠ [] ∧ ',' ∉ call.results ∧ ')' ∉ call.results
  default : ∀ d, call.default = some d → d ≠ [] ∧ ')' ∉ d

end LookupCall

section Arguments

variable {stops s rest text : List Char}

/-- An argument is what stands in front of the first character that ends it. -/
lemma argument?_append {c : Char} (hne : text ≠ []) (htext : ∀ d ∈ text, d ∉ stops)
    (hc : c ∈ stops) (s : List Char) : argument? stops (text ++ c :: s) = some (text, c :: s) := by
  have hrun : (text ++ c :: s).takeWhile (fun d => !stops.contains d) = text := by
    refine takeWhile_append_of_stops (fun d hd => ?_) fun d hd => ?_
    · simpa using htext d hd
    · obtain rfl : c = d := by simpa using hd
      simpa using hc
  rw [argument?, hrun, List.drop_left]
  simp [hne]

lemma exists_of_argument? (h : argument? stops s = some (text, rest)) :
    s = text ++ rest ∧ text ≠ [] ∧ (∀ c ∈ text, c ∉ stops) ∧ ∀ c ∈ rest.head?, c ∈ stops := by
  unfold argument? at h
  simp only at h
  split at h
  · exact absurd h (by simp)
  · rename_i hne
    obtain ⟨rfl, rfl⟩ := Prod.mk.inj (Option.some.inj h)
    rw [drop_length_takeWhile]
    refine ⟨List.takeWhile_append_dropWhile.symm, by simpa using hne, fun c hc => ?_, ?_⟩
    · simpa using List.all_eq_true.1 List.all_takeWhile c hc
    · intro c hc
      have hhead := List.head?_dropWhile_not (fun c => !stops.contains c) s
      rw [Option.mem_def.1 hc] at hhead
      simpa using hhead

lemma exists_of_default? (h : default? s = some (text, rest)) :
    s = ',' :: (text ++ rest) ∧ text ≠ [] ∧ ')' ∉ text := by
  unfold default? at h
  split at h
  · obtain ⟨rfl, hne, hstops, -⟩ := exists_of_argument? h
    exact ⟨rfl, hne, fun hmem => hstops _ hmem (List.mem_singleton_self _)⟩
  · exact absurd h (by simp)

/-- What follows an argument that a comma ends. -/
lemma exists_of_argument?_comma {t : List Char × List Char → Option α} {a : α}
    (h : (argument? [','] s).bind t = some a) :
    ∃ text rest, s = text ++ rest ∧ text ≠ [] ∧ ',' ∉ text ∧ (rest = [] ∨ ∃ s, rest = ',' :: s) ∧
      t (text, rest) = some a := by
  obtain ⟨⟨text, rest⟩, hargument, ht⟩ := Option.bind_eq_some_iff.1 h
  obtain ⟨rfl, hne, hstops, hhead⟩ := exists_of_argument? hargument
  refine ⟨text, rest, rfl, hne, fun hmem => hstops _ hmem (List.mem_singleton_self _), ?_, ht⟩
  cases rest with
  | nil => exact Or.inl rfl
  | cons c s => exact Or.inr ⟨s, by rw [List.mem_singleton.1 (hhead c rfl)]⟩

/-- An argument is read behind another one only where a comma stands between them. -/
lemma eq_comma_append {r : List Char} (hr : r = [] ∨ ∃ s, r = ',' :: s)
    (htext : r.drop 1 = text ++ rest) (hne : text ≠ []) : r = ',' :: (text ++ rest) := by
  obtain rfl | ⟨s, rfl⟩ := hr
  · rw [List.drop_nil] at htext
    exact absurd (List.append_eq_nil_iff.1 htext.symm).1 hne
  · exact congrArg _ htext

end Arguments

section Found

variable {s : List Char} {call : LookupCall} {width : Nat}

/-- A call begins with its name and an opening parenthesis, blanks between them. -/
lemma exists_of_open {t : List Char} (hname : "XLOOKUP".toList.isPrefixOf s = true)
    (hopen : trimStart (s.drop "XLOOKUP".length) = '(' :: t) :
    ∃ blanks, (∀ c ∈ blanks, isBlank c = true) ∧ s = "XLOOKUP".toList ++ (blanks ++ '(' :: t) := by
  obtain ⟨after, rfl⟩ : "XLOOKUP".toList <+: s := List.isPrefixOf_iff_prefix.1 hname
  have hdrop : ("XLOOKUP".toList ++ after).drop "XLOOKUP".length = after := rfl
  rw [hdrop] at hopen
  refine ⟨after.takeWhile isBlank, List.all_eq_true.1 List.all_takeWhile, ?_⟩
  rw [← hopen]
  exact congrArg _ List.takeWhile_append_dropWhile.symm

/-- What is found as a lookup call is one, and stands at the head of the text. -/
lemma exists_of_lookupCall? (h : lookupCall? s = some (call, width)) :
    call.Proper ∧ ∃ blanks rest, (∀ c ∈ blanks, isBlank c = true) ∧
      s = call.source blanks ++ rest ∧ width = (call.source blanks).length := by
  unfold lookupCall? at h
  simp only at h
  split at h
  · exact absurd h (by simp)
  rename_i hname
  split at h
  · rename_i t hopen
    obtain ⟨blanks, hblanks, hsplit⟩ := exists_of_open (by simpa using hname) hopen
    clear hname hopen
    obtain ⟨subject, r1, rfl, hsubject, hsubject', hr1, hkeysread⟩ := exists_of_argument?_comma h
    obtain ⟨keys, r2, hkeyssplit, hkeys, hkeys', hr2, hresultsread⟩ :=
      exists_of_argument?_comma hkeysread
    obtain ⟨⟨results, r3⟩, hargument, hend⟩ := Option.bind_eq_some_iff.1 hresultsread
    obtain ⟨hresultssplit, hresults, hstops, -⟩ := exists_of_argument? hargument
    clear h hkeysread hresultsread hargument
    obtain rfl := eq_comma_append hr1 hkeyssplit hkeys
    obtain rfl := eq_comma_append hr2 hresultssplit hresults
    -- what is left is a default or none, and the closing parenthesis
    have hfound : ∀ default rest, (∀ d, default = some d → d ≠ [] ∧ ')' ∉ d) →
        r3 = (default.map (',' :: ·)).getD [] ++ ')' :: rest →
        ⟨subject, keys, results, default⟩ = call → s.length - rest.length = width →
        call.Proper ∧ ∃ blanks rest, (∀ c ∈ blanks, isBlank c = true) ∧
          s = call.source blanks ++ rest ∧ width = (call.source blanks).length := by
      rintro default rest hdefault rfl rfl rfl
      have hsource : s = LookupCall.source blanks ⟨subject, keys, results, default⟩ ++ rest := by
        rw [LookupCall.source_append, hsplit]
      refine ⟨⟨⟨hsubject, hsubject'⟩, ⟨hkeys, hkeys'⟩, ⟨hresults, fun hmem =>
        hstops _ hmem (by simp), fun hmem => hstops _ hmem (by simp)⟩, hdefault⟩, blanks, rest,
        hblanks, hsource, ?_⟩
      rw [hsource, List.length_append, Nat.add_sub_cancel]
    simp only at hend
    cases hdefault : default? r3 with
    | none =>
      rw [hdefault] at hend
      simp only at hend
      split at hend
      · obtain ⟨hcall, hwidth⟩ := Prod.mk.inj (Option.some.inj hend)
        exact hfound none _ (by simp) rfl hcall hwidth
      · exact absurd hend (by simp)
    | some found =>
      obtain ⟨hr3, hd⟩ := exists_of_default? hdefault
      rw [hdefault] at hend
      simp only at hend
      split at hend
      · rename_i rest hrest
        obtain ⟨hcall, hwidth⟩ := Prod.mk.inj (Option.some.inj hend)
        rw [hrest] at hr3
        exact hfound (some found.1) rest (fun d heq => Option.some.inj heq ▸ hd) hr3 hcall hwidth
      · exact absurd hend (by simp)
  · exact absurd h (by simp)

end Found

/-- A call is found wherever it stands. -/
lemma lookupCall?_append {call : LookupCall} (h : call.Proper) {blanks : List Char}
    (hblanks : ∀ c ∈ blanks, isBlank c = true) (rest : List Char) :
    lookupCall? (call.source blanks ++ rest) = some (call, (call.source blanks).length) := by
  obtain ⟨s, hs⟩ : ∃ s, call.source blanks ++ rest = s := ⟨_, rfl⟩
  have hwidth : s.length - rest.length = (call.source blanks).length := by
    rw [← hs, List.length_append, Nat.add_sub_cancel]
  have hsource := LookupCall.source_append blanks call rest
  rw [hs] at hsource
  have hname : "XLOOKUP".toList.isPrefixOf s = true := by
    rw [hsource]
    exact List.isPrefixOf_iff_prefix.2 (List.prefix_append _ _)
  have hdrop : ∀ s, ("XLOOKUP".toList ++ s).drop "XLOOKUP".length = s := fun s => rfl
  have hopen : trimStart (s.drop "XLOOKUP".length) = '(' :: (call.subject ++
      ',' :: (call.keys ++ ',' :: (call.results ++
        ((call.default.map (',' :: ·)).getD [] ++ ')' :: rest)))) := by
    rw [hsource, hdrop, trimStart, List.dropWhile_append_of_pos hblanks]
    rfl
  have hargument : ∀ {stop : Char} {text : List Char}, text ≠ [] ∧ stop ∉ text → ∀ s,
      argument? [stop] (text ++ stop :: s) = some (text, stop :: s) :=
    fun {stop text} htext s => argument?_append htext.1
      (fun d hd hmem => htext.2 (by rwa [← List.mem_singleton.1 hmem]))
      (List.mem_singleton_self _) s
  have hresults : ∀ c ∈ [',', ')'], ∀ s,
      argument? [',', ')'] (call.results ++ c :: s) = some (call.results, c :: s) := by
    intro c hc s
    refine argument?_append h.results.1 (fun d hd hmem => ?_) hc s
    simp only [List.mem_cons, List.not_mem_nil, or_false] at hmem
    rcases hmem with rfl | rfl
    · exact h.results.2.1 hd
    · exact h.results.2.2 hd
  rw [hs, ← hwidth]
  unfold lookupCall?
  rw [hname, hopen]
  simp only [Bool.not_true, Bool.false_eq_true, ↓reduceIte, hargument h.subject, hargument h.keys,
    List.drop_succ_cons, List.drop_zero, Option.bind_eq_bind, Option.bind_some]
  obtain ⟨subject, keys, results, default⟩ := call
  cases default with
  | none =>
    have hend : default? (')' :: rest) = none := rfl
    simp only [Option.map_none, Option.getD_none, List.nil_append, hresults ')' (by simp), hend,
      Option.bind_some]
  | some d =>
    have hend : default? (',' :: (d ++ ')' :: rest)) = some (d, ')' :: rest) :=
      hargument (h.default d rfl) rest
    simp only [Option.map_some, Option.getD_some, List.cons_append, hresults ',' (by simp), hend,
      Option.bind_some]

/-! ### From call to call -/

lemma forward_lookupPattern : Forward lookupPattern := fun _ _ _ => rfl

lemma LookupCall.source_ne_nil (blanks : List Char) (call : LookupCall) :
    call.source blanks ≠ [] := by
  unfold source
  intro h
  exact absurd (List.append_eq_nil_iff.1 (List.append_eq_nil_iff.1 h).2).2 (List.cons_ne_nil _ _)

/-- A text is a call with a text behind it, or a character with a text behind it, or empty. -/
theorem call_induction {motive : List Char → Prop} (nil : motive [])
    (plain : ∀ c s, lookupCall? (c :: s) = none → motive s → motive (c :: s))
    (found : ∀ call blanks s, LookupCall.Proper call → (∀ c ∈ blanks, isBlank c = true) →
      motive s → motive (call.source blanks ++ s))
    (s : List Char) : motive s := by
  have hfind : ∀ s t, (lookupCall? s).map (fun call => s.take call.2) = some t →
      id t ≠ [] ∧ id t <+: s := by
    intro s t h
    obtain ⟨⟨call, width⟩, hcall, rfl⟩ := Option.map_eq_some_iff.1 h
    obtain ⟨-, blanks, rest, -, rfl, rfl⟩ := exists_of_lookupCall? hcall
    rw [List.take_left]
    exact ⟨call.source_ne_nil blanks, List.prefix_append _ _⟩
  refine head_induction hfind nil (fun c s h => plain c s ?_) (fun t s h hs => ?_) s
  · exact Option.map_eq_none_iff.1 h
  · obtain ⟨⟨call, width⟩, hcall, htake⟩ := Option.map_eq_some_iff.1 h
    obtain ⟨hproper, blanks, rest, hblanks, hsplit, rfl⟩ := exists_of_lookupCall? hcall
    rw [hsplit, List.take_left] at htake
    rw [← htake]
    exact found call blanks s hproper hblanks hs

variable {s : List Char}

lemma scan_plain_lookup {c : Char} (h : lookupCall? (c :: s) = none) :
    scan lookupPattern (c :: s) = .plain c :: scan lookupPattern s :=
  scan_cons forward_lookupPattern h

lemma scan_call {call : LookupCall} (h : call.Proper) {blanks : List Char}
    (hblanks : ∀ c ∈ blanks, isBlank c = true) (s : List Char) :
    scan lookupPattern (call.source blanks ++ s) = .found call :: scan lookupPattern s :=
  scan_append forward_lookupPattern (call.source_ne_nil blanks) (lookupCall?_append h hblanks s)

end Worksheet.Table
