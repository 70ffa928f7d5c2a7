import Worksheet.Proofs.Table.Mention

/-!
# References are replaced at once

Compiling a formula replaces one reference after the other, each in all that the ones before have
left.  Where brackets are not nested this comes to one simultaneous substitution: after any number
of replacements the text is the formula with the identifiers of those mentions in their places and
everything else as it was.  For no identifier holds a bracket, so a mention that can be read in such
a text stands in the formula itself; and only the bracketed name at the end of an aggregate could be
replaced in the wrong place, which is why aggregates have to come first.
-/

namespace Worksheet.Table

open Worksheet.Text

variable {names : List String} {done : List Mention} {k m : Mention} {s : List Char}

/-- The form of a mention once those of `done` have been replaced. -/
def Mention.shown (done : List Mention) (m : Mention) : List Char :=
  if m ∈ done then m.image else m.text

lemma Mention.shown_of_mem (h : m ∈ done) : m.shown done = m.image := if_pos h

lemma Mention.shown_of_not_mem (h : m ∉ done) : m.shown done = m.text := if_neg h

/-- A text with the mentions of `done` replaced. -/
def partly (names : List String) (done : List Mention) (s : List Char) : List Char :=
  substitute (mentionPattern names) (Mention.shown done) s

/-! ### One pass over a text -/

lemma forward_mentionPattern (names : List String) : Forward (mentionPattern names) :=
  fun _ _ _ => rfl

lemma substitute_plain {c : Char} (h : mention? names (c :: s) = none)
    (image : Mention → List Char) :
    substitute (mentionPattern names) image (c :: s) =
      c :: substitute (mentionPattern names) image s :=
  substitute_cons (forward_mentionPattern names) (by rw [mentionPattern, h, Option.map_none]) image

lemma substitute_mention (h : mention? names (m.text ++ s) = some m)
    (image : Mention → List Char) :
    substitute (mentionPattern names) image (m.text ++ s) =
      image m ++ substitute (mentionPattern names) image s :=
  substitute_append (forward_mentionPattern names) m.text_ne_nil
    (by rw [mentionPattern, h, Option.map_some]) image

/-- Only the images of mentions that are found matter. -/
lemma substitute_congr {image image' : Mention → List Char}
    (h : ∀ t m, t <:+ s → mention? names t = some m → image m = image' m) :
    substitute (mentionPattern names) image s = substitute (mentionPattern names) image' s := by
  induction s using mention_induction names with
  | nil => rfl
  | plain c s hnone ih =>
    rw [substitute_plain hnone, substitute_plain hnone, ih]
    exact fun t m ht => h t m (ht.trans (List.suffix_cons c s))
  | found m s hfound ih =>
    rw [substitute_mention hfound, substitute_mention hfound, ih, h _ m List.suffix_rfl hfound]
    exact fun t m' ht => h t m' (ht.trans (List.suffix_append _ s))

lemma partly_plain {c : Char} (h : mention? names (c :: s) = none) :
    partly names done (c :: s) = c :: partly names done s :=
  substitute_plain h _

lemma partly_mention (h : mention? names (m.text ++ s) = some m) :
    partly names done (m.text ++ s) = m.shown done ++ partly names done s :=
  substitute_mention h _

/-- At first nothing is replaced. -/
lemma partly_nil (names : List String) (s : List Char) : partly names [] s = s := by
  induction s using mention_induction names with
  | nil => rfl
  | plain c s hnone ih => rw [partly_plain hnone, ih]
  | found m s hfound ih => rw [partly_mention hfound, ih, Mention.shown_of_not_mem List.not_mem_nil]

/-- The single pass finds the same mentions for the same names. -/
lemma rewriting_congr {names' : List String} (hfree : ∀ x ∈ names, BracketFree x)
    (hsame : ∀ x, x ∈ names' ↔ x ∈ names) (formula : String) :
    rewriting names' formula = rewriting names formula := by
  have hfree' : ∀ x ∈ names', BracketFree x := fun x hx => hfree x ((hsame x).1 hx)
  have hmention : mention? names' = mention? names := by
    funext s
    refine Option.ext fun m => ?_
    cases m with
    | aggregate a => rw [mention?_eq_aggregate_iff, mention?_eq_aggregate_iff]
    | name x => rw [mention?_eq_name_iff hfree', mention?_eq_name_iff hfree, hsame]
  have hpattern : mentionPattern names' = mentionPattern names := by
    unfold mentionPattern
    rw [hmention]
  rw [rewriting, rewriting, hpattern]

/-! ### What can be read in a text that is partly replaced -/

/-- A mention behind an opening bracket is nested. -/
lemma not_unnested_open (hm : m.Of names) : ¬ Unnested ('[' :: (m.text ++ s)) := by
  intro hs
  have hclosed : ']' ∉ m.lead ++ '[' :: m.inner.toList := by
    rw [List.mem_append, List.mem_cons, not_or, not_or]
    exact ⟨fun h => absurd (hm.isBracket_lead _ h) (by decide), by decide, hm.bracketFree.2⟩
  refine hs [] (m.lead ++ '[' :: m.inner.toList) s ?_ hclosed
    (List.mem_append_right _ List.mem_cons_self)
  rw [Mention.text_eq]
  simp

/-- A name that is closed in a partly replaced text is closed in the text itself. -/
lemma inner_of_partly (hfree : ∀ x ∈ names, BracketFree x) {x : List Char}
    (hx : ∀ c ∈ x, isBracket c = false) (hs : Unnested ('[' :: s))
    (h : x ++ [']'] <+: partly names done s) : x ++ [']'] <+: s := by
  induction s using mention_induction names generalizing x with
  | nil => exact h
  | plain c s hnone ih =>
    rw [partly_plain hnone] at h
    cases x with
    | nil =>
      obtain ⟨rfl, -⟩ := List.cons_prefix_cons.1 h
      exact List.cons_prefix_cons.2 ⟨rfl, List.nil_prefix⟩
    | cons d x =>
      obtain ⟨rfl, htail⟩ := List.cons_prefix_cons.1 h
      have hd := isBracket_eq_false_iff.1 (hx d List.mem_cons_self)
      exact List.cons_prefix_cons.2
        ⟨rfl, ih (fun e he => hx e (List.mem_cons_of_mem d he)) (hs.of_open hd.2) htail⟩
  | found m s hfound ih =>
    have hm := of_mention? hfree (hs.suffix (List.suffix_cons _ _)) hfound
    exact absurd hs (not_unnested_open hm)

/-- In front of the bracket an underscore is the last character. -/
lemma eq_nil_of_underscore (hk : k.Of names) {w : List Char} (h : '_' :: w <:+ k.lead) :
    w = [] := by
  cases k with
  | name x => exact absurd (List.suffix_nil.1 h) (List.cons_ne_nil _ _)
  | aggregate a =>
    rcases List.suffix_cons_iff.1 h with heq | htail
    · exact absurd (List.cons.inj heq).1 (by decide)
    · obtain hnil | ⟨v, hv, hsuffix⟩ := List.suffix_concat_iff.1 htail
      · exact absurd hnil (List.cons_ne_nil _ _)
      · cases v with
        | nil => exact (List.cons.inj hv).2
        | cons c v =>
          obtain rfl := (List.cons.inj hv).1
          exact absurd (hk.1.2 _ (hsuffix.subset List.mem_cons_self)) (by decide)

/-- The end of a mention that can be read in a partly replaced text can be read in the text. -/
lemma end_of_partly (hfree : ∀ x ∈ names, BracketFree x) (hk : k.Of names) {w : List Char}
    (hw : w <:+ k.lead) (hs : Unnested s)
    (h : w ++ '[' :: (k.inner.toList ++ [']']) <+: partly names done s) :
    w ++ '[' :: (k.inner.toList ++ [']']) <+: s := by
  induction s using mention_induction names generalizing w with
  | nil => exact h
  | plain c s hnone ih =>
    rw [partly_plain hnone] at h
    cases w with
    | nil =>
      obtain ⟨rfl, htail⟩ := List.cons_prefix_cons.1 h
      exact List.cons_prefix_cons.2
        ⟨rfl, inner_of_partly hfree hk.bracketFree.isBracket_eq_false hs htail⟩
    | cons d w =>
      obtain ⟨rfl, htail⟩ := List.cons_prefix_cons.1 h
      exact List.cons_prefix_cons.2 ⟨rfl, ih ((List.suffix_cons d w).trans hw)
        (hs.suffix (List.suffix_cons d s)) htail⟩
  | found m s hfound ih =>
    have hm := of_mention? hfree hs hfound
    rw [partly_mention hfound, Mention.shown] at h
    split at h
    · -- an identifier goes on behind its first underscore, but not with a bracket
      obtain ⟨c, rest, himage⟩ := hm.image_eq
      have hname : isNameChar c = true := Mention.isNameChar_of_mem_image
        (himage ▸ List.mem_cons_of_mem _ List.mem_cons_self)
      rw [himage] at h
      cases w with
      | nil => exact absurd (List.cons_prefix_cons.1 h).1 (by decide)
      | cons d w =>
        obtain ⟨rfl, htail⟩ := List.cons_prefix_cons.1 h
        obtain rfl := eq_nil_of_underscore hk hw
        obtain ⟨rfl, -⟩ := List.cons_prefix_cons.1 htail
        exact absurd hname (by decide)
    · -- a mention that is not replaced is the same here and there
      obtain ⟨u, hu⟩ := h
      have hstart : m.text <+: w ++ '[' :: (k.inner.toList ++ ']' :: u) := by
        refine ⟨partly names done s, ?_⟩
        rw [← hu]
        simp
      obtain ⟨hlead, hinner⟩ := hm.eq_of_starts
        (fun c hc => hk.isBracket_lead c (hw.subset hc)) hk.bracketFree hstart
      rw [← hlead, ← hinner, ← Mention.text_eq]
      exact List.prefix_append _ _

/-- A mention that can be read in a partly replaced text can be read in the text. -/
lemma text_of_partly (hfree : ∀ x ∈ names, BracketFree x) (hk : k.Of names) (hs : Unnested s)
    (h : k.text <+: partly names done s) : k.text <+: s := by
  rw [Mention.text_eq] at h ⊢
  exact end_of_partly hfree hk List.suffix_rfl hs h

/-! ### One replacement -/

namespace Mention

/-- A text with a mention replaced everywhere. -/
def replace (s : List Char) (m : Mention) : List Char := replaceAll m.text m.image s

/-- A name has to wait until the aggregates of a text are replaced. -/
def Ready (done : List Mention) (s : List Char) : Mention → Prop
  | aggregate _ => True
  | name _ => ∀ t a, t <:+ s → aggregate? t = some a → aggregate a ∈ done

lemma Ready.suffix {t : List Char} (hk : k.Ready done s) (h : t <:+ s) : k.Ready done t := by
  cases k with
  | aggregate a => trivial
  | name x => exact fun u a hu => hk u a (hu.trans h)

lemma Ready.cons (hk : k.Ready done s) (m : Mention) : k.Ready (m :: done) s := by
  cases k with
  | aggregate a => trivial
  | name x => exact fun t a ht ha => List.mem_cons_of_mem m (hk t a ht ha)

lemma exists_text_eq (m : Mention) : ∃ c rest, m.text = c :: rest ∧ isNameChar c = false := by
  rw [text_eq]
  cases m with
  | aggregate a => exact ⟨'$', _, rfl, rfl⟩
  | name x => exact ⟨'[', _, rfl, rfl⟩

/-- No mention starts in an identifier. -/
lemma not_starts_image {t r : List Char} (ht : t <:+ m.image) (hne : t ≠ []) :
    ¬ k.text <+: t ++ r := by
  obtain ⟨c, rest, htext, hc⟩ := k.exists_text_eq
  obtain ⟨d, t, rfl⟩ := List.exists_cons_of_ne_nil hne
  intro h
  rw [htext, List.cons_append] at h
  obtain ⟨rfl, -⟩ := List.cons_prefix_cons.1 h
  have hname := isNameChar_of_mem_image (ht.subset List.mem_cons_self)
  rw [hc] at hname
  exact absurd hname (by decide)

end Mention

/-- **One more replacement puts the identifiers of one more mention in their places.** -/
lemma replace_partly (hfree : ∀ x ∈ names, BracketFree x) (hk : k.Of names) (hs : Unnested s)
    (hready : k.Ready done s) :
    Mention.replace (partly names done s) k = partly names (k :: done) s := by
  induction s using mention_induction names with
  | nil => rfl
  | plain c s hnone ih =>
    have hsuffix : s <:+ c :: s := List.suffix_cons c s
    have hhead : ¬ k.text <+: c :: partly names done s := by
      rw [← partly_plain hnone]
      exact fun h => mention?_ne_none hk (text_of_partly hfree hk hs h) hnone
    rw [partly_plain hnone, partly_plain hnone, ← ih (hs.suffix hsuffix) (hready.suffix hsuffix)]
    exact replaceAll_cons hhead k.image
  | found m s hfound ih =>
    have hsuffix : s <:+ m.text ++ s := List.suffix_append _ s
    have hm := of_mention? hfree hs hfound
    rw [partly_mention hfound, partly_mention hfound,
      ← ih (hs.suffix hsuffix) (hready.suffix hsuffix)]
    by_cases hdone : m ∈ done
    · rw [Mention.shown_of_mem hdone, Mention.shown_of_mem (List.mem_cons_of_mem k hdone)]
      exact replaceAll_append_of_apart (fun t => Mention.not_starts_image) k.image
    by_cases heq : m = k
    · subst heq
      rw [Mention.shown_of_not_mem hdone, Mention.shown_of_mem List.mem_cons_self]
      exact replaceAll_append m.text_ne_nil m.image _
    · have hcons : m ∉ k :: done := fun h => (List.mem_cons.1 h).elim heq hdone
      rw [Mention.shown_of_not_mem hdone, Mention.shown_of_not_mem hcons]
      refine replaceAll_append_of_apart (fun t ht hne h => ?_) k.image
      -- only a name at the end of an aggregate can be read here, and aggregates are replaced
      obtain hsame | ⟨x, a, rfl, rfl⟩ := hk.eq_or_of_overlap hm ht hne h
      · exact heq hsame.symm
      · exact hdone (hready _ a List.suffix_rfl (mention?_eq_aggregate_iff.1 hfound))

/-- Replacements one after the other put the identifiers of all of them in their places. -/
lemma foldl_replace_partly (hfree : ∀ x ∈ names, BracketFree x) (hs : Unnested s)
    {ks : List Mention} (hks : ∀ k ∈ ks, k.Of names ∧ k.Ready done s) :
    ∃ done', ks.foldl Mention.replace (partly names done s) = partly names done' s ∧
      ∀ m, m ∈ done' ↔ m ∈ ks ∨ m ∈ done := by
  induction ks generalizing done with
  | nil => exact ⟨done, rfl, fun m => (or_iff_right List.not_mem_nil).symm⟩
  | cons k ks ih =>
    obtain ⟨hk, hready⟩ := hks k List.mem_cons_self
    have hrest : ∀ k' ∈ ks, k'.Of names ∧ k'.Ready (k :: done) s := by
      intro k' h
      obtain ⟨hk', hready'⟩ := hks k' (List.mem_cons_of_mem k h)
      exact ⟨hk', hready'.cons k⟩
    obtain ⟨done', hfold, hdone'⟩ := ih hrest
    refine ⟨done', ?_, fun m => ?_⟩
    · rw [List.foldl_cons, replace_partly hfree hk hs hready, hfold]
    · rw [hdone', List.mem_cons, List.mem_cons, or_left_comm, or_assoc]

/-! ### All references of a formula -/

section Formula

variable {formula : String}

/-- Every place at which an aggregate can be read is one where the formula has it. -/
lemma mem_matches_of_aggregate? {t : List Char} {a : Aggregate} (hs : Unnested s) (ht : t <:+ s)
    (h : aggregate? t = some a) : a ∈ matches? aggregatePattern s := by
  have hforward : Forward aggregatePattern := fun _ _ _ => rfl
  have hfree : ∀ x ∈ ([] : List String), BracketFree x := fun x hx => absurd hx List.not_mem_nil
  induction s using mention_induction [] with
  | nil =>
    obtain rfl := List.suffix_nil.1 ht
    exact absurd h (by simp [aggregate?])
  | plain c s hnone ih =>
    have haggregate : aggregate? (c :: s) = none :=
      Option.map_eq_none_iff.1 (Option.or_eq_none_iff.1 hnone).1
    rw [matches?_cons hforward (by rw [aggregatePattern, haggregate, Option.map_none])]
    rcases List.suffix_cons_iff.1 ht with rfl | htail
    · rw [haggregate] at h
      exact absurd h (by simp)
    · exact ih (hs.suffix (List.suffix_cons c s)) htail
  | found m s hfound ih =>
    cases m with
    | name x => exact absurd ((mention?_eq_name_iff hfree).1 hfound).2.1 List.not_mem_nil
    | aggregate b =>
      have hb := of_mention? hfree hs hfound
      have haggregate : aggregate? (b.text.toList ++ s) = some b :=
        mention?_eq_aggregate_iff.1 hfound
      have hmatch :
          aggregatePattern none (b.text.toList ++ s) = some (b, b.text.toList.length) := by
        rw [aggregatePattern, haggregate]
        rfl
      have hmatches := matches?_append hforward (Mention.aggregate b).text_ne_nil hmatch
      have ha : (Mention.aggregate a).Of [] :=
        of_mention? hfree (hs.suffix ht) (mention?_eq_aggregate_iff.2 h)
      rw [hmatches]
      rcases suffix_append_cases ht with htail | ⟨v, hv, hne, rfl⟩
      · exact List.mem_cons_of_mem b (ih (hs.suffix (List.suffix_append _ s)) htail)
      · -- no aggregate starts inside of another one
        have hstart := (aggregate?_eq_some_iff.1 h).2.2.2
        obtain heq | ⟨x, c, hname, -⟩ := ha.eq_or_of_overlap hb hv hne hstart
        · exact Mention.aggregate.inj heq ▸ List.mem_cons_self
        · exact absurd hname (by simp)

lemma mem_aggregates_of_aggregate? {t : List Char} {a : Aggregate}
    (hs : Unnested formula.toList) (ht : t <:+ formula.toList) (h : aggregate? t = some a) :
    a ∈ aggregates formula :=
  mem_aggregates.2 (mem_matches_of_aggregate? hs ht h)

lemma of_mem_aggregates {a : Aggregate} (hs : Unnested formula.toList)
    (h : a ∈ aggregates formula) : (Mention.aggregate a).Of names := by
  have hfree : ∀ x ∈ ([] : List String), BracketFree x := fun x hx => absurd hx List.not_mem_nil
  obtain ⟨t, ht, hfound⟩ := exists_of_mem_aggregates h
  have hof : (Mention.aggregate a).Of [] :=
    of_mention? hfree (hs.suffix ht) (mention?_eq_aggregate_iff.2 hfound)
  exact hof

/-- A formula with its references replaced one after the other: first aggregates, then names. -/
def replacedInTurn (order : List Aggregate) (names : List String) (formula : String) : String :=
  String.ofList (names.foldl replaceReference
    (order.foldl (fun s a => replaceAll a.text.toList (identifier a.text).toList s)
      formula.toList))

/-- **One reference after the other comes to all of them at once**, in whatever order the
aggregates are taken, and in whatever order the names after them. -/
lemma replacedInTurn_eq_rewriting {order : List Aggregate} (hs : Unnested formula.toList)
    (hfree : ∀ x ∈ names, BracketFree x) (horder : ∀ a, a ∈ order ↔ a ∈ aggregates formula) :
    replacedInTurn order names formula = rewriting names formula := by
  have hready : ∀ k ∈ order.map Mention.aggregate, k.Of names ∧ k.Ready [] formula.toList := by
    intro k hk
    obtain ⟨a, ha, rfl⟩ := List.mem_map.1 hk
    exact ⟨of_mem_aggregates hs ((horder a).1 ha), trivial⟩
  obtain ⟨done, haggregates, hdone⟩ := foldl_replace_partly hfree hs hready
  have hfirst : ∀ a ∈ aggregates formula, Mention.aggregate a ∈ done := fun a ha =>
    (hdone _).2 (Or.inl (List.mem_map_of_mem ((horder a).2 ha)))
  have hready' : ∀ k ∈ names.map Mention.name, k.Of names ∧ k.Ready done formula.toList := by
    intro k hk
    obtain ⟨x, hx, rfl⟩ := List.mem_map.1 hk
    exact ⟨⟨hx, hfree x hx⟩, fun t a ht ha => hfirst a (mem_aggregates_of_aggregate? hs ht ha)⟩
  obtain ⟨done', hnames, hdone'⟩ := foldl_replace_partly hfree hs hready'
  -- in the end everything that is found has been replaced
  have hall : partly names done' formula.toList =
      substitute (mentionPattern names) Mention.image formula.toList := by
    refine substitute_congr fun t m ht hfound => Mention.shown_of_mem ((hdone' m).2 ?_)
    cases m with
    | aggregate a =>
      have ha := mem_aggregates_of_aggregate? hs ht (mention?_eq_aggregate_iff.1 hfound)
      exact Or.inr (hfirst a ha)
    | name x =>
      have hx := ((mention?_eq_name_iff hfree).1 hfound).2.1
      exact Or.inl (List.mem_map_of_mem hx)
  rw [partly_nil] at haggregates
  rw [List.foldl_map] at haggregates hnames
  rw [rewriting, ← hall, ← hnames, ← haggregates]
  rfl

end Formula

/-! ### All that compiling replaces -/

/-- What compiling a formula replaces, in this order: aggregates, columns and single values. -/
def mentions (formula : String) (d : Dataset) (scalars : List (String × ScalarInput)) :
    List Mention :=
  (aggregates formula).map .aggregate ++
    ((columnReferences d).map (·.1) ++ scalars.map (·.1)).map .name

/-- A text with mentions replaced, one after the other. -/
def replaceAllOf (ms : List Mention) (s : List Char) : List Char := ms.foldl Mention.replace s

lemma substituteReferences_eq (formula : String) (d : Dataset)
    (scalars : List (String × ScalarInput)) : substituteReferences formula d scalars =
    String.ofList (if hasLookup formula then
      withWholeColumns ((columnReferences d).map (·.2))
        (replaceAllOf (mentions formula d scalars) formula.toList)
      else replaceAllOf (mentions formula d scalars) formula.toList) := by
  have hturn : ((columnReferences d).map (·.1) ++ scalars.map (·.1)).foldl replaceReference
      (replaceAggregates formula) =
        replaceAllOf (mentions formula d scalars) formula.toList := by
    simp only [replaceAllOf, mentions, List.map_append, List.foldl_append, List.foldl_map]
    rfl
  rw [substituteReferences, hturn]

end Worksheet.Table
