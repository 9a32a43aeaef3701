-- What the texts of unions and intersections stand for. A text is cut at ` | ` and its parts at
-- ` with `, so it is read as a union of intersections of names. Texts with a mark between them are
-- read again as such a sum, and an intersection joins the last term before it to the first one
-- after it.
import Facade.Proofs.Text
import Mathlib.Data.List.Basic
import Mathlib.Data.Set.Basic

namespace Facade

/-! ## Cutting a text at a word -/

namespace Text

/-- The pieces between the occurrences of a word, found from the left. The first `skip` characters
still belong to an occurrence. -/
def cut (word : List Char) : Nat → List Char → List (List Char)
  | _, [] => [[]]
  | skip + 1, _ :: rest => cut word skip rest
  | 0, c :: rest =>
    if word.isPrefixOf (c :: rest) then [] :: cut word (word.length - 1) rest
    else (cut word 0 rest).modifyHead (c :: ·)

/-- The texts between the occurrences of a word. -/
def cutAt (word text : String) : List String :=
  (cut word.toList 0 text.toList).map String.ofList

/-- No occurrence of the word starts in the piece, whatever follows it. -/
def Uncut (word : List Char) : List Char → Prop
  | [] => True
  | c :: rest => (∀ more, ¬word <+: c :: rest ++ more) ∧ Uncut word rest

theorem Uncut.append {word a b : List Char} (ha : Uncut word a) (hb : Uncut word b) :
    Uncut word (a ++ b) := by
  induction a with
  | nil => exact hb
  | cons c a ih =>
    refine ⟨fun more hword => ha.1 (b ++ more) ?_, ih ha.2⟩
    rwa [← List.append_assoc]

theorem uncut_of_not_mem {first : Char} {word piece : List Char} (h : first ∉ piece) :
    Uncut (first :: word) piece := by
  induction piece with
  | nil => trivial
  | cons c piece ih =>
    rw [List.mem_cons, not_or] at h
    refine ⟨fun more hword => h.1 ?_, ih h.2⟩
    exact (List.cons_prefix_cons.mp hword).1

theorem cut_skip (word skipped rest : List Char) :
    cut word skipped.length (skipped ++ rest) = cut word 0 rest := by
  induction skipped with
  | nil => rfl
  | cons c skipped ih =>
    rw [List.length_cons, List.cons_append, cut]
    exact ih

theorem cut_word {word : List Char} (hword : word ≠ []) (rest : List Char) :
    cut word 0 (word ++ rest) = [] :: cut word 0 rest := by
  cases word with
  | nil => exact absurd rfl hword
  | cons first word =>
    have hstart : (first :: word).isPrefixOf (first :: (word ++ rest)) = true := by
      rw [List.isPrefixOf_iff_prefix]
      exact List.prefix_append (first :: word) rest
    rw [List.cons_append, cut, if_pos hstart, List.length_cons, Nat.add_sub_cancel, cut_skip]

theorem cut_uncut {word piece : List Char} (h : Uncut word piece) (rest : List Char) :
    cut word 0 (piece ++ rest) = (cut word 0 rest).modifyHead (piece ++ ·) := by
  induction piece with
  | nil =>
    rw [List.nil_append]
    cases cut word 0 rest <;> rfl
  | cons c piece ih =>
    have hstart : ¬word.isPrefixOf (c :: (piece ++ rest)) = true := by
      rw [List.isPrefixOf_iff_prefix]
      exact h.1 rest
    rw [List.cons_append, cut, if_neg hstart, ih h.2]
    cases cut word 0 rest <;> rfl

/-- Pieces in which the word does not start are found again between its occurrences. -/
theorem cutAt_intercalate {word : String} (hword : word ≠ "") {texts : List String}
    (hne : texts ≠ []) (h : ∀ text ∈ texts, Uncut word.toList text.toList) :
    cutAt word (word.intercalate texts) = texts := by
  have hword' : word.toList ≠ [] := by
    simpa using hword
  unfold cutAt
  induction texts with
  | nil => exact absurd rfl hne
  | cons text rest ih =>
    have htext := h text List.mem_cons_self
    have hrest := fun t ht => h t (List.mem_cons_of_mem text ht)
    cases rest with
    | nil =>
      have hcut := cut_uncut htext []
      rw [List.append_nil] at hcut
      rw [String.intercalate_singleton, hcut]
      simp [cut]
    | cons next more =>
      rw [String.intercalate_cons_cons, String.toList_append, String.toList_append,
        List.append_assoc, cut_uncut htext, cut_word hword']
      rw [List.modifyHead_cons, List.append_nil, List.map_cons, String.ofList_toList,
        ih (List.cons_ne_nil next more) hrest]

theorem mem_intercalate_of_mem {c : Char} {mark text : String} {texts : List String}
    (ht : text ∈ texts) (hc : c ∈ text.toList) : c ∈ (mark.intercalate texts).toList := by
  induction texts with
  | nil => cases ht
  | cons first rest ih =>
    cases rest with
    | nil =>
      rw [String.intercalate_singleton]
      exact List.mem_singleton.mp ht ▸ hc
    | cons next more =>
      rw [String.intercalate_cons_cons, String.toList_append, String.toList_append]
      rcases List.mem_cons.mp ht with rfl | ht
      · exact List.mem_append_left _ (List.mem_append_left _ hc)
      · exact List.mem_append_right _ (ih ht)

end Text

/-! ## Sums of terms -/

/-- A name that no mark of a union or intersection can be read into, as an identifier is. -/
structure IsWord (name : String) : Prop where
  ne_empty : name ≠ ""
  no_blank : ' ' ∉ name.toList
  no_bar : '|' ∉ name.toList

instance (name : String) : Decidable (IsWord name) :=
  decidable_of_iff (name ≠ "" ∧ ' ' ∉ name.toList ∧ '|' ∉ name.toList)
    ⟨fun h => ⟨h.1, h.2.1, h.2.2⟩, fun h => ⟨h.1, h.2, h.3⟩⟩

/-- The text of an intersection of names. -/
def termText (names : List String) : String :=
  " with ".intercalate names

/-- The text of a union of such intersections. -/
def sumText (terms : List (List String)) : String :=
  " | ".intercalate (terms.map termText)

/-- At least one term, each of at least one name. -/
structure IsSum (isName : String → Prop) (terms : List (List String)) : Prop where
  ne_nil : terms ≠ []
  terms_ne_nil : ∀ term ∈ terms, term ≠ []
  names : ∀ term ∈ terms, ∀ name ∈ term, isName name

theorem IsSum.mono {isName isOther : String → Prop} (himp : ∀ name, isName name → isOther name)
    {terms : List (List String)} (h : IsSum isName terms) : IsSum isOther terms :=
  ⟨h.ne_nil, h.terms_ne_nil, fun term ht name hn => himp name (h.names term ht name hn)⟩

theorem IsSum.append {isName : String → Prop} {ts us : List (List String)} (ht : IsSum isName ts)
    (hu : IsSum isName us) : IsSum isName (ts ++ us) where
  ne_nil := by simp [ht.ne_nil]
  terms_ne_nil := List.forall_mem_append.mpr ⟨ht.terms_ne_nil, hu.terms_ne_nil⟩
  names := List.forall_mem_append.mpr ⟨ht.names, hu.names⟩

theorem termText_append {a b : List String} (ha : a ≠ []) (hb : b ≠ []) :
    termText (a ++ b) = termText a ++ " with " ++ termText b := by
  unfold termText
  rw [String.intercalate_append_of_ne_nil ha hb]

theorem sumText_singleton (term : List String) : sumText [term] = termText term := by
  unfold sumText
  rw [List.map_singleton, String.intercalate_singleton]

theorem sumText_append {ts us : List (List String)} (ht : ts ≠ []) (hu : us ≠ []) :
    sumText (ts ++ us) = sumText ts ++ " | " ++ sumText us := by
  unfold sumText
  rw [List.map_append, String.intercalate_append_of_ne_nil (by simpa using ht) (by simpa using hu)]

theorem sumText_cons {term : List String} {rest : List (List String)} (h : rest ≠ []) :
    sumText (term :: rest) = termText term ++ " | " ++ sumText rest := by
  rw [← List.singleton_append, sumText_append (List.cons_ne_nil term []) h, sumText_singleton]

/-! ## Joining two sums -/

/-- Two sums with the mark of an intersection between them: the last term of the first sum takes in
the first term of the second. -/
def glue : List (List String) → List (List String) → List (List String)
  | [], more => more
  | [last], [] => [last]
  | [last], first :: more => (last ++ first) :: more
  | term :: next :: rest, more => term :: glue (next :: rest) more

theorem glue_ne_nil {ts : List (List String)} (ht : ts ≠ []) (us : List (List String)) :
    glue ts us ≠ [] := by
  fun_cases glue ts us with
  | case1 => exact absurd rfl ht
  | case2 | case3 | case4 => exact List.cons_ne_nil _ _

theorem IsSum.tail {isName : String → Prop} {term next : List String} {rest : List (List String)}
    (h : IsSum isName (term :: next :: rest)) : IsSum isName (next :: rest) :=
  ⟨List.cons_ne_nil next rest, fun t ht => h.terms_ne_nil t (List.mem_cons_of_mem term ht),
    fun t ht => h.names t (List.mem_cons_of_mem term ht)⟩

theorem IsSum.glue {isName : String → Prop} {ts us : List (List String)} (ht : IsSum isName ts)
    (hu : IsSum isName us) : IsSum isName (glue ts us) := by
  fun_induction Facade.glue ts us with
  | case1 => exact hu
  | case2 => exact ht
  | case3 last first more =>
    refine ⟨List.cons_ne_nil _ _, ?_, ?_⟩
    · rw [List.forall_mem_cons]
      refine ⟨?_, fun t hm => hu.terms_ne_nil t (List.mem_cons_of_mem first hm)⟩
      simp [ht.terms_ne_nil last List.mem_cons_self]
    · rw [List.forall_mem_cons, List.forall_mem_append]
      exact ⟨⟨ht.names last List.mem_cons_self, hu.names first List.mem_cons_self⟩,
        fun t hm => hu.names t (List.mem_cons_of_mem first hm)⟩
  | case4 term next rest more ih =>
    have hrest := ih ht.tail hu
    refine ⟨List.cons_ne_nil _ _, ?_, ?_⟩
    · exact List.forall_mem_cons.mpr ⟨ht.terms_ne_nil term List.mem_cons_self, hrest.terms_ne_nil⟩
    · exact List.forall_mem_cons.mpr ⟨ht.names term List.mem_cons_self, hrest.names⟩

theorem sumText_glue {isName : String → Prop} {ts us : List (List String)} (ht : IsSum isName ts)
    (hu : IsSum isName us) : sumText (glue ts us) = sumText ts ++ " with " ++ sumText us := by
  fun_induction glue ts us with
  | case1 => exact absurd rfl ht.ne_nil
  | case2 => exact absurd rfl hu.ne_nil
  | case3 last first more =>
    have hterm : termText (last ++ first) = termText last ++ " with " ++ termText first :=
      termText_append (ht.terms_ne_nil last List.mem_cons_self)
        (hu.terms_ne_nil first List.mem_cons_self)
    by_cases hmore : more = []
    · subst hmore
      rw [sumText_singleton, sumText_singleton, sumText_singleton, hterm]
    · rw [sumText_cons hmore, sumText_cons hmore, sumText_singleton, hterm]
      simp only [String.append_assoc]
  | case4 term next rest more ih =>
    rw [sumText_cons (glue_ne_nil (List.cons_ne_nil next rest) more), ih ht.tail hu,
      sumText_cons (List.cons_ne_nil next rest)]
    simp only [String.append_assoc]

section

variable {holds : String → Prop} {ts us : List (List String)}

/-- Where both sums hold, so does what they are joined to. -/
theorem exists_mem_glue (ht : ∃ term ∈ ts, ∀ name ∈ term, holds name)
    (hu : ∃ term ∈ us, ∀ name ∈ term, holds name) :
    ∃ term ∈ glue ts us, ∀ name ∈ term, holds name := by
  fun_induction glue ts us with
  | case1 => exact hu
  | case2 => exact ht
  | case3 last first more =>
    rw [List.exists_mem_cons_iff] at ht hu ⊢
    obtain hlast : ∀ name ∈ last, holds name := by simpa using ht
    rcases hu with hfirst | hmore
    · exact .inl (List.forall_mem_append.mpr ⟨hlast, hfirst⟩)
    · exact .inr hmore
  | case4 term next rest more ih =>
    rw [List.exists_mem_cons_iff] at ht ⊢
    rcases ht with hterm | hrest
    · exact .inl hterm
    · exact .inr (ih hrest hu)

theorem mem_glue_of_mem_dropLast {term : List String} (h : term ∈ ts.dropLast) :
    term ∈ glue ts us := by
  fun_induction glue ts us with
  | case1 | case2 | case3 => cases h
  | case4 first next rest more ih =>
    rw [List.dropLast_cons_cons] at h
    rcases List.mem_cons.mp h with rfl | h
    · exact List.mem_cons_self
    · exact List.mem_cons_of_mem first (ih h)

theorem mem_glue_of_mem_tail {term : List String} (h : term ∈ us.tail) : term ∈ glue ts us := by
  fun_induction glue ts us with
  | case1 => exact List.mem_of_mem_tail h
  | case2 => cases h
  | case3 last first more => exact List.mem_cons_of_mem _ h
  | case4 first next rest more ih => exact List.mem_cons_of_mem first (ih h)

end

/-! ## Reading a text -/

/-- The set that a text stands for when each name stands for one: ` | ` is weaker than ` with `. -/
def readSet {α : Type} (sets : String → Set α) (text : String) : Set α :=
  {x | ∃ part ∈ Text.cutAt " | " text, ∀ name ∈ Text.cutAt " with " part, x ∈ sets name}

theorem uncut_blank {c : Char} {rest : List Char} (hc : c ≠ '|')
    (h : Text.Uncut " | ".toList (c :: rest)) : Text.Uncut " | ".toList (' ' :: c :: rest) := by
  refine ⟨fun more hmark => hc ?_, h⟩
  exact (List.cons_prefix_cons.mp (List.cons_prefix_cons.mp hmark).2).1.symm

/-- No union starts inside a term, and no term starts like the mark of one. -/
theorem uncut_termText {names : List String} (hne : names ≠ []) (h : ∀ name ∈ names, IsWord name) :
    ∃ c rest, (termText names).toList = c :: rest ∧ c ≠ '|' ∧
      Text.Uncut " | ".toList (c :: rest) := by
  unfold termText
  induction names with
  | nil => exact absurd rfl hne
  | cons name names ih =>
    obtain ⟨hname, hnames⟩ := List.forall_mem_cons.mp h
    have hsome : name.toList ≠ [] := by simpa using hname.ne_empty
    obtain ⟨c, chars, hchars⟩ := List.exists_cons_of_ne_nil hsome
    have hblank := hname.no_blank
    have hbar := hname.no_bar
    rw [hchars] at hblank hbar
    have hc : c ≠ '|' := fun hc => hbar (hc ▸ List.mem_cons_self)
    have huncut : Text.Uncut " | ".toList (c :: chars) := Text.uncut_of_not_mem hblank
    cases names with
    | nil =>
      rw [String.intercalate_singleton]
      exact ⟨c, chars, hchars, hc, huncut⟩
    | cons next more =>
      obtain ⟨d, rest, hrest, hd, hlater⟩ := ih (List.cons_ne_nil next more) hnames
      have hwith : Text.Uncut " | ".toList " with".toList :=
        uncut_blank (by decide) (Text.uncut_of_not_mem (by decide))
      refine ⟨c, chars ++ (" with".toList ++ ' ' :: d :: rest), ?_, hc, ?_⟩
      · rw [String.intercalate_cons_cons, String.toList_append, String.toList_append, hchars, hrest,
          List.append_assoc]
        rfl
      · exact huncut.append (hwith.append (uncut_blank hd hlater))

theorem cutAt_sumText {terms : List (List String)} (h : IsSum IsWord terms) :
    Text.cutAt " | " (sumText terms) = terms.map termText := by
  apply Text.cutAt_intercalate (by decide) (by simpa using h.ne_nil)
  intro text ht
  obtain ⟨term, hterm, rfl⟩ := List.mem_map.mp ht
  obtain ⟨c, rest, hchars, -, huncut⟩ :=
    uncut_termText (h.terms_ne_nil term hterm) (h.names term hterm)
  rw [hchars]
  exact huncut

theorem cutAt_termText {names : List String} (hne : names ≠ []) (h : ∀ name ∈ names, IsWord name) :
    Text.cutAt " with " (termText names) = names :=
  Text.cutAt_intercalate (by decide) hne fun name hn => Text.uncut_of_not_mem (h name hn).no_blank

theorem mem_readSet_sumText {α : Type} {sets : String → Set α} {terms : List (List String)}
    (h : IsSum IsWord terms) {x : α} :
    x ∈ readSet sets (sumText terms) ↔ ∃ term ∈ terms, ∀ name ∈ term, x ∈ sets name := by
  unfold readSet
  rw [Set.mem_ofPred_eq, cutAt_sumText h]
  constructor
  · rintro ⟨part, hpart, hx⟩
    obtain ⟨term, hterm, rfl⟩ := List.mem_map.mp hpart
    rw [cutAt_termText (h.terms_ne_nil term hterm) (h.names term hterm)] at hx
    exact ⟨term, hterm, hx⟩
  · rintro ⟨term, hterm, hx⟩
    refine ⟨termText term, List.mem_map_of_mem hterm, ?_⟩
    rwa [cutAt_termText (h.terms_ne_nil term hterm) (h.names term hterm)]

/-! ## Texts of sums -/

/-- The text of a sum. -/
def IsSumText (isName : String → Prop) (text : String) : Prop :=
  ∃ terms, IsSum isName terms ∧ text = sumText terms

theorem IsSumText.mono {isName isOther : String → Prop} (himp : ∀ name, isName name → isOther name)
    {text : String} (h : IsSumText isName text) : IsSumText isOther text := by
  obtain ⟨terms, hterms, rfl⟩ := h
  exact ⟨terms, hterms.mono himp, rfl⟩

section

variable {isName : String → Prop} {a b : String}

theorem isSum_name {name : String} (h : isName name) : IsSum isName [[name]] :=
  ⟨by simp, by simp, by simpa using h⟩

theorem sumText_name (name : String) : sumText [[name]] = name := by
  rw [sumText_singleton, termText, String.intercalate_singleton]

theorem isSumText_name {name : String} (h : isName name) : IsSumText isName name :=
  ⟨[[name]], isSum_name h, (sumText_name name).symm⟩

theorem IsSumText.union (ha : IsSumText isName a) (hb : IsSumText isName b) :
    IsSumText isName (a ++ " | " ++ b) := by
  obtain ⟨ts, ht, rfl⟩ := ha
  obtain ⟨us, hu, rfl⟩ := hb
  exact ⟨ts ++ us, ht.append hu, (sumText_append ht.ne_nil hu.ne_nil).symm⟩

theorem IsSumText.inter (ha : IsSumText isName a) (hb : IsSumText isName b) :
    IsSumText isName (a ++ " with " ++ b) := by
  obtain ⟨ts, ht, rfl⟩ := ha
  obtain ⟨us, hu, rfl⟩ := hb
  exact ⟨glue ts us, ht.glue hu, (sumText_glue ht hu).symm⟩

end

/-- The mark of an intersection brings in none of a union. -/
theorem bar_not_mem_inters {texts : List String} (hne : texts ≠ [])
    (h : ∀ text ∈ texts, '|' ∉ text.toList) : '|' ∉ (" with ".intercalate texts).toList := by
  apply @Text.intercalate_induction (fun text => '|' ∉ text.toList) _ _ texts hne h
  intro a b ha hb
  simp [ha, hb]

/-- Only a single term has no mark of a union in its text. -/
theorem bar_mem_sumText_iff {terms : List (List String)} (h : IsSum IsWord terms) :
    '|' ∈ (sumText terms).toList ↔ 2 ≤ terms.length := by
  match terms with
  | [] => exact absurd rfl h.ne_nil
  | [names] =>
    have hterm : '|' ∉ (termText names).toList :=
      bar_not_mem_inters (h.terms_ne_nil names List.mem_cons_self) fun name hn =>
        (h.names names List.mem_cons_self name hn).no_bar
    rw [sumText_singleton]
    exact iff_of_false hterm (by simp)
  | term :: next :: rest =>
    refine iff_of_true ?_ (by simp)
    rw [sumText_cons (List.cons_ne_nil next rest), String.toList_append, String.toList_append]
    exact List.mem_append_left _ (List.mem_append_right _ (by decide))

theorem IsSum.eq_singleton {terms : List (List String)} (h : IsSum IsWord terms)
    (hbar : '|' ∉ (sumText terms).toList) : ∃ term, terms = [term] := by
  rw [bar_mem_sumText_iff h] at hbar
  have hpos : 0 < terms.length := List.length_pos_iff.mpr h.ne_nil
  exact List.length_eq_one_iff.mp (by omega)

section

variable {α : Type} {sets : String → Set α} {x : α} {a b : String}

theorem mem_readSet_name {name : String} (h : IsWord name) :
    x ∈ readSet sets name ↔ x ∈ sets name := by
  have hread := @mem_readSet_sumText α sets [[name]] (isSum_name h) x
  rw [sumText_name] at hread
  rw [hread]
  simp

theorem mem_readSet_union (ha : IsSumText IsWord a) (hb : IsSumText IsWord b) :
    x ∈ readSet sets (a ++ " | " ++ b) ↔ x ∈ readSet sets a ∨ x ∈ readSet sets b := by
  obtain ⟨ts, ht, rfl⟩ := ha
  obtain ⟨us, hu, rfl⟩ := hb
  rw [← sumText_append ht.ne_nil hu.ne_nil, mem_readSet_sumText (ht.append hu),
    mem_readSet_sumText ht, mem_readSet_sumText hu]
  simp only [List.mem_append, or_and_right, exists_or]

/-- What is in both sets is in the set that is read. -/
theorem mem_readSet_inter (ha : IsSumText IsWord a) (hb : IsSumText IsWord b)
    (hxa : x ∈ readSet sets a) (hxb : x ∈ readSet sets b) :
    x ∈ readSet sets (a ++ " with " ++ b) := by
  obtain ⟨ts, ht, rfl⟩ := ha
  obtain ⟨us, hu, rfl⟩ := hb
  rw [mem_readSet_sumText ht] at hxa
  rw [mem_readSet_sumText hu] at hxb
  rw [← sumText_glue ht hu, mem_readSet_sumText (ht.glue hu)]
  exact exists_mem_glue hxa hxb

/-- Without unions, what is read is in both sets. -/
theorem mem_readSet_inter_iff (ha : IsSumText IsWord a) (hb : IsSumText IsWord b)
    (hbara : '|' ∉ a.toList) (hbarb : '|' ∉ b.toList) :
    x ∈ readSet sets (a ++ " with " ++ b) ↔ x ∈ readSet sets a ∧ x ∈ readSet sets b := by
  refine ⟨fun hx => ?_, fun hx => mem_readSet_inter ha hb hx.1 hx.2⟩
  obtain ⟨ts, ht, rfl⟩ := ha
  obtain ⟨us, hu, rfl⟩ := hb
  obtain ⟨term, rfl⟩ := ht.eq_singleton hbara
  obtain ⟨other, rfl⟩ := hu.eq_singleton hbarb
  rw [← sumText_glue ht hu, mem_readSet_sumText (ht.glue hu)] at hx
  rw [mem_readSet_sumText ht, mem_readSet_sumText hu]
  simpa [glue, or_imp, forall_and] using hx

variable {texts : List String} (hne : texts ≠ []) (h : ∀ text ∈ texts, IsSumText IsWord text)

include hne h

theorem mem_readSet_unions :
    x ∈ readSet sets (" | ".intercalate texts) ↔ ∃ text ∈ texts, x ∈ readSet sets text := by
  induction texts with
  | nil => exact absurd rfl hne
  | cons text rest ih =>
    obtain ⟨htext, hrest⟩ := List.forall_mem_cons.mp h
    cases rest with
    | nil => simp
    | cons next more =>
      have hlater : IsSumText IsWord (" | ".intercalate (next :: more)) :=
        Text.intercalate_induction (fun _ _ => .union) (List.cons_ne_nil next more) hrest
      rw [String.intercalate_cons_cons, mem_readSet_union htext hlater, List.exists_mem_cons_iff,
        ih (List.cons_ne_nil next more) hrest]

theorem mem_readSet_inters (hx : ∀ text ∈ texts, x ∈ readSet sets text) :
    x ∈ readSet sets (" with ".intercalate texts) := by
  have hboth : IsSumText IsWord (" with ".intercalate texts) ∧
      x ∈ readSet sets (" with ".intercalate texts) := by
    apply @Text.intercalate_induction (fun text => IsSumText IsWord text ∧ x ∈ readSet sets text) _ _
      texts hne fun text ht => ⟨h text ht, hx text ht⟩
    rintro a b ⟨ha, hxa⟩ ⟨hb, hxb⟩
    exact ⟨ha.inter hb, mem_readSet_inter ha hb hxa hxb⟩
  exact hboth.2

theorem mem_readSet_inters_iff (hbars : ∀ text ∈ texts, '|' ∉ text.toList) :
    x ∈ readSet sets (" with ".intercalate texts) ↔ ∀ text ∈ texts, x ∈ readSet sets text := by
  induction texts with
  | nil => exact absurd rfl hne
  | cons text rest ih =>
    obtain ⟨htext, hrest⟩ := List.forall_mem_cons.mp h
    obtain ⟨hbar, hbars⟩ := List.forall_mem_cons.mp hbars
    cases rest with
    | nil => simp
    | cons next more =>
      have hlater : IsSumText IsWord (" with ".intercalate (next :: more)) :=
        Text.intercalate_induction (fun _ _ => .inter) (List.cons_ne_nil next more) hrest
      have hlaterbar := bar_not_mem_inters (List.cons_ne_nil next more) hbars
      rw [String.intercalate_cons_cons, mem_readSet_inter_iff htext hlater hbar hlaterbar,
        List.forall_mem_cons, ih (List.cons_ne_nil next more) hrest hbars]

end

end Facade
