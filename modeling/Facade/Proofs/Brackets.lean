-- Square brackets in a text. A text is balanced when each bracket has its partner in it.
import Facade.Proofs.Text

namespace Facade

/-! ## Reading brackets -/

/-- The brackets that are open after one more character. Where none is open, none can be closed. -/
def bracketStep (opened : Nat) (c : Char) : Option Nat :=
  if c = '[' then some (opened + 1)
  else if c = ']' then (if opened = 0 then none else some (opened - 1))
  else some opened

/-- The brackets that are open after a text. -/
def bracketsAfter (opened : Nat) (text : String) : Option Nat :=
  text.toList.foldlM bracketStep opened

/-- Each bracket of the text has its partner in it. -/
def Balanced (text : String) : Prop :=
  bracketsAfter 0 text = some 0

/-- The text closes a bracket that it has not opened. -/
def Overclosed (text : String) : Prop :=
  bracketsAfter 0 text = none

/-- A text without brackets. -/
def BracketFree (text : String) : Prop :=
  ∀ c ∈ text.toList, c ≠ '[' ∧ c ≠ ']'

instance (text : String) : Decidable (Balanced text) :=
  inferInstanceAs (Decidable (bracketsAfter 0 text = some 0))

instance (text : String) : Decidable (Overclosed text) :=
  inferInstanceAs (Decidable (bracketsAfter 0 text = none))

instance (text : String) : Decidable (BracketFree text) :=
  List.decidableBAll (fun c => c ≠ '[' ∧ c ≠ ']') text.toList

theorem Overclosed.not_balanced {text : String} (h : Overclosed text) : ¬Balanced text := by
  intro hb
  rw [Overclosed, hb] at h
  cases h

theorem bracketsAfter_append (opened : Nat) (a b : String) :
    bracketsAfter opened (a ++ b) = (bracketsAfter opened a).bind (bracketsAfter · b) := by
  unfold bracketsAfter
  rw [String.toList_append, List.foldlM_append]
  rfl

/-! ## Under open brackets -/

theorem bracketStep_add {opened after : Nat} {c : Char} (h : bracketStep opened c = some after)
    (more : Nat) : bracketStep (opened + more) c = some (after + more) := by
  unfold bracketStep at h ⊢
  split_ifs at h ⊢ with hopen hclose hnone hmore hmore
  · cases h
    congr 1
    omega
  · omega
  · cases h
    congr 1
    omega
  · cases h
    rfl

/-- A text that keeps to its own brackets does the same under others. -/
theorem bracketsAfter_add {opened after : Nat} {text : String}
    (h : bracketsAfter opened text = some after) (more : Nat) :
    bracketsAfter (opened + more) text = some (after + more) := by
  unfold bracketsAfter at h ⊢
  generalize text.toList = chars at h ⊢
  induction chars generalizing opened with
  | nil =>
    cases h
    rfl
  | cons c rest ih =>
    rw [List.foldlM_cons] at h ⊢
    cases hstep : bracketStep opened c with
    | none =>
      rw [hstep] at h
      cases h
    | some next =>
      rw [hstep] at h
      rw [bracketStep_add hstep more]
      exact ih h

theorem Balanced.after {text : String} (h : Balanced text) (opened : Nat) :
    bracketsAfter opened text = some opened := by
  have hmore := bracketsAfter_add h opened
  rwa [Nat.zero_add] at hmore

/-! ## Making balanced texts -/

theorem BracketFree.balanced {text : String} (h : BracketFree text) : Balanced text := by
  unfold BracketFree at h
  unfold Balanced bracketsAfter
  generalize text.toList = chars at h ⊢
  induction chars with
  | nil => rfl
  | cons c rest ih =>
    obtain ⟨hopen, hclose⟩ := h c List.mem_cons_self
    have hstep : bracketStep 0 c = some 0 := by simp [bracketStep, hopen, hclose]
    rw [List.foldlM_cons, hstep]
    exact ih fun d hd => h d (List.mem_cons_of_mem c hd)

theorem Balanced.append {a b : String} (ha : Balanced a) (hb : Balanced b) : Balanced (a ++ b) := by
  rw [Balanced, bracketsAfter_append, ha]
  exact hb

theorem Balanced.enclosed {text : String} (h : Balanced text) : Balanced ("[" ++ text ++ "]") := by
  have hopen : bracketsAfter 0 "[" = some 1 := by decide
  rw [Balanced, bracketsAfter_append, bracketsAfter_append, hopen, Option.bind_some, h.after]
  decide

theorem balanced_intercalate {sep : String} (hsep : Balanced sep) {texts : List String}
    (h : ∀ text ∈ texts, Balanced text) : Balanced (sep.intercalate texts) := by
  by_cases hne : texts = []
  · rw [hne, String.intercalate_nil]
    decide
  · exact Text.intercalate_induction (fun _ _ ha hb => (ha.append hsep).append hb) hne h

/-! ## Closing too much -/

theorem Overclosed.append {a : String} (h : Overclosed a) (b : String) : Overclosed (a ++ b) := by
  rw [Overclosed, bracketsAfter_append, h]
  rfl

theorem Balanced.append_overclosed {a b : String} (ha : Balanced a) (hb : Overclosed b) :
    Overclosed (a ++ b) := by
  rw [Overclosed, bracketsAfter_append, ha]
  exact hb

/-- What closes a bracket that was opened before it closes too much on its own. -/
theorem overclosed_of_after {text : String} (h : bracketsAfter 1 text = some 0) :
    Overclosed text := by
  rw [Overclosed, Option.eq_none_iff_forall_not_mem]
  intro after hafter
  have hmore := bracketsAfter_add hafter 1
  rw [Nat.zero_add, h] at hmore
  cases hmore

/-- Texts that are balanced or close too much make a balanced list when none closes too much. -/
theorem balanced_intercalate_iff {sep : String} (hsep : Balanced sep) {texts : List String}
    (h : ∀ text ∈ texts, Balanced text ∨ Overclosed text) :
    Balanced (sep.intercalate texts) ↔ ∀ text ∈ texts, Balanced text := by
  refine ⟨?_, balanced_intercalate hsep⟩
  induction texts with
  | nil => simp
  | cons text rest ih =>
    intro hall
    have hrest := ih fun t ht => h t (List.mem_cons_of_mem text ht)
    rw [List.forall_mem_cons]
    cases rest with
    | nil =>
      rw [String.intercalate_singleton] at hall
      exact ⟨hall, by simp⟩
    | cons next more =>
      rw [String.intercalate_cons_cons] at hall
      rcases h text List.mem_cons_self with htext | htext
      · have hhead : Balanced (text ++ sep) := htext.append hsep
        refine ⟨htext, hrest ?_⟩
        rw [Balanced, bracketsAfter_append, hhead] at hall
        exact hall
      · exact absurd hall (((htext.append sep).append _).not_balanced)

end Facade
