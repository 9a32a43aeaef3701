-- Files of one statement. A text is read as one statement alone exactly when that statement is read at
-- its start and nothing but blanks and comments comes after it.
import Facade.Proofs.Lexing

namespace Facade

open Reader

namespace Grammar

variable (g : Productions) {place rest : Cursor} {found : Statement}

/-! ## One more statement -/

/-- The place from which a new statement is read. -/
def started (place : Cursor) : Cursor :=
  if place.before != .start && place.mayEnd .value then { place with before := .start } else place

theorem started_token (place : Cursor) : (started place).token = place.token := by
  unfold started
  split <;> rfl

theorem startNew_apply (place : Cursor) : startNew place = .ok () (started place) := by
  simp only [startNew, bind_apply, Reader.place, Reader.ite_apply, leave, goTo, pure_apply, started]
  split <;> rfl

theorem nextStatement_apply (statements : List Statement) (place : Cursor) :
    nextStatement g statements place =
      if (started place).withMarkup.atEnd then
        .ok (.done (statements ++ markupStatements (started place).withMarkup.token))
          (started place).withMarkup
      else
        (g.statement >>= fun found =>
          pure (.again (statements ++ markupStatements (started place).withMarkup.token ++ [found])))
          (started place).withMarkup := by
  rw [nextStatement, bind_apply, startNew_apply]
  dsimp only
  rw [bind_apply, look]
  dsimp only
  rw [Reader.ite_apply]
  rfl

/-- Statements are only ever added. -/
theorem prefix_of_moreStatements {fuel : Nat} {statements all : List Statement}
    (h : loopUpTo (nextStatement g) fuel statements place = .ok all rest) : statements <+: all := by
  refine gives_loopUpTo (statements <+: ·) (fun state hstate => ?_) fuel (List.prefix_refl _)
    place all rest h
  have hadd (more : List Statement) : statements <+: state ++ more :=
    hstate.trans (List.prefix_append _ _)
  refine gives_after fun _ => gives_after fun here => ?_
  refine gives_ite (fun _ => gives_pure (hadd _)) fun _ => gives_after fun found => gives_pure ?_
  dsimp only
  rw [List.append_assoc]
  exact hadd _

theorem markupStatements_eq_nil_iff {token : Token} :
    markupStatements token = [] ↔ Trivia.markupCount token.leading = 0 := by
  simp [markupStatements]

/-- Lines of markup in front of a token are never lost. -/
theorem markupCount_withMarkupUpTo (fuel : Nat) (leading : List Trivia) (left : Nat)
    (chars : List Char) :
    Trivia.markupCount leading ≤
      Trivia.markupCount ((Cursor.ofChars leading left chars).withMarkupUpTo fuel).token.leading := by
  have hfirst (leading : List Trivia) (left : Nat) (chars : List Char) :
      Trivia.markupCount leading ≤
        Trivia.markupCount (Cursor.ofChars leading left chars).token.leading := by
    simp [Cursor.ofChars, Trivia.markupCount]
  induction fuel generalizing leading left chars with
  | zero => exact hfirst leading left chars
  | succ fuel ih =>
    unfold Cursor.withMarkupUpTo
    split
    · split
      · refine Nat.le_trans (hfirst leading left chars) (Nat.le_trans ?_ (ih _ _ _))
        simp [Trivia.markupCount]
      · exact hfirst leading left chars
    · exact hfirst leading left chars

/-- Where none are found, the place is the same. -/
theorem withMarkup_eq_self_of_count (h : Trivia.markupCount place.withMarkup.token.leading = 0) :
    place.withMarkup = place := by
  unfold Cursor.withMarkup at h ⊢
  split
  · rename_i hstart
    rw [if_pos hstart] at h
    cases hnext : place.markupNext with
    | false => exact Cursor.withMarkupUpTo_eq_self hnext _
    | true =>
      obtain ⟨size, hsize⟩ := Cursor.exists_markupSize? hnext
      cases hleft : place.left with
      | zero => rfl
      | succ left =>
        rw [hleft, Cursor.withMarkupUpTo_succ hnext hsize] at h
        refine absurd h (Nat.pos_iff_ne_zero.mp (Nat.lt_of_lt_of_le ?_
          (markupCount_withMarkupUpTo left _ _ _)))
        simp [Trivia.markupCount]
  · rfl

/-! ## One statement alone -/

/-- Nothing but blanks and comments comes at the place. -/
structure IsLast (place : Cursor) : Prop where
  atEnd : place.atEnd
  unmarked : Trivia.markupCount place.token.leading = 0

theorem IsLast.started (h : IsLast place) : (started place).withMarkup = started place := by
  have hend := h.atEnd
  refine Cursor.withMarkup_of_atEnd ?_
  unfold Cursor.atEnd at hend ⊢
  rwa [started_token]

/-- A statement stays alone when nothing comes after it. -/
theorem IsLast.moreStatements (h : IsLast place) (fuel : Nat) :
    loopUpTo (nextStatement g) (fuel + 1) [found] place = .ok [found] (Grammar.started place) := by
  have hend : (Grammar.started place).atEnd := by
    have hend := h.atEnd
    unfold Cursor.atEnd at hend ⊢
    rwa [started_token]
  have hnone : markupStatements (Grammar.started place).token = [] := by
    rw [started_token, markupStatements_eq_nil_iff, h.unmarked]
  rw [loopUpTo, bind_apply, nextStatement_apply, h.started, if_pos hend, hnone]
  rfl

/-- Only then it stays alone. -/
theorem isLast_of_moreStatements {fuel : Nat}
    (h : loopUpTo (nextStatement g) fuel [found] place = .ok [found] rest) : IsLast place := by
  cases fuel with
  | zero => cases h
  | succ fuel =>
    rw [loopUpTo, bind_eq_ok_iff] at h
    obtain ⟨round, middle, hround, h⟩ := h
    rw [nextStatement_apply] at hround
    split at hround
    · rename_i hend
      cases hround
      have hnone : Trivia.markupCount (started place).withMarkup.token.leading = 0 := by
        rw [← markupStatements_eq_nil_iff]
        simpa using (Reply.ok.inj h).1
      have hsame := withMarkup_eq_self_of_count hnone
      rw [hsame, started_token] at hnone
      rw [hsame, Cursor.atEnd, started_token] at hend
      exact ⟨hend, hnone⟩
    · rw [bind_eq_ok_iff] at hround
      obtain ⟨second, after, -, hround⟩ := hround
      cases hround
      have hlength := (prefix_of_moreStatements g h).length_le
      simp at hlength

/-- A file is one statement exactly when that is read and the text ends after it. -/
theorem fileStatements_eq_singleton_iff (hword : place.token.kind = .word)
    (hplain : Trivia.markupCount place.token.leading = 0) (hstart : place.before = .start) :
    (∃ rest, fileStatements g place = .ok [found] rest) ↔
      ∃ middle, g.statement place = .ok found middle ∧ IsLast middle := by
  have hfirst : interpreterLine place = .ok [] place := by
    simp [interpreterLine, peek, bind_apply, look_of_word hword, accept_apply,
      Cursor.withMarkup_of_word hword, hword, pure_apply]
  have hnone : markupStatements place.token = [] := markupStatements_eq_nil_iff.mpr hplain
  have hstarted : started place = place := by simp [started, hstart]
  have hround : nextStatement g [] place =
      (g.statement >>= fun found => pure (.again [found])) place := by
    rw [nextStatement_apply, hstarted, Cursor.withMarkup_of_word hword, Cursor.atEnd_of_word hword,
      hnone]
    rfl
  rw [fileStatements, bind_apply, hfirst]
  dsimp only
  rw [loop, loopUpTo, bind_apply, hround, bind_apply]
  cases hread : g.statement place with
  | ok first middle =>
    constructor
    · rintro ⟨rest, h⟩
      have hsame : first = found := by
        simpa using prefix_of_moreStatements g h
      subst hsame
      exact ⟨middle, rfl, isLast_of_moreStatements g h⟩
    · rintro ⟨_, ⟨⟩, hlast⟩
      exact ⟨_, hlast.moreStatements g _⟩
  | reject failure => simp
  | exhausted => simp

end Grammar

end Facade
