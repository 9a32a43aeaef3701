-- `declare` and `export` in front of a declaration change nothing: the declaration is read from the
-- same place by the same reader, and only what stands in front of its first word is different.
import Facade.Proofs.LoneStatements
import Facade.Proofs.StatementReading

namespace Facade

open Reader Grammar

/-! ## Declarations -/

/-- The words that declarations start with. -/
def declarationKeywords : List String :=
  ["class", "abstract", "interface", "enum", "const", "type", "function", "var", "let", "namespace",
   "module"]

/-- Whether a statement declares something. An external module only says what is elsewhere. -/
def Statement.declares : Statement → Bool
  | .module _ quoted _ => !quoted
  | .moduleHead _ quoted => !quoted
  | .classDecl _ => true
  | .interfaceDecl _ => true
  | .enumDecl _ => true
  | .aliasDecl _ => true
  | .variableDecls _ => true
  | .function _ => true
  | _ => false

/-- The text starts with a word that declarations start with, and nothing stands in front of it. -/
structure StartsDeclaration (text : String) : Prop where
  leading : (Cursor.ofText text).token.leading = []
  keyword : (Cursor.ofText text).token.isAnyWord declarationKeywords

/-! ## What stands in front of the first word -/

namespace Reader

variable {α β : Type} {place : Cursor} {leading : List Trivia}

/-- The reader answers the same whatever stands in front of the first token. -/
def Blind (place : Cursor) (leading : List Trivia) (reader : Reader α) : Prop :=
  reader (place.withLeading leading) = reader place

theorem blind_bind {reader : Reader α} (h : Blind place leading reader) (next : α → Reader β) :
    Blind place leading (reader >>= next) := by
  unfold Blind at h ⊢
  rw [bind_apply, bind_apply, h]

theorem blind_keyword (hword : place.token.kind = .word) (text : String) :
    Blind place leading (keyword text) := by
  rw [Blind, keyword_of_word hword, keyword_of_word (by simpa using hword)]
  rfl

theorem blind_word (hword : place.token.kind = .word) : Blind place leading word := by
  rw [Blind, word_of_word hword, word_of_word (by simpa using hword)]
  rfl

/-- A word may come first that need not: what follows it is the same in any case. -/
theorem blind_acceptWord (hword : place.token.kind = .word) (text : String)
    {next : Bool → Reader β} (h : Blind place leading (next false)) :
    Blind place leading (acceptWord text >>= next) := by
  rw [Blind, bind_apply, bind_apply, acceptWord_of_word hword,
    acceptWord_of_word (by simpa using hword), Cursor.withLeading_text]
  cases place.token.text == text with
  | true => rfl
  | false => exact h

end Reader

namespace Grammar

variable {place : Cursor} {leading : List Trivia} (g : Productions)

theorem classStatement_blind (hword : place.token.kind = .word) (shared : Bool) :
    Blind place leading (classStatement g shared) :=
  blind_acceptWord hword _ (blind_bind (blind_keyword hword _) _)

theorem enumStatement_blind (hword : place.token.kind = .word) :
    Blind place leading (enumStatement g) :=
  blind_acceptWord hword _ (blind_bind (blind_keyword hword _) _)

theorem functionStatement_blind (hword : place.token.kind = .word) :
    Blind place leading (functionStatement g) :=
  blind_acceptWord hword _ (blind_bind (blind_keyword hword _) _)

/-- A declaration is read from its first word on. -/
theorem ownDeclaration_blind (hkeyword : place.token.isAnyWord declarationKeywords)
    (shared : Bool) : Blind place leading (ownDeclaration g shared) := by
  simp only [Token.isAnyWord, Bool.and_eq_true, beq_iff_eq, declarationKeywords, List.contains_cons,
    List.contains_nil, Bool.or_eq_true, Bool.or_false] at hkeyword
  obtain ⟨hword, htext⟩ := hkeyword
  unfold Blind ownDeclaration
  rw [bind_apply, bind_apply, look_of_word hword, look_of_word (by simpa using hword)]
  dsimp only
  rw [Cursor.withLeading_text, Cursor.withLeading_next]
  rcases htext with h | h | h | h | h | h | h | h | h | h | h <;> rw [h]
  · exact classStatement_blind g hword shared
  · exact classStatement_blind g hword shared
  · exact blind_bind (blind_keyword hword _) _
  · exact enumStatement_blind g hword
  · cases place.next.withMarkup.token.isWord "enum" with
    | true => exact enumStatement_blind g hword
    | false => exact blind_bind (blind_word hword) _
  · exact blind_bind (blind_keyword hword _) _
  · exact functionStatement_blind g hword
  · exact blind_bind (blind_word hword) _
  · exact blind_bind (blind_word hword) _
  · exact blind_bind (blind_word hword) _
  · exact blind_bind (blind_word hword) _

/-! ## Where a value could stand -/

theorem require_eq_ok_iff {condition : Bool} {place rest : Cursor} {nothing : Unit} :
    require condition place = .ok nothing rest ↔ condition = true ∧ rest = place := by
  cases condition <;> simp [require, fail, pure_apply, eq_comm]

/-- A class that could be a value is a class where none could stand. -/
theorem classStatement_unshared {found : Statement} {rest : Cursor}
    (h : classStatement g true place = .ok found rest) :
    classStatement g false place = .ok found rest := by
  unfold classStatement at h ⊢
  simp only [bind_eq_ok_iff, require_eq_ok_iff] at h ⊢
  obtain ⟨isAbstract, first, habstract, _, second, hclass, isNamed, third, hnamed, _, _, ⟨-, rfl⟩,
    htail⟩ := h
  exact ⟨isAbstract, first, habstract, (), second, hclass, isNamed, _, hnamed, (), _, ⟨rfl, rfl⟩,
    htail⟩

theorem nextSegment_apply (ending : Ending) (place : Cursor) :
    nextSegment ending place =
      if !(ending.view place).atEnd && (ending.view place).token.isMark "."
          && !ending.isAt (ending.view place) then
        (word >>= fun _ => pure (.again ())) (ending.view place).next
      else .ok (.done ()) (ending.view place) := by
  rw [nextSegment, bind_apply, continueWith_apply]
  cases !(ending.view place).atEnd && (ending.view place).token.isMark "."
    && !ending.isAt (ending.view place) <;> rfl

theorem before_of_word {name : String} {rest : Cursor} (h : word place = .ok name rest) :
    rest.before = .start := by
  rw [word, bind_eq_ok_iff] at h
  obtain ⟨token, middle, htake, hrest⟩ := h
  cases hrest
  rw [take_apply] at htake
  split at htake
  · cases htake
    rfl
  · cases htake

theorem before_of_next {token : Token} {rest : Cursor} (h : Reader.next place = .ok token rest) :
    rest.before = .start := by
  simp only [Reader.next, bind_eq_ok_iff, require_eq_ok_iff] at h
  obtain ⟨here, _, -, _, _, ⟨-, rfl⟩, _, after, hgo, h⟩ := h
  cases h
  cases hgo
  rfl

/-- Before a body and at the end of the text no line of markup stands. -/
theorem withMarkup_of_stop (h : place.token.isMark "\x7b" ∨ place.atEnd) :
    place.withMarkup = place := by
  rcases h with hbrace | hend
  · exact Cursor.withMarkup_of_mark hbrace (by decide)
  · exact Cursor.withMarkup_of_atEnd hend

theorem before_of_moreSegments {fuel : Nat} {stop : Cursor} (hstart : place.before = .start)
    (h : loopUpTo (fun _ => nextSegment (.line .value)) fuel () place = .ok () stop) :
    stop.before = .start := by
  induction fuel generalizing place with
  | zero => simp [loopUpTo, exhausted] at h
  | succ fuel ih =>
    rw [loopUpTo, bind_eq_ok_iff] at h
    obtain ⟨round, middle, hround, h⟩ := h
    rw [nextSegment_apply, Ending.view_line] at hround
    split at hround
    · rw [bind_eq_ok_iff] at hround
      obtain ⟨name, after, hword, hround⟩ := hround
      cases hround
      exact ih (before_of_word hword) h
    · cases hround
      cases h
      exact hstart

/-- The segments of a name that ends before a body or with the text end there wherever it stands. -/
theorem moreSegments_enclosed {fuel : Nat} {stop : Cursor}
    (h : loopUpTo (fun _ => nextSegment (.line .value)) fuel () place = .ok () stop)
    (hstop : stop.token.isMark "\x7b" ∨ stop.atEnd) :
    loopUpTo (fun _ => nextSegment .enclosed) fuel () place = .ok () stop := by
  induction fuel generalizing place with
  | zero => simp [loopUpTo, exhausted] at h
  | succ fuel ih =>
    rw [loopUpTo, bind_eq_ok_iff] at h ⊢
    obtain ⟨round, middle, hround, h⟩ := h
    rw [nextSegment_apply, Ending.view_line] at hround
    split at hround
    · rename_i hdot
      rw [Bool.and_eq_true, Bool.and_eq_true] at hdot
      have hview : Ending.enclosed.view place = place :=
        Cursor.withMarkup_of_mark hdot.1.2 (by decide)
      rw [bind_eq_ok_iff] at hround
      obtain ⟨name, after, hword, hround⟩ := hround
      cases hround
      refine ⟨.again (), middle, ?_, ih h⟩
      rw [nextSegment_apply, hview, if_pos (by simp [hdot, Ending.isAt])]
      exact bind_eq_ok_iff.mpr ⟨name, middle, hword, rfl⟩
    · cases hround
      cases h
      have hview : Ending.enclosed.view stop = stop := withMarkup_of_stop hstop
      have hdot : (!stop.atEnd && stop.token.isMark ".") = false := by
        rcases hstop with hbrace | hend
        · simp only [Token.isMark, Bool.and_eq_true, beq_iff_eq] at hbrace
          simp [Token.isMark, hbrace]
        · simp [hend]
      refine ⟨.done (), stop, ?_, rfl⟩
      rw [nextSegment_apply, hview, hdot]
      rfl

/-- A dotted name that ends before a body or with the text is the same wherever it stands. -/
theorem dottedName_enclosed {name : String} {rest : Cursor}
    (h : dottedName (.line .value) place = .ok name rest) :
    rest.before = .held ∧ ((rest.token.isMark "\x7b" ∨ rest.atEnd) →
      dottedName .enclosed place = .ok name { rest with before := .start }) := by
  unfold dottedName at h ⊢
  simp only [bind_eq_ok_iff] at h ⊢
  obtain ⟨first, found, hlook, name, after, hword, _, stop, hloop, _, _, hsettle, _, _, hplace, h⟩ := h
  cases hplace
  cases h
  have hbefore : (stop.before != .body) = true := by
    rw [before_of_moreSegments (before_of_word hword) hloop]
    rfl
  rw [settle_apply, if_pos hbefore] at hsettle
  cases hsettle
  refine ⟨rfl, fun hstop => ?_⟩
  refine ⟨first, found, hlook, name, after, hword, (), stop, moreSegments_enclosed hloop hstop, (),
    { stop with before := .start }, ?_, _, _, rfl, rfl⟩
  rw [settle_apply, if_pos hbefore]
  rfl

theorem moduleTail_apply {ending : Ending} {here : Cursor} (hbody : place.before ≠ .body)
    (hhere : ending.view { place with before := ending.before } = here) (name : String)
    (isQuoted : Bool) :
    moduleTail g ending name isQuoted place =
      if here.token.isMark "\x7b" && !ending.isAt here then
        (g.block >>= fun body => pure (.module name isQuoted body)) here.next
      else .ok (.moduleHead name isQuoted) here := by
  rw [moduleTail, bind_apply, settle_apply, if_pos (by simpa using hbody)]
  dsimp only
  rw [bind_apply, continuesWith_apply, hhere]
  dsimp only
  split
  · rename_i hbrace
    rw [Bool.and_eq_true] at hbrace
    rw [bind_apply, mark_of_mark hbrace.1 (by decide)]
  · rfl

theorem moduleTail_of_stop (place : Cursor) (hstart : place.before = .start)
    (hstop : place.token.isMark "\x7b" ∨ place.atEnd) (name : String) (isQuoted : Bool) :
    moduleTail g .enclosed name isQuoted place =
      if place.token.isMark "\x7b" then
        (g.block >>= fun body => pure (.module name isQuoted body)) place.next
      else .ok (.moduleHead name isQuoted) place := by
  have hview : Ending.enclosed.view { place with before := .start } = place := by
    rw [← hstart]
    exact withMarkup_of_stop hstop
  rw [moduleTail_apply g (by simp [hstart]) hview]
  simp [Ending.isAt]

/-- What follows the name of a namespace is the same wherever it stands, when it is a body or the
end of the text. -/
theorem moduleTail_enclosed {name : String} {isQuoted : Bool} {found : Statement} {rest : Cursor}
    (hbody : place.before ≠ .body)
    (h : moduleTail g (.line .value) name isQuoted place = .ok found rest) (hend : rest.atEnd) :
    (place.token.isMark "\x7b" ∨ place.atEnd) ∧
      ∃ before, moduleTail g .enclosed name isQuoted { place with before := .start } =
        .ok found { rest with before } := by
  rw [moduleTail_apply g hbody (Ending.view_line _ _)] at h
  split at h
  · rename_i hbrace
    rw [Bool.and_eq_true] at hbrace
    refine ⟨.inl hbrace.1, rest.before, ?_⟩
    rw [moduleTail_of_stop g { place with before := .start } rfl (.inl hbrace.1), if_pos hbrace.1]
    exact h
  · cases h
    have hkind : place.token.kind = .finish := by simpa [Cursor.atEnd] using hend
    refine ⟨.inr hend, .start, ?_⟩
    rw [moduleTail_of_stop g { place with before := .start } rfl (.inr hend),
      if_neg (by simp [Token.isMark, hkind])]

/-- A namespace that could be a value and ends with the text is a namespace where none could stand. -/
theorem moduleStatement_enclosed {found : Statement} {rest : Cursor}
    (h : moduleStatement g (.line .value) place = .ok found rest) (hend : rest.atEnd) :
    ∃ before, moduleStatement g .enclosed place = .ok found { rest with before } := by
  unfold moduleStatement at h ⊢
  simp only [bind_eq_ok_iff] at h ⊢
  obtain ⟨word, first, hword, isQuoted, second, hquoted, h⟩ := h
  cases isQuoted with
  | true =>
    rw [if_pos rfl, bind_eq_ok_iff] at h
    obtain ⟨name, third, hname, htail⟩ := h
    have hbefore : third.before = .start := by
      rw [bind_eq_ok_iff] at hname
      obtain ⟨token, after, hnext, hname⟩ := hname
      cases hname
      exact before_of_next hnext
    obtain ⟨-, before, htail'⟩ := moduleTail_enclosed g (by simp [hbefore]) htail hend
    rw [← hbefore] at htail'
    refine ⟨before, word, first, hword, true, second, hquoted, ?_⟩
    rw [if_pos rfl, bind_eq_ok_iff]
    exact ⟨name, third, hname, htail'⟩
  | false =>
    rw [if_neg Bool.false_ne_true, bind_eq_ok_iff] at h
    obtain ⟨name, third, hname, htail⟩ := h
    obtain ⟨hbefore, hname'⟩ := dottedName_enclosed hname
    obtain ⟨hstop, before, htail'⟩ := moduleTail_enclosed g (by simp [hbefore]) htail hend
    refine ⟨before, word, first, hword, false, second, hquoted, ?_⟩
    rw [if_neg Bool.false_ne_true, bind_eq_ok_iff]
    exact ⟨name, _, hname' hstop, htail'⟩

/-- A declaration that could be a value and ends with the text is that declaration where no value
could stand. -/
theorem ownDeclaration_unshared {found : Statement} {rest : Cursor}
    (hkeyword : place.token.isAnyWord declarationKeywords)
    (h : ownDeclaration g true place = .ok found rest) (hend : rest.atEnd) :
    ∃ before, ownDeclaration g false place = .ok found { rest with before } := by
  simp only [Token.isAnyWord, Bool.and_eq_true, beq_iff_eq, declarationKeywords, List.contains_cons,
    List.contains_nil, Bool.or_eq_true, Bool.or_false] at hkeyword
  obtain ⟨hword, htext⟩ := hkeyword
  unfold ownDeclaration at h ⊢
  rw [bind_apply, look_of_word hword] at h ⊢
  dsimp only at h ⊢
  rcases htext with ht | ht | ht | ht | ht | ht | ht | ht | ht | ht | ht <;> rw [ht] at h ⊢
  · exact ⟨rest.before, classStatement_unshared g h⟩
  · exact ⟨rest.before, classStatement_unshared g h⟩
  · exact ⟨rest.before, h⟩
  · exact ⟨rest.before, h⟩
  · exact ⟨rest.before, h⟩
  · exact ⟨rest.before, h⟩
  · exact ⟨rest.before, h⟩
  · exact ⟨rest.before, h⟩
  · exact ⟨rest.before, h⟩
  · exact moduleStatement_enclosed g h hend
  · exact ⟨rest.before, h⟩

/-! ## Statements -/

theorem expressionStatement_gives :
    Gives (fun found => Statement.declares found = false) (expressionStatement g) := by
  refine gives_after fun _ => gives_after fun _ => gives_pure rfl

theorem labelledStatement_gives :
    Gives (fun found => Statement.declares found = false) (labelledStatement g) := by
  refine gives_after fun _ => gives_after fun _ => gives_after fun _ => gives_pure rfl

theorem kind_of_keyword (hkeyword : place.token.isAnyWord declarationKeywords) :
    place.token.kind = .word := by
  rw [Token.isAnyWord, Bool.and_eq_true, beq_iff_eq] at hkeyword
  exact hkeyword.1

theorem isWord_of_keyword (hkeyword : place.token.isAnyWord declarationKeywords) (word : String)
    (hword : declarationKeywords.contains word = false) : place.token.isWord word = false := by
  rw [Token.isAnyWord, Bool.and_eq_true] at hkeyword
  by_contra hsame
  simp only [Token.isWord, Bool.not_eq_false, Bool.and_eq_true, beq_iff_eq] at hsame
  rw [hsame.2, hword] at hkeyword
  exact Bool.false_ne_true hkeyword.2

/-- Such a word is a word for the lexer too. -/
theorem isWord_of_keyword_text (hkeyword : place.token.isAnyWord declarationKeywords) :
    Lexer.isWord place.token.text.toList := by
  simp only [Token.isAnyWord, Bool.and_eq_true, List.contains_iff_mem] at hkeyword
  have hall : ∀ word ∈ declarationKeywords, Lexer.isWord word.toList := by decide
  exact hall _ hkeyword.2

theorem isMark_of_word (hword : place.token.kind = .word) (text : String) :
    place.token.isMark text = false := by
  simp [Token.isMark, hword]

/-- The words that start declarations start no other statement, but they can be labels. -/
theorem statement_of_keyword (hkeyword : place.token.isAnyWord declarationKeywords) :
    statement g place =
      (if place.next.token.isMark ":" && !valueWords.contains place.token.text
          && !statementWords.contains place.token.text then labelledStatement g
        else declarationOr g sequenceGoesOn (expressionStatement g)) place := by
  have hword := kind_of_keyword hkeyword
  rw [statement, bind_apply, look_of_word hword]
  simp only [Token.isAnyWord, Bool.and_eq_true, beq_iff_eq, declarationKeywords, List.contains_cons,
    List.contains_nil, Bool.or_eq_true, Bool.or_false] at hkeyword
  obtain ⟨-, htext⟩ := hkeyword
  simp only [hword, beq_self_eq_true, if_true, wordStatement]
  rcases htext with ht | ht | ht | ht | ht | ht | ht | ht | ht | ht | ht <;> rw [ht] <;> rfl

/-- A statement that starts with such a word and declares something is read as a declaration. -/
theorem statement_of_declaration {found : Statement} {rest : Cursor}
    (hkeyword : place.token.isAnyWord declarationKeywords) (hdeclares : found.declares)
    (h : statement g place = .ok found rest) :
    declarationStarts place ∧ ownDeclaration g true place = .ok found rest := by
  -- Values and labels declare nothing.
  have hvalue {rest : Cursor} {here : Cursor} (h : expressionStatement g here = .ok found rest) :
      False := by
    have hother : found.declares = false := expressionStatement_gives g _ _ _ h
    simp [hdeclares] at hother
  have hword := kind_of_keyword hkeyword
  rw [statement_of_keyword g hkeyword] at h
  split at h
  · have hother : found.declares = false := labelledStatement_gives g _ _ _ h
    simp [hdeclares] at hother
  · unfold declarationOr at h
    rw [bind_apply, look_of_word hword] at h
    dsimp only at h
    split at h
    · rename_i hstarts
      have hdeclare := isWord_of_keyword hkeyword "declare" (by decide)
      rw [hdeclare, if_neg Bool.false_ne_true, bind_eq_ok_iff] at h
      obtain ⟨found', middle, hown, h⟩ := h
      rw [bind_apply, Reader.place] at h
      dsimp only at h
      split at h
      · exact (hvalue h).elim
      · cases h
        exact ⟨hstarts, hown⟩
    · exact (hvalue h).elim

/-! ## After `declare` and `export` -/

/-- A declaration starts at the place, and nothing in front of it can end before it. -/
structure Opens (place : Cursor) : Prop where
  keyword : place.token.isAnyWord declarationKeywords
  starts : declarationStarts place
  goesOn : place.mayEnd .value = false
  unmarked : Trivia.markupCount place.token.leading = 0

variable {found : Statement} {rest : Cursor}

theorem Opens.kind (h : Opens place) : place.token.kind = .word := kind_of_keyword h.keyword

theorem Opens.isWord (h : Opens place) (word : String)
    (hword : declarationKeywords.contains word = false) : place.token.isWord word = false :=
  isWord_of_keyword h.keyword word hword

theorem Opens.isWordBut (h : Opens place) :
    place.token.isWordBut ["in", "instanceof", "satisfies"] := by
  have hkeyword := h.keyword
  simp only [Token.isAnyWord, Bool.and_eq_true, List.contains_iff_mem] at hkeyword
  have hall : ∀ word ∈ declarationKeywords,
      ["in", "instanceof", "satisfies"].contains word = false := by decide
  rw [Token.isWordBut, hall _ hkeyword.2, h.kind]
  rfl

/-- A declaration that starts with `module` or `type` has a word or a string after it. -/
theorem Opens.next_isMark (h : Opens place) (hnamed : place.token.isAnyWord ["module", "type"])
    (mark : String) : place.next.withMarkup.token.isMark mark = false := by
  have hkind : place.next.token.kind ≠ .mark := by
    have hstarts := h.starts
    simp only [Token.isAnyWord, Bool.and_eq_true, List.contains_cons, List.contains_nil,
      Bool.or_eq_true, Bool.or_false, beq_iff_eq] at hnamed
    intro hmark
    rcases hnamed.2 with ht | ht <;>
      simp [declarationStarts, ht, Token.isWordBut, hmark] at hstarts
  rw [Cursor.withMarkup_eq_self hkind, Token.isMark, beq_eq_false_iff_ne.mpr hkind, Bool.false_and]

theorem declaredForm_of_opens (h : Opens place) :
    declaredForm g place = ownDeclaration g false place := by
  have hmodule : (place.token.isWord "module" && place.next.withMarkup.token.isMark ".") = false := by
    cases hword : place.token.isWord "module" with
    | false => rfl
    | true =>
      rw [Token.isWord, Bool.and_eq_true, beq_iff_eq, beq_iff_eq] at hword
      rw [Bool.true_and, h.next_isMark (by simp [Token.isAnyWord, hword])]
  rw [declaredForm, bind_apply, look_of_word h.kind]
  dsimp only
  rw [isMark_of_word h.kind, h.isWord "global" (by decide), h.isWord "declare" (by decide), hmodule,
    h.kind]
  rfl

theorem declared_of_opens (hdeclare : place.token.isWord "declare") (h : Opens place.next)
    (hread : ownDeclaration g false place.next = .ok found rest) :
    declared g place = .ok found rest := by
  rw [Token.isWord, Bool.and_eq_true, beq_iff_eq] at hdeclare
  rw [declared, bind_apply, keyword_of_word hdeclare.1, if_pos hdeclare.2]
  simp only [peek, bind_apply, pure_apply, look_of_word h.kind, declaredForm_of_opens g h, hread,
    h.unmarked, beq_self_eq_true, if_true]

/-- A place that is at one word is not at another. -/
theorem isWord_of_isWord {word : String} (h : place.token.isWord word) (other : String)
    (hne : word ≠ other) : place.token.isWord other = false := by
  rw [Token.isWord, Bool.and_eq_true, beq_iff_eq, beq_iff_eq] at h
  simp [Token.isWord, h, hne]

theorem kind_of_isWord {word : String} (h : place.token.isWord word) : place.token.kind = .word := by
  rw [Token.isWord, Bool.and_eq_true, beq_iff_eq] at h
  exact h.1

theorem text_of_isWord {word : String} (h : place.token.isWord word) : place.token.text = word := by
  rw [Token.isWord, Bool.and_eq_true, beq_iff_eq, beq_iff_eq] at h
  exact h.2

theorem declarationStarts_of_declare (hdeclare : place.token.isWord "declare")
    (h : Opens place.next) : declarationStarts place := by
  have hnext : place.next.token.isAnyWord declarableWords := by
    have hkeyword := h.keyword
    simp only [Token.isAnyWord, Bool.and_eq_true, List.contains_iff_mem] at hkeyword ⊢
    have hsub : declarationKeywords ⊆ declarableWords := by decide
    exact ⟨hkeyword.1, hsub hkeyword.2⟩
  simp [declarationStarts, kind_of_isWord hdeclare, text_of_isWord hdeclare, hnext, h.goesOn]

theorem statement_of_declare (hdeclare : place.token.isWord "declare") (h : Opens place.next)
    (hread : ownDeclaration g false place.next = .ok found rest) :
    statement g place = .ok found rest := by
  have hword := kind_of_isWord hdeclare
  have hdeclared := declared_of_opens g hdeclare h hread
  rw [statement, bind_apply, look_of_word hword]
  simp only [hword, beq_self_eq_true, if_true, wordStatement]
  rw [isMark_of_word h.kind, text_of_isWord hdeclare]
  change declarationOr g sequenceGoesOn (expressionStatement g) place = _
  rw [declarationOr, bind_apply, look_of_word hword]
  dsimp only
  rw [if_pos (declarationStarts_of_declare hdeclare h), if_pos hdeclare, bind_apply, hdeclared]
  simp [bind_apply, Reader.place, pure_apply, Token.isAnyWord, text_of_isWord hdeclare, valuedWords]

theorem declaration_of_opens (h : Opens place) :
    declaration g place = ownDeclaration g false place := by
  rw [declaration, bind_apply, look_of_word h.kind]
  dsimp only
  rw [isMark_of_word h.kind, h.isWord "declare" (by decide), h.kind]
  rfl

theorem exportTail_of_opens (h : Opens place) :
    exportTail g false place = ownDeclaration g false place := by
  have htype : (place.token.isWord "type" && place.next.withMarkup.token.isMark "\x7b") = false := by
    cases hword : place.token.isWord "type" with
    | false => rfl
    | true =>
      rw [Token.isWord, Bool.and_eq_true, beq_iff_eq, beq_iff_eq] at hword
      rw [Bool.true_and, h.next_isMark (by simp [Token.isAnyWord, hword])]
  rw [exportTail, bind_apply, look_of_word h.kind]
  dsimp only
  rw [isMark_of_word h.kind, isMark_of_word h.kind, isMark_of_word h.kind, htype,
    h.isWord "default" (by decide), h.isWord "as" (by decide)]
  exact declaration_of_opens g h

theorem exportTail_of_declare (hdeclare : place.token.isWord "declare") :
    exportTail g false place = declared g place := by
  have hword := kind_of_isWord hdeclare
  rw [exportTail, bind_apply, look_of_word hword]
  dsimp only
  rw [isMark_of_word hword, isMark_of_word hword, isMark_of_word hword,
    isWord_of_isWord hdeclare "default" (by decide), isWord_of_isWord hdeclare "type" (by decide),
    isWord_of_isWord hdeclare "as" (by decide)]
  change declaration g place = _
  rw [declaration, bind_apply, look_of_word hword]
  dsimp only
  rw [if_pos hdeclare]

theorem decorators_of_word (hword : place.token.kind = .word) :
    decorators g place = .ok false place := by
  rw [decorators, loop, loopUpTo]
  simp only [bind_apply, nextIs, peek, look_of_word hword, pure_apply, isMark_of_word hword,
    Bool.false_eq_true, if_false]

theorem statement_of_export (hexport : place.token.isWord "export")
    (hnext : place.next.token.isWordBut ["in", "instanceof", "satisfies"])
    (hgoesOn : place.next.mayEnd .value = false)
    (hread : exportTail g false place.next = .ok found rest) :
    statement g place = .ok found rest := by
  have hword := kind_of_isWord hexport
  have hstarts : exportStarts place.next := by
    simp [exportStarts, hgoesOn, hnext]
  rw [Token.isWordBut, Bool.and_eq_true, beq_iff_eq] at hnext
  rw [statement, bind_apply, look_of_word hword]
  simp only [hword, beq_self_eq_true, if_true, wordStatement]
  rw [isMark_of_word hnext.1, isMark_of_word hnext.1, text_of_isWord hexport, hstarts]
  change exportStatement g place = _
  rw [exportStatement, bind_apply, decorators_of_word g hword]
  dsimp only
  rw [bind_apply, keyword_of_word hword, text_of_isWord hexport]
  exact hread

/-! ## After a blank -/

/-- A word does not end what stands before a blank. -/
theorem mayEnd_after_blank (hword : Lexer.isWord place.token.text.toList) (form : Form) :
    (place.withLeading [.blank " "]).mayEnd form = false := by
  have hchars : (place.withLeading [.blank " "]).chars = place.token.text.toList ++ place.after := rfl
  have hends : Cursor.endsBefore form (" ".toList ++ (place.withLeading [.blank " "]).chars) = false := by
    rw [hchars]
    cases htext : place.token.text.toList with
    | nil => simp [Lexer.isWord, htext] at hword
    | cons c rest =>
      simp only [Lexer.isWord, htext, List.head?_cons, Option.any_some, Bool.and_eq_true] at hword
      exact (Cursor.endsBefore_space form _).trans (Cursor.endsBefore_word hword.1 form _)
  have hend : (place.withLeading [.blank " "]).end? form =
      if Cursor.endsBefore form (" ".toList ++ (place.withLeading [.blank " "]).chars) then some 0
      else none := rfl
  rw [Cursor.mayEnd, hend, hends]
  rfl

theorem opens_after_blank (hkeyword : place.token.isAnyWord declarationKeywords)
    (hstarts : declarationStarts place) : Opens (place.withLeading [.blank " "]) where
  keyword := hkeyword
  starts := hstarts
  goesOn := mayEnd_after_blank (isWord_of_keyword_text hkeyword) .value
  unmarked := rfl

end Grammar

/-! ## Texts -/

section Texts

variable {text : String} {found : Statement}

theorem StartsDeclaration.kind (h : StartsDeclaration text) :
    (Cursor.ofText text).token.kind = .word :=
  kind_of_keyword h.keyword

/-- The text is its first word and the rest. -/
theorem StartsDeclaration.chars (h : StartsDeclaration text) :
    (Cursor.ofText text).chars = text.toList := by
  have htrivia : (Lexer.trivia text.length text.toList).1 = [] := h.leading
  have hchars := Lexer.chars_trivia text.length text.toList
  rw [htrivia] at hchars
  rw [Cursor.ofText, Cursor.chars_ofChars]
  exact hchars

theorem StartsDeclaration.startsToken (h : StartsDeclaration text) :
    Lexer.startsToken text.toList := by
  rw [← h.chars]
  exact Lexer.startsToken_word (isWord_of_keyword_text h.keyword)

/-- The declaration is read again after a blank, where no value could stand, with as much nesting or
more. -/
theorem StartsDeclaration.read_after_blank (h : StartsDeclaration text) (hdeclares : found.declares)
    (hread : parse text = .ok ⟨[found]⟩) :
    Opens ((Cursor.ofText text).withLeading [.blank " "]) ∧
      ∀ more, 2 * text.length + 3 ≤ more → ∃ last, IsLast last ∧
        ownDeclaration (productions more) false ((Cursor.ofText text).withLeading [.blank " "]) =
          .ok found last := by
  have hunmarked : Trivia.markupCount (Cursor.ofText text).token.leading = 0 := by
    rw [h.leading]
    rfl
  obtain ⟨middle, hstatement, hlast⟩ :=
    (fileStatements_eq_singleton_iff _ h.kind hunmarked rfl).mp (parse_eq_ok_iff.mp hread).2
  obtain ⟨hstarts, hown⟩ := statement_of_declaration _ h.keyword hdeclares hstatement
  refine ⟨opens_after_blank h.keyword hstarts, fun more hmore => ?_⟩
  have hforms : (productions (2 * text.length + 3)).Agree text.toList (productions more) :=
    productions_agree hmore
  obtain hout | ⟨hsame, -⟩ :=
    ownDeclaration_agree hforms true (Cursor.ofText text) (Cursor.in_ofText text)
  · rw [hown] at hout
    cases hout
  · obtain ⟨before, hunshared⟩ :=
      ownDeclaration_unshared _ h.keyword (hsame.trans hown) hlast.atEnd
    exact ⟨{ middle with before }, ⟨hlast.atEnd, hlast.unmarked⟩,
      (ownDeclaration_blind _ h.keyword false).trans hunshared⟩

/-- Words in front of the declaration change nothing when the statement that they start is the
declaration. -/
theorem StartsDeclaration.parse_after (h : StartsDeclaration text) (hdeclares : found.declares)
    (hread : parse text = .ok ⟨[found]⟩) {words first : String}
    (hfirst : (Cursor.ofText (words ++ text)).token = ⟨[], .word, first⟩)
    (hstatement : ∀ g last, Opens ((Cursor.ofText text).withLeading [.blank " "]) →
      ownDeclaration g false ((Cursor.ofText text).withLeading [.blank " "]) = .ok found last →
      statement g (Cursor.ofText (words ++ text)) = .ok found last) :
    parse (words ++ text) = .ok ⟨[found]⟩ := by
  obtain ⟨hopens, hagain⟩ := h.read_after_blank hdeclares hread
  obtain ⟨last, hlast, hown⟩ := hagain (2 * (words ++ text).length + 3) (by
    rw [String.length_append]
    omega)
  have hword : (Cursor.ofText (words ++ text)).token.kind = .word := by rw [hfirst]
  have hunmarked : Trivia.markupCount (Cursor.ofText (words ++ text)).token.leading = 0 := by
    rw [hfirst]
    rfl
  exact parse_eq_ok_iff.mpr ⟨(parse_eq_ok_iff.mp hread).1,
    (fileStatements_eq_singleton_iff _ hword hunmarked rfl).mpr
      ⟨last, hstatement _ last hopens hown, hlast⟩⟩

theorem StartsDeclaration.parse_declare (h : StartsDeclaration text) (hdeclares : found.declares)
    (hread : parse text = .ok ⟨[found]⟩) : parse ("declare " ++ text) = .ok ⟨[found]⟩ := by
  obtain ⟨hfirst, hafter⟩ := Cursor.ofText_word (show "declare " = "declare" ++ " " from rfl)
    (by decide) h.startsToken
  refine h.parse_after hdeclares hread hfirst fun g last hopens hown => ?_
  rw [← hafter] at hopens hown
  exact statement_of_declare g (by rw [hfirst]; rfl) hopens hown

theorem StartsDeclaration.parse_export (h : StartsDeclaration text) (hdeclares : found.declares)
    (hread : parse text = .ok ⟨[found]⟩) : parse ("export " ++ text) = .ok ⟨[found]⟩ := by
  obtain ⟨hfirst, hafter⟩ := Cursor.ofText_word (show "export " = "export" ++ " " from rfl)
    (by decide) h.startsToken
  refine h.parse_after hdeclares hread hfirst fun g last hopens hown => ?_
  rw [← hafter] at hopens hown
  refine statement_of_export g (by rw [hfirst]; rfl) hopens.isWordBut hopens.goesOn ?_
  rw [exportTail_of_opens g hopens, hown]

theorem StartsDeclaration.parse_export_declare (h : StartsDeclaration text)
    (hdeclares : found.declares) (hread : parse text = .ok ⟨[found]⟩) :
    parse ("export declare " ++ text) = .ok ⟨[found]⟩ := by
  have hboth : "export declare " ++ text = "export " ++ ("declare " ++ text) := by
    rw [← String.append_assoc]
    rfl
  have hstarts : Lexer.startsToken ("declare " ++ text).toList := by
    rw [show "declare " = "declare" ++ " " from rfl, String.append_assoc, String.toList_append]
    exact Lexer.startsToken_word (by decide)
  obtain ⟨hsecond, hafter⟩ := Cursor.ofText_word (show "declare " = "declare" ++ " " from rfl)
    (by decide) h.startsToken
  obtain ⟨hfirst, hnext⟩ := Cursor.ofText_word (show "export " = "export" ++ " " from rfl)
    (by decide) hstarts
  rw [← hboth] at hfirst hnext
  refine h.parse_after hdeclares hread hfirst fun g last hopens hown => ?_
  rw [← hafter] at hopens hown
  have hdeclare : (Cursor.ofText ("export declare " ++ text)).next.token.isWord "declare" := by
    rw [hnext, Token.isWord, Cursor.withLeading_kind, Cursor.withLeading_text, hsecond]
    rfl
  refine statement_of_export g (by rw [hfirst]; rfl) ?_ ?_ ?_
  · simp [Token.isWordBut, kind_of_isWord hdeclare, text_of_isWord hdeclare]
  · rw [hnext]
    exact mayEnd_after_blank (by rw [hsecond]; decide) .value
  · have hsame : (Cursor.ofText ("export declare " ++ text)).next.next =
        (Cursor.ofText ("declare " ++ text)).next := by
      rw [hnext, Cursor.withLeading_next]
    rw [← hsame] at hopens hown
    rw [exportTail_of_declare g hdeclare]
    exact declared_of_opens g hdeclare hopens hown

end Texts

/-! ## The laws -/

/-- A text that is read as one declaration is read as the same one after `declare`, after `export`
and after both. -/
theorem a_declaration_is_the_same_after_declare_and_export (text : String) (found : Statement)
    (h : StartsDeclaration text) (hdeclares : found.declares)
    (hread : parse text = .ok ⟨[found]⟩) :
    ∀ words ∈ ["declare ", "export ", "export declare "],
      parse (words ++ text) = .ok ⟨[found]⟩ := by
  intro words hwords
  simp only [List.mem_cons, List.not_mem_nil, or_false] at hwords
  rcases hwords with rfl | rfl | rfl
  · exact h.parse_declare hdeclares hread
  · exact h.parse_export hdeclares hread
  · exact h.parse_export_declare hdeclares hread

theorem a_namespace_is_the_same_after_declare_and_export :
    StartsDeclaration "namespace A.B \x7b var x \x7d" ∧
      ∀ words ∈ ["declare ", "export ", "export declare "],
        parse (words ++ "namespace A.B \x7b var x \x7d") =
          .ok ⟨[.module "A.B" false [.variableDecls [⟨"x", .absent, false⟩]]]⟩ := by
  have hstarts : StartsDeclaration "namespace A.B \x7b var x \x7d" := ⟨by decide, by decide⟩
  refine ⟨hstarts, a_declaration_is_the_same_after_declare_and_export _ _ hstarts rfl ?_⟩
  set_option maxRecDepth 4000 in rfl

end Facade
