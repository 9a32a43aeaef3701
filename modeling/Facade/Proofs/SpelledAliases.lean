-- Files of one type alias, written token by token: the alias is read with its name and with what is
-- read from the tokens of its type, whatever blanks and comments stand between the tokens.
import Facade.Proofs.DeclarationPrefixes
import Facade.Proofs.SpelledFunctions
import Facade.Proofs.WrittenTokens

namespace Facade

open Reader Grammar

variable {g : Productions} {place : Cursor} {read : TypeExpr}

/-! ## Aliases -/

/-- The tokens of an alias. -/
structure AliasTokens where
  word : Token
  name : Token
  equals : Token
  value : List Token
  semicolon : Token

/-- The tokens, one after the other. -/
def AliasTokens.all (tokens : AliasTokens) : List Token :=
  tokens.word :: tokens.name :: tokens.equals :: (tokens.value ++ [tokens.semicolon])

/-- The tokens are those of an alias. -/
structure AliasTokens.Fit (tokens : AliasTokens) : Prop where
  word : tokens.word.isWord "type"
  name : tokens.name.isWordBut operatorWords
  equals : tokens.equals.isMark "="
  semicolon : tokens.semicolon.isMark ";"

theorem semicolon_gets {token : Token} {more : List Token} (h : place.Shows (token :: more))
    (hmark : token.isMark ";") (form : Form) : Gets (semicolon form) place () more := by
  have hfollow : Gets (follow (·.isMark ";")) place true more := by
    refine ⟨place.next, ?_, h.2⟩
    rw [follow_apply, h.1.atEnd_eq, h.1.token_eq, hmark]
    rfl
  exact gets_bind hfollow fun stop hstop => gets_pure hstop ()

section Statement

variable {tokens : AliasTokens} (hfit : tokens.Fit) (h : place.Shows tokens.all)

include hfit h

theorem aliasStatement_gets (hreads : g.ReadsType tokens.value read) :
    Gets (aliasStatement g) place (.aliasDecl ⟨tokens.name.text, [], read⟩) [] := by
  have hname : tokens.name.kind = .word := by
    have hname := hfit.name
    simp only [Token.isWordBut, Bool.and_eq_true, beq_iff_eq] at hname
    exact hname.1
  obtain ⟨shape, shared, -, htype⟩ := hreads .plain (.line .type)
  have hstops : comesFirst Binding.whole.stops [tokens.semicolon] :=
    Token.isAnyMark_of_isMark hfit.semicolon (by decide)
  have hless : tokens.equals.isMark "<" = false := Token.isMark_of_isMark hfit.equals (by decide)
  refine gets_bind (keyword_gets h hfit.word) fun here hhere => ?_
  refine gets_bind (word_gets hhere hname) fun named hnamed => ?_
  refine gets_bind (gets_bind (accept_misses hnamed hless) fun stop hstop => gets_pure hstop [])
    fun bare hbare => ?_
  refine gets_bind (mark_gets hbare hfit.equals) fun start hstart => ?_
  refine gets_bind (htype hstart hstops) fun stop hstop => ?_
  exact gets_bind (semicolon_gets hstop hfit.semicolon .type) fun last hlast => gets_pure hlast _

theorem declarationStarts_of_alias : declarationStarts place := by
  rw [declarationStarts, h.1.token_eq, Token.kind_of_isWord hfit.word, Token.text_of_isWord hfit.word,
    h.2.1.token_eq, h.2.1.goesOn, hfit.name]
  rfl

theorem statement_of_alias (hreads : g.ReadsType tokens.value read) :
    Gets (statement g) place (.aliasDecl ⟨tokens.name.text, [], read⟩) [] := by
  have hkind := Token.kind_of_isWord hfit.word
  have htext := Token.text_of_isWord hfit.word
  have hkeyword : place.token.isAnyWord declarationKeywords := by
    rw [h.1.token_eq, Token.isAnyWord, hkind, htext]
    decide
  have hcolon : place.next.token.isMark ":" = false := by
    have hname := hfit.name
    rw [h.2.1.token_eq]
    simp only [Token.isWordBut, Bool.and_eq_true, beq_iff_eq] at hname
    exact Token.isMark_of_kind (by simp [hname.1])
  have hown (here : Cursor) (hhere : here.Shows tokens.all) :
      Gets (ownDeclaration g true) here (.aliasDecl ⟨tokens.name.text, [], read⟩) [] := by
    refine gets_bind (look_gets hhere) fun middle hmiddle => ?_
    dsimp only
    rw [hhere.1.token_eq, htext]
    exact aliasStatement_gets hfit hmiddle hreads
  have hplace : statement g place = declarationOr g sequenceGoesOn (expressionStatement g) place := by
    rw [statement_of_keyword g hkeyword, hcolon]
    rfl
  refine gets_of_eq hplace (gets_bind (look_gets h) fun middle hmiddle => ?_)
  rw [if_pos (declarationStarts_of_alias hfit h), h.1.token_eq]
  have hdeclare : tokens.word.isWord "declare" = false := by
    rw [Token.isWord, hkind, htext]
    rfl
  have hvalued : tokens.word.isAnyWord valuedWords = false := by
    rw [Token.isAnyWord, hkind, htext]
    rfl
  rw [hdeclare, hvalued]
  simp only [Bool.false_eq_true, if_false, Bool.false_and]
  refine gets_bind (hown middle hmiddle) fun stop hstop => ?_
  exact gets_bind (place_gets hstop) fun last hlast => gets_pure hlast _

end Statement

/-! ## Files -/

/-- A file of one alias that is written token by token. -/
theorem parse_alias {text : String} {tokens : AliasTokens} {trailing : List Trivia}
    {type read : TypeExpr} (hfit : tokens.Fit) (hspells : Spells .whole tokens.value type read)
    (htext : text.toList = writtenTokens tokens.all ++ Trivia.chars trailing)
    (hwhole : AreWhole tokens.all (Trivia.chars trailing)) (hgap : Lexer.isGap trailing) :
    parse text = .ok ⟨[.aliasDecl ⟨tokens.name.text, [], read⟩]⟩ := by
  have hshows := Cursor.shows_ofText htext hgap hwhole
  obtain ⟨depth, hnesting, hdepth⟩ : ∃ depth, nestingFor text.length = depth + 2 ∧
      tokens.value.length ≤ depth := by
    have hlength := hshows.length_le
    have hleft : (Cursor.ofText text).left ≤ text.length := Nat.sub_le _ _
    simp only [AliasTokens.all, List.length_cons, List.length_append] at hlength
    exact ⟨2 * text.length + 2, rfl, by omega⟩
  have hread : ReadsWhole (productions depth) tokens.value read := hspells.reads hdepth
  have hkind : (Cursor.ofText text).token.kind = .word := by
    rw [hshows.1.token_eq, Token.kind_of_isWord hfit.word]
  have hplain : Trivia.markupCount (Cursor.ofText text).token.leading = 0 := by
    rw [hshows.1.token_eq, Lexer.markupCount_of_isGap hshows.1.gap]
  obtain ⟨stop, hstatement, hend, htrailing⟩ : Gets (statement (productions (depth + 1)))
      (Cursor.ofText text) (.aliasDecl ⟨tokens.name.text, [], read⟩) [] :=
    statement_of_alias hfit hshows hread
  have hknown : statementsHaveUnknown [.aliasDecl ⟨tokens.name.text, [], read⟩] = false := by
    rw [statementsHaveUnknown, Statement.hasUnknown, hspells.hasUnknown_eq_false]
    rfl
  rw [parse_eq_ok_iff, hnesting]
  refine ⟨hknown, ?_⟩
  exact (fileStatements_eq_singleton_iff (productions (depth + 2)) hkind hplain rfl).mpr
    ⟨stop, hstatement, hend, Lexer.markupCount_of_isGap htrailing⟩

end Facade
