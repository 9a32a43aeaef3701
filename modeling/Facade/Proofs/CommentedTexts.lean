-- Comments between tokens: wherever no type or part of a name is to follow, a comment is passed
-- over, and the text has the facade that it has without the comment.
import Facade.Proofs.TwinStatements
import Facade.Proofs.AlikeFacades
import Facade.Proofs.Gaps
import Facade.Proofs.TypeSpelling
import Facade.Conversion

namespace Facade

open Grammar

/-- Texts that differ in one spot are read as alike statements. -/
theorem parse_twin {s : Spot} {front : List Char} (h : s.Front front) {text twin : String}
    (htext : text.toList = front ++ s.rest) (htwin : twin.toList = front ++ s.noted)
    {file : DeclarationFile} (hread : parse text = .ok file) :
    ∃ statements, parse twin = .ok ⟨statements⟩ ∧
      Statement.AllAlike file.statements statements := by
  obtain ⟨hunknown, rest, hstatements⟩ := parse_eq_ok_iff.mp hread
  have hlength : text.length ≤ twin.length := by
    rw [← String.length_toList, ← String.length_toList, htext, htwin, List.length_append,
      List.length_append]
    exact Nat.add_le_add_left (Nat.le_of_lt s.length_lt) _
  have hnesting : nestingFor text.length ≤ nestingFor twin.length := by
    unfold nestingFor
    omega
  have := productions_alike s hnesting
  have hplaces : Twin s (.ofText text) (.ofText twin) := by
    rw [Cursor.ofText, Cursor.ofText, ← String.length_toList, ← String.length_toList, htext, htwin]
    exact (Twin.of_front h).1
  have hreply : Reply.Alike s Statement.AllAlike
      (fileStatements (productions (nestingFor text.length)) (.ofText text))
      (fileStatements (productions (nestingFor twin.length)) (.ofText twin)) :=
        fileStatements_alike.alike hplaces
  rw [hstatements] at hreply
  generalize htwins : fileStatements (productions (nestingFor twin.length)) (.ofText twin) =
    reply at hreply
  cases hreply with
  | ok halike _ =>
    exact ⟨_, parse_eq_ok_iff.mpr ⟨halike.haveUnknown_eq.trans hunknown, _, htwins⟩, halike⟩

namespace Gap

variable {text : String} (gap : Gap text) {note : String}

/-- A text is read with a comment in a gap as it is read without. -/
theorem parse_noted (hnote : ¬['*', '/'] <:+: note.toList) (hnull : !note.toList.any Cursor.isNull)
    {file : DeclarationFile} (hread : parse text = .ok file) :
    ∃ statements, parse (gap.noted note) = .ok ⟨statements⟩ ∧
      Statement.AllAlike file.statements statements := by
  obtain ⟨s, front, hfront, htext, htwin⟩ := gap.exists_twins hnote hnull
  exact parse_twin hfront htext htwin hread

end Gap

/-- However the tokens of an alias are set apart by blanks and comments, the facade is that of the
alias in which only the types with a comment right in front of them, after a mark, are replaced. -/
theorem convert_alias {text package : String} {tokens : AliasTokens} {trailing : List Trivia}
    {type read : TypeExpr} (hfit : tokens.Fit) (hspells : Spells .whole tokens.value type read)
    (htext : text.toList = writtenTokens tokens.all ++ Trivia.chars trailing)
    (hwhole : AreWhole tokens.all (Trivia.chars trailing)) (hgap : Lexer.isGap trailing) :
    convert text package = convertTree ⟨[.aliasDecl ⟨tokens.name.text, [], read⟩]⟩ package := by
  rw [convert, parseFor, parse_alias hfit hspells htext hwhole hgap, convertTree]
  split <;> rfl

/-- A comment in a gap of a text changes nothing. In an alias, a comment that stands where a type is
to follow takes the place of the type. -/
theorem a_comment_is_passed_over_or_takes_the_place_of_a_type (package : String) :
    (∀ {text note : String} {file : DeclarationFile} (gap : Gap text), parse text = .ok file →
      ¬['*', '/'] <:+: note.toList → !note.toList.any Cursor.isNull →
      (∃ noted, parse (gap.noted note) = .ok noted) ∧
        (haveNamedBases file.statements →
          convert (gap.noted note) package = convert text package)) ∧
    ∀ {text : String} {tokens : AliasTokens} {trailing : List Trivia} {type read : TypeExpr},
      tokens.Fit →
      Spells .whole tokens.value type read →
      text.toList = writtenTokens tokens.all ++ Trivia.chars trailing →
      AreWhole tokens.all (Trivia.chars trailing) → Lexer.isGap trailing →
      convert text package = convertTree ⟨[.aliasDecl ⟨tokens.name.text, [], read⟩]⟩ package := by
  constructor
  · intro text note file gap hread hnote hnull
    obtain ⟨statements, hnoted, halike⟩ := gap.parse_noted hnote hnull hread
    refine ⟨⟨_, hnoted⟩, fun hnamed => ?_⟩
    rw [convert, convert, parseFor, parseFor, hnoted, hread]
    split
    · rfl
    · exact congrArg Except.ok (DeclarationFile.facade_eq_of_alike halike hnamed package)
  · exact convert_alias

/-- A class with a method that gives one of two types. -/
def boxText : String := "declare class Box extends Shape \x7b size(x: A): A | B; \x7d"

/-- The gap in front of the last type. -/
def boxGap : Gap boxText where
  count := 14
  before := [.blank " "]
  after := []
  chars_eq := by decide +kernel
  clean_before := rfl
  clean_after := rfl
  plain := by decide +kernel
  admits := by decide +kernel
  noExport := by decide +kernel
  lone := by decide +kernel

/-- The tokens of `A | keyof B` with a comment after each mark and word. -/
def commentedKeys : List Spelled :=
  [⟨plainToken true .mark "|", [plainToken true .word "A"], .ref "A" [], .ref "A" []⟩,
    ⟨plainToken true .mark "|",
      [⟨[.blank " ", .comment "/* a */", .blank " "], .word, "keyof"⟩,
        ⟨[.blank " ", .comment "/* b */", .blank " "], .word, "B"⟩],
      .keyOf (.ref "B" []), .keyOf (.unsupported "comment")⟩]

theorem spells_commentedKeys : Spells .whole (separated commentedKeys)
    (.union [.ref "A" [], .keyOf (.ref "B" [])])
    (.union [.ref "A" [], .keyOf (.unsupported "comment")]) := by
  refine .union (by simp; decide) ?_
  simp only [List.mem_cons, List.not_mem_nil, or_false, forall_eq_or_imp, forall_eq]
  exact ⟨.conjunction (.operand (.name (by decide))),
    .conjunction (.keyOf (by decide) (.operand (.name (by decide))))⟩

/-- A comment after `|` changes nothing, and one after `keyof` hides the name. -/
theorem a_comment_after_a_bar_is_passed_over_and_one_after_keyof_is_not :
    ((∃ noted, parse "declare class Box extends Shape \x7b size(x: A): A |  /* c */ B; \x7d" =
      .ok noted) ∧
      convert "declare class Box extends Shape \x7b size(x: A): A |  /* c */ B; \x7d" "lib" =
        convert boxText "lib") ∧
    convert "type X = A | /* a */ keyof /* b */ B;" "lib" =
      convertTree ⟨[.aliasDecl ⟨"X", [], .union [.ref "A" [], .keyOf (.unsupported "comment")]⟩]⟩
        "lib" := by
  obtain ⟨hskips, hhides⟩ := a_comment_is_passed_over_or_takes_the_place_of_a_type "lib"
  constructor
  · have hread : (parse boxText).toOption.any (haveNamedBases ·.statements) := by decide +kernel
    obtain ⟨file, hfile, hnamed⟩ :
        ∃ file, parse boxText = .ok file ∧ haveNamedBases file.statements := by
      cases hfile : parse boxText with
      | error _ =>
        rw [hfile] at hread
        cases hread
      | ok file =>
        rw [hfile] at hread
        exact ⟨file, rfl, hread⟩
    have hnoted : "declare class Box extends Shape \x7b size(x: A): A |  /* c */ B; \x7d" =
        boxGap.noted " c " := by
      decide +kernel
    obtain ⟨haccepted, hsame⟩ := @hskips _ " c " _ boxGap hfile (by decide) (by decide)
    rw [hnoted]
    exact ⟨haccepted, hsame hnamed⟩
  · have htext : "type X = A | /* a */ keyof /* b */ B;".toList =
        writtenTokens (plainAlias (separated commentedKeys)).all ++ Trivia.chars [] := by
      decide +kernel
    have hwhole : AreWhole (plainAlias (separated commentedKeys)).all (Trivia.chars []) := by
      decide +kernel
    have hname : (plainAlias (separated commentedKeys)).name.text = "X" := rfl
    rw [← hname]
    exact hhides (plainAlias_fit _) spells_commentedKeys htext hwhole rfl

end Facade
