-- Writing types and reading them back: a type of the plain forms, written as an alias of it, is read
-- as that type.
import Facade.Proofs.SpelledAliases

namespace Facade

open Grammar

/-! ## How types are written -/

mutual

/-- A type as it is written. Only the plain forms have a spelling. -/
def TypeExpr.spelling : TypeExpr → String
  | .keyword word => word
  | .ref name [] => name
  | .ref name (first :: rest) =>
    name ++ "<" ++ ", ".intercalate (first.spelling :: spellings rest) ++ ">"
  | .array element => element.spelling ++ "[]"
  | .paren inner => "(" ++ inner.spelling ++ ")"
  | .keyOf operand => "keyof " ++ operand.spelling
  | .inter members => " & ".intercalate (spellings members)
  | .union members => " | ".intercalate (spellings members)
  | .func params ret => "(" ++ ", ".intercalate (paramSpellings params) ++ ") => " ++ ret.spelling
  | _ => ""

/-- Types as they are written. -/
def spellings : List TypeExpr → List String
  | [] => []
  | first :: rest => first.spelling :: spellings rest

/-- Parameters as they are written. -/
def paramSpellings : List Param → List String
  | [] => []
  | ⟨name, type, _, _⟩ :: rest => (name ++ ": " ++ type.spelling) :: paramSpellings rest

end

/-- The text names a type or a parameter. -/
def isPlainName (name : String) : Bool :=
  Lexer.isWord name.toList && !keywords.contains name

/-- The types of the plain forms, by how tightly their parts hold together. -/
inductive TypeExpr.IsPlain : Binding → TypeExpr → Prop
  | keyword {word : String} (hword : word ∈ predefinedWords) : IsPlain .primary (.keyword word)
  | ref {name : String} {args : List TypeExpr} (hname : isPlainName name)
      (hargs : ∀ arg ∈ args, IsPlain .whole arg) : IsPlain .primary (.ref name args)
  | array {element : TypeExpr} (helement : IsPlain .primary element) :
      IsPlain .primary (.array element)
  | paren {inner : TypeExpr} (hinner : IsPlain .whole inner) : IsPlain .primary (.paren inner)
  | operand {type : TypeExpr} (h : IsPlain .primary type) : IsPlain .operand type
  | keyOf {operand : TypeExpr} (hoperand : IsPlain .operand operand) :
      IsPlain .operand (.keyOf operand)
  | conjunction {type : TypeExpr} (h : IsPlain .operand type) : IsPlain .conjunction type
  | inter {members : List TypeExpr} (hseveral : 2 ≤ members.length)
      (hmembers : ∀ member ∈ members, IsPlain .operand member) : IsPlain .conjunction (.inter members)
  | whole {type : TypeExpr} (h : IsPlain .conjunction type) : IsPlain .whole type
  | union {members : List TypeExpr} (hseveral : 2 ≤ members.length)
      (hmembers : ∀ member ∈ members, IsPlain .conjunction member) : IsPlain .whole (.union members)
  | func {params : List Param} {ret : TypeExpr} (hnames : ∀ param ∈ params, isPlainName param.name)
      (hrequired : ∀ param ∈ params, param.optional = false ∧ param.rest = false)
      (htypes : ∀ param ∈ params, IsPlain .whole param.type) (hret : IsPlain .whole ret) :
      IsPlain .whole (.func params ret)

/-! ## Tokens of a spelling -/

/-- The tokens are written like this, whatever follows that no word goes on with. -/
structure WrittenAs (tokens : List Token) (chars : List Char) : Prop where
  written : writtenTokens tokens = chars
  whole : ∀ rest, Lexer.endsWord rest → AreWhole tokens rest

/-- A token of this text, with a blank in front of it or without. -/
def plainToken (blank : Bool) (kind : TokenKind) (text : String) : Token :=
  ⟨if blank then [.blank " "] else [], kind, text⟩

/-- A blank, or nothing. -/
def blankChars (blank : Bool) : List Char := if blank then [' '] else []

theorem isGap_plainToken (blank : Bool) (kind : TokenKind) (text : String) :
    Lexer.isGap (plainToken blank kind text).leading := by
  have hblank : Lexer.isGap [.blank " "] := by decide
  cases blank
  · rfl
  · exact hblank

theorem chars_plainToken (blank : Bool) (kind : TokenKind) (text : String) :
    (plainToken blank kind text).chars = blankChars blank ++ text.toList := by
  cases blank <;> rfl

theorem remark?_plainToken (blank : Bool) (kind : TokenKind) (text : String) :
    (plainToken blank kind text).remark? = none := by
  cases blank <;> rfl

theorem isMark_plainToken (blank : Bool) (mark : String) :
    (plainToken blank .mark mark).isMark mark := by
  simp [plainToken, Token.isMark]

/-- The marks that stay whole whatever follows them. -/
def firmMarks : List String := ["(", ")", "[", "]", ">", ",", ":", ";", "|", "&", "=>"]

theorem isWholeBefore_of_firm {mark : String} (hmark : mark ∈ firmMarks) (blank : Bool)
    (rest : List Char) : (plainToken blank .mark mark).isWholeBefore rest := by
  simp only [firmMarks, List.mem_cons, List.not_mem_nil, or_false] at hmark
  rcases hmark with rfl | rfl | rfl | rfl | rfl | rfl | rfl | rfl | rfl | rfl | rfl <;>
    simp [Token.isWholeBefore, plainToken, Lexer.loneMarks]

namespace WrittenAs

variable {tokens more : List Token} {chars others : List Char}

theorem nil : WrittenAs [] [] := ⟨rfl, fun _ _ => trivial⟩

theorem cons {blank : Bool} {kind : TokenKind} {text : String} (h : WrittenAs tokens chars)
    (hwhole : ∀ rest, Lexer.endsWord rest → (plainToken blank kind text).isWholeBefore (chars ++ rest)) :
    WrittenAs (plainToken blank kind text :: tokens) (blankChars blank ++ text.toList ++ chars) where
  written := by rw [writtenTokens_cons, chars_plainToken, h.written]
  whole rest hrest := by
    refine ⟨isGap_plainToken blank kind text, ?_, h.whole rest hrest⟩
    rw [h.written]
    exact hwhole rest hrest

theorem mark {mark : String} (h : WrittenAs tokens chars) (hmark : mark ∈ firmMarks) (blank : Bool) :
    WrittenAs (plainToken blank .mark mark :: tokens) (blankChars blank ++ mark.toList ++ chars) :=
  h.cons fun rest _ => isWholeBefore_of_firm hmark blank (chars ++ rest)

theorem word {word : String} (h : WrittenAs tokens chars) (hword : Lexer.isWord word.toList)
    (hends : ∀ rest, Lexer.endsWord rest → Lexer.endsWord (chars ++ rest)) (blank : Bool) :
    WrittenAs (plainToken blank .word word :: tokens) (blankChars blank ++ word.toList ++ chars) := by
  refine h.cons fun rest hrest => ?_
  rw [Token.isWholeBefore]
  simp [plainToken, hword, hends rest hrest]

theorem append (h : WrittenAs tokens chars) (hmore : WrittenAs more others)
    (hends : ∀ rest, Lexer.endsWord rest → Lexer.endsWord (others ++ rest)) :
    WrittenAs (tokens ++ more) (chars ++ others) where
  written := by rw [writtenTokens_append, h.written, hmore.written]
  whole rest hrest := by
    rw [areWhole_append, hmore.written]
    exact ⟨h.whole _ (hends rest hrest), hmore.whole rest hrest⟩

/-- No text of tokens starts with an exclamation mark. -/
theorem head?_ne (h : WrittenAs tokens chars) (hsome : tokens ≠ []) (rest : List Char) :
    (chars ++ rest).head? ≠ some '!' := by
  intro hhead
  obtain ⟨token, more, rfl⟩ := List.exists_cons_of_ne_nil hsome
  obtain ⟨hgap, hwhole, -⟩ := h.whole [] rfl
  rw [← h.written, writtenTokens_cons, Token.chars, List.append_assoc, List.append_assoc] at hhead
  have hstarts := Token.startsWhole_of_isWholeBefore hwhole
  cases htext : token.text.toList with
  | nil => exact Token.text_ne_of_isWholeBefore hwhole (String.toList_eq_nil_iff.mp htext)
  | cons c text =>
    rw [htext] at hhead hstarts
    rcases Lexer.head?_chars_gap hgap hhead with hspace | hslash | hsame
    · revert hspace
      decide
    · revert hslash
      decide
    · simp only [List.cons_append, List.head?_cons, Option.some.injEq] at hsame
      subst hsame
      cases hstarts with
      | word hword =>
        revert hword
        decide
      | mark hmark =>
        revert hmark
        decide

theorem less (h : WrittenAs tokens chars) (hsome : tokens ≠ []) :
    WrittenAs (plainToken false .mark "<" :: tokens) ('<' :: chars) := by
  refine h.cons fun rest _ => ?_
  have hhead := h.head?_ne hsome rest
  generalize chars ++ rest = all at hhead ⊢
  simp [Token.isWholeBefore, plainToken, hhead]

end WrittenAs

/-- The tokens spell the type, with a blank in front of it or without, and no remark. -/
structure SpelledAs (binding : Binding) (blank : Bool) (type : TypeExpr) (tokens : List Token) :
    Prop where
  spells : Spells binding tokens type type
  written : WrittenAs tokens (blankChars blank ++ type.spelling.toList)
  bare : tokens.head?.bind Token.remark? = none

theorem SpelledAs.readAfterMark_eq {binding : Binding} {blank : Bool} {type : TypeExpr}
    {tokens : List Token} (h : SpelledAs binding blank type tokens) : readAfterMark tokens type = type := by
  rw [readAfterMark, h.bare]

/-! ## Lists of types -/

theorem endsWord_cons {c : Char} (hc : !Lexer.isWordChar c && c != '\\') (rest : List Char) :
    Lexer.endsWord (c :: rest) := hc

/-- What stands between parts: a mark with a blank behind it. -/
structure IsGlue (mark : Token) (glue : List Char) : Prop where
  gap : Lexer.isGap mark.leading
  whole : ∀ rest, mark.isWholeBefore (' ' :: rest)
  chars : mark.chars ++ [' '] = glue
  ends : ∀ rest, Lexer.endsWord (mark.chars ++ rest)

theorem intercalate_append_head (glue front text : List Char) (texts : List (List Char)) :
    glue.intercalate ((front ++ text) :: texts) = front ++ glue.intercalate (text :: texts) := by
  cases texts with
  | nil => simp
  | cons other texts => simp [List.intercalate_cons_cons]

/-- The part has this mark, and its tokens are written like this behind a blank. -/
def PartWrittenAs (mark : Token) (part : Spelled) (text : List Char) : Prop :=
  part.mark = mark ∧ WrittenAs part.tokens (' ' :: text)

theorem writtenAs_separated {mark : Token} {glue : List Char} (hglue : IsGlue mark glue)
    {first : Spelled} {rest : List Spelled} {text : List Char} {texts : List (List Char)}
    (hfirst : WrittenAs first.tokens text)
    (hrest : List.Forall₂ (PartWrittenAs mark) rest texts) :
    WrittenAs (separated (first :: rest)) (glue.intercalate (text :: texts)) := by
  induction hrest generalizing first text with
  | nil => simpa [separated, marked] using hfirst
  | @cons second other rest texts hsecond hrest ih =>
    obtain ⟨hmark, hother⟩ := hsecond
    have hmore := ih hother
    have hhead : glue.intercalate ((' ' :: other) :: texts) =
        ' ' :: glue.intercalate (other :: texts) := intercalate_append_head glue [' '] other texts
    rw [hhead] at hmore
    have htokens : separated (first :: second :: rest) =
        first.tokens ++ mark :: separated (second :: rest) := by
      rw [separated, marked_cons, separated, hmark, List.cons_append]
    have hmarked : WrittenAs (mark :: separated (second :: rest))
        (mark.chars ++ ' ' :: glue.intercalate (other :: texts)) := by
      refine ⟨by rw [writtenTokens_cons, hmore.written], fun rest hrest => ⟨hglue.gap, ?_, hmore.whole rest hrest⟩⟩
      rw [hmore.written]
      exact hglue.whole _
    have hchars : glue.intercalate (text :: other :: texts) =
        text ++ (mark.chars ++ ' ' :: glue.intercalate (other :: texts)) := by
      rw [List.intercalate_cons_cons, ← hglue.chars]
      simp
    rw [htokens, hchars]
    refine hfirst.append hmarked fun rest _ => ?_
    rw [List.append_assoc]
    exact hglue.ends _

theorem endsWord_mark {mark : String} (hmark : mark ∈ firmMarks) (blank : Bool) (rest : List Char) :
    Lexer.endsWord (blankChars blank ++ mark.toList ++ rest) := by
  cases blank with
  | true => exact endsWord_cons (by decide) _
  | false =>
    simp only [firmMarks, List.mem_cons, List.not_mem_nil, or_false] at hmark
    rcases hmark with rfl | rfl | rfl | rfl | rfl | rfl | rfl | rfl | rfl | rfl | rfl <;>
      exact endsWord_cons (by decide) _

theorem isGlue_mark {mark : String} (hmark : mark ∈ firmMarks) (blank : Bool) :
    IsGlue (plainToken blank .mark mark) (blankChars blank ++ mark.toList ++ [' ']) where
  gap := isGap_plainToken blank .mark mark
  whole rest := isWholeBefore_of_firm hmark blank _
  chars := by rw [chars_plainToken]
  ends rest := by
    rw [chars_plainToken]
    exact endsWord_mark hmark blank rest

/-- Types with a mark in front of each but the first, as their tokens spell them. -/
structure PartsAs (binding : Binding) (mark : Token) (types : List TypeExpr) (parts : List Spelled) :
    Prop where
  type_eq : parts.map (·.type) = types
  read_eq : parts.map (·.read) = types
  marks : ∀ part ∈ parts.tail, part.mark = mark
  spells : ∀ part ∈ parts, Spells binding part.tokens part.type part.read

theorem PartsAs.isMark {binding : Binding} {blank : Bool} {mark : String} {types : List TypeExpr}
    {first : Spelled} {rest : List Spelled}
    (h : PartsAs binding (plainToken blank .mark mark) types (first :: rest)) :
    ∀ part ∈ rest, part.mark.isMark mark := by
  intro part hpart
  rw [h.marks part hpart]
  exact isMark_plainToken blank mark

theorem marks_of_forall₂ {mark : Token} {parts : List Spelled} {texts : List (List Char)}
    (h : List.Forall₂ (PartWrittenAs mark) parts texts) : ∀ part ∈ parts, part.mark = mark := by
  induction h with
  | nil => simp
  | cons hpart _ ih => exact List.forall_mem_cons.mpr ⟨hpart.1, ih⟩

theorem exists_moreParts {binding : Binding} (mark : Token) {types : List TypeExpr}
    (h : ∀ type ∈ types, ∃ tokens, SpelledAs binding true type tokens) :
    ∃ parts, PartsAs binding mark types parts ∧
      List.Forall₂ (PartWrittenAs mark) parts ((spellings types).map String.toList) := by
  induction types with
  | nil => exact ⟨[], ⟨rfl, rfl, by simp, by simp⟩, .nil⟩
  | cons type types ih =>
    rw [List.forall_mem_cons] at h
    obtain ⟨⟨tokens, htokens⟩, hrest⟩ := h
    obtain ⟨parts, hparts, hwritten⟩ := ih hrest
    refine ⟨⟨mark, tokens, type, type⟩ :: parts, ⟨?_, ?_, marks_of_forall₂ hwritten, ?_⟩, ?_⟩
    · rw [List.map_cons, hparts.type_eq]
    · rw [List.map_cons, hparts.read_eq]
    · exact List.forall_mem_cons.mpr ⟨htokens.spells, hparts.spells⟩
    · rw [spellings, List.map_cons]
      exact .cons ⟨rfl, htokens.written⟩ hwritten

/-- Types that are spelled one by one are spelled with glue between them. -/
theorem exists_parts {binding : Binding} {mark : Token} (glue : String)
    (hglue : IsGlue mark glue.toList) {first : TypeExpr} {rest : List TypeExpr}
    (h : ∀ type ∈ first :: rest, ∀ blank, ∃ tokens, SpelledAs binding blank type tokens)
    (blank : Bool) :
    ∃ parts, PartsAs binding mark (first :: rest) parts ∧
      WrittenAs (separated parts)
        (blankChars blank ++ (glue.intercalate (spellings (first :: rest))).toList) ∧
      (separated parts).head?.bind Token.remark? = none := by
  rw [List.forall_mem_cons] at h
  obtain ⟨tokens, htokens⟩ := h.1 blank
  obtain ⟨parts, hparts, hwritten⟩ := exists_moreParts mark fun type htype => h.2 type htype true
  refine ⟨⟨mark, tokens, first, first⟩ :: parts, ⟨?_, ?_, marks_of_forall₂ hwritten, ?_⟩, ?_, ?_⟩
  · rw [List.map_cons, hparts.type_eq]
  · rw [List.map_cons, hparts.read_eq]
  · exact List.forall_mem_cons.mpr ⟨htokens.spells, hparts.spells⟩
  · have hall : WrittenAs (separated (⟨mark, tokens, first, first⟩ :: parts)) _ :=
      writtenAs_separated hglue htokens.written hwritten
    rw [intercalate_append_head, ← List.map_cons (f := String.toList), ← spellings,
      ← String.toList_intercalate] at hall
    exact hall
  · obtain ⟨token, more, rfl, -⟩ := htokens.spells.starts.exists_cons
    exact htokens.bare

/-! ## Lists of parameters -/

/-- The parameter as its tokens spell it. -/
structure ParamAs (param : Param) (spelled : SpelledParam) : Prop where
  param_eq : spelled.param = param
  read_eq : spelled.readParam = param
  name : spelled.name.isName
  colon : spelled.colon.isMark ":"
  spells : Spells .whole spelled.type.tokens spelled.type.type spelled.type.read

/-- Parameters with a mark in front of each but the first, as their tokens spell them. -/
structure ParamsAs (mark : Token) (params : List Param) (spelled : List SpelledParam) : Prop where
  param_eq : spelled.map (·.param) = params
  read_eq : spelled.map (·.readParam) = params
  marks : ∀ param ∈ spelled.tail, param.type.mark = mark
  each : ∀ param ∈ spelled, ∃ of, ParamAs of param

theorem isName_plainToken {name : String} (h : isPlainName name) (blank : Bool) :
    (plainToken blank .word name).isName := by
  rw [isPlainName, Bool.and_eq_true] at h
  rw [Token.isName, Token.isWordBut, plainToken]
  simpa [and_comm] using h

theorem isWord_of_isPlainName {name : String} (h : isPlainName name) : Lexer.isWord name.toList := by
  rw [isPlainName, Bool.and_eq_true] at h
  exact h.1

theorem paramSpellings_cons (param : Param) (params : List Param) :
    paramSpellings (param :: params) =
      (param.name ++ ": " ++ param.type.spelling) :: paramSpellings params := by
  cases param
  rw [paramSpellings]

/-- The parameter can be spelled. -/
structure CanSpell (param : Param) : Prop where
  name : isPlainName param.name
  required : param.optional = false ∧ param.rest = false
  type : ∃ tokens, SpelledAs .whole true param.type tokens

theorem exists_param (mark : Token) {param : Param} (h : CanSpell param) (blank : Bool) :
    ∃ spelled : SpelledParam, ParamAs param spelled ∧ spelled.type.mark = mark ∧
      WrittenAs spelled.whole.tokens
        (blankChars blank ++ (param.name ++ ": " ++ param.type.spelling).toList) := by
  obtain ⟨hname, hrequired, tokens, htokens⟩ := h
  obtain ⟨name, type, optional, rest⟩ := param
  obtain ⟨rfl, rfl⟩ : optional = false ∧ rest = false := hrequired
  refine ⟨⟨plainToken blank .word name, plainToken false .mark ":", ⟨mark, tokens, type, type⟩⟩,
    ⟨rfl, ?_, isName_plainToken hname blank, isMark_plainToken false ":", htokens.spells⟩, rfl, ?_⟩
  · rw [SpelledParam.readParam, htokens.readAfterMark_eq]
    rfl
  · have hcolon := htokens.written.mark (by decide : ":" ∈ firmMarks) false
    have hwhole := hcolon.word (isWord_of_isPlainName hname)
      (fun rest _ => endsWord_cons (by decide) _) blank
    simpa [SpelledParam.whole, blankChars] using hwhole

theorem exists_moreParams (mark : Token) {params : List Param} (h : ∀ param ∈ params, CanSpell param) :
    ∃ spelled, ParamsAs mark params spelled ∧
      List.Forall₂ (PartWrittenAs mark) (spelled.map (·.whole))
        ((paramSpellings params).map String.toList) := by
  induction params with
  | nil => exact ⟨[], ⟨rfl, rfl, by simp, by simp⟩, .nil⟩
  | cons param params ih =>
    rw [List.forall_mem_cons] at h
    obtain ⟨first, hfirst, hmark, hwritten⟩ := exists_param mark h.1 true
    obtain ⟨rest, hrest, hmore⟩ := ih h.2
    refine ⟨first :: rest, ⟨?_, ?_, ?_, ?_⟩, ?_⟩
    · rw [List.map_cons, hrest.param_eq, hfirst.param_eq]
    · rw [List.map_cons, hrest.read_eq, hfirst.read_eq]
    · exact List.forall_mem_map.mp (marks_of_forall₂ hmore)
    · exact List.forall_mem_cons.mpr ⟨⟨param, hfirst⟩, hrest.each⟩
    · rw [paramSpellings_cons, List.map_cons, List.map_cons]
      exact .cons ⟨hmark, hwritten⟩ hmore

theorem exists_params {mark : Token} (glue : String) (hglue : IsGlue mark glue.toList)
    {params : List Param} (h : ∀ param ∈ params, CanSpell param) :
    ∃ spelled, ParamsAs mark params spelled ∧
      WrittenAs (separated (spelled.map (·.whole))) (glue.intercalate (paramSpellings params)).toList := by
  cases params with
  | nil => exact ⟨[], ⟨rfl, rfl, by simp, by simp⟩, by simpa [paramSpellings, separated] using .nil⟩
  | cons param params =>
    rw [List.forall_mem_cons] at h
    obtain ⟨first, hfirst, -, hwritten⟩ := exists_param mark h.1 false
    obtain ⟨rest, hrest, hmore⟩ := exists_moreParams mark h.2
    refine ⟨first :: rest, ⟨?_, ?_, ?_, ?_⟩, ?_⟩
    · rw [List.map_cons, hrest.param_eq, hfirst.param_eq]
    · rw [List.map_cons, hrest.read_eq, hfirst.read_eq]
    · exact List.forall_mem_map.mp (marks_of_forall₂ hmore)
    · exact List.forall_mem_cons.mpr ⟨⟨param, hfirst⟩, hrest.each⟩
    · rw [paramSpellings_cons, String.toList_intercalate, List.map_cons, List.map_cons]
      exact writtenAs_separated hglue hwritten hmore

/-! ## All types -/

section Forms

variable {binding : Binding} {blank : Bool} {type : TypeExpr} {tokens : List Token}

theorem writtenAs_word {word : String} (hword : Lexer.isWord word.toList) (blank : Bool) :
    WrittenAs [plainToken blank .word word] (blankChars blank ++ word.toList) := by
  have hwritten := WrittenAs.nil.word hword (fun _ hrest => hrest) blank
  rwa [List.append_nil] at hwritten

theorem SpelledAs.array (h : SpelledAs .primary blank type tokens) :
    SpelledAs .primary blank (.array type)
      (tokens ++ [plainToken false .mark "[", plainToken false .mark "]"]) where
  spells := .array (isMark_plainToken _ _) (isMark_plainToken _ _) h.spells
  written := by
    have hbrackets := (WrittenAs.nil.mark (by decide : "]" ∈ firmMarks) false).mark
      (by decide : "[" ∈ firmMarks) false
    have hwritten := h.written.append hbrackets fun rest _ => endsWord_cons (by decide) _
    simpa [TypeExpr.spelling, blankChars] using hwritten
  bare := by
    obtain ⟨token, more, rfl, -⟩ := h.spells.starts.exists_cons
    exact h.bare

theorem SpelledAs.paren (h : SpelledAs .whole false type tokens) (blank : Bool) :
    SpelledAs .primary blank (.paren type)
      (plainToken blank .mark "(" :: tokens ++ [plainToken false .mark ")"]) where
  spells := by
    have hspells := Spells.paren (isMark_plainToken blank "(") (isMark_plainToken false ")") h.spells
    rwa [h.readAfterMark_eq] at hspells
  written := by
    have hclosing := WrittenAs.nil.mark (by decide : ")" ∈ firmMarks) false
    have hinner := h.written.append hclosing fun rest _ => endsWord_cons (by decide) _
    have hwritten := hinner.mark (by decide : "(" ∈ firmMarks) blank
    simpa [TypeExpr.spelling, blankChars] using hwritten
  bare := remark?_plainToken blank .mark "("

theorem SpelledAs.keyOf (h : SpelledAs .operand true type tokens) (blank : Bool) :
    SpelledAs .operand blank (.keyOf type) (plainToken blank .word "keyof" :: tokens) where
  spells := by
    have hword : (plainToken blank .word "keyof").isWord "keyof" := by
      simp [plainToken, Token.isWord]
    have hspells := Spells.keyOf hword h.spells
    rwa [h.readAfterMark_eq] at hspells
  written := by
    have hwritten := h.written.word (by decide : Lexer.isWord "keyof".toList)
      (fun rest _ => endsWord_cons (by decide) _) blank
    simpa [TypeExpr.spelling, blankChars] using hwritten
  bare := remark?_plainToken blank .word "keyof"

theorem exists_applied {name : String} {first : TypeExpr} {rest : List TypeExpr}
    (hname : isPlainName name)
    (h : ∀ arg ∈ first :: rest, ∀ blank, ∃ tokens, SpelledAs .whole blank arg tokens) (blank : Bool) :
    ∃ tokens, SpelledAs .primary blank (.ref name (first :: rest)) tokens := by
  obtain ⟨parts, hparts, hwritten, -⟩ :=
    exists_parts ", " (isGlue_mark (by decide : "," ∈ firmMarks) false) h false
  have hsome : parts ≠ [] := by
    rintro rfl
    cases hparts.type_eq
  refine ⟨plainToken blank .word name :: plainToken false .mark "<" :: separated parts ++
    [plainToken false .mark ">"], ?_, ?_, remark?_plainToken blank .word name⟩
  · have hcommas : ∀ part ∈ parts.tail, part.mark.isMark "," := fun part hpart => by
      rw [hparts.marks part hpart]
      exact isMark_plainToken false ","
    have hspells := Spells.applied (isName_plainToken hname blank) (isMark_plainToken false "<")
      (isMark_plainToken false ">") hsome hcommas hparts.spells
    rwa [hparts.type_eq, hparts.read_eq] at hspells
  · have hclosing := WrittenAs.nil.mark (by decide : ">" ∈ firmMarks) false
    have hinner := hwritten.append hclosing fun rest _ => endsWord_cons (by decide) _
    have hall := (hinner.less (by simp)).word (isWord_of_isPlainName hname)
      (fun rest _ => endsWord_cons (by decide) _) blank
    simpa [TypeExpr.spelling, spellings, blankChars] using hall

/-- Types that a mark joins. -/
theorem exists_joined {mark : String} (hmark : mark ∈ firmMarks) {members : List TypeExpr}
    (hseveral : 2 ≤ members.length)
    (h : ∀ member ∈ members, ∀ blank, ∃ tokens, SpelledAs binding blank member tokens) (blank : Bool) :
    ∃ first second rest, PartsAs binding (plainToken true .mark mark) members (first :: second :: rest) ∧
      WrittenAs (separated (first :: second :: rest))
        (blankChars blank ++ ((" " ++ mark ++ " ").intercalate (spellings members)).toList) ∧
      (separated (first :: second :: rest)).head?.bind Token.remark? = none := by
  have hglue : IsGlue (plainToken true .mark mark) (" " ++ mark ++ " ").toList := by
    simpa [blankChars] using isGlue_mark hmark true
  obtain ⟨one, two, others, rfl⟩ : ∃ one two others, members = one :: two :: others := by
    match members, hseveral with
    | one :: two :: others, _ => exact ⟨one, two, others, rfl⟩
  obtain ⟨parts, hparts, hwritten, hbare⟩ := exists_parts _ hglue h blank
  match parts, hparts with
  | first :: second :: rest, hparts => exact ⟨first, second, rest, hparts, hwritten, hbare⟩
  | [first], hparts => cases hparts.type_eq
  | [], hparts => cases hparts.type_eq

theorem exists_func {params : List Param} {ret : TypeExpr} (hparams : ∀ param ∈ params, CanSpell param)
    (hret : SpelledAs .whole true ret tokens) (blank : Bool) :
    ∃ tokens, SpelledAs .whole blank (.func params ret) tokens := by
  obtain ⟨spelled, hspelled, hwritten⟩ :=
    exists_params ", " (isGlue_mark (by decide : "," ∈ firmMarks) false) hparams
  refine ⟨plainToken blank .mark "(" :: separated (spelled.map (·.whole)) ++
    plainToken false .mark ")" :: plainToken true .mark "=>" :: tokens, ?_, ?_,
    remark?_plainToken blank .mark "("⟩
  · have hcommas : ∀ param ∈ spelled.tail, param.type.mark.isMark "," := fun param hparam => by
      rw [hspelled.marks param hparam]
      exact isMark_plainToken false ","
    have hspells := Spells.func (isMark_plainToken blank "(") (isMark_plainToken false ")")
      (isMark_plainToken true "=>") (fun param hparam => (hspelled.each param hparam).choose_spec.name)
      (fun param hparam => (hspelled.each param hparam).choose_spec.colon) hcommas
      (fun param hparam => (hspelled.each param hparam).choose_spec.spells) hret.spells
    rwa [hspelled.param_eq, hspelled.read_eq] at hspells
  · have harrow := hret.written.mark (by decide : "=>" ∈ firmMarks) true
    have hclosing := harrow.mark (by decide : ")" ∈ firmMarks) false
    have hinner := hwritten.append hclosing fun rest _ => endsWord_cons (by decide) _
    have hall := hinner.mark (by decide : "(" ∈ firmMarks) blank
    simpa [TypeExpr.spelling, blankChars] using hall

end Forms

theorem TypeExpr.IsPlain.spelledAs {binding : Binding} {type : TypeExpr} (h : type.IsPlain binding)
    (blank : Bool) : ∃ tokens, SpelledAs binding blank type tokens := by
  induction h generalizing blank with
  | @keyword word hword =>
    have hisWord := Lexer.isWord_of_mem (List.mem_cons_of_mem "keyof" hword)
    refine ⟨[plainToken blank .word word], .keyword ?_, writtenAs_word hisWord blank,
      remark?_plainToken blank .word word⟩
    simp [Token.isAnyWord, plainToken, hword]
  | @ref name args hname hargs ih =>
    cases args with
    | nil =>
      exact ⟨[plainToken blank .word name], .name (isName_plainToken hname blank),
        writtenAs_word (isWord_of_isPlainName hname) blank, remark?_plainToken blank .word name⟩
    | cons first rest => exact exists_applied hname ih blank
  | array helement ih =>
    obtain ⟨tokens, htokens⟩ := ih blank
    exact ⟨_, htokens.array⟩
  | paren hinner ih =>
    obtain ⟨tokens, htokens⟩ := ih false
    exact ⟨_, htokens.paren blank⟩
  | operand h ih =>
    obtain ⟨tokens, htokens⟩ := ih blank
    exact ⟨tokens, .operand htokens.spells, htokens.written, htokens.bare⟩
  | keyOf hoperand ih =>
    obtain ⟨tokens, htokens⟩ := ih true
    exact ⟨_, htokens.keyOf blank⟩
  | conjunction h ih =>
    obtain ⟨tokens, htokens⟩ := ih blank
    exact ⟨tokens, .conjunction htokens.spells, htokens.written, htokens.bare⟩
  | inter hseveral hmembers ih =>
    obtain ⟨first, second, rest, hparts, hwritten, hbare⟩ :=
      exists_joined (by decide : "&" ∈ firmMarks) hseveral ih blank
    refine ⟨_, ?_, hwritten, hbare⟩
    have hspells := Spells.inter hparts.isMark hparts.spells
    rwa [hparts.type_eq, hparts.read_eq] at hspells
  | whole h ih =>
    obtain ⟨tokens, htokens⟩ := ih blank
    exact ⟨tokens, .whole htokens.spells, htokens.written, htokens.bare⟩
  | union hseveral hmembers ih =>
    obtain ⟨first, second, rest, hparts, hwritten, hbare⟩ :=
      exists_joined (by decide : "|" ∈ firmMarks) hseveral ih blank
    refine ⟨_, ?_, hwritten, hbare⟩
    have hspells := Spells.union hparts.isMark hparts.spells
    rwa [hparts.type_eq, hparts.read_eq] at hspells
  | func hnames hrequired htypes hret ihtypes ihret =>
    obtain ⟨tokens, htokens⟩ := ihret true
    refine exists_func (fun param hparam => ?_) htokens blank
    exact ⟨hnames param hparam, hrequired param hparam, ihtypes param hparam true⟩

/-! ## The law -/

/-- The tokens of an alias of this value, with a blank in front of each token of the head. -/
def plainAlias (value : List Token) : AliasTokens where
  word := plainToken false .word "type"
  name := plainToken true .word "X"
  equals := plainToken true .mark "="
  value
  semicolon := plainToken false .mark ";"

theorem plainAlias_fit (value : List Token) : (plainAlias value).Fit where
  word := (by decide : (plainToken false .word "type").isWord "type")
  name := (by decide : (plainToken true .word "X").isWordBut operatorWords)
  equals := isMark_plainToken true "="
  semicolon := isMark_plainToken false ";"

/-- The tokens of an alias are written as the text of its value between the head and the end. -/
theorem writtenAs_plainAlias {value : List Token} {spelling : String}
    (h : WrittenAs value (' ' :: spelling.toList)) :
    WrittenAs (plainAlias value).all ("type X = " ++ spelling ++ ";").toList := by
  have hsemicolon := WrittenAs.nil.mark (by decide : ";" ∈ firmMarks) false
  have hvalue := h.append hsemicolon fun rest _ => endsWord_cons (by decide) _
  have hequals : WrittenAs (plainToken true .mark "=" :: (value ++ [plainToken false .mark ";"])) _ :=
    hvalue.cons fun rest _ => by simp [Token.isWholeBefore, plainToken]
  have hname := hequals.word (by decide : Lexer.isWord "X".toList)
    (fun rest _ => endsWord_cons (by decide) _) true
  have hall := hname.word (by decide : Lexer.isWord "type".toList)
    (fun rest _ => endsWord_cons (by decide) _) false
  simpa [AliasTokens.all, plainAlias, blankChars] using hall

/-- A plain type that is written as the value of an alias is read back from the text as it was. -/
theorem a_plain_type_is_read_back (type : TypeExpr) (h : type.IsPlain .whole) :
    parse ("type X = " ++ type.spelling ++ ";") = .ok ⟨[.aliasDecl ⟨"X", [], type⟩]⟩ := by
  obtain ⟨tokens, htokens⟩ := h.spelledAs true
  have hall := writtenAs_plainAlias htokens.written
  have htext : ("type X = " ++ type.spelling ++ ";").toList =
      writtenTokens (plainAlias tokens).all ++ Trivia.chars [] := by
    simp [hall.written, Trivia.chars]
  exact parse_alias (plainAlias_fit tokens) htokens.spells htext (hall.whole _ rfl) rfl

/-- A function type whose parameter is a union with an array of an intersection in it. -/
theorem a_function_type_is_read_back :
    let pair : TypeExpr := .inter [.ref "A" [.keyword "number"], .keyOf (.ref "B" [])]
    let type : TypeExpr :=
      .func [⟨"p", .union [.keyword "string", .array (.paren pair)], false, false⟩] (.keyword "void")
    type.IsPlain .whole ∧ type.spelling = "(p: string | (A<number> & keyof B)[]) => void" ∧
      parse "type X = (p: string | (A<number> & keyof B)[]) => void;" =
        .ok ⟨[.aliasDecl ⟨"X", [], type⟩]⟩ := by
  intro pair type
  have hnumber : (TypeExpr.keyword "number").IsPlain .whole :=
    .whole (.conjunction (.operand (.keyword (by decide))))
  have hstring : (TypeExpr.keyword "string").IsPlain .conjunction :=
    .conjunction (.operand (.keyword (by decide)))
  have hvoid : (TypeExpr.keyword "void").IsPlain .whole :=
    .whole (.conjunction (.operand (.keyword (by decide))))
  have happlied : (TypeExpr.ref "A" [.keyword "number"]).IsPlain .operand :=
    .operand (.ref (by decide) (by simpa using hnumber))
  have hkeyOf : (TypeExpr.keyOf (.ref "B" [])).IsPlain .operand :=
    .keyOf (.operand (.ref (by decide) (by simp)))
  have hpair : pair.IsPlain .whole := .whole (.inter (by simp) (by simp [happlied, hkeyOf]))
  have harray : (TypeExpr.array (.paren pair)).IsPlain .conjunction :=
    .conjunction (.operand (.array (.paren hpair)))
  have hunion : (TypeExpr.union [.keyword "string", .array (.paren pair)]).IsPlain .whole :=
    .union (by simp) (by simp [hstring, harray])
  have htype : type.IsPlain .whole :=
    .func (by simp; decide) (by simp) (by simpa using hunion) hvoid
  have hspelling : type.spelling = "(p: string | (A<number> & keyof B)[]) => void" := by decide
  refine ⟨htype, hspelling, ?_⟩
  have hparse := a_plain_type_is_read_back type htype
  rw [hspelling] at hparse
  exact hparse

end Facade
