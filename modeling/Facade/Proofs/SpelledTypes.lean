-- Types as their tokens spell them, and what is read from such tokens: the type itself, but where a
-- remark stands right after a mark, the remark is read in the type's place.
import Facade.Proofs.TokenRuns
import Facade.Proofs.TypeReading

namespace Facade

open Reader Grammar

/-! ## How types are spelled -/

/-- The words that name no type or parameter. -/
def keywords : List String := softWords ++ valueWords ++ typeWords ++ ["asserts"]

/-- Whether the token is a name. -/
def Token.isName (token : Token) : Bool :=
  token.isWordBut keywords && Lexer.isWord token.text.toList

/-- How tightly the parts of a type hold together. -/
inductive Binding where
  /-- A word, a name, an array or a type in parentheses. -/
  | primary
  /-- What `&` joins. -/
  | operand
  /-- What `|` joins. -/
  | conjunction
  | whole

/-- The marks that may follow a type. -/
def Binding.stops : Binding → List String
  | .primary => ["[", "&", "|", ")", ",", ">", ";"]
  | .operand => ["&", "|", ")", ",", ">", ";"]
  | .conjunction => ["|", ")", ",", ">", ";"]
  | .whole => [")", ",", ">", ";"]

/-- A type among others: the mark in front of it, its tokens, the type that they spell and the type
that is read from them. -/
structure Spelled where
  mark : Token
  tokens : List Token
  type : TypeExpr
  read : TypeExpr

/-- The tokens of types, each with the mark in front of it. -/
def marked (parts : List Spelled) : List Token :=
  parts.flatMap fun part => part.mark :: part.tokens

/-- The tokens of types with marks between them. -/
def separated : List Spelled → List Token
  | [] => []
  | first :: rest => first.tokens ++ marked rest

/-- A parameter: its name and the colon, and its type as one among others. -/
structure SpelledParam where
  name : Token
  colon : Token
  type : Spelled

namespace SpelledParam

/-- The tokens of a parameter with those of its type. -/
def whole (param : SpelledParam) : Spelled :=
  { param.type with tokens := param.name :: param.colon :: param.type.tokens }

end SpelledParam

/-- What is read after a mark: a remark in front of the first token takes the place of the type. -/
def readAfterMark (tokens : List Token) (read : TypeExpr) : TypeExpr :=
  match tokens.head?.bind Token.remark? with
  | some remark => .unsupported remark.kind
  | none => read

/-- The parameter that is spelled. -/
def SpelledParam.param (param : SpelledParam) : Param :=
  ⟨param.name.text, param.type.type, false, false⟩

/-- The parameter that is read. -/
def SpelledParam.readParam (param : SpelledParam) : Param :=
  ⟨param.name.text, readAfterMark param.type.tokens param.type.read, false, false⟩

/-- The tokens spell the first type, and the second one is read from them. -/
inductive Spells : Binding → List Token → TypeExpr → TypeExpr → Prop
  | keyword {word : Token} (hword : word.isAnyWord predefinedWords) :
      Spells .primary [word] (.keyword word.text) (.keyword word.text)
  | name {name : Token} (hname : name.isName) :
      Spells .primary [name] (.ref name.text []) (.ref name.text [])
  | applied {name opening closing : Token} {args : List Spelled} (hname : name.isName)
      (hopening : opening.isMark "<") (hclosing : closing.isMark ">") (hsome : args ≠ [])
      (hcommas : ∀ arg ∈ args.tail, arg.mark.isMark ",")
      (hargs : ∀ arg ∈ args, Spells .whole arg.tokens arg.type arg.read) :
      Spells .primary (name :: opening :: separated args ++ [closing])
        (.ref name.text (args.map (·.type))) (.ref name.text (args.map (·.read)))
  | array {opening closing : Token} {tokens : List Token} {type read : TypeExpr}
      (hopening : opening.isMark "[") (hclosing : closing.isMark "]")
      (helement : Spells .primary tokens type read) :
      Spells .primary (tokens ++ [opening, closing]) (.array type) (.array read)
  | paren {opening closing : Token} {tokens : List Token} {type read : TypeExpr}
      (hopening : opening.isMark "(") (hclosing : closing.isMark ")")
      (hinner : Spells .whole tokens type read) :
      Spells .primary (opening :: tokens ++ [closing]) (.paren type)
        (.paren (readAfterMark tokens read))
  | operand {tokens : List Token} {type read : TypeExpr} (h : Spells .primary tokens type read) :
      Spells .operand tokens type read
  | keyOf {word : Token} {tokens : List Token} {type read : TypeExpr} (hword : word.isWord "keyof")
      (hoperand : Spells .operand tokens type read) :
      Spells .operand (word :: tokens) (.keyOf type) (.keyOf (readAfterMark tokens read))
  | conjunction {tokens : List Token} {type read : TypeExpr} (h : Spells .operand tokens type read) :
      Spells .conjunction tokens type read
  | inter {first second : Spelled} {rest : List Spelled}
      (hjoints : ∀ member ∈ second :: rest, member.mark.isMark "&")
      (hmembers : ∀ member ∈ first :: second :: rest,
        Spells .operand member.tokens member.type member.read) :
      Spells .conjunction (separated (first :: second :: rest))
        (.inter ((first :: second :: rest).map (·.type)))
        (.inter ((first :: second :: rest).map (·.read)))
  | whole {tokens : List Token} {type read : TypeExpr} (h : Spells .conjunction tokens type read) :
      Spells .whole tokens type read
  | union {first second : Spelled} {rest : List Spelled}
      (hjoints : ∀ member ∈ second :: rest, member.mark.isMark "|")
      (hmembers : ∀ member ∈ first :: second :: rest,
        Spells .conjunction member.tokens member.type member.read) :
      Spells .whole (separated (first :: second :: rest))
        (.union ((first :: second :: rest).map (·.type)))
        (.union ((first :: second :: rest).map (·.read)))
  | func {opening closing arrow : Token} {params : List SpelledParam} {tokens : List Token}
      {type read : TypeExpr} (hopening : opening.isMark "(") (hclosing : closing.isMark ")")
      (harrow : arrow.isMark "=>") (hnames : ∀ param ∈ params, param.name.isName)
      (hcolons : ∀ param ∈ params, param.colon.isMark ":")
      (hcommas : ∀ param ∈ params.tail, param.type.mark.isMark ",")
      (hparams : ∀ param ∈ params, Spells .whole param.type.tokens param.type.type param.type.read)
      (hret : Spells .whole tokens type read) :
      Spells .whole
        (opening :: separated (params.map (·.whole)) ++ closing :: arrow :: tokens)
        (.func (params.map (·.param)) type) (.func (params.map (·.readParam)) read)

theorem marked_cons (part : Spelled) (parts : List Spelled) :
    marked (part :: parts) = part.mark :: part.tokens ++ marked parts := rfl

theorem length_le_marked (parts : List Spelled) : parts.length ≤ (marked parts).length := by
  induction parts with
  | nil => exact Nat.zero_le _
  | cons part parts ih =>
    rw [marked_cons, List.length_append, List.length_cons, List.length_cons]
    omega

theorem length_le_of_mem_marked {part : Spelled} {parts : List Spelled} (h : part ∈ parts) :
    part.tokens.length ≤ (marked parts).length := by
  induction parts with
  | nil => cases h
  | cons first rest ih =>
    rw [marked_cons, List.length_append, List.length_cons]
    rcases List.mem_cons.mp h with rfl | hrest
    · omega
    · have hpart := ih hrest
      omega

theorem length_le_of_mem_separated {part : Spelled} {parts : List Spelled} (h : part ∈ parts) :
    part.tokens.length ≤ (separated parts).length := by
  cases parts with
  | nil => cases h
  | cons first rest =>
    rw [separated, List.length_append]
    rcases List.mem_cons.mp h with rfl | hrest
    · omega
    · have hpart := length_le_of_mem_marked hrest
      omega

/-! ## Names -/

namespace Token

variable {token : Token}

theorem kind_of_isName (h : token.isName) : token.kind = .word := by
  simp only [isName, isWordBut, Bool.and_eq_true, beq_iff_eq] at h
  exact h.1.1

theorem not_mem_of_isName (h : token.isName) : token.text ∉ keywords := by
  simp only [isName, isWordBut, Bool.and_eq_true, Bool.not_eq_true', List.contains_eq_mem,
    decide_eq_false_iff_not] at h
  exact h.1.2

theorem isWord_of_isName (h : token.isName) : Lexer.isWord token.text.toList := by
  rw [isName, Bool.and_eq_true] at h
  exact h.2

end Token

theorem Lexer.isWord_of_mem {text : String} (h : text ∈ "keyof" :: predefinedWords) :
    Lexer.isWord text.toList := by
  revert text
  decide

/-! ## First tokens -/

/-- How the tokens of a type start. After a word comes a mark, if anything does. -/
inductive StartsType : List Token → Prop
  | word {first : Token} {more : List Token} (hword : first.isName ∨ first.isAnyWord predefinedWords)
      (hmore : ∀ next ∈ more.head?, next.kind = .mark) : StartsType (first :: more)
  | keyOf {first : Token} {more : List Token} (hword : first.isWord "keyof") :
      StartsType (first :: more)
  | paren {first : Token} {more : List Token} (hmark : first.isMark "(") : StartsType (first :: more)

theorem StartsType.append {tokens more : List Token} (h : StartsType tokens)
    (hmore : ∀ next ∈ more.head?, next.kind = .mark) : StartsType (tokens ++ more) := by
  cases h with
  | @word _ behind hword hnext =>
    refine .word hword ?_
    cases behind with
    | nil => exact hmore
    | cons _ _ => exact hnext
  | keyOf hword => exact .keyOf hword
  | paren hmark => exact .paren hmark

theorem StartsType.separated {first : Spelled} {rest : List Spelled} {text : String}
    (h : StartsType first.tokens) (hmarks : ∀ part ∈ rest, part.mark.isMark text) :
    StartsType (separated (first :: rest)) := by
  refine h.append ?_
  cases rest with
  | nil => simp [marked]
  | cons part rest =>
    intro next hnext
    cases hnext
    exact Token.kind_of_isMark (hmarks part List.mem_cons_self)

theorem Spells.starts {binding : Binding} {tokens : List Token} {type read : TypeExpr}
    (h : Spells binding tokens type read) : StartsType tokens := by
  induction h with
  | keyword hword => exact .word (.inr hword) (by simp)
  | name hname => exact .word (.inl hname) (by simp)
  | applied hname hopening =>
    refine .word (.inl hname) ?_
    intro next hnext
    cases hnext
    exact Token.kind_of_isMark hopening
  | array hopening hclosing helement ih =>
    refine ih.append ?_
    intro next hnext
    cases hnext
    exact Token.kind_of_isMark hopening
  | paren hopening => exact .paren hopening
  | operand h ih => exact ih
  | keyOf hword => exact .keyOf hword
  | conjunction h ih => exact ih
  | inter hjoints hmembers ih => exact (ih _ List.mem_cons_self).separated hjoints
  | whole h ih => exact ih
  | union hjoints hmembers ih => exact (ih _ List.mem_cons_self).separated hjoints
  | func hopening => exact .paren hopening

theorem StartsType.opens {first : Token} {more : List Token} (h : StartsType (first :: more)) :
    first.opensType := by
  have hword : Lexer.isWord first.text.toList → first.opensType := by
    intro hword
    rw [Lexer.isWord, Bool.and_eq_true, Option.any_eq_true] at hword
    obtain ⟨⟨c, hc, hstart⟩, -⟩ := hword
    rw [Token.opensType, Option.any_eq_true]
    exact ⟨c, hc, by simp [hstart]⟩
  cases h with
  | word hfirst hmore =>
    rcases hfirst with hname | hkeyword
    · exact hword (Token.isWord_of_isName hname)
    · exact hword (Lexer.isWord_of_mem (List.mem_cons_of_mem _ (Token.mem_of_isAnyWord hkeyword)))
  | keyOf hkeyof =>
    rw [Token.text_of_isWord hkeyof] at hword
    exact hword (Lexer.isWord_of_mem List.mem_cons_self)
  | paren hmark =>
    rw [Token.opensType, Token.text_of_isMark hmark]
    decide

theorem StartsType.notConst {first : Token} {more : List Token} (h : StartsType (first :: more)) :
    first.isWord "const" = false := by
  cases h with
  | word hfirst hmore =>
    rcases hfirst with hname | hkeyword
    · have hne : first.text ≠ "const" := by
        intro htext
        exact Token.not_mem_of_isName hname (by rw [htext]; decide)
      simp [Token.isWord, hne]
    · have hne : first.text ≠ "const" := by
        intro htext
        have hmem := Token.mem_of_isAnyWord hkeyword
        rw [htext] at hmem
        revert hmem
        decide
      simp [Token.isWord, hne]
  | keyOf hkeyof => simp [Token.isWord, Token.text_of_isWord hkeyof]
  | paren hmark => simp [Token.isWord, Token.kind_of_isMark hmark]

theorem StartsType.exists_cons {tokens : List Token} (h : StartsType tokens) :
    ∃ first more, tokens = first :: more ∧ first.opensType := by
  cases tokens with
  | nil => cases h
  | cons first more => exact ⟨first, more, rfl, h.opens⟩

/-! ## Brackets -/

/-- The search for a closing bracket goes past the tokens. -/
def Passes (tokens : List Token) : Prop :=
  ∀ (opened : List Cursor.Opening) (place : Cursor) (more : List Token),
    place.Shows (tokens ++ more) →
    ∃ stop : Cursor, stop.Shows more ∧ ∀ fuel,
      Cursor.afterClosing? (fuel + tokens.length) (.bracket :: opened) place =
        Cursor.afterClosing? fuel (.bracket :: opened) stop

theorem passes_nil : Passes [] := fun _ place _ hplace => ⟨place, hplace, fun _ => rfl⟩

theorem passes_append {first second : List Token} (hfirst : Passes first) (hsecond : Passes second) :
    Passes (first ++ second) := by
  intro opened place more hplace
  rw [List.append_assoc] at hplace
  obtain ⟨middle, hmiddle, hpass⟩ := hfirst opened place _ hplace
  obtain ⟨stop, hstop, hpass'⟩ := hsecond opened middle more hmiddle
  refine ⟨stop, hstop, fun fuel => ?_⟩
  rw [List.length_append, Nat.add_comm first.length, ← Nat.add_assoc, hpass, hpass']

/-- Whether the token opens or closes no bracket and no template. -/
def Token.isPlain (token : Token) : Bool :=
  !token.isAnyMark ["(", "[", "\x7b", "`", ")", "]", "\x7d"]

section Search

variable {place : Cursor} {token : Token} {opened : List Cursor.Opening}

theorem afterClosing?_plain (h : place.IsAt token) (hplain : token.isPlain) (fuel : Nat) :
    Cursor.afterClosing? (fuel + 1) opened place = Cursor.afterClosing? fuel opened place.next := by
  simp only [Token.isPlain, Token.isAnyMark, List.contains_cons, List.contains_nil, Bool.not_eq_true',
    Bool.and_eq_false_iff, Bool.or_eq_false_iff] at hplain
  rw [Cursor.afterClosing?.eq_def]
  simp only [h.withMarkup_eq, h.atEnd_eq, h.token_eq, Token.isAnyMark, Token.isMark,
    List.contains_cons, List.contains_nil]
  rcases hplain with hkind | ⟨h1, h2, h3, h4, h5, h6, h7, -⟩
  · simp [hkind]
  · simp [h1, h2, h3, h4, h5, h6, h7]

theorem afterClosing?_opening (h : place.IsAt token) (hopening : token.isAnyMark ["(", "["])
    (fuel : Nat) :
    Cursor.afterClosing? (fuel + 1) opened place =
      Cursor.afterClosing? fuel (.bracket :: opened) place.next := by
  have hany : token.isAnyMark ["(", "[", "\x7b"] := by
    simp only [Token.isAnyMark, Bool.and_eq_true, List.contains_iff_mem] at hopening ⊢
    exact ⟨hopening.1, List.mem_append_left ["\x7b"] hopening.2⟩
  rw [Cursor.afterClosing?.eq_def]
  simp only [h.withMarkup_eq, h.atEnd_eq, h.token_eq, hany, if_true, Bool.false_eq_true, if_false]

theorem afterClosing?_closing (h : place.IsAt token) (hclosing : token.isAnyMark [")", "]"])
    (fuel : Nat) :
    Cursor.afterClosing? (fuel + 1) (.bracket :: opened) place =
      match opened with
      | [] => some place.next
      | _ => Cursor.afterClosing? fuel opened place.next := by
  have htext : token.kind = .mark ∧ (token.text = ")" ∨ token.text = "]") := by
    simpa [Token.isAnyMark] using hclosing
  obtain ⟨hkind, htext⟩ := htext
  rw [Cursor.afterClosing?.eq_def]
  simp only [h.withMarkup_eq, h.atEnd_eq, h.token_eq]
  rcases htext with htext | htext <;> cases opened <;> simp [Token.isAnyMark, Token.isMark, hkind, htext]

end Search

theorem passes_token {token : Token} (h : token.isPlain) : Passes [token] :=
  fun _ place _ hplace => ⟨place.next, hplace.2, afterClosing?_plain hplace.1 h⟩

theorem passes_enclosed {opening closing : Token} {tokens : List Token}
    (hopening : opening.isAnyMark ["(", "["]) (hclosing : closing.isAnyMark [")", "]"])
    (h : Passes tokens) : Passes (opening :: tokens ++ [closing]) := by
  intro opened place more hplace
  rw [List.append_assoc] at hplace
  obtain ⟨middle, hmiddle, hpass⟩ := h (.bracket :: opened) place.next _ hplace.2
  refine ⟨middle.next, hmiddle.2, fun fuel => ?_⟩
  have hlength : fuel + (opening :: tokens ++ [closing]).length = fuel + 1 + tokens.length + 1 := by
    simp
    omega
  rw [hlength, afterClosing?_opening hplace.1 hopening, hpass, afterClosing?_closing hmiddle.1 hclosing]

theorem Token.isPlain_of_word {token : Token} (h : token.kind = .word) : token.isPlain := by
  rw [isPlain, isAnyMark_of_kind (by simp [h]), Bool.not_false]

theorem Token.isPlain_of_isMark {token : Token} {text : String} (h : token.isMark text)
    (htext : text ∈ ["<", ">", ",", ":", "&", "|", "=>"]) : token.isPlain := by
  rw [isPlain, isAnyMark, kind_of_isMark h, text_of_isMark h]
  clear h
  revert text
  decide

theorem passes_cons {token : Token} {tokens : List Token} (h : token.isPlain) (htokens : Passes tokens) :
    Passes (token :: tokens) :=
  passes_append (passes_token h) htokens

theorem passes_separated {parts : List Spelled} (hmarks : ∀ part ∈ parts.tail, part.mark.isPlain)
    (hparts : ∀ part ∈ parts, Passes part.tokens) : Passes (separated parts) := by
  cases parts with
  | nil => exact passes_nil
  | cons first rest =>
    refine passes_append (hparts first List.mem_cons_self) ?_
    rw [List.tail_cons] at hmarks
    replace hparts := fun part hpart => hparts part (List.mem_cons_of_mem first hpart)
    induction rest with
    | nil => exact passes_nil
    | cons part rest ih =>
      rw [List.forall_mem_cons] at hmarks hparts
      exact passes_append (passes_cons hmarks.1 hparts.1) (ih hmarks.2 hparts.2)

theorem passes_params {params : List SpelledParam} (hnames : ∀ param ∈ params, param.name.isName)
    (hcolons : ∀ param ∈ params, param.colon.isMark ":")
    (hcommas : ∀ param ∈ params.tail, param.type.mark.isMark ",")
    (hparams : ∀ param ∈ params, Passes param.type.tokens) :
    Passes (separated (params.map (·.whole))) := by
  refine passes_separated ?_ ?_
  · rw [← List.map_tail, List.forall_mem_map]
    exact fun param hparam => Token.isPlain_of_isMark (hcommas param hparam) (by decide)
  · rw [List.forall_mem_map]
    intro param hparam
    refine passes_cons (Token.isPlain_of_word (Token.kind_of_isName (hnames param hparam))) ?_
    exact passes_cons (Token.isPlain_of_isMark (hcolons param hparam) (by decide)) (hparams param hparam)

theorem Spells.passes {binding : Binding} {tokens : List Token} {type read : TypeExpr}
    (h : Spells binding tokens type read) : Passes tokens := by
  induction h with
  | keyword hword => exact passes_token (Token.isPlain_of_word (Token.kind_of_isAnyWord hword))
  | name hname => exact passes_token (Token.isPlain_of_word (Token.kind_of_isName hname))
  | applied hname hopening hclosing _ hcommas _ ih =>
    refine passes_cons (Token.isPlain_of_word (Token.kind_of_isName hname)) ?_
    refine passes_cons (Token.isPlain_of_isMark hopening (by decide)) ?_
    refine passes_append (passes_separated ?_ ih)
      (passes_token (Token.isPlain_of_isMark hclosing (by decide)))
    exact fun arg harg => Token.isPlain_of_isMark (hcommas arg harg) (by decide)
  | array hopening hclosing _ ih =>
    exact passes_append ih (passes_enclosed (Token.isAnyMark_of_isMark hopening (by decide))
      (Token.isAnyMark_of_isMark hclosing (by decide)) passes_nil)
  | paren hopening hclosing _ ih =>
    exact passes_enclosed (Token.isAnyMark_of_isMark hopening (by decide))
      (Token.isAnyMark_of_isMark hclosing (by decide)) ih
  | operand h ih => exact ih
  | keyOf hword _ ih => exact passes_cons (Token.isPlain_of_word (Token.kind_of_isWord hword)) ih
  | conjunction h ih => exact ih
  | inter hjoints _ ih =>
    refine passes_separated ?_ ih
    exact fun member hmember => Token.isPlain_of_isMark (hjoints member hmember) (by decide)
  | whole h ih => exact ih
  | union hjoints _ ih =>
    refine passes_separated ?_ ih
    exact fun member hmember => Token.isPlain_of_isMark (hjoints member hmember) (by decide)
  | func hopening hclosing harrow hnames hcolons hcommas _ _ ihparams ihret =>
    have henclosed := passes_enclosed (Token.isAnyMark_of_isMark hopening (by decide))
      (Token.isAnyMark_of_isMark hclosing (by decide)) (passes_params hnames hcolons hcommas ihparams)
    have harrow := passes_cons (Token.isPlain_of_isMark harrow (by decide)) ihret
    simpa using passes_append henclosed harrow

/-! ## What is read -/

theorem Spells.notConst {binding : Binding} {tokens : List Token} {type read : TypeExpr}
    (h : Spells binding tokens type read) : isConstType read = false := by
  induction h with
  | operand h ih => exact ih
  | conjunction h ih => exact ih
  | whole h ih => exact ih
  | _ => rfl

/-- What is read after a word or a mark is a type that another one may be about. -/
theorem Spells.operandOf_readAfterMark {binding : Binding} {tokens : List Token}
    {type read : TypeExpr} (h : Spells binding tokens type read) :
    operandOf (readAfterMark tokens read) = readAfterMark tokens read := by
  have hconst : isConstType (readAfterMark tokens read) = false := by
    unfold readAfterMark
    split
    · rename_i remark _
      cases remark <;> rfl
    · exact h.notConst
  rw [operandOf, hconst]
  rfl

theorem typesHaveUnknown_eq_false {types : List TypeExpr}
    (h : ∀ type ∈ types, type.hasUnknown = false) : typesHaveUnknown types = false := by
  induction types with
  | nil => rfl
  | cons type rest ih =>
    rw [List.forall_mem_cons] at h
    rw [typesHaveUnknown, h.1, ih h.2]
    rfl

theorem paramsHaveUnknown_eq_false {params : List Param}
    (h : ∀ param ∈ params, param.type.hasUnknown = false) : paramsHaveUnknown params = false := by
  induction params with
  | nil => rfl
  | cons param rest ih =>
    rw [List.forall_mem_cons] at h
    cases param
    rw [paramsHaveUnknown, h.1, ih h.2]
    rfl

theorem hasUnknown_readAfterMark {read : TypeExpr} (h : read.hasUnknown = false)
    (tokens : List Token) : (readAfterMark tokens read).hasUnknown = false := by
  unfold readAfterMark
  split
  · rfl
  · exact h

/-- All of a type that is spelled is of a known form. -/
theorem Spells.hasUnknown_eq_false {binding : Binding} {tokens : List Token} {type read : TypeExpr}
    (h : Spells binding tokens type read) : read.hasUnknown = false := by
  induction h with
  | keyword | name => rfl
  | applied _ _ _ _ _ _ ih =>
    rw [TypeExpr.hasUnknown]
    exact typesHaveUnknown_eq_false (List.forall_mem_map.mpr ih)
  | array _ _ _ ih => exact ih
  | paren _ _ _ ih => exact hasUnknown_readAfterMark ih _
  | operand _ ih => exact ih
  | keyOf _ _ ih => exact hasUnknown_readAfterMark ih _
  | conjunction _ ih => exact ih
  | inter _ _ ih =>
    rw [TypeExpr.hasUnknown]
    exact typesHaveUnknown_eq_false (List.forall_mem_map.mpr ih)
  | whole _ ih => exact ih
  | union _ _ ih =>
    rw [TypeExpr.hasUnknown]
    exact typesHaveUnknown_eq_false (List.forall_mem_map.mpr ih)
  | func _ _ _ _ _ _ _ _ ihparams ihret =>
    rw [TypeExpr.hasUnknown, ihret, Bool.or_false]
    refine paramsHaveUnknown_eq_false (List.forall_mem_map.mpr fun param hparam => ?_)
    exact hasUnknown_readAfterMark (ihparams param hparam) _

end Facade
