-- Reading types that are spelled: each reader takes the tokens of its part and stops at a mark that
-- cannot belong to it.
import Facade.Proofs.SpelledTypes
import Facade.Proofs.WholeTypes

namespace Facade

open Reader Grammar

variable {g : Productions} {start : Start} {ending : Ending} {place : Cursor} {more : List Token}

/-! ## Joints -/

theorem acceptJoint?_gets {joint next : Token} (h : place.Shows (joint :: next :: more))
    {text : String} (hmark : joint.isMark text)
    (htext : text ∈ ["<", "|", "&"]) (hopens : next.opensType) :
    Gets (acceptJoint? ending text) place (some joint) (next :: more) := by
  have hbrace : place.touches "\x7d" = false := h.2.1.touches_eq hopens rfl (by decide)
  have hequals : place.touches "=" = false := h.2.1.touches_eq hopens rfl (by decide)
  have hsame : place.touches text = false := by
    simp only [List.mem_cons, List.not_mem_nil, or_false] at htext
    rcases htext with rfl | rfl | rfl <;> exact h.2.1.touches_eq hopens rfl (by decide)
  refine ⟨place.next, ?_, h.2⟩
  rw [acceptJoint?_apply, h.1.view_eq, Ending.joinsAt, h.1.isAt_eq, h.1.token_eq, hmark,
    hbrace, hequals, hsame, Bool.or_false, Bool.and_false]
  rfl

theorem acceptJoint?_misses {token : Token} (h : place.Shows (token :: more)) {text : String}
    (hmark : token.isMark text = false) :
    Gets (acceptJoint? ending text) place none (token :: more) := by
  refine ⟨place, ?_, h⟩
  rw [acceptJoint?_apply, h.1.view_eq, Ending.joinsAt, h.1.token_eq, hmark]
  rfl

/-! ## Words and names -/

theorem simpleType_keyword {word : Token} (h : place.Shows (word :: more))
    (hword : word.isAnyWord predefinedWords) :
    Gets (simpleType g start ending) place
      ⟨.keyword word.text, .simple, start != .plain && !valuelessWords.contains word.text⟩ more := by
  have hkind := Token.kind_of_isAnyWord hword
  have hmem : predefinedWords.contains word.text := by
    simpa using Token.mem_of_isAnyWord hword
  refine gets_bind (peek_gets h) fun middle hmiddle => ?_
  rw [hkind]
  refine gets_bind (look_gets hmiddle) fun here hhere => ?_
  rw [if_pos hmem]
  exact gets_bind (next_gets hhere) fun stop hstop => gets_pure hstop _

section Name

variable {name : Token} (hname : name.isName)

include hname

theorem contains_of_isName {words : List String} (hwords : words ⊆ keywords) :
    words.contains name.text = false := by
  simpa using fun hmem => Token.not_mem_of_isName hname (hwords hmem)

theorem text_of_isName {word : String} (hword : word ∈ keywords) : (name.text == word) = false := by
  rw [beq_eq_false_iff_ne]
  rintro rfl
  exact Token.not_mem_of_isName hname hword

/-- A name is none of the words that are types of another form. -/
theorem simpleType_of_name (h : place.Shows (name :: more)) :
    simpleType g start ending place = reference g start ending place := by
  have hpredefined : predefinedWords.contains name.text = false :=
    contains_of_isName hname (by decide)
  have hliteral : literalWord? name.text = none := by
    have hkeyword := Token.not_mem_of_isName hname
    unfold literalWord?
    split <;> simp_all [keywords, valueWords]
  have hfirst : peek place = .ok name place := by
    rw [peek, bind_apply, look, h.1.withMarkup_eq]
    dsimp only
    rw [h.1.token_eq]
    rfl
  have hlook : look place = .ok place place := by
    rw [look, h.1.withMarkup_eq]
  rw [simpleType, bind_apply, hfirst]
  dsimp only
  rw [Token.kind_of_isName hname]
  dsimp only
  rw [wordType, bind_apply, hlook]
  dsimp only
  rw [hpredefined, text_of_isName hname (by decide), text_of_isName hname (by decide),
    text_of_isName hname (by decide), text_of_isName hname (by decide), hliteral]
  rfl

/-- After a name comes no segment of it, but possibly arguments. -/
theorem reference_of_name {follow : Token} (h : place.Shows (name :: follow :: more))
    (hdot : follow.isMark "." = false) :
    reference g start ending place = namedType g ending name.text (start != .plain) place.next := by
  have hlook : look place = .ok place place := by
    rw [look, h.1.withMarkup_eq]
  have hword : wordBut (barredWords start) place = .ok name.text place.next := by
    have hbarred : (barredWords start).contains name.text = false :=
      contains_of_isName hname (by cases start <;> decide)
    have hbut : name.isWordBut (barredWords start) := by
      rw [Token.isWordBut, Token.kind_of_isName hname, hbarred]
      rfl
    rw [wordBut, bind_apply, take_apply, h.1.withMarkup_eq, h.1.atEnd_eq, h.1.token_eq, hbut]
    rfl
  have hloop : loop (nextNamePart ending) (start != .plain) place.next =
      .ok (start != .plain) place.next := by
    have hstop : continueWith (if start != .plain then ending.ofValue else ending) (·.isMark ".")
        place.next = .ok false place.next := by
      rw [continueWith_apply, h.2.1.view_eq, h.2.1.token_eq, hdot]
      simp
    rw [loop, loopUpTo, bind_apply, nextNamePart, bind_apply, hstop]
    rfl
  rw [reference, bind_apply, hlook]
  dsimp only
  rw [bind_apply, hword]
  dsimp only
  rw [bind_apply, hloop]
  dsimp only
  rw [bind_apply, Reader.place]
  dsimp only
  rw [h.1.textUpTo_next]

end Name

theorem namedType_bare {name : String} {shared : Bool} {follow : Token}
    (h : place.Shows (follow :: more)) (hopening : follow.isMark "<" = false) :
    Gets (namedType g ending name shared) place ⟨.ref name [], .simple, shared⟩ (follow :: more) :=
  gets_bind (acceptJoint?_misses h hopening) fun _ hstop => gets_pure hstop _

theorem namedType_applied {name : String} {shared : Bool} {opening next : Token}
    {args : List TypeExpr} {rest : List Token} (h : place.Shows (opening :: next :: more))
    (hopening : opening.isMark "<") (hopens : next.opensType)
    (hargs : ∀ middle : Cursor, middle.Shows (next :: more) →
      Gets (typeArgs g .plain) middle args rest) :
    Gets (namedType g ending name shared) place (simple (.ref name args)) rest := by
  refine gets_bind (acceptJoint?_gets h hopening (by decide) hopens) fun middle hmiddle => ?_
  exact gets_bind (hargs middle hmiddle) fun _ hstop => gets_pure hstop _

/-! ## Lists of types -/

/-- One of the marks comes first. -/
def comesFirst (marks : List String) (tokens : List Token) : Bool :=
  tokens.head?.any (·.isAnyMark marks)

theorem comesFirst_mono {few many : List String} {tokens : List Token} (h : comesFirst few tokens)
    (hsubset : few ⊆ many) : comesFirst many tokens := by
  rw [comesFirst, Option.any_eq_true] at h ⊢
  obtain ⟨first, hfirst, hmark⟩ := h
  rw [Token.isAnyMark, Bool.and_eq_true, List.contains_iff_mem] at hmark
  refine ⟨first, hfirst, ?_⟩
  rw [Token.isAnyMark, Bool.and_eq_true, List.contains_iff_mem]
  exact ⟨hmark.1, hsubset hmark.2⟩

/-- The reader takes the tokens and gives the value, before any of the marks. -/
def Reader.Takes {α : Type} (reader : Reader α) (tokens : List Token) (value : α)
    (stops : List String) : Prop :=
  ∀ ⦃place : Cursor⦄ ⦃more : List Token⦄, place.Shows (tokens ++ more) → comesFirst stops more →
    Gets reader place value more

/-- The type is read from the tokens where a whole type stands. -/
def Productions.ReadsType (g : Productions) (tokens : List Token) (read : TypeExpr) : Prop :=
  ∀ (start : Start) (ending : Ending), ∃ shape shared, (start = .plain → shared = false) ∧
    (g.type start ending).Takes tokens ⟨read, shape, shared⟩ Binding.whole.stops

theorem markupTypes_of_isAt {token : Token} (h : place.IsAt token) : markupTypes token = [] := by
  rw [markupTypes, Lexer.markupCount_of_isGap h.gap, List.replicate_zero]

section TypeArgs

variable {arg : Spelled} {types : List TypeExpr}

/-- A type argument is read, up to the mark after it. -/
theorem nextTypeArg_gets {list : TypeList} {follow : Token} {round : Round TypeList (List TypeExpr)}
    {rest : List Token} (hlist : list.start = .plain) (harg : g.ReadsType arg.tokens arg.read)
    (hspells : Spells .whole arg.tokens arg.type arg.read)
    (hfollow : follow.isAnyMark Binding.whole.stops)
    (h : place.Shows (arg.tokens ++ follow :: more))
    (hmark : ∀ after : Cursor, after.Shows (follow :: more) →
      Gets (do
        if ← acceptMark "," then
          let close ← peek
          if ← acceptMark ">" then return .done (list.types ++ [arg.read] ++ markupTypes close)
          return .again ⟨.plain, list.types ++ [arg.read]⟩
        mark ">"
        return .done (list.types ++ [arg.read])) after round rest) :
    Gets (nextTypeArg g list) place round rest := by
  obtain ⟨first, behind, hfirst, -⟩ := hspells.starts.exists_cons
  have hplace := h
  rw [hfirst, List.cons_append] at hplace
  refine gets_bind (peek_gets hplace) fun middle hmiddle => ?_
  rw [← List.cons_append, ← hfirst] at hmiddle
  obtain ⟨shape, shared, hshared, hread⟩ := harg .plain .enclosed
  rw [hlist]
  refine gets_bind (hread hmiddle hfollow) fun after hafter => ?_
  rw [hshared rfl]
  refine gets_bind (look_gets hafter) fun stop hstop => ?_
  have htypes : list.types ++ markupTypes first ++ [arg.read].filter (!isConstType ·)
      ++ markupTypes after.token = list.types ++ [arg.read] := by
    rw [hafter.1.token_eq, markupTypes_of_isAt hafter.1, markupTypes_of_isAt hplace.1]
    simp [hspells.notConst]
  rw [htypes]
  exact hmark stop hstop

theorem nextTypeArg_again {comma : Token} (harg : g.ReadsType arg.tokens arg.read)
    (hspells : Spells .whole arg.tokens arg.type arg.read) (hcomma : comma.isMark ",")
    (hmore : StartsType more) (h : place.Shows (arg.tokens ++ comma :: more)) :
    Gets (nextTypeArg g ⟨.plain, types⟩) place (.again ⟨.plain, types ++ [arg.read]⟩) more := by
  obtain ⟨next, behind, rfl, hopens⟩ := hmore.exists_cons
  refine nextTypeArg_gets rfl harg hspells (Token.isAnyMark_of_isMark hcomma (by decide)) h ?_
  intro after hafter
  refine gets_bind (accept_gets hafter hcomma) fun middle hmiddle => ?_
  refine gets_bind (peek_gets hmiddle) fun stop hstop => ?_
  have hclosing : next.isMark ">" = false := Token.isMark_of_opensType hopens (by decide)
  exact gets_bind (accept_misses hstop hclosing) fun last hlast => gets_pure hlast _

theorem nextTypeArg_done {closing : Token} (harg : g.ReadsType arg.tokens arg.read)
    (hspells : Spells .whole arg.tokens arg.type arg.read) (hclosing : closing.isMark ">")
    (h : place.Shows (arg.tokens ++ closing :: more)) :
    Gets (nextTypeArg g ⟨.plain, types⟩) place (.done (types ++ [arg.read])) more := by
  refine nextTypeArg_gets rfl harg hspells (Token.isAnyMark_of_isMark hclosing (by decide)) h ?_
  intro after hafter
  have hcomma : closing.isMark "," = false := Token.isMark_of_isMark hclosing (by decide)
  refine gets_bind (accept_misses hafter hcomma) fun middle hmiddle => ?_
  exact gets_bind (mark_gets hmiddle hclosing) fun stop hstop => gets_pure hstop _

/-- Type arguments with commas between them, up to the closing bracket. -/
theorem moreTypeArgs_gets {rest : List Spelled} {closing : Token} (hclosing : closing.isMark ">")
    (hcommas : ∀ part ∈ rest, part.mark.isMark ",")
    (hreads : ∀ part ∈ arg :: rest, g.ReadsType part.tokens part.read)
    (hspells : ∀ part ∈ arg :: rest, Spells .whole part.tokens part.type part.read)
    (h : place.Shows (separated (arg :: rest) ++ closing :: more)) (fuel : Nat) :
    Gets (loopUpTo (nextTypeArg g) (fuel + rest.length + 1) ⟨.plain, types⟩) place
      (types ++ (arg :: rest).map (·.read)) more := by
  induction rest generalizing arg types place with
  | nil =>
    rw [separated, marked, List.flatMap_nil, List.append_nil] at h
    exact gets_done (nextTypeArg_done (hreads arg List.mem_cons_self)
      (hspells arg List.mem_cons_self) hclosing h)
  | cons second rest ih =>
    rw [List.forall_mem_cons] at hcommas hreads hspells
    have htokens : separated (arg :: second :: rest) ++ closing :: more =
        arg.tokens ++ second.mark :: (separated (second :: rest) ++ closing :: more) := by
      simp [separated, marked_cons]
    have hstarts : StartsType (separated (second :: rest) ++ closing :: more) := by
      refine ((hspells.2 second List.mem_cons_self).starts.separated hcommas.2).append ?_
      simp [Token.kind_of_isMark hclosing]
    rw [htokens] at h
    rw [List.length_cons, ← Nat.add_assoc, List.map_cons, List.append_cons]
    refine gets_again (nextTypeArg_again hreads.1 hspells.1 hcommas.1 hstarts h) ?_
    exact fun middle hmiddle => ih hcommas.2 hreads.2 hspells.2 hmiddle

theorem typeArgs_gets {args : List Spelled} {closing : Token} (hsome : args ≠ [])
    (hclosing : closing.isMark ">") (hcommas : ∀ part ∈ args.tail, part.mark.isMark ",")
    (hreads : ∀ part ∈ args, g.ReadsType part.tokens part.read)
    (hspells : ∀ part ∈ args, Spells .whole part.tokens part.type part.read)
    (h : place.Shows (separated args ++ closing :: more)) :
    Gets (typeArgs g .plain) place (args.map (·.read)) more := by
  obtain ⟨first, rest, rfl⟩ := List.exists_cons_of_ne_nil hsome
  have hrounds : rest.length ≤ (separated (first :: rest) ++ closing :: more).length := by
    have hrest := length_le_marked rest
    rw [separated, List.length_append, List.length_append]
    omega
  exact gets_loop h hrounds (moreTypeArgs_gets hclosing hcommas hreads hspells h)

end TypeArgs

/-! ## Types after a mark or a word -/

theorem remarkType?_gets {first : Token} (h : place.Shows (first :: more)) :
    Gets remarkType? place (first.remark?.map fun remark => .unsupported remark.kind)
      (first :: more) :=
  gets_bind (peek_gets h) fun _ hmiddle => gets_pure hmiddle _

theorem readAfterMark_cons (first : Token) (behind : List Token) (read : TypeExpr) :
    readAfterMark (first :: behind) read =
      (first.remark?.map fun remark => TypeExpr.unsupported remark.kind).getD read := by
  rw [readAfterMark, List.head?_cons, Option.bind_some]
  cases first.remark? <;> rfl

section AfterMark

variable {tokens : List Token} {stops : List String} {read : ReadType}

theorem typeAfterWord_takes {type : Reader ReadType} (hstarts : StartsType tokens)
    (htype : type.Takes tokens read stops) :
    (typeAfterWord type).Takes tokens { read with type := readAfterMark tokens read.type } stops := by
  intro place more h hmore
  obtain ⟨first, behind, rfl, -⟩ := hstarts.exists_cons
  rw [readAfterMark_cons]
  refine gets_bind (remarkType?_gets h) fun middle hmiddle => ?_
  exact gets_bind (htype hmiddle hmore) fun stop hstop => gets_pure hstop _

theorem annotation_takes (hstarts : StartsType tokens) (hconst : isConstType read.type = false)
    (htype : (g.type start ending).Takes tokens read stops) :
    ( annotation g start ending).Takes tokens { read with type := readAfterMark tokens read.type }
      stops := by
  intro place more h hmore
  obtain ⟨first, behind, rfl, -⟩ := hstarts.exists_cons
  rw [readAfterMark_cons]
  refine gets_bind (remarkType?_gets h) fun middle hmiddle => ?_
  refine gets_bind (htype hmiddle hmore) fun stop hstop => ?_
  rw [hconst]
  exact gets_pure hstop _

theorem typeInParentheses_takes {read : ReadType} (hstarts : StartsType tokens)
    (htype : (g.type (inParentheses start) .enclosed).Takes tokens read stops) :
    (typeInParentheses g start).Takes tokens read stops := by
  intro place more h hmore
  obtain ⟨first, behind, rfl, -⟩ := hstarts.exists_cons
  refine gets_bind (look_gets h) fun middle hmiddle => ?_
  dsimp only
  rw [h.1.token_eq, hstarts.notConst, Bool.false_and]
  exact gets_bind (htype hmiddle hmore) fun stop hstop => gets_pure hstop _

theorem groupedType_gets {opening closing : Token} {read : TypeExpr} (hopening : opening.isMark "(")
    (hclosing : closing.isMark ")") (hstarts : StartsType tokens) (hreads : g.ReadsType tokens read)
    (h : place.Shows (opening :: tokens ++ closing :: more)) :
    Gets (groupedType g start) place (simple (.paren (readAfterMark tokens read))) more := by
  obtain ⟨shape, shared, -, hread⟩ := hreads (inParentheses start) .enclosed
  refine gets_bind (mark_gets h hopening) fun middle hmiddle => ?_
  have hinner := typeAfterWord_takes hstarts (typeInParentheses_takes hstarts hread)
  refine gets_bind (hinner hmiddle ?_) fun stop hstop => ?_
  · exact Token.isAnyMark_of_isMark hclosing (by decide)
  · exact gets_bind (mark_gets hstop hclosing) fun last hlast => gets_pure hlast _

end AfterMark

/-! ## Brackets behind a type -/

/-- The type is read from the tokens, and then what is behind it is read. -/
def ReadsPrimary (g : Productions) (tokens : List Token) (read : TypeExpr) : Prop :=
  ∀ (start : Start) (ending : Ending), ∃ shared, (start = .plain → shared = false) ∧
    ∀ {place : Cursor} {more rest : List Token} {result : ReadType},
      place.Shows (tokens ++ more) → comesFirst Binding.primary.stops more →
      (∀ (fuel : Nat) (middle : Cursor), more.length < fuel → middle.Shows more →
        Gets (loopUpTo (nextBrackets g ending) fuel ⟨read, .simple, shared⟩) middle result rest) →
      Gets (simpleType g start ending >>= withBrackets g ending) place result rest

section Brackets

variable {tokens : List Token} {read : TypeExpr}

/-- No brackets come next. -/
theorem nextBrackets_misses {read : ReadType} (h : place.Shows more)
    (hmore : comesFirst Binding.operand.stops more) :
    Gets (nextBrackets g ending read) place (.done read) more := by
  cases more with
  | nil => cases hmore
  | cons follow more =>
    have hopening : follow.isMark "[" = false := Token.isMark_of_isAnyMark hmore (by decide)
    exact gets_bind (continueWith_misses h hopening) fun stop hstop => gets_pure hstop _

theorem withBrackets_misses {read : ReadType} (h : place.Shows more)
    (hmore : comesFirst Binding.operand.stops more) :
    Gets (withBrackets g ending read) place read more :=
  gets_loop h (Nat.zero_le _) fun _ => gets_done (nextBrackets_misses h hmore)

theorem readsPrimary_of_takes
    (h : ∀ (start : Start) (ending : Ending),
      ∃ shared, (start = .plain → shared = false) ∧
        (simpleType g start ending).Takes tokens ⟨read, .simple, shared⟩ Binding.primary.stops) :
    ReadsPrimary g tokens read := by
  intro start ending
  obtain ⟨shared, hshared, htakes⟩ := h start ending
  refine ⟨shared, hshared, fun hplace hmore hbrackets => ?_⟩
  refine gets_bind (htakes hplace hmore) fun middle hmiddle => ?_
  refine hbrackets (middle.left + 2) middle ?_ hmiddle
  have hlength := hmiddle.length_le
  omega

theorem ReadsPrimary.array {opening closing : Token} (h : ReadsPrimary g tokens read)
    (hopening : opening.isMark "[") (hclosing : closing.isMark "]") :
    ReadsPrimary g (tokens ++ [opening, closing]) (.array read) := by
  intro start ending
  obtain ⟨shared, hshared, hread⟩ := h start ending
  refine ⟨false, fun _ => rfl, fun {place more rest result} hplace hmore hbrackets => ?_⟩
  rw [List.append_assoc] at hplace
  refine hread hplace (Token.isAnyMark_of_isMark hopening (by decide)) ?_
  intro fuel middle hfuel hmiddle
  obtain ⟨fuel, rfl⟩ : ∃ less, fuel = less + 1 := ⟨fuel - 1, by omega⟩
  refine gets_again ?_ fun stop hstop => hbrackets fuel stop ?_ hstop
  · refine gets_bind (continueWith_gets hmiddle _ hopening) ?_
    intro inner hinner
    exact gets_bind (accept_gets hinner hclosing) fun stop hstop => gets_pure hstop _
  · simp only [List.cons_append, List.nil_append, List.length_cons] at hfuel
    omega

theorem readsPrimary_keyword {word : Token} (hword : word.isAnyWord predefinedWords) :
    ReadsPrimary g [word] (.keyword word.text) := by
  refine readsPrimary_of_takes fun start ending => ⟨_, ?_, fun _ _ h _ => simpleType_keyword h hword⟩
  rintro rfl
  rfl

theorem readsPrimary_name {name : Token} (hname : name.isName) :
    ReadsPrimary g [name] (.ref name.text []) := by
  refine readsPrimary_of_takes fun start ending =>
    ⟨start != .plain, by simp, fun place more h hmore => ?_⟩
  cases more with
  | nil => cases hmore
  | cons follow more =>
    have hdot : follow.isMark "." = false := Token.isMark_of_isAnyMark hmore (by decide)
    have hopening : follow.isMark "<" = false := Token.isMark_of_isAnyMark hmore (by decide)
    refine gets_of_eq ((simpleType_of_name hname h).trans (reference_of_name hname h hdot)) ?_
    exact namedType_bare h.2 hopening

theorem readsPrimary_applied {name opening closing : Token} {args : List Spelled}
    (hname : name.isName) (hopening : opening.isMark "<") (hclosing : closing.isMark ">")
    (hsome : args ≠ []) (hcommas : ∀ arg ∈ args.tail, arg.mark.isMark ",")
    (hspells : ∀ arg ∈ args, Spells .whole arg.tokens arg.type arg.read)
    (hreads : ∀ arg ∈ args, g.ReadsType arg.tokens arg.read) :
    ReadsPrimary g (name :: opening :: separated args ++ [closing])
      (.ref name.text (args.map (·.read))) := by
  obtain ⟨first, rest, rfl⟩ := List.exists_cons_of_ne_nil hsome
  rw [List.tail_cons] at hcommas
  obtain ⟨next, behind, hnext, hopens⟩ :=
    ((hspells first List.mem_cons_self).starts.separated hcommas).exists_cons
  refine readsPrimary_of_takes fun start ending =>
    ⟨false, fun _ => rfl, fun place more h _ => ?_⟩
  have hplace : place.Shows
      (name :: opening :: (separated (first :: rest) ++ closing :: more)) := by
    simpa using h
  have hdot : opening.isMark "." = false := Token.isMark_of_isMark hopening (by decide)
  refine gets_of_eq
    ((simpleType_of_name hname hplace).trans (reference_of_name hname hplace hdot)) ?_
  have harg := hplace.2
  rw [hnext, List.cons_append] at harg
  refine namedType_applied harg hopening hopens fun middle hmiddle => ?_
  rw [← List.cons_append, ← hnext] at hmiddle
  exact typeArgs_gets hsome hclosing hcommas hreads hspells hmiddle

theorem readsPrimary_paren {opening closing : Token} (hopening : opening.isMark "(")
    (hclosing : closing.isMark ")") (hstarts : StartsType tokens) (hreads : g.ReadsType tokens read) :
    ReadsPrimary g (opening :: tokens ++ [closing]) (.paren (readAfterMark tokens read)) := by
  refine readsPrimary_of_takes fun start ending =>
    ⟨false, fun _ => rfl, fun place more h _ => ?_⟩
  rw [List.append_assoc] at h
  refine gets_bind (peek_gets h) fun middle hmiddle => ?_
  rw [Token.kind_of_isMark hopening, Token.text_of_isMark hopening]
  exact groupedType_gets hopening hclosing hstarts hreads hmiddle

end Brackets

/-! ## Operands -/

/-- The place after the bracket that closes the one at a place. -/
theorem closing?_of_passes {opening closing : Token} {tokens : List Token}
    (hclosing : closing.isAnyMark [")", "]"]) (hpasses : Passes tokens)
    (h : place.Shows (opening :: tokens ++ closing :: more)) :
    ∃ stop, place.closing? = some stop ∧ stop.Shows more := by
  obtain ⟨middle, hmiddle, hpass⟩ := hpasses [] place.next (closing :: more) h.2
  have hlength := h.length_le
  simp only [List.cons_append, List.length_cons, List.length_append] at hlength
  obtain ⟨fuel, hfuel⟩ : ∃ fuel, place.left = fuel + 1 + tokens.length :=
    ⟨place.left - 1 - tokens.length, by omega⟩
  refine ⟨middle.next, ?_, hmiddle.2⟩
  rw [Cursor.closing?, hfuel, hpass, afterClosing?_closing hmiddle.1 hclosing]

theorem arrowFollows_of_passes {opening closing follow : Token} {tokens : List Token}
    (hclosing : closing.isAnyMark [")", "]"]) (hpasses : Passes tokens)
    (h : place.Shows (opening :: tokens ++ closing :: follow :: more)) :
    arrowFollows place = follow.isMark "=>" := by
  obtain ⟨stop, hstop, hfollow⟩ := closing?_of_passes hclosing hpasses h
  rw [arrowFollows, hstop, Option.any_some, hfollow.1.withMarkup_eq, hfollow.1.token_eq]

/-- A word, a name or a parenthesis that opens no function type. -/
def StartsPrimary (place : Cursor) : Prop :=
  place.token.isName ∨ place.token.isAnyWord predefinedWords ∨
    place.token.isMark "(" ∧ arrowFollows place = false

theorem Spells.startsPrimary {tokens : List Token} {type read : TypeExpr}
    (h : Spells .primary tokens type read) (hplace : place.Shows (tokens ++ more))
    (hmore : comesFirst Binding.primary.stops more) : StartsPrimary place := by
  generalize hbinding : Binding.primary = binding at h
  induction h generalizing more with
  | keyword hword => exact .inr (.inl (hplace.1.token_eq ▸ hword))
  | name hname => exact .inl (hplace.1.token_eq ▸ hname)
  | applied hname => exact .inl (hplace.1.token_eq ▸ hname)
  | array hopening hclosing helement ih =>
    rw [List.append_assoc] at hplace
    exact ih hplace (Token.isAnyMark_of_isMark hopening (by decide)) rfl
  | paren hopening hclosing hinner ih =>
    cases more with
    | nil => cases hmore
    | cons follow more =>
      rw [List.append_assoc] at hplace
      refine .inr (.inr ⟨hplace.1.token_eq ▸ hopening, ?_⟩)
      rw [arrowFollows_of_passes (Token.isAnyMark_of_isMark hclosing (by decide)) hinner.passes hplace]
      exact Token.isMark_of_isAnyMark hmore (by decide)
  | _ => cases hbinding

/-- The words that stand in front of a type. -/
def frontWords : List String := ["keyof", "readonly", "new", "abstract", "infer", "import"]

theorem StartsPrimary.isAnyWord (h : StartsPrimary place) {words : List String}
    (hwords : words ⊆ frontWords) : place.token.isAnyWord words = false := by
  have hkeywords : frontWords ⊆ keywords := by decide
  have hpredefined : ∀ word ∈ predefinedWords, word ∉ frontWords := by decide
  rw [Bool.eq_false_iff]
  intro hword
  have hmem := hwords (Token.mem_of_isAnyWord hword)
  rcases h with hname | hkeyword | ⟨hmark, -⟩
  · exact Token.not_mem_of_isName hname (hkeywords hmem)
  · exact hpredefined _ (Token.mem_of_isAnyWord hkeyword) hmem
  · have hkind := Token.kind_of_isAnyWord hword
    rw [Token.kind_of_isMark hmark] at hkind
    cases hkind

theorem StartsPrimary.isWord (h : StartsPrimary place) {word : String} (hword : word ∈ frontWords) :
    place.token.isWord word = false := by
  have hany := h.isAnyWord (List.cons_subset.mpr ⟨hword, List.nil_subset _⟩)
  simpa [Token.isAnyWord, Token.isWord] using hany

theorem StartsPrimary.isMark (h : StartsPrimary place) {mark : String} (hmark : mark ≠ "(") :
    place.token.isMark mark = false := by
  rcases h with hname | hpredefined | ⟨hparen, -⟩
  · exact Token.isMark_of_kind (by simp [Token.kind_of_isName hname])
  · exact Token.isMark_of_kind (by simp [Token.kind_of_isAnyWord hpredefined])
  · exact Token.isMark_of_isMark hparen hmark.symm

theorem StartsPrimary.arrow (h : StartsPrimary place) :
    (place.token.isMark "(" && arrowFollows place) = false := by
  rcases h with hname | hpredefined | ⟨-, harrow⟩
  · rw [Token.isMark_of_kind (by simp [Token.kind_of_isName hname]), Bool.false_and]
  · rw [Token.isMark_of_kind (by simp [Token.kind_of_isAnyWord hpredefined]), Bool.false_and]
  · rw [harrow, Bool.and_false]

/-- The type is read from the tokens where an operand stands. -/
def ReadsOperand (g : Productions) (tokens : List Token) (read : TypeExpr) : Prop :=
  ∀ (start : Start) (ending : Ending), ∃ shared, (start = .plain → shared = false) ∧
    (operandType g start ending).Takes tokens ⟨read, .simple, shared⟩ Binding.operand.stops

theorem operandType_of_primary {first : Token} {read : ReadType} {rest : List Token}
    (hstart : StartsPrimary place) (h : place.Shows (first :: more))
    (hread : ∀ middle : Cursor, middle.Shows (first :: more) →
      Gets (simpleType g start ending >>= withBrackets g ending) middle read rest) :
    Gets (operandType g start ending) place read rest := by
  refine gets_bind (look_gets h) fun middle hmiddle => ?_
  dsimp only
  rw [hstart.isWord (by decide), hstart.isWord (by decide), hstart.isAnyWord (by decide),
    hstart.isWord (by decide), hstart.isWord (by decide), hstart.isMark (by decide),
    hstart.isMark (by decide), hstart.isMark (by decide), hstart.isMark (by decide), hstart.arrow]
  simp only [Bool.or_self, Bool.false_eq_true, if_false]
  refine gets_of_eq (bind_bind _ _ _ middle) ?_
  refine gets_bind (hread middle hmiddle) fun stop hstop => ?_
  exact gets_bind (settle_gets hstop _) fun last hlast => gets_pure hlast _

theorem readsOperand_of_primary {tokens : List Token} {type read : TypeExpr}
    (hspells : Spells .primary tokens type read) (hreads : ReadsPrimary g tokens read) :
    ReadsOperand g tokens read := by
  intro start ending
  obtain ⟨shared, hshared, hread⟩ := hreads start ending
  refine ⟨shared, hshared, fun place more h hmore => ?_⟩
  obtain ⟨first, behind, rfl, -⟩ := hspells.starts.exists_cons
  have hprimary : comesFirst Binding.primary.stops more := comesFirst_mono hmore (by decide)
  refine operandType_of_primary (hspells.startsPrimary h hprimary) h fun middle hmiddle => ?_
  refine hread hmiddle hprimary fun fuel stop hfuel hstop => ?_
  obtain ⟨fuel, rfl⟩ : ∃ less, fuel = less + 1 := ⟨fuel - 1, by omega⟩
  exact gets_done (nextBrackets_misses hstop hmore)

/-- The type is read from the tokens where an operand is nested. -/
def Productions.ReadsOperand (g : Productions) (tokens : List Token) (read : TypeExpr) : Prop :=
  ∀ ending : Ending,
    (g.operand .plain ending).Takes tokens ⟨read, .simple, false⟩ Binding.operand.stops

theorem readsOperand_keyOf {word : Token} {tokens : List Token} {read : TypeExpr}
    (hword : word.isWord "keyof") (hstarts : StartsType tokens)
    (hoperand : operandOf (readAfterMark tokens read) = readAfterMark tokens read)
    (hreads : g.ReadsOperand tokens read) :
    ReadsOperand g (word :: tokens) (.keyOf (readAfterMark tokens read)) := by
  intro start ending
  refine ⟨false, fun _ => rfl, fun place more h hmore => ?_⟩
  have hinner : (do
      let read ← g.operand .plain ending
      if read.shape == .loose then largerType g ending read else return read : Reader ReadType).Takes
      tokens ⟨read, .simple, false⟩ Binding.operand.stops := by
    intro place more h hmore
    exact gets_bind (hreads ending h hmore) fun stop hstop => gets_pure hstop _
  refine gets_bind (look_gets h) fun middle hmiddle => ?_
  dsimp only
  rw [h.1.token_eq, hword]
  refine gets_bind ?_ fun stop hstop => gets_bind (settle_gets hstop _) fun last hlast =>
    gets_pure hlast _
  refine gets_bind (keyword_gets hmiddle hword) fun inner hinner' => ?_
  refine gets_bind (typeAfterWord_takes hstarts hinner hinner' hmore) fun stop hstop => ?_
  rw [hoperand]
  exact gets_pure hstop _

/-! ## Joined types -/

section Joined

variable {joint : Joint} {part : Reader ReadType} {stops : List String} {left : ReadType}

theorem joinedType?_gets {mark : Token} {tokens : List Token} {right : ReadType}
    (hjoint : joint ∈ joints) (hmark : mark.isMark joint.mark) (hstarts : StartsType tokens)
    (hpart : part.Takes tokens right stops) (hstops : comesFirst stops more)
    (hbrackets : comesFirst Binding.operand.stops more)
    (h : place.Shows (mark :: tokens ++ more)) :
    Gets (joinedType? g joint ending part left) place
      (some ⟨joint.join (partsFor joint.shape left ++ partsFor joint.shape right), joint.shape, false⟩)
      more := by
  obtain ⟨first, behind, rfl, hopens⟩ := hstarts.exists_cons
  have htext : joint.mark ∈ ["<", "|", "&"] := by
    simp only [joints, List.mem_cons, List.not_mem_nil, or_false] at hjoint
    rcases hjoint with rfl | rfl <;> decide
  refine gets_bind (acceptJoint?_gets h hmark htext hopens) fun middle hmiddle => ?_
  refine gets_bind (peek_gets hmiddle) fun inner hinner => ?_
  refine gets_bind (hpart hinner hstops) fun stop hstop => ?_
  rw [markupTypes_of_isAt h.1, markupTypes_of_isAt hmiddle.1, List.append_nil, List.append_nil]
  exact gets_bind (withBrackets_misses hstop hbrackets) fun last hlast => gets_pure hlast _

theorem joinedType?_misses (hmark : comesFirst stops more) (hstops : joint.mark ∉ stops)
    (h : place.Shows more) : Gets (joinedType? g joint ending part left) place none more := by
  cases more with
  | nil => cases hmark
  | cons follow more =>
    exact gets_bind (acceptJoint?_misses h (Token.isMark_of_isAnyMark hmark hstops))
      fun _ hstop => gets_pure hstop _

theorem nextJoined_misses (hmark : comesFirst stops more) (hstops : joint.mark ∉ stops)
    (h : place.Shows more) : Gets (nextJoined g joint ending part left) place (.done left) more :=
  gets_bind (joinedType?_misses hmark hstops h) fun _ hstop => gets_pure hstop _

theorem joinedTypes_misses (hmark : comesFirst stops more) (hstops : joint.mark ∉ stops)
    (h : place.Shows more) : Gets (joinedTypes g joint ending part left) place left more :=
  gets_loop h (Nat.zero_le _) fun _ => gets_done (nextJoined_misses hmark hstops h)

/-- What is read when members are joined to a type, one after the other. -/
def Grammar.Joint.joinAll (joint : Joint) (left : ReadType) (members : List Spelled) : ReadType :=
  members.foldl (fun left member =>
    ⟨joint.join (partsFor joint.shape left ++ [member.read]), joint.shape, false⟩) left

theorem joinAll_cons (hjoint : joint ∈ joints) (member : Spelled) (members : List Spelled) :
    joint.joinAll left (member :: members) =
      ⟨joint.join (partsFor joint.shape left ++ (member :: members).map (·.read)), joint.shape,
        false⟩ := by
  induction members generalizing left member with
  | nil => rfl
  | cons second members ih =>
    rw [Joint.joinAll, List.foldl_cons, ← Joint.joinAll, ih, partsFor_join joint hjoint]
    simp

/-- A member is read from its tokens, and it is no member of another kind. -/
def Grammar.Joint.TakesMember (joint : Joint) (part : Reader ReadType) (stops : List String)
    (member : Spelled) : Prop :=
  ∃ right, partsFor joint.shape right = [member.read] ∧ part.Takes member.tokens right stops

theorem comesFirst_members {mark : String} {members : List Spelled}
    (hmarks : ∀ member ∈ members, member.mark.isMark mark) (hmore : comesFirst stops more) :
    comesFirst (mark :: stops) (marked members ++ more) := by
  cases members with
  | nil => exact comesFirst_mono hmore (List.subset_cons_self _ _)
  | cons member members =>
    exact Token.isAnyMark_of_isMark (hmarks member List.mem_cons_self) List.mem_cons_self

theorem moreJoined_gets {members : List Spelled} (hjoint : joint ∈ joints)
    (hmarks : ∀ member ∈ members, member.mark.isMark joint.mark)
    (hstarts : ∀ member ∈ members, StartsType member.tokens)
    (hmembers : ∀ member ∈ members, joint.TakesMember part (joint.mark :: stops) member)
    (hmark : joint.mark ∉ stops) (hstops : stops ⊆ Binding.operand.stops)
    (hmore : comesFirst stops more)
    (h : place.Shows (marked members ++ more)) (fuel : Nat) :
    Gets (loopUpTo (nextJoined g joint ending part) (fuel + members.length + 1) left) place
      (joint.joinAll left members) more := by
  induction members generalizing left place with
  | nil => exact gets_done (nextJoined_misses hmore hmark h)
  | cons member members ih =>
    rw [List.forall_mem_cons] at hmarks hstarts hmembers
    obtain ⟨right, hright, htakes⟩ := hmembers.1
    rw [marked_cons, List.append_assoc] at h
    have hfirst := comesFirst_members hmarks.2 hmore
    have hbrackets : joint.mark :: stops ⊆ Binding.operand.stops := by
      rw [List.cons_subset]
      rcases joint_cases hjoint with rfl | rfl
      · exact ⟨by decide, hstops⟩
      · exact ⟨by decide, hstops⟩
    have hjoined : Gets (joinedType? g joint ending part left) place _ (marked members ++ more) :=
      joinedType?_gets hjoint hmarks.1 hstarts.1 htakes hfirst (comesFirst_mono hfirst hbrackets) h
    rw [hright] at hjoined
    refine gets_again (gets_bind hjoined fun stop hstop => gets_pure hstop _) ?_
    intro middle hmiddle
    exact ih hmarks.2 hstarts.2 hmembers.2 hmiddle

theorem joinedTypes_gets {members : List Spelled} (hjoint : joint ∈ joints)
    (hmarks : ∀ member ∈ members, member.mark.isMark joint.mark)
    (hstarts : ∀ member ∈ members, StartsType member.tokens)
    (hmembers : ∀ member ∈ members, joint.TakesMember part (joint.mark :: stops) member)
    (hmark : joint.mark ∉ stops) (hstops : stops ⊆ Binding.operand.stops)
    (hmore : comesFirst stops more)
    (h : place.Shows (marked members ++ more)) :
    Gets (joinedTypes g joint ending part left) place (joint.joinAll left members) more := by
  have hrounds : members.length ≤ (marked members ++ more).length := by
    rw [List.length_append]
    exact Nat.le_trans (length_le_marked members) (Nat.le_add_right _ _)
  exact gets_loop h hrounds
    (moreJoined_gets hjoint hmarks hstarts hmembers hmark hstops hmore h)

end Joined

/-! ## Conjunctions -/

/-- The type is read from the tokens where a conjunction stands: first an operand, and then what is
joined to it. -/
def ReadsConjunction (g : Productions) (tokens : List Token) (read : TypeExpr) : Prop :=
  ∀ (start : Start) (ending : Ending),
    ∃ (first whole : ReadType) (behind : List Token),
      whole.type = read ∧ (start = .plain → whole.shared = false) ∧
      partsFor .union whole = [read] ∧
      (∀ {place : Cursor} {more : List Token}, place.Shows (tokens ++ more) →
        comesFirst Binding.conjunction.stops more →
        Gets (operandType g start ending) place first (behind ++ more)) ∧
      (intersectionFrom g ending first).Takes behind whole Binding.conjunction.stops

theorem partsFor_single {shape other : TypeShape} {read : TypeExpr} {shared : Bool}
    (hshape : shape ≠ other) (hconst : isConstType read = false) :
    partsFor shape ⟨read, other, shared⟩ = [read] := by
  simp [partsFor, hshape, hconst]

theorem readsConjunction_of_operand {tokens : List Token} {read : TypeExpr}
    (hconst : isConstType read = false) (hreads : ReadsOperand g tokens read) :
    ReadsConjunction g tokens read := by
  intro start ending
  obtain ⟨shared, hshared, htakes⟩ := hreads start ending
  refine ⟨⟨read, .simple, shared⟩, ⟨read, .simple, shared⟩, [], rfl, hshared,
    partsFor_single (by decide) hconst, ?_, ?_⟩
  · intro place more h hmore
    exact htakes h (comesFirst_mono hmore (by decide))
  · intro place more h hmore
    exact joinedTypes_misses hmore (by decide) h

theorem readsConjunction_inter {first second : Spelled} {rest : List Spelled}
    (hjoints : ∀ member ∈ second :: rest, member.mark.isMark "&")
    (hspells : ∀ member ∈ first :: second :: rest,
      Spells .operand member.tokens member.type member.read)
    (hreads : ∀ member ∈ first :: second :: rest, ReadsOperand g member.tokens member.read) :
    ReadsConjunction g (separated (first :: second :: rest))
      (.inter ((first :: second :: rest).map (·.read))) := by
  intro start ending
  rw [List.forall_mem_cons] at hspells hreads
  obtain ⟨shared, hshared, htakes⟩ := hreads.1 start ending
  refine ⟨⟨first.read, .simple, shared⟩, ⟨.inter ((first :: second :: rest).map (·.read)),
    .intersection, false⟩, marked (second :: rest), rfl, fun _ => rfl, rfl, ?_, ?_⟩
  · intro place more h hmore
    rw [separated, List.append_assoc] at h
    exact htakes h (comesFirst_members hjoints hmore)
  · intro place more h hmore
    have hmembers : ∀ member ∈ second :: rest,
        intersectionJoint.TakesMember (operandType g .plain ending) Binding.operand.stops member := by
      intro member hmember
      obtain ⟨shared, hshared, htakes⟩ := hreads.2 member hmember .plain ending
      refine ⟨_, ?_, htakes⟩
      exact partsFor_single (by decide) (hspells.2 member hmember).notConst
    have hjoined : Gets (intersectionFrom g ending ⟨first.read, .simple, shared⟩) place _ more :=
      joinedTypes_gets mem_joints_intersection hjoints
        (fun member hmember => (hspells.2 member hmember).starts) hmembers (by decide) (by decide)
        hmore h
    rw [joinAll_cons mem_joints_intersection,
      partsFor_single (by decide) hspells.1.notConst] at hjoined
    exact hjoined

/-! ## Whole types -/

/-- The type is read from the tokens where a whole type stands. -/
def ReadsWhole (g : Productions) (tokens : List Token) (read : TypeExpr) : Prop :=
  ∀ (start : Start) (ending : Ending), ∃ shape shared, (start = .plain → shared = false) ∧
    (type g start ending).Takes tokens ⟨read, shape, shared⟩ Binding.whole.stops

theorem type_gets {first found : ReadType} {tokens : List Token}
    (hmore : comesFirst Binding.whole.stops more)
    (hfirst : Gets (operandType g start ending) place first tokens)
    (hfound : ∀ middle : Cursor, middle.Shows tokens →
      Gets (unionFrom g ending first) middle found more) :
    Gets (type g start ending) place found more := by
  cases more with
  | nil => cases hmore
  | cons follow more =>
    have hextends : follow.isWord "extends" = false := Token.isWord_of_kind (by
      rw [comesFirst, List.head?_cons, Option.any_some, Token.isAnyMark, Bool.and_eq_true,
        beq_iff_eq] at hmore
      simp [hmore.1])
    refine gets_bind hfirst fun middle hmiddle => ?_
    refine gets_bind (gets_loop hmiddle (Nat.zero_le _) fun _ => gets_done ?_) fun stop hstop =>
      gets_bind (settle_gets hstop _) fun last hlast => gets_pure hlast _
    refine gets_bind (hfound middle hmiddle) fun stop hstop => ?_
    exact gets_bind (continueWith_misses hstop hextends) fun last hlast => gets_pure hlast _

theorem readsWhole_of_conjunction {tokens : List Token} {read : TypeExpr}
    (hreads : ReadsConjunction g tokens read) : ReadsWhole g tokens read := by
  intro start ending
  obtain ⟨first, ⟨read, shape, shared⟩, behind, rfl, hshared, -, hfirst, hinter⟩ := hreads start ending
  refine ⟨shape, shared, hshared, fun place more h hmore => ?_⟩
  have hstops : comesFirst Binding.conjunction.stops more := comesFirst_mono hmore (by decide)
  refine type_gets hmore (hfirst h hstops) fun middle hmiddle => ?_
  refine gets_bind (hinter hmiddle hstops) fun stop hstop => ?_
  exact joinedTypes_misses hmore (by decide) hstop

theorem readsWhole_union {first second : Spelled} {rest : List Spelled}
    (hjoints : ∀ member ∈ second :: rest, member.mark.isMark "|")
    (hspells : ∀ member ∈ first :: second :: rest,
      Spells .conjunction member.tokens member.type member.read)
    (hreads : ∀ member ∈ first :: second :: rest, ReadsConjunction g member.tokens member.read) :
    ReadsWhole g (separated (first :: second :: rest))
      (.union ((first :: second :: rest).map (·.read))) := by
  intro start ending
  rw [List.forall_mem_cons] at hspells hreads
  obtain ⟨operand, whole, behind, htype, hshared, hparts, hfirst, hinter⟩ := hreads.1 start ending
  refine ⟨.union, false, fun _ => rfl, fun place more h hmore => ?_⟩
  have hmembers : ∀ member ∈ second :: rest,
      unionJoint.TakesMember (intersectionType g .plain ending) Binding.conjunction.stops member := by
    intro member hmember
    obtain ⟨operand, whole, behind, htype, -, hparts, hfirst, hinter⟩ :=
      hreads.2 member hmember .plain ending
    refine ⟨whole, hparts, fun place more h hmore => ?_⟩
    exact gets_bind (hfirst h hmore) fun middle hmiddle => hinter hmiddle hmore
  have hstops := comesFirst_members hjoints hmore
  rw [separated, List.append_assoc] at h
  refine type_gets hmore (hfirst h hstops) fun middle hmiddle => ?_
  refine gets_bind (hinter hmiddle hstops) fun stop hstop => ?_
  have hjoined : Gets (joinedTypes g unionJoint ending (intersectionType g .plain ending) whole) stop
      _ more :=
    joinedTypes_gets mem_joints_union hjoints
      (fun member hmember => (hspells.2 member hmember).starts) hmembers (by decide) (by decide)
      hmore hstop
  rw [joinAll_cons mem_joints_union] at hjoined
  rw [List.map_cons, ← List.singleton_append, ← hparts]
  exact hjoined

end Facade
