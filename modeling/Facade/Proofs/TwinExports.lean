-- Exports at twins.
import Facade.Proofs.TwinDeclarations

namespace Facade

open Lexer Reader Grammar

set_option synthInstance.maxSize 4096

/-! ## Texts of values -/

/-- What belongs to a form that ends without a mark stands in front of the token. -/
theorem Cursor.endAfter?_le {form : Form} {size count : Nat} {chars : List Char}
    {leading : List Trivia}
    (h : endAfter? form size chars leading = some count) : count ≤ size + Trivia.size leading := by
  fun_induction endAfter? form size chars leading with
  | case1 => simp_all
  | case2 => simp_all
  | case3 size text hends =>
    cases h
    omega
  | case4 => simp_all
  | case5 =>
    cases h
    omega
  | case6 size text remark more hends ih =>
    have hle := ih h
    simp only [Trivia.size, Trivia.chars_cons, List.length_append, String.length_toList,
      Trivia.text] at hle ⊢
    omega
  | case7 =>
    cases h
    omega
  | case8 size remark more _ _ hends ih =>
    have hle := ih h
    simp only [Trivia.size, Trivia.chars_cons, List.length_append, String.length_toList] at hle ⊢
    omega

namespace Twin

variable {s : Spot} {start start' stop stop' : Cursor}

/-- What belongs to a value that ends with a body. -/
def bodyEnd (stop : Cursor) : Nat := if stop.before == .body then (stop.end? .value).getD 0 else 0

theorem kind_of_brace {token : Token} {rest : List Char} (h : token.LexesBefore rest)
    (htext : token.text = "\x7d") :
    token.kind = .mark := by
  have hkind := congrArg Prod.fst h.token
  rw [htext] at hkind
  change (Lexer.token ('\x7d' :: rest)).1 = token.kind at hkind
  rw [token_operatorChar (by decide), markToken_other (by decide) (by decide) (by decide)] at hkind
  exact hkind.symm

theorem bodyEnd_le (stop : Cursor) : bodyEnd stop ≤ stop.gap := by
  unfold bodyEnd
  split
  · cases hend : stop.end? .value with
    | none => exact Nat.zero_le _
    | some count =>
      have hle := Cursor.endAfter?_le hend
      rw [Nat.zero_add] at hle
      exact hle
  · exact Nat.zero_le _

/-- A value that is one word is the same at twins, with what belongs to it. -/
theorem textUpTo_word (hstart : Twin s start start') (hstop : Twin s stop stop')
    (hone : isOneToken start stop) (hword : start.token.kind = .word) :
    start'.textUpTo stop' (bodyEnd stop') = start.textUpTo stop (bodyEnd stop) := by
  have hrest := s.length_rest
  rw [isOneToken, beq_iff_eq] at hone
  have hle := bodyEnd_le stop
  cases hstop with
  | @ahead token more before h hmore =>
    -- the value stands in front of the spot with all that belongs to it
    have hend : bodyEnd ⟨token, more ++ s.noted, (token.text.toList ++ (more ++ s.noted)).length,
      before⟩ =
        bodyEnd ⟨token, more ++ s.rest, (token.text.toList ++ (more ++ s.rest)).length,
          before⟩ := by
      unfold bodyEnd
      rw [end?_eq_of_ahead h hmore]
    rw [hend]
    generalize bodyEnd _ = count at hle
    simp only [Cursor.gap, List.length_append, String.length_toList] at hone hle
    cases hstart with
    | @ahead first between _ hfirst hbetween =>
      simp only [Cursor.textUpTo, Cursor.gap, Cursor.chars, List.length_append,
        String.length_toList] at hone ⊢
      have htake (tail : List Char) (size : Nat)
        (hsize : size ≤ first.text.length + between.length) :
          (first.text.toList ++ (between ++ tail)).take size =
            (first.text.toList ++ between).take size := by
        rw [← List.append_assoc, List.take_append_of_le_length
          (by rwa [List.length_append, String.length_toList])]
      rw [htake _ _ (by omega), htake _ _ (by omega)]
      congr 2
      omega
    | here =>
      have hpos := length_pos_of_ne_empty s.text_ne_empty
      dsimp only at hone
      omega
    | past hin hleft => omega
  | @here before hbody =>
    simp only [Cursor.gap, Trivia.size] at hone
    cases hstart with
    | @ahead first between _ hfirst hbetween =>
      simp only [List.length_append, String.length_toList] at hone
      have hnil : between = [] := List.eq_nil_of_length_eq_zero (by omega)
      have hbefore : before ≠ .body := by
        intro heq
        have hlast := hbody heq
        rcases hfirst.last hnil with htext | ⟨-, harrow⟩
        · rw [hlast] at htext
          rw [kind_of_brace hfirst.lexes htext] at hword
          cases hword
        · rw [hlast] at harrow
          revert harrow
          decide
      have hzero (token : Token) (after : List Char) (left : Nat) :
          bodyEnd ⟨token, after, left, before⟩ = 0 := by
        rw [bodyEnd, if_neg (by simpa using hbefore)]
      rw [hzero, hzero]
      refine (Twin.ahead hfirst hbetween).textUpTo_eq (.here hbody) (.inr ?_)
      simp only [Cursor.gap, Trivia.size]
      omega
    | here =>
      have hpos := length_pos_of_ne_empty s.text_ne_empty
      dsimp only at hone
      omega
    | past hin hleft => omega
  | past hin hleft hcut =>
    cases hstart with
    | ahead h hmore =>
      simp only [List.length_append, String.length_toList] at hone
      omega
    | here => rfl
    | past => rfl

end Twin

section

variable {s : Spot} {g g' : Productions} [h : Productions.Alike s g g']

instance exportedValue_alike :
    ReadsAlike s Statement.Alike (exportedValue g) (exportedValue g') := by
  unfold exportedValue
  refine ⟨fun {place twin} htwin =>
    .look (((h.expression (.line .value)).alike htwin.withMarkup).bind
    fun _ _ stop stop' _ _ _ hstop => .place ?_)⟩
  refine ((semicolon_alike .value).alike hstop).bind fun _ _ rest rest' _ _ _ hrest => .ok ?_ hrest
  have hname : SameValue
    (isOneToken place.withMarkup stop && place.withMarkup.token.isWordBut valueWords)
      (isOneToken twin.withMarkup stop' && twin.withMarkup.token.isWordBut valueWords) :=
        inferInstance
  refine .exportAssignment hname.eq fun hidentifier => ?_
  rw [Bool.and_eq_true_iff, Token.isWordBut, Bool.and_eq_true_iff, beq_iff_eq] at hidentifier
  exact htwin.withMarkup.textUpTo_word hstop hidentifier.1 hidentifier.2.1

instance exportedClass_alike :
    ReadsAlike s Statement.Alike (exportedClass g) (exportedClass g') := by
  unfold exportedClass
  infer_instance

instance exported_alike : ReadsAlike s Statement.Alike (exported g) (exported g') := by
  unfold exported
  infer_instance

instance exportedNamespace_alike :
    ReadsAlike s Statement.Alike (exportedNamespace g) (exportedNamespace g') := by
  unfold exportedNamespace
  have hfound : ReadsAlike s Statement.Alike (declarationOr g valueGoesOn (exported g))
      (declarationOr g' valueGoesOn (exported g')) := inferInstance
  refine look_alike (h := fun places => hfound.bind fun found found' halike =>
    ⟨fun {stop stop'} hstop => .place ?_⟩)
  have hends : (stop'.end? .value).isSome = (stop.end? .value).isSome := hstop.mayEnd_eq .value
  cases hplace : stop.end? .value <;> cases htwin : stop'.end? .value
  all_goals simp only [hplace, htwin] at hends
  · cases halike with
    | same => cases found <;> exact .ok (.same _) hstop
    | classDecl hclass => exact .ok (.classDecl hclass) hstop
    | exportAssignment hname htext => exact .ok (.exportAssignment hname htext) hstop
    | importDecl first second => exact .ok (.importDecl first second) hstop
    | module name quoted hmodule => exact .ok (.module name quoted hmodule) hstop
  · cases hends
  · cases hends
  · have hvalue {text text' : String} :
        Statement.Alike (.exportAssignment ⟨text, false⟩) (.exportAssignment ⟨text', false⟩) :=
      .exportAssignment rfl nofun
    cases halike with
    | same =>
      cases found with
      | exportAssignment => exact .ok (.same _) hstop
      | _ => exact .ok hvalue hstop
    | exportAssignment hname htext => exact .ok (.exportAssignment hname htext) hstop
    | _ => exact .ok hvalue hstop

instance defaultExport_alike :
    ReadsAlike s Statement.Alike (defaultExport g) (defaultExport g') := by
  unfold defaultExport
  infer_instance

theorem wholeExport_alike {place twin : Cursor} (htwin : Twin s place twin)
    (hclear : place.withMarkup.token.isMark "=" →
      twin.withMarkup.next.token = place.withMarkup.next.token) :
    Reply.Alike s Statement.Alike (wholeExport g place) (wholeExport g' twin) := by
  unfold wholeExport
  refine ((mark_alike "=").alike htwin).bind fun _ _ rest rest' hread hread' _ hrest => .peek ?_
  obtain ⟨hfound, rfl⟩ := mark_eq_ok hread
  obtain ⟨-, rfl⟩ := mark_eq_ok hread'
  refine (exported_alike.alike hrest.withMarkup).bind fun value value' _ _ _ _ hvalue hend =>
    .ok ?_ hend
  rw [hrest.withMarkup_token (hclear hfound)]
  cases Token.remark? _ with
  | some remark => exact .same _
  | none => exact hvalue

instance namesExport_alike : ReadsAlike s Statement.Alike namesExport namesExport := by
  unfold namesExport
  infer_instance

instance allExport_alike : ReadsAlike s Statement.Alike allExport allExport := by
  unfold allExport
  infer_instance

instance namespaceExport_alike : ReadsAlike s Statement.Alike namespaceExport namespaceExport := by
  unfold namespaceExport
  infer_instance

theorem exportTail_alike (decorated : Bool) {place twin : Cursor} (htwin : Twin s place twin)
    (hclear : decorated = false → place.withMarkup.token.isMark "=" →
      twin.withMarkup.next.token = place.withMarkup.next.token) :
    Reply.Alike s Statement.Alike (exportTail g decorated place)
      (exportTail g' decorated twin) := by
  unfold exportTail
  have hmarkup : Twin s place.withMarkup twin.withMarkup := htwin.withMarkup
  refine .look (.ite (fun _ => ReadsAlike.alike hmarkup) ?_)
  cases decorated with
  | true => exact declaration_alike.alike hmarkup
  | false =>
    refine .ite nofun (.ite (fun _ => wholeExport_alike hmarkup ?_) (ReadsAlike.alike hmarkup))
    rw [htwin.withMarkup_withMarkup, htwin.twin_withMarkup_withMarkup]
    exact hclear rfl

omit h in
/-- The spot does not follow the mark of an export of the whole file. -/
theorem Twin.export_token {place twin : Cursor} (h : Twin s place twin)
    (hexport : place.token.text = "export") (hmark : place.next.withMarkup.token.isMark "=") :
    twin.next.withMarkup.next.token = place.next.withMarkup.next.token := by
  cases h with
  | @ahead token more before h hmore =>
    rw [next_eq_ofChars] at hmark
    rw [next_eq_ofChars, next_eq_ofChars]
    cases hmore with
    | nil =>
      rw [List.nil_append, List.nil_append, s.ofChars_rest, s.ofChars_noted, withMarkup_here,
        withMarkup_here]
      rfl
    | @cons equals more hequals hmore =>
      rw [List.append_assoc, hequals.lexes.ofChars_eq,
        (withMarkup_ahead hequals hmore _ _).1] at hmark
      rw [List.append_assoc, List.append_assoc, hequals.lexes.ofChars_eq,
        hequals.lexesNoted.ofChars_eq,
        (withMarkup_ahead hequals hmore _ _).1, (withMarkup_ahead hequals hmore _ _).2,
          next_eq_ofChars,
        next_eq_ofChars]
      refine (of_front hmore).2 fun hnil => ?_
      have htext : equals.text = "=" := by simpa using (Bool.and_eq_true_iff.1 hmark).2
      subst hnil
      exact h.noExport hexport equals hequals.lexes htext (List.append_nil _)
  | here => rfl
  | past => rfl

instance exportStatement_alike :
    ReadsAlike s Statement.Alike (Grammar.exportStatement g) (Grammar.exportStatement g') := by
  unfold Grammar.exportStatement
  refine .andThen fun decorated =>
    ⟨fun {place twin} htwin => ((keyword_alike "export").alike htwin).bind
    fun _ _ rest rest' hread hread' _ hrest => exportTail_alike decorated hrest fun _ hmark => ?_⟩
  obtain ⟨hfound, rfl⟩ := keyword_eq_ok hread
  obtain ⟨-, rfl⟩ := keyword_eq_ok hread'
  exact htwin.withMarkup.export_token (by simpa using (Bool.and_eq_true_iff.1 hfound).2) hmark

end

end Facade
