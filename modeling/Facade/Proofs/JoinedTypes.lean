-- Unions and intersections. What a type leaves behind decides whether more can be joined to it, so
-- a joined type is a member of one of its own kind only where `readonly` reached over the mark.
import Facade.Proofs.TypeReading

namespace Facade

open Reader Grammar

variable {text : List Char} {g g' : Productions}

/-! ## Where nothing can be joined -/

section Endings

variable {ending : Ending} {mark : String} {place : Cursor}

theorem Ending.view_in (ending : Ending) (h : place.In text) : (ending.view place).In text := by
  unfold Ending.view
  split
  · exact h.withMarkup
  · exact h

theorem Ending.view_before (ending : Ending) (place : Cursor) :
    (ending.view place).before = place.before := by
  unfold Ending.view
  split
  · exact place.withMarkup_before
  · rfl

theorem Ending.view_view (ending : Ending) (h : place.In text) :
    ending.view (ending.view place) = ending.view place := by
  unfold Ending.view
  split
  · exact h.withMarkup_withMarkup
  · rfl

theorem Ending.EndedAt.view (h : ending.EndedAt place) : ending.EndedAt (ending.view place) := by
  unfold Ending.EndedAt
  rwa [Ending.view_before]

theorem Ending.StopsAt.view (h : ending.StopsAt mark place) (hplace : place.In text) :
    ending.StopsAt mark (ending.view place) :=
  ⟨by rw [ending.view_view hplace]; exact h.noJoint, h.ended.view⟩

/-- The place after `settle`. -/
def Ending.settled (ending : Ending) (place : Cursor) : Cursor :=
  if place.before != .body then { place with before := ending.before } else place

theorem Ending.settled_in (ending : Ending) (h : place.In text) : (ending.settled place).In text := by
  unfold Ending.settled
  split
  · exact h.withBefore _
  · exact h

theorem Ending.endedAt_settled (ending : Ending) (place : Cursor) :
    ending.EndedAt (ending.settled place) := by
  intro henclosed
  unfold Ending.settled
  split
  · simp [henclosed, Ending.before]
  · rename_i hbody
    simp only [bne_iff_ne, ne_eq, not_not] at hbody
    simp [hbody]

/-- Inside marks an end was marked as one already, and elsewhere the mark makes no difference. -/
theorem Ending.StopsAt.settled (h : ending.StopsAt mark place) :
    ending.StopsAt mark (ending.settled place) := by
  refine ⟨?_, ending.endedAt_settled place⟩
  by_cases henclosed : ending = .enclosed
  · have hsame : ending.settled place = place := by
      have hended := h.ended henclosed
      unfold Ending.settled
      split
      · cases place
        cases ‹Before› <;> simp_all [Ending.before]
      · rfl
    rw [hsame]
    exact h.noJoint
  · have hview : ∀ place, ending.view place = place := by
      simp [Ending.view, henclosed]
    have hnoJoint := h.noJoint
    rw [hview] at hnoJoint ⊢
    unfold Ending.settled
    split
    · exact hnoJoint
    · exact hnoJoint

end Endings

/-! ## Members of joined types -/

section Members

variable {joint other : Joint} {read : ReadType} {members : List TypeExpr}

theorem joint_cases (h : joint ∈ joints) : joint = unionJoint ∨ joint = intersectionJoint := by
  simpa [joints] using h

theorem makes_join (hjoint : joint ∈ joints) (hother : other ∈ joints) :
    other.makes (joint.join members) = true ↔ other = joint := by
  rcases joint_cases hjoint with rfl | rfl <;> rcases joint_cases hother with rfl | rfl <;>
    simp [Joint.makes, unionJoint, intersectionJoint, TypeExpr.isUnion, TypeExpr.isInter]

theorem shape_injective (hjoint : joint ∈ joints) (hother : other ∈ joints)
    (h : other.shape = joint.shape) : other = joint := by
  rcases joint_cases hjoint with rfl | rfl <;> rcases joint_cases hother with rfl | rfl
  · rfl
  · cases h
  · cases h
  · rfl

theorem exists_join (hjoint : joint ∈ joints) {type : TypeExpr} (h : joint.makes type = true) :
    ∃ members, type = joint.join members := by
  rcases joint_cases hjoint with rfl | rfl
  · cases type <;> cases h
    exact ⟨_, rfl⟩
  · cases type <;> cases h
    exact ⟨_, rfl⟩

theorem known_join (hjoint : joint ∈ joints) :
    known text (joint.join members) ↔
      JoinedIn text joint.mark joint.makes members ∧ known text members := by
  rcases joint_cases hjoint with rfl | rfl
  · exact known_union
  · exact known_inter

theorem partsFor_join (joint : Joint) (hjoint : joint ∈ joints) (shared : Bool) :
    partsFor joint.shape ⟨joint.join members, joint.shape, shared⟩ = members := by
  rcases joint_cases hjoint with rfl | rfl <;> rfl

/-- A type that the joint has not made counts as itself, or as none. -/
theorem partsFor_of_not_joined {shape : TypeShape}
    (h : ∀ joint ∈ joints, joint.makes read.type → shape ≠ read.shape) :
    partsFor shape read = [read.type].filter (!isConstType ·) := by
  unfold partsFor
  split
  · rename_i members hshape htype
    exact absurd (by simpa using hshape) (h unionJoint (by simp [joints]) (by rw [htype]; rfl))
  · rename_i members hshape htype
    exact absurd (by simpa using hshape) (h intersectionJoint (by simp [joints]) (by rw [htype]; rfl))
  · rfl

/-- What a part adds to a type that a joint makes: its members if the joint made it, else itself. -/
theorem partsFor_cases (hjoint : joint ∈ joints)
    (hshaped : ∀ joint ∈ joints, joint.makes read.type →
      read.shape = joint.shape ∨ read.shape = .loose) :
    (∃ members, read.type = joint.join members ∧ partsFor joint.shape read = members) ∨
      (partsFor joint.shape read = [read.type].filter (!isConstType ·) ∧
        (joint.makes read.type → read.shape ≠ joint.shape)) := by
  by_cases hmade : joint.makes read.type = true ∧ read.shape = joint.shape
  · obtain ⟨members, hmembers⟩ := exists_join hjoint hmade.1
    refine Or.inl ⟨members, hmembers, ?_⟩
    have hread : read = ⟨joint.join members, joint.shape, read.shared⟩ := by
      rw [← hmembers, ← hmade.2]
    rw [hread]
    exact partsFor_join joint hjoint _
  · refine Or.inr ⟨partsFor_of_not_joined fun other hother hmakes hshape => ?_, fun hmakes hshape =>
      hmade ⟨hmakes, hshape⟩⟩
    -- the shape is the joint's own, so the other joint is this one
    rcases hshaped other hother hmakes with hsame | hloose
    · have := shape_injective hjoint hother (hsame.symm.trans hshape.symm)
      subst this
      exact hmade ⟨hmakes, hshape.symm⟩
    · rw [hloose] at hshape
      rcases joint_cases hjoint with rfl | rfl <;> cases hshape

theorem mem_of_mem_filter_singleton {type member : TypeExpr} {test : TypeExpr → Bool}
    (h : member ∈ [type].filter test) : member = type :=
  List.mem_singleton.mp (List.mem_filter.mp h).1

theorem known_partsFor {shape : TypeShape} (h : known text read) :
    known text (partsFor shape read) := by
  unfold partsFor
  split
  · rename_i members _ htype
    have hmembers : known text (TypeExpr.union members) := htype ▸ h
    exact (known_union.mp hmembers).2
  · rename_i members _ htype
    have hmembers : known text (TypeExpr.inter members) := htype ▸ h
    exact (known_inter.mp hmembers).2
  · exact known_filter (known_cons.mpr ⟨known_read_type h, known_nil⟩) _

theorem makes_markupTypes {token : Token} {member : TypeExpr} (h : member ∈ markupTypes token)
    (joint : Joint) : joint.makes member = false := by
  rw [List.eq_of_mem_replicate h]
  unfold Joint.makes
  split <;> rfl

theorem JoinedIn.append {mark : String} {isJoined : TypeExpr → Bool} {first second : List TypeExpr}
    (hfirst : ∀ member ∈ first, isJoined member = false) (h : JoinedIn text mark isJoined second) :
    JoinedIn text mark isJoined (first ++ second) where
  some hnil := h.some (List.append_eq_nil_iff.mp hnil).2
  flat member hmember hjoined := by
    rcases List.mem_append.mp hmember with hmem | hmem
    · rw [hfirst member hmem] at hjoined
      cases hjoined
    · exact h.flat member hmem hjoined
  last member hmember := by
    rcases List.eq_nil_or_concat second with rfl | hsecond
    · rw [List.append_nil] at hmember
      exact hfirst member (List.dropLast_subset _ hmember)
    · rw [List.dropLast_append_of_ne_nil (by obtain ⟨init, last, rfl⟩ := hsecond; simp)] at hmember
      rcases List.mem_append.mp hmember with hmem | hmem
      · exact hfirst member hmem
      · exact h.last member hmem

theorem wordAfter_of_token {here : Cursor} {mark word : String} (hhere : here.In text)
    (hmark : here.token.isMark mark) (hword : here.next.withMarkup.token.isWord word) :
    WordAfter text mark word := by
  refine ⟨here.after, ?_, ?_⟩
  · have hchars := hhere.suffix
    simp only [Token.isMark, Bool.and_eq_true, beq_iff_eq] at hmark
    rwa [Cursor.chars, hmark.2] at hchars
  · rwa [Cursor.next, hhere.left_after] at hword

/-- What stands right after a mark adds well to what the mark joins. -/
theorem Part.joinedIn {start : Start} {ending : Ending} {here rest : Cursor}
    (hjoint : joint ∈ joints) (hhere : here.In text) (hmark : here.token.isMark joint.mark)
    (h : Part start ending here.next.withMarkup read rest) (hread : known text read) :
    JoinedIn text joint.mark joint.makes (partsFor joint.shape read) := by
  have hlook := hhere.next.withMarkup_withMarkup
  rcases partsFor_cases hjoint fun other hother hmakes => (h.shaped other hother hmakes).imp_right And.left with
    ⟨members, hmembers, hparts⟩ | ⟨hparts, hshape⟩
  · rw [hparts]
    have hknown : known text (joint.join members) := hmembers ▸ hread
    exact ((known_join hjoint).mp hknown).1
  · rw [hparts]
    constructor
    · intro hnil
      have hconst := h.ofConst (by simpa using hnil)
      rw [hlook] at hconst
      simp only [Token.isAnyWord, Bool.and_eq_true, List.contains_cons, List.contains_nil,
        Bool.or_false, Bool.or_eq_true, beq_iff_eq] at hconst
      obtain ⟨hkind, hword | hword⟩ := hconst
      · exact Or.inl (wordAfter_of_token hhere hmark (by simp [Token.isWord, hkind, hword]))
      · exact Or.inr (wordAfter_of_token hhere hmark (by simp [Token.isWord, hkind, hword]))
    · intro member hmember hmakes
      rw [mem_of_mem_filter_singleton hmember] at hmakes
      rcases h.shaped joint hjoint hmakes with hsame | ⟨-, hword⟩
      · exact absurd hsame (hshape hmakes)
      · rw [hlook] at hword
        exact wordAfter_of_token hhere hmark hword
    · intro member hmember
      exfalso
      revert hmember
      cases hconst : isConstType read.type <;> simp [hconst]

end Members

/-! ## Steps at a place -/

section Steps

variable {here : Cursor} {ending : Ending}

theorem look_agreeAt (h : here.In text) :
    AgreeAt text look look here fun value rest => value = here.withMarkup ∧ rest = here.withMarkup := by
  apply agreeAt_self
  rintro _ _ ⟨⟩
  exact ⟨h.withMarkup, h.withMarkup, rfl, rfl⟩

theorem peek_agreeAt (h : here.In text) :
    AgreeAt text peek peek here fun value rest =>
      value = here.withMarkup.token ∧ rest = here.withMarkup := by
  apply agreeAt_self
  rintro _ _ ⟨⟩
  exact ⟨known_token h.withMarkup, h.withMarkup, rfl, rfl⟩

/-- The place after a mark that stands in the text. -/
def AfterMark (text : List Char) (mark : String) (rest : Cursor) : Prop :=
  ∃ here : Cursor, here.In text ∧ here.token.isMark mark = true ∧ rest = here.next

theorem mark_agreeAt (mark : String) (h : here.In text) :
    AgreeAt text (Reader.mark mark) (Reader.mark mark) here fun _ rest => AfterMark text mark rest := by
  apply agreeAt_self
  intro value rest hok
  simp only [Reader.mark, bind_apply, look] at hok
  split at hok
  · cases hok
  · split at hok
    · cases hok
      exact ⟨trivial, h.withMarkup.next, _, h.withMarkup, ‹_›, rfl⟩
    · cases hok

theorem acceptMark_agreeAt (mark : String) (h : here.In text) :
    AgreeAt text (acceptMark mark) (acceptMark mark) here fun found rest =>
      found = true → AfterMark text mark rest := by
  apply agreeAt_self
  intro value rest hok
  rw [acceptMark, accept_apply] at hok
  split at hok
  · rename_i hmark
    cases hok
    rw [Bool.and_eq_true] at hmark
    exact ⟨trivial, h.withMarkup.next, fun _ => ⟨_, h.withMarkup, hmark.2, rfl⟩⟩
  · cases hok
    exact ⟨trivial, h.withMarkup, fun hfound => absurd hfound (by decide)⟩

theorem continueWith_agreeAt (ending : Ending) (test : Token → Bool) (h : here.In text) :
    AgreeAt text (continueWith ending test) (continueWith ending test) here fun found rest =>
      found = false → rest = ending.view here := by
  apply agreeAt_self
  intro value rest hok
  rw [continueWith_apply] at hok
  split at hok <;> cases hok
  · exact ⟨trivial, (ending.view_in h).next, fun hfound => absurd hfound (by decide)⟩
  · exact ⟨trivial, ending.view_in h, fun _ => rfl⟩

theorem continuesWith_agreeAt (ending : Ending) (test : Token → Bool) (h : here.In text) :
    AgreeAt text (continuesWith ending test) (continuesWith ending test) here fun _ rest =>
      rest = ending.view here := by
  apply agreeAt_self
  intro value rest hok
  unfold continuesWith at hok
  unfold Ending.view
  split at hok <;> cases hok
  · rw [if_pos ‹_›]
    exact ⟨trivial, h.withMarkup, rfl⟩
  · rw [if_neg ‹_›]
    exact ⟨trivial, h, rfl⟩

theorem settle_agreeAt (ending : Ending) (h : here.In text) :
    AgreeAt text (settle ending) (settle ending) here fun _ rest => rest = ending.settled here := by
  apply agreeAt_self
  intro value rest hok
  rw [settle_apply] at hok
  cases hok
  exact ⟨trivial, ending.settled_in h, rfl⟩

/-- A joint was taken where one stands, and none elsewhere. -/
theorem acceptJoint?_agreeAt (ending : Ending) (mark : String) (h : here.In text) :
    AgreeAt text (acceptJoint? ending mark) (acceptJoint? ending mark) here fun found rest =>
      match found with
      | some _ => ending.joinsAt mark (ending.view here) = true ∧ rest = (ending.view here).next
      | none => ending.joinsAt mark (ending.view here) = false ∧ rest = ending.view here := by
  apply agreeAt_self
  intro value rest hok
  rw [acceptJoint?_apply] at hok
  split at hok
  · cases hok
    exact ⟨known_some.mpr (known_token (ending.view_in h)), (ending.view_in h).next, ‹_›, rfl⟩
  · rename_i hnone
    cases hok
    exact ⟨known_none, ending.view_in h, by simpa using hnone, rfl⟩

end Steps

/-! ## Parts -/

section Parts

variable {start : Start} {ending : Ending} {place here rest : Cursor} {read : ReadType} {joint : Joint}

/-- A type that no joint made, and that is not `const`. -/
structure Unjoined (start : Start) (read : ReadType) : Prop where
  ofPlain : start = .plain → read.shared = false
  notMade : ∀ joint ∈ joints, joint.makes read.type = false
  notConst : isConstType read.type = false

theorem partsFor_of_notMade {shape : TypeShape} (h : ∀ joint ∈ joints, joint.makes read.type = false) :
    partsFor shape read = [read.type].filter (!isConstType ·) :=
  partsFor_of_not_joined fun joint hjoint hmakes => by simp [h joint hjoint] at hmakes

/-- A type that no joint made is a part, whatever it leaves behind. -/
theorem Part.of_notMade (hplain : start = .plain → read.shared = false)
    (hmade : ∀ joint ∈ joints, joint.makes read.type = false)
    (hconst : isConstType read.type → place.withMarkup.token.isAnyWord ["const", "readonly"]) :
    Part start ending place read rest where
  ofPlain := hplain
  unshared joint hjoint hmakes := by simp [hmade joint hjoint] at hmakes
  shaped joint hjoint hmakes := by simp [hmade joint hjoint] at hmakes
  ofConst := hconst
  closed joint hjoint member hmember hmakes := by
    rw [partsFor_of_notMade hmade] at hmember
    rw [mem_of_mem_filter_singleton hmember, hmade joint hjoint] at hmakes
    cases hmakes

theorem Unjoined.part (h : Unjoined start read) (place : Cursor) :
    Part start ending place read rest :=
  .of_notMade h.ofPlain h.notMade fun hconst => by simp [h.notConst] at hconst

theorem endingAfter_of_unshared (h : read.shared = false) : endingAfter read ending = ending := by
  simp [endingAfter, h]

namespace Part

theorem partsFor_cases (h : Part start ending place read rest) (hjoint : joint ∈ joints) :
    (∃ members, read.type = joint.join members ∧ partsFor joint.shape read = members) ∨
      (partsFor joint.shape read = [read.type].filter (!isConstType ·) ∧
        (joint.makes read.type → read.shape ≠ joint.shape)) :=
  Facade.partsFor_cases hjoint fun other hother hmakes =>
    (h.shaped other hother hmakes).imp_right And.left

theorem unshared_of_member (h : Part start ending place read rest) (hjoint : joint ∈ joints)
    {member : TypeExpr} (hmember : member ∈ partsFor joint.shape read)
    (hmakes : joint.makes member = true) : read.shared = false := by
  rcases h.partsFor_cases hjoint with ⟨members, htype, -⟩ | ⟨hparts, -⟩
  · exact h.unshared joint hjoint (by rw [htype, makes_join hjoint hjoint])
  · rw [hparts] at hmember
    rw [mem_of_mem_filter_singleton hmember] at hmakes
    exact h.unshared joint hjoint hmakes

theorem view (h : Part start ending place read here) (hhere : here.In text) :
    Part start ending place read ((endingAfter read ending).view here) where
  __ := h
  closed joint hjoint member hmember hmakes := by
    rw [endingAfter_of_unshared (h.unshared_of_member hjoint hmember hmakes)]
    exact (h.closed joint hjoint member hmember hmakes).view hhere

theorem settled (h : Part start ending place read here) :
    EndedPart start ending place read ((endingAfter read ending).settled here) where
  __ := h
  closed joint hjoint member hmember hmakes := by
    rw [endingAfter_of_unshared (h.unshared_of_member hjoint hmember hmakes)]
    exact (h.closed joint hjoint member hmember hmakes).settled
  ended hshared := by
    rw [endingAfter_of_unshared hshared]
    exact ending.endedAt_settled here

end Part

theorem AfterMark.endedAt {mark : String} (h : AfterMark text mark rest) (ending : Ending) :
    ending.EndedAt rest := by
  obtain ⟨here, -, -, rfl⟩ := h
  intro _ hheld
  cases hheld

theorem makes_eq_false {type : TypeExpr} (hunion : type.isUnion = false)
    (hinter : type.isInter = false) : ∀ joint ∈ joints, joint.makes type = false := by
  intro joint hjoint
  rcases joint_cases hjoint with rfl | rfl
  · exact hunion
  · exact hinter

/-- Brackets behind a part make a type of their own, or leave the part as it is. -/
theorem withBrackets_agreeAt (h : g.Agree text g') {first : ReadType} (hhere : here.In text)
    (hfirst : known text first) (hpart : Part start ending place first here) :
    AgreeAt text (withBrackets g ending first) (withBrackets g' ending first) here fun read rest =>
      Part start ending place read rest ∧
        ((first.shared = false → ending.EndedAt here) → read.shared = false → ending.EndedAt rest) ∧
        ∀ joint ∈ joints, joint.makes read.type → read = first := by
  unfold withBrackets
  refine loop_agreeAt (fun read rest => Part start ending place read rest ∧
    ((first.shared = false → ending.EndedAt here) → read.shared = false → ending.EndedAt rest) ∧
    ∀ joint ∈ joints, joint.makes read.type → read = first) _ ?_ hhere hfirst
    ⟨hpart, fun hended => hended, fun _ _ _ => rfl⟩
  intro read middle hread hmiddle hinv
  refine bind_agreeAt (continueWith_agreeAt (endingAfter read ending) _ hmiddle) ?_
  intro found rest _ hrest hview
  cases found with
  | false =>
    rw [hview rfl] at hrest ⊢
    refine pure_agreeAt hrest hread ⟨hinv.1.view hmiddle, fun hended hshared => ?_, hinv.2.2⟩
    rw [endingAfter_of_unshared hshared]
    exact (hinv.2.1 hended hshared).view
  | true =>
    -- what brackets make is no joined type, and the closing one ends it
    have hmade : ∀ type, type = .array read.type ∨ type = .unsupported "lookup_type" →
        Unjoined start (simple type) := by
      rintro type (rfl | rfl) <;> exact ⟨fun _ => rfl, makes_eq_false rfl rfl, rfl⟩
    simp only [if_true]
    refine bind_agreeAt (acceptMark_agreeAt "]" hrest) fun closed after _ hafter hclosed => ?_
    cases closed with
    | true =>
      have hsimple := hmade _ (Or.inl rfl)
      refine pure_agreeAt hafter (known_array.mpr hread)
        ⟨hsimple.part place, fun _ _ => (hclosed rfl).endedAt _, fun joint hjoint hmakes => ?_⟩
      simp [hsimple.notMade joint hjoint] at hmakes
    | false =>
      have hsimple := hmade _ (Or.inr rfl)
      refine bind_agreeAt (h.type .plain .enclosed _ hafter) fun _ after _ hafter _ => ?_
      refine bind_agreeAt (mark_agreeAt "]" hafter) fun _ last _ hlast hclosed => ?_
      refine pure_agreeAt hlast known_unsupported
        ⟨hsimple.part place, fun _ _ => hclosed.endedAt _, fun joint hjoint hmakes => ?_⟩
      simp [hsimple.notMade joint hjoint] at hmakes

theorem EndedPart.view (h : EndedPart start ending place read here) (hhere : here.In text) :
    EndedPart start ending place read ((endingAfter read ending).view here) where
  toPart := h.toPart.view hhere
  ended hshared := by
    rw [endingAfter_of_unshared hshared]
    exact (h.ended hshared).view

/-! ## Joints -/

/-- What a joint makes is a part: it is closed when its members are. -/
theorem Part.of_join (hjoint : joint ∈ joints) {members : List TypeExpr}
    (hclosed : ∀ member ∈ members, joint.makes member → ending.StopsAt joint.mark rest) :
    Part start ending place ⟨joint.join members, joint.shape, false⟩ rest where
  ofPlain _ := rfl
  unshared _ _ _ := rfl
  shaped other hother hmakes := by
    rw [(makes_join hjoint hother).mp hmakes]
    exact Or.inl rfl
  ofConst hconst := by
    rcases joint_cases hjoint with rfl | rfl <;> cases hconst
  closed other hother member hmember hmakes := by
    by_cases hsame : other = joint
    · subst hsame
      rw [partsFor_join other hother] at hmember
      exact hclosed member hmember hmakes
    · -- the other joint sees one type, which it has not made
      rw [partsFor_of_not_joined] at hmember
      · rw [mem_of_mem_filter_singleton hmember] at hmakes
        exact absurd ((makes_join hjoint hother).mp hmakes) hsame
      · intro maker hmaker hmade hshape
        rw [(makes_join hjoint hmaker).mp hmade] at hmaker
        exact hsame (shape_injective hjoint hother hshape)

theorem ledType_agreeAt (hjoint : joint ∈ joints) {part part' : Reader ReadType}
    (hpart : ∀ place : Cursor, place.In text →
      AgreeAt text part part' place (EndedPart .plain ending place)) (hhere : here.In text) :
    AgreeAt text (ledType joint part) (ledType joint part') here (Part start ending place) := by
  unfold ledType
  refine bind_agreeAt (mark_agreeAt joint.mark hhere) fun _ after _ hafter hmark => ?_
  obtain ⟨mark, hmarkIn, hmark, rfl⟩ := hmark
  refine bind_agreeAt (peek_agreeAt hafter) ?_
  rintro first middle - hmiddle ⟨rfl, rfl⟩
  refine bind_agreeAt (hpart _ hmiddle) fun read rest hread hrest hread' => ?_
  have hjoined := hread'.toPart.joinedIn hjoint hmarkIn hmark hread
  have hmarkup : ∀ member ∈ markupTypes mark.next.withMarkup.token, joint.makes member = false :=
    fun member hmember => makes_markupTypes hmember joint
  refine pure_agreeAt hrest ((known_join hjoint).mpr ⟨hjoined.append hmarkup, ?_⟩)
    (Part.of_join hjoint fun member hmember hmakes => ?_)
  · exact known_append.mpr ⟨known_markupTypes, known_partsFor hread⟩
  · rcases List.mem_append.mp hmember with hmem | hmem
    · rw [hmarkup member hmem] at hmakes
      cases hmakes
    · exact hread'.closed joint hjoint member hmem hmakes

/-- Where a joint was taken, no part of the type before it is of the joint's own kind. -/
theorem Part.makes_of_joinsAt (h : Part start ending place read here) (hjoint : joint ∈ joints)
    (hjoins : (endingAfter read ending).joinsAt joint.mark ((endingAfter read ending).view here) = true) :
    ∀ member ∈ partsFor joint.shape read, joint.makes member = false := by
  intro member hmember
  by_contra hmakes
  rw [Bool.not_eq_false] at hmakes
  rw [endingAfter_of_unshared (h.unshared_of_member hjoint hmember hmakes),
    (h.closed joint hjoint member hmember hmakes).noJoint] at hjoins
  cases hjoins

theorem joinedType?_agreeAt (h : g.Agree text g') (hjoint : joint ∈ joints)
    {part part' : Reader ReadType} {left : ReadType}
    (hpart : ∀ place : Cursor, place.In text →
      AgreeAt text part part' place (EndedPart .plain ending place))
    (hhere : here.In text) (hleft : known text left) (hinv : EndedPart start ending place left here) :
    AgreeAt text (joinedType? g joint ending part left) (joinedType? g' joint ending part' left) here
      fun found rest =>
        match found with
        | some read => EndedPart start ending place read rest ∧
          ∀ other ∈ joints, other.makes read.type → other = joint
        | none => (endingAfter left ending).joinsAt joint.mark rest = false ∧
          rest = (endingAfter left ending).view here := by
  unfold joinedType?
  refine bind_agreeAt (acceptJoint?_agreeAt (endingAfter left ending) joint.mark hhere) ?_
  intro found middle hfound hmiddle hpost
  cases found with
  | none =>
    obtain ⟨hnone, rfl⟩ := hpost
    exact pure_agreeAt hmiddle known_none ⟨hnone, rfl⟩
  | some mark =>
    obtain ⟨hjoins, rfl⟩ := hpost
    have hmark : ((endingAfter left ending).view here).token.isMark joint.mark = true := by
      simp only [Ending.joinsAt, Bool.and_eq_true] at hjoins
      exact hjoins.1.1.1
    have hparts := hinv.toPart.makes_of_joinsAt hjoint hjoins
    have hmarkIn := (endingAfter left ending).view_in hhere
    generalize (endingAfter left ending).view here = joined at *
    refine bind_agreeAt (peek_agreeAt hmiddle) ?_
    rintro first middle - hmiddle ⟨rfl, rfl⟩
    refine bind_agreeAt (hpart _ hmiddle) fun right rest hright hrest hright' => ?_
    generalize hbefore : partsFor joint.shape left ++ markupTypes mark
      ++ markupTypes joined.next.withMarkup.token = before
    have hmade : ∀ member ∈ before, joint.makes member = false := by
      rw [← hbefore]
      simp only [List.mem_append]
      rintro member ((hmem | hmem) | hmem)
      · exact hparts member hmem
      · exact makes_markupTypes hmem joint
      · exact makes_markupTypes hmem joint
    have hknown : known text (joint.join (before ++ partsFor joint.shape right)) := by
      refine (known_join hjoint).mpr
        ⟨(hright'.toPart.joinedIn hjoint hmarkIn hmark hright).append hmade, ?_⟩
      simp [← hbefore, known_partsFor, hleft, hright]
    have hjoinedPart : Part start ending place
        ⟨joint.join (before ++ partsFor joint.shape right), joint.shape, false⟩ rest := by
      refine .of_join hjoint fun member hmember hmakes => ?_
      rcases List.mem_append.mp hmember with hmem | hmem
      · rw [hmade member hmem] at hmakes
        cases hmakes
      · exact hright'.closed joint hjoint member hmem hmakes
    refine bind_agreeAt (withBrackets_agreeAt h hrest hknown hjoinedPart) ?_
    rintro read last hread hlast ⟨hpart, hended, hfirst⟩
    refine pure_agreeAt hlast (known_some.mpr hread)
      ⟨⟨hpart, hended fun _ => hright'.ended (hright'.ofPlain rfl)⟩, fun other hother hmakes => ?_⟩
    rw [hfirst other hother hmakes] at hmakes
    exact (makes_join hjoint hother).mp hmakes

/-- Joining goes on until nothing can be joined. `extra` is what else the types on the way keep to. -/
theorem joinedTypes_agreeAt (h : g.Agree text g') (hjoint : joint ∈ joints)
    {part part' : Reader ReadType} {first : ReadType}
    (hpart : ∀ place : Cursor, place.In text →
      AgreeAt text part part' place (EndedPart .plain ending place))
    (extra : ReadType → Cursor → Prop)
    (hview : ∀ (read : ReadType) (here : Cursor), here.In text →
      EndedPart start ending place read here → extra read here →
      extra read ((endingAfter read ending).view here))
    (hmade : ∀ (read : ReadType) (rest : Cursor),
      (∀ other ∈ joints, other.makes read.type → other = joint) → extra read rest)
    (hhere : here.In text) (hfirst : known text first) (hinv : EndedPart start ending place first here)
    (hextra : extra first here) :
    AgreeAt text (joinedTypes g joint ending part first) (joinedTypes g' joint ending part' first) here
      fun read rest => EndedPart start ending place read rest ∧ extra read rest ∧
        (joint.makes read.type → ending.StopsAt joint.mark rest) := by
  unfold joinedTypes
  refine loop_agreeAt (fun read rest => EndedPart start ending place read rest ∧ extra read rest) _ ?_
    hhere hfirst ⟨hinv, hextra⟩
  rintro left middle hleft hmiddle ⟨hinv, hextra⟩
  refine bind_agreeAt (joinedType?_agreeAt h hjoint hpart hmiddle hleft hinv) ?_
  intro found rest hfound hrest hpost
  cases found with
  | some read =>
    exact pure_agreeAt hrest (known_again.mpr (known_some.mp hfound))
      ⟨hpost.1, hmade read rest hpost.2⟩
  | none =>
    obtain ⟨hnone, rfl⟩ := hpost
    have hend := hinv.view hmiddle
    refine pure_agreeAt hrest hleft
      ⟨hend, hview left middle hmiddle hinv hextra, fun hmakes => ?_⟩
    have hshared := hinv.unshared joint hjoint hmakes
    refine ⟨?_, hend.ended hshared⟩
    rw [endingAfter_of_unshared hshared] at hnone ⊢
    rw [ending.view_view hmiddle]
    exact hnone

end Parts

end Facade
