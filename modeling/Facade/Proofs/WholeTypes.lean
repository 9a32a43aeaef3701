-- Whole types: what stands in front of a type, the joints by how tightly they bind, and the choices
-- that depend on a type.
import Facade.Proofs.JoinedTypes

namespace Facade

open Reader Grammar

variable {text : List Char} {g g' : Productions} {start : Start} {ending : Ending}

/-! ## Types that nothing joins -/

section Unjoined

/-- A type that no joint made, of which the word `const` alone says that it counts as none. -/
structure Single (start : Start) (first : Token) (read : ReadType) : Prop where
  ofPlain : start = .plain → read.shared = false
  notMade : ∀ joint ∈ joints, joint.makes read.type = false
  ofConst : isConstType read.type → first.isWord "const"

theorem Unjoined.single {first : Token} {read : ReadType} (h : Unjoined start read) :
    Single start first read :=
  ⟨h.ofPlain, h.notMade, fun hconst => by simp [h.notConst] at hconst⟩

theorem unjoined_of {read : ReadType} (hplain : start = .plain → read.shared = false)
    (hunion : read.type.isUnion = false) (hinter : read.type.isInter = false)
    (hconst : isConstType read.type = false) : Unjoined start read :=
  ⟨hplain, makes_eq_false hunion hinter, hconst⟩

theorem Reader.Gives.single {first : Token} {reader : Reader ReadType} (h : Gives (Unjoined start) reader) :
    Gives (Single start first) reader :=
  fun place value rest hok => (h place value rest hok).single

theorem gives_reference : Gives (Unjoined start) (reference g start ending) := by
  unfold reference
  refine gives_after fun first => gives_after fun _ => ?_
  refine gives_bind (fun shared => start = .plain → shared = false) ?_ fun shared hshared => ?_
  · refine gives_loop (fun shared => start = .plain → shared = false) (fun shared hshared => ?_) ?_
    · refine gives_after fun found => gives_ite (fun _ => ?_) fun _ => gives_pure hshared
      exact gives_after fun _ => gives_pure fun _ => rfl
    · rintro rfl
      rfl
  · refine gives_after fun _ => gives_after fun found => ?_
    cases found with
    | some mark => exact gives_after fun args => gives_pure (unjoined_of (fun _ => rfl) rfl rfl rfl)
    | none => exact gives_pure (unjoined_of hshared rfl rfl rfl)

theorem gives_typeQuery : Gives (Unjoined start) (typeQuery g start ending) := by
  unfold typeQuery
  refine gives_after fun _ => gives_after fun _ => gives_after fun _ => gives_after fun _ =>
    gives_after fun _ => gives_after fun _ => gives_pure (unjoined_of ?_ rfl rfl rfl)
  rintro rfl
  rfl

theorem gives_importType : Gives (Unjoined start) (importType g start ending) := by
  have hkind : ∀ called, isConstType (.unsupported (importKind called)) = false := by decide
  unfold importType
  refine gives_after fun _ => gives_after fun _ => gives_ite (fun _ => ?_) fun _ => ?_
  · refine gives_after fun _ => gives_ite (fun _ => ?_) fun hstart => ?_
    · exact gives_after fun _ => gives_pure (unjoined_of (fun _ => rfl) rfl rfl (hkind _))
    · refine gives_after fun _ => gives_after fun _ => gives_pure (unjoined_of ?_ rfl rfl rfl)
      rintro rfl
      exact absurd rfl hstart
  · exact gives_after fun _ => gives_after fun _ => gives_after fun _ => gives_after fun _ =>
      gives_pure (unjoined_of (fun _ => rfl) rfl rfl (hkind _))

theorem constBefore_cases (ending : Ending) (here : Cursor) :
    constBefore ending here = .unknown ∨ constBefore ending here = constType ∨
      ∃ kind, constBefore ending here = .unsupported kind := by
  unfold constBefore
  dsimp only
  split
  · exact (standIn_cases _).imp_right .inr
  · exact .inr (.inl rfl)

theorem gives_constWord {first : Token} (hconst : first.isWord "const") :
    Gives (Single start first) (constWord ending) := by
  unfold constWord
  refine gives_after fun _ => gives_after fun here =>
    gives_pure ⟨fun _ => rfl, ?_, fun _ => hconst⟩
  rcases constBefore_cases ending (if ending == .enclosed then here.withMarkup else here) with
    h | h | ⟨kind, h⟩
  all_goals exact makes_eq_false (by rw [h]; rfl) (by rw [h]; rfl)

theorem gives_wordType {first : Token} (hword : first.kind = .word) :
    Gives (Single start first) (wordType g start ending first) := by
  unfold wordType
  refine gives_after fun here => gives_ite (fun _ => ?_) fun _ => gives_ite (fun _ => ?_) fun _ =>
    gives_ite (fun _ => ?_) fun _ => gives_ite (fun _ => ?_) fun _ =>
    gives_ite (fun hconst => ?_) fun _ => ?_
  · refine gives_after fun _ => gives_pure (unjoined_of ?_ rfl rfl rfl).single
    rintro rfl
    rfl
  · exact gives_after fun _ => gives_after fun _ => gives_after fun _ =>
      gives_pure (unjoined_of (fun _ => rfl) rfl rfl rfl).single
  · refine gives_after fun _ => gives_pure (unjoined_of ?_ rfl rfl rfl).single
    rintro rfl
    rfl
  · exact gives_typeQuery.single
  · exact gives_constWord (by simp [Token.isWord, hword, hconst])
  · split
    · refine gives_after fun _ => gives_pure (unjoined_of ?_ rfl rfl rfl).single
      rintro rfl
      rfl
    · exact gives_reference.single

theorem gives_objectType : Gives (Unjoined start) (objectType g start) := by
  unfold objectType
  refine gives_after fun _ => gives_after fun _ => gives_pure (unjoined_of ?_ rfl rfl rfl)
  rintro rfl
  rfl

theorem gives_tupleType : Gives (Unjoined start) (tupleType g start) := by
  unfold tupleType
  dsimp only
  refine gives_after fun _ => gives_after fun _ => gives_ite (fun _ => ?_) fun _ => ?_
  · refine gives_pure (unjoined_of ?_ rfl rfl rfl)
    rintro rfl
    rfl
  · refine gives_after fun _ => gives_ite (fun _ => ?_) fun _ => ?_
    · exact gives_after fun _ => gives_pure (unjoined_of (fun _ => rfl) rfl rfl rfl)
    · exact gives_after fun _ => gives_pure (unjoined_of (fun _ => rfl) rfl rfl rfl)

theorem gives_groupedType : Gives (Unjoined start) (groupedType g start) := by
  unfold groupedType
  exact gives_after fun _ => gives_after fun _ => gives_after fun _ =>
    gives_pure (unjoined_of (fun _ => rfl) rfl rfl rfl)

theorem gives_signedNumber : Gives (Unjoined start) (signedNumber start) := by
  unfold signedNumber
  refine gives_after fun _ => gives_after fun _ => gives_after fun _ => gives_after fun _ =>
    gives_pure (unjoined_of ?_ rfl rfl rfl)
  rintro rfl
  rfl

theorem gives_templateType : Gives (Unjoined start) (templateType g start) := by
  unfold templateType
  exact gives_after fun _ => gives_after fun _ => gives_pure (unjoined_of (fun _ => rfl) rfl rfl rfl)

theorem simpleType_agreeAt (h : g.Agree text g') {here : Cursor} (hhere : here.In text) :
    AgreeAt text (simpleType g start ending) (simpleType g' start ending) here
      fun read _ => Single start here.withMarkup.token read := by
  have hliteral : ∀ kind word, Unjoined start ⟨.literal kind word, .simple, start != .plain⟩ := by
    intro kind word
    refine unjoined_of ?_ rfl rfl rfl
    rintro rfl
    rfl
  unfold simpleType
  refine bind_agreeAt (peek_agreeAt hhere) ?_
  rintro first middle - hmiddle ⟨rfl, rfl⟩
  split
  · rename_i hkind
    exact (wordType_agree h _ _ _).agreeAt (gives_wordType hkind) hmiddle
  · refine Agree.agreeAt (by gcongr <;> simp) (Gives.single ?_) hmiddle
    exact gives_after fun _ => gives_pure (hliteral _ _)
  · refine Agree.agreeAt (by gcongr <;> simp) (Gives.single ?_) hmiddle
    exact gives_after fun _ => gives_pure (hliteral _ _)
  · split
    · exact (groupedType_agree h _).agreeAt gives_groupedType.single hmiddle
    · exact (tupleType_agree h _).agreeAt gives_tupleType.single hmiddle
    · exact (objectType_agree h _).agreeAt gives_objectType.single hmiddle
    · exact signedNumber_agree.agreeAt gives_signedNumber.single hmiddle
    · exact signedNumber_agree.agreeAt gives_signedNumber.single hmiddle
    · exact (templateType_agree h _).agreeAt gives_templateType.single hmiddle
    · refine Agree.agreeAt (by gcongr <;> simp [simple]) (Gives.single ?_) hmiddle
      exact gives_after fun _ => gives_pure (unjoined_of (fun _ => rfl) rfl rfl rfl)
    · exact fail_agree.agreeAt gives_fail hmiddle
  · exact fail_agree.agreeAt gives_fail hmiddle

end Unjoined

/-! ## Words in front -/

section Words

variable {place here : Cursor} {read : ReadType}

theorem gives_remarkType? :
    Gives (fun found => ∀ type ∈ found, ∃ kind, type = .unsupported kind) remarkType? := by
  unfold remarkType?
  refine gives_after fun token => gives_pure ?_
  intro type htype
  obtain ⟨remark, -, rfl⟩ := Option.map_eq_some_iff.mp htype
  exact ⟨_, rfl⟩

/-- A remark takes the place of a type, and is joined to nothing. -/
theorem typeAfterWord_agreeAt {type type' : Reader ReadType} (hhere : here.In text)
    (htype : ∀ place : Cursor, place.In text → AgreeAt text type type' place (Whole start ending)) :
    AgreeAt text (typeAfterWord type) (typeAfterWord type') here (Whole start ending) := by
  unfold typeAfterWord
  refine bind_agreeAt (remarkType?_agree.agreeAt gives_remarkType? hhere) ?_
  intro remark middle hremark hmiddle hkind
  refine bind_agreeAt (htype middle hmiddle) fun read rest hread hrest hwhole => ?_
  refine pure_agreeAt hrest (known_getD hremark hread) ⟨hwhole.ofPlain, hwhole.ended, ?_⟩
  intro joint hjoint hmakes
  cases remark with
  | none => exact hwhole.closed joint hjoint hmakes
  | some type =>
    obtain ⟨kind, rfl⟩ := hkind type rfl
    rw [Option.getD_some, makes_eq_false rfl rfl joint hjoint] at hmakes
    cases hmakes

theorem makes_of_operandOf {joint : Joint} (hjoint : joint ∈ joints) {type : TypeExpr}
    (h : joint.makes (operandOf type)) : joint.makes type := by
  unfold operandOf at h
  split at h
  · rw [makes_eq_false rfl rfl joint hjoint] at h
    cases h
  · exact h

theorem readonlyType_agreeAt (h : g.Agree text g') (hhere : here.In text)
    (hword : place.withMarkup.token.isWord "readonly") :
    AgreeAt text (readonlyType g start ending) (readonlyType g' start ending) here
      (Part start ending place) := by
  unfold readonlyType
  refine bind_agreeAt (keyword_agree _ hhere) fun _ middle _ hmiddle _ => ?_
  refine bind_agreeAt (nextIs_agree _ hmiddle) fun _ middle _ hmiddle _ => ?_
  refine bind_agreeAt (place_agree _ hmiddle) fun _ middle _ hmiddle _ => ?_
  refine bind_agreeAt (require_agree _ hmiddle) fun _ middle _ hmiddle _ => ?_
  refine bind_agreeAt (peek_agree _ hmiddle) fun _ middle _ hmiddle _ => ?_
  refine bind_agreeAt (typeAfterWord_agreeAt hmiddle (h.type _ ending)) fun read rest hread hrest hwhole => ?_
  refine pure_agreeAt hrest (known_operandOf hread) ?_
  constructor
  · exact fun _ => rfl
  · exact fun _ _ _ => rfl
  · exact fun _ _ _ => Or.inr ⟨rfl, hword⟩
  · intro _
    simp only [Token.isWord, Bool.and_eq_true, beq_iff_eq] at hword
    simp [Token.isAnyWord, hword]
  · -- the type reaches as far as it can, so it counts as one part
    intro joint hjoint member hmember hmakes
    rw [partsFor_of_not_joined] at hmember
    · rw [mem_of_mem_filter_singleton hmember] at hmakes
      exact hwhole.closed joint hjoint (makes_of_operandOf hjoint hmakes)
    · intro maker hmaker hmade hshape
      rcases joint_cases hjoint with rfl | rfl <;> cases hshape

theorem conditionalType_agreeAt (h : g.Agree text g') (hhere : here.In text) :
    AgreeAt text (conditionalType g ending) (conditionalType g' ending) here fun read rest =>
      read = simple (.unsupported "conditional_type") ∧ ending.EndedAt rest := by
  unfold conditionalType
  refine bind_agreeAt (h.type _ _ _ hhere) fun _ middle _ hmiddle _ => ?_
  refine bind_agreeAt (mark_agree _ hmiddle) fun _ middle _ hmiddle _ => ?_
  refine bind_agreeAt (h.type _ _ _ hmiddle) fun _ middle _ hmiddle _ => ?_
  refine bind_agreeAt (mark_agree _ hmiddle) fun _ middle _ hmiddle _ => ?_
  refine bind_agreeAt (h.type _ _ _ hmiddle) fun read rest _ hrest hwhole => ?_
  exact pure_agreeAt hrest known_unsupported ⟨rfl, hwhole.ended (hwhole.ofPlain rfl)⟩

theorem mem_joints_union : unionJoint ∈ joints := List.mem_cons_self

theorem mem_joints_intersection : intersectionJoint ∈ joints :=
  List.mem_cons_of_mem _ List.mem_cons_self

theorem largerType_agreeAt (h : g.Agree text g') (hhere : here.In text) (hread : known text read)
    (hpart : EndedPart start ending place read here) :
    AgreeAt text (largerType g ending read) (largerType g' ending read) here fun _ _ => True := by
  unfold largerType
  refine bind_agreeAt (continueWith_agreeAt _ _ hhere) fun found middle _ hmiddle hview => ?_
  cases found with
  | true =>
    rw [if_pos rfl, if_pos rfl]
    exact (conditionalType_agreeAt h hmiddle).imp fun _ _ _ _ _ => trivial
  | false =>
    rw [hview rfl] at hmiddle ⊢
    have hpart := hpart.view hhere
    generalize (endingAfter read ending).view here = middle at hmiddle hpart ⊢
    refine bind_agreeAt (joinedType?_agreeAt h mem_joints_intersection (h.operand _ _) hmiddle hread hpart) ?_
    intro joined middle' hjoined hmiddle' hpost
    cases joined with
    | some type => exact pure_agreeAt hmiddle' (known_some.mp hjoined) trivial
    | none =>
      obtain ⟨-, rfl⟩ := hpost
      refine bind_agreeAt
        (joinedType?_agreeAt h mem_joints_union (h.conjunction _) hmiddle' hread (hpart.view hmiddle)) ?_
      intro joined last hjoined hlast _
      cases joined with
      | some type => exact pure_agreeAt hlast (known_some.mp hjoined) trivial
      | none => exact fail_agree _ hlast

@[gcongr]
theorem keysType_agree (h : g.Agree text g') (ending : Ending) :
    Reader.Agree text (keysType g ending) (keysType g' ending) := by
  unfold keysType
  refine bind_agree keyword_agree fun _ _ => bind_agree (typeAfterWord_agree ?_) fun read hread => ?_
  · intro here hhere
    refine bind_agreeAt (h.operand _ _ _ hhere) fun read rest hread hrest hpart => ?_
    split
    · exact largerType_agreeAt h hrest hread hpart
    · exact pure_agreeAt hrest hread trivial
  · simp [simple, hread]

theorem gives_keysType : Gives (Unjoined start) (keysType g ending) := by
  unfold keysType
  exact gives_after fun _ => gives_after fun _ => gives_pure (unjoined_of (fun _ => rfl) rfl rfl rfl)

@[gcongr]
theorem maybeType_agree (h : g.Agree text g') (ending : Ending) :
    Reader.Agree text (maybeType g ending) (maybeType g' ending) := by
  unfold maybeType
  gcongr <;> simp [simple]

theorem gives_maybeType : Gives (Unjoined start) (maybeType g ending) := by
  unfold maybeType
  exact gives_after fun _ => gives_after fun _ => gives_after fun _ =>
    gives_pure (unjoined_of (fun _ => rfl) rfl rfl rfl)

@[gcongr]
theorem typeParamsAt_agree (h : g.Agree text g') (start : Start) :
    Reader.Agree text (typeParamsAt g start) (typeParamsAt g' start) := by
  unfold typeParamsAt
  dsimp only
  gcongr <;> simp

@[gcongr]
theorem functionType_agree (h : g.Agree text g') (start : Start) (ending : Ending) :
    Reader.Agree text (functionType g start ending) (functionType g' start ending) := by
  unfold functionType
  gcongr <;> simp [loose, *]

theorem gives_functionType : Gives (Unjoined start) (functionType g start ending) := by
  unfold functionType
  exact gives_after fun _ => gives_after fun _ => gives_after fun _ => gives_after fun _ =>
    gives_pure (unjoined_of (fun _ => rfl) rfl rfl rfl)

@[gcongr]
theorem constructorType_agree (h : g.Agree text g') (start : Start) (ending : Ending) :
    Reader.Agree text (constructorType g start ending) (constructorType g' start ending) := by
  unfold constructorType
  gcongr <;> simp [loose]

theorem gives_constructorType : Gives (Unjoined start) (constructorType g start ending) := by
  unfold constructorType
  exact gives_after fun _ => gives_after fun _ => gives_after fun _ => gives_after fun _ =>
    gives_after fun _ => gives_after fun _ => gives_pure (unjoined_of (fun _ => rfl) rfl rfl rfl)

@[gcongr]
theorem inferredType_agree (h : g.Agree text g') (ending : Ending) :
    Reader.Agree text (inferredType g ending) (inferredType g' ending) := by
  unfold inferredType
  dsimp only
  gcongr <;> simp [loose]

theorem gives_inferredType : Gives (Unjoined start) (inferredType g ending) := by
  unfold inferredType
  dsimp only
  refine gives_after fun _ => gives_after fun _ => gives_after fun _ => gives_ite (fun _ => ?_) fun _ => ?_
  · exact gives_after fun _ => gives_pure (unjoined_of (fun _ => rfl) rfl rfl rfl)
  · exact gives_pure (unjoined_of (fun _ => rfl) rfl rfl rfl)

end Words

/-! ## Types by how tightly they bind -/

section Whole

variable {place here : Cursor}

theorem agreeAt_ite {α : Type} [Known α] {c : Prop} [Decidable c] {first first' second second' : Reader α}
    {post : α → Cursor → Prop} (hfirst : c → AgreeAt text first first' here post)
    (hsecond : ¬ c → AgreeAt text second second' here post) :
    AgreeAt text (if c then first else second) (if c then first' else second') here post := by
  split
  · exact hfirst ‹_›
  · exact hsecond ‹_›

theorem settled_agreeAt {few more : Reader ReadType}
    (h : AgreeAt text few more here (Part start ending place)) :
    AgreeAt text (do let read ← few; settle (endingAfter read ending); return read)
      (do let read ← more; settle (endingAfter read ending); return read) here
      (EndedPart start ending place) := by
  refine bind_agreeAt h fun read middle hread hmiddle hpart => ?_
  refine bind_agreeAt (settle_agreeAt (endingAfter read ending) hmiddle) ?_
  rintro _ rest - hrest rfl
  exact pure_agreeAt hrest hread hpart.settled

theorem Unjoined.settled_agreeAt {few more : Reader ReadType} (h : Reader.Agree text few more)
    (hgives : Gives (Unjoined start) few) (hhere : here.In text) :
    AgreeAt text (do let read ← few; settle (endingAfter read ending); return read)
      (do let read ← more; settle (endingAfter read ending); return read) here
      (EndedPart start ending place) :=
  Facade.settled_agreeAt ((h.agreeAt hgives hhere).imp fun _ _ _ _ hread => hread.part place)

theorem bracketed_agreeAt (h : g.Agree text g') {few more : Reader ReadType}
    (hhead : AgreeAt text few more here (Part start ending place)) :
    AgreeAt text
      (do let head ← few; let read ← withBrackets g ending head; settle (endingAfter read ending)
          return read)
      (do let head ← more; let read ← withBrackets g' ending head; settle (endingAfter read ending)
          return read) here (EndedPart start ending place) := by
  refine bind_agreeAt hhead fun head middle hhead hmiddle hpart => ?_
  exact Facade.settled_agreeAt
    ((withBrackets_agreeAt h hmiddle hhead hpart).imp fun _ _ _ _ hread => hread.1)

theorem operandType_agreeAt (h : g.Agree text g') (start : Start) (ending : Ending)
    (hhere : here.In text) :
    AgreeAt text (operandType g start ending) (operandType g' start ending) here
      (EndedPart start ending here) := by
  unfold operandType
  dsimp only
  refine bind_agreeAt (look_agreeAt hhere) ?_
  rintro _ middle - hmiddle ⟨rfl, rfl⟩
  refine agreeAt_ite (fun _ => ?_) fun _ => ?_
  · exact Unjoined.settled_agreeAt (keysType_agree h _) gives_keysType hmiddle
  refine agreeAt_ite (fun hword => ?_) fun _ => ?_
  · exact settled_agreeAt (readonlyType_agreeAt h hmiddle hword)
  refine agreeAt_ite (fun _ => ?_) fun _ => ?_
  · exact Unjoined.settled_agreeAt (constructorType_agree h _ _) gives_constructorType hmiddle
  refine agreeAt_ite (fun _ => ?_) fun _ => ?_
  · exact Unjoined.settled_agreeAt (inferredType_agree h _) gives_inferredType hmiddle
  refine agreeAt_ite (fun _ => ?_) fun _ => ?_
  · exact Unjoined.settled_agreeAt (importType_agree h _ _) gives_importType hmiddle
  refine agreeAt_ite (fun _ => ?_) fun _ => ?_
  · exact Unjoined.settled_agreeAt (maybeType_agree h _) gives_maybeType hmiddle
  refine agreeAt_ite (fun _ => ?_) fun _ => ?_
  · exact bracketed_agreeAt h (ledType_agreeAt mem_joints_union (h.conjunction _) hmiddle)
  refine agreeAt_ite (fun _ => ?_) fun _ => ?_
  · exact bracketed_agreeAt h (ledType_agreeAt mem_joints_intersection (h.operand _ _) hmiddle)
  refine agreeAt_ite (fun _ => ?_) fun _ => ?_
  · exact Unjoined.settled_agreeAt (functionType_agree h _ _) gives_functionType hmiddle
  · refine bracketed_agreeAt h ((simpleType_agreeAt h hmiddle).imp fun read _ _ _ hread => ?_)
    refine .of_notMade hread.ofPlain hread.notMade fun hconst => ?_
    have hword := hread.ofConst hconst
    rw [hhere.withMarkup_withMarkup] at hword
    simp only [Token.isWord, Bool.and_eq_true, beq_iff_eq] at hword
    simp [Token.isAnyWord, hword]

theorem intersectionFrom_agreeAt (h : g.Agree text g') {first : ReadType} (hhere : here.In text)
    (hfirst : known text first) (hpart : EndedPart start ending place first here) :
    AgreeAt text (intersectionFrom g ending first) (intersectionFrom g' ending first) here
      fun read rest => EndedPart start ending place read rest ∧
        (intersectionJoint.makes read.type → ending.StopsAt intersectionJoint.mark rest) := by
  unfold intersectionFrom
  refine (joinedTypes_agreeAt h mem_joints_intersection
    (fun place hplace => operandType_agreeAt h .plain ending hplace) (fun _ _ => True)
    (fun _ _ _ _ _ => trivial) (fun _ _ _ => trivial) hhere hfirst hpart trivial).imp ?_
  exact fun _ _ _ _ hread => ⟨hread.1, hread.2.2⟩

theorem intersectionType_agreeAt (h : g.Agree text g') (start : Start) (ending : Ending)
    (hhere : here.In text) :
    AgreeAt text (intersectionType g start ending) (intersectionType g' start ending) here
      (EndedPart start ending here) := by
  unfold intersectionType
  refine bind_agreeAt (operandType_agreeAt h start ending hhere) ?_
  intro first middle hfirst hmiddle hpart
  exact (intersectionFrom_agreeAt h hmiddle hfirst hpart).imp fun _ _ _ _ hread => hread.1

theorem unionFrom_agreeAt (h : g.Agree text g') {first : ReadType} (hhere : here.In text)
    (hfirst : known text first) (hpart : EndedPart start ending place first here) :
    AgreeAt text (unionFrom g ending first) (unionFrom g' ending first) here fun read rest =>
      EndedPart start ending place read rest ∧
        ∀ joint ∈ joints, joint.makes read.type → ending.StopsAt joint.mark rest := by
  unfold unionFrom
  refine bind_agreeAt (intersectionFrom_agreeAt h hhere hfirst hpart) ?_
  rintro left middle hleft hmiddle ⟨hpart, hstops⟩
  -- an intersection that is not joined further stays closed on the way
  refine (joinedTypes_agreeAt h mem_joints_union
    (fun place hplace => intersectionType_agreeAt h .plain ending hplace)
    (fun read rest =>
      intersectionJoint.makes read.type → ending.StopsAt intersectionJoint.mark rest)
    ?_ ?_ hmiddle hleft hpart hstops).imp ?_
  · intro read here hhere hread hstops hmakes
    rw [endingAfter_of_unshared (hread.unshared _ mem_joints_intersection hmakes)]
    exact (hstops hmakes).view hhere
  · intro read rest honly hmakes
    have := honly _ mem_joints_intersection hmakes
    simp [intersectionJoint, unionJoint] at this
  · rintro read rest - - ⟨hread, hinter, hunion⟩
    refine ⟨hread, fun joint hjoint hmakes => ?_⟩
    rcases joint_cases hjoint with rfl | rfl
    · exact hunion hmakes
    · exact hinter hmakes

theorem type_agreeAt (h : g.Agree text g') (start : Start) (ending : Ending) (hhere : here.In text) :
    AgreeAt text (type g start ending) (type g' start ending) here (Whole start ending) := by
  unfold Grammar.type
  refine bind_agreeAt (operandType_agreeAt h start ending hhere) ?_
  intro first middle hfirst hmiddle hpart
  refine bind_agreeAt (loop_agreeAt (EndedPart start ending here) (fun read rest =>
    EndedPart start ending here read rest ∧
      ∀ joint ∈ joints, joint.makes read.type → ending.StopsAt joint.mark rest)
    ?_ hmiddle hfirst hpart) ?_
  · intro first middle hfirst hmiddle hpart
    refine bind_agreeAt (unionFrom_agreeAt h hmiddle hfirst hpart) ?_
    rintro left middle hleft hmiddle ⟨hpart, hstops⟩
    refine bind_agreeAt (continueWith_agreeAt _ _ hmiddle) fun found rest _ hrest hview => ?_
    cases found with
    | false =>
      rw [hview rfl] at hrest ⊢
      refine pure_agreeAt hrest hleft ⟨hpart.view hmiddle, fun joint hjoint hmakes => ?_⟩
      rw [endingAfter_of_unshared (hpart.unshared joint hjoint hmakes)]
      exact (hstops joint hjoint hmakes).view hmiddle
    | true =>
      simp only [if_true]
      refine bind_agreeAt (conditionalType_agreeAt h hrest) ?_
      rintro found middle hfound hmiddle ⟨rfl, hended⟩
      have hchoice : Unjoined start (simple (.unsupported "conditional_type")) :=
        unjoined_of (fun _ => rfl) rfl rfl rfl
      refine bind_agreeAt (continuesWith_agreeAt ending _ hmiddle) ?_
      rintro more rest - hrest rfl
      refine agreeAt_ite (fun _ => ?_) fun _ => ?_
      · refine bind_agreeAt (withBrackets_agreeAt h hrest hfound (hchoice.part here)) ?_
        rintro read last hread hlast ⟨hpart, hends, -⟩
        exact pure_agreeAt hlast hread ⟨hpart, hends fun _ => hended.view⟩
      · refine pure_agreeAt hrest hfound ⟨⟨hchoice.part here, fun _ => hended.view⟩, ?_⟩
        intro joint hjoint hmakes
        simp [hchoice.notMade joint hjoint] at hmakes
  · rintro found middle hfound hmiddle ⟨hpart, hstops⟩
    refine bind_agreeAt (settle_agreeAt (endingAfter found ending) hmiddle) ?_
    rintro _ rest - hrest rfl
    refine pure_agreeAt hrest hfound ⟨hpart.ofPlain, hpart.toPart.settled.ended, fun joint hjoint hmakes => ?_⟩
    rw [endingAfter_of_unshared (hpart.unshared joint hjoint hmakes)]
    exact (hstops joint hjoint hmakes).settled

end Whole

end Facade
