-- The traits of an interface. A property with an object literal type refers to a trait inside the
-- object beside its own trait; at every depth that trait is there, once, and no trait is there that
-- no property refers to.
import Facade.Proofs.Erasure
import Facade.Proofs.Text

namespace Facade

/-! ## Properties with an object literal type -/

/-- A visible property with an object literal type. -/
structure LiteralProperty where
  name : String
  readonly : Bool
  /-- The members of its type. -/
  literal : List Member

namespace LiteralProperty

/-- The name of the trait that stands for the type. -/
def trait (property : LiteralProperty) : String :=
  Name.nestedTrait property.name

/-- The line that binds the property to its trait inside `owner`. -/
def line (property : LiteralProperty) (owner : String) : String :=
  (if property.readonly then "def " else "var ") ++ Name.written property.name ++ ": "
    ++ owner ++ "." ++ property.trait ++ " = js.native"

/-- The block of the trait. -/
def block (property : LiteralProperty) : Piece :=
  .block ("trait " ++ property.trait ++ " extends js.Object") true
    (Piece.ofLines (traitLines property.literal property.trait))

end LiteralProperty

/-- The member as a visible property with an object literal type, if it is one. -/
def Member.literalProperty? : Member → Option LiteralProperty
  | .property .everyone _ name (.object literal) readonly _ _ => some ⟨name, readonly, literal⟩
  | _ => none

/-- The visible properties with an object literal type. -/
def literalProperties (members : List Member) : List LiteralProperty :=
  members.filterMap Member.literalProperty?

/-- The first of them whose trait has this name. -/
def firstLiteral? (members : List Member) (trait : String) : Option LiteralProperty :=
  (literalProperties members).find? (·.trait == trait)

/-! ## Emitted traits -/

/-- Pieces at one level of blocks: all of them, or the body of a block at a level. -/
inductive Level (pieces : List Piece) : List Piece → Prop
  | whole : Level pieces pieces
  | body {level body : List Piece} {header : String} {indented : Bool} :
      Level pieces level → .block header indented body ∈ level → Level pieces body

/-- Whether a piece is a block with this head. -/
def Piece.hasHead (wanted : String) : Piece → Bool
  | .block header _ _ => header == wanted
  | _ => false

/-- The head of an interface's own trait. -/
def InterfaceDecl.header (decl : InterfaceDecl) : String :=
  "trait " ++ Name.written decl.name ++ typeParamList decl.typeParams ++ " extends " ++ decl.parents

/-- The traits of an interface: its own, and for each trait those of its object literal types. They
are given with the level they stand at, their head, their name and their members. -/
inductive EmittedTrait (decl : InterfaceDecl) :
    List Piece → String → String → List Member → Prop
  | own : EmittedTrait decl decl.pieces decl.header (Name.written decl.name) decl.members
  | nested {level inner : List Piece} {header owner : String} {members : List Member}
      {trait : String} {property : LiteralProperty} :
      EmittedTrait decl level header owner members →
      .block ("object " ++ owner) true inner ∈ level →
      firstLiteral? members trait = some property →
      EmittedTrait decl inner ("trait " ++ trait ++ " extends js.Object") trait property.literal

/-- The pieces inside the object beside a trait: the traits that the trait refers to. -/
structure Defines (inner : List Piece) (owner : String) (members : List Member) : Prop where
  /-- For each property with an object literal type there is one trait, that of the first property
  with the same trait name. -/
  once : ∀ property ∈ literalProperties members, ∃ first,
    firstLiteral? members property.trait = some first ∧
    inner.filter (·.hasHead ("trait " ++ property.trait ++ " extends js.Object")) = [first.block]
  /-- Each trait is that of a property, and a line of the owner refers to it. -/
  referred : ∀ head indented body, .block head indented body ∈ inner →
    "trait ".toList.isPrefixOf head.toList = true →
    ∃ property ∈ literalProperties members,
      head = "trait " ++ property.trait ++ " extends js.Object" ∧
      property.line owner ∈ traitLines members owner

/-- A trait at its level, and what it refers to. -/
structure Resolves (level : List Piece) (header owner : String) (members : List Member) :
    Prop where
  /-- The trait stands there. -/
  present : .block header true (Piece.ofLines (traitLines members owner)) ∈ level
  /-- Each property with an object literal type is bound to the trait named after it. -/
  bound : ∀ property ∈ literalProperties members, property.line owner ∈ traitLines members owner
  /-- If there is such a property, an object with these traits follows. -/
  companion : literalProperties members ≠ [] → ∃ before inner after,
    level = before ++ [.block header true (Piece.ofLines (traitLines members owner)), .gap,
      .block ("object " ++ owner) true inner] ++ after ∧ Defines inner owner members
  /-- There is an object only if there is such a property. -/
  needed : ∀ indented inner, .block ("object " ++ owner) indented inner ∈ level →
    literalProperties members ≠ []

/-! ## References -/

theorem Member.eq_property_of_literalProperty? {member : Member} {property : LiteralProperty}
    (h : member.literalProperty? = some property) :
    ∃ static optional abstract, member = .property .everyone static property.name
      (.object property.literal) property.readonly optional abstract := by
  unfold literalProperty? at h
  split at h
  · cases h
    exact ⟨_, _, _, rfl⟩
  · cases h

theorem nestedPropertyLine_eq (property : LiteralProperty) (owner : String) :
    nestedPropertyLine property.name property.readonly owner = property.line owner := by
  unfold nestedPropertyLine LiteralProperty.line
  cases property.readonly <;> rfl

/-- Only the accessors of an index signature have more than one line in a trait. -/
theorem Member.traitLines_cases (member : Member) (owner : String) :
    member.traitLines owner = [] ∨ (∃ line, member.traitLines owner = [line]) ∨
      ∃ rest, member.traitLines owner = "@JSBracketAccess" :: rest := by
  cases hn : member.nested? with
  | some pair =>
    obtain ⟨_, _, _, _, rfl⟩ := eq_property_of_nested? hn
    exact Or.inr (Or.inl ⟨_, rfl⟩)
  | none =>
    rw [traitLines_of_not_nested hn, render]
    split
    · cases member with
      | property => exact Or.inr (Or.inl ⟨_, rfl⟩)
      | method access static name typeParams params ret role optional abstract =>
        cases role <;> exact Or.inr (Or.inl ⟨_, rfl⟩)
      | index access static keyName keyType valueType readonly =>
        cases readonly <;> exact Or.inr (Or.inr ⟨_, rfl⟩)
      | call => exact Or.inr (Or.inl ⟨_, rfl⟩)
      | construct | other | unknown => exact Or.inl rfl
    · exact Or.inl rfl

theorem LiteralProperty.line_head (property : LiteralProperty) (owner : String) :
    (property.line owner).toList.head? ≠ some '@' := by
  unfold line
  simp only [String.append_assoc, String.toList_append]
  split <;> simp

theorem head?_intercalate_cons {text : String} {c : Char} (h : text.toList.head? = some c)
    (glue : String) (rest : List String) :
    (glue.intercalate (text :: rest)).toList.head? = some c := by
  cases rest with
  | nil => rwa [String.intercalate_singleton]
  | cons next rest =>
    rw [String.intercalate_cons_cons, String.append_assoc, String.toList_append,
      List.head?_append, h]
    rfl

/-- Repeats are dropped by the text of all their lines, and a reference has a text of one line that
no index signature has, so a line with that text stays. -/
theorem line_mem_traitLines {members : List Member} {property : LiteralProperty}
    (h : property ∈ literalProperties members) (owner : String) :
    property.line owner ∈ traitLines members owner := by
  obtain ⟨member, hmember, hliteral⟩ := List.mem_filterMap.mp h
  obtain ⟨_, _, _, rfl⟩ := Member.eq_property_of_literalProperty? hliteral
  have hrendering : [property.line owner] ∈
      (members.map (·.traitLines owner)).filter (!·.isEmpty) := by
    rw [← nestedPropertyLine_eq]
    exact List.mem_filter.mpr ⟨List.mem_map.mpr ⟨_, hmember, rfl⟩, rfl⟩
  obtain ⟨lines, hlines, hkey⟩ := Text.exists_mem_distinctBy ("\n".intercalate ·) hrendering
  rw [String.intercalate_singleton] at hkey
  obtain ⟨other, _, rfl⟩ :=
    List.mem_map.mp (List.mem_filter.mp (Text.mem_of_mem_distinctBy hlines)).1
  refine List.mem_flatten.mpr ⟨_, hlines, ?_⟩
  rcases other.traitLines_cases owner with hnone | ⟨line, hone⟩ | ⟨rest, hindex⟩
  · have hfull := (List.mem_filter.mp (Text.mem_of_mem_distinctBy hlines)).2
    rw [hnone] at hfull
    cases hfull
  · rw [hone, String.intercalate_singleton] at hkey
    rw [hone, hkey]
    exact List.mem_singleton_self _
  · rw [hindex] at hkey
    have hhead := head?_intercalate_cons (show "@JSBracketAccess".toList.head? = some '@' from rfl)
      "\n" rest
    rw [hkey] at hhead
    exact absurd hhead (property.line_head owner)

/-! ## Traits in order -/

/-- The object beside a trait. -/
def companionPieces (owner : String) (members : List Member) : List Piece :=
  if (nestedTraits [] members).isEmpty then []
  else [.gap, .block ("object " ++ owner) true (nestedTraits [] members)]

/-- A trait with the object beside it. -/
def traitPieces (header owner : String) (members : List Member) : List Piece :=
  [.line nativeMark, .block header true (Piece.ofLines (traitLines members owner))]
    ++ companionPieces owner members

theorem InterfaceDecl.pieces_eq (decl : InterfaceDecl) :
    decl.pieces = .gap :: traitPieces decl.header (Name.written decl.name) decl.members := rfl

/-- The trait of a property with the object beside it. -/
def LiteralProperty.pieces (property : LiteralProperty) : List Piece :=
  traitPieces ("trait " ++ property.trait ++ " extends js.Object") property.trait property.literal

/-- The properties that have a trait of their own: of those with one trait name, the first. -/
def firstLiterals (members : List Member) : List LiteralProperty :=
  Text.distinctBy LiteralProperty.trait (literalProperties members)

theorem nestedTraits_eq_filter (seen : List String) (members : List Member) :
    nestedTraits seen members =
      ((firstLiterals members).filter (!seen.contains ·.trait)).flatMap
        LiteralProperty.pieces := by
  induction members generalizing seen with
  | nil => rfl
  | cons member rest ih =>
    rw [nestedTraits]
    cases hm : member.literalProperty? with
    | none =>
      have hnone : member.nestedTrait? = none := by
        cases hn : member.nested? with
        | none => rw [Member.nestedTrait?, hn, Option.map_none]
        | some pair =>
          obtain ⟨_, _, _, _, rfl⟩ := Member.eq_property_of_nested? hn
          cases hm
      have hfirst : firstLiterals (member :: rest) = firstLiterals rest := by
        simp [firstLiterals, literalProperties, hm]
      rw [hnone, hfirst]
      exact ih seen
    | some property =>
      have hfirst : firstLiterals (member :: rest) =
          property :: (firstLiterals rest).filter (·.trait != property.trait) := by
        simp [firstLiterals, literalProperties, hm, Text.distinctBy]
      obtain ⟨_, _, _, rfl⟩ := Member.eq_property_of_literalProperty? hm
      rw [hfirst, List.filter_cons, List.filter_filter]
      change (if seen.contains property.trait then nestedTraits seen rest
        else property.pieces ++ nestedTraits (property.trait :: seen) rest) = _
      cases hs : seen.contains property.trait with
      | true =>
        have hsame : (firstLiterals rest).filter
            (fun x => !seen.contains x.trait && x.trait != property.trait) =
            (firstLiterals rest).filter (!seen.contains ·.trait) := by
          apply List.filter_congr
          intro other _
          by_cases ho : other.trait = property.trait
          · rw [ho, hs]
            rfl
          · simp [ho]
        simp only [if_true, Bool.not_true, Bool.false_eq_true, if_false]
        rw [hsame, ih seen]
      | false =>
        have hsame : (firstLiterals rest).filter
            (fun x => !seen.contains x.trait && x.trait != property.trait) =
            (firstLiterals rest).filter (!(property.trait :: seen).contains ·.trait) := by
          apply List.filter_congr
          intro other _
          rw [List.contains_cons, Bool.not_or, Bool.and_comm]
          rfl
        simp only [Bool.false_eq_true, if_false, Bool.not_false, if_true]
        rw [List.flatMap_cons, hsame, ih]

/-- The traits inside an object are those of the first properties, in order. -/
theorem nestedTraits_eq (members : List Member) :
    nestedTraits [] members = (firstLiterals members).flatMap LiteralProperty.pieces := by
  have hall : (firstLiterals members).filter (!([] : List String).contains ·.trait) =
      firstLiterals members := List.filter_eq_self.mpr fun _ _ => rfl
  rw [nestedTraits_eq_filter, hall]

theorem nestedTraits_isEmpty (members : List Member) :
    (nestedTraits [] members).isEmpty = true ↔ literalProperties members = [] := by
  rw [nestedTraits_eq, firstLiterals]
  cases literalProperties members with
  | nil => exact iff_of_true rfl rfl
  | cons property rest => exact iff_of_false Bool.false_ne_true (List.cons_ne_nil _ _)

theorem companionPieces_of_ne_nil {members : List Member} (h : literalProperties members ≠ [])
    (owner : String) :
    companionPieces owner members =
      [.gap, .block ("object " ++ owner) true (nestedTraits [] members)] :=
  if_neg fun hempty => h ((nestedTraits_isEmpty members).mp hempty)

/-! ## Which trait is which -/

theorem firstLiterals_of_firstLiteral? {members : List Member} {trait : String}
    {property : LiteralProperty} (h : firstLiteral? members trait = some property) :
    (firstLiterals members).filter (·.trait == trait) = [property] := by
  rw [firstLiterals, Text.filter_distinctBy]
  exact congrArg Option.toList h

theorem firstLiteral?_of_mem {members : List Member} {property : LiteralProperty}
    (h : property ∈ firstLiterals members) :
    firstLiteral? members property.trait = some property := by
  have hmem : property ∈ (firstLiterals members).filter (·.trait == property.trait) :=
    List.mem_filter.mpr ⟨h, beq_self_eq_true _⟩
  rw [firstLiterals, Text.filter_distinctBy] at hmem
  exact Option.mem_toList.mp hmem

/-- A property with an object literal type has a first one with its trait name. -/
theorem exists_firstLiteral? {members : List Member} {property : LiteralProperty}
    (h : property ∈ literalProperties members) :
    ∃ first, firstLiteral? members property.trait = some first := by
  cases hf : firstLiteral? members property.trait with
  | some first => exact ⟨first, rfl⟩
  | none => exact absurd (beq_self_eq_true _) (List.find?_eq_none.mp hf property h)

theorem eq_trait_of_head {first second : String}
    (h : "trait " ++ first ++ " extends js.Object" = "trait " ++ second ++ " extends js.Object") :
    first = second :=
  (String.append_right_inj _).mp ((String.append_left_inj _).mp h)

theorem object_ne_trait (owner rest : String) : "object " ++ owner ≠ "trait " ++ rest := by
  intro h
  have hhead := congrArg (fun text : String => text.toList.head?) h
  simp [String.toList_append] at hhead

/-- The blocks of a trait and the object beside it. -/
theorem block_mem_traitPieces {header owner head : String} {members : List Member}
    {indented : Bool} {body : List Piece}
    (h : .block head indented body ∈ traitPieces header owner members) :
    (head = header ∧ body = Piece.ofLines (traitLines members owner)) ∨
      (head = "object " ++ owner ∧ indented = true ∧ body = nestedTraits [] members ∧
        literalProperties members ≠ []) := by
  rcases List.mem_append.mp h with h | h
  · simp only [List.mem_cons, List.not_mem_nil, or_false, reduceCtorEq, false_or,
      Piece.block.injEq] at h
    exact Or.inl ⟨h.1, h.2.2⟩
  · unfold companionPieces at h
    split at h
    · cases h
    · rename_i hfull
      simp only [List.mem_cons, List.not_mem_nil, or_false, reduceCtorEq, false_or,
        Piece.block.injEq] at h
      exact Or.inr ⟨h.1, h.2.1, h.2.2, fun hnone => hfull ((nestedTraits_isEmpty _).mpr hnone)⟩

/-- Among the pieces of a property, only its own trait has the head of a nested trait. -/
theorem LiteralProperty.filter_pieces (property : LiteralProperty) (trait : String) :
    property.pieces.filter (·.hasHead ("trait " ++ trait ++ " extends js.Object")) =
      if property.trait == trait then [property.block] else [] := by
  have hcompanion : (companionPieces property.trait property.literal).filter
      (·.hasHead ("trait " ++ trait ++ " extends js.Object")) = [] := by
    rw [List.filter_eq_nil_iff]
    unfold companionPieces
    split
    · simp
    · have hne : "object " ++ property.trait ≠ "trait " ++ trait ++ " extends js.Object" := by
        rw [String.append_assoc]
        exact object_ne_trait _ _
      simp [Piece.hasHead, hne]
  have htrait : property.block.hasHead ("trait " ++ trait ++ " extends js.Object") =
      (property.trait == trait) := by
    rw [Bool.eq_iff_iff, beq_iff_eq]
    exact beq_iff_eq.trans ⟨eq_trait_of_head, fun h => by rw [h]⟩
  change ([.line nativeMark, property.block] ++ companionPieces property.trait
    property.literal).filter _ = _
  rw [List.filter_append, hcompanion, List.append_nil,
    List.filter_cons_of_neg (by simp [Piece.hasHead]), List.filter_cons, htrait, List.filter_nil]

/-- An object has one trait for each trait name, that of the first property with that name. -/
theorem filter_nestedTraits {members : List Member} {trait : String} {property : LiteralProperty}
    (h : firstLiteral? members trait = some property) :
    (nestedTraits [] members).filter (·.hasHead ("trait " ++ trait ++ " extends js.Object")) =
      [property.block] := by
  have hpick : ∀ properties : List LiteralProperty,
      (properties.flatMap fun x => if x.trait == trait then [x.block] else []) =
        (properties.filter (·.trait == trait)).map LiteralProperty.block := by
    intro properties
    induction properties with
    | nil => rfl
    | cons property rest ih =>
      rw [List.flatMap_cons, ih, List.filter_cons]
      split <;> rfl
  rw [nestedTraits_eq, List.filter_flatMap]
  simp only [LiteralProperty.filter_pieces]
  rw [hpick, firstLiterals_of_firstLiteral? h]
  rfl

/-- A block inside an object belongs to one of the first properties. -/
theorem block_mem_nestedTraits {members : List Member} {head : String} {indented : Bool}
    {body : List Piece} (h : .block head indented body ∈ nestedTraits [] members) :
    ∃ property ∈ firstLiterals members, .block head indented body ∈ property.pieces := by
  rw [nestedTraits_eq] at h
  exact List.mem_flatMap.mp h

/-! ## Levels -/

/-- Where a trait stands: with the object beside it, which is the only one of that name. -/
structure Placed (level : List Piece) (header owner : String) (members : List Member) : Prop where
  segment : ∃ before after, level = before ++ traitPieces header owner members ++ after
  object : ∀ indented inner, .block ("object " ++ owner) indented inner ∈ level →
    inner = nestedTraits [] members ∧ literalProperties members ≠ []

theorem InterfaceDecl.own_placed (decl : InterfaceDecl) :
    Placed decl.pieces decl.header (Name.written decl.name) decl.members where
  segment := ⟨[.gap], [], by rw [decl.pieces_eq, List.append_nil]; rfl⟩
  object indented inner h := by
    rw [decl.pieces_eq] at h
    rcases List.mem_cons.mp h with h | h
    · cases h
    · rcases block_mem_traitPieces h with ⟨hhead, _⟩ | ⟨_, _, hinner, hsome⟩
      · unfold header at hhead
        simp only [String.append_assoc] at hhead
        exact absurd hhead (object_ne_trait _ _)
      · exact ⟨hinner, hsome⟩

theorem nested_placed {members : List Member} {trait : String} {property : LiteralProperty}
    (h : firstLiteral? members trait = some property) :
    Placed (nestedTraits [] members) ("trait " ++ trait ++ " extends js.Object") trait
      property.literal := by
  have hfirst := firstLiterals_of_firstLiteral? h
  have hmem : property ∈ (firstLiterals members).filter (·.trait == trait) := by
    rw [hfirst]
    exact List.mem_singleton_self property
  obtain ⟨hproperty, htrait⟩ := List.mem_filter.mp hmem
  obtain rfl := eq_of_beq htrait
  refine ⟨?_, ?_⟩
  · obtain ⟨before, after, hsplit⟩ := List.append_of_mem hproperty
    refine ⟨before.flatMap LiteralProperty.pieces, after.flatMap LiteralProperty.pieces, ?_⟩
    rw [nestedTraits_eq, hsplit, List.flatMap_append, List.flatMap_cons, List.append_assoc]
    rfl
  · intro indented inner hobject
    obtain ⟨other, hother, hpieces⟩ := block_mem_nestedTraits hobject
    rcases block_mem_traitPieces hpieces with ⟨hhead, _⟩ | ⟨hhead, _, hinner, hsome⟩
    · rw [String.append_assoc] at hhead
      exact absurd hhead (object_ne_trait _ _)
    · -- Traits of one object have names of their own, so the object is that of the property.
      have hname : other.trait = property.trait := ((String.append_right_inj _).mp hhead).symm
      have hsame : other ∈ (firstLiterals members).filter (·.trait == property.trait) :=
        List.mem_filter.mpr ⟨hother, beq_iff_eq.mpr hname⟩
      rw [hfirst, List.mem_singleton] at hsame
      subst hsame
      exact ⟨hinner, hsome⟩

theorem EmittedTrait.placed {decl : InterfaceDecl} {level : List Piece} {header owner : String}
    {members : List Member} (h : EmittedTrait decl level header owner members) :
    Placed level header owner members := by
  induction h with
  | own => exact decl.own_placed
  | nested _ hobject hfirst ih =>
    obtain ⟨rfl, _⟩ := ih.object _ _ hobject
    exact nested_placed hfirst

theorem nestedTraits_defines (members : List Member) (owner : String) :
    Defines (nestedTraits [] members) owner members where
  once property hp := by
    obtain ⟨first, hfirst⟩ := exists_firstLiteral? hp
    exact ⟨first, hfirst, filter_nestedTraits hfirst⟩
  referred head indented body hblock htrait := by
    obtain ⟨property, hproperty, hpieces⟩ := block_mem_nestedTraits hblock
    have hp : property ∈ literalProperties members := Text.mem_of_mem_distinctBy hproperty
    rcases block_mem_traitPieces hpieces with ⟨hhead, _⟩ | ⟨hhead, _⟩
    · exact ⟨property, hp, hhead, line_mem_traitLines hp owner⟩
    · rw [hhead, String.toList_append] at htrait
      cases htrait

theorem Placed.resolves {level : List Piece} {header owner : String} {members : List Member}
    (h : Placed level header owner members) : Resolves level header owner members := by
  obtain ⟨before, after, hlevel⟩ := h.segment
  refine ⟨?_, fun property hp => line_mem_traitLines hp owner, ?_, fun indented inner hobject =>
    (h.object indented inner hobject).2⟩
  · rw [hlevel]
    simp [traitPieces]
  · intro hsome
    refine ⟨before ++ [.line nativeMark], nestedTraits [] members, after, ?_,
      nestedTraits_defines members owner⟩
    rw [hlevel, traitPieces, companionPieces_of_ne_nil hsome]
    simp

/-- Every block at a level is an emitted trait or the object beside one. -/
def Accounted (decl : InterfaceDecl) (level : List Piece) : Prop :=
  ∀ head indented body, .block head indented body ∈ level →
    ∃ header owner members, EmittedTrait decl level header owner members ∧
      ((head = header ∧ body = Piece.ofLines (traitLines members owner)) ∨
        (head = "object " ++ owner ∧ indented = true ∧ body = nestedTraits [] members))

theorem InterfaceDecl.own_accounted (decl : InterfaceDecl) : Accounted decl decl.pieces := by
  intro head indented body h
  refine ⟨_, _, _, .own, ?_⟩
  rw [decl.pieces_eq] at h
  rcases List.mem_cons.mp h with h | h
  · cases h
  · rcases block_mem_traitPieces h with htrait | ⟨hhead, hindented, hbody, _⟩
    · exact Or.inl htrait
    · exact Or.inr ⟨hhead, hindented, hbody⟩

/-- Inside a trait there are lines only, and inside an object there are traits of properties. -/
theorem Accounted.body {decl : InterfaceDecl} {level body : List Piece} {head : String}
    {indented : Bool} (h : Accounted decl level) (hblock : .block head indented body ∈ level) :
    Accounted decl body := by
  intro inside indented' body' hinside
  obtain ⟨header, owner, members, hemitted, ⟨_, rfl⟩ | ⟨rfl, rfl, rfl⟩⟩ :=
    h head indented body hblock
  · obtain ⟨line, _, hline⟩ := List.mem_map.mp hinside
    cases hline
  · obtain ⟨property, hproperty, hpieces⟩ := block_mem_nestedTraits hinside
    refine ⟨_, _, _, .nested hemitted hblock (firstLiteral?_of_mem hproperty), ?_⟩
    rcases block_mem_traitPieces hpieces with htrait | ⟨hhead, hindented, hbody, _⟩
    · exact Or.inl htrait
    · exact Or.inr ⟨hhead, hindented, hbody⟩

theorem Level.accounted {decl : InterfaceDecl} {level : List Piece}
    (h : Level decl.pieces level) : Accounted decl level := by
  induction h with
  | whole => exact decl.own_accounted
  | body _ hblock ih => exact ih.body hblock

/-! ## The laws -/

/-- References to nested traits always resolve. Every block at any depth of an interface that is
headed as a trait is one of its emitted traits, and each of these resolves: its properties with an
object literal type are bound to traits in the object that follows it, each of which is there once
and is referred to. -/
theorem every_nested_trait_is_defined_and_referred_to (decl : InterfaceDecl) :
    (∀ level head indented body, Level decl.pieces level → .block head indented body ∈ level →
      "trait ".toList.isPrefixOf head.toList = true →
      ∃ owner members, EmittedTrait decl level head owner members ∧
        body = Piece.ofLines (traitLines members owner)) ∧
    ∀ level header owner members, EmittedTrait decl level header owner members →
      Resolves level header owner members := by
  refine ⟨?_, fun _ _ _ _ h => h.placed.resolves⟩
  intro level head indented body hlevel hblock htrait
  obtain ⟨header, owner, members, hemitted, ⟨rfl, hbody⟩ | ⟨rfl, _, _⟩⟩ :=
    hlevel.accounted head indented body hblock
  · exact ⟨owner, members, hemitted, hbody⟩
  · rw [String.toList_append] at htrait
    cases htrait

/-- Two properties with the same trait name, a hidden one, and an object literal type inside an
object literal type. -/
theorem a_literal_inside_a_literal_is_defined_and_referred_to :
    let city : List Member := [.property .everyone false "city" (.keyword "string") false false false]
    let profile : List Member :=
      [.property .everyone false "address" (.object city) true false false]
    let decl : InterfaceDecl := ⟨"User", [], [],
      [.property .everyone false "profile" (.object profile) false false false,
        .property .owner false "secret" (.object city) false false false,
        .property .everyone false "Profile" (.object []) false false false]⟩
    ∃ inner, Level decl.pieces inner ∧
      inner.filter (·.hasHead "trait Profile extends js.Object") =
        [.block "trait Profile extends js.Object" true
          [.line "def address: Profile.Address = js.native"]] ∧
      EmittedTrait decl inner "trait Profile extends js.Object" "Profile" profile ∧
      Resolves inner "trait Profile extends js.Object" "Profile" profile ∧
      ∃ owner members, EmittedTrait decl inner "trait Profile extends js.Object" owner members ∧
        [.line "def address: Profile.Address = js.native"] =
          Piece.ofLines (traitLines members owner) := by
  intro city profile decl
  obtain ⟨hemitted, hresolves⟩ := every_nested_trait_is_defined_and_referred_to decl
  have htrait : Name.nestedTrait "profile" = "Profile" := by decide +kernel
  have hlines : traitLines profile "Profile" = ["def address: Profile.Address = js.native"] := by
    decide +kernel
  have hfirst : firstLiteral? decl.members "Profile" = some ⟨"profile", false, profile⟩ := by
    simp [firstLiteral?, literalProperties, decl, Member.literalProperty?, LiteralProperty.trait,
      htrait]
  obtain ⟨before, inner, after, hlevel, hdefines⟩ :=
    (hresolves _ _ _ _ .own).companion (by simp [literalProperties, decl, Member.literalProperty?])
  have hobject : .block ("object " ++ Name.written decl.name) true inner ∈ decl.pieces := by
    rw [hlevel]
    simp
  have hprofile : EmittedTrait decl inner "trait Profile extends js.Object" "Profile" profile :=
    .nested .own hobject hfirst
  have hblock := (hresolves _ _ _ _ hprofile).present
  rw [hlines] at hblock
  obtain ⟨first, hsame, honce⟩ := hdefines.once ⟨"profile", false, profile⟩
    (by simp [literalProperties, decl, Member.literalProperty?])
  rw [LiteralProperty.trait, htrait, hfirst] at hsame
  obtain rfl := Option.some.inj hsame
  rw [LiteralProperty.block, LiteralProperty.trait, htrait, hlines] at honce
  exact ⟨inner, .body .whole hobject, honce, hprofile, hresolves _ _ _ _ hprofile,
    hemitted _ _ _ _ (.body .whole hobject) hblock (by decide +kernel)⟩

end Facade
