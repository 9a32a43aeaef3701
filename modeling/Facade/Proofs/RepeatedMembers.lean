-- Members that are rendered alike. A trait shows a rendering once, where it first occurs, and the
-- object beside it is not changed by a repeat either. A class shows a line once for each member
-- and constructor that has it.
import Facade.Proofs.BlankLines
import Facade.Proofs.NestedTraits
import Mathlib.Data.List.Count

namespace Facade

/-! ## Renderings in a trait -/

/-- The rendering of a member in a trait: its lines as one text. -/
def Member.traitText (owner : String) (member : Member) : String :=
  "\n".intercalate (member.traitLines owner)

/-- The renderings of members in source order, without the empty ones. -/
def traitTexts (members : List Member) (owner : String) : List String :=
  (members.map (Member.traitText owner)).filter (· != "")

/-- How a trait shows the renderings of its members: `shown` are the lines of each. -/
structure ShowsRenderings (members : List Member) (owner : String) (shown : List (List String)) :
    Prop where
  /-- The lines are those of the first member with their rendering. -/
  first : ∀ lines ∈ shown, ∃ member,
    members.find? (Member.traitText owner · == "\n".intercalate lines) = some member ∧
      member.traitLines owner = lines
  /-- No rendering is shown twice. -/
  nodup : (shown.map ("\n".intercalate ·)).Nodup
  /-- Every rendering is shown that is not empty, and no other. -/
  complete : ∀ text, text ∈ shown.map ("\n".intercalate ·) ↔
    text ≠ "" ∧ ∃ member ∈ members, member.traitText owner = text
  /-- Renderings stand in the order in which they first occur. -/
  ordered : (shown.map ("\n".intercalate ·)).Pairwise fun a b =>
    (traitTexts members owner).idxOf a < (traitTexts members owner).idxOf b

theorem intercalate_eq_empty {lines : List String} (h : Written lines) :
    "\n".intercalate lines = "" ↔ lines = [] := by
  constructor
  · intro hempty
    cases lines with
    | nil => rfl
    | cons line rest =>
      have hline : line ≠ "" := h line (List.mem_cons_self ..)
      cases rest with
      | nil => exact absurd (by simpa using hempty) hline
      | cons next rest =>
        rw [String.intercalate_cons_cons, String.append_assoc] at hempty
        exact absurd (String.append_eq_empty_iff.mp hempty).1 hline
  · rintro rfl
    rfl

/-- Only a member without lines has an empty rendering. -/
theorem Member.traitText_ne_empty (member : Member) (owner : String) :
    (member.traitText owner != "") = !(member.traitLines owner).isEmpty := by
  rw [Bool.eq_iff_iff, bne_iff_ne, Bool.not_eq_true', List.isEmpty_eq_false_iff]
  exact not_congr (intercalate_eq_empty (member.traitLines_written owner))

/-- The lines of the members that have some. -/
def renderedLines (members : List Member) (owner : String) : List (List String) :=
  (members.map (·.traitLines owner)).filter (!·.isEmpty)

theorem renderedLines_append (xs ys : List Member) (owner : String) :
    renderedLines (xs ++ ys) owner = renderedLines xs owner ++ renderedLines ys owner := by
  simp [renderedLines]

theorem map_intercalate_renderedLines (members : List Member) (owner : String) :
    (renderedLines members owner).map ("\n".intercalate ·) = traitTexts members owner := by
  unfold renderedLines traitTexts
  rw [List.filter_map, List.filter_map, List.map_map]
  congr 1
  apply List.filter_congr
  intro member _
  exact (member.traitText_ne_empty owner).symm

/-- The texts that a trait shows are the distinct renderings. -/
theorem map_intercalate_traitRenderings (members : List Member) (owner : String) :
    (traitRenderings members owner).map ("\n".intercalate ·) =
      Text.distinct (traitTexts members owner) := by
  rw [← map_intercalate_renderedLines]
  exact Text.map_distinctBy _ _

theorem mem_traitTexts {members : List Member} {owner text : String} :
    text ∈ traitTexts members owner ↔
      text ≠ "" ∧ ∃ member ∈ members, member.traitText owner = text := by
  unfold traitTexts
  rw [List.mem_filter, List.mem_map, bne_iff_ne, and_comm]

/-- What is shown is what the first member with the same rendering has. -/
theorem exists_first_of_mem_traitRenderings {members : List Member} {owner : String}
    {lines : List String} (h : lines ∈ traitRenderings members owner) :
    ∃ member, members.find? (Member.traitText owner · == "\n".intercalate lines) = some member ∧
      member.traitLines owner = lines := by
  have hrendered := List.mem_filter.mp (Text.mem_of_mem_distinctBy h)
  have hfirst : lines ∈ ((renderedLines members owner).find?
      ("\n".intercalate · == "\n".intercalate lines)).toList := by
    rw [renderedLines, ← Text.filter_distinctBy]
    exact List.mem_filter.mpr ⟨h, beq_self_eq_true _⟩
  rw [Option.mem_toList, renderedLines, List.find?_filter, List.find?_map,
    Option.map_eq_some_iff] at hfirst
  obtain ⟨member, hfind, hlines⟩ := hfirst
  refine ⟨member, ?_, hlines⟩
  -- a member with this rendering has lines, so it is not left out before the search
  have hne : "\n".intercalate lines ≠ "" := by
    rw [← hlines] at hrendered ⊢
    rw [Ne, intercalate_eq_empty (member.traitLines_written owner)]
    simpa using hrendered.2
  rw [← hfind]
  congr 1
  funext other
  have hother := other.traitText_ne_empty owner
  rw [Bool.eq_iff_iff, Function.comp_apply, decide_eq_true_iff, ← hother, beq_iff_eq, beq_iff_eq,
    bne_iff_ne]
  exact ⟨fun hsame => ⟨hsame ▸ hne, hsame⟩, And.right⟩

theorem showsRenderings_traitRenderings (members : List Member) (owner : String) :
    ShowsRenderings members owner (traitRenderings members owner) where
  first _ := exists_first_of_mem_traitRenderings
  nodup := by
    rw [map_intercalate_traitRenderings]
    exact Text.distinct_nodup _
  complete text := by
    rw [map_intercalate_traitRenderings, Text.mem_distinct]
    exact mem_traitTexts
  ordered := by
    rw [map_intercalate_traitRenderings]
    exact Text.distinct_pairwise_idxOf _

/-! ## Repeated members of a trait -/

/-- Members that have come before add no line. -/
theorem traitLines_append_of_subset {xs ys : List Member} (h : ys ⊆ xs) (zs : List Member)
    (owner : String) : traitLines (xs ++ ys ++ zs) owner = traitLines (xs ++ zs) owner := by
  have hkeys : ∀ lines ∈ renderedLines ys owner, "\n".intercalate lines ∈
      (renderedLines xs owner).map ("\n".intercalate ·) := by
    intro lines hlines
    obtain ⟨hmem, hne⟩ := List.mem_filter.mp hlines
    apply List.mem_map_of_mem
    exact List.mem_filter.mpr ⟨List.map_subset _ h hmem, hne⟩
  unfold traitLines traitRenderings
  change (Text.distinctBy _ (renderedLines (xs ++ ys ++ zs) owner)).flatten =
    (Text.distinctBy _ (renderedLines (xs ++ zs) owner)).flatten
  rw [renderedLines_append, renderedLines_append, renderedLines_append,
    Text.distinctBy_append_of_keys _ hkeys]

/-- Members that have come before add no trait to the object beside their own. -/
theorem nestedTraits_append_of_subset {xs ys : List Member} (h : ys ⊆ xs) (zs : List Member) :
    nestedTraits [] (xs ++ ys ++ zs) = nestedTraits [] (xs ++ zs) := by
  have hkeys : ∀ property ∈ literalProperties ys,
      property.trait ∈ (literalProperties xs).map LiteralProperty.trait := by
    intro property hproperty
    exact List.mem_map_of_mem (List.filterMap_subset _ h hproperty)
  rw [nestedTraits_eq, nestedTraits_eq, firstLiterals, firstLiterals, literalProperties,
    List.filterMap_append, List.filterMap_append]
  change (Text.distinctBy _ (literalProperties xs ++ literalProperties ys
    ++ literalProperties zs)).flatMap _ = _
  rw [Text.distinctBy_append_of_keys _ hkeys, literalProperties, literalProperties,
    literalProperties, List.filterMap_append]

theorem traitPieces_append_of_subset {xs ys : List Member} (h : ys ⊆ xs) (zs : List Member)
    (header owner : String) :
    traitPieces header owner (xs ++ ys ++ zs) = traitPieces header owner (xs ++ zs) := by
  unfold traitPieces companionPieces
  rw [traitLines_append_of_subset h, nestedTraits_append_of_subset h]

/-- A copy of a member after the member changes neither a trait nor the object beside it. -/
theorem traitPieces_copy (header owner : String) (before between after : List Member)
    (member : Member) :
    traitPieces header owner (before ++ member :: (between ++ member :: after)) =
      traitPieces header owner (before ++ member :: (between ++ after)) := by
  have hsubset : [member] ⊆ before ++ member :: between := by simp
  simpa using traitPieces_append_of_subset hsubset after header owner

theorem TypeExpr.literalTraits_object (members : List Member) (trait : String) :
    (TypeExpr.object members).literalTraits trait =
      traitPieces ("trait " ++ trait ++ " extends js.Object") trait members := by
  rw [TypeExpr.literalTraits]
  rfl

/-! ## Lines of a class -/

/-- What stands above each accessor of an index signature. -/
def accessMark : String := "@JSBracketAccess"

/-- The line of a constructor. -/
def constructorLine (params : List Param) : String :=
  "def this(" ++ paramList params ++ ") = this()"

/-- The lines of each constructor and each member in the class block. -/
def ClassDecl.shown (decl : ClassDecl) : List (List String) :=
  decl.constructors.map (fun params => [constructorLine params])
    ++ decl.instanceMembers.map (·.render decl.place)

/-- The lines of each member in the companion object. -/
def ClassDecl.shownStatic (decl : ClassDecl) : List (List String) :=
  decl.staticMembers.map (·.render .object)

/-- The lines of a block at the left edge. -/
def blockText (header : String) (lines : List String) : List String :=
  (header ++ " \x7b") :: lines.map (Writer.shifted 1) ++ ["\x7d"]

/-- The head of the companion object. -/
def ClassDecl.companionHeader (decl : ClassDecl) : String :=
  "object " ++ Name.written decl.name ++ " extends js.Object"

/-- No line of a block but the mark of an accessor stands twice. -/
def NoLineTwice (lines : List String) : Prop :=
  ∀ line, line ≠ Writer.margin 1 ++ accessMark → lines.count line ≤ 1

/-- No two of these have a line in common but the mark of an accessor. -/
def NoLineShared (shown : List (List String)) : Prop :=
  shown.Pairwise fun a b => ∀ line ∈ a, line ∈ b → line = accessMark

theorem count_accessors {line first second : String} (h : line ≠ accessMark)
    (hapart : first ≠ second) : [accessMark, first, accessMark, second].count line ≤ 1 := by
  have hmark : (accessMark == line) = false := beq_eq_false_iff_ne.mpr h.symm
  by_cases hfirst : first = line
  · subst hfirst
    simp [List.count_cons, hmark, hapart.symm]
  · simp only [List.count_cons, hmark, List.count_nil, beq_false_of_ne hfirst, Bool.false_eq_true,
      if_false]
    split <;> omega

/-- The accessors of an index signature are two definitions. -/
theorem count_indexLines {line : String} (h : line ≠ accessMark) (keyName : String)
    (keyType valueType : TypeExpr) (readonly : Bool) :
    (indexLines keyName keyType valueType readonly).count line ≤ 1 := by
  have hapart : ∀ a b : String, "def apply(" ++ a ≠ "def update(" ++ b := by
    intro a b heq
    have hchars := congrArg String.toList heq
    simp at hchars
  have hboth : (indexLines keyName keyType valueType false).count line ≤ 1 := by
    apply count_accessors h
    simp only [String.append_assoc]
    exact hapart _ _
  cases readonly with
  | false => exact hboth
  | true =>
    have hread : (indexLines keyName keyType valueType true).Sublist
        (indexLines keyName keyType valueType false) := List.sublist_append_left _ _
    exact (hread.count_le line).trans hboth

/-- A member has no line twice but the mark of an accessor. -/
theorem Member.count_render {line : String} (h : line ≠ accessMark) (member : Member)
    (place : Place) : (member.render place).count line ≤ 1 := by
  have hone : ∀ text : String, [text].count line ≤ 1 := fun text => List.count_le_length
  unfold Member.render
  split
  · cases member with
    | property => exact hone _
    | method access static name typeParams params ret role optional abstract =>
      cases role <;> exact hone _
    | index access static keyName keyType valueType readonly =>
      exact count_indexLines h keyName keyType valueType readonly
    | call => exact hone _
    | construct | other | unknown => exact Nat.zero_le _
  · exact Nat.zero_le _

theorem ClassDecl.count_shown {line : String} (h : line ≠ accessMark) (decl : ClassDecl) :
    ∀ lines ∈ decl.shown, lines.count line ≤ 1 := by
  intro lines hlines
  rcases List.mem_append.mp hlines with hlines | hlines
  · obtain ⟨params, -, rfl⟩ := List.mem_map.mp hlines
    exact List.count_le_length
  · obtain ⟨member, -, rfl⟩ := List.mem_map.mp hlines
    exact member.count_render h decl.place

theorem ClassDecl.count_shownStatic {line : String} (h : line ≠ accessMark) (decl : ClassDecl) :
    ∀ lines ∈ decl.shownStatic, lines.count line ≤ 1 := by
  intro lines hlines
  obtain ⟨member, -, rfl⟩ := List.mem_map.mp hlines
  exact member.count_render h .object

theorem ClassDecl.flatten_shown (decl : ClassDecl) : decl.shown.flatten = decl.bodyLines := by
  unfold ClassDecl.shown ClassDecl.bodyLines
  rw [List.flatten_append, ← List.flatMap_def, ← List.flatMap_def, ← List.map_eq_flatMap]
  rfl

theorem ClassDecl.flatten_shownStatic (decl : ClassDecl) :
    decl.shownStatic.flatten = decl.staticLines :=
  (List.flatMap_def ..).symm

/-! ## Counting lines -/

/-- A line that no list has twice stands once for each list that has it. -/
theorem count_flatten_eq_countP {line : String} {shown : List (List String)}
    (h : ∀ lines ∈ shown, lines.count line ≤ 1) :
    shown.flatten.count line = shown.countP (line ∈ ·) := by
  induction shown with
  | nil => rfl
  | cons lines rest ih =>
    obtain ⟨hlines, hrest⟩ := List.forall_mem_cons.mp h
    rw [List.flatten_cons, List.count_append, List.countP_cons, ih hrest, Nat.add_comm]
    congr 1
    by_cases hmem : line ∈ lines
    · have := List.count_pos_iff.mpr hmem
      simp only [hmem, decide_true, if_true]
      omega
    · simp [hmem, List.count_eq_zero_of_not_mem hmem]

theorem countP_le_one_iff_pairwise {α : Type} (test : α → Bool) (items : List α) :
    items.countP test ≤ 1 ↔ items.Pairwise fun a b => test a = true → ¬test b = true := by
  induction items with
  | nil => simp
  | cons item rest ih =>
    rw [List.countP_cons, List.pairwise_cons, ← ih]
    by_cases hitem : test item = true
    · rw [if_pos hitem]
      constructor
      · intro hle
        have hnone : rest.countP test = 0 := by omega
        exact ⟨fun b hb _ => List.countP_eq_zero.mp hnone b hb, by omega⟩
      · rintro ⟨hnone, -⟩
        have := List.countP_eq_zero.mpr fun b hb => hnone b hb hitem
        omega
    · simp [hitem]

/-- Where no list has a line twice, lines stand once exactly when no two lists share one. -/
theorem noLineShared_iff {shown : List (List String)}
    (h : ∀ line ≠ accessMark, ∀ lines ∈ shown, lines.count line ≤ 1) :
    (∀ line ≠ accessMark, shown.flatten.count line ≤ 1) ↔ NoLineShared shown := by
  have hcount : ∀ line ≠ accessMark, shown.flatten.count line ≤ 1 ↔
      shown.Pairwise fun a b => line ∈ a → line ∉ b := by
    intro line hline
    rw [count_flatten_eq_countP (h line hline), countP_le_one_iff_pairwise]
    simp
  constructor
  · intro hall
    refine List.pairwise_iff_forall_sublist.mpr fun {a b} hab line ha hb => ?_
    by_contra hline
    exact List.pairwise_iff_forall_sublist.mp ((hcount line hline).mp (hall line hline)) hab ha hb
  · intro hshared line hline
    rw [hcount line hline]
    exact hshared.imp fun hab ha hb => hline (hab line ha hb)

/-! ## The lines of a block -/

theorem shifted_one_injective : Function.Injective (Writer.shifted 1) := by
  intro a b h
  by_cases ha : a = ""
  · subst ha
    rw [Writer.shifted_empty] at h
    exact (Writer.shifted_eq_empty.mp h.symm).symm
  · have hb : b ≠ "" := by
      rintro rfl
      rw [Writer.shifted_empty] at h
      exact ha (Writer.shifted_eq_empty.mp h)
    rw [Writer.shifted_of_ne ha, Writer.shifted_of_ne hb] at h
    exact String.append_right_inj _ |>.mp h

theorem shifted_one_head {line : String} (h : line ≠ "") :
    (Writer.shifted 1 line).toList.head? = some ' ' := by
  rw [Writer.shifted_of_ne h, Writer.toList_margin_append]
  rfl

/-- In a block, what stands inside it is told from its head and its end by the margin. -/
theorem count_blockText {header : String} {c : Char} (hheader : header.toList.head? = some c)
    (hc : c ≠ ' ') {lines : List String} {line : String} (h : line ≠ "") :
    (blockText header lines).count (Writer.shifted 1 line) = lines.count line := by
  have hhead : (header ++ " \x7b" == Writer.shifted 1 line) = false := by
    rw [beq_eq_false_iff_ne]
    intro heq
    have hchars := congrArg (·.toList.head?) heq
    simp only [shifted_one_head h, String.toList_append, List.head?_append, hheader] at hchars
    exact hc (Option.some.inj hchars)
  have hend : ("\x7d" == Writer.shifted 1 line) = false := by
    rw [beq_eq_false_iff_ne]
    intro heq
    have hchars := congrArg (·.toList.head?) heq
    simp [shifted_one_head h] at hchars
  unfold blockText
  rw [List.count_append, List.count_cons, hhead, List.count_singleton, hend,
    List.count_map_of_injective _ _ shifted_one_injective]
  simp

/-- A block has a line twice exactly when there is one twice inside it. -/
theorem noLineTwice_blockText {header : String} {c : Char}
    (hheader : header.toList.head? = some c) (hspace : c ≠ ' ') (hclose : c ≠ '\x7d')
    {lines : List String} (h : Written lines) :
    NoLineTwice (blockText header lines) ↔ ∀ line ≠ accessMark, lines.count line ≤ 1 := by
  constructor
  · intro htwice line hline
    by_cases hempty : line = ""
    · subst hempty
      rw [List.count_eq_zero_of_not_mem fun hmem => h "" hmem rfl]
      omega
    · rw [← count_blockText hheader hspace hempty]
      apply htwice
      rw [← Writer.shifted_of_ne (by decide)]
      exact shifted_one_injective.ne hline
  · intro hinside line hline
    by_cases hmem : line ∈ lines.map (Writer.shifted 1)
    · obtain ⟨text, htext, rfl⟩ := List.mem_map.mp hmem
      rw [count_blockText hheader hspace (h text htext)]
      apply hinside
      rintro rfl
      exact hline (Writer.shifted_of_ne (by decide) 1)
    · -- outside there are only the head and the end of the block
      have hapart : header ++ " \x7b" ≠ "\x7d" := by
        intro heq
        have hchars := congrArg (·.toList.head?) heq
        simp only [String.toList_append, List.head?_append, hheader] at hchars
        exact hclose (Option.some.inj hchars)
      unfold blockText
      rw [List.count_append, List.count_cons, List.count_eq_zero_of_not_mem hmem,
        List.count_singleton]
      by_cases hend : line = "\x7d"
      · subst hend
        simp [hapart]
      · have : ("\x7d" == line) = false := beq_eq_false_iff_ne.mpr (Ne.symm hend)
        rw [this]
        split <;> simp

theorem ClassDecl.header_head (decl : ClassDecl) :
    ∃ c, decl.header.toList.head? = some c ∧ c ≠ ' ' ∧ c ≠ '\x7d' := by
  unfold ClassDecl.header
  cases decl.isAbstract with
  | true => exact ⟨'a', by simp, by decide, by decide⟩
  | false => exact ⟨'c', by simp, by decide, by decide⟩

theorem ClassDecl.companionHeader_head (decl : ClassDecl) :
    decl.companionHeader.toList.head? = some 'o' := by
  simp [ClassDecl.companionHeader]

theorem layout_block (blank : Bool) (header : String) (lines : List String) :
    (Piece.block header true (Piece.ofLines lines)).layout blank = blockText header lines := by
  rw [Piece.layout, layoutAll_ofLines]
  rfl

/-- The lines of a class: its block and, when it has static lines, its companion. -/
theorem ClassDecl.layoutAll_pieces (decl : ClassDecl) (path : List String) (blank : Bool) :
    layoutAll blank (decl.pieces path) =
      (if blank then [] else [""]) ++ [nativeMark, globalTag path decl.name]
        ++ blockText decl.header decl.bodyLines
        ++ if decl.staticLines.isEmpty then []
          else [nativeMark, globalTag path decl.name]
            ++ blockText decl.companionHeader decl.staticLines := by
  unfold ClassDecl.pieces
  dsimp only
  rw [layoutAll_append]
  congr 1
  · simp only [layoutAll, layout_block]
    simp [Piece.layout]
  · split
    · rfl
    · simp only [layoutAll, layout_block]
      simp [Piece.layout, ClassDecl.companionHeader]

/-! ## The laws -/

/-- A trait shows each rendering once and nothing else is dropped: the lines of the first member
with the rendering, in source order. So members that are given twice are shown as those given once,
and a copy of a member after it changes neither the trait of an interface nor the object beside it,
nor those of an object literal type at any depth. -/
theorem a_trait_shows_each_rendering_once :
    (∀ (members : List Member) (owner : String),
      (∀ writer : Writer, writer.putAll (Piece.ofLines (traitLines members owner)) =
        writer.extended ((traitRenderings members owner).flatten.map
          (Writer.shifted writer.indent))) ∧
      ShowsRenderings members owner (traitRenderings members owner) ∧
      traitLines (members ++ members) owner = traitLines members owner) ∧
    ∀ (before between after : List Member) (member : Member),
      (∀ (decl : InterfaceDecl) (scope : OpenScope) (writer : Writer),
        (scope.emit writer (.interfaceDecl
            { decl with members := before ++ member :: (between ++ member :: after) })).2 =
          (scope.emit writer (.interfaceDecl
            { decl with members := before ++ member :: (between ++ after) })).2) ∧
      ∀ trait, (TypeExpr.object (before ++ member :: (between ++ member :: after))).literalTraits
          trait =
        (TypeExpr.object (before ++ member :: (between ++ after))).literalTraits trait := by
  refine ⟨?_, ?_⟩
  · intro members owner
    refine ⟨?_, showsRenderings_traitRenderings members owner, ?_⟩
    · intro writer
      rw [Writer.putAll_eq, layoutAll_ofLines]
      rfl
    · have htwice := traitLines_append_of_subset (List.Subset.refl members) [] owner
      simpa using htwice
  · intro before between after member
    refine ⟨?_, ?_⟩
    · intro decl scope writer
      simp only [OpenScope.emit_eq, Statement.pieces, InterfaceDecl.pieces_eq,
        traitPieces_copy]
      rfl
    · intro trait
      rw [TypeExpr.literalTraits_object, TypeExpr.literalTraits_object, traitPieces_copy]

/-- Overloads with different literals are shown once. A property with an object literal type refers
to the trait that stands for it, and an indexer keeps all its lines. -/
example :
    let overload (text : String) : Member := .method .everyone false "on" []
      [⟨"event", .literal .string text, false, false⟩] (.keyword "void") .plain false false
    traitLines [overload "'open'",
        .index .everyone false "key" (.keyword "string") (.ref "A" []) false,
        .property .everyone false "size" (.object []) false false false, overload "'close'"]
        "Socket" =
      ["def on(event: String): Unit = js.native", "@JSBracketAccess",
        "def apply(key: String): A = js.native", "@JSBracketAccess",
        "def update(key: String, v: A): Unit = js.native",
        "var size: Socket.Size = js.native"] := by
  decide +kernel

/-- A class repeats what its members share. A line but the mark of an accessor stands in the block
of a class once for each constructor and member that has it, and in the companion once for each
static member that has it; so no such line stands twice exactly when no two of them share one. -/
theorem a_class_repeats_the_lines_that_its_members_share (decl : ClassDecl) (path : List String) :
    (∀ blank, layoutAll blank (decl.pieces path) =
      (if blank then [] else [""]) ++ [nativeMark, globalTag path decl.name]
        ++ blockText decl.header decl.shown.flatten
        ++ if decl.shownStatic.flatten.isEmpty then []
          else [nativeMark, globalTag path decl.name]
            ++ blockText decl.companionHeader decl.shownStatic.flatten) ∧
      (∀ line, line ≠ "" → line ≠ accessMark →
        (blockText decl.header decl.shown.flatten).count (Writer.margin 1 ++ line) =
            decl.shown.countP (line ∈ ·) ∧
          (blockText decl.companionHeader decl.shownStatic.flatten).count
            (Writer.margin 1 ++ line) = decl.shownStatic.countP (line ∈ ·)) ∧
      (NoLineTwice (blockText decl.header decl.shown.flatten) ↔ NoLineShared decl.shown) ∧
      (NoLineTwice (blockText decl.companionHeader decl.shownStatic.flatten) ↔
        NoLineShared decl.shownStatic) := by
  obtain ⟨c, hheader, hspace, hclose⟩ := decl.header_head
  have hcompanion := decl.companionHeader_head
  have hstatic : Written decl.staticLines :=
    written_flatMap (fun member => member.render_written .object) _
  refine ⟨?_, ?_, ?_, ?_⟩
  · intro blank
    rw [decl.flatten_shown, decl.flatten_shownStatic]
    exact decl.layoutAll_pieces path blank
  · intro line hne hline
    rw [← Writer.shifted_of_ne hne, count_blockText hheader hspace hne,
      count_blockText hcompanion (by decide) hne,
      count_flatten_eq_countP (decl.count_shown hline),
      count_flatten_eq_countP (decl.count_shownStatic hline)]
    exact ⟨rfl, rfl⟩
  · rw [← noLineShared_iff fun line hline => decl.count_shown hline, decl.flatten_shown]
    exact noLineTwice_blockText hheader hspace hclose decl.bodyLines_written
  · rw [← noLineShared_iff fun line hline => decl.count_shownStatic hline,
      decl.flatten_shownStatic]
    exact noLineTwice_blockText hcompanion (by decide) (by decide) hstatic

/-- Two overloads that take different string literals have the same line, so the class has it
twice. -/
theorem two_overloads_with_literals_are_shown_twice :
    let overload (text : String) : Member := .method .everyone false "on" []
      [⟨"event", .literal .string text, false, false⟩] (.keyword "void") .plain false false
    let decl : ClassDecl := ⟨"Socket", [], [], [], [overload "'open'", overload "'close'"], false⟩
    layoutAll false (decl.pieces []) = ["", "@js.native", "@JSGlobal",
      "class Socket extends js.Object \x7b", "  def on(event: String): Unit = js.native",
      "  def on(event: String): Unit = js.native", "\x7d"] ∧
      (blockText decl.header decl.shown.flatten).count "  def on(event: String): Unit = js.native" =
        2 ∧
      ¬NoLineTwice (blockText decl.header decl.shown.flatten) := by
  intro overload decl
  obtain ⟨hlines, hcount, htwice, -⟩ := a_class_repeats_the_lines_that_its_members_share decl []
  have htwo : (blockText decl.header decl.shown.flatten).count
      "  def on(event: String): Unit = js.native" = 2 := by
    have hmargin : "  def on(event: String): Unit = js.native" =
        Writer.margin 1 ++ "def on(event: String): Unit = js.native" := by decide
    rw [hmargin, (hcount "def on(event: String): Unit = js.native" (by decide) (by decide)).1]
    decide +kernel
  refine ⟨?_, htwo, ?_⟩
  · rw [hlines]
    decide +kernel
  · intro hnone
    have := hnone "  def on(event: String): Unit = js.native" (by decide)
    omega

end Facade
