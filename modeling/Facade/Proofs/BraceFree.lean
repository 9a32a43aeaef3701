-- Texts without braces and line feeds. Where the names of a declaration tree have none, neither
-- have the texts that are made of them.
import Facade.Emission
import Facade.Proofs.Text

namespace Facade

/-! ## Texts -/

/-- A brace, or the end of a line. -/
def isBreak (c : Char) : Bool :=
  c == '\x7b' || c == '\x7d' || c == '\n'

/-- A text without braces and line feeds. -/
def BraceFree (text : String) : Prop :=
  ∀ c ∈ text.toList, isBreak c = false

instance (text : String) : Decidable (BraceFree text) :=
  List.decidableBAll (fun c => isBreak c = false) text.toList

theorem BraceFree.append {a b : String} (ha : BraceFree a) (hb : BraceFree b) :
    BraceFree (a ++ b) := by
  intro c hc
  rw [String.toList_append, List.mem_append] at hc
  rcases hc with hc | hc
  · exact ha c hc
  · exact hb c hc

/-- Texts without braces and line feeds. -/
def AllBraceFree (texts : List String) : Prop :=
  ∀ text ∈ texts, BraceFree text

instance (texts : List String) : Decidable (AllBraceFree texts) :=
  List.decidableBAll BraceFree texts

theorem allBraceFree_nil : AllBraceFree [] := by
  intro text ht
  cases ht

theorem allBraceFree_cons {text : String} {rest : List String} :
    AllBraceFree (text :: rest) ↔ BraceFree text ∧ AllBraceFree rest :=
  List.forall_mem_cons

theorem allBraceFree_append {xs ys : List String} :
    AllBraceFree (xs ++ ys) ↔ AllBraceFree xs ∧ AllBraceFree ys :=
  List.forall_mem_append

theorem braceFree_ofList {chars : List Char} :
    BraceFree (String.ofList chars) ↔ ∀ c ∈ chars, isBreak c = false := by
  unfold BraceFree
  rw [String.toList_ofList]

theorem braceFree_intercalate {sep : String} (hsep : BraceFree sep) {texts : List String}
    (h : AllBraceFree texts) : BraceFree (sep.intercalate texts) := by
  induction texts with
  | nil =>
    rw [String.intercalate_nil]
    decide
  | cons text rest ih =>
    have htext := h text (by simp)
    have hrest := ih fun t ht => h t (by simp [ht])
    cases rest with
    | nil => rwa [String.intercalate_singleton]
    | cons next more =>
      rw [String.intercalate_cons_cons]
      exact (htext.append hsep).append hrest

theorem braceFree_commaList {texts : List String} (h : AllBraceFree texts) :
    BraceFree (commaList texts) :=
  braceFree_intercalate (by decide) h

theorem braceFree_lookup {table : List (String × String)} (h : ∀ entry ∈ table, BraceFree entry.2)
    {default : String} (hd : BraceFree default) (name : String) :
    BraceFree ((table.lookup name).getD default) := by
  cases hl : table.lookup name with
  | none => exact hd
  | some text =>
    obtain ⟨before, after, htable, _⟩ := List.lookup_eq_some_iff.mp hl
    exact h (name, text) (by rw [htable]; simp)

/-! ## Names -/

theorem braceFree_backticked {name : String} (h : BraceFree name) :
    BraceFree (Name.backticked name) :=
  (BraceFree.append (by decide) h).append (by decide)

theorem braceFree_written {name : String} (h : BraceFree name) : BraceFree (Name.written name) := by
  unfold Name.written
  split
  · exact h
  · exact braceFree_backticked h

theorem braceFree_segment {sep : Char} {text segment : String} (h : BraceFree text)
    (hs : segment ∈ Text.segments sep text) : BraceFree segment :=
  fun c hc => h c (Text.mem_of_mem_segments hs hc)

theorem braceFree_writtenPath {path : String} (h : BraceFree path) :
    BraceFree (Name.writtenPath path) := by
  apply braceFree_intercalate (by decide)
  intro text ht
  obtain ⟨segment, hs, rfl⟩ := List.mem_map.mp ht
  exact braceFree_written (braceFree_segment h hs)

theorem braceFree_setter {name : String} (h : BraceFree name) : BraceFree (Name.setter name) := by
  have hname : BraceFree (name ++ "_=") := h.append (by decide)
  unfold Name.setter
  split
  · exact hname
  · exact braceFree_written hname

/-! ## Capital letters -/

theorem isBreak_ofNat {n : Nat} (hopen : n ≠ 0x7B) (hclose : n ≠ 0x7D) (hfeed : n ≠ 0x0A) :
    isBreak (Char.ofNat n) = false := by
  have hne : ∀ m, n ≠ m → 0 < m → (Char.ofNat n).toNat ≠ m := by
    intro m hm hpos
    by_cases hvalid : n.isValidChar
    · have hcode : Char.ofNat n = Char.ofNatAux n hvalid := dif_pos hvalid
      rw [hcode]
      exact hm
    · -- A number that is no character stands for the first one.
      have hcode : Char.ofNat n = Char.ofNat 0 := dif_neg hvalid
      rw [hcode]
      exact Nat.ne_of_lt hpos
  unfold isBreak
  simp only [Bool.or_eq_false_iff, beq_eq_false_iff_ne]
  refine ⟨⟨?_, ?_⟩, ?_⟩
  · exact fun h => hne 0x7B hopen (by omega) (by rw [h]; rfl)
  · exact fun h => hne 0x7D hclose (by omega) (by rw [h]; rfl)
  · exact fun h => hne 0x0A hfeed (by omega) (by rw [h]; rfl)

/-- No character of the run has a brace or a line feed for its upper case. -/
def avoidsBreaks (run : Text.CaseRun) : Bool :=
  0x0A < run.first + run.shift &&
    (run.last + run.shift < 0x7B || 0x7D < run.first + run.shift)

theorem caseRuns_avoid_breaks : ∀ run ∈ Text.caseRuns, avoidsBreaks run = true := by
  decide +kernel

theorem caseExpansions_avoid_breaks : ∀ entry ∈ Text.caseExpansions, ∀ code ∈ entry.2,
    isBreak (Char.ofNat code) = false := by
  decide +kernel

theorem isBreak_toUpper {c : Char} (hascii : c.toNat < 0x80) (h : isBreak c = false) :
    isBreak c.toUpper = false := by
  have htable : ∀ n < 0x80, isBreak (Char.ofNat n) = false →
      isBreak (Char.ofNat n).toUpper = false := by
    decide +kernel
  have hc := htable c.toNat hascii
  rw [Char.ofNat_toNat] at hc
  exact hc h

theorem isBreak_upperCase {c : Char} (h : isBreak c = false) :
    ∀ d ∈ Text.upperCase c, isBreak d = false := by
  intro d hd
  unfold Text.upperCase at hd
  split at hd
  · rename_i hascii
    rw [List.mem_singleton.mp hd]
    exact isBreak_toUpper hascii h
  · split at hd
    · rename_i codes hcodes
      obtain ⟨code, hcode, rfl⟩ := List.mem_map.mp hd
      obtain ⟨before, after, htable, _⟩ := List.lookup_eq_some_iff.mp hcodes
      exact caseExpansions_avoid_breaks (c.toNat, codes) (by rw [htable]; simp) code hcode
    · split at hd
      · rename_i run hrun
        have havoid := caseRuns_avoid_breaks run (List.mem_of_find?_eq_some hrun)
        have hcovers := List.find?_some hrun
        simp only [avoidsBreaks, Bool.and_eq_true, Bool.or_eq_true, decide_eq_true_eq] at havoid
        simp only [Text.CaseRun.covers, Bool.and_eq_true, decide_eq_true_eq] at hcovers
        rw [List.mem_singleton.mp hd]
        apply isBreak_ofNat <;> omega
      · rw [List.mem_singleton.mp hd]
        exact h

theorem braceFree_capitalize {text : String} (h : BraceFree text) :
    BraceFree (Text.capitalize text) := by
  unfold Text.capitalize
  unfold BraceFree at h
  split
  · decide
  · rename_i c rest hchars
    rw [hchars] at h
    rw [braceFree_ofList]
    intro d hd
    rcases List.mem_append.mp hd with hd | hd
    · exact isBreak_upperCase (h c (by simp)) d hd
    · exact h d (by simp [hd])

theorem braceFree_nestedTrait {name : String} (h : BraceFree name) :
    BraceFree (Name.nestedTrait name) :=
  braceFree_written (braceFree_capitalize h)

theorem braceFree_container {scope : String} (h : BraceFree scope) :
    BraceFree (Name.container scope) :=
  braceFree_written (braceFree_capitalize (braceFree_segment h (Text.lastSegment_mem '.' scope)))

/-! ## The names of a declaration tree -/

mutual

/-- The names in a type: those it refers to, and those of its parameters and members. -/
def TypeExpr.names : TypeExpr → List String
  | .absent => []
  | .unknown => []
  | .keyword _ => []
  | .literal _ _ => []
  | .ref name args => name :: namesOfTypes args
  | .array element => element.names
  | .union members => namesOfTypes members
  | .inter members => namesOfTypes members
  | .func params ret => namesOfParams params ++ ret.names
  | .paren inner => inner.names
  | .object members => namesOfMembers members
  | .keyOf operand => operand.names
  | .unsupported _ => []

/-- The names in types. -/
def namesOfTypes : List TypeExpr → List String
  | [] => []
  | type :: rest => type.names ++ namesOfTypes rest

/-- The names of parameters and in their types. -/
def namesOfParams : List Param → List String
  | [] => []
  | ⟨name, type, _, _⟩ :: rest => name :: type.names ++ namesOfParams rest

/-- The names of type parameters and in their bounds. -/
def namesOfTypeParams : List TypeParam → List String
  | [] => []
  | ⟨name, bound⟩ :: rest => name :: bound.names ++ namesOfTypeParams rest

/-- The names in a member, its own among them. -/
def Member.names : Member → List String
  | .property _ _ name type _ _ _ => name :: type.names
  | .method _ _ name typeParams params ret _ _ _ =>
    name :: namesOfTypeParams typeParams ++ namesOfParams params ++ ret.names
  | .index _ _ keyName keyType valueType _ => keyName :: keyType.names ++ valueType.names
  | .call _ _ typeParams params ret =>
    namesOfTypeParams typeParams ++ namesOfParams params ++ ret.names
  | .construct _ _ params => namesOfParams params
  | .other .. => []
  | .unknown .. => []

/-- The names in members. -/
def namesOfMembers : List Member → List String
  | [] => []
  | member :: rest => member.names ++ namesOfMembers rest

end

/-- The names of a class and in it. -/
def ClassDecl.names (decl : ClassDecl) : List String :=
  decl.name :: namesOfTypeParams decl.typeParams ++ namesOfTypes (decl.bases ++ decl.interfaces)
    ++ namesOfMembers decl.members

/-- The names of an interface and in it. -/
def InterfaceDecl.names (decl : InterfaceDecl) : List String :=
  decl.name :: namesOfTypeParams decl.typeParams ++ namesOfTypes decl.bases
    ++ namesOfMembers decl.members

/-- The names of a function and in it. -/
def FunctionDecl.names (decl : FunctionDecl) : List String :=
  decl.name :: namesOfTypeParams decl.typeParams ++ namesOfParams decl.params ++ decl.ret.names

/-- The names of a type alias and in it. -/
def AliasDecl.names (decl : AliasDecl) : List String :=
  decl.name :: namesOfTypeParams decl.typeParams ++ decl.value.names

/-- The names of a variable and in its type. -/
def VariableDecl.names (decl : VariableDecl) : List String :=
  decl.name :: decl.type.names

mutual

/-- The names of a statement and in it. -/
def Statement.names : Statement → List String
  | .module name _ body => name :: namesOfStatements body
  | .moduleHead name _ => [name]
  | .classDecl decl => decl.names
  | .interfaceDecl decl => decl.names
  | .enumDecl decl => decl.name :: decl.members
  | .aliasDecl decl => decl.names
  | .variableDecls decls => decls.flatMap VariableDecl.names
  | .function decl => decl.names
  | .exportAssignment _ => []
  | .importDecl _ => []
  | .other _ => []
  | .unknown => []

/-- The names in statements. -/
def namesOfStatements : List Statement → List String
  | [] => []
  | statement :: rest => statement.names ++ namesOfStatements rest

end

/-- The names in a file. -/
def DeclarationFile.names (file : DeclarationFile) : List String :=
  namesOfStatements file.statements

/-! ## Types -/

theorem braceFree_keywordText (name : String) : BraceFree (keywordText name) :=
  braceFree_lookup (by decide +kernel) (by decide) name

theorem braceFree_literalText (kind : LiteralKind) (text : String) :
    BraceFree (literalText kind text) := by
  unfold literalText
  split <;> try decide
  split <;> decide

theorem braceFree_refText {name : String} (hname : BraceFree name) {args : List String}
    (hargs : AllBraceFree args) : BraceFree (refText name args) := by
  have hlookup : BraceFree ((libraryTypes.lookup name).getD name) :=
    braceFree_lookup (by decide +kernel) hname name
  have hlist : BraceFree (commaList args) := braceFree_commaList hargs
  unfold refText
  split
  · exact hlookup
  · split
    · exact (BraceFree.append (by decide) hlist).append (by decide)
    · split
      · exact (BraceFree.append (by decide) hlist).append (by decide)
      · exact ((hlookup.append (by decide)).append hlist).append (by decide)

/-- The alternatives of a union are texts of its members, or types of literals. -/
theorem mem_unionAlternatives {members : List TypeExpr} {texts : List String} {text : String}
    (h : text ∈ unionAlternatives members texts) :
    text ∈ texts ∨ text ∈ ["String", "Int", "Double", "Null", "Unit"] := by
  unfold unionAlternatives at h
  dsimp only at h
  split_ifs at h
  · exact Or.inr (by simp [List.mem_singleton.mp h])
  · exact Or.inr (by simp [List.mem_singleton.mp h])
  · exact Or.inr (by simp [List.mem_singleton.mp h])
  · rcases List.mem_append.mp h with h | h
    · exact Or.inl (Text.mem_distinct.mp (List.mem_filter.mp h).1)
    · have hsub : ["Null", "Unit"] ⊆ ["String", "Int", "Double", "Null", "Unit"] := by
        decide
      exact Or.inr (hsub h)
  · rcases List.mem_cons.mp h with h | h
    · exact Or.inr (by simp [h])
    · obtain ⟨pair, hp, rfl⟩ := List.mem_map.mp h
      exact Or.inl (List.of_mem_zip (List.mem_filter.mp hp).1).2
  · exact Or.inl (Text.mem_distinct.mp h)

theorem braceFree_unionText (members : List TypeExpr) {texts : List String}
    (h : AllBraceFree texts) : BraceFree (unionText members texts) := by
  have hliterals : AllBraceFree ["String", "Int", "Double", "Null", "Unit"] := by
    decide
  apply braceFree_intercalate (by decide)
  intro text ht
  rcases mem_unionAlternatives ht with ht | ht
  · exact h text ht
  · exact hliterals text ht

theorem braceFree_interText {texts : List String} (h : AllBraceFree texts) :
    BraceFree (interText texts) :=
  braceFree_intercalate (by decide) fun text ht => h text (Text.mem_distinct.mp ht)

theorem braceFree_funcText {params : List String} (hparams : AllBraceFree params) {ret : String}
    (hret : BraceFree ret) : BraceFree (funcText params ret) := by
  unfold funcText
  split
  · exact (BraceFree.append (by decide) hret).append (by decide)
  · rename_i a
    have ha := hparams a (by simp)
    exact (((BraceFree.append (by decide) ha).append (by decide)).append hret).append (by decide)
  · rename_i a b
    have ha := hparams a (by simp)
    have hb := hparams b (by simp)
    exact (((((BraceFree.append (by decide) ha).append (by decide)).append hb).append
      (by decide)).append hret).append (by decide)
  · decide

mutual

/-- A facade type has no braces but those of the names in it. -/
theorem TypeExpr.mapped_braceFree (type : TypeExpr) (h : AllBraceFree type.names) :
    BraceFree type.mapped := by
  match type with
  | .absent => decide
  | .unknown => decide
  | .keyword name => exact braceFree_keywordText name
  | .literal kind text => exact braceFree_literalText kind text
  | .ref name args =>
    rw [TypeExpr.names, allBraceFree_cons] at h
    rw [TypeExpr.mapped]
    exact braceFree_refText h.1 (mappedTypes_braceFree args h.2)
  | .array element =>
    rw [TypeExpr.names] at h
    rw [TypeExpr.mapped]
    exact (BraceFree.append (by decide) (TypeExpr.mapped_braceFree element h)).append (by decide)
  | .union members =>
    rw [TypeExpr.names] at h
    rw [TypeExpr.mapped]
    exact braceFree_unionText members (mappedTypes_braceFree members h)
  | .inter members =>
    rw [TypeExpr.names] at h
    rw [TypeExpr.mapped]
    exact braceFree_interText (mappedTypes_braceFree members h)
  | .func params ret =>
    rw [TypeExpr.names, allBraceFree_append] at h
    rw [TypeExpr.mapped]
    apply braceFree_funcText (mappedParamTypes_braceFree params h.1)
    split
    · decide
    · exact TypeExpr.mapped_braceFree ret h.2
  | .paren inner =>
    rw [TypeExpr.names] at h
    rw [TypeExpr.mapped]
    exact TypeExpr.mapped_braceFree inner h
  | .object _ =>
    rw [TypeExpr.mapped]
    decide
  | .keyOf _ =>
    rw [TypeExpr.mapped]
    decide
  | .unsupported _ =>
    rw [TypeExpr.mapped]
    decide

theorem mappedTypes_braceFree (types : List TypeExpr) (h : AllBraceFree (namesOfTypes types)) :
    AllBraceFree (mappedTypes types) := by
  match types with
  | [] => exact allBraceFree_nil
  | type :: rest =>
    rw [namesOfTypes, allBraceFree_append] at h
    rw [mappedTypes, allBraceFree_cons]
    exact ⟨TypeExpr.mapped_braceFree type h.1, mappedTypes_braceFree rest h.2⟩

theorem mappedParamTypes_braceFree (params : List Param)
    (h : AllBraceFree (namesOfParams params)) : AllBraceFree (mappedParamTypes params) := by
  match params with
  | [] => exact allBraceFree_nil
  | ⟨_, type, _, _⟩ :: rest =>
    rw [namesOfParams, allBraceFree_append, allBraceFree_cons] at h
    rw [mappedParamTypes, allBraceFree_cons]
    exact ⟨TypeExpr.mapped_braceFree type h.1.2, mappedParamTypes_braceFree rest h.2⟩

end

end Facade
