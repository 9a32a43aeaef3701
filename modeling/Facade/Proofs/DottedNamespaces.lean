-- A namespace with a dotted name and namespaces inside each other are two ways to write the same.
-- What they hold is written in the same lines; only the packages around it are others.
import Facade.Proofs.Emission
import Facade.Proofs.Text

namespace Facade

/-! ## The two ways -/

/-- A namespace with a body, or without one. -/
def namespaceOf (name : String) : Option (List Statement) → Statement
  | some body => .module name false body
  | none => .moduleHead name false

/-- Namespaces inside each other, each the only child of the one around it. The innermost has the
body. -/
def nestedNamespaces (body : Option (List Statement)) : String → List String → Statement
  | name, [] => namespaceOf name body
  | name, next :: rest => .module name false [nestedNamespaces body next rest]

/-- The line that opens a package. -/
def packageLine (path : String) : String :=
  "package " ++ path ++ " \x7b"

/-- The lines inside the package of a namespace with this path and last name: the units of its
body, and the object of what it gathers. -/
def insideLines (path : List String) (name : String) (body : List Statement) : List String :=
  body.flatMap (·.unit path)
    ++ (Exports.ofStatements body).unit (Name.written (Text.capitalize name))
      ("@JSGlobal(\"" ++ ".".intercalate path ++ "\")") "js.Dynamic"

/-! ## Packages -/

theorem layoutAll_package {pieces : List Piece} (h : Settled pieces) (blank : Bool)
    (path : String) :
    layoutAll blank [.gap, .block ("package " ++ path) false (pieces ++ [.gap])] =
      (if blank then [] else [""]) ++ [packageLine path] ++ layoutAll false pieces
        ++ ["", "\x7d"] := by
  have hbody : layoutAll false (pieces ++ [.gap]) = layoutAll false pieces ++ [""] := by
    rw [layoutAll_append_of_settled h]
    rfl
  simp only [layoutAll, Piece.layout, hbody, Bool.toNat_false, Writer.map_shifted_zero]
  simp [packageLine]

theorem namespaceOf_pieces (name : String) (body : Option (List Statement)) (path : List String) :
    (namespaceOf name body).pieces path =
      namespaceBlock name (path ++ Text.segments '.' name) (body.getD [])
        (bodyPieces (path ++ Text.segments '.' name) (body.getD [])) := by
  cases body <;> rfl

/-- A namespace opens one package around the lines inside it. -/
theorem layoutAll_namespaceOf (blank : Bool) (name : String) (body : Option (List Statement))
    (path : List String) :
    layoutAll blank ((namespaceOf name body).pieces path) =
      (if blank then [] else [""]) ++ [packageLine (Name.writtenPath name)]
        ++ insideLines (path ++ Text.segments '.' name) (Text.lastSegment '.' name) (body.getD [])
        ++ ["", "\x7d"] := by
  have hsettled := (bodyPieces_settled (path ++ Text.segments '.' name) (body.getD [])).append
    ((Exports.ofStatements (body.getD [])).container_settled (Name.container name)
      (globalPath (".".intercalate (path ++ Text.segments '.' name))) "js.Dynamic")
  rw [namespaceOf_pieces, namespaceBlock, namespaceContainer, layoutAll_package hsettled,
    layoutAll_append_of_settled (bodyPieces_settled _ _), layoutAll_bodyPieces, ← Exports.unit_eq]
  rfl

/-! ## Names without dots -/

theorem segments_of_dotFree {name : String} (h : '.' ∉ name.toList) :
    Text.segments '.' name = [name] := by
  have hone : Text.segments '.' (".".intercalate [name]) = [name] :=
    Text.segments_intercalate rfl (List.cons_ne_nil name []) (by simpa using h)
  rwa [String.intercalate_singleton] at hone

theorem writtenPath_of_dotFree {name : String} (h : '.' ∉ name.toList) :
    Name.writtenPath name = Name.written name := by
  rw [Name.writtenPath, segments_of_dotFree h, List.map_singleton, String.intercalate_singleton]

/-- Nothing is gathered of a namespace itself. -/
theorem Exports.collect_nestedNamespaces (exports : Exports) (body : Option (List Statement))
    (name : String) (rest : List String) :
    exports.collect (nestedNamespaces body name rest) = exports := by
  cases rest with
  | nil => cases body <;> rfl
  | cons next rest => rfl

/-- A namespace whose only child is not gathered has no object. -/
theorem layoutAll_outer {name : String} (h : '.' ∉ name.toList) (blank : Bool) (path : List String)
    {child : Statement} (hchild : Exports.ofStatements [child] = Exports.empty) :
    layoutAll blank ((Statement.module name false [child]).pieces path) =
      (if blank then [] else [""]) ++ [packageLine (Name.written name)]
        ++ layoutAll false (child.pieces (path ++ [name])) ++ ["", "\x7d"] := by
  have hnone : ∀ container tag, Exports.empty.unit container tag "js.Dynamic" = [] := by
    intro container tag
    rw [Exports.unit_eq]
    rfl
  have hone := layoutAll_namespaceOf blank name (some [child]) path
  rw [segments_of_dotFree h, writtenPath_of_dotFree h, Option.getD_some, insideLines, hchild,
    hnone, List.append_nil, List.flatMap_singleton, Statement.unit_eq] at hone
  exact hone

/-- Namespaces inside each other open one package each, and all of them close together. -/
theorem layoutAll_nestedNamespaces (blank : Bool) (body : Option (List Statement)) (name : String)
    (rest : List String) (h : ∀ segment ∈ name :: rest, '.' ∉ segment.toList)
    (path : List String) :
    layoutAll blank ((nestedNamespaces body name rest).pieces path) =
      (if blank then [] else [""]) ++ [packageLine (Name.written name)]
        ++ rest.flatMap (fun segment => ["", packageLine (Name.written segment)])
        ++ insideLines (path ++ name :: rest) (rest.getLastD name) (body.getD [])
        ++ (List.replicate (rest.length + 1) ["", "\x7d"]).flatten := by
  induction rest generalizing name path blank with
  | nil =>
    have hname : '.' ∉ name.toList := h name List.mem_cons_self
    rw [nestedNamespaces, layoutAll_namespaceOf, writtenPath_of_dotFree hname, Text.lastSegment,
      segments_of_dotFree hname]
    simp
  | cons next rest ih =>
    obtain ⟨hname, hrest⟩ := List.forall_mem_cons.mp h
    have hends : (List.replicate (rest.length + 1 + 1) ["", "\x7d"]).flatten =
        (List.replicate (rest.length + 1) ["", "\x7d"]).flatten ++ ["", "\x7d"] := by
      rw [List.replicate_succ', List.flatten_append, List.flatten_singleton]
    have hchild : Exports.ofStatements [nestedNamespaces body next rest] = Exports.empty :=
      Exports.empty.collect_nestedNamespaces body next rest
    rw [nestedNamespaces, layoutAll_outer hname blank path hchild, ih false next hrest,
      List.length_cons, hends, List.getLastD_cons]
    simp

/-- A dotted name opens one package for all its segments. -/
theorem layoutAll_dottedNamespace (blank : Bool) (body : Option (List Statement)) (name : String)
    (rest : List String) (h : ∀ segment ∈ name :: rest, '.' ∉ segment.toList)
    (path : List String) :
    layoutAll blank ((namespaceOf (".".intercalate (name :: rest)) body).pieces path) =
      (if blank then [] else [""])
        ++ [packageLine (".".intercalate ((name :: rest).map Name.written))]
        ++ insideLines (path ++ name :: rest) (rest.getLastD name) (body.getD [])
        ++ ["", "\x7d"] := by
  have hsegments : Text.segments '.' (".".intercalate (name :: rest)) = name :: rest :=
    Text.segments_intercalate rfl (List.cons_ne_nil name rest) h
  rw [layoutAll_namespaceOf, Name.writtenPath, Text.lastSegment, hsegments, List.getLastD_cons]

/-- A namespace leaves the scope around it as it was. -/
theorem OpenScope.gather_nestedNamespaces (scope : OpenScope) (body : Option (List Statement))
    (name : String) (rest : List String) :
    scope.gather (nestedNamespaces body name rest) = scope := by
  rw [gather, Exports.collect_nestedNamespaces]

/-! ## The laws -/

/-- A dotted namespace means the same as nested ones. Wherever the two are written, the lines
between the innermost package and its last empty line are the same: the units of the body below the
whole path, and one object for what the innermost namespace gathers. Around them, one of the two
has a single package and the other a package for each segment, and nothing else. -/
theorem a_dotted_namespace_is_written_as_nested_ones (scope : OpenScope) (writer : Writer)
    (name : String) (rest : List String) (body : Option (List Statement))
    (h : ∀ segment ∈ name :: rest, '.' ∉ segment.toList) :
    let gap := if writer.atBlank then [] else [""]
    let inside := insideLines (scope.path ++ name :: rest) (rest.getLastD name) (body.getD [])
    scope.emit writer (namespaceOf (".".intercalate (name :: rest)) body) =
        (scope, writer.extended ((gap
          ++ [packageLine (".".intercalate ((name :: rest).map Name.written))]
          ++ inside ++ ["", "\x7d"]).map (Writer.shifted writer.indent))) ∧
      scope.emit writer (nestedNamespaces body name rest) =
        (scope, writer.extended ((gap ++ [packageLine (Name.written name)]
          ++ rest.flatMap (fun segment => ["", packageLine (Name.written segment)])
          ++ inside ++ (List.replicate (rest.length + 1) ["", "\x7d"]).flatten).map
            (Writer.shifted writer.indent))) := by
  intro gap inside
  refine ⟨?_, ?_⟩
  · have hscope := scope.gather_nestedNamespaces body (".".intercalate (name :: rest)) []
    rw [nestedNamespaces] at hscope
    rw [OpenScope.emit_eq, hscope, Writer.putAll_eq,
      layoutAll_dottedNamespace writer.atBlank body name rest h]
  · rw [OpenScope.emit_eq, scope.gather_nestedNamespaces, Writer.putAll_eq,
      layoutAll_nestedNamespaces writer.atBlank body name rest h]

/-- Three segments around a function, below a line, one level deep. -/
theorem a_namespace_of_three_segments_is_written_both_ways :
    let writer : Writer := ⟨#["package app \x7b"], 1⟩
    let body : List Statement := [.function ⟨"run", [], [], .absent⟩]
    (∀ segment ∈ ["geo", "type", "flat"], '.' ∉ segment.toList) ∧
      (OpenScope.top.emit writer (.module "geo.type.flat" false body)).2.lines.toList =
        ["package app \x7b", "", "  package geo.`type`.flat \x7b",
          "", "  @js.native", "  @JSGlobal(\"geo.type.flat\")",
          "  object Flat extends js.Object \x7b", "    def run(): js.Dynamic = js.native", "  \x7d",
          "", "  \x7d"] ∧
      (OpenScope.top.emit writer
          (.module "geo" false [.module "type" false [.module "flat" false body]])).2.lines.toList =
        ["package app \x7b", "", "  package geo \x7b", "", "  package `type` \x7b",
          "", "  package flat \x7b",
          "", "  @js.native", "  @JSGlobal(\"geo.type.flat\")",
          "  object Flat extends js.Object \x7b", "    def run(): js.Dynamic = js.native", "  \x7d",
          "", "  \x7d", "", "  \x7d", "", "  \x7d"] := by
  intro writer body
  have hsegments : ∀ segment ∈ ["geo", "type", "flat"], '.' ∉ segment.toList := by decide +kernel
  obtain ⟨hdotted, hnested⟩ := a_dotted_namespace_is_written_as_nested_ones OpenScope.top writer
    "geo" ["type", "flat"] (some body) hsegments
  have hone : Statement.module "geo.type.flat" false body =
      namespaceOf (".".intercalate ["geo", "type", "flat"]) (some body) := rfl
  have hthree : Statement.module "geo" false [.module "type" false [.module "flat" false body]] =
      nestedNamespaces (some body) "geo" ["type", "flat"] := rfl
  refine ⟨hsegments, ?_, ?_⟩
  · rw [hone, hdotted]
    decide +kernel
  · rw [hthree, hnested]
    decide +kernel

end Facade
