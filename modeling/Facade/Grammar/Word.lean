-- The words that are keywords, by where they stand. A word that is no keyword where it stands
-- is a name.
namespace Facade.Grammar

/-! ## Names that are also keywords -/

/-- The keywords that are names wherever a value or a property is named. -/
def softWords : List String :=
  ["declare", "namespace", "type", "public", "private", "protected", "override", "readonly",
   "module", "any", "number", "boolean", "string", "symbol", "export", "object", "new", "get",
   "set", "async", "static", "let"]

/-- The keywords that start a value, or are one, and are never its name. -/
def valueWords : List String :=
  ["await", "class", "delete", "false", "function", "import", "null", "super", "this", "true",
   "typeof", "undefined", "using", "void", "yield"]

/-- The keywords that start a type, or are one. -/
def typeWords : List String :=
  ["abstract", "any", "boolean", "const", "false", "import", "infer", "keyof", "never", "new",
   "null", "number", "object", "readonly", "string", "symbol", "this", "true", "typeof",
   "undefined", "unique", "unknown", "void"]

/-- The keywords that start a type and are no keywords where a value starts. -/
def pureTypeWords : List String :=
  ["abstract", "const", "infer", "keyof", "never", "unique", "unknown"]

/-- The words between two values. -/
def operatorWords : List String := ["as", "in", "instanceof", "satisfies"]

/-- The keywords that start a statement and never a value. -/
def statementWords : List String :=
  ["abstract", "break", "const", "continue", "debugger", "do", "enum", "for", "if", "interface",
   "return", "switch", "throw", "try", "var", "while", "with"]

/-! ## Words of one form -/

/-- The words that are types of their own. -/
def predefinedWords : List String :=
  ["any", "number", "boolean", "string", "symbol", "void", "unknown", "never", "object"]

/-- The words that are types of their own and may name a value. -/
def sharedTypeWords : List String :=
  ["any", "number", "boolean", "string", "symbol", "object", "undefined"]

/-- The words for who may use a member. -/
def accessWords : List String := ["public", "private", "protected"]

end Facade.Grammar
