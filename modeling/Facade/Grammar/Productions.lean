-- The forms that contain each other. A form takes the others from a `Productions`, always
-- after at least one token, so nesting as deep as the text is long is enough.
import Facade.Declaration
import Facade.Grammar.Reader
namespace Facade

/-! ## Types as they are written -/

/-- Where a type starts. -/
inductive Start where
  /-- Only a type can stand here. -/
  | plain
  /-- A name for a value could start here too: in parentheses, or after three dots. -/
  | shared
  /-- Any value could start here too, in parentheses. -/
  | grouped
  /-- Any value could start here too. -/
  | valued
  deriving DecidableEq, Repr

/-- How a type is built, as far as what is around it has to know. -/
inductive TypeShape where
  | union
  | intersection
  /-- Any other type that brackets may follow. -/
  | simple
  /-- A type that reaches as far to the right as it can, or an import. -/
  | loose
  deriving DecidableEq, Repr

/-- A type with how it is written. -/
structure ReadType where
  type : TypeExpr
  shape : TypeShape
  /-- Whether the same text could be a value. -/
  shared : Bool

/-! ## Values as they are written -/

/-- How a value is built, as far as what is around it has to know. -/
inductive ValueShape where
  | name
  /-- The word `undefined`. -/
  | nothing
  /-- A part of another value, such as `a.b`. -/
  | part
  /-- A value in parentheses. -/
  | group
  /-- Any other value that a call or an access may follow. -/
  | simple
  /-- A new object. -/
  | created
  /-- A value with an operator. -/
  | compound
  deriving DecidableEq, Repr

/-! ## Nesting -/

/-- The readers that forms nest. -/
structure Productions where
  /-- A type. -/
  type : Start → Ending → Reader ReadType
  /-- A type that binds tighter than `|`. -/
  conjunction : Ending → Reader ReadType
  /-- A type that binds tighter than `&`. -/
  operand : Start → Ending → Reader ReadType
  /-- A value. -/
  expression : Ending → Reader Unit
  /-- A value without an operator between two. -/
  unary : Ending → Reader ValueShape
  /-- A value with nothing in front of it or behind it. -/
  simpleValue : Ending → Reader ValueShape
  /-- A value with the calls and accesses behind it. -/
  target : Ending → Reader ValueShape
  /-- A name that takes a value apart, or a place to put it, and whether the same text could
  still be a type. -/
  pattern : Start → Reader Start
  /-- The members of an interface or object literal type, up to and with its closing brace. -/
  objectMembers : Start → Reader (List Member)
  /-- A declaration, with `declare` or without. -/
  declaration : Reader Statement
  /-- An export. -/
  exportStatement : Reader Statement
  /-- A statement. -/
  statement : Reader Statement
  /-- Statements up to the closing brace. -/
  block : Reader (List Statement)

/-- No nesting at all. -/
def Productions.none : Productions where
  type _ _ := .exhausted
  conjunction _ := .exhausted
  operand _ _ := .exhausted
  expression _ := .exhausted
  unary _ := .exhausted
  simpleValue _ := .exhausted
  target _ := .exhausted
  pattern _ := .exhausted
  objectMembers _ := .exhausted
  declaration := .exhausted
  exportStatement := .exhausted
  statement := .exhausted
  block := .exhausted

end Facade
