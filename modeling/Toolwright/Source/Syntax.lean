import Toolwright.Source.Token

/-!
# Syntax of generated code

The part of the generated language that modules are written in.
-/

namespace Toolwright.Source

/-- A type. -/
inductive SourceType where
  /-- A path to a type and its arguments. -/
  | named (path : List String) (arguments : List SourceType)
  | tuple (items : List SourceType)
  | slice (item : SourceType)
  | reference (target : SourceType)
  /-- A reference to something that may be changed and is known only by what it can do. -/
  | object (ability : String)
  deriving Repr, Inhabited

namespace SourceType

/-- A type without arguments. -/
def plain (name : String) : SourceType := named [name] []

/-- The type of values that may be missing. -/
def optional (type : SourceType) : SourceType := named ["Option"] [type]

/-- A path as tokens. -/
def pathTokens : List String → List Token
  | [] => []
  | [name] => [.word name]
  | name :: rest => .word name :: .sign "::" :: pathTokens rest

mutual

/-- A type as tokens. -/
def tokens : SourceType → List Token
  | named path [] => pathTokens path
  | named path (first :: rest) =>
    pathTokens path ++ [.sign "<"] ++ tokensOfAll (first :: rest) ++ [.sign ">"]
  | tuple items => [.group .round (tokensOfAll items)]
  | slice item => [.group .square item.tokens]
  | reference target => .sign "&" :: target.tokens
  | object ability => [.sign "&", .word "mut", .word "dyn", .word ability]

/-- Types as tokens with commas between them. -/
def tokensOfAll : List SourceType → List Token
  | [] => []
  | [type] => type.tokens
  | type :: rest => type.tokens ++ [.sign ","] ++ tokensOfAll rest

end

end SourceType

mutual

/-- An expression. -/
inductive Expr where
  | name (path : List String)
  /-- A string literal. -/
  | quote (value : String)
  | call (function : Expr) (arguments : List Expr)
  | method (receiver : Expr) (name : String) (arguments : List Expr)
  | reference (target : Expr)
  | negation (operand : Expr)
  /-- The value of a result; an error ends the function. -/
  | propagation (operand : Expr)
  | awaited (operand : Expr)
  | tuple (items : List Expr)
  | array (items : List Expr)
  /-- A value of a structure; a field without a value takes that of the variable of its name. -/
  | record (type : String) (fields : List (String × Option Expr))
  /-- An invocation whose arguments are tokens. -/
  | invocation (name : String) (bracket : Bracket) (tokens : List Token)
  | assignment (target value : Expr)
  /-- Statements that run if an optional value is there, which they know as `binder`. -/
  | ifSome (binder : String) (value : Expr) (body : List Stmt)
  | ifTrue (condition : Expr) (body : List Stmt)
  | forEach (binders : List String) (items : Expr) (body : List Stmt)
  /-- Statements that run later. -/
  | deferred (moving : Bool) (body : List Stmt)
  /-- A case distinction; an arm has a pattern, written out, and a value. -/
  | cases (subject : Expr) (arms : List (String × Expr))

/-- A statement. -/
inductive Stmt where
  | bind (mutable : Bool) (name : String) (type : Option SourceType) (value : Expr)
  /-- Takes a structure apart into variables with the names of its fields. -/
  | destructure (type : String) (fields : List String) (value : Expr)
  | run (value : Expr)
  /-- The value of the block, which ends with it. -/
  | result (value : Expr)

end

/-- The variable of a name. -/
def Expr.variable (name : String) : Expr := .name [name]

/-- A field of a structure. -/
structure Field where
  /-- Whether the field may be left out of what is read. -/
  hasDefault : Bool
  name : String
  type : SourceType
  deriving Repr, Inhabited

/-- An item of a file. -/
inductive Item where
  | function (documentation : List String) (isPublic isAsync : Bool) (name : String)
      (parameters : List (String × SourceType)) (result : Option SourceType) (body : List Stmt)
  /-- A structure that is read from arguments; `attributes` are written out. -/
  | structure (attributes : List String) (name : String) (fields : List Field)
  | constant (name : String) (type : SourceType) (value : Expr)
  | module (name : String)
  /-- A line that is the same in every file. -/
  | fixed (line : String)

end Toolwright.Source
