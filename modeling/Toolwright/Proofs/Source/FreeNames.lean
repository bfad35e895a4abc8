import Mathlib.Data.List.Basic
import Toolwright.Source.Syntax

/-!
# Free names

The names that generated code takes from outside. A statement binds names for the statements after
it, and some expressions bind names inside of them; what is bound is not free where it is known. A
path of several names leads to an item of a library and is no name of the function.
-/

namespace Toolwright.Source

/-- The words among tokens that are names; a word after a dot is a member of what stands before. -/
@[simp] def Token.names (afterDot : Bool) : List Token → List String
  | [] => []
  | .word name :: rest => (if afterDot then [] else [name]) ++ Token.names false rest
  | .quote _ :: rest => Token.names false rest
  | .sign mark :: rest => Token.names (mark = ".") rest
  | .group _ inside :: rest => Token.names false inside ++ Token.names false rest

/-- The name that a pattern binds: the one in its brackets. -/
def patternName (pattern : String) : String :=
  String.ofList (((pattern.toList.dropWhile (· ≠ '(')).drop 1).takeWhile (· ≠ ')'))

/-- The names that a statement binds for those after it. -/
@[simp] def Stmt.bound : Stmt → List String
  | .bind _ name _ _ => [name]
  | .destructure _ fields _ => fields
  | .run _ | .result _ => []

mutual

/-- The free names of an expression. -/
@[simp] def Expr.free : Expr → List String
  | .name [name] => [name]
  | .name _ | .quote _ => []
  | .call function arguments => function.free ++ Expr.freeOfAll arguments
  | .method receiver _ arguments => receiver.free ++ Expr.freeOfAll arguments
  | .reference operand | .negation operand | .propagation operand | .awaited operand => operand.free
  | .tuple items | .array items => Expr.freeOfAll items
  | .record _ fields => Expr.freeOfFields fields
  | .invocation _ _ tokens => Token.names false tokens
  | .assignment target value => target.free ++ value.free
  | .ifSome binder value body => value.free ++ (Stmt.freeOfAll body).filter (· ≠ binder)
  | .ifTrue condition body => condition.free ++ Stmt.freeOfAll body
  | .forEach binders items body => items.free ++ (Stmt.freeOfAll body).filter (· ∉ binders)
  | .deferred _ body => Stmt.freeOfAll body
  | .cases subject arms => subject.free ++ Expr.freeOfArms arms

/-- The free names of some expressions. -/
@[simp] def Expr.freeOfAll : List Expr → List String
  | [] => []
  | first :: rest => first.free ++ Expr.freeOfAll rest

/-- The free names of the fields of a structure; a field without a value is a name itself. -/
@[simp] def Expr.freeOfFields : List (String × Option Expr) → List String
  | [] => []
  | (name, none) :: rest => name :: Expr.freeOfFields rest
  | (_, some value) :: rest => value.free ++ Expr.freeOfFields rest

/-- The free names of the arms of a case distinction. -/
@[simp] def Expr.freeOfArms : List (String × Expr) → List String
  | [] => []
  | (pattern, value) :: rest =>
    value.free.filter (· ≠ patternName pattern) ++ Expr.freeOfArms rest

/-- The free names of a statement. -/
@[simp] def Stmt.free : Stmt → List String
  | .bind _ _ _ value | .destructure _ _ value | .run value | .result value => value.free

/-- The free names of some statements in a row. -/
@[simp] def Stmt.freeOfAll : List Stmt → List String
  | [] => []
  | first :: rest => first.free ++ (Stmt.freeOfAll rest).filter (· ∉ first.bound)

end

/-- The statements of a function. -/
def Item.body : Item → List Stmt
  | .function _ _ _ _ _ _ body => body
  | _ => []

/-- The name that a statement takes the value of, if it does something only if there is one. -/
@[simp] def Stmt.unwrapped? : Stmt → Option String
  | .run (.ifSome _ (.reference (.name [name])) _) => some name
  | _ => none

@[simp] theorem Expr.free_variable (name : String) : (Expr.variable name).free = [name] := by
  simp [Expr.variable]

theorem Stmt.freeOfAll_singleton (statement : Stmt) :
    Stmt.freeOfAll [statement] = statement.free := by
  simp

theorem Expr.freeOfAll_map {α : Type} (write : α → Expr) (items : List α) :
    Expr.freeOfAll (items.map write) = items.flatMap fun item => (write item).free := by
  induction items with
  | nil => simp
  | cons first rest ih => simp [ih]

theorem Expr.freeOfAll_variables (names : List String) :
    Expr.freeOfAll (names.map Expr.variable) = names := by
  rw [Expr.freeOfAll_map]
  simp only [Expr.free_variable, List.flatMap_singleton']

theorem Stmt.mem_freeOfAll_cons {first : Stmt} {rest : List Stmt} {name : String} :
    name ∈ Stmt.freeOfAll (first :: rest) ↔
      name ∈ first.free ∨ (name ∈ Stmt.freeOfAll rest ∧ name ∉ first.bound) := by
  rw [Stmt.freeOfAll, List.mem_append, List.mem_filter, decide_eq_true_iff]

/-- What is free in statements is not bound by any before. -/
theorem Stmt.mem_freeOfAll_append {first rest : List Stmt} {name : String} :
    name ∈ Stmt.freeOfAll (first ++ rest) ↔
      name ∈ Stmt.freeOfAll first ∨
        (name ∈ Stmt.freeOfAll rest ∧ name ∉ first.flatMap Stmt.bound) := by
  induction first with
  | nil => simp [Stmt.freeOfAll]
  | cons statement others ih =>
    rw [List.cons_append, mem_freeOfAll_cons, mem_freeOfAll_cons, ih, List.flatMap_cons,
      List.mem_append]
    tauto

end Toolwright.Source
