/-
  Evaluation of expressions. It always ends in a value: whatever goes wrong is an error
  value. The trace lists the look-ups in the order in which they are made.
-/
import Worksheet.Function.Registry

namespace Worksheet

/-- An expression as an operand. References stay references; anything else is computed
    when it is asked for. -/
def Operand.ofExpr (e : Expr) (result : Unit → Traced Value) : Operand :=
  match e with
  | .cell a => .cell a
  | .range a b => .range a b
  | _ => .computed result

namespace Expr

mutual

/-- Evaluates an expression, with functions from a registry and the values of cells from a
    host. -/
def evaluate (functions : Registry) (host : Host) : Expr → Traced Value
  | .number x => return .number x
  | .text s => return .text s
  | .boolean b => return .boolean b
  | .cell a => lookUp host a
  | .range a b => return misplacedRange a b
  | .name s => return .faultWith .name s!"unknown name {s}"
  | .binary op left right => do
    let v ← left.evaluate functions host
    let w ← right.evaluate functions host
    return op.apply v w
  | .prefixed op operand => op.apply <$> operand.evaluate functions host
  | .group inner => inner.evaluate functions host
  | .call function args => functions.call host function (operands functions host args)

/-- The arguments of a call as operands. -/
def operands (functions : Registry) (host : Host) : List Expr → List Operand
  | [] => []
  | e :: es =>
    Operand.ofExpr e (fun _ => e.evaluate functions host) :: operands functions host es

end

/-- An argument of a call as an operand. -/
def operand (functions : Registry) (host : Host) (e : Expr) : Operand :=
  .ofExpr e fun _ => e.evaluate functions host

theorem operands_eq_map (functions : Registry) (host : Host) (es : List Expr) :
    operands functions host es = es.map (operand functions host) := by
  induction es with
  | nil => rfl
  | cons e es ih => rw [operands, ih, List.map_cons, operand]

/-- The value of an expression with the built-in functions. -/
def value (host : Host) (e : Expr) : Value := (e.evaluate .standard host).value

end Expr

end Worksheet
