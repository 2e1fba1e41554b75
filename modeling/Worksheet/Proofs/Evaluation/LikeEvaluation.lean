/-
  Expressions are evaluated alike (`evaluate_alike`). The second evaluation is of the expression
  with its references moved. What is asked of the two looks and of the numbers only concerns the
  references and the numbers that stand in the expression. Where the evaluations must not break
  down, no position may be NaN (`Expr.Placed`), and no call may have more arguments than a number
  counts exactly (`Expr.width`).
-/
import Worksheet.Evaluation.Evaluate
import Worksheet.Proofs.Evaluation.LikeFunctions
import Worksheet.Proofs.Formula.References

namespace Worksheet

/-- What a host answers to a reference. -/
def Reference.values (host : Host) : Reference → List Value
  | .cell a => [host.cell a]
  | .range a b => host.block (Range.between a b)

theorem Reference.values_ofLook (look : Cell → Value) (r : Reference) :
    r.values (.ofLook look) = r.cells.map look := by
  cases r <;> rfl

namespace Expr

/-! ## Widths -/

mutual

/-- The greatest number of arguments of a call in an expression. -/
def width : Expr → Nat
  | .binary _ left right => max left.width right.width
  | .prefixed _ operand => operand.width
  | .group inner => inner.width
  | .call _ args => max args.length (argsWidth args)
  | .cell _ | .range _ _ | .number _ | .text _ | .boolean _ | .name _ => 0

/-- The greatest number of arguments of a call in arguments. -/
def argsWidth : List Expr → Nat
  | [] => 0
  | e :: es => max e.width (argsWidth es)

end

/-! ## Positions -/

mutual

/-- No position in a call is NaN, wherever the call stands in an expression. -/
def Placed (functions : Registry) (host : Host) : Expr → Prop
  | .binary _ left right => left.Placed functions host ∧ right.Placed functions host
  | .prefixed _ operand => operand.Placed functions host
  | .group inner => inner.Placed functions host
  | .call function args =>
    (∀ d, functions.find? function = some d →
      d.builtin.Placed host (operands functions host args)) ∧ ArgsPlaced functions host args
  | .cell _ | .range _ _ | .number _ | .text _ | .boolean _ | .name _ => True

/-- No position in a call is NaN, wherever the call stands in arguments. -/
def ArgsPlaced (functions : Registry) (host : Host) : List Expr → Prop
  | [] => True
  | e :: es => e.Placed functions host ∧ ArgsPlaced functions host es

end

/-! ## Evaluation -/

/-- What is asked of the references, the numbers, the width and the positions of an expression or
    of arguments: what is found at the references is alike, the numbers are admitted, and where
    nothing may break down, all numbers of arguments are counted exactly and no position is NaN. -/
structure Comparable (L : Likeness) (host host' : Host) (refs : List Reference)
    (numbers : List Float) (width : Nat) (placed : Prop) : Prop where
  refs : ∀ r ∈ refs, Reference.Alike L host host' r
  numbers : ∀ x ∈ numbers, L.admits x
  width : L.sound → width ≤ 2 * Number.normalFrom
  placed : L.sound → placed

variable {L : Likeness} {host host' : Host} {refs refs' : List Reference}
  {numbers numbers' : List Float} {width width' : Nat} {placed placed' : Prop}

theorem Comparable.left
    (h : Comparable L host host' (refs ++ refs') (numbers ++ numbers') (max width width')
      (placed ∧ placed')) :
    Comparable L host host' refs numbers width placed where
  refs r hr := h.refs r (List.mem_append_left _ hr)
  numbers x hx := h.numbers x (List.mem_append_left _ hx)
  width sound := Nat.le_trans (Nat.le_max_left _ _) (h.width sound)
  placed sound := (h.placed sound).1

theorem Comparable.right
    (h : Comparable L host host' (refs ++ refs') (numbers ++ numbers') (max width width')
      (placed ∧ placed')) :
    Comparable L host host' refs' numbers' width' placed' where
  refs r hr := h.refs r (List.mem_append_right _ hr)
  numbers x hx := h.numbers x (List.mem_append_right _ hx)
  width sound := Nat.le_trans (Nat.le_max_right _ _) (h.width sound)
  placed sound := (h.placed sound).2

theorem ofExpr_alike {e : Expr} {r r' : Unit → Traced Value}
    (refs : ∀ r ∈ e.references, Reference.Alike L host host' r)
    (h : Traced.Alike L (Value.Alike L) (r ()) (r' ())) :
    Operand.Alike L host host' (.ofExpr e r) (.ofExpr (e.mapAddresses L.move) r') := by
  cases e with
  | cell a => exact .cell (refs _ (List.mem_singleton.2 rfl))
  | range a b => exact .range (refs _ (List.mem_singleton.2 rfl))
  | _ => exact .computed h

theorem length_operands (functions : Registry) (host : Host) (es : List Expr) :
    (operands functions host es).length = es.length := by
  rw [operands_eq_map, List.length_map]

theorem arityFault_alike (hL : L.Lawful) {d : Definition} {n : Nat} {v : Value}
    (h : d.arityFault? n = some v) : Value.Alike L v v := by
  unfold Definition.arityFault? at h
  split at h
  · exact Option.some.inj h ▸ .fault hL _
  split at h
  · cases h
  split at h
  · exact Option.some.inj h ▸ .fault hL _
  · cases h

mutual

/-- An expression and the same one with its references moved are evaluated alike, if what their
    references find is alike. -/
theorem evaluate_alike (hL : L.Lawful) (functions : Registry) :
    (e : Expr) →
      Comparable L host host' e.references e.numbers e.width (e.Placed functions host) →
      Traced.Alike L (Value.Alike L) (e.evaluate functions host)
        ((e.mapAddresses L.move).evaluate functions host')
  | .number x, h => .pure (.number (h.numbers x (List.mem_singleton.2 rfl)))
  | .text s, _ => .pure (.text s)
  | .boolean b, _ => .pure (.boolean b)
  | .cell a, h => lookUp_alike (h.refs _ (List.mem_singleton.2 rfl))
  | .range _ _, _ => .pure (hL.misplaced _ _)
  | .name _, _ => .pure (.fault hL _)
  | .binary op left right, h => by
    unfold mapAddresses evaluate
    have hl := evaluate_alike hL functions left h.left
    have hr := evaluate_alike hL functions right h.right
    exact hl.bind fun _ _ hv => hr.bind fun _ _ hw => .pure (op.apply_alike hL hv hw)
  | .prefixed op operand, h => by
    unfold mapAddresses evaluate
    exact (evaluate_alike hL functions operand h).map fun _ _ hv => op.apply_alike hL hv
  | .group inner, h => by
    unfold mapAddresses evaluate
    exact evaluate_alike hL functions inner h
  | .call function args, h => by
    unfold mapAddresses evaluate Registry.call
    have few (sound : L.sound) := Nat.max_le.1 (h.width sound)
    have hargs := operands_alike hL functions args
      ⟨h.refs, h.numbers, fun sound => (few sound).2, fun sound => (h.placed sound).2⟩
    rw [← List.Forall₂.length_eq hargs]
    split
    · exact .pure (.fault hL _)
    · next d found =>
      split
      · next fault => exact .pure (arityFault_alike hL fault)
      · refine Function.call_alike hL _ hargs (fun sound => ?_) fun sound => ?_
        · rw [length_operands]
          exact (few sound).1
        · exact (h.placed sound).1 d found

theorem operands_alike (hL : L.Lawful) (functions : Registry) :
    (es : List Expr) →
      Comparable L host host' (argReferences es) (argsNumbers es) (argsWidth es)
        (ArgsPlaced functions host es) →
      Operands.Alike L host host' (operands functions host es)
        (operands functions host' (mapArgsAddresses L.move es))
  | [], _ => .nil
  | e :: es, h => by
    unfold mapArgsAddresses operands
    exact .cons (ofExpr_alike h.left.refs (evaluate_alike hL functions e h.left))
      (operands_alike hL functions es h.right)

end

/-! ## Identical evaluations -/

section

variable {admits : Float → Prop} {sees : Cell → Prop} {sound : Prop}

theorem reference_identical (lawful : (Likeness.identical admits sees sound).Lawful) {r : Reference}
    (seen : ∀ c ∈ r.cells, sees c) (same : r.values host = r.values host')
    (admitted : ∀ x, .number x ∈ r.values host → admits x) :
    Reference.Alike (.identical admits sees sound) host host' r := by
  have value {v : Value} (hv : v ∈ r.values host) :
      Value.Alike (.identical admits sees sound) v v :=
    .of_admits lawful fun x hx => admitted x (hx ▸ hv)
  cases r with
  | cell a =>
    obtain same : host.cell a = host'.cell a := List.head_eq_of_cons_eq same
    refine .cell (seen _ (List.mem_singleton.2 rfl)) ?_
    exact same ▸ value (List.mem_singleton.2 rfl)
  | range a b =>
    refine .range seen rfl ?_
    change host.block _ = host'.block _ at same
    show List.Forall₂ _ (host.block (Range.between a b)) (host'.block (Range.between a b))
    rw [← same, List.forall₂_same]
    exact fun v hv => value hv

/-- Where two hosts give the same answers, the evaluations are the same. Their numbers are admitted
    if those are that stand in the expression and in the answers. -/
theorem evaluate_identical (lawful : (Likeness.identical admits sees sound).Lawful)
    (functions : Registry) {e : Expr} (seen : ∀ r ∈ e.references, ∀ c ∈ r.cells, sees c)
    (same : ∀ r ∈ e.references, r.values host = r.values host')
    (admitted : ∀ r ∈ e.references, ∀ x, .number x ∈ r.values host → admits x)
    (numbers : ∀ x ∈ e.numbers, admits x) (width : sound → e.width ≤ 2 * Number.normalFrom)
    (placed : sound → e.Placed functions host) :
    Traced.Alike (.identical admits sees sound) (Value.Alike (.identical admits sees sound))
      (e.evaluate functions host) (e.evaluate functions host') := by
  have refs (r : Reference) (hr : r ∈ e.references) :
      Reference.Alike (.identical admits sees sound) host host' r :=
    reference_identical lawful (seen r hr) (same r hr) (admitted r hr)
  have alike := evaluate_alike lawful functions e ⟨refs, numbers, width, placed⟩
  rwa [show (Likeness.identical admits sees sound).move = id from rfl, mapAddresses_id] at alike

end

end Expr

end Worksheet
