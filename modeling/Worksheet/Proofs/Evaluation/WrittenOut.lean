/-
  Ranges and the cells in them. A function that takes any number of arguments joins what each of
  them contributes, from left to right and up to the first error (`Joining`). A range contributes
  what its cells contribute together, so it may as well be written out, cell by cell. What differs
  are the look-ups, since a range is looked at as a whole even if its first cell holds an error.
  Therefore results are compared without them (`Traced.forget`), and look-ups come down to the
  values they find.
-/
import Worksheet.Evaluation.Evaluate
import Worksheet.Proofs.Evaluation.Demands
import Worksheet.Proofs.Grid.RangeCells

namespace Worksheet

variable {α β : Type}

/-! ## Results without look-ups -/

namespace Traced

/-- A traced result without the look-ups it took. -/
def forget (t : Traced α) : Traced α := { t with reads := [] }

theorem forget_eq_iff {t u : Traced α} :
    t.forget = u.forget ↔ t.value = u.value ∧ t.broken = u.broken := by
  unfold forget
  simp

theorem forget_bind (t : Traced α) (f : α → Traced β) :
    (t >>= f).forget = t.forget >>= fun x => (f x).forget := rfl

end Traced

namespace Reading

/-- A reading without the look-ups it took. -/
def forget (r : Reading α) : Reading α := ExceptT.mk r.run.forget

theorem forget_toValue (r : Reading Value) : r.toValue.forget = r.forget.toValue := rfl

theorem forget_bind (r : Reading α) (f : α → Reading β) :
    (r >>= f).forget = r.forget >>= fun x => (f x).forget := by
  show (r.run >>= ExceptT.bindCont f).forget = r.run.forget >>= ExceptT.bindCont _
  rw [Traced.forget_bind]
  congr 1
  funext x
  cases x <;> rfl

end Reading

/-! ## Joined contributions -/

/-- How a function joins what its arguments contribute. -/
structure Joining (host : Host) where
  Item : Type
  /-- What no arguments contribute. -/
  nothing : Item
  join : Item → Item → Item
  /-- What the values of cells contribute together. -/
  ofValues : List Value → Except ErrorValue Item
  /-- What an argument contributes. -/
  ofOperand : Operand → Reading Item
  nothing_join : ∀ x, join nothing x = x
  join_assoc : ∀ x y z, join (join x y) z = join x (join y z)
  ofValues_nil : ofValues [] = .ok nothing
  ofValues_cons : ∀ v vs, ofValues (v :: vs) = do return join (← ofValues [v]) (← ofValues vs)
  ofOperand_cell : ∀ a, ofOperand (.cell a) = do
    Reading.ofExcept (ofValues [← Reading.ofTraced (lookUp host a)])
  ofOperand_range : ∀ a b, ofOperand (.range a b) = do
    Reading.ofExcept (ofValues (← Reading.ofTraced (lookUpAll host a b)))

namespace Joining

/-- What arguments contribute, from left to right and up to the first error. -/
def all {host : Host} (J : Joining host) : List Operand → Reading J.Item
  | [] => return J.nothing
  | o :: os => do
    let here ← J.ofOperand o
    let later ← J.all os
    return J.join here later

theorem all_append {host : Host} (J : Joining host) (os os' : List Operand) :
    J.all (os ++ os') = do return J.join (← J.all os) (← J.all os') := by
  induction os with
  | nil => simp only [List.nil_append, all, pure_bind, J.nothing_join, bind_pure]
  | cons o os ih => simp only [List.cons_append, all, ih, bind_assoc, pure_bind, J.join_assoc]

variable {look : Cell → Value} (J : Joining (.ofLook look))

theorem forget_range (a b : Address) : (J.ofOperand (.range a b)).forget =
    Reading.ofExcept (J.ofValues ((Range.between a b).cells.map look)) := by
  rw [J.ofOperand_range, Reading.forget_bind]
  rfl

/-- Cells contribute one after the other what their values contribute together. -/
theorem forget_all_cells (cells : List Address) : (J.all (cells.map .cell)).forget =
    Reading.ofExcept (J.ofValues (cells.map fun a => look a.toCell)) := by
  induction cells with
  | nil =>
    rw [List.map_nil, List.map_nil, J.ofValues_nil]
    rfl
  | cons a cells ih =>
    have first : (J.ofOperand (.cell a)).forget =
        Reading.ofExcept (J.ofValues [look a.toCell]) := by
      rw [J.ofOperand_cell, Reading.forget_bind]
      rfl
    rw [List.map_cons, List.map_cons, J.ofValues_cons, all, Reading.forget_bind, first]
    simp only [Reading.forget_bind, ih, Reading.ofExcept_bind]
    rfl

end Joining

/-! ## The functions that join -/

namespace Function

theorem pickAll_cons (pick : Pick α) (v : Value) (vs : List Value) :
    pickAll pick (v :: vs) = do return (← pickAll pick [v]) ++ (← pickAll pick vs) := by
  simp only [pickAll]
  cases pick v with
  | error e => rfl
  | ok item =>
    cases item with
    | none => cases pickAll pick vs <;> rfl
    | some x => cases pickAll pick vs <;> rfl

/-- Contributions that are gathered in a list. -/
def gathering (host : Host) (pick : Pick α) (coerce : Operand → Reading α) : Joining host where
  Item := List α
  nothing := []
  join xs ys := xs ++ ys
  ofValues := pickAll pick
  ofOperand o :=
    match o.referenced? host with
    | some cells => do Reading.ofExcept (pickAll pick (← Reading.ofTraced cells))
    | none => do pure [← coerce o]
  nothing_join := List.nil_append
  join_assoc := List.append_assoc
  ofValues_nil := rfl
  ofValues_cons := pickAll_cons pick
  ofOperand_cell _ := rfl
  ofOperand_range _ _ := rfl

theorem gather_eq (host : Host) (pick : Pick α) (coerce : Operand → Reading α)
    (os : List Operand) : gather host pick coerce os = (gathering host pick coerce).all os := by
  induction os with
  | nil => rfl
  | cons o os ih =>
    unfold gather Joining.all
    rw [ih]
    dsimp only [gathering]
    cases o.referenced? host with
    | some cells => exact (bind_assoc _ _ _).symm
    | none => exact (bind_assoc _ _ _).symm

/-- What an argument contributes to a count: the cells that pass a test, or something else if it is
    no reference. -/
def countIn (host : Host) (test : Value → Bool) (other : Operand → Traced Nat) (o : Operand) :
    Traced Nat :=
  match o.referenced? host with
  | some cells => (·.countP test) <$> cells
  | none => other o

/-- Contributions that are counted. -/
def counting (host : Host) (test : Value → Bool) (other : Operand → Traced Nat) :
    Joining host where
  Item := Nat
  nothing := 0
  join m n := m + n
  ofValues vs := .ok (vs.countP test)
  ofOperand o := Reading.ofTraced (countIn host test other o)
  nothing_join := Nat.zero_add
  join_assoc := Nat.add_assoc
  ofValues_nil := rfl
  ofValues_cons v vs := by
    show Except.ok _ = Except.ok (List.countP test [v] + List.countP test vs)
    rw [← List.countP_append]
    rfl
  ofOperand_cell _ := rfl
  ofOperand_range _ _ := rfl

theorem tally_eq (host : Host) (test : Value → Bool) (other : Operand → Traced Nat)
    (os : List Operand) :
    Reading.ofTraced (tally (countIn host test other) os) = (counting host test other).all os := by
  induction os with
  | nil => rfl
  | cons o os ih =>
    unfold tally Joining.all
    simp only [← ih, Reading.ofTraced_bind]
    rfl

theorem joined_singleton (v : Value) : joined [v] = v.toText := by
  simp only [joined]
  cases v.toText with
  | error e => rfl
  | ok s => exact congrArg Except.ok String.append_empty

theorem joined_cons (v : Value) (vs : List Value) :
    joined (v :: vs) = do return (← joined [v]) ++ (← joined vs) := by
  rw [joined_singleton]
  rfl

/-- Texts that are joined. -/
def joiningTexts (host : Host) : Joining host where
  Item := String
  nothing := ""
  join s t := s ++ t
  ofValues := joined
  ofOperand := joinedText host
  nothing_join _ := String.empty_append
  join_assoc _ _ _ := String.append_assoc
  ofValues_nil := rfl
  ofValues_cons := joined_cons
  ofOperand_cell a := by
    simp only [joined_singleton]
    exact Reading.ofTraced_map_bind Argument.single (lookUp host a) _
  ofOperand_range a b := Reading.ofTraced_map_bind Argument.many (lookUpAll host a b) _

theorem joinAll_eq (host : Host) (os : List Operand) :
    joinAll host os = (joiningTexts host).all os := by
  induction os with
  | nil => rfl
  | cons o os ih =>
    unfold joinAll Joining.all
    rw [ih]
    rfl

/-- A function joins what its arguments contribute and makes a value of it. -/
def Joins (host : Host) (f : List Operand → Traced Value) : Prop :=
  ∃ (J : Joining host) (finish : J.Item → Reading Value), ∀ os, f os = (J.all os >>= finish).toValue

variable {host : Host} {f : List Operand → Traced Value}

theorem joins_of_gather {pick : Pick α} {coerce : Operand → Reading α}
    {finish : List α → Reading Value}
    (h : ∀ os, f os = (gather host pick coerce os >>= finish).toValue) : Joins host f :=
  ⟨gathering host pick coerce, finish, fun os => by rw [h, gather_eq]; rfl⟩

theorem joins_of_tally {test : Value → Bool} {other : Operand → Traced Nat}
    (h : ∀ os, f os = countValue <$> tally (countIn host test other) os) : Joins host f := by
  refine ⟨counting host test other, fun n => pure (countValue n), fun os => ?_⟩
  rw [h, ← tally_eq, ← Reading.toValue_ofTraced (countValue <$> _), ← bind_pure_comp,
    Reading.ofTraced_bind]
  rfl

end Function

/-- The functions that join what any number of arguments contribute. -/
def Builtin.joins : Builtin → Bool
  | .sum | .product | .average | .minimum | .maximum | .count | .countValues | .conjunction
  | .disjunction | .concat => true
  | _ => false

theorem Builtin.joins_call {b : Builtin} (h : b.joins = true) (host : Host) :
    Function.Joins host (b.call host) := by
  cases b with
  | sum | product | average | minimum | maximum => exact Function.joins_of_gather fun _ => rfl
  | conjunction | disjunction =>
    exact Function.joins_of_gather fun _ => congrArg Reading.toValue (bind_assoc _ _ _)
  | count | countValues => exact Function.joins_of_tally fun _ => rfl
  | concat =>
    refine ⟨Function.joiningTexts host, fun s => pure (.text s), fun os => ?_⟩
    rw [← Function.joinAll_eq]
    rfl
  | _ => cases h

/-! ## Ranges written out -/

namespace Expr

/-- The same arguments, but some ranges are written out: in their place stand references to their
    cells, column by column and from top to bottom, with any anchors. -/
inductive WrittenOut : List Expr → List Expr → Prop where
  | nil : WrittenOut [] []
  | keep (e : Expr) {es es' : List Expr} (later : WrittenOut es es') :
      WrittenOut (e :: es) (e :: es')
  | range {a b : Address} {cells : List Address} {es es' : List Expr}
      (same : cells.map Address.toCell = (Range.between a b).cells) (later : WrittenOut es es') :
      WrittenOut (.range a b :: es) (cells.map .cell ++ es')

variable {functions : Registry} {es es' : List Expr}

/-- There is a cell in every range, so some argument is left. -/
theorem WrittenOut.ne_nil (h : WrittenOut es es') (nonempty : es ≠ []) : es' ≠ [] := by
  cases h with
  | nil => exact nonempty
  | keep => exact List.cons_ne_nil _ _
  | @range a b cells _ _ same =>
    intro nothing
    obtain ⟨none, -⟩ := List.append_eq_nil_iff.1 nothing
    obtain rfl := List.map_eq_nil_iff.1 none
    exact (Range.between a b).cells_ne_nil same.symm

variable {look : Cell → Value}

/-- Arguments contribute the same when ranges are written out. -/
theorem WrittenOut.forget_all (J : Joining (.ofLook look)) (h : WrittenOut es es') :
    (J.all (operands functions look es)).forget = (J.all (operands functions look es')).forget := by
  rw [operands_eq_map, operands_eq_map]
  induction h with
  | nil => rfl
  | keep e _ ih => simp only [List.map_cons, Joining.all, Reading.forget_bind, ih]
  | @range a b cells es es' same _ ih =>
    have values : cells.map (fun a => look a.toCell) = (Range.between a b).cells.map look := by
      rw [← same, List.map_map]
      rfl
    have written : (cells.map Expr.cell).map (operand functions look) = cells.map .cell :=
      List.map_map
    rw [List.map_append, written, J.all_append, Reading.forget_bind, J.forget_all_cells, values,
      ← J.forget_range, List.map_cons, Joining.all]
    simp only [Reading.forget_bind, ih]
    rfl

/-- The names of the functions that join what any number of arguments contribute. -/
def joiningNames : List String :=
  ["SUM", "PRODUCT", "AVERAGE", "MIN", "MAX", "COUNT", "COUNTA", "AND", "OR", "CONCAT",
    "CONCATENATE"]

theorem exists_joins {function : String} (named : Text.upper function ∈ joiningNames) :
    ∃ b : Builtin, b.joins = true ∧ ∀ (host : Host) (os : List Operand), os ≠ [] →
      Registry.standard.call host function os = b.call host os := by
  have all : ∀ name ∈ joiningNames, (Registry.standard.entries[name]?).any (fun d =>
      d.least = 1 && d.most = none && d.builtin.joins) = true := by decide +kernel
  obtain ⟨d, found, fits⟩ := (Option.any_eq_true _ _).1 (all _ named)
  simp only [Bool.and_eq_true, decide_eq_true_eq] at fits
  obtain ⟨⟨least, most⟩, joins⟩ := fits
  refine ⟨d.builtin, joins, fun host os nonempty => ?_⟩
  have enough : ¬ os.length < 1 := Nat.not_lt.2 (List.length_pos_iff.2 nonempty)
  unfold Registry.call Registry.find? Definition.arityFault?
  simp only [found, least, most, if_neg enough]

/-- In a call of a function that joins its arguments, ranges may be written out: on a host that
    looks at cells one by one, nothing of the result changes. -/
theorem value_writtenOut {function : String} (named : Text.upper function ∈ joiningNames)
    (h : WrittenOut es es') (look : Cell → Value) :
    (Expr.call function es).value look = (Expr.call function es').value look ∧
      ((Expr.call function es).evaluate .standard look).broken =
        ((Expr.call function es').evaluate .standard look).broken := by
  obtain ⟨b, joins, called⟩ := exists_joins named
  obtain ⟨J, finish, joined⟩ := b.joins_call joins look
  have result {es : List Expr} (nonempty : es ≠ []) :
      ((Expr.call function es).evaluate .standard look).forget =
        ((J.all (operands .standard look es)).forget >>= fun x => (finish x).forget).toValue := by
    have some : operands .standard look es ≠ [] := by
      rw [operands_eq_map]
      exact mt List.map_eq_nil_iff.1 nonempty
    rw [evaluate, called _ _ some, joined, Reading.forget_toValue, Reading.forget_bind]
  by_cases nonempty : es = []
  · subst nonempty
    cases h
    exact ⟨rfl, rfl⟩
  · refine Traced.forget_eq_iff.1 ?_
    rw [result nonempty, result (h.ne_nil nonempty), h.forget_all J]

/-- Two columns with numbers, a text and a truth value. -/
def mixedCells (c : Cell) : Value :=
  if c = ⟨0, 0⟩ then .number 1.0
  else if c = ⟨1, 0⟩ then .text "x"
  else if c = ⟨0, 1⟩ then .boolean true
  else .number 2.0

/-- `Sum(4,B2:A1)` and `Sum(4,A1,A2,$B$1,B2)`. -/
theorem value_writtenOut_mixed :
    (Expr.call "Sum" [.number 4.0, .range (Cell.address ⟨1, 1⟩) (Cell.address ⟨0, 0⟩)]).value
        mixedCells =
      (Expr.call "Sum" [.number 4.0, .cell (Cell.address ⟨0, 0⟩), .cell (Cell.address ⟨1, 0⟩),
        .cell (Cell.address ⟨0, 1⟩).fixed, .cell (Cell.address ⟨1, 1⟩)]).value mixedCells :=
  have cells : [Cell.address ⟨0, 0⟩, Cell.address ⟨1, 0⟩, (Cell.address ⟨0, 1⟩).fixed,
      Cell.address ⟨1, 1⟩].map Address.toCell =
        (Range.between (Cell.address ⟨1, 1⟩) (Cell.address ⟨0, 0⟩)).cells := by decide
  (value_writtenOut (by decide +kernel) (.keep (.number 4.0) (.range cells .nil)) mixedCells).1

end Expr

end Worksheet
