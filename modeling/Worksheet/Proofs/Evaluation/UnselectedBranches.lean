/-
  Branches that are not selected. Three functions read their first argument and go on with one of
  the others at most (`Builtin.branch`); whatever stands in the place of the others, they make the
  same look-ups and come to the same value. Since every construct around a call only sees what the
  call is evaluated to, the same is true of the whole expression (`Expr.evaluate_unselected`).
-/
import Worksheet.Proofs.Evaluation.Positions

namespace Worksheet

variable {α β : Type} {host : Host}

/-! ## Readings -/

theorem Traced.bind_congr {t : Traced α} {f g : α → Traced β} (h : f t.value = g t.value) :
    t >>= f = t >>= g := by
  ext1 <;> simp [h]

/-- Readings may go on as they like with what is not read. -/
theorem Reading.bind_congr {r : Reading α} {f g : α → Reading β}
    (h : ∀ x, r.run.value = .ok x → f x = g x) : r >>= f = r >>= g := by
  refine Traced.bind_congr ?_
  show ExceptT.bindCont f r.run.value = ExceptT.bindCont g r.run.value
  cases read : r.run.value with
  | ok x => exact h x read
  | error e => rfl

/-- An argument as a single value that is no error. -/
def Argument.scalar : Argument → Except ErrorValue Value
  | .many _ => .error ⟨.value, some "expected a single value, got a range"⟩
  | .single (.error e) => .error e
  | .single v => .ok v

namespace Operand

theorem scalar_eq (o : Operand) :
    o.scalar host = Reading.ofTraced (o.argument host) >>= fun a => Reading.ofExcept a.scalar := by
  unfold scalar
  congr 1
  funext a
  cases a with
  | many vs => rfl
  | single v => cases v <;> rfl

theorem run_scalar_bind (o : Operand) (read : Value → Except ErrorValue α) :
    (o.scalar host >>= fun v => Reading.ofExcept (read v)).run =
      (fun a => a.scalar >>= read) <$> o.argument host := by
  simp only [scalar_eq, bind_assoc, ← Reading.ofExcept_bind]
  rw [Reading.run_ofTraced_bind]
  exact bind_pure_comp _ _

/-- To read an argument as a single value takes no look-ups but those of the argument. -/
theorem reads_map_scalar_bind (o : Operand) (read : Value → Except ErrorValue α) (f : α → β) :
    (f <$> (o.scalar host >>= fun v => Reading.ofExcept (read v))).run.reads =
      (o.argument host).reads := by
  rw [ExceptT.run_map, run_scalar_bind, Traced.reads_map, Traced.reads_map]

theorem broken_map_scalar_bind (o : Operand) (read : Value → Except ErrorValue α) (f : α → β) :
    (f <$> (o.scalar host >>= fun v => Reading.ofExcept (read v))).run.broken =
      (o.argument host).broken := by
  rw [ExceptT.run_map, run_scalar_bind, Traced.broken_map, Traced.broken_map]

end Operand

/-! ## Selected branches -/

/-- The branch at a position counted from 1, if that is not outside of `n` branches. -/
def Function.position? (n : Nat) (x : Float) : Option Nat :=
  let index := Number.truncate x
  if index < 1.0 ∨ Number.ofCount n < index then none else some (Traced.place index).value

/-- The branch, counted from 0, that a function selects from those after its first argument; there
    are `n` of them. -/
def Builtin.branch (host : Host) (first : Operand) (n : Nat) : Builtin → Reading (Option Nat)
  | .conditional => (fun b => some (if b then 0 else 1)) <$> first.boolean host
  | .rescue =>
    (fun v => if v.isError then some 0 else none) <$> Reading.ofTraced (first.evaluate host)
  | .choose => Function.position? n <$> first.number host
  | _ => pure none

/-- A way to go on with one of the branches by what was read of the first argument. -/
structure Selection (host : Host) where
  Seen : Type
  read : Operand → Reading Seen
  /-- The branch that is selected from so many. -/
  select : Nat → Seen → Option Nat
  finish : Operand → List Operand → Seen → Reading Value
  /-- The selected branch is evaluated. -/
  finish_selected : ∀ (first : Operand) (os : List Operand) (i : Nat) (o : Operand) (x : Seen),
    select os.length x = some i → os[i]? = some o →
      (finish first os x).toValue.value = (o.evaluate host).value ∧
        (finish first os x).toValue.reads = (o.evaluate host).reads
  /-- Nothing but the selected branch matters. -/
  finish_set : ∀ (first : Operand) (os : List Operand) (i : Nat) (o : Operand) (x : Seen),
    select os.length x ≠ some i → finish first (os.set i o) x = finish first os x

namespace Selection

variable (S : Selection host)

/-- The result for a first argument and branches. -/
def call (first : Operand) (os : List Operand) : Traced Value :=
  (S.read first >>= S.finish first os).toValue

theorem call_of_selected {first o : Operand} {os : List Operand} {i : Nat}
    (selected : (S.select os.length <$> S.read first).run.value = .ok (some i))
    (found : os[i]? = some o) :
    (S.call first os).value = (o.evaluate host).value ∧
      (S.call first os).reads = (S.select os.length <$> S.read first).run.reads ++
        (o.evaluate host).reads := by
  rw [Reading.value_map] at selected
  cases read : (S.read first).run.value with
  | error e =>
    rw [read] at selected
    cases selected
  | ok x =>
    rw [read] at selected
    obtain ⟨value, reads⟩ := S.finish_selected first os i o x (Except.ok.inj selected) found
    rw [call, Reading.toValue, Reading.run_bind_of_ok read, map_bind, ExceptT.run_map,
      Traced.value_bind, Traced.reads_bind, Traced.reads_map (Except.map _)]
    exact ⟨value, congrArg ((S.read first).run.reads ++ ·) reads⟩

theorem call_set {first : Operand} {os : List Operand} {i : Nat}
    (unselected : (S.select os.length <$> S.read first).run.value ≠ .ok (some i)) (o : Operand) :
    S.call first (os.set i o) = S.call first os := by
  refine congrArg Reading.toValue (Reading.bind_congr fun x read => S.finish_set first os i o x ?_)
  intro selected
  rw [Reading.value_map, read] at unselected
  exact unselected (congrArg Except.ok selected)

theorem call_of_error {first : Operand} {os : List Operand} {n : Nat} {e : ErrorValue}
    (failed : (S.select n <$> S.read first).run.value = .error e) :
    S.call first os = ⟨.error e, (S.select n <$> S.read first).run.reads,
      (S.select n <$> S.read first).run.broken⟩ := by
  rw [Reading.value_map] at failed
  cases read : (S.read first).run.value with
  | ok x =>
    rw [read] at failed
    cases failed
  | error e' =>
    rw [read] at failed
    obtain rfl : e' = e := Except.error.inj failed
    rw [call, Reading.toValue, Reading.run_bind_of_error read, map_bind, ExceptT.run_map,
      Traced.reads_map, Traced.broken_map]
    exact Traced.ext rfl (List.append_nil _) (Bool.or_false _)

end Selection

namespace Function

theorem operandAt_of_getElem? {os : List Operand} {k : Nat} {first o : Operand}
    (h : os[k]? = some o) : operandAt (first :: os) (k + 1) = pure o := by
  unfold operandAt
  rw [List.getElem?_cons_succ, h]

theorem operandAt_set {os : List Operand} {i k : Nat} (h : i ≠ k) (first o : Operand) :
    operandAt (first :: os.set i o) (k + 1) = operandAt (first :: os) (k + 1) := by
  unfold operandAt
  rw [List.getElem?_cons_succ, List.getElem?_cons_succ, List.getElem?_set_ne h]

/-- The selection by a truth value. -/
def conditionalSelection (host : Host) : Selection host where
  Seen := Bool
  read first := first.boolean host
  select _ b := some (if b then 0 else 1)
  finish first os b := do
    if b then Reading.ofTraced ((← operandAt (first :: os) 1).evaluate host)
    else
      match (first :: os)[2]? with
      | some o => Reading.ofTraced (o.evaluate host)
      | none => return .boolean false
  finish_selected first os i o b selected found := by
    cases b with
    | true =>
      obtain rfl : 0 = i := Option.some.inj selected
      rw [if_pos rfl, operandAt_of_getElem? found, pure_bind, Reading.toValue_ofTraced]
      exact ⟨rfl, rfl⟩
    | false =>
      obtain rfl : 1 = i := Option.some.inj selected
      simp only [Bool.false_eq_true, if_false, List.getElem?_cons_succ, found,
        Reading.toValue_ofTraced, and_self]
  finish_set first os i o b unselected := by
    cases b with
    | true =>
      have other : i ≠ 0 := fun same => unselected (same ▸ rfl)
      simp only [if_true, operandAt_set other]
    | false =>
      have other : i ≠ 1 := fun same => unselected (same ▸ rfl)
      simp only [Bool.false_eq_true, if_false, List.getElem?_cons_succ, List.getElem?_set_ne other]

/-- The selection of something else for an error. -/
def rescueSelection (host : Host) : Selection host where
  Seen := Value
  read first := Reading.ofTraced (first.evaluate host)
  select _ v := if v.isError then some 0 else none
  finish first os v := do
    if v.isError then Reading.ofTraced ((← operandAt (first :: os) 1).evaluate host) else return v
  finish_selected first os i o v selected found := by
    cases isError : v.isError with
    | true =>
      rw [isError] at selected
      obtain rfl : 0 = i := Option.some.inj selected
      rw [if_pos rfl, operandAt_of_getElem? found, pure_bind, Reading.toValue_ofTraced]
      exact ⟨rfl, rfl⟩
    | false =>
      rw [isError] at selected
      cases selected
  finish_set first os i o v unselected := by
    cases isError : v.isError with
    | true =>
      rw [isError] at unselected
      have other : i ≠ 0 := fun same => unselected (same ▸ rfl)
      simp only [if_true, operandAt_set other]
    | false => rfl

theorem chosen_of_position {x : Float} {os : List Operand} {i : Nat}
    (selected : position? os.length x = some i) :
    (chosen (Number.truncate x) os).value = os[i]? ∧
      (chosen (Number.truncate x) os).reads = [] := by
  unfold position? at selected
  dsimp only at selected
  split at selected
  · cases selected
  · next inside =>
    obtain rfl := Option.some.inj selected
    rw [chosen, if_neg inside, Traced.value_bind, Traced.reads_bind, reads_place]
    exact ⟨rfl, rfl⟩

/-- Another choice cannot be told when it is not at the position. -/
theorem chosen_set {x : Float} {os : List Operand} {i : Nat}
    (unselected : position? os.length x ≠ some i) (o : Operand) :
    chosen (Number.truncate x) (os.set i o) = chosen (Number.truncate x) os := by
  unfold position? at unselected
  unfold chosen
  rw [List.length_set]
  dsimp only at unselected
  split
  · rfl
  · next inside =>
    rw [if_neg inside] at unselected
    have other : i ≠ (Traced.place (Number.truncate x)).value := fun same =>
      unselected (congrArg some same.symm)
    refine Traced.bind_congr ?_
    unfold Traced.item
    rw [List.getElem?_set_ne other]

/-- The selection by a position. -/
def choiceSelection (host : Host) : Selection host where
  Seen := Float
  read first := first.number host
  select := position?
  finish _ os x := do
    match ← Reading.ofTraced (chosen (Number.truncate x) os) with
    | some o => Reading.ofTraced (o.evaluate host)
    | none => return outOfRange x os.length
  finish_selected _ os i o x selected found := by
    obtain ⟨value, reads⟩ := chosen_of_position selected
    rw [found] at value
    rw [Reading.toValue, Reading.run_ofTraced_bind, map_bind, Traced.value_bind, Traced.reads_bind,
      value, reads]
    have evaluated := Reading.toValue_ofTraced (o.evaluate host)
    exact ⟨congrArg Traced.value evaluated, congrArg Traced.reads evaluated⟩
  finish_set _ os i o x unselected := by
    simp only [chosen_set unselected, List.length_set]

theorem choose_eq_call (first : Operand) (os : List Operand) :
    choose host (first :: os) = (choiceSelection host).call first os := by
  unfold choose
  rw [show operandAt (first :: os) 0 = pure first from rfl, pure_bind, bind_map_left]
  rfl

end Function

/-! ## Functions that select -/

/-- The functions that select a branch. -/
def Builtin.selects : Builtin → Bool
  | .conditional | .rescue | .choose => true
  | _ => false

/-- They read their first argument and go on with a selected branch. -/
theorem Builtin.exists_selection {b : Builtin} (h : b.selects = true) (host : Host) :
    ∃ S : Selection host, (∀ first n, b.branch host first n = S.select n <$> S.read first) ∧
      ∀ first os, b.call host (first :: os) = S.call first os := by
  cases b with
  | conditional => exact ⟨Function.conditionalSelection host, fun _ _ => rfl, fun _ _ => rfl⟩
  | rescue => exact ⟨Function.rescueSelection host, fun _ _ => rfl, fun _ _ => rfl⟩
  | choose => exact ⟨Function.choiceSelection host, fun _ _ => rfl, Function.choose_eq_call⟩
  | _ => cases h

/-- An error in the way of a selection comes from the first argument, and nothing else is looked
    at. -/
theorem Builtin.run_branch_of_error {b : Builtin} {first : Operand} {n : Nat} {e : ErrorValue}
    (h : (b.branch host first n).run.value = .error e) :
    (b.branch host first n).run =
      ⟨.error e, (first.argument host).reads, (first.argument host).broken⟩ := by
  cases b with
  | conditional | choose =>
    exact Traced.ext h (first.reads_map_scalar_bind _ _) (first.broken_map_scalar_bind _ _)
  | rescue =>
    rw [branch, Reading.value_map] at h
    cases h
  | _ => cases h

/-! ## Surroundings -/

namespace Expr

/-- An expression with one hole in it, at any depth. -/
inductive Surroundings where
  | hole
  | leftOf (op : BinaryOp) (s : Surroundings) (right : Expr)
  | rightOf (op : BinaryOp) (left : Expr) (s : Surroundings)
  | prefixed (op : PrefixOp) (s : Surroundings)
  | group (s : Surroundings)
  | argument (function : String) (before : List Expr) (s : Surroundings) (after : List Expr)

/-- The expression with another one in the hole. -/
def Surroundings.fill (e : Expr) : Surroundings → Expr
  | .hole => e
  | .leftOf op s right => .binary op (s.fill e) right
  | .rightOf op left s => .binary op left (s.fill e)
  | .prefixed op s => .prefixed op (s.fill e)
  | .group s => .group (s.fill e)
  | .argument function before s after => .call function (before ++ s.fill e :: after)

variable {functions : Registry} {e e' : Expr}

theorem evaluate_operand (e : Expr) :
    (operand functions host e).evaluate host = e.evaluate functions host := by
  cases e <;> rfl

theorem evaluate_congr (h : operand functions host e = operand functions host e') :
    e.evaluate functions host = e'.evaluate functions host := by
  rw [← evaluate_operand, h, evaluate_operand]

/-- What is the same operand is so in all surroundings. -/
theorem operand_fill (h : operand functions host e = operand functions host e')
    (s : Surroundings) :
    operand functions host (s.fill e) = operand functions host (s.fill e') := by
  induction s with
  | hole => exact h
  | leftOf op s right ih | rightOf op left s ih | prefixed op s ih | group s ih =>
    simp only [Surroundings.fill, operand, Operand.ofExpr, evaluate, evaluate_congr ih]
  | argument function before s after ih =>
    have args : operands functions host (before ++ s.fill e :: after) =
        operands functions host (before ++ s.fill e' :: after) := by
      simp only [operands_eq_map, List.map_append, List.map_cons, ih]
    simp only [Surroundings.fill, operand, Operand.ofExpr, evaluate, args]

end Expr

/-! ## Unselected branches -/

section

variable {functions : Registry} {function : String} {d : Definition}
  (found : functions.find? function = some d) (selects : d.builtin.selects = true)
  {first : Operand} {os : List Operand}
include found selects

/-- A call goes on with the branch that is selected. -/
theorem Registry.call_of_selected {i : Nat} {o : Operand}
    (selected : (d.builtin.branch host first os.length).run.value = .ok (some i))
    (taken : os[i]? = some o) (fits : d.arityFault? (os.length + 1) = none) :
    (functions.call host function (first :: os)).value = (o.evaluate host).value ∧
      (functions.call host function (first :: os)).reads =
        (d.builtin.branch host first os.length).run.reads ++ (o.evaluate host).reads := by
  obtain ⟨S, branch_eq, call_eq⟩ := Builtin.exists_selection selects host
  rw [branch_eq] at selected ⊢
  unfold Registry.call
  simp only [found, List.length_cons, fits, call_eq, S.call_of_selected selected taken, and_self]

/-- In a call, anything may stand in the place of a branch that is not selected. -/
theorem Registry.call_set {i : Nat}
    (unselected : (d.builtin.branch host first os.length).run.value ≠ .ok (some i)) (o : Operand) :
    functions.call host function (first :: os.set i o) =
      functions.call host function (first :: os) := by
  obtain ⟨S, branch_eq, call_eq⟩ := Builtin.exists_selection selects host
  rw [branch_eq] at unselected
  unfold Registry.call
  simp only [found, List.length_cons, List.length_set, call_eq, S.call_set unselected]

/-- A call fails with its selection, without a look at the branches. -/
theorem Registry.call_of_error {fault : ErrorValue}
    (failed : (d.builtin.branch host first os.length).run.value = .error fault)
    (fits : d.arityFault? (os.length + 1) = none) :
    functions.call host function (first :: os) =
      ⟨.error fault, (first.argument host).reads, (first.argument host).broken⟩ := by
  obtain ⟨S, branch_eq, call_eq⟩ := Builtin.exists_selection selects host
  have read := Builtin.run_branch_of_error failed
  rw [branch_eq] at failed read
  unfold Registry.call
  simp only [found, List.length_cons, fits, call_eq, S.call_of_error failed, read]

end

/-- A function that selects one of its branches goes on with that and does not care for the others.
    In a call of it, at any depth of an expression, another expression may stand in the place of a
    branch that is not selected: the value is the same, and so are the look-ups and their order. If
    the first argument cannot be read as what selects, that error is the value, and no branch is
    looked at. -/
theorem Expr.evaluate_unselected {functions : Registry} {function : String} {d : Definition}
    (found : functions.find? function = some d) (selects : d.builtin.selects = true) (host : Host)
    (first : Expr) (branches : List Expr) :
    let argument := operand functions host first
    let selection := (d.builtin.branch host argument branches.length).run
    let whole := Expr.call function (first :: branches)
    (∀ (s : Surroundings) (i : Nat) (e : Expr), selection.value ≠ .ok (some i) →
      (s.fill (.call function (first :: branches.set i e))).evaluate functions host =
        (s.fill whole).evaluate functions host) ∧
    (d.arityFault? (branches.length + 1) = none →
      (∀ (i : Nat) (e : Expr), selection.value = .ok (some i) → branches[i]? = some e →
        (whole.evaluate functions host).value = (e.evaluate functions host).value ∧
          (whole.evaluate functions host).reads =
            selection.reads ++ (e.evaluate functions host).reads) ∧
      ∀ fault : ErrorValue, selection.value = .error fault → whole.evaluate functions host =
        ⟨.error fault, (argument.argument host).reads, (argument.argument host).broken⟩) := by
  dsimp only
  have count : branches.length = (branches.map (operand functions host)).length :=
    (List.length_map _).symm
  rw [count]
  refine ⟨fun s i e unselected => ?_, fun fits => ⟨fun i e selected taken => ?_,
    fun fault failed => ?_⟩⟩
  · refine evaluate_congr (operand_fill ?_ s)
    have same := Registry.call_set found selects unselected (operand functions host e)
    simp only [operand, Operand.ofExpr, evaluate, operands_eq_map, List.map_cons, List.map_set]
    exact congrArg (fun t => Operand.computed fun _ => t) same
  · rw [evaluate, operands_eq_map, ← evaluate_operand e]
    refine Registry.call_of_selected found selects selected ?_ fits
    rw [List.getElem?_map, taken]
    rfl
  · rw [evaluate, operands_eq_map]
    exact Registry.call_of_error found selects failed fits

/-- `(if(A1,2,…))+1` where A1 is 1, and `CHOOSE(A1,2,A1:A3)` where it is an error. -/
theorem Expr.evaluate_unselected_nested :
    (Expr.binary .add (.group (.call "if" [.cell (Cell.address ⟨0, 0⟩), .number 2.0,
      .call "SUM" [.range (Cell.address ⟨0, 1⟩) (Cell.address ⟨9, 1⟩)]])) (.number 1.0)).evaluate
        .standard (uniform 1.0) =
      (Expr.binary .add (.group (.call "if" [.cell (Cell.address ⟨0, 0⟩), .number 2.0,
        .name "nothing"])) (.number 1.0)).evaluate .standard (uniform 1.0) ∧
    (Expr.call "CHOOSE" [.cell (Cell.address ⟨0, 0⟩), .number 2.0,
      .range (Cell.address ⟨0, 0⟩) (Cell.address ⟨2, 0⟩)]).evaluate .standard
        (Host.ofLook fun _ => .fault .divisionByZero) =
      ⟨.fault .divisionByZero, [Cell.address ⟨0, 0⟩], false⟩ := by
  have conditional : Registry.standard.find? "if" = some ⟨"IF", 2, some 3, .conditional⟩ := by
    decide +kernel
  have choice : Registry.standard.find? "CHOOSE" = some ⟨"CHOOSE", 2, none, .choose⟩ := by
    decide +kernel
  obtain ⟨unselected, -⟩ := evaluate_unselected conditional rfl (uniform 1.0)
    (.cell (Cell.address ⟨0, 0⟩)) [.number 2.0, .name "nothing"]
  obtain ⟨-, fits⟩ := evaluate_unselected choice rfl
    (Host.ofLook fun _ => .fault .divisionByZero) (.cell (Cell.address ⟨0, 0⟩))
    [.number 2.0, .range (Cell.address ⟨0, 0⟩) (Cell.address ⟨2, 0⟩)]
  exact ⟨unselected (.leftOf .add (.group .hole) (.number 1.0)) 1
    (.call "SUM" [.range (Cell.address ⟨0, 1⟩) (Cell.address ⟨9, 1⟩)]) (by decide),
    (fits rfl).2 _ rfl⟩

end Worksheet
