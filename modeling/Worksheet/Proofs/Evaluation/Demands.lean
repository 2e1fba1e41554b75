/-
  The arguments that a function cannot do without. A function asks for them from left to right and
  reads each in its way (`Builtin.demands`). The first one that is missing or cannot be read
  decides the result (`Function.call_of_unmet`), whatever numbers of arguments a registry allows.
-/
import Worksheet.Function.Builtin

namespace Worksheet

variable {α β : Type}

/-! ## Readings -/

/-- The error that cuts a reading short. -/
def Reading.fault? (r : Reading α) : Option ErrorValue :=
  match r.run.value with
  | .ok _ => none
  | .error e => some e

namespace Reading

variable {r : Reading α} {e : ErrorValue}

theorem fault?_eq_some : r.fault? = some e ↔ r.run.value = .error e := by
  unfold fault?
  split
  · next x hx => rw [hx]; exact ⟨nofun, nofun⟩
  · next e' he => rw [he, Option.some.injEq, Except.error.injEq]

theorem fault?_eq_none : r.fault? = none ↔ ∃ x, r.run.value = .ok x := by
  unfold fault?
  split
  · next x hx => exact ⟨fun _ => ⟨x, hx⟩, fun _ => rfl⟩
  · next e he => exact ⟨nofun, fun ⟨x, hx⟩ => by rw [he] at hx; cases hx⟩

/-- A reading that is not cut short is gone on with. -/
theorem run_bind_of_ok {x : α} (h : r.run.value = .ok x) (f : α → Reading β) :
    (r >>= f).run = r.run >>= fun _ => (f x).run := by
  show (r.run >>= ExceptT.bindCont f) = _
  exact Traced.ext (by rw [Traced.value_bind, h]; rfl) (by rw [Traced.reads_bind, h]; rfl)
    (by rw [Traced.broken_bind, h]; rfl)

theorem run_bind_of_error (h : r.run.value = .error e) (f : α → Reading β) :
    (r >>= f).run = r.run >>= fun _ => pure (.error e) := by
  show (r.run >>= ExceptT.bindCont f) = _
  exact Traced.ext (by rw [Traced.value_bind, h]; rfl) (by rw [Traced.reads_bind, h]; rfl)
    (by rw [Traced.broken_bind, h]; rfl)

theorem run_ofTraced_bind (t : Traced α) (f : α → Reading β) :
    (ofTraced t >>= f).run = t >>= fun x => (f x).run :=
  bind_map_left _ _ _

theorem ofTraced_map_bind {γ : Type} (f : α → β) (t : Traced α) (g : β → Reading γ) :
    (ofTraced (f <$> t) >>= g) = ofTraced t >>= fun x => g (f x) := by
  refine ExceptT.ext ?_
  rw [run_ofTraced_bind, run_ofTraced_bind, bind_map_left]

theorem ofTraced_bind (t : Traced α) (f : α → Traced β) :
    ofTraced (t >>= f) = ofTraced t >>= fun x => ofTraced (f x) := by
  refine ExceptT.ext ?_
  rw [run_ofTraced_bind]
  exact map_bind _ _ _

theorem ofExcept_bind (r : Except ErrorValue α) (f : α → Except ErrorValue β) :
    ofExcept (r >>= f) = ofExcept r >>= fun x => ofExcept (f x) := by
  cases r <;> rfl

theorem toValue_ofTraced (t : Traced Value) : (ofTraced t).toValue = t := by
  show Value.ofExcept <$> Except.ok <$> t = t
  rw [← comp_map]
  exact id_map t

theorem value_map (f : α → β) (r : Reading α) :
    (f <$> r).run.value = f <$> r.run.value := by
  rw [← bind_pure_comp]
  cases h : r.run.value with
  | ok x => rw [run_bind_of_ok h]; rfl
  | error e => rw [run_bind_of_error h]; rfl

end Reading

/-! ## Demands -/

/-- What a function asks of an argument. -/
inductive Demand where
  /-- To be there, whatever it is. -/
  | presence
  | number
  | text
  | boolean
  | characterCount
deriving Repr, DecidableEq

/-- The error in the way of an argument that is read as it is asked for. -/
def Demand.fault? (host : Host) (o : Operand) : Demand → Option ErrorValue
  | .presence => none
  | .number => (o.number host).fault?
  | .text => (o.text host).fault?
  | .boolean => (o.boolean host).fault?
  | .characterCount => (Function.characterCount host o).fault?

/-- What a function asks of its first arguments. What it asks for only when it knows the others
    does not count, and neither do arguments of which it takes as many as there are. -/
def Builtin.demands : Builtin → List Demand
  | .countVacant | .rescue | .isBlank | .isNumber | .isText | .isError => [.presence]
  | .absolute | .round | .integer | .squareRoot | .sign | .choose => [.number]
  | .modulo | .power => [.number, .number]
  | .conditional | .negation => [.boolean]
  | .length | .left | .right | .upper | .lower | .squeeze => [.text]
  | .middle => [.text, .number, .characterCount]
  | .sum | .product | .average | .minimum | .maximum | .count | .countValues | .conjunction
  | .disjunction | .truth | .falsity | .concat | .notAvailable => []

/-- The error of the first demand that is not met, from an index on: the argument is missing, or
    it cannot be read. -/
def unmet? (host : Host) (os : List Operand) : Nat → List Demand → Option ErrorValue
  | _, [] => none
  | i, d :: ds =>
    match os[i]? with
    | none => some ⟨.value, some s!"missing argument {i + 1}"⟩
    | some o => (d.fault? host o).or (unmet? host os (i + 1) ds)

namespace Function

variable {host : Host} {os : List Operand} {e : ErrorValue} {i : Nat} {d : Demand}
  {ds : List Demand}

/-- A function that reads an argument as it is asked for, and goes on, fails with the first demand
    that is not met. -/
theorem fault?_of_unmet (h : unmet? host os i (d :: ds) = some e) {read : Operand → Reading α}
    (hread : ∀ o, (read o).fault? = d.fault? host o) {go : α → Reading β}
    (hgo : unmet? host os (i + 1) ds = some e → ∀ x, (go x).fault? = some e) :
    (operandAt os i >>= fun o => read o >>= go).fault? = some e := by
  unfold unmet? at h
  unfold operandAt
  split at h
  · next hi =>
    rw [hi]
    obtain rfl := Option.some.inj h
    rfl
  · next o hi =>
    rw [hi]
    show (read o >>= go).fault? = some e
    cases hd : d.fault? host o with
    | some e' =>
      rw [hd] at h
      obtain rfl : e' = e := Option.some.inj h
      rw [Reading.fault?_eq_some, Reading.run_bind_of_error
        (Reading.fault?_eq_some.1 ((hread o).trans hd)), Traced.value_bind]
      rfl
    | none =>
      rw [hd] at h
      obtain ⟨x, hx⟩ := Reading.fault?_eq_none.1 ((hread o).trans hd)
      have after := Reading.fault?_eq_some.1 (hgo h x)
      rw [Reading.fault?_eq_some, Reading.run_bind_of_ok hx, Traced.value_bind, after]

theorem toValue_of_unmet {r : Reading Value} (h : r.fault? = some e) :
    r.toValue.value = .error e := by
  show Value.ofExcept r.run.value = _
  rw [Reading.fault?_eq_some.1 h]
  rfl

theorem fault?_truncated (o : Operand) :
    (Number.truncate <$> o.number host).fault? = (o.number host).fault? := by
  unfold Reading.fault?
  rw [Reading.value_map]
  cases (o.number host).run.value <;> rfl

/-- The first demand of a function that is not met decides its result. -/
theorem call_of_unmet {b : Builtin} (h : unmet? host os 0 b.demands = some e) :
    (b.call host os).value = .error e := by
  cases b with
  | countVacant =>
    have present (o : Operand) :
        (pure o : Reading Operand).fault? = Demand.presence.fault? host o := rfl
    exact toValue_of_unmet (fault?_of_unmet h present nofun)
  | rescue | isBlank | isNumber | isText | isError | absolute | round | integer | squareRoot
  | sign | conditional | negation | length | left | right | upper | lower | squeeze =>
    exact toValue_of_unmet (fault?_of_unmet h (fun _ => rfl) nofun)
  | choose => exact toValue_of_unmet (fault?_of_unmet h fault?_truncated nofun)
  | modulo | power =>
    exact toValue_of_unmet (fault?_of_unmet h (fun _ => rfl) fun h _ =>
      fault?_of_unmet h (fun _ => rfl) nofun)
  | middle =>
    exact toValue_of_unmet (fault?_of_unmet h (fun _ => rfl) fun h _ =>
      fault?_of_unmet h fault?_truncated fun h _ => fault?_of_unmet h (fun _ => rfl) nofun)
  | _ => cases h

end Function

end Worksheet
