/-
  Functions run alike on operands that are alike. What a function makes of its numbers is
  checked for being finite or comes from an operation that does not lead out of the admitted
  numbers (`Number.Closed`). Two functions take a position, which is compared with its bounds
  before it is used. Only NaN gets past that, so nothing else breaks down (`Builtin.Placed`,
  `place_alike`, `item_alike`).
-/
import Worksheet.Function.Builtin
import Worksheet.Proofs.Evaluation.LikeOperands

namespace Worksheet

/-- The index of the argument that is a position. -/
def Builtin.position? : Builtin → Option Nat
  | .choose => some 0
  | .middle => some 1
  | _ => none

/-- The position in a call is not NaN, if there is one and it can be read. -/
def Builtin.Placed (b : Builtin) (host : Host) (os : List Operand) : Prop :=
  ∀ i o x, b.position? = some i → os[i]? = some o → (o.number host).run.value = .ok x →
    x.isNaN = false

namespace Function

variable {α β : Type} {L : Likeness} (hL : L.Lawful) {host host' : Host}
  {o o' : Operand} {os os' : List Operand}

/-! ## Aggregates -/

theorem pickAll_alike {R : α → α → Prop} {pick : Pick α} {vs ws : List Value}
    (hpick : ∀ v w, Value.Alike L v w → Attempt L (Option.Rel R) (pick v) (pick w))
    (h : List.Forall₂ (Value.Alike L) vs ws) :
    Attempt L (List.Forall₂ R) (pickAll pick vs) (pickAll pick ws) := by
  induction h with
  | nil => exact .ok .nil
  | cons hv _ ih =>
    refine (hpick _ _ hv).bind fun x y hxy => ?_
    cases hxy with
    | none => exact ih
    | some hx => exact ih.bind fun _ _ hxs => .ok (.cons hx hxs)

theorem pickNumber_alike (v w : Value) (h : Value.Alike L v w) :
    Attempt L (Option.Rel (Same L.admits)) (pickNumber v) (pickNumber w) := by
  cases h with
  | number hx => exact .ok (.some ⟨rfl, hx⟩)
  | error he => exact .error he
  | _ => exact .ok .none

theorem pickBoolean_alike (v w : Value) (h : Value.Alike L v w) :
    Attempt L (Option.Rel Eq) (pickBoolean v) (pickBoolean w) := by
  cases h with
  | number => exact .ok (.some rfl)
  | boolean => exact .ok (.some rfl)
  | error he => exact .error he
  | _ => exact .ok .none

theorem gather_alike {R : α → α → Prop} {pick : Pick α} {coerce coerce' : Operand → Reading α}
    (hpick : ∀ v w, Value.Alike L v w → Attempt L (Option.Rel R) (pick v) (pick w))
    (hcoerce : ∀ o o', Operand.Alike L host host' o o' →
      Reading.Alike L R (coerce o) (coerce' o'))
    (h : Operands.Alike L host host' os os') :
    Reading.Alike L (List.Forall₂ R) (gather host pick coerce os)
      (gather host' pick coerce' os') := by
  induction h with
  | nil => exact .pure .nil
  | cons ho _ ih =>
    have later {here here' : List α} (hhere : List.Forall₂ R here here') :=
      ih.bind fun _ _ hlater => Reading.Alike.pure (L := L) (List.rel_append hhere hlater)
    unfold gather
    rcases ho.referenced? with ⟨cells, cells', hr, hr', hcells⟩ | ⟨hr, hr'⟩
    · simp only [hr, hr']
      exact (Reading.Alike.ofTraced hcells).bind fun _ _ hvs =>
        (Reading.Alike.ofExcept (pickAll_alike hpick hvs)).bind fun _ _ => later
    · simp only [hr, hr']
      exact (hcoerce _ _ ho).bind fun _ _ hx =>
        (Reading.Alike.pure (.cons hx .nil)).bind fun _ _ => later

/-- Lists whose items are the same are the same. -/
theorem forall₂_same {P : α → Prop} {xs ys : List α} (h : List.Forall₂ (Same P) xs ys) :
    Same (fun xs => ∀ x ∈ xs, P x) xs ys := by
  induction h with
  | nil => exact ⟨rfl, nofun⟩
  | cons hx _ ih =>
    obtain ⟨rfl, hx⟩ := hx
    obtain ⟨rfl, hxs⟩ := ih
    exact ⟨rfl, List.forall_mem_cons.2 ⟨hx, hxs⟩⟩

include hL

theorem numbers_alike (h : Operands.Alike L host host' os os') :
    Reading.Alike L (Same fun xs => ∀ x ∈ xs, L.admits x) (numbers host os) (numbers host' os') :=
  (gather_alike pickNumber_alike (fun _ _ ho => ho.number hL) h).mono fun _ _ => forall₂_same

theorem booleans_alike (h : Operands.Alike L host host' os os') :
    Reading.Alike L Eq (booleans host os) (booleans host' os') := by
  unfold booleans
  refine (gather_alike pickBoolean_alike (fun _ _ ho => ho.boolean hL) h).bind fun bs _ hbs => ?_
  rw [List.forall₂_eq_eq_eq] at hbs
  subst hbs
  split
  · exact (Reading.Alike.throw hL _).bind fun _ _ => False.elim
  · exact .pure rfl

/-! ### Extremes -/

omit hL in
/-- One of the numbers is chosen. -/
theorem foldl_mem_of_chooses {f : Float → Float → Float} (hf : ∀ x y, f x y = x ∨ f x y = y)
    (x : Float) (xs : List Float) : xs.foldl f x ∈ x :: xs := by
  induction xs generalizing x with
  | nil => exact List.mem_singleton.2 rfl
  | cons y ys ih =>
    have chosen := ih (f x y)
    rw [List.foldl_cons]
    rcases hf x y with hx | hy
    · rw [hx] at chosen ⊢
      rcases List.mem_cons.1 chosen with same | later
      · exact List.mem_cons.2 (.inl same)
      · exact List.mem_cons_of_mem _ (List.mem_cons_of_mem _ later)
    · rw [hy] at chosen ⊢
      exact List.mem_cons_of_mem _ chosen

omit hL in
theorem least_chooses (x y : Float) : Number.least x y = x ∨ Number.least x y = y := by
  unfold Number.least
  split
  · exact .inr rfl
  split
  · exact .inr rfl
  · exact .inl rfl

omit hL in
theorem greatest_chooses (x y : Float) : Number.greatest x y = x ∨ Number.greatest x y = y := by
  unfold Number.greatest
  split
  · exact .inr rfl
  split
  · exact .inr rfl
  · exact .inl rfl

theorem reduce_alike {f : Float → Float → Float} (hf : ∀ x y, f x y = x ∨ f x y = y)
    {xs : List Float} (h : ∀ x ∈ xs, L.admits x) :
    Value.Alike L (.number (reduce f xs)) (.number (reduce f xs)) := by
  cases xs with
  | nil =>
    have zero : (0.0 : Float).isFinite = true := by decide
    exact .of_isFinite hL zero
  | cons x xs => exact .number (h _ (foldl_mem_of_chooses hf x xs))

/-! ### Counts -/

omit hL in
theorem countP_alike {p : Value → Bool} (hp : ∀ v w, Value.Alike L v w → p v = p w)
    {vs ws : List Value} (h : List.Forall₂ (Value.Alike L) vs ws) : vs.countP p = ws.countP p := by
  induction h with
  | nil => rfl
  | cons hv _ ih => rw [List.countP_cons, List.countP_cons, ih, hp _ _ hv]

omit hL in
theorem tally_alike {count count' : Operand → Traced Nat}
    (hcount : ∀ o o', Operand.Alike L host host' o o' → Traced.Alike L Eq (count o) (count' o'))
    (h : Operands.Alike L host host' os os') :
    Traced.Alike L Eq (tally count os) (tally count' os') := by
  induction h with
  | nil => exact .pure rfl
  | cons ho _ ih =>
    exact (hcount _ _ ho).bind fun _ _ hn => ih.bind fun _ _ hm => .pure (by rw [hn, hm])

theorem numbersIn_alike (h : Operand.Alike L host host' o o') :
    Traced.Alike L Eq (numbersIn host o) (numbersIn host' o') := by
  unfold numbersIn
  rcases h.referenced? with ⟨cells, cells', hr, hr', hcells⟩ | ⟨hr, hr'⟩
  · simp only [hr, hr']
    exact hcells.map fun _ _ hvs => countP_alike (fun _ _ hv => hv.isNumber) hvs
  · simp only [hr, hr']
    exact Traced.Alike.map (h.number hL) fun _ _ hx => by rw [hx.isOk]

omit hL in
theorem valuesIn_alike (h : Operand.Alike L host host' o o') :
    Traced.Alike L Eq (valuesIn host o) (valuesIn host' o') := by
  unfold valuesIn
  rcases h.referenced? with ⟨cells, cells', hr, hr', hcells⟩ | ⟨hr, hr'⟩
  · simp only [hr, hr']
    exact hcells.map fun _ _ hvs => countP_alike (fun _ _ hv => by rw [hv.isEmpty]) hvs
  · simp only [hr, hr']
    exact .pure rfl

omit hL in
theorem isVacant_alike (v w : Value) (h : Value.Alike L v w) : isVacant v = isVacant w := by
  cases h <;> rfl

theorem countValue_alike (n m : Nat) (h : n = m) :
    Value.Alike L (countValue n) (countValue m) := by
  subst h
  exact .of_isFinite hL (Number.isFinite_toFloat _)

theorem countVacant_alike (h : Operands.Alike L host host' os os') :
    Traced.Alike L (Value.Alike L) (countVacant host os) (countVacant host' os') := by
  refine Reading.Alike.toValue ((h.operandAt hL 0).bind fun o o' ho => ?_)
  rcases ho.referenced? with ⟨cells, cells', hr, hr', hcells⟩ | ⟨hr, hr'⟩
  · simp only [hr, hr']
    exact (Reading.Alike.ofTraced hcells).bind fun _ _ hvs =>
      .pure (countValue_alike hL _ _ (countP_alike isVacant_alike hvs))
  · simp only [hr, hr']
    exact .pure (.fault hL _)

/-! ## Functions of numbers -/

theorem ofNumber_alike {f : Float → Value}
    (hf : ∀ x, L.admits x → Value.Alike L (f x) (f x)) (h : Operands.Alike L host host' os os') :
    Traced.Alike L (Value.Alike L) (ofNumber host f os) (ofNumber host' f os') := by
  refine Reading.Alike.toValue ((h.operandAt hL 0).bind fun _ _ ho => ?_)
  exact (ho.number hL).bind_same fun x hx => .pure (hf x hx)

theorem ofNumbers_alike {f : Float → Float → Value} (hf : ∀ x y, Value.Alike L (f x y) (f x y))
    (h : Operands.Alike L host host' os os') :
    Traced.Alike L (Value.Alike L) (ofNumbers host f os) (ofNumbers host' f os') := by
  refine Reading.Alike.toValue ((h.operandAt hL 0).bind fun _ _ ho => ?_)
  refine (ho.number hL).bind_same fun x _ => (h.operandAt hL 1).bind fun _ _ ho => ?_
  exact (ho.number hL).bind_same fun y _ => .pure (hf x y)

theorem sign_alike (x : Float) :
    Value.Alike L (.number (if x > 0.0 then 1.0 else if x < 0.0 then -1.0 else 0.0))
      (.number (if x > 0.0 then 1.0 else if x < 0.0 then -1.0 else 0.0)) := by
  refine .of_isFinite hL ?_
  split
  · decide
  split <;> decide

theorem squareRoot_alike (x : Float) (hx : L.admits x) :
    Value.Alike L
      (if x < 0.0 then .faultWith .number "square root of a negative number" else .number x.sqrt)
      (if x < 0.0 then .faultWith .number "square root of a negative number"
        else .number x.sqrt) := by
  split
  · exact .fault hL _
  · next nonneg => exact .number (hL.closed.sqrt x hx nonneg)

theorem modulo_alike (x y : Float) :
    Value.Alike L
      (if y == 0.0 then .fault .divisionByZero else .finite (x - y * Number.floor (x / y)))
      (if y == 0.0 then .fault .divisionByZero else .finite (x - y * Number.floor (x / y))) := by
  split
  · exact .fault hL _
  · exact .finite hL _

theorem roundTo_alike (x digits : Float) (hx : L.admits x) :
    Value.Alike L (roundTo x digits) (roundTo x digits) := by
  unfold roundTo
  dsimp only
  split
  · refine .number ?_
    split
    · exact hx
    · exact hL.closed.finite _ (by decide)
  split
  · exact .finite hL _
  · exact .finite hL _

theorem truncated_alike {o o' : Operand} (h : Operand.Alike L host host' o o') :
    Reading.Alike L (Same L.admits) (Number.truncate <$> o.number host)
      (Number.truncate <$> o'.number host') := by
  refine (h.number hL).map fun x _ hx => ?_
  obtain ⟨rfl, hx⟩ := hx
  exact ⟨rfl, hL.closed.truncate x hx⟩

theorem round_alike (h : Operands.Alike L host host' os os') :
    Traced.Alike L (Value.Alike L) (round host os) (round host' os') := by
  refine Reading.Alike.toValue ((h.operandAt hL 0).bind fun o o' ho => ?_)
  refine (ho.number hL).bind_same fun x hx => ?_
  rcases h.getElem? 1 with ⟨d, d', hi, hi', hd⟩ | ⟨hi, hi'⟩
  · simp only [hi, hi']
    exact (truncated_alike hL hd).bind_same fun d _ => .pure (roundTo_alike hL x d hx)
  · simp only [hi, hi']
    exact (Reading.Alike.pure rfl).bind_eq fun d => .pure (roundTo_alike hL x d hx)

/-! ## Choices and connectives -/

theorem conditional_alike (h : Operands.Alike L host host' os os') :
    Traced.Alike L (Value.Alike L) (conditional host os) (conditional host' os') := by
  refine Reading.Alike.toValue ((h.operandAt hL 0).bind fun o o' ho => ?_)
  refine (ho.boolean hL).bind_eq fun b => ?_
  split
  · exact (h.operandAt hL 1).bind fun _ _ ho => .ofTraced (ho.evaluate hL)
  · rcases h.getElem? 2 with ⟨e, e', hi, hi', he⟩ | ⟨hi, hi'⟩
    · simp only [hi, hi']
      exact .ofTraced (he.evaluate hL)
    · simp only [hi, hi']
      exact .pure (.boolean false)

theorem rescue_alike (h : Operands.Alike L host host' os os') :
    Traced.Alike L (Value.Alike L) (rescue host os) (rescue host' os') := by
  refine Reading.Alike.toValue ((h.operandAt hL 0).bind fun o o' ho => ?_)
  refine (Reading.Alike.ofTraced (ho.evaluate hL)).bind fun v w hv => ?_
  rw [← hv.isError]
  split
  · exact (h.operandAt hL 1).bind fun _ _ ho => .ofTraced (ho.evaluate hL)
  · exact .pure hv

theorem negation_alike (h : Operands.Alike L host host' os os') :
    Traced.Alike L (Value.Alike L) (negation host os) (negation host' os') := by
  refine Reading.Alike.toValue ((h.operandAt hL 0).bind fun o o' ho => ?_)
  exact (ho.boolean hL).bind_eq fun _ => .pure (.boolean _)

omit hL in
theorem reads_place (x : Float) : (Traced.place x).reads = [] := by
  unfold Traced.place
  split <;> rfl

omit hL in
/-- A position that is not 0 has an index. -/
theorem place_eq {x : Float} (h : 1 ≤ Number.toNatClamped x) :
    Traced.place x = pure (Number.toNatClamped x - 1) := by
  unfold Traced.place
  split
  · next zero => omega
  · next k succ => rw [succ, Nat.succ_sub_one]

omit hL in
/-- A position that is not below 1 has an index. -/
theorem place_alike {x : Float} (number : L.sound → x.isNaN = false) (notBelow : ¬ x < 1.0) :
    Traced.Alike L (Same fun i => L.sound → i + 1 = Number.toNatClamped x) (Traced.place x)
      (Traced.place x) := by
  have exact (sound : L.sound) : 1 ≤ Number.toNatClamped x :=
    Number.one_le_toNatClamped (number sound) notBelow
  refine .of_reads ⟨rfl, fun sound => ?_⟩ (reads_place x) (reads_place x) rfl fun sound => ?_
  · rw [place_eq (exact sound), Traced.value_pure, Nat.sub_add_cancel (exact sound)]
  · rw [place_eq (exact sound), Traced.broken_pure]

omit hL in
theorem item_alike (h : Operands.Alike L host host' os os') {i : Nat}
    (inside : L.sound → i < os.length) :
    Traced.Alike L (Option.Rel (Operand.Alike L host host')) (Traced.item os i)
      (Traced.item os' i) := by
  unfold Traced.item
  rcases h.getElem? i with ⟨o, o', hi, hi', ho⟩ | ⟨hi, hi'⟩
  · rw [hi, hi']
    exact .pure (.some ho)
  · rw [hi, hi']
    refine .of_reads .none rfl rfl rfl fun sound => ?_
    exact absurd (inside sound) (Nat.not_lt.2 (List.getElem?_eq_none_iff.1 hi))

omit hL in
/-- The same choice is made among operands that are alike. -/
theorem chosen_alike {x : Float} (number : L.sound → x.isNaN = false)
    (h : Operands.Alike L host host' os os')
    (few : L.sound → os.length < 2 * Number.normalFrom) :
    Traced.Alike L (Option.Rel (Operand.Alike L host host')) (chosen x os) (chosen x os') := by
  unfold chosen
  rw [← List.Forall₂.length_eq h]
  split
  · exact .pure .none
  · next within =>
    rw [not_or] at within
    obtain ⟨notBelow, notAbove⟩ := within
    refine (place_alike number notBelow).bind fun i _ hi => ?_
    obtain ⟨rfl, index⟩ := hi
    refine item_alike h fun sound => ?_
    have bound := Number.whole_le (number sound) (few sound) notAbove
    have position := index sound
    rw [Number.toNatClamped_eq (few sound) bound] at position
    omega

theorem choose_alike (h : Operands.Alike L host host' os os')
    (few : L.sound → os.length ≤ 2 * Number.normalFrom)
    (placed : L.sound → Builtin.choose.Placed host os) :
    Traced.Alike L (Value.Alike L) (choose host os) (choose host' os') := by
  refine Reading.Alike.toValue ((h.operandAt hL 0).bind_read fun o o' found ho => ?_)
  rw [bind_map_left, bind_map_left]
  refine (ho.number hL).bind_read fun x y read hxy => ?_
  obtain ⟨rfl, -⟩ := hxy
  have number (sound : L.sound) : (Number.truncate x).isNaN = false :=
    Number.isNaN_truncate (placed sound 0 o x rfl (getElem?_of_operandAt found) read)
  have choices : Operands.Alike L host host' (os.drop 1) (os'.drop 1) := List.forall₂_drop 1 h
  have fewer (sound : L.sound) : (os.drop 1).length < 2 * Number.normalFrom := by
    have positive : 0 < 2 * Number.normalFrom := by decide
    have := few sound
    rw [List.length_drop]
    omega
  refine (Reading.Alike.ofTraced (chosen_alike number choices fewer)).bind fun c c' hc => ?_
  cases hc with
  | some ho => exact .ofTraced (ho.evaluate hL)
  | none =>
    dsimp only
    rw [← List.Forall₂.length_eq choices]
    exact .pure (.fault hL _)

/-! ## Functions of texts -/

omit hL in
theorem joined_alike {vs ws : List Value} (h : List.Forall₂ (Value.Alike L) vs ws) :
    Attempt L Eq (joined vs) (joined ws) := by
  induction h with
  | nil => exact .ok rfl
  | cons hv _ ih =>
    exact hv.toText.bind fun _ _ hs => ih.bind fun _ _ ht => .ok (by rw [hs, ht])

omit hL in
theorem joinedText_alike (h : Operand.Alike L host host' o o') :
    Reading.Alike L Eq (joinedText host o) (joinedText host' o') := by
  refine (Reading.Alike.ofTraced h.argument).bind fun a b hab => ?_
  cases hab with
  | single hv => exact .ofExcept hv.toText
  | many hvs => exact .ofExcept (joined_alike hvs)

omit hL in
theorem joinAll_alike (h : Operands.Alike L host host' os os') :
    Reading.Alike L Eq (joinAll host os) (joinAll host' os') := by
  induction h with
  | nil => exact .pure rfl
  | cons ho _ ih =>
    exact (joinedText_alike ho).bind fun _ _ hs => ih.bind fun _ _ ht => .pure (by rw [hs, ht])

theorem ofText_alike {f : String → Value} (hf : ∀ s, Value.Alike L (f s) (f s))
    (h : Operands.Alike L host host' os os') :
    Traced.Alike L (Value.Alike L) (ofText host f os) (ofText host' f os') := by
  refine Reading.Alike.toValue ((h.operandAt hL 0).bind fun _ _ ho => ?_)
  exact (ho.text hL).bind_eq fun s => .pure (hf s)

theorem characterCount_alike (h : Operand.Alike L host host' o o') :
    Reading.Alike L Eq (characterCount host o) (characterCount host' o') := by
  refine (truncated_alike hL h).bind_same fun x _ => ?_
  split
  · exact (Reading.Alike.throw hL _).bind fun _ _ => False.elim
  · exact .pure rfl

theorem part_alike (cut : Nat → List Char → List Char) (h : Operands.Alike L host host' os os') :
    Traced.Alike L (Value.Alike L) (part host cut os) (part host' cut os') := by
  refine Reading.Alike.toValue ((h.operandAt hL 0).bind fun o o' ho => ?_)
  refine (ho.text hL).bind_eq fun s => ?_
  rcases h.getElem? 1 with ⟨d, d', hi, hi', hd⟩ | ⟨hi, hi'⟩
  · simp only [hi, hi']
    exact (characterCount_alike hL hd).bind_eq fun _ => .pure (.text _)
  · simp only [hi, hi']
    exact (Reading.Alike.pure rfl).bind_eq fun _ => .pure (.text _)

theorem middle_alike (h : Operands.Alike L host host' os os')
    (placed : L.sound → Builtin.middle.Placed host os) :
    Traced.Alike L (Value.Alike L) (middle host os) (middle host' os') := by
  refine Reading.Alike.toValue ((h.operandAt hL 0).bind fun _ _ ho => ?_)
  refine (ho.text hL).bind_eq fun s => (h.operandAt hL 1).bind_read fun o o' found ho => ?_
  rw [bind_map_left, bind_map_left]
  refine (ho.number hL).bind_read fun x y read hxy => ?_
  obtain ⟨rfl, -⟩ := hxy
  have number (sound : L.sound) : (Number.truncate x).isNaN = false :=
    Number.isNaN_truncate (placed sound 1 o x rfl (getElem?_of_operandAt found) read)
  refine (h.operandAt hL 2).bind fun _ _ ho => (characterCount_alike hL ho).bind_eq fun n => ?_
  split
  · exact (Reading.Alike.throw hL _).bind fun _ _ => False.elim
  · next notBelow =>
    exact (Reading.Alike.ofTraced (place_alike number notBelow)).bind_same fun _ _ =>
      .pure (.text _)

/-! ## Functions that inspect a value -/

omit hL in
theorem inspected_alike {a b : Argument} (hL : L.Lawful) (h : Argument.Alike L a b) :
    Value.Alike L (inspected a) (inspected b) := by
  cases h with
  | single hv => exact hv
  | many => exact .fault hL _

theorem inspect_alike {test : Value → Bool} (htest : ∀ v w, Value.Alike L v w → test v = test w)
    (h : Operands.Alike L host host' os os') :
    Traced.Alike L (Value.Alike L) (inspect host test os) (inspect host' test os') := by
  refine Reading.Alike.toValue ((h.operandAt hL 0).bind fun _ _ ho => ?_)
  refine (Reading.Alike.ofTraced ho.argument).bind fun _ _ ha => ?_
  rw [htest _ _ (inspected_alike hL ha)]
  exact .pure (.boolean _)

/-! ## All functions -/

/-- Every built-in function runs alike on operands that are alike. -/
theorem call_alike (b : Builtin) (h : Operands.Alike L host host' os os')
    (few : L.sound → os.length ≤ 2 * Number.normalFrom)
    (placed : L.sound → b.Placed host os) :
    Traced.Alike L (Value.Alike L) (b.call host os) (b.call host' os') := by
  have numbers := numbers_alike hL h
  cases b with
  | sum =>
    exact (numbers.bind_same fun _ _ => .pure (.finite hL _)).toValue
  | product =>
    refine (numbers.bind_same fun xs _ => .pure ?_).toValue
    split
    · exact .of_isFinite hL (by decide)
    · exact .finite hL _
  | average =>
    refine (numbers.bind_same fun xs _ => .pure ?_).toValue
    split
    · exact .fault hL _
    · exact .finite hL _
  | minimum =>
    exact (numbers.bind_same fun _ hxs => .pure (reduce_alike hL least_chooses hxs)).toValue
  | maximum =>
    exact (numbers.bind_same fun _ hxs => .pure (reduce_alike hL greatest_chooses hxs)).toValue
  | count => exact (tally_alike (fun _ _ ho => numbersIn_alike hL ho) h).map (countValue_alike hL)
  | countValues => exact (tally_alike (fun _ _ ho => valuesIn_alike ho) h).map (countValue_alike hL)
  | countVacant => exact countVacant_alike hL h
  | absolute => exact ofNumber_alike hL (fun x hx => .number (hL.closed.abs x hx)) h
  | round => exact round_alike hL h
  | integer => exact ofNumber_alike hL (fun x hx => .number (hL.closed.floor x hx)) h
  | modulo => exact ofNumbers_alike hL (modulo_alike hL) h
  | squareRoot => exact ofNumber_alike hL (squareRoot_alike hL) h
  | power => exact ofNumbers_alike hL (fun _ _ => .finite hL _) h
  | sign => exact ofNumber_alike hL (fun x _ => sign_alike hL x) h
  | conditional => exact conditional_alike hL h
  | rescue => exact rescue_alike hL h
  | choose => exact choose_alike hL h few placed
  | conjunction =>
    exact ((booleans_alike hL h).bind_eq fun _ => .pure (.boolean _)).toValue
  | disjunction =>
    exact ((booleans_alike hL h).bind_eq fun _ => .pure (.boolean _)).toValue
  | negation => exact negation_alike hL h
  | truth => exact .pure (.boolean true)
  | falsity => exact .pure (.boolean false)
  | concat =>
    exact ((joinAll_alike h).bind_eq fun _ => .pure (.text _)).toValue
  | length => exact ofText_alike hL (fun _ => .of_isFinite hL (Number.isFinite_toFloat _)) h
  | left => exact part_alike hL List.take h
  | right => exact part_alike hL (fun n cs => cs.drop (cs.length - n)) h
  | middle => exact middle_alike hL h placed
  | upper => exact ofText_alike hL (fun _ => .text _) h
  | lower => exact ofText_alike hL (fun _ => .text _) h
  | squeeze => exact ofText_alike hL (fun _ => .text _) h
  | isBlank => exact inspect_alike hL (fun _ _ hv => hv.isEmpty) h
  | isNumber => exact inspect_alike hL (fun _ _ hv => hv.isNumber) h
  | isText => exact inspect_alike hL (fun _ _ hv => hv.isText) h
  | isError => exact inspect_alike hL (fun _ _ hv => hv.isError) h
  | notAvailable => exact .pure (.fault hL _)

end Function

end Worksheet
