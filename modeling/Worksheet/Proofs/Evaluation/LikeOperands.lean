/-
  Traced results that are alike: their results are, one took the look-ups of the other after a
  move, and both broke down or neither did. The combinators that results are built from keep
  that, and so does everything a function can do with its operands when the operands are alike.
-/
import Mathlib.Data.List.Forall2
import Worksheet.Formula.Precedents
import Worksheet.Proofs.Evaluation.Likeness

namespace Worksheet

variable {α β γ δ : Type} {L : Likeness}

/-! ## Traced results -/

/-- Two traced results compare as `R` says, and they were come by in the same way. -/
structure Traced.Alike (L : Likeness) (R : α → β → Prop) (t : Traced α) (u : Traced β) : Prop where
  value : R t.value u.value
  reads : u.reads = t.reads.map L.move
  sees : ∀ a ∈ t.reads, L.sees a.toCell
  broken : t.broken = u.broken
  sound : L.sound → t.broken = false

namespace Traced.Alike

variable {R : α → β → Prop} {S : γ → δ → Prop} {t : Traced α} {u : Traced β}

/-- Results that took no look-ups and did not break down. -/
theorem of_reads (value : R t.value u.value) (ht : t.reads = []) (hu : u.reads = [])
    (broken : t.broken = u.broken) (sound : L.sound → t.broken = false) : Alike L R t u :=
  ⟨value, by rw [ht, hu, List.map_nil], fun _ ha => absurd (ht ▸ ha) List.not_mem_nil, broken,
    sound⟩

theorem pure {x : α} {y : β} (h : R x y) : Alike L R (Pure.pure x) (Pure.pure y) :=
  of_reads h rfl rfl rfl fun _ => rfl

theorem bind_value {f : α → Traced γ} {g : β → Traced δ} (h : Alike L R t u)
    (after : Alike L S (f t.value) (g u.value)) : Alike L S (t >>= f) (u >>= g) := by
  refine ⟨after.value, ?_, fun a ha => ?_, ?_, fun sound => ?_⟩
  · rw [reads_bind, reads_bind, after.reads, h.reads, List.map_append]
  · rw [reads_bind] at ha
    rcases List.mem_append.1 ha with ha | ha
    · exact h.sees a ha
    · exact after.sees a ha
  · rw [broken_bind, broken_bind, after.broken, h.broken]
  · rw [broken_bind, h.sound sound, after.sound sound, Bool.or_self]

theorem bind {f : α → Traced γ} {g : β → Traced δ} (h : Alike L R t u)
    (hfg : ∀ x y, R x y → Alike L S (f x) (g y)) : Alike L S (t >>= f) (u >>= g) :=
  h.bind_value (hfg _ _ h.value)

theorem map {f : α → γ} {g : β → δ} (h : Alike L R t u) (hfg : ∀ x y, R x y → S (f x) (g y)) :
    Alike L S (f <$> t) (g <$> u) := by
  refine ⟨hfg _ _ h.value, ?_, fun a ha => h.sees a ?_, ?_, fun sound => ?_⟩
  · rw [reads_map, reads_map, h.reads]
  · rwa [reads_map] at ha
  · rw [broken_map, broken_map, h.broken]
  · rw [broken_map, h.sound sound]

/-- Identical evaluations come to the same. -/
theorem eq {admits : Float → Prop} {sees : Cell → Prop} {sound : Prop} {t u : Traced Value}
    (h : Alike (.identical admits sees sound) (Value.Alike (.identical admits sees sound)) t u) :
    t = u :=
  Traced.ext h.value.eq ((List.map_id _).symm.trans h.reads.symm) h.broken

end Traced.Alike

/-! ## Readings -/

/-- Two readings compare as `R` says, or both end in errors that may stand for each other; and
    they were come by in the same way. -/
def Reading.Alike (L : Likeness) (R : α → β → Prop) (r : Reading α) (s : Reading β) : Prop :=
  Traced.Alike L (Attempt L R) r.run s.run

namespace Reading.Alike

variable {R : α → β → Prop} {S : γ → δ → Prop} {r : Reading α} {s : Reading β}

theorem pure {x : α} {y : β} (h : R x y) : Alike L R (Pure.pure x) (Pure.pure y) :=
  Traced.Alike.pure (.ok h)

theorem mono {S : α → β → Prop} (h : Alike L R r s) (hRS : ∀ x y, R x y → S x y) :
    Alike L S r s :=
  { h with value := h.value.mono hRS }

theorem throw (hL : L.Lawful) (e : ErrorValue) :
    Alike L R (MonadExcept.throw e) (MonadExcept.throw e) :=
  Traced.Alike.pure (.error (hL.same e))

theorem ofExcept {r : Except ErrorValue α} {s : Except ErrorValue β} (h : Attempt L R r s) :
    Alike L R (Reading.ofExcept r) (Reading.ofExcept s) :=
  Traced.Alike.pure h

theorem ofTraced {t : Traced α} {u : Traced β} (h : Traced.Alike L R t u) :
    Alike L R (Reading.ofTraced t) (Reading.ofTraced u) :=
  h.map fun _ _ hxy => .ok hxy

theorem toValue {r s : Reading Value} (h : Alike L (Value.Alike L) r s) :
    Traced.Alike L (Value.Alike L) r.toValue s.toValue :=
  Traced.Alike.map h fun _ _ hxy => hxy.ofExcept

/-- Two readings are gone on with alike, if that is so for what the first one has read. -/
theorem bind_read {f : α → Reading γ} {g : β → Reading δ} (h : Alike L R r s)
    (hfg : ∀ x y, r.run.value = .ok x → R x y → Alike L S (f x) (g y)) :
    Alike L S (r >>= f) (s >>= g) := by
  refine Traced.Alike.bind_value h ?_
  show Traced.Alike L _ (ExceptT.bindCont f r.run.value) (ExceptT.bindCont g s.run.value)
  have value := h.value
  generalize hr : r.run.value = x at value ⊢
  generalize s.run.value = y at value ⊢
  cases value with
  | ok hxy => exact hfg _ _ hr hxy
  | error he => exact Traced.Alike.pure (.error he)

theorem bind {f : α → Reading γ} {g : β → Reading δ} (h : Alike L R r s)
    (hfg : ∀ x y, R x y → Alike L S (f x) (g y)) : Alike L S (r >>= f) (s >>= g) :=
  h.bind_read fun x y _ hxy => hfg x y hxy

theorem bind_same {P : α → Prop} {r s : Reading α} {f : α → Reading γ} {g : α → Reading δ}
    (h : Alike L (Same P) r s) (hfg : ∀ x, P x → Alike L S (f x) (g x)) :
    Alike L S (r >>= f) (s >>= g) := by
  refine h.bind fun x y hxy => ?_
  obtain ⟨rfl, hx⟩ := hxy
  exact hfg x hx

theorem bind_eq {r s : Reading α} {f : α → Reading γ} {g : α → Reading δ} (h : Alike L Eq r s)
    (hfg : ∀ x, Alike L S (f x) (g x)) : Alike L S (r >>= f) (s >>= g) :=
  h.bind fun x _ hxy => hxy ▸ hfg x

theorem map {f : α → γ} {g : β → δ} (h : Alike L R r s) (hfg : ∀ x y, R x y → S (f x) (g y)) :
    Alike L S (f <$> r) (g <$> s) := by
  rw [← bind_pure_comp, ← bind_pure_comp]
  exact h.bind fun x y hxy => pure (hfg x y hxy)

end Reading.Alike

/-! ## Look-ups -/

/-- What two hosts answer to a reference and to the same one moved is alike. -/
inductive Reference.Alike (L : Likeness) (host host' : Host) : Reference → Prop where
  | cell {a : Address} (sees : L.sees a.toCell)
    (value : Value.Alike L (host.cell a) (host'.cell (L.move a))) : Alike L host host' (.cell a)
  | range {a b : Address} (sees : ∀ c ∈ (Range.between a b).cells, L.sees c)
    (cells : (Range.between (L.move a) (L.move b)).cells.map Cell.address =
      (Range.between a b).cells.map fun c => L.move c.address)
    (values : List.Forall₂ (Value.Alike L) (host.block (Range.between a b))
      (host'.block (Range.between (L.move a) (L.move b)))) :
    Alike L host host' (.range a b)

variable {host host' : Host} {a b : Address}

theorem lookUp_alike (h : Reference.Alike L host host' (.cell a)) :
    Traced.Alike L (Value.Alike L) (lookUp host a) (lookUp host' (L.move a)) := by
  cases h with
  | cell sees value =>
    exact ⟨value, rfl, fun _ hb => List.mem_singleton.1 hb ▸ sees, rfl, fun _ => rfl⟩

theorem lookUpAll_alike (h : Reference.Alike L host host' (.range a b)) :
    Traced.Alike L (List.Forall₂ (Value.Alike L)) (lookUpAll host a b)
      (lookUpAll host' (L.move a) (L.move b)) := by
  cases h with
  | range sees cells values =>
    refine ⟨values, ?_, fun d hd => ?_, rfl, fun _ => rfl⟩
    · dsimp only [lookUpAll]
      rw [cells, List.map_map]
      rfl
    · obtain ⟨c, hc, rfl⟩ := List.mem_map.1 hd
      exact sees c hc

/-! ## Operands -/

/-- Two arguments compare value by value. -/
inductive Argument.Alike (L : Likeness) : Argument → Argument → Prop where
  | single {v w : Value} (h : Value.Alike L v w) : Alike L (.single v) (.single w)
  | many {vs ws : List Value} (h : List.Forall₂ (Value.Alike L) vs ws) :
    Alike L (.many vs) (.many ws)

/-- Two operands are alike: they are a reference and the same one moved, and what is found there
    is alike; or their results are alike. -/
inductive Operand.Alike (L : Likeness) (host host' : Host) : Operand → Operand → Prop where
  | cell {a : Address} (h : Reference.Alike L host host' (.cell a)) :
    Alike L host host' (.cell a) (.cell (L.move a))
  | range {a b : Address} (h : Reference.Alike L host host' (.range a b)) :
    Alike L host host' (.range a b) (.range (L.move a) (L.move b))
  | computed {r r' : Unit → Traced Value} (h : Traced.Alike L (Value.Alike L) (r ()) (r' ())) :
    Alike L host host' (.computed r) (.computed r')

namespace Operand.Alike

variable {o o' : Operand}

/-- Both operands are references, or neither is one. -/
theorem referenced? (h : Alike L host host' o o') :
    (∃ cells cells', o.referenced? host = some cells ∧ o'.referenced? host' = some cells' ∧
        Traced.Alike L (List.Forall₂ (Value.Alike L)) cells cells') ∨
      o.referenced? host = none ∧ o'.referenced? host' = none := by
  cases h with
  | cell h => exact .inl ⟨_, _, rfl, rfl, (lookUp_alike h).map fun _ _ hv => .cons hv .nil⟩
  | range h => exact .inl ⟨_, _, rfl, rfl, lookUpAll_alike h⟩
  | computed => exact .inr ⟨rfl, rfl⟩

theorem argument (h : Alike L host host' o o') :
    Traced.Alike L (Argument.Alike L) (o.argument host) (o'.argument host') := by
  cases h with
  | cell h => exact (lookUp_alike h).map fun _ _ hv => .single hv
  | range h => exact (lookUpAll_alike h).map fun _ _ hvs => .many hvs
  | computed h => exact h.map fun _ _ hv => .single hv

section

variable (hL : L.Lawful)
include hL

theorem evaluate (h : Alike L host host' o o') :
    Traced.Alike L (Value.Alike L) (o.evaluate host) (o'.evaluate host') := by
  cases h with
  | cell h => exact lookUp_alike h
  | range => exact .pure (hL.misplaced _ _)
  | computed h => exact h

theorem scalar (h : Alike L host host' o o') :
    Reading.Alike L (Value.Alike L) (o.scalar host) (o'.scalar host') := by
  refine (Reading.Alike.ofTraced h.argument).bind fun x y hxy => ?_
  cases hxy with
  | many => exact .throw hL _
  | single hv =>
    cases hv with
    | error he => exact Traced.Alike.pure (.error he)
    | empty => exact .pure .empty
    | number hx => exact .pure (.number hx)
    | text s => exact .pure (.text s)
    | boolean b => exact .pure (.boolean b)

theorem number (h : Alike L host host' o o') :
    Reading.Alike L (Same L.admits) (o.number host) (o'.number host') :=
  (h.scalar hL).bind fun _ _ hv => .ofExcept (hv.toNumber hL)

theorem text (h : Alike L host host' o o') :
    Reading.Alike L Eq (o.text host) (o'.text host') :=
  (h.scalar hL).bind fun _ _ hv => .ofExcept hv.toText

theorem boolean (h : Alike L host host' o o') :
    Reading.Alike L Eq (o.boolean host) (o'.boolean host') :=
  (h.scalar hL).bind fun _ _ hv => .ofExcept (hv.toBoolean hL)

end

end Operand.Alike

/-! ## Lists of operands -/

/-- An operand that is found is the one at the index. -/
theorem getElem?_of_operandAt {os : List Operand} {i : Nat} {o : Operand}
    (h : (operandAt os i).run.value = .ok o) : os[i]? = some o := by
  unfold operandAt at h
  split at h
  · next o' hi => rw [hi, Except.ok.inj h]
  · cases h

/-- Two lists of operands are alike one by one. -/
abbrev Operands.Alike (L : Likeness) (host host' : Host) :
    List Operand → List Operand → Prop :=
  List.Forall₂ (Operand.Alike L host host')

namespace Operands.Alike

variable {os os' : List Operand}

theorem getElem? (h : Operands.Alike L host host' os os') (i : Nat) :
    (∃ o o', os[i]? = some o ∧ os'[i]? = some o' ∧ Operand.Alike L host host' o o') ∨
      os[i]? = none ∧ os'[i]? = none := by
  induction h generalizing i with
  | nil => exact .inr ⟨rfl, rfl⟩
  | cons ho _ ih =>
    cases i with
    | zero => exact .inl ⟨_, _, rfl, rfl, ho⟩
    | succ i => exact ih i

theorem operandAt (hL : L.Lawful) (h : Operands.Alike L host host' os os') (i : Nat) :
    Reading.Alike L (Operand.Alike L host host') (operandAt os i) (operandAt os' i) := by
  unfold Worksheet.operandAt
  rcases getElem? h i with ⟨o, o', hi, hi', ho⟩ | ⟨hi, hi'⟩
  · simp only [hi, hi']
    exact .pure ho
  · simp only [hi, hi']
    exact .throw hL _

end Operands.Alike

end Worksheet
