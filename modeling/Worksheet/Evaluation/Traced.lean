/-
  Traced results: a result together with the addresses that were looked up on the way to
  it, in order, and with a note whether the way broke down. It does where it comes to an
  index that does not exist. A `Reading` is a traced result that an error value may cut
  short; the look-ups made before the error are kept.
-/
import Worksheet.Grid.Address
import Worksheet.Number.Rounding
import Worksheet.Value.Basic

namespace Worksheet

/-- A result and the look-ups it took. When the way to it broke down, the result only
    stands in for one. -/
structure Traced (α : Type) where
  value : α
  reads : List Address
  broken : Bool := false
deriving Repr

namespace Traced

instance : Monad Traced where
  pure x := { value := x, reads := [] }
  bind t f :=
    let u := f t.value
    ⟨u.value, t.reads ++ u.reads, t.broken || u.broken⟩

variable {α β : Type}

@[ext] theorem ext {t u : Traced α} (hv : t.value = u.value) (hr : t.reads = u.reads)
    (hb : t.broken = u.broken) : t = u := by
  cases t; cases u; simp_all

@[simp] theorem value_pure (x : α) : (pure x : Traced α).value = x := rfl

@[simp] theorem reads_pure (x : α) : (pure x : Traced α).reads = [] := rfl

@[simp] theorem broken_pure (x : α) : (pure x : Traced α).broken = false := rfl

@[simp] theorem value_bind (t : Traced α) (f : α → Traced β) :
    (t >>= f).value = (f t.value).value := rfl

@[simp] theorem reads_bind (t : Traced α) (f : α → Traced β) :
    (t >>= f).reads = t.reads ++ (f t.value).reads := rfl

@[simp] theorem broken_bind (t : Traced α) (f : α → Traced β) :
    (t >>= f).broken = (t.broken || (f t.value).broken) := rfl

@[simp] theorem value_map (f : α → β) (t : Traced α) : (f <$> t).value = f t.value := rfl

@[simp] theorem reads_map (f : α → β) (t : Traced α) : (f <$> t).reads = t.reads := by
  show t.reads ++ [] = t.reads
  simp

@[simp] theorem broken_map (f : α → β) (t : Traced α) : (f <$> t).broken = t.broken := by
  show (t.broken || false) = t.broken
  simp

instance : LawfulMonad Traced :=
  LawfulMonad.mk' Traced
    (fun t => by ext1 <;> simp)
    (fun x f => by ext1 <;> simp)
    (fun t f g => by ext1 <;> simp [Bool.or_assoc])

/-- The index that belongs to a position counted from 1. The position 0 has none, and that is
    also what becomes of something that is not a number; the greatest index stands in for it. -/
def place (position : Float) : Traced Nat :=
  match Number.toNatClamped position with
  | 0 => ⟨Nat.pow 2 64 - 1, [], true⟩
  | k + 1 => pure k

/-- The item at an index. There is none beyond the end of the list. -/
def item (xs : List α) (i : Nat) : Traced (Option α) := ⟨xs[i]?, [], xs[i]?.isNone⟩

end Traced

/-- A traced result that an error value may cut short. -/
abbrev Reading := ExceptT ErrorValue Traced

namespace Reading

/-- A result that took no look-ups. -/
def ofExcept {α : Type} (r : Except ErrorValue α) : Reading α := ExceptT.mk (pure r)

/-- A traced result that is not cut short. -/
def ofTraced {α : Type} (t : Traced α) : Reading α := ExceptT.mk (Except.ok <$> t)

/-- The value read, or the error that cut the reading short. -/
def toValue (r : Reading Value) : Traced Value := Value.ofExcept <$> r.run

end Reading

end Worksheet
