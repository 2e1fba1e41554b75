/-
  What a reading in place does, and how readings are put together. A reading in place follows a
  parser of lists if it takes the same tokens, leaves everything else as it was, and fails where
  that fails (`Follows`). Binds keep this, so that a parser in place is compared with a parser of
  lists step by step, with one rule for each step.
-/
import Worksheet.Formula.Descent
import Worksheet.Proofs.Formula.Completeness

namespace Worksheet.Descent

variable {α β : Type} {s s' : Descent} {t : Token} {ts : List Token}

/-! ## Places -/

/-- The tokens from a place on. -/
def ahead (s : Descent) : List Token := s.tokens.drop s.position

/-- The place so many tokens further on. -/
def moved (s : Descent) (n : Nat) : Descent := { s with position := s.position + n }

/-- The place at another level. -/
def atDepth (s : Descent) (depth : Nat) : Descent := { s with depth }

@[simp] theorem ahead_atDepth (s : Descent) (depth : Nat) : (s.atDepth depth).ahead = s.ahead := rfl

@[simp] theorem depth_moved (s : Descent) (n : Nat) : (s.moved n).depth = s.depth := rfl

theorem ahead_moved (s : Descent) (n : Nat) : (s.moved n).ahead = s.ahead.drop n :=
  List.drop_drop.symm

theorem ahead_moved_of_append {taken rest : List Token} (h : s.ahead = taken ++ rest) :
    (s.moved taken.length).ahead = rest := by
  rw [ahead_moved, h, List.drop_left]

theorem ahead_moved_one (h : s.ahead = t :: ts) : (s.moved 1).ahead = ts :=
  @ahead_moved_of_append s [t] ts h

/-! ## Steps -/

theorem outcome_bind_of_ok {p : Descending α} {a : α} (h : p.outcome s = some (.ok a, s'))
    (f : α → Descending β) : (p >>= f).outcome s = (f a).outcome s' := by
  show (p.run.run s).bind _ = _
  unfold Descending.outcome at h
  rw [h]
  rfl

theorem outcome_bind_of_error {p : Descending α} {fault : FormulaFault}
    (h : p.outcome s = some (.error fault, s')) (f : α → Descending β) :
    (p >>= f).outcome s = some (.error fault, s') := by
  show (p.run.run s).bind _ = _
  unfold Descending.outcome at h
  rw [h]
  rfl

theorem outcome_get (s : Descent) :
    Descending.outcome get s = some (.ok s, s) := rfl

theorem outcome_peek (s : Descent) : peek.outcome s = some (.ok s.ahead.head?, s) := by
  rw [ahead, List.head?_drop]
  rfl

theorem outcome_nextIs_nil (kind : TokenKind) (h : s.ahead = []) :
    (nextIs kind).outcome s = some (.ok false, s) := by
  unfold nextIs
  rw [outcome_bind_of_ok (outcome_peek s), h]
  rfl

theorem outcome_nextIs_of {kind : TokenKind} (h : s.ahead = t :: ts) (ht : t.kind = kind) :
    (nextIs kind).outcome s = some (.ok true, s) := by
  unfold nextIs
  rw [outcome_bind_of_ok (outcome_peek s), h, ← decide_eq_true ht]
  rfl

theorem outcome_nextIs_of_ne {kind : TokenKind} (h : s.ahead = t :: ts) (ht : t.kind ≠ kind) :
    (nextIs kind).outcome s = some (.ok false, s) := by
  unfold nextIs
  rw [outcome_bind_of_ok (outcome_peek s), h, ← decide_eq_false ht]
  rfl

theorem outcome_advance (s : Descent) : advance.outcome s = some (.ok (), s.moved 1) := rfl

theorem outcome_here_nil (h : s.ahead = []) : here.outcome s = some (.ok s.finish, s) := by
  unfold here
  rw [outcome_bind_of_ok (outcome_peek s), h]
  rfl

theorem outcome_here_cons (h : s.ahead = t :: ts) : here.outcome s = some (.ok t.start, s) := by
  unfold here
  rw [outcome_bind_of_ok (outcome_peek s), h]
  rfl

theorem outcome_takeOperator_none {n : Nat} (h : s.ahead.head?.bind (Token.binaryOp? n) = none) :
    (takeOperator n).outcome s = some (.ok none, s) := by
  unfold takeOperator
  rw [outcome_bind_of_ok (outcome_peek s), h]
  rfl

theorem outcome_takeOperator_some {n : Nat} {op : BinaryOp}
    (h : s.ahead.head?.bind (Token.binaryOp? n) = some op) :
    (takeOperator n).outcome s = some (.ok (some op), s.moved 1) := by
  unfold takeOperator
  rw [outcome_bind_of_ok (outcome_peek s), h]
  rfl

theorem outcome_fewer {bound : Nat} (s : Descent) :
    (fewer (bound + 1)).outcome s = some (.ok ⟨bound, Nat.lt_succ_self bound⟩, s) := rfl

theorem outcome_descend_of_lt (h : s.depth < nestingLimit) (start : Nat) :
    (descend start).outcome s = some (.ok (), s.atDepth (s.depth + 1)) := by
  show (if nestingLimit < s.depth + 1 then _ else _ : Descending Unit).outcome _ = _
  rw [if_neg (by omega)]
  rfl

theorem outcome_descend_of_le (h : nestingLimit ≤ s.depth) (start : Nat) :
    (descend start).outcome s =
      some (.error (.grammar .tooDeep start), s.atDepth (s.depth + 1)) := by
  show (if nestingLimit < s.depth + 1 then _ else _ : Descending Unit).outcome _ = _
  rw [if_pos (by omega)]
  rfl

/-! ## Following a parser of lists -/

/-- A reading at a place follows a reading of the tokens ahead. If that reads something, this reads
    the same, takes the same tokens and is `back` at some level; the tokens and their end stay as
    they are. If that fails, this fails, and for the same fault if the tokens end at byte
    `finish`. -/
inductive Follows (finish : Nat) (back : Nat → Prop) (p : Descending α) (s : Descent)
    (q : Except FormulaFault (α × List Token)) : Prop where
  | ok {a : α} {taken rest : List Token} {depth : Nat} (ahead : s.ahead = taken ++ rest)
      (level : back depth)
      (inPlace : p.outcome s = some (.ok a, (s.moved taken.length).atDepth depth))
      (onList : q = .ok (a, rest))
  | error {fault fault' : FormulaFault} (stopped : Descent)
      (inPlace : p.outcome s = some (.error fault, stopped)) (onList : q = .error fault')
      (same : s.finish = finish → fault = fault')

namespace Follows

variable {finish : Nat} {back back' : Nat → Prop} {p : Descending α} {f : α → Descending β}

theorem done (a : α) (level : back s.depth) (h : s.ahead = ts) :
    Follows finish back (pure a) s (.ok (a, ts)) :=
  .ok (h.trans (List.nil_append ts).symm) level rfl rfl

theorem fails {fault fault' : FormulaFault} (same : s.finish = finish → fault = fault') :
    Follows finish back (throw fault : Descending α) s (.error fault') := .error s rfl rfl same

/-- What a reading comes to may be what another one comes to further on. -/
theorem further {p' : Descending α} {q : Except FormulaFault (α × List Token)}
    {taken rest : List Token} {depth : Nat} (ahead : s.ahead = taken ++ rest)
    (h : p'.outcome s = p.outcome ((s.moved taken.length).atDepth depth))
    (later : Follows finish back p ((s.moved taken.length).atDepth depth) q) :
    Follows finish back p' s q := by
  have there : ((s.moved taken.length).atDepth depth).ahead = rest := ahead_moved_of_append ahead
  cases later with
  | error stopped inPlace onList same => exact .error stopped (h.trans inPlace) onList same
  | @ok a taken' rest' depth' ahead' level inPlace onList =>
    have both : s.ahead = (taken ++ taken') ++ rest' := by
      rw [ahead, ← there, ahead', List.append_assoc]
    refine .ok both level ?_ onList
    rw [h, inPlace, List.length_append]
    show some (_, Descent.mk _ _ (s.position + taken.length + taken'.length) _) = _
    rw [Nat.add_assoc]
    rfl

/-- One reading after the other. -/
theorem bind {q : Except FormulaFault (α × List Token)}
    {g : α × List Token → Except FormulaFault (β × List Token)} (h : Follows finish back p s q)
    (later : ∀ a s', s'.finish = s.finish → back s'.depth → s'.ahead <:+ s.ahead →
      Follows finish back' (f a) s' (g (a, s'.ahead))) :
    Follows finish back' (p >>= f) s (q >>= g) := by
  cases h with
  | error stopped inPlace onList same =>
    refine .error stopped (outcome_bind_of_error inPlace f) ?_ same
    rw [onList]
    rfl
  | @ok a taken rest depth ahead level inPlace onList =>
    have there : ((s.moved taken.length).atDepth depth).ahead = rest :=
      ahead_moved_of_append ahead
    have goes := later a ((s.moved taken.length).atDepth depth) rfl level
      ⟨taken, by rw [there, ahead]⟩
    rw [there] at goes
    rw [onList]
    exact goes.further ahead (outcome_bind_of_ok inPlace f)

/-- What goes on after a reading without taking a token. -/
theorem andThen {f : α → Descending α} {q : Except FormulaFault (α × List Token)}
    (h : Follows finish back p s q) (later : ∀ a s', back s'.depth →
      Follows finish back' (f a) s' (.ok (a, s'.ahead))) : Follows finish back' (p >>= f) s q := by
  have both := h.bind (g := pure) fun a s' _ level _ => later a s' level
  rwa [bind_pure] at both

/-- After a fault nothing is read. -/
theorem stop {fault : FormulaFault} (h : Follows finish back p s (.error fault)) :
    Follows finish back' (p >>= f) s (.error fault) := by
  cases h with
  | ok _ _ _ onList => cases onList
  | error stopped inPlace onList same =>
    obtain rfl := Except.error.inj onList
    exact .error stopped (outcome_bind_of_error inPlace f) rfl same

/-- What looks at the tokens and takes none. -/
theorem look {a : α} {q : Except FormulaFault (β × List Token)}
    (h : p.outcome s = some (.ok a, s)) (later : Follows finish back (f a) s q) :
    Follows finish back (p >>= f) s q :=
  @further _ s finish back (f a) (p >>= f) q [] s.ahead s.depth rfl (outcome_bind_of_ok h f) later

/-- What takes the next token. -/
theorem take {a : α} {q : Except FormulaFault (β × List Token)} (ahead : s.ahead = t :: ts)
    (h : p.outcome s = some (.ok a, s.moved 1)) (later : Follows finish back (f a) (s.moved 1) q) :
    Follows finish back (p >>= f) s q :=
  @further _ s finish back (f a) (p >>= f) q [t] ts s.depth ahead (outcome_bind_of_ok h f) later

theorem here {f : Nat → Descending β} {q : Except FormulaFault (β × List Token)}
    (ahead : s.ahead = t :: ts) (later : Follows finish back (f t.start) s q) :
    Follows finish back (Descent.here >>= f) s q := look (outcome_here_cons ahead) later

theorem here_nil {f : Nat → Descending β} {q : Except FormulaFault (β × List Token)}
    (ahead : s.ahead = []) (later : Follows finish back (f s.finish) s q) :
    Follows finish back (Descent.here >>= f) s q := look (outcome_here_nil ahead) later

theorem peek {f : Option Token → Descending β} {q : Except FormulaFault (β × List Token)}
    (later : Follows finish back (f s.ahead.head?) s q) :
    Follows finish back (Descent.peek >>= f) s q := look (outcome_peek s) later

theorem nextIs_nil {kind : TokenKind} {f : Bool → Descending β}
    {q : Except FormulaFault (β × List Token)} (ahead : s.ahead = [])
    (later : Follows finish back (f false) s q) : Follows finish back (nextIs kind >>= f) s q :=
  look (outcome_nextIs_nil kind ahead) later

theorem nextIs_of {kind : TokenKind} {f : Bool → Descending β}
    {q : Except FormulaFault (β × List Token)} (ahead : s.ahead = t :: ts) (h : t.kind = kind)
    (later : Follows finish back (f true) s q) : Follows finish back (nextIs kind >>= f) s q :=
  look (outcome_nextIs_of ahead h) later

theorem nextIs_of_ne {kind : TokenKind} {f : Bool → Descending β}
    {q : Except FormulaFault (β × List Token)} (ahead : s.ahead = t :: ts) (h : t.kind ≠ kind)
    (later : Follows finish back (f false) s q) : Follows finish back (nextIs kind >>= f) s q :=
  look (outcome_nextIs_of_ne ahead h) later

theorem advance {f : Unit → Descending β} {q : Except FormulaFault (β × List Token)}
    (ahead : s.ahead = t :: ts) (later : Follows finish back (f ()) (s.moved 1) q) :
    Follows finish back (Descent.advance >>= f) s q := take ahead (outcome_advance s) later

/-- A bound that allows for one more token than there are ahead. -/
theorem fewer {bound : Nat} {f : { rest : Nat // rest < bound } → Descending β}
    {q : Except FormulaFault (β × List Token)} (room : s.ahead.length < bound)
    (later : ∀ rest h, s.ahead.length ≤ rest → Follows finish back (f ⟨rest, h⟩) s q) :
    Follows finish back (Descent.fewer bound >>= f) s q := by
  cases bound with
  | zero => exact absurd room (Nat.not_lt_zero _)
  | succ bound => exact look (outcome_fewer s) (later bound _ (Nat.le_of_lt_succ room))

/-- Coming back to a level, at the end of a reading. -/
theorem ascendTo {a : α} {depth : Nat} (level : back depth) :
    Follows finish back (do Descent.ascendTo depth; return a) s (.ok (a, s.ahead)) :=
  @ok _ finish back _ s _ a [] s.ahead depth rfl level rfl rfl

/-- Coming back from a level, at the end of a reading. -/
theorem ascend {a : α} {depth : Nat} (level : s.depth = depth + 1) :
    Follows finish (fun d => d = depth) (do Descent.ascend; return a) s (.ok (a, s.ahead)) := by
  have above : s.depth - 1 = depth := by rw [level, Nat.add_sub_cancel]
  exact @ok _ finish _ _ s _ a [] s.ahead (s.depth - 1) rfl above rfl rfl

/-- Going a level down, if there is one. -/
theorem descend {f : Unit → Descending β} {g : Level → Except FormulaFault (β × List Token)}
    {start d : Nat} (left : nestingLimit - s.depth = d)
    (later : ∀ k, d = k + 1 → nestingLimit - (s.depth + 1) = k →
      Follows finish back (f ()) (s.atDepth (s.depth + 1)) (g (Parser.level finish k))) :
    Follows finish back (Descent.descend start >>= f) s
      (Parser.descend (Parser.beneath finish d) start >>= g) := by
  cases d with
  | zero =>
    have full := outcome_descend_of_le (Nat.sub_eq_zero_iff_le.1 left) start
    exact .error _ (outcome_bind_of_error full f) rfl fun _ => rfl
  | succ k =>
    have room := outcome_descend_of_lt (s := s) (by omega) start
    exact @further _ s finish back (f ()) _ _ [] s.ahead (s.depth + 1) rfl
      (outcome_bind_of_ok room f) (later k rfl (by omega))

theorem ofExcept {x : Except FormulaFault α} {f : α → Descending β}
    {g : α → Except FormulaFault (β × List Token)}
    (later : ∀ a, Follows finish back (f a) s (g a)) :
    Follows finish back (Descent.ofExcept x >>= f) s (x >>= g) := by
  cases x with
  | error fault => exact .error s rfl rfl fun _ => rfl
  | ok a => exact later a

end Follows

end Worksheet.Descent
