/-
  How tall expressions get. The parser counts levels of nesting and allows `nestingLimit` of them,
  which bounds the height of what it reads (`parseTokens_height_le`). The bound is not the number
  of levels and one more, though. The operators of a chain are counted from its first operand to
  its last, but the chain is a tree that leans to the left, where the first operand stands deepest;
  and the levels of a chain are given back before a looser chain goes on after it. So an expression
  can be as tall as all its chains together (`exists_height_eq_heightBound`). The levels are those
  of the tree where what stands left of an operator is tall because of its own chain only
  (`Expr.height_le_of_chainsCharged`).
-/
import Worksheet.Proofs.Formula.Completeness

namespace Worksheet

namespace Expr

/-! ## Height -/

mutual

/-- The nodes on the longest way down through an expression. -/
def height : Expr → Nat
  | .binary _ left right => max left.height right.height + 1
  | .prefixed _ operand => operand.height + 1
  | .group inner => inner.height + 1
  | .call _ args => argsHeight args + 1
  | .number _ | .text _ | .boolean _ | .cell _ | .range _ _ | .name _ => 1

/-- The nodes on the longest way down through arguments. -/
def argsHeight : List Expr → Nat
  | [] => 0
  | e :: es => max e.height (argsHeight es)

end

theorem chainLength_binary (op : BinaryOp) (left right : Expr) :
    (binary op left right).chainLength op.looseness = left.chainLength op.looseness + 1 :=
  if_pos rfl

/-- The operators of a chain all take a level. -/
theorem chainLength_le_nesting (n : Nat) (e : Expr) : e.chainLength n ≤ e.nesting := by
  cases e with
  | binary op left right =>
    rw [chainLength, nesting]
    split
    · next same =>
      rw [← same]
      omega
    · exact Nat.zero_le _
  | _ => exact Nat.zero_le _

theorem nesting_left_le (op : BinaryOp) (left right : Expr) :
    left.nesting ≤ (binary op left right).nesting := Nat.le_max_left _ _

theorem nesting_right_le (op : BinaryOp) (left right : Expr) :
    right.nesting ≤ (binary op left right).nesting :=
  Nat.le_trans (Nat.le_add_left _ _) (Nat.le_max_right _ _)

/-! ## Chains that are charged for all of their height -/

mutual

/-- In all chains of the expression, what stands left of an operator is no taller than the
    operators make it that the chain has had so far. -/
def ChainsCharged : Expr → Prop
  | .binary op left right =>
    left.height ≤ left.chainLength op.looseness + 1 ∧ right.ChainsCharged
  | .prefixed _ operand => operand.ChainsCharged
  | .group inner => inner.ChainsCharged
  | .call _ args => ArgsChainsCharged args
  | .number _ | .text _ | .boolean _ | .cell _ | .range _ _ | .name _ => True

/-- The same for all chains of the arguments. -/
def ArgsChainsCharged : List Expr → Prop
  | [] => True
  | e :: es => e.ChainsCharged ∧ ArgsChainsCharged es

end

mutual

/-- Where chains are charged for all of their height, every level of the tree has been counted. -/
theorem height_le_of_chainsCharged : (e : Expr) → e.ChainsCharged → e.height ≤ e.nesting + 1
  | .binary op left right, ⟨chargedLeft, chargedRight⟩ => by
    have tall := height_le_of_chainsCharged right chargedRight
    simp only [height, nesting]
    omega
  | .prefixed _ operand, charged => by
    have tall := height_le_of_chainsCharged operand charged
    simp only [height, nesting]
    omega
  | .group inner, charged => by
    have tall := height_le_of_chainsCharged inner charged
    simp only [height, nesting]
    omega
  | .call _ args, charged => by
    have tall := argsHeight_le_of_argsChainsCharged args charged
    simp only [height, nesting]
    omega
  | .number _, _ | .text _, _ | .boolean _, _ | .cell _, _ | .range _ _, _ | .name _, _ =>
    Nat.le_refl 1

theorem argsHeight_le_of_argsChainsCharged : (es : List Expr) → ArgsChainsCharged es →
    argsHeight es ≤ argsNesting es + 1
  | [], _ => Nat.zero_le _
  | e :: es, ⟨charged, chargedLater⟩ => by
    have first := height_le_of_chainsCharged e charged
    have later := argsHeight_le_of_argsChainsCharged es chargedLater
    simp only [argsHeight, argsNesting]
    omega

end

end Expr

/-! ## The tallest expressions -/

/-- The height of the tallest operand of looseness 0 that takes so many levels. With one more
    level it is put between parentheses, after a chain of each looseness. -/
def tightestHeight : (levels : Nat) → Nat
  | 0 => 1
  | d + 1 => tightestHeight d + loosest * d + 1

/-- The height of the tallest operand of the given looseness: up to it, there is one chain of each
    looseness, and each of them may use up the levels anew. -/
def heightBound (n levels : Nat) : Nat := tightestHeight levels + n * levels

example : heightBound loosest nestingLimit = 164737 := by decide +kernel

theorem heightBound_zero_succ (d : Nat) : heightBound 0 (d + 1) = heightBound loosest d + 1 := by
  simp [heightBound, tightestHeight]

theorem heightBound_succ (n d : Nat) : heightBound (n + 1) d = heightBound n d + d := by
  rw [heightBound, heightBound, Nat.succ_mul, Nat.add_assoc]

theorem tightestHeight_mono {c d : Nat} (h : c ≤ d) : tightestHeight c ≤ tightestHeight d := by
  induction h with
  | refl => exact Nat.le_refl _
  | step _ ih =>
    rw [tightestHeight]
    omega

theorem heightBound_mono {m n c d : Nat} (hn : m ≤ n) (hd : c ≤ d) :
    heightBound m c ≤ heightBound n d :=
  Nat.add_le_add (tightestHeight_mono hd) (Nat.mul_le_mul hn hd)

theorem heightBound_pos (n d : Nat) : 1 ≤ heightBound n d :=
  Nat.le_trans (tightestHeight_mono (Nat.zero_le d)) (Nat.le_add_right _ _)

/-- A chain is no longer than the levels it takes. -/
theorem Derives.heightBound_le {n : Nat} {ts : List Token} {e : Expr} (h : Derives n ts e) :
    heightBound (n - 1) e.nesting + e.chainLength (n - 1) ≤ heightBound n e.nesting := by
  cases n with
  | zero => rw [h.chainLength_eq_zero]; exact Nat.le_refl _
  | succ n =>
    rw [heightBound_succ]
    exact Nat.add_le_add_left (Expr.chainLength_le_nesting n e) _

mutual

/-- The height of an operand that is, or may begin, a chain of looseness `n - 1`: what the first
    operand of the chain may have, and one more for each operator. -/
theorem Derives.height_le {n : Nat} {ts : List Token} {e : Expr} :
    Derives n ts e → e.height ≤ heightBound (n - 1) e.nesting + e.chainLength (n - 1)
  | .number _ _ | .text _ | .boolean _ | .cell _ _ | .range _ _ _ _ _ | .name _ =>
    heightBound_pos 0 0
  | .constant _ _ _ => heightBound_pos 0 1
  | @Derives.call _ _ _ _ args _ _ inner _ => by
    have tall := inner.argsHeight_le
    show Expr.argsHeight args + 1 ≤ heightBound 0 (Expr.argsNesting args + 1)
    rw [heightBound_zero_succ]
    omega
  | @Derives.group _ _ _ e _ inner _ => by
    have tall := Nat.le_trans inner.height_le inner.heightBound_le
    show e.height + 1 ≤ heightBound 0 (e.nesting + 1)
    rw [heightBound_zero_succ]
    omega
  | @Derives.prefixed _ _ _ e _ _ operand => by
    have tall := Nat.le_trans operand.height_le operand.heightBound_le
    have looser := heightBound_mono (Nat.zero_le loosest) (Nat.le_refl e.nesting)
    show e.height + 1 ≤ heightBound 0 (e.nesting + 1)
    rw [heightBound_zero_succ]
    omega
  | .tighter operand =>
    Nat.le_trans (Nat.le_trans operand.height_le operand.heightBound_le) (Nat.le_add_right _ _)
  | @Derives.binary _ _ _ op l r left _ _ right => by
    have tallLeft := left.height_le
    have tallRight := Nat.le_trans right.height_le right.heightBound_le
    rw [Nat.add_sub_cancel] at tallLeft ⊢
    have boundLeft := heightBound_mono (Nat.le_refl op.looseness) (Expr.nesting_left_le op l r)
    have boundRight := heightBound_mono (Nat.le_refl op.looseness) (Expr.nesting_right_le op l r)
    rw [Expr.chainLength_binary, Expr.height]
    omega

theorem DerivesArgs.argsHeight_le {ts : List Token} {es : List Expr} :
    DerivesArgs ts es → Expr.argsHeight es ≤ heightBound loosest (Expr.argsNesting es)
  | @DerivesArgs.last _ e arg => by
    have tall := Nat.le_trans arg.height_le arg.heightBound_le
    simpa [Expr.argsHeight, Expr.argsNesting] using tall
  | @DerivesArgs.more _ _ _ e es arg _ args => by
    have first := Nat.le_trans arg.height_le arg.heightBound_le
    have later := args.argsHeight_le
    have boundFirst := heightBound_mono (Nat.le_refl loosest)
      (Nat.le_max_left e.nesting (Expr.argsNesting es))
    have boundLater := heightBound_mono (Nat.le_refl loosest)
      (Nat.le_max_right e.nesting (Expr.argsNesting es))
    simp only [Expr.argsHeight, Expr.argsNesting]
    omega

end

/-! ## How tall the parser lets expressions get -/

/-- What the parser reads is no taller than `heightBound`, and where chains are charged for all of
    their height, it has at most one node more on a way down than there are levels. -/
theorem parseTokens_height_le {ts : List Token} {e : Expr} (h : parseTokens ts = .ok e) :
    e.height ≤ heightBound loosest nestingLimit ∧
      (e.ChainsCharged → e.height ≤ nestingLimit + 1) := by
  obtain ⟨derived, -, fits⟩ := parseTokens_eq_ok_iff.1 h
  constructor
  · calc e.height ≤ heightBound loosest e.nesting :=
          Nat.le_trans derived.height_le derived.heightBound_le
      _ ≤ heightBound loosest nestingLimit := heightBound_mono (Nat.le_refl loosest) fits
  · intro charged
    exact Nat.le_trans (Expr.height_le_of_chainsCharged e charged) (Nat.succ_le_succ fits)

/-- The powers `2^3^2` are one chain. -/
theorem parseTokens_height_le_tower :
    ∃ e, parseTokens towerTokens = .ok e ∧ e.ChainsCharged ∧
      e.height ≤ heightBound loosest nestingLimit ∧ e.height ≤ nestingLimit + 1 := by
  have finite : ∀ x ∈ ([2, 3, 2] : List Float), x.isFinite = true := by decide
  have parsed := parseTokens_eq_ok_iff.2 ⟨derives_tower, finite, by decide⟩
  have charged : (Expr.binary .power (.binary .power (.number 2) (.number 3))
      (.number 2)).ChainsCharged := ⟨by decide, trivial⟩
  obtain ⟨bounded, counted⟩ := parseTokens_height_le parsed
  exact ⟨_, parsed, charged, bounded, counted charged⟩

/-- A product before a sum of as many operators as there are levels. -/
def tallBody : List Char := "1*1".toList ++ (List.replicate nestingLimit "+1".toList).flatten

/-- The level of the product is given back before the sum goes on after it, so the tree gets
    taller than the levels allow. -/
theorem exists_taller_than_levels :
    ∃ ts e, tokenize tallBody = .ok ts ∧ parseTokens ts = .ok e ∧
      e.height = nestingLimit + 2 := by
  have tall : (parseBody tallBody).toOption.map Expr.height = some (nestingLimit + 2) := by
    decide +kernel
  cases parsed : parseBody tallBody with
  | error fault =>
    rw [parsed] at tall
    cases tall
  | ok e =>
    rw [parsed] at tall
    obtain ⟨ts, tokens, read⟩ := bind_eq_ok.1 parsed
    exact ⟨ts, e, tokens, read, Option.some.inj tall⟩

/-! ## The bound is reached -/

theorem BinaryOp.exists_looseness {n : Nat} (h : n < loosest) :
    ∃ op : BinaryOp, op.looseness = n := by
  match n, h with
  | 0, _ => exact ⟨.power, rfl⟩
  | 1, _ => exact ⟨.multiply, rfl⟩
  | 2, _ => exact ⟨.add, rfl⟩
  | 3, _ => exact ⟨.join, rfl⟩
  | 4, _ => exact ⟨.equal, rfl⟩
  | n + 5, h => exact absurd h (Nat.not_lt.2 (Nat.le_add_left 5 n))

/-- A tight operand is one of every looseness. -/
theorem Derives.loosen {ts : List Token} {e : Expr} (h : Derives 0 ts e) (n : Nat) :
    Derives n ts e := by
  induction n with
  | zero => exact h
  | succ n ih => exact ih.tighter

theorem Expr.height_pos (e : Expr) : 1 ≤ e.height := by
  cases e <;> simp [Expr.height]

/-- After an operand that may take all the levels, a chain of looser operators takes them again. -/
theorem Derives.exists_chain {n d : Nat} {ts : List Token} {e : Expr} (h : Derives n ts e)
    (finite : e.Finite) (fits : e.nesting ≤ d) (hn : n < loosest) {k : Nat} (hk : k ≤ d) :
    ∃ us chained, Derives (n + 1) us chained ∧ chained.Finite ∧ chained.nesting ≤ d ∧
      chained.chainLength n = k ∧ chained.height = e.height + k := by
  induction k with
  | zero => exact ⟨ts, e, h.tighter, finite, fits, h.chainLength_eq_zero, rfl⟩
  | succ k ih =>
    obtain ⟨us, chained, derived, finite', fits', length, tall⟩ := ih (Nat.le_of_succ_le hk)
    obtain ⟨op, rfl⟩ := BinaryOp.exists_looseness hn
    have operand : Derives op.looseness [⟨.text, "", 0, 2⟩] (.text "") :=
      (Derives.text (t := ⟨.text, "", 0, 2⟩) rfl).loosen _
    refine ⟨_, .binary op chained (.text ""),
      .binary (t := ⟨.operator, op.symbol, 0, 1⟩) derived rfl rfl operand, ?_, ?_, ?_, ?_⟩
    · exact Expr.finite_binary.2 ⟨finite', nofun⟩
    · rw [Expr.nesting, length]
      exact Nat.max_le.2 ⟨fits', hk⟩
    · rw [Expr.chainLength_binary, length]
    · have pos := chained.height_pos
      simp only [Expr.height, tall] at pos ⊢
      omega

/-- Some operand of looseness `n` that takes no more than `d` levels is as tall as the bound
    allows. -/
def Reached (n d : Nat) : Prop :=
  ∃ ts e, Derives n ts e ∧ e.Finite ∧ e.nesting ≤ d ∧ e.height = heightBound n d

theorem Reached.looser {n d : Nat} (h : Reached n d) (hn : n < loosest) : Reached (n + 1) d := by
  obtain ⟨ts, e, derived, finite, fits, tall⟩ := h
  obtain ⟨us, chained, derived', finite', fits', -, tall'⟩ :=
    derived.exists_chain finite fits hn (Nat.le_refl d)
  refine ⟨us, chained, derived', finite', fits', ?_⟩
  rw [tall', tall, heightBound_succ]

theorem Reached.group {d : Nat} (h : Reached loosest d) : Reached 0 (d + 1) := by
  obtain ⟨ts, e, derived, finite, fits, tall⟩ := h
  refine ⟨_, .group e, .group (l := ⟨.leftParen, "(", 0, 1⟩) (r := ⟨.rightParen, ")", 0, 1⟩) rfl
    derived rfl, finite, Nat.succ_le_succ fits, ?_⟩
  rw [Expr.height, tall, heightBound_zero_succ]

theorem reached (d : Nat) {n : Nat} (hn : n ≤ loosest) : Reached n d := by
  have upTo {d : Nat} (tightest : Reached 0 d) {n : Nat} (hn : n ≤ loosest) : Reached n d := by
    induction n with
    | zero => exact tightest
    | succ n ih => exact (ih (Nat.le_of_succ_le hn)).looser hn
  induction d generalizing n with
  | zero =>
    exact upTo ⟨_, _, .text (t := ⟨.text, "", 0, 2⟩) rfl, nofun, Nat.le_refl 0, rfl⟩ hn
  | succ d ih => exact upTo (ih (Nat.le_refl loosest)).group hn

/-- No smaller bound holds of all that the parser reads. -/
theorem exists_height_eq_heightBound :
    ∃ ts e, parseTokens ts = .ok e ∧ e.height = heightBound loosest nestingLimit := by
  obtain ⟨ts, e, derived, finite, fits, tall⟩ := reached nestingLimit (Nat.le_refl loosest)
  exact ⟨ts, e, parseTokens_eq_ok_iff.2 ⟨derived, finite, fits⟩, tall⟩

end Worksheet
