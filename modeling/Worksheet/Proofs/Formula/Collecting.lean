/-
  The precedents of an expression are its cells in the order in which they first occur
  (`precedents_in_order`). The visit that collects them carries a set and a list through all
  constructors. What it adds for a part of an expression depends on the references of the part
  only, and one part after another adds what their references one after another do
  (`Collects.append`); so the visit comes to what `Expr.precedents` says about the references of
  the whole (`collect_eq`). In the list a cell stands where it occurred first: when it is added,
  all that was added before occurred earlier (`Firsts.push`).
-/
import Worksheet.Formula.Collector
import Worksheet.Proofs.Evaluation.Moving
import Worksheet.Proofs.Evaluation.Precedents
import Worksheet.Proofs.Formula.Completeness
import Worksheet.Proofs.Grid.RangeCells

namespace Worksheet

namespace Expr

/-! ## References anywhere in an expression -/

/-- The reference stands somewhere in the expression. -/
inductive Mentions : Expr → Reference → Prop where
  | cell (a : Address) : Mentions (.cell a) (.cell a)
  | range (a b : Address) : Mentions (.range a b) (.range a b)
  | left {op : BinaryOp} {left right : Expr} {r : Reference} (h : Mentions left r) :
      Mentions (.binary op left right) r
  | right {op : BinaryOp} {left right : Expr} {r : Reference} (h : Mentions right r) :
      Mentions (.binary op left right) r
  | prefixed {op : PrefixOp} {operand : Expr} {r : Reference} (h : Mentions operand r) :
      Mentions (.prefixed op operand) r
  | group {inner : Expr} {r : Reference} (h : Mentions inner r) : Mentions (.group inner) r
  | arg {function : String} {args : List Expr} {e : Expr} {r : Reference} (mem : e ∈ args)
      (h : Mentions e r) : Mentions (.call function args) r

theorem mem_argReferences {r : Reference} {es : List Expr} :
    r ∈ argReferences es ↔ ∃ e ∈ es, r ∈ e.references := by
  induction es with
  | nil => simp [argReferences]
  | cons e es ih => simp [argReferences, ih]

theorem Mentions.mem_references {e : Expr} {r : Reference} (h : e.Mentions r) :
    r ∈ e.references := by
  induction h with
  | cell a => exact List.mem_cons_self
  | range a b => exact List.mem_cons_self
  | left _ ih => exact List.mem_append_left _ ih
  | right _ ih => exact List.mem_append_right _ ih
  | prefixed _ ih => exact ih
  | group _ ih => exact ih
  | arg mem _ ih => exact mem_argReferences.2 ⟨_, mem, ih⟩

mutual

theorem mentions_of_mem_references {r : Reference} : (e : Expr) → r ∈ e.references → e.Mentions r
  | .cell a, h => by
    obtain rfl := List.mem_singleton.1 h
    exact .cell a
  | .range a b, h => by
    obtain rfl := List.mem_singleton.1 h
    exact .range a b
  | .binary op left right, h => (List.mem_append.1 h).elim
    (fun h => .left (mentions_of_mem_references left h))
    (fun h => .right (mentions_of_mem_references right h))
  | .prefixed op operand, h => .prefixed (mentions_of_mem_references operand h)
  | .group inner, h => .group (mentions_of_mem_references inner h)
  | .call function args, h => by
    obtain ⟨e, mem, mentions⟩ := mentions_of_mem_argReferences args h
    exact .arg mem mentions
  | .number _, h | .text _, h | .boolean _, h | .name _, h => nomatch h

theorem mentions_of_mem_argReferences {r : Reference} : (es : List Expr) → r ∈ argReferences es →
    ∃ e ∈ es, e.Mentions r
  | [], h => nomatch h
  | e :: es, h => by
    rcases List.mem_append.1 h with first | later
    · exact ⟨e, List.mem_cons_self, mentions_of_mem_references e first⟩
    · obtain ⟨e', mem, mentions⟩ := mentions_of_mem_argReferences es later
      exact ⟨e', List.mem_cons_of_mem e mem, mentions⟩

end

theorem mem_references {e : Expr} {r : Reference} : r ∈ e.references ↔ e.Mentions r :=
  ⟨mentions_of_mem_references e, Mentions.mem_references⟩

/-- A cell of an expression is named by one of its references or covered by one of its ranges. -/
theorem mem_cells_iff {e : Expr} {c : Cell} :
    c ∈ e.cells ↔ (∃ a, e.Mentions (.cell a) ∧ a.toCell = c) ∨
      ∃ a b, e.Mentions (.range a b) ∧ (Range.between a b).contains c = true := by
  simp only [cells, List.mem_flatMap, mem_references]
  constructor
  · rintro ⟨r, mentions, hc⟩
    cases r with
    | cell a => exact .inl ⟨a, mentions, (List.mem_singleton.1 hc).symm⟩
    | range a b => exact .inr ⟨a, b, mentions, Range.mem_cells.1 hc⟩
  · rintro (⟨a, mentions, rfl⟩ | ⟨a, b, mentions, hc⟩)
    · exact ⟨.cell a, mentions, List.mem_cons_self⟩
    · exact ⟨.range a b, mentions, Range.mem_cells.2 hc⟩

end Expr

/-! ## The visit -/

namespace Collector

/-- The collector after a further cell. -/
def noted (s : Collector) (c : Cell) : Collector :=
  if s.seen.contains c then s else ⟨s.seen.insert c, s.cells.push c⟩

/-- The collector after further cells. -/
def notedAll (s : Collector) (cs : List Cell) : Collector := cs.foldl noted s

theorem push_run (c : Cell) (s : Collector) : (push c).run s = .ok () (s.noted c) := by
  unfold push noted
  simp only [EStateM.run_bind, EStateM.run_get]
  cases s.seen.contains c with
  | true => rfl
  | false => rfl

theorem pushWalk_run (w : Range.Walk) (s : Collector) :
    (pushWalk w).run s = .ok () (s.notedAll (w.take w.remaining)) := by
  fun_induction pushWalk w generalizing s with
  | case1 w done =>
    have none : w.remaining = 0 := by
      unfold Range.Walk.step at done
      split at done
      · assumption
      · cases done
    rw [none]
    rfl
  | case2 w c rest step ih =>
    rw [← Range.Walk.remaining_step step, Range.Walk.take, step, EStateM.run_bind, push_run]
    exact ih (s.noted c)

/-- The visit of a part of an expression adds the cells of the references in the part, unless one
    of them is a range with too many cells; the first such range ends it. -/
structure Collects (limit : Nat) (m : Collecting Unit) (rs : List Reference) : Prop where
  done : rs.findSome? (Reference.oversized? limit) = none → ∀ s : Collector,
    m.run s = .ok () (s.notedAll (rs.flatMap Reference.cells))
  refused : ∀ r, rs.findSome? (Reference.oversized? limit) = some r → ∀ s : Collector,
    ∃ s', m.run s = .error (.tooManyCells r limit) s'

variable {limit : Nat}

theorem Collects.nothing : Collects limit (pure ()) [] := ⟨fun _ _ => rfl, nofun⟩

theorem Collects.append {m m' : Collecting Unit} {rs rs' : List Reference}
    (h : Collects limit m rs) (h' : Collects limit m' rs') :
    Collects limit (m >>= fun _ => m') (rs ++ rs') := by
  have first : (rs ++ rs').findSome? (Reference.oversized? limit) = _ := List.findSome?_append
  cases found : rs.findSome? (Reference.oversized? limit) with
  | some r =>
    rw [found, Option.some_or] at first
    refine ⟨fun none => ?_, fun r' some s => ?_⟩
    · rw [first] at none
      cases none
    · rw [first] at some
      cases some
      obtain ⟨s', run⟩ := h.refused r found s
      exact ⟨s', by rw [EStateM.run_bind, run]⟩
  | none =>
    rw [found, Option.none_or] at first
    refine ⟨fun none s => ?_, fun r some s => ?_⟩
    · rw [EStateM.run_bind, h.done found s]
      refine (h'.done (first.symm.trans none) _).trans ?_
      rw [List.flatMap_append, notedAll, notedAll, notedAll, List.foldl_append]
    · obtain ⟨s', run⟩ := h'.refused r (first.symm.trans some) (s.notedAll (rs.flatMap _))
      exact ⟨s', by rw [EStateM.run_bind, h.done found s]; exact run⟩

theorem collects_cell (a : Address) : Collects limit (push a.toCell) [.cell a] :=
  ⟨fun _ s => push_run a.toCell s, nofun⟩

theorem collects_range (a b : Address) :
    Collects limit (pushRange limit (Range.between a b)) [.range a b] := by
  have oversized : [Reference.range a b].findSome? (Reference.oversized? limit) =
      if limit < (Range.between a b).cellCount then some (Range.between a b) else none := by
    rw [List.findSome?_singleton]
    rfl
  unfold pushRange
  by_cases large : limit < (Range.between a b).cellCount
  · rw [if_pos large] at oversized ⊢
    refine ⟨fun none => ?_, fun r some s => ?_⟩
    · rw [oversized] at none
      cases none
    · rw [oversized] at some
      cases some
      exact ⟨s, rfl⟩
  · rw [if_neg large] at oversized ⊢
    refine ⟨fun _ s => ?_, fun r some => ?_⟩
    · rw [pushWalk_run, List.flatMap_singleton]
      exact congrArg (fun cs => EStateM.Result.ok () (s.notedAll cs))
        (Range.take_walk (Range.between a b))
    · rw [oversized] at some
      cases some

mutual

theorem collects_visit : (e : Expr) → Collects limit (visit limit e) e.references
  | .cell a => collects_cell a
  | .range a b => collects_range a b
  | .binary _ left right => (collects_visit left).append (collects_visit right)
  | .prefixed _ operand => collects_visit operand
  | .group inner => collects_visit inner
  | .call _ args => collects_visitArgs args
  | .number _ | .text _ | .boolean _ | .name _ => .nothing

theorem collects_visitArgs : (es : List Expr) →
    Collects limit (visitArgs limit es) (Expr.argReferences es)
  | [] => .nothing
  | e :: es => (collects_visit e).append (collects_visitArgs es)

end

theorem toList_notedAll (seen : CellSet) (found cs : List Cell) :
    (notedAll ⟨seen, found.reverse.toArray⟩ cs).cells.toList = distinctOnto seen found cs := by
  induction cs generalizing seen found with
  | nil => rfl
  | cons c cs ih =>
    unfold distinctOnto
    show (notedAll (noted _ c) cs).cells.toList = _
    unfold noted
    split
    · exact ih seen found
    · rw [← ih (seen.insert c) (c :: found), List.reverse_cons, ← List.push_toArray]

/-- The visit collects the precedents. -/
theorem collect_eq (limit : Nat) (e : Expr) : collect limit e = e.precedents limit := by
  have visited : Collects limit (visit limit e) e.references := collects_visit e
  unfold collect Expr.precedents
  cases found : e.references.findSome? (Reference.oversized? limit) with
  | some r =>
    obtain ⟨s', run⟩ := visited.refused r found empty
    rw [run]
  | none =>
    rw [visited.done found empty]
    exact congrArg Except.ok (toList_notedAll ∅ [] _)

end Collector

/-! ## First occurrences -/

/-- The cells found in the part of a list that has been gone through, the last one found on top.
    A cell on top of another one occurs in the list later. -/
structure Firsts (whole before found : List Cell) : Prop where
  mem : ∀ c, c ∈ found ↔ c ∈ before
  sorted : found.Pairwise fun d c => whole.idxOf c < whole.idxOf d

theorem Firsts.nothing (whole : List Cell) : Firsts whole [] [] := ⟨fun _ => .rfl, .nil⟩

theorem Firsts.skip {whole before found : List Cell} (h : Firsts whole before found) {c : Cell}
    (old : c ∈ found) : Firsts whole (before ++ [c]) found := by
  refine ⟨fun d => ?_, h.sorted⟩
  rw [List.mem_append, List.mem_singleton, ← h.mem]
  exact ⟨.inl, fun hd => hd.elim id fun eq => eq ▸ old⟩

/-- A cell that is not found yet occurs here for the first time, and those found occur before. -/
theorem Firsts.push {before found later : List Cell} {c : Cell}
    (h : Firsts (before ++ c :: later) before found) (new : c ∉ found) :
    Firsts (before ++ c :: later) (before ++ [c]) (c :: found) := by
  refine ⟨fun d => ?_, List.pairwise_cons.2 ⟨fun d hd => ?_, h.sorted⟩⟩
  · rw [List.mem_cons, List.mem_append, List.mem_singleton, h.mem, or_comm]
  · have earlier : d ∈ before := (h.mem d).1 hd
    have first : c ∉ before := fun hc => new ((h.mem c).2 hc)
    rw [List.idxOf_append_of_mem earlier, List.idxOf_append_of_notMem first, List.idxOf_cons_self]
    exact List.idxOf_lt_length_of_mem earlier

theorem Firsts.distinctOnto_sorted {whole before found cs : List Cell} {seen : CellSet}
    (h : Firsts whole before found) (split : whole = before ++ cs)
    (same : ∀ c, c ∈ seen ↔ c ∈ found) :
    (distinctOnto seen found cs).Pairwise fun c d => whole.idxOf c < whole.idxOf d := by
  induction cs generalizing before found seen with
  | nil => exact List.pairwise_reverse.2 h.sorted
  | cons c cs ih =>
    have split' : whole = (before ++ [c]) ++ cs := by rw [split, List.append_assoc]; rfl
    unfold distinctOnto
    split
    · next old =>
      have old : c ∈ found := (same c).1 (Std.ExtTreeSet.contains_iff_mem.1 old)
      exact ih (h.skip old) split' same
    · next new =>
      have new : c ∉ found := fun hc => new (Std.ExtTreeSet.contains_iff_mem.2 ((same c).2 hc))
      subst split
      refine ih (h.push new) split' fun d => ?_
      rw [CellSet.mem_insert_iff, List.mem_cons, same d]

/-- The cells of a list without repetitions stand in the order in which they first occur in it. -/
theorem distinct_sorted (cs : List Cell) :
    (distinct cs).Pairwise fun c d => cs.idxOf c < cs.idxOf d :=
  (Firsts.nothing cs).distinctOnto_sorted rfl fun c => by simp

namespace Expr

variable {limit : Nat} {e : Expr}

/-- An expression is refused for one of its ranges that has too many cells. -/
theorem precedents_eq_error {fault : FormulaFault} (h : e.precedents limit = .error fault) :
    ∃ a b, e.Mentions (.range a b) ∧ limit < (Range.between a b).cellCount ∧
      fault = .tooManyCells (Range.between a b) limit := by
  unfold precedents at h
  split at h
  · next r found =>
    obtain ⟨reference, mem, oversized⟩ := List.exists_of_findSome?_eq_some found
    cases reference with
    | cell a => cases oversized
    | range a b =>
      obtain ⟨large, same⟩ := Option.ite_none_right_eq_some.1 oversized
      cases same
      cases h
      exact ⟨a, b, mem_references.1 mem, large, rfl⟩
  · cases h

theorem cellCount_le_of_precedents_eq_ok {reads : List Cell} (h : e.precedents limit = .ok reads)
    {a b : Address} (mentions : e.Mentions (.range a b)) :
    (Range.between a b).cellCount ≤ limit := by
  unfold precedents at h
  split at h
  · cases h
  · next none =>
    have small := List.findSome?_eq_none_iff.1 none _ (mem_references.2 mentions)
    exact Nat.not_lt.1 fun large => nomatch (if_pos large).symm.trans small

/-- The references of an expression stand in the order in which its text has them. -/
theorem corners_of_parseTokens {ts : List Token} (h : parseTokens ts = .ok e) :
    readReferences ts = (e.references.flatMap Reference.corners).map .ok := by
  rw [corners_references]
  exact (parseTokens_sound h).1.addresses_eq

/-- The precedents of an expression, whether they are collected in one visit or from the list of
    its references. There are none, but a fault, if and only if a range anywhere in it has more
    cells than the limit. Else they are the cells that a reference names or a range covers, each
    once and in the order in which they first occur when the references are read from left to
    right, as the tokens of the text have them, and ranges column by column. -/
theorem precedents_in_order (limit : Nat) (e : Expr) :
    Collector.collect limit e = e.precedents limit ∧
      ((∃ fault, e.precedents limit = .error fault) ↔
        ∃ a b, e.Mentions (.range a b) ∧ limit < (Range.between a b).cells.length) ∧
      (∀ fault, e.precedents limit = .error fault → ∃ a b, e.Mentions (.range a b) ∧
        limit < (Range.between a b).cells.length ∧
        fault = .tooManyCells (Range.between a b) limit) ∧
      (∀ reads, e.precedents limit = .ok reads → reads.Nodup ∧
        (∀ c, c ∈ reads ↔ (∃ a, e.Mentions (.cell a) ∧ a.toCell = c) ∨
          ∃ a b, e.Mentions (.range a b) ∧ (Range.between a b).contains c = true) ∧
        reads.Pairwise fun c d => e.cells.idxOf c < e.cells.idxOf d) ∧
      (∀ ts, parseTokens ts = .ok e →
        readReferences ts = (e.references.flatMap Reference.corners).map .ok) ∧
      ∀ a b, (Range.between a b).cells.Pairwise Range.Before := by
  have refused : ∀ fault, e.precedents limit = .error fault → ∃ a b, e.Mentions (.range a b) ∧
      limit < (Range.between a b).cells.length ∧
      fault = .tooManyCells (Range.between a b) limit := by
    intro fault h
    simp only [Range.length_cells]
    exact precedents_eq_error h
  refine ⟨Collector.collect_eq limit e, ⟨?_, ?_⟩, refused, fun reads h => ?_,
    fun _ => corners_of_parseTokens, fun a b => Range.cells_sorted (Range.between a b)⟩
  · rintro ⟨fault, h⟩
    obtain ⟨a, b, mentions, large, -⟩ := refused fault h
    exact ⟨a, b, mentions, large⟩
  · rintro ⟨a, b, mentions, large⟩
    rw [Range.length_cells] at large
    cases h : e.precedents limit with
    | error fault => exact ⟨fault, rfl⟩
    | ok reads => exact absurd (cellCount_le_of_precedents_eq_ok h mentions) (Nat.not_le.2 large)
  · have sorted : reads.Pairwise fun c d => e.cells.idxOf c < e.cells.idxOf d := by
      unfold precedents at h
      split at h
      · cases h
      · rw [← Except.ok.inj h]
        exact distinct_sorted e.cells
    refine ⟨sorted.imp fun lt eq => ?_, fun c => ?_, sorted⟩
    · rw [eq] at lt
      exact Nat.lt_irrefl _ lt
    · rw [mem_of_precedents_eq_ok h, mem_cells_iff]

/-- `SUM(B2:A1,A2:A3)-A1`: the ranges overlap, and the corners of one are written backwards. -/
def overlapping : Expr :=
  .binary .subtract
    (.call "SUM" [.range (Cell.address ⟨1, 1⟩) (Cell.address ⟨0, 0⟩),
      .range (Cell.address ⟨1, 0⟩) (Cell.address ⟨2, 0⟩)])
    (.cell (Cell.address ⟨0, 0⟩))

example : overlapping.precedents 4 = .ok [⟨0, 0⟩, ⟨1, 0⟩, ⟨0, 1⟩, ⟨1, 1⟩, ⟨2, 0⟩] ∧
    (overlapping.precedents 3).toOption = none := by decide +kernel

end Expr

end Worksheet
