/-
  Cycles: the search for a path by which a cell would read itself. The search goes depth
  first from the proposed precedents along the existing edges. A cell is visited once, when
  it is first met, and remembers the trail by which it was met.
-/
import Worksheet.Dependency.Graph

namespace Worksheet

/-- A cell that was met: the trail that led to it, from the cell back to the start of the
    search, and the cells it reads. -/
structure Trail where
  cells : List Cell
  reads : CellSet

/-- An order in which the cells that are read at the end of a trail are met. It may be
    another one for every trail. -/
structure Listing where
  list : Trail → List Cell
  perm : ∀ t, (list t).Perm t.reads.toList

/-- The ascending order. -/
def Listing.ascending : Listing := ⟨fun t => t.reads.toList, fun _ => .refl _⟩

/-- The state of a search: the cells not yet met that read others, and the trails that are
    still to be followed, the next one first. -/
structure Search where
  fresh : CellMap CellSet
  trails : List Trail

/-- How a search from one cell ends: with the trail to a cell that reads the goal, or with
    the cells that it did not meet. -/
inductive Verdict where
  | found (trail : List Cell)
  | exhausted (fresh : CellMap CellSet)

namespace Search

/-- Meets a cell at the end of a trail. A cell that reads nothing leads nowhere, and one met
    before is on another trail. -/
def meet (trail : List Cell) (s : Search) (c : Cell) : Search :=
  match s.fresh[c]? with
  | none => s
  | some reads => { fresh := s.fresh.erase c, trails := ⟨c :: trail, reads⟩ :: s.trails }

/-- What is left of a search: meeting a cell moves it from one part to the other. -/
def remaining (s : Search) : Nat := s.fresh.size + s.trails.length

theorem size_erase_add_one {α : Type} {m : CellMap α} {c : Cell} {v : α} (h : m[c]? = some v) :
    (m.erase c).size + 1 = m.size := by
  have hc : c ∈ m := by grind
  have hs : m.size ≠ 0 := fun h0 =>
    Std.ExtTreeMap.ne_empty_of_mem hc (Std.ExtTreeMap.eq_empty_iff_size_eq_zero.2 h0)
  grind

theorem remaining_meet (trail : List Cell) (s : Search) (c : Cell) :
    (s.meet trail c).remaining = s.remaining := by
  unfold meet
  split
  · rfl
  · next h =>
    have := size_erase_add_one h
    simp only [remaining, List.length_cons]
    omega

theorem remaining_foldl_meet (trail cs : List Cell) (s : Search) :
    (cs.foldl (meet trail) s).remaining = s.remaining := by
  induction cs generalizing s with
  | nil => rfl
  | cons c cs ih => rw [List.foldl_cons, ih, remaining_meet]

/-- Meets the cells on from a trail, in the order of `listing`. -/
def follow (listing : Listing) (t : Trail) (s : Search) : Search :=
  (listing.list t).foldl (meet t.cells) s

/-- Follows trails until one ends at a cell that reads the goal. Of the cells on from a
    trail, the last one met is followed first. -/
def run (listing : Listing) (goal : Cell) (s : Search) : Verdict :=
  match _h : s.trails with
  | [] => .exhausted s.fresh
  | t :: rest =>
    if t.reads.contains goal then .found t.cells
    else run listing goal (follow listing t { s with trails := rest })
termination_by s.remaining
decreasing_by
  rw [follow, remaining_foldl_meet]
  simp only [remaining, _h, List.length_cons]
  omega

/-- Searches from one cell after another. -/
def fromStarts (listing : Listing) (goal : Cell) :
    CellMap CellSet → List Cell → Option (List Cell)
  | _, [] => none
  | fresh, start :: starts =>
    match run listing goal (meet [] ⟨fresh, []⟩ start) with
    | .found trail => some trail
    | .exhausted fresh => fromStarts listing goal fresh starts

end Search

namespace Graph

/-- The path by which a cell would read itself if it read the proposed cells: the cell, a
    proposed cell, and from there along the edges back to the cell. Which path is found
    when there are several depends on the listing. -/
def circularPathBy? (listing : Listing) (g : Graph) (c : Cell) (proposed : List Cell) :
    Option (List Cell) :=
  if c ∈ proposed then some [c, c]
  else (Search.fromStarts listing c g.precedents proposed).map fun trail =>
    c :: trail.reverse ++ [c]

/-- The path by which a cell would read itself, with cells met in ascending order. -/
def circularPath? (g : Graph) (c : Cell) (proposed : List Cell) : Option (List Cell) :=
  g.circularPathBy? .ascending c proposed

end Graph

end Worksheet
