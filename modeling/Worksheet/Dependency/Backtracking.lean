/-
  The search for a circular path with one memory for all of it: the cells that were visited, and for
  each of them the cell it was met from. There are no trails; the way to a cell is read back from
  cell to cell once the goal is in sight. What is still to be looked at waits on a stack.
-/
import Worksheet.Dependency.Cycle

namespace Worksheet

/-- What a search remembers. -/
structure Tracks where
  visited : CellSet
  /-- The cell that a cell was met from. The start of a search was met from no cell. -/
  parent : CellMap Cell
  /-- The cells that are still to be looked at, the next one first. -/
  stack : List Cell

/-- Reads and writes the tracks of a search, and may end with the way to a cell that reads the
    goal. -/
abbrev Tracking := EStateM (List Cell) Tracks

/-- The cells that some cell reads. -/
def Graph.readCells (g : Graph) : List Cell := g.precedents.toList.flatMap fun e => e.2.toList

namespace Tracks

/-- The way back from a cell to the start of the search. Entries are left behind on the way. -/
def wayBack (parent : CellMap Cell) (c : Cell) : List Cell :=
  match _h : parent[c]? with
  | none => [c]
  | some p => c :: wayBack (parent.erase c) p
termination_by parent.size
decreasing_by
  have := Search.size_erase_add_one _h
  omega

/-! ## One cell -/

/-- Visits a cell that is read by the current one, unless it was visited before. -/
def visit (current next : Cell) : Tracking Unit := do
  if !(← get).visited.contains next then
    modify fun s => { s with visited := s.visited.insert next }
    modify fun s => { s with parent := s.parent.insert next current }
    modify fun s => { s with stack := next :: s.stack }

/-- Looks at the cells that the current one reads, one after another. The goal ends the search. -/
def look (goal current : Cell) : List Cell → Tracking Unit
  | [] => return
  | next :: rest => do
    if next = goal then throw (wayBack (← get).parent current)
    else
      visit current next
      look goal current rest

/-! ## Termination -/

/-- The cells that can still be visited, and those that wait. -/
def work (g : Graph) (s : Tracks) : Nat :=
  (g.readCells.filter fun c => !s.visited.contains c).length + s.stack.length

/-- The tracks after a cell is met for the first time. -/
def enter (current next : Cell) (s : Tracks) : Tracks where
  visited := s.visited.insert next
  parent := s.parent.insert next current
  stack := next :: s.stack

/-- The tracks after a cell is met. -/
def meet (current next : Cell) (s : Tracks) : Tracks :=
  if s.visited.contains next then s else s.enter current next

theorem visit_run (current next : Cell) (s : Tracks) :
    (visit current next).run s = .ok () (s.meet current next) := by
  unfold visit meet
  rw [EStateM.run_bind, EStateM.run_get]
  cases seen : s.visited.contains next with
  | true => simp only [seen]; rfl
  | false => simp only [seen]; rfl

theorem look_run_cons (goal current next : Cell) (rest : List Cell) (s : Tracks) :
    (look goal current (next :: rest)).run s =
      if next = goal then .error (wayBack s.parent current) s
      else (look goal current rest).run (s.meet current next) := by
  rw [look]
  split
  · rfl
  · rw [EStateM.run_bind, visit_run]

theorem mem_readCells {g : Graph} {c d : Cell} {reads : CellSet}
    (h : g.precedents[c]? = some reads) (mem : d ∈ reads) : d ∈ g.readCells :=
  List.mem_flatMap.2 ⟨(c, reads), Std.ExtTreeMap.mem_toList_iff_getElem?_eq_some.2 h,
    Std.ExtTreeSet.mem_toList.2 mem⟩

/-- A cell that is visited now is one less to visit. -/
theorem length_filter_insert {cells : List Cell} {visited : CellSet} {c : Cell} (mem : c ∈ cells)
    (new : visited.contains c = false) :
    (cells.filter fun d => !(visited.insert c).contains d).length <
      (cells.filter fun d => !visited.contains d).length := by
  have both : (cells.filter fun d => !(visited.insert c).contains d) =
      (cells.filter fun d => !visited.contains d).filter fun d => d != c := by
    rw [List.filter_filter]
    refine List.filter_congr fun d _ => ?_
    grind
  rw [both, List.length_filter_lt_length_iff_exists]
  exact ⟨c, List.mem_filter.2 ⟨mem, by rw [new]; rfl⟩, by simp⟩

/-- Whatever is visited was work before. -/
theorem work_look {g : Graph} {goal current : Cell} {cells : List Cell} {s s' : Tracks}
    (known : ∀ c ∈ cells, c ∈ g.readCells)
    (h : (look goal current cells).run s = .ok () s') : s'.work g ≤ s.work g := by
  induction cells generalizing s with
  | nil =>
    cases h
    exact Nat.le_refl _
  | cons next rest ih =>
    rw [look_run_cons] at h
    split at h
    · cases h
    · have later := ih (fun c hc => known c (List.mem_cons_of_mem _ hc)) h
      refine Nat.le_trans later ?_
      unfold meet
      cases seen : s.visited.contains next with
      | true => exact Nat.le_refl _
      | false =>
        have fewer := length_filter_insert (known next List.mem_cons_self) seen
        simp only [work, enter, Bool.false_eq_true, if_false, List.length_cons]
        omega

/-! ## The search -/

/-- Looks at the cells that wait until none does. -/
def walk (g : Graph) (listing : Listing) (goal : Cell) (s : Tracks) : Except (List Cell) Tracks :=
  match _hs : s.stack with
  | [] => .ok s
  | current :: stack =>
    match _hr : g.precedents[current]? with
    | none => walk g listing goal { s with stack }
    | some reads =>
      let cells := listing.list ⟨wayBack s.parent current, reads⟩
      match _hl : (look goal current cells).run { s with stack } with
      | .error way _ => .error way
      | .ok () s' => walk g listing goal s'
termination_by s.work g
decreasing_by
  · simp only [work, _hs, List.length_cons]
    omega
  · have known : ∀ c ∈ cells, c ∈ g.readCells := fun c hc =>
      mem_readCells _hr (Std.ExtTreeSet.mem_toList.1 ((listing.perm _).mem_iff.1 hc))
    have spent := work_look known _hl
    simp only [work, _hs, List.length_cons] at spent ⊢
    omega

/-- Searches from one cell after another, unless it was visited before. -/
def fromStarts (g : Graph) (listing : Listing) (goal : Cell) :
    Tracks → List Cell → Option (List Cell)
  | _, [] => none
  | s, start :: starts =>
    if s.visited.contains start then fromStarts g listing goal s starts
    else
      match walk g listing goal { s with visited := s.visited.insert start, stack := [start] } with
      | .error way => some way
      | .ok s => fromStarts g listing goal s starts

end Tracks

/-- The path by which a cell would read itself if it read the proposed cells, read back from the
    tracks of the search. -/
def Graph.backtrackedPath? (listing : Listing) (g : Graph) (c : Cell) (proposed : List Cell) :
    Option (List Cell) :=
  if c ∈ proposed then some [c, c]
  else (Tracks.fromStarts g listing c ⟨∅, ∅, []⟩ proposed).map fun way =>
    c :: way.reverse ++ [c]

end Worksheet
