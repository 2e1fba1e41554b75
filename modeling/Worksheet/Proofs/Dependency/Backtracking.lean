/-
  The search with one memory for all of it finds what the search with trails finds.

  The two are run side by side. What waits on the stack are the trails, each of them the way back
  from its last cell (`Matches`); a cell that is met later is not on any way back, so that the
  entries it adds change none of them (`wayBack_insert`). For the same reason the way back can be
  read from the map as it is, entry by entry, and comes to an end (`Way`).
-/
import Mathlib.Data.List.Basic
import Worksheet.Dependency.Backtracking
import Worksheet.Proofs.Dependency.CircularPath

namespace Worksheet

namespace Tracks

variable {g : Graph} {goal current next : Cell} {s : Search} {t : Tracks}

/-! ## The way back -/

/-- The way from a cell along the entries of a map, up to a cell without an entry. -/
inductive Way (parent : CellMap Cell) : Cell → List Cell → Prop where
  | start {c : Cell} (none : parent[c]? = none) : Way parent c [c]
  | back {c d : Cell} {way : List Cell} (some : parent[c]? = some d) (rest : Way parent d way) :
      Way parent c (c :: way)

theorem wayBack_of_getElem?_eq_none {parent : CellMap Cell} {c : Cell} (h : parent[c]? = none) :
    wayBack parent c = [c] := by
  rw [wayBack]
  split
  · rfl
  · next some =>
    rw [h] at some
    cases some

theorem wayBack_of_getElem?_eq_some {parent : CellMap Cell} {c d : Cell} (h : parent[c]? = some d) :
    wayBack parent c = c :: wayBack (parent.erase c) d := by
  rw [wayBack]
  split
  · next none =>
    rw [h] at none
    cases none
  · next p some =>
    obtain rfl : d = p := Option.some.inj (h.symm.trans some)
    rfl

/-- An entry for a cell that no entry names has no part in the way back from another cell. -/
theorem wayBack_insert {parent : CellMap Cell} {n x c : Cell}
    (unnamed : ∀ a d : Cell, parent[a]? = some d → d ≠ n) (ne : c ≠ n) :
    wayBack (parent.insert n x) c = wayBack parent c := by
  fun_induction wayBack parent c with
  | case1 parent c none =>
    have same : (parent.insert n x)[c]? = parent[c]? := by grind
    exact wayBack_of_getElem?_eq_none (same.trans none)
  | case2 parent c p some ih =>
    have same : (parent.insert n x)[c]? = parent[c]? := by grind
    have swap : (parent.insert n x).erase c = (parent.erase c).insert n x := by
      apply Std.ExtTreeMap.ext_getElem?
      grind
    have unnamed' (a d : Cell) (h : (parent.erase c)[a]? = Option.some d) : d ≠ n :=
      unnamed a d (by grind)
    rw [wayBack_of_getElem?_eq_some (same.trans some), swap, ih unnamed' (unnamed c p some)]

/-- From a cell that is entered, the way back goes on with the cell it was met from. -/
theorem wayBack_insert_self {parent : CellMap Cell} {n x : Cell} (new : parent[n]? = none) :
    wayBack (parent.insert n x) n = n :: wayBack parent x := by
  have erased : (parent.insert n x).erase n = parent := by
    apply Std.ExtTreeMap.ext_getElem?
    grind
  rw [wayBack_of_getElem?_eq_some Std.ExtTreeMap.getElem?_insert_self, erased]

theorem Way.insert {parent : CellMap Cell} {n x c : Cell} {way : List Cell}
    (h : Way parent c way) (unnamed : ∀ a d : Cell, parent[a]? = some d → d ≠ n) (ne : c ≠ n) :
    Way (parent.insert n x) c way := by
  induction h with
  | start none => exact .start (by grind)
  | back some _ ih => exact .back (by grind) (ih (unnamed _ _ some))

/-! ## What is kept -/

/-- What waits was visited, and so was whatever the entries are for or name. The way back from a
    cell that was visited is what the entries say. -/
structure Sound (t : Tracks) : Prop where
  stack : ∀ c ∈ t.stack, c ∈ t.visited
  keys : ∀ c d : Cell, t.parent[c]? = some d → c ∈ t.visited
  named : ∀ c d : Cell, t.parent[c]? = some d → d ∈ t.visited
  ways : ∀ c ∈ t.visited, Way t.parent c (wayBack t.parent c)

namespace Sound

theorem getElem?_eq_none (h : t.Sound) (new : next ∉ t.visited) : t.parent[next]? = none := by
  cases entry : t.parent[next]? with
  | none => rfl
  | some d => exact absurd (h.keys next d entry) new

theorem unnamed (h : t.Sound) (new : next ∉ t.visited) (a d : Cell)
    (entry : t.parent[a]? = some d) : d ≠ next :=
  fun same => new (same ▸ h.named a d entry)

theorem wayBack_enter (h : t.Sound) (new : next ∉ t.visited) {c : Cell} (old : c ∈ t.visited) :
    wayBack (t.enter current next).parent c = wayBack t.parent c :=
  wayBack_insert (h.unnamed new) fun same => new (same ▸ old)

theorem enter (h : t.Sound) (met : current ∈ t.visited) (new : next ∉ t.visited) :
    (t.enter current next).Sound where
  stack c hc := by
    rcases List.mem_cons.1 hc with rfl | hc
    · exact Std.ExtTreeSet.mem_insert_self
    · exact Std.ExtTreeSet.mem_insert.2 (.inr (h.stack c hc))
  keys c d entry := by
    have old := h.keys c d
    unfold Tracks.enter at entry ⊢
    grind
  named c d entry := by
    have old := h.named c d
    unfold Tracks.enter at entry ⊢
    grind
  ways c hc := by
    have new' := h.getElem?_eq_none new
    by_cases same : c = next
    · subst same
      have rest := (h.ways current met).insert (x := current) (h.unnamed new)
        fun same => new (same ▸ met)
      unfold Tracks.enter
      rw [wayBack_insert_self new']
      exact .back Std.ExtTreeMap.getElem?_insert_self rest
    · have old : c ∈ t.visited := by
        unfold Tracks.enter at hc
        grind
      rw [h.wayBack_enter new old]
      exact (h.ways c old).insert (h.unnamed new) same

end Sound

/-! ## Cells that are met -/

theorem meet_of_mem (old : next ∈ t.visited) : t.meet current next = t :=
  if_pos (Std.ExtTreeSet.contains_iff_mem.2 old)

theorem meet_of_not_mem (new : next ∉ t.visited) : t.meet current next = t.enter current next :=
  if_neg fun old => new (Std.ExtTreeSet.contains_iff_mem.1 old)

theorem visited_meet (met : current ∈ t.visited) : current ∈ (t.meet current next).visited := by
  by_cases old : next ∈ t.visited
  · rwa [meet_of_mem old]
  · rw [meet_of_not_mem old]
    exact Std.ExtTreeSet.mem_insert.2 (.inr met)

theorem Sound.meet (h : t.Sound) (met : current ∈ t.visited) : (t.meet current next).Sound := by
  by_cases old : next ∈ t.visited
  · rwa [meet_of_mem old]
  · rw [meet_of_not_mem old]
    exact h.enter met old

theorem Sound.wayBack_meet (h : t.Sound) (met : current ∈ t.visited) (next : Cell) :
    wayBack (t.meet current next).parent current = wayBack t.parent current := by
  by_cases old : next ∈ t.visited
  · rw [meet_of_mem old]
  · rw [meet_of_not_mem old, h.wayBack_enter old met]

theorem getElem?_fresh_meet (trail : List Cell) (s : Search) (next c : Cell) :
    (s.meet trail next).fresh[c]? = if c = next then none else s.fresh[c]? := by
  unfold Search.meet
  split <;> grind

theorem trails_meet (trail : List Cell) (s : Search) (next : Cell) :
    (s.meet trail next).trails =
      ((s.fresh[next]?).map (Trail.mk (next :: trail))).toList ++ s.trails := by
  unfold Search.meet
  split
  · next none => rw [none]; rfl
  · next reads some => rw [some]; rfl

/-! ## The two searches side by side -/

/-- The trail to a cell that waits. A cell that reads nothing leads nowhere. -/
def trail? (g : Graph) (parent : CellMap Cell) (c : Cell) : Option Trail :=
  (g.precedents[c]?).map (Trail.mk (wayBack parent c))

/-- The tracks hold what the search holds: fresh are the cells that were not visited, and the
    trails are the ways back of what waits. -/
structure Matches (g : Graph) (s : Search) (t : Tracks) : Prop where
  sound : t.Sound
  fresh : ∀ c : Cell, s.fresh[c]? = if c ∈ t.visited then none else g.precedents[c]?
  trails : s.trails = t.stack.filterMap (trail? g t.parent)

theorem filterMap_cons_toList {α β : Type} (f : α → Option β) (a : α) (l : List α) :
    (a :: l).filterMap f = (f a).toList ++ l.filterMap f := by
  rw [List.filterMap_cons]
  cases f a <;> rfl

/-- Meeting a cell keeps the two alike. -/
theorem Matches.meet (h : Matches g s t) (met : current ∈ t.visited) :
    Matches g (s.meet (wayBack t.parent current) next) (t.meet current next) := by
  by_cases old : next ∈ t.visited
  · have none : s.fresh[next]? = none := by rw [h.fresh, if_pos old]
    rw [meet_of_mem old, Search.meet, none]
    exact h
  · rw [meet_of_not_mem old]
    refine ⟨h.sound.enter met old, fun c => ?_, ?_⟩
    · have fresh := h.fresh c
      rw [getElem?_fresh_meet]
      unfold Tracks.enter
      grind
    · have others : t.stack.filterMap (trail? g (t.enter current next).parent) =
          t.stack.filterMap (trail? g t.parent) :=
        List.filterMap_congr fun c hc => by
          rw [trail?, h.sound.wayBack_enter old (h.sound.stack c hc), trail?]
      have way : wayBack (t.enter current next).parent next = next :: wayBack t.parent current :=
        wayBack_insert_self (h.sound.getElem?_eq_none old)
      show _ = (next :: t.stack).filterMap _
      rw [trails_meet, h.fresh, if_neg old, filterMap_cons_toList, others, trail?, way, h.trails]

/-- When the goal is among the cells that are read, the search ends with the way back, and the
    entries say so in the end as well. -/
theorem Sound.look_finds {cells : List Cell} (h : t.Sound) (met : current ∈ t.visited)
    (read : goal ∈ cells) :
    ∃ t', (look goal current cells).run t = .error (wayBack t.parent current) t' ∧
      Way t'.parent current (wayBack t.parent current) := by
  induction cells generalizing t with
  | nil => cases read
  | cons next rest ih =>
    rw [look_run_cons]
    split
    · exact ⟨t, rfl, h.ways current met⟩
    · next other =>
      have later : goal ∈ rest := by
        rcases List.mem_cons.1 read with same | later
        · exact absurd same.symm other
        · exact later
      rw [← h.wayBack_meet met next]
      exact ih (h.meet met) (visited_meet met) later

/-- When it is not, the cells are met one after another. -/
theorem Matches.look_passes {cells : List Cell} (h : Matches g s t) (met : current ∈ t.visited)
    (unread : goal ∉ cells) :
    ∃ t', (look goal current cells).run t = .ok () t' ∧
      Matches g (cells.foldl (Search.meet (wayBack t.parent current)) s) t' := by
  induction cells generalizing s t with
  | nil => exact ⟨t, rfl, h⟩
  | cons next rest ih =>
    rw [List.mem_cons, not_or] at unread
    obtain ⟨other, later⟩ := unread
    rw [look_run_cons, if_neg fun same => other same.symm]
    obtain ⟨t', run, matched⟩ := ih (h.meet met) (visited_meet met) later
    rw [h.sound.wayBack_meet met next] at matched
    exact ⟨t', run, matched⟩

/-- The two searches end alike. -/
inductive Alike (g : Graph) : Except (List Cell) Tracks → Verdict → Prop where
  | found (way : List Cell) : Alike g (.error way) (.found way)
  | exhausted {fresh : CellMap CellSet} {t : Tracks} (h : Matches g ⟨fresh, []⟩ t) :
      Alike g (.ok t) (.exhausted fresh)

theorem run_nil (listing : Listing) (fresh : CellMap CellSet) :
    Search.run listing goal ⟨fresh, []⟩ = .exhausted fresh := by
  rw [Search.run]

theorem run_cons (listing : Listing) (fresh : CellMap CellSet) (trail : Trail)
    (rest : List Trail) :
    Search.run listing goal ⟨fresh, trail :: rest⟩ =
      if trail.reads.contains goal then .found trail.cells
      else Search.run listing goal (Search.follow listing trail ⟨fresh, rest⟩) := by
  rw [Search.run]

/-- The next cell that waits, taken from the stack. -/
theorem Sound.pop {stack : List Cell} (h : t.Sound) (waiting : t.stack = current :: stack) :
    Sound { t with stack } :=
  ⟨fun c hc => h.stack c (waiting ▸ List.mem_cons_of_mem _ hc), h.keys, h.named, h.ways⟩

/-- A cell that waits and reads others ends the next trail. -/
theorem Matches.pop {fresh : CellMap CellSet} {trails : List Trail} {stack : List Cell}
    {reads : CellSet} (h : Matches g ⟨fresh, trails⟩ t) (waiting : t.stack = current :: stack)
    (some : g.precedents[current]? = some reads) :
    ∃ rest, trails = ⟨wayBack t.parent current, reads⟩ :: rest ∧
      Matches g ⟨fresh, rest⟩ { t with stack } := by
  refine ⟨stack.filterMap (trail? g t.parent), ?_, h.sound.pop waiting, h.fresh, rfl⟩
  refine h.trails.trans ?_
  rw [waiting, filterMap_cons_toList, trail?, some]
  rfl

theorem Matches.walk (listing : Listing) (goal : Cell) (h : Matches g s t) :
    Alike g (Tracks.walk g listing goal t) (s.run listing goal) := by
  obtain ⟨fresh, trails⟩ := s
  fun_induction Tracks.walk g listing goal t generalizing fresh trails with
  | case1 t empty =>
    obtain rfl : trails = [] := h.trails.trans (by rw [empty, List.filterMap_nil])
    rw [run_nil]
    exact .exhausted h
  | case2 t current stack waiting none ih =>
    refine ih fresh trails ⟨h.sound.pop waiting, h.fresh, h.trails.trans ?_⟩
    rw [waiting, filterMap_cons_toList, trail?, none]
    rfl
  | case3 t current stack waiting reads some cells way t' found =>
    have met : current ∈ t.visited := h.sound.stack current (waiting ▸ List.mem_cons_self)
    obtain ⟨rest, rfl, popped⟩ := h.pop waiting some
    by_cases read : goal ∈ cells
    · obtain ⟨t'', finds, -⟩ := popped.sound.look_finds met read
      obtain ⟨rfl, -⟩ := EStateM.Result.error.inj (finds.symm.trans found)
      have found : reads.contains goal :=
        Std.ExtTreeSet.contains_iff_mem.2 ((Search.mem_listing listing).1 read)
      rw [run_cons, if_pos found]
      exact .found _
    · obtain ⟨t'', passes, -⟩ := popped.look_passes met read
      cases passes.symm.trans found
  | case4 t current stack waiting reads some cells t' passed ih =>
    have met : current ∈ t.visited := h.sound.stack current (waiting ▸ List.mem_cons_self)
    obtain ⟨rest, rfl, popped⟩ := h.pop waiting some
    by_cases read : goal ∈ cells
    · obtain ⟨t'', finds, -⟩ := popped.sound.look_finds met read
      cases finds.symm.trans passed
    · obtain ⟨t'', passes, matched⟩ := popped.look_passes met read
      obtain ⟨-, rfl⟩ := EStateM.Result.ok.inj (passes.symm.trans passed)
      have unread : ¬ reads.contains goal := fun found =>
        read ((Search.mem_listing listing).2 (Std.ExtTreeSet.contains_iff_mem.1 found))
      rw [run_cons, if_neg unread]
      exact ih _ _ matched

/-- A cell to start from that was not visited before. -/
theorem Matches.start {fresh : CellMap CellSet} {start : Cell} (h : Matches g ⟨fresh, []⟩ t)
    (new : start ∉ t.visited) :
    Matches g (Search.meet [] ⟨fresh, []⟩ start)
      { t with visited := t.visited.insert start, stack := [start] } := by
  have none := h.sound.getElem?_eq_none new
  have sound : Sound { t with visited := t.visited.insert start, stack := [start] } := by
    refine ⟨fun c hc => ?_, fun c d entry => ?_, fun c d entry => ?_, fun c hc => ?_⟩
    · rw [List.mem_singleton.1 hc]
      exact Std.ExtTreeSet.mem_insert_self
    · exact Std.ExtTreeSet.mem_insert.2 (.inr (h.sound.keys c d entry))
    · exact Std.ExtTreeSet.mem_insert.2 (.inr (h.sound.named c d entry))
    · rcases Std.ExtTreeSet.mem_insert.1 hc with same | old
      · rw [Std.LawfulEqOrd.compare_eq_iff_eq] at same
        rw [← same, wayBack_of_getElem?_eq_none none]
        exact .start none
      · exact h.sound.ways c old
  refine ⟨sound, fun c => ?_, ?_⟩
  · have fresh := h.fresh c
    rw [getElem?_fresh_meet]
    grind
  · rw [trails_meet, h.fresh, if_neg new, filterMap_cons_toList, trail?,
      wayBack_of_getElem?_eq_none none]
    rfl

theorem Matches.fromStarts (listing : Listing) (starts : List Cell) {fresh : CellMap CellSet}
    (h : Matches g ⟨fresh, []⟩ t) :
    Tracks.fromStarts g listing goal t starts = Search.fromStarts listing goal fresh starts := by
  induction starts generalizing t fresh with
  | nil => rfl
  | cons start starts ih =>
    rw [Tracks.fromStarts, Search.fromStarts]
    by_cases old : start ∈ t.visited
    · have same : Search.meet [] ⟨fresh, []⟩ start = ⟨fresh, []⟩ := by
        rw [Search.meet, h.fresh, if_pos old]
      rw [if_pos (Std.ExtTreeSet.contains_iff_mem.2 old), same, run_nil]
      exact ih h
    · rw [if_neg fun seen => old (Std.ExtTreeSet.contains_iff_mem.1 seen)]
      have alike := (h.start old).walk listing goal
      generalize Search.run listing goal (Search.meet [] ⟨fresh, []⟩ start) = verdict at *
      generalize Tracks.walk g listing goal
        { t with visited := t.visited.insert start, stack := [start] } = result at *
      cases alike with
      | found way => rfl
      | exhausted matched => exact ih matched

end Tracks

namespace Graph

/-- Reading the path back from the tracks finds the path that the trails find, if there is one,
    in whatever order sets are listed. -/
theorem backtrackedPath?_eq (listing : Listing) (g : Graph) (c : Cell) (proposed : List Cell) :
    g.backtrackedPath? listing c proposed = g.circularPathBy? listing c proposed := by
  have start : Tracks.Matches g ⟨g.precedents, []⟩ ⟨∅, ∅, []⟩ :=
    ⟨⟨by simp, by simp, by simp, by simp⟩, by simp, rfl⟩
  unfold backtrackedPath? circularPathBy?
  rw [start.fromStarts]

end Graph

end Worksheet
