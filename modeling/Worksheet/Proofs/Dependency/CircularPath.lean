/-
  The search for a circular path. It finds one exactly when the edges it would close form a
  cycle, and what it finds is such a path, in whatever order sets are listed.

  The search is sound because every trail leads from a proposed cell along existing edges
  (`Leads`), and complete because a cell that was met and is on no pending trail has been
  looked at in full (`Complete`). Both hold for the trails and the cells of all starts
  together, since the searches from different starts share the cells they have met.
-/
import Mathlib.Data.List.Chain
import Mathlib.Data.List.Nodup
import Worksheet.Dependency.Cycle
import Worksheet.Proofs.Dependency.Edges

namespace Worksheet

/-! ## Cycles that an edit would close -/

namespace Graph

variable {g : Graph} {c : Cell} {proposed : List Cell}

/-- From a proposed cell, a path back to `c` uses no edge that the edit replaces before it
    arrives. -/
theorem reaches_of_reaches_replace {p : Cell} {reads : CellSet}
    (h : Relation.ReflTransGen (g.replace c reads).Reads p c) :
    Relation.ReflTransGen g.Reads p c := by
  induction h using Relation.ReflTransGen.head_induction_on with
  | refl => exact .refl
  | @head a b hab _ ih =>
    by_cases ha : a = c
    · rw [ha]
    · exact .head ((reads_replace_of_ne ha).1 hab) ih

theorem reaches_replace_of_reaches {p : Cell} (reads : CellSet)
    (h : Relation.ReflTransGen g.Reads p c) :
    Relation.ReflTransGen (g.replace c reads).Reads p c := by
  induction h using Relation.ReflTransGen.head_induction_on with
  | refl => exact .refl
  | @head a b hab _ ih =>
    by_cases ha : a = c
    · rw [ha]
    · exact .head ((reads_replace_of_ne ha).2 hab) ih

theorem dependsOn_replace_self_iff :
    (g.replace c (Std.ExtTreeSet.ofList proposed)).DependsOn c c ↔
      ∃ p ∈ proposed, Relation.ReflTransGen g.Reads p c := by
  unfold DependsOn
  rw [Relation.TransGen.head'_iff]
  constructor
  · rintro ⟨p, hp, hpc⟩
    exact ⟨p, by simpa using hp, reaches_of_reaches_replace hpc⟩
  · rintro ⟨p, hp, hpc⟩
    exact ⟨p, by simpa using hp, reaches_replace_of_reaches _ hpc⟩

/-- What a cell reads has no part in what other cells depend on it. -/
theorem dependsOn_replace_iff {d : Cell} (h : d ≠ c) (reads : CellSet) :
    (g.replace c reads).DependsOn d c ↔ g.DependsOn d c := by
  unfold DependsOn
  rw [Relation.TransGen.head'_iff, Relation.TransGen.head'_iff]
  constructor
  · rintro ⟨p, hdp, hpc⟩
    exact ⟨p, (reads_replace_of_ne h).1 hdp, reaches_of_reaches_replace hpc⟩
  · rintro ⟨p, hdp, hpc⟩
    exact ⟨p, (reads_replace_of_ne h).2 hdp, reaches_replace_of_reaches _ hpc⟩

/-- A path by which `c` would read itself if it read the proposed cells: it starts and ends
    with the cell, goes on to a proposed cell, follows existing edges from there, and meets
    no cell twice but for its two ends. -/
structure IsCircularPath (g : Graph) (c : Cell) (proposed path : List Cell) : Prop where
  starts : path.head? = some c
  ends : path.getLast? = some c
  second : ∃ p ∈ proposed, path[1]? = some p
  steps : path.tail.IsChain g.Reads
  simple : path.dropLast.Nodup

end Graph

namespace Search

variable {g : Graph} {goal : Cell} {proposed : List Cell}

/-! ## Trails -/

/-- The cells of a trail, the last one first: a proposed cell at the start, each cell read
    by the one before it, and neither the goal nor any cell twice. -/
inductive Leads (g : Graph) (goal : Cell) (proposed : List Cell) : List Cell → Prop where
  | start {c : Cell} (proposal : c ∈ proposed) (ne : c ≠ goal) : Leads g goal proposed [c]
  | step {c d : Cell} {trail : List Cell} (leads : Leads g goal proposed (d :: trail))
      (reads : g.Reads d c) (ne : c ≠ goal) (new : c ∉ d :: trail) :
      Leads g goal proposed (c :: d :: trail)

namespace Leads

variable {trail : List Cell}

theorem exists_cons (h : Leads g goal proposed trail) : ∃ c rest, trail = c :: rest := by
  cases h <;> exact ⟨_, _, rfl⟩

theorem goal_not_mem (h : Leads g goal proposed trail) : goal ∉ trail := by
  induction h with
  | start _ ne => simpa using ne.symm
  | step _ _ ne _ ih => exact List.not_mem_cons_of_ne_of_not_mem ne.symm ih

theorem nodup (h : Leads g goal proposed trail) : trail.Nodup := by
  induction h with
  | start => exact List.nodup_singleton _
  | step _ _ _ new ih => exact List.nodup_cons.2 ⟨new, ih⟩

theorem isChain (h : Leads g goal proposed trail) :
    trail.IsChain fun a b => g.Reads b a := by
  induction h with
  | start => exact .singleton _
  | step _ reads _ _ ih => exact .cons_cons reads ih

theorem start_mem (h : Leads g goal proposed trail) :
    ∃ p ∈ proposed, trail.getLast? = some p := by
  induction h with
  | start proposal => exact ⟨_, proposal, rfl⟩
  | step _ _ _ _ ih => simpa using ih

theorem reaches {c : Cell} {rest : List Cell} (h : Leads g goal proposed trail)
    (ht : trail = c :: rest) : ∃ p ∈ proposed, Relation.ReflTransGen g.Reads p c := by
  induction h generalizing c rest with
  | start proposal =>
    obtain ⟨rfl, rfl⟩ := List.cons.inj ht
    exact ⟨_, proposal, .refl⟩
  | step _ reads _ _ ih =>
    obtain ⟨rfl, rfl⟩ := List.cons.inj ht
    obtain ⟨p, hp, hpd⟩ := ih rfl
    exact ⟨p, hp, hpd.tail reads⟩

theorem isCircularPath {c : Cell} {rest : List Cell}
    (h : Leads g goal proposed (c :: rest)) (hc : g.Reads c goal) :
    g.IsCircularPath goal proposed (goal :: (c :: rest).reverse ++ [goal]) where
  starts := rfl
  ends := by rw [List.getLast?_append]; rfl
  second := by
    obtain ⟨p, hp, hl⟩ := h.start_mem
    refine ⟨p, hp, ?_⟩
    rw [List.getLast?_eq_head?_reverse] at hl
    simp only [List.cons_append, List.getElem?_cons_succ, ← List.head?_eq_getElem?,
      List.head?_append, hl, Option.some_or]
  steps := by
    refine (List.isChain_reverse.2 h.isChain).append (.singleton _) ?_
    intro x hx y hy
    rw [List.getLast?_reverse, List.head?_cons, Option.mem_some_iff] at hx
    rw [List.head?_cons, Option.mem_some_iff] at hy
    rw [← hx, ← hy]
    exact hc
  simple := by
    rw [List.dropLast_concat, List.nodup_cons, List.mem_reverse, List.nodup_reverse]
    exact ⟨h.goal_not_mem, h.nodup⟩

end Leads

/-- What is kept about a pending trail: it leads somewhere, it holds what its last cell
    reads, and its cells have been met. -/
structure Fits (g : Graph) (goal : Cell) (proposed : List Cell) (fresh : CellMap CellSet)
    (t : Trail) : Prop where
  leads : Leads g goal proposed t.cells
  reads : ∀ c, t.cells.head? = some c → g.readsOf c = t.reads
  met : ∀ c ∈ t.cells, c ∉ fresh

/-! ## Meeting cells -/

/-- What meeting cells does to a search: cells are taken from the fresh ones, and each of
    them is put on a trail. -/
structure Grows (s s' : Search) : Prop where
  fresh : ∀ c ∈ s'.fresh, c ∈ s.fresh
  trails : ∀ t ∈ s.trails, t ∈ s'.trails
  pending : ∀ c, c ∉ s'.fresh → c ∉ s.fresh ∨ ∃ t ∈ s'.trails, t.cells.head? = some c

theorem Grows.refl (s : Search) : Grows s s := ⟨fun _ h => h, fun _ h => h, fun _ h => .inl h⟩

theorem Grows.trans {s s' s'' : Search} (h : Grows s s') (h' : Grows s' s'') :
    Grows s s'' where
  fresh c hc := h.fresh c (h'.fresh c hc)
  trails t ht := h'.trails t (h.trails t ht)
  pending c hc := by
    rcases h'.pending c hc with hc | hc
    · rcases h.pending c hc with hc | ⟨t, ht, htc⟩
      · exact .inl hc
      · exact .inr ⟨t, h'.trails t ht, htc⟩
    · exact .inr hc

theorem grows_meet (trail : List Cell) (s : Search) (c : Cell) :
    Grows s (s.meet trail c) := by
  unfold meet
  split
  · exact .refl s
  · refine ⟨fun d hd => (Std.ExtTreeMap.mem_erase.1 hd).2,
      fun t ht => List.mem_cons_of_mem _ ht, fun d hd => ?_⟩
    by_cases hdc : d = c
    · exact .inr ⟨_, List.mem_cons_self, by rw [hdc]; rfl⟩
    · refine .inl fun hds => hd (Std.ExtTreeMap.mem_erase.2 ⟨?_, hds⟩)
      rw [ne_eq, Std.LawfulEqOrd.compare_eq_iff_eq]
      exact fun h => hdc h.symm

theorem not_mem_fresh_meet (trail : List Cell) (s : Search) (c : Cell) :
    c ∉ (s.meet trail c).fresh := by
  unfold meet
  split
  · next h => rw [Std.ExtTreeMap.mem_iff_isSome_getElem?, h]; exact Bool.false_ne_true
  · simp

theorem grows_foldl_meet (trail cs : List Cell) (s : Search) :
    Grows s (cs.foldl (meet trail) s) := by
  induction cs generalizing s with
  | nil => exact .refl s
  | cons c cs ih => exact (grows_meet trail s c).trans (ih _)

theorem not_mem_fresh_foldl_meet (trail cs : List Cell) (s : Search) {c : Cell}
    (hc : c ∈ cs) : c ∉ (cs.foldl (meet trail) s).fresh := by
  induction cs generalizing s with
  | nil => cases hc
  | cons d cs ih =>
    rcases List.mem_cons.1 hc with rfl | hc
    · exact fun h => not_mem_fresh_meet trail s c ((grows_foldl_meet trail cs _).fresh c h)
    · exact ih _ hc

/-! ## The invariants -/

/-- The fresh cells keep their entries, and every pending trail fits. -/
structure Sound (g : Graph) (goal : Cell) (proposed : List Cell) (s : Search) : Prop where
  fresh : ∀ c reads, s.fresh[c]? = some reads → g.readsOf c = reads
  trails : ∀ t ∈ s.trails, Fits g goal proposed s.fresh t

/-- A cell was looked at in full: it does not read the goal, and no cell it reads is
    fresh. -/
def Explored (g : Graph) (goal : Cell) (fresh : CellMap CellSet) (c : Cell) : Prop :=
  ¬ g.Reads c goal ∧ ∀ d, g.Reads c d → d ∉ fresh

/-- Every cell that was met ends a pending trail or was looked at in full. -/
def Complete (g : Graph) (goal : Cell) (s : Search) : Prop :=
  ∀ c, c ∉ s.fresh →
    (∃ t ∈ s.trails, t.cells.head? = some c) ∨ Explored g goal s.fresh c

theorem Explored.grows {s s' : Search} {c : Cell} (h : Explored g goal s.fresh c)
    (hs : Grows s s') : Explored g goal s'.fresh c :=
  ⟨h.1, fun d hd hf => h.2 d hd (hs.fresh d hf)⟩

theorem Complete.grows {s s' : Search} (h : Complete g goal s) (hs : Grows s s') :
    Complete g goal s' := by
  intro c hc
  rcases hs.pending c hc with hc | hc
  · rcases h c hc with ⟨t, ht, htc⟩ | hc
    · exact .inl ⟨t, hs.trails t ht, htc⟩
    · exact .inr (hc.grows hs)
  · exact .inl hc

theorem Sound.meet {s : Search} (h : Sound g goal proposed s) {trail : List Cell} {c : Cell}
    (met : ∀ d ∈ trail, d ∉ s.fresh)
    (leads : c ∈ s.fresh → Leads g goal proposed (c :: trail)) :
    Sound g goal proposed (s.meet trail c) := by
  have grows := grows_meet trail s c
  have gone := not_mem_fresh_meet trail s c
  revert grows gone
  unfold Search.meet
  split
  · exact fun _ _ => h
  · next reads hr =>
    intro grows gone
    refine ⟨fun d r hd => h.fresh d r ?_, fun t ht => ?_⟩
    · rw [Std.ExtTreeMap.getElem?_erase] at hd
      split at hd
      · cases hd
      · exact hd
    · rcases List.mem_cons.1 ht with rfl | ht
      · refine ⟨leads (Std.ExtTreeMap.mem_iff_isSome_getElem?.2 (by rw [hr]; rfl)), ?_, ?_⟩
        · intro d hd
          obtain rfl : c = d := by simpa using hd
          exact h.fresh c reads hr
        · intro d hd
          rcases List.mem_cons.1 hd with rfl | hd
          · exact gone
          · exact fun hf => met d hd (grows.fresh d hf)
      · obtain ⟨leads, reads, met⟩ := h.trails t ht
        exact ⟨leads, reads, fun d hd hf => met d hd (grows.fresh d hf)⟩

/-- Going on from a trail along edges that do not lead to the goal. -/
theorem Sound.foldl_meet {x : Cell} {l : List Cell} (leads : Leads g goal proposed (x :: l))
    (cs : List Cell) (reads : ∀ c ∈ cs, g.Reads x c ∧ c ≠ goal) {s : Search}
    (h : Sound g goal proposed s) (met : ∀ d ∈ x :: l, d ∉ s.fresh) :
    Sound g goal proposed (cs.foldl (Search.meet (x :: l)) s) := by
  induction cs generalizing s with
  | nil => exact h
  | cons c cs ih =>
    obtain ⟨hxc, hne⟩ := reads c List.mem_cons_self
    refine ih (fun d hd => reads d (List.mem_cons_of_mem _ hd)) (h.meet met fun hc => ?_) ?_
    · exact .step leads hxc hne fun hm => met c hm hc
    · exact fun d hd hf => met d hd ((grows_meet _ s c).fresh d hf)

/-! ## Following trails -/

theorem mem_listing (listing : Listing) {t : Trail} {c : Cell} :
    c ∈ listing.list t ↔ c ∈ t.reads := by
  rw [(listing.perm t).mem_iff, Std.ExtTreeSet.mem_toList]

/-- The trail that is taken up is no longer pending, but its last cell is looked at in
    full by that. -/
theorem follow_keeps (listing : Listing) {s : Search} {t : Trail} {rest : List Trail}
    (ht : s.trails = t :: rest) (hgoal : goal ∉ t.reads) (hs : Sound g goal proposed s)
    (hc : Complete g goal s) :
    Sound g goal proposed (follow listing t { s with trails := rest }) ∧
      Complete g goal (follow listing t { s with trails := rest }) := by
  obtain ⟨leads, reads, met⟩ := hs.trails t (by rw [ht]; exact List.mem_cons_self)
  obtain ⟨x, l, hx⟩ := leads.exists_cons
  have hxr : g.readsOf x = t.reads := reads x (by rw [hx]; rfl)
  have grows : Grows { s with trails := rest } (follow listing t { s with trails := rest }) :=
    grows_foldl_meet _ _ _
  constructor
  · unfold follow
    rw [hx] at leads met ⊢
    refine Sound.foldl_meet leads _ (fun c hct => ?_) ⟨hs.fresh, fun t' ht' => ?_⟩ met
    · rw [mem_listing listing] at hct
      refine ⟨?_, fun h => hgoal (h ▸ hct)⟩
      unfold Graph.Reads
      rwa [hxr]
    · exact hs.trails t' (by rw [ht]; exact List.mem_cons_of_mem _ ht')
  · intro c hcf
    rcases grows.pending c hcf with hcf | hp
    · rcases hc c hcf with ⟨t', ht', htc⟩ | he
      · rw [ht] at ht'
        rcases List.mem_cons.1 ht' with rfl | ht'
        · obtain rfl : x = c := by simpa [hx] using htc
          refine .inr ⟨?_, fun d hd => ?_⟩
          · unfold Graph.Reads
            rwa [hxr]
          · unfold Graph.Reads at hd
            rw [hxr, ← mem_listing listing] at hd
            exact not_mem_fresh_foldl_meet _ _ _ hd
        · exact .inl ⟨t', grows.trails t' ht', htc⟩
      · exact .inr (Explored.grows (s := { s with trails := rest }) he grows)
    · exact .inl hp

/-- What an answer of the search says: the trail that is found leads to a cell that reads
    the goal; and when none is found, every cell that was met has been looked at in full. -/
def Verdict.Justified (g : Graph) (goal : Cell) (proposed : List Cell)
    (before : CellMap CellSet) : Verdict → Prop
  | .found trail =>
    ∃ c rest, trail = c :: rest ∧ Leads g goal proposed (c :: rest) ∧ g.Reads c goal
  | .exhausted fresh =>
    Sound g goal proposed ⟨fresh, []⟩ ∧ Complete g goal ⟨fresh, []⟩ ∧
      ∀ c ∈ fresh, c ∈ before

theorem run_justified (listing : Listing) (s : Search) (hs : Sound g goal proposed s)
    (hc : Complete g goal s) :
    Verdict.Justified g goal proposed s.fresh (run listing goal s) := by
  fun_induction run listing goal s with
  | case1 s ht =>
    refine ⟨⟨hs.fresh, fun t h => absurd h List.not_mem_nil⟩, fun c hcf => ?_, fun _ h => h⟩
    rcases hc c hcf with ⟨t, h, -⟩ | h
    · rw [ht] at h
      exact absurd h List.not_mem_nil
    · exact .inr h
  | case2 s t rest ht found =>
    have fits := hs.trails t (by rw [ht]; exact List.mem_cons_self)
    obtain ⟨c, l, hcl⟩ := fits.leads.exists_cons
    refine ⟨c, l, hcl, hcl ▸ fits.leads, ?_⟩
    unfold Graph.Reads
    rw [fits.reads c (by rw [hcl]; rfl)]
    exact Std.ExtTreeSet.contains_iff_mem.1 found
  | case3 s t rest ht missed ih =>
    rw [Std.ExtTreeSet.contains_iff_mem] at missed
    obtain ⟨hs', hc'⟩ := follow_keeps listing ht missed hs hc
    have h := ih hs' hc'
    have grows : Grows { s with trails := rest }
        (follow listing t { s with trails := rest }) := grows_foldl_meet _ _ _
    cases hv : run listing goal (follow listing t { s with trails := rest }) with
    | found trail =>
      rw [hv] at h
      exact h
    | exhausted fresh =>
      rw [hv] at h
      exact ⟨h.1, h.2.1, fun c hcf => grows.fresh c (h.2.2 c hcf)⟩

/-! ## All starts -/

/-- What the searches from all starts say together. -/
theorem fromStarts_justified (listing : Listing) (hgoal : goal ∉ proposed)
    (starts : List Cell) (hp : ∀ p ∈ starts, p ∈ proposed) (fresh : CellMap CellSet)
    (hs : Sound g goal proposed ⟨fresh, []⟩) (hc : Complete g goal ⟨fresh, []⟩) :
    match fromStarts listing goal fresh starts with
    | some trail => Verdict.Justified g goal proposed fresh (.found trail)
    | none => ∃ last, (∀ c ∈ last, c ∈ fresh) ∧ (∀ p ∈ starts, p ∉ last) ∧
        Complete g goal ⟨last, []⟩ := by
  induction starts generalizing fresh with
  | nil => exact ⟨fresh, fun _ h => h, fun _ h => absurd h List.not_mem_nil, hc⟩
  | cons start starts ih =>
    have hstart := hp start List.mem_cons_self
    have h := run_justified listing (meet [] ⟨fresh, []⟩ start)
      (hs.meet (fun _ h => absurd h List.not_mem_nil)
        fun _ => .start hstart fun h => hgoal (h ▸ hstart))
      (hc.grows (grows_meet _ _ _))
    unfold fromStarts
    cases hv : run listing goal (meet [] ⟨fresh, []⟩ start) with
    | found trail =>
      rw [hv] at h
      exact h
    | exhausted fresh' =>
      rw [hv] at h
      obtain ⟨hs', hc', hsub⟩ := h
      have gone : start ∉ fresh' := fun hf => not_mem_fresh_meet _ _ _ (hsub start hf)
      have sub : ∀ c ∈ fresh', c ∈ fresh := fun c hcf =>
        (grows_meet [] ⟨fresh, []⟩ start).fresh c (hsub c hcf)
      have h' := ih (fun p h => hp p (List.mem_cons_of_mem _ h)) fresh' hs' hc'
      dsimp only
      cases hf : fromStarts listing goal fresh' starts with
      | some trail =>
        rw [hf] at h'
        exact h'
      | none =>
        rw [hf] at h'
        obtain ⟨last, hlast, hstarts, hdone⟩ := h'
        refine ⟨last, fun c hcl => sub c (hlast c hcl), fun p hpm => ?_, hdone⟩
        rcases List.mem_cons.1 hpm with rfl | hpm
        · exact fun hl => gone (hlast p hl)
        · exact hstarts p hpm

/-- At the start every cell that reads others is fresh. -/
theorem sound_precedents (g : Graph) (goal : Cell) (proposed : List Cell) :
    Sound g goal proposed ⟨g.precedents, []⟩ where
  fresh c reads h := by
    unfold Graph.readsOf
    rw [h]
    rfl
  trails t h := absurd h List.not_mem_nil

theorem complete_precedents (g : Graph) (goal : Cell) :
    Complete g goal ⟨g.precedents, []⟩ := by
  intro c hc
  have none : ∀ d, ¬ g.Reads c d := by
    intro d
    unfold Graph.Reads Graph.readsOf
    rw [Std.ExtTreeMap.getElem?_eq_none hc]
    exact Std.ExtTreeSet.not_mem_empty
  exact .inr ⟨none goal, fun d hd => absurd hd (none d)⟩

/-- Cells that were looked at in full do not lead to the goal. -/
theorem not_reaches_goal {last : CellMap CellSet} (h : Complete g goal ⟨last, []⟩)
    {p : Cell} (hp : p ∉ last) (hne : p ≠ goal) : ¬ Relation.ReflTransGen g.Reads p goal := by
  intro hr
  induction hr using Relation.ReflTransGen.head_induction_on with
  | refl => exact hne rfl
  | @head a b hab _ ih =>
    rcases h a hp with ⟨_, ht, -⟩ | ⟨hgoal, hfresh⟩
    · exact absurd ht List.not_mem_nil
    · exact ih (hfresh b hab) fun hb => hgoal (hb ▸ hab)

end Search

namespace Graph

variable {g : Graph} {listing : Listing} {c : Cell} {proposed : List Cell}

/-! ## The path that is found -/

theorem circularPathBy?_eq_some {path : List Cell}
    (h : g.circularPathBy? listing c proposed = some path) :
    g.IsCircularPath c proposed path ∧
      ∃ p ∈ proposed, Relation.ReflTransGen g.Reads p c := by
  unfold circularPathBy? at h
  split at h
  · next hc =>
    obtain rfl := Option.some.inj h
    exact ⟨⟨rfl, rfl, ⟨c, hc, rfl⟩, .singleton c, List.nodup_singleton c⟩, c, hc, .refl⟩
  · next hc =>
    obtain ⟨trail, ht, rfl⟩ := Option.map_eq_some_iff.1 h
    have hj := Search.fromStarts_justified listing hc proposed (fun _ h => h) g.precedents
      (Search.sound_precedents g c proposed) (Search.complete_precedents g c)
    rw [ht] at hj
    obtain ⟨d, rest, rfl, leads, reads⟩ := hj
    obtain ⟨p, hp, hpd⟩ := leads.reaches rfl
    exact ⟨leads.isCircularPath reads, p, hp, hpd.tail reads⟩

theorem circularPathBy?_eq_none (h : g.circularPathBy? listing c proposed = none) :
    ∀ p ∈ proposed, ¬ Relation.ReflTransGen g.Reads p c := by
  unfold circularPathBy? at h
  split at h
  · cases h
  · next hc =>
    have hj := Search.fromStarts_justified listing hc proposed (fun _ h => h) g.precedents
      (Search.sound_precedents g c proposed) (Search.complete_precedents g c)
    rw [Option.map_eq_none_iff.1 h] at hj
    obtain ⟨last, -, hmet, hdone⟩ := hj
    exact fun p hp => Search.not_reaches_goal hdone (hmet p hp) fun he => hc (he ▸ hp)

theorem not_mem_of_circularPathBy?_eq_none (h : g.circularPathBy? listing c proposed = none) :
    c ∉ proposed :=
  fun hc => circularPathBy?_eq_none h c hc .refl

theorem circularPathBy?_isSome_iff :
    (g.circularPathBy? listing c proposed).isSome ↔
      (g.replace c (Std.ExtTreeSet.ofList proposed)).DependsOn c c := by
  rw [dependsOn_replace_self_iff]
  cases h : g.circularPathBy? listing c proposed with
  | some path => exact ⟨fun _ => (circularPathBy?_eq_some h).2, fun _ => rfl⟩
  | none =>
    refine ⟨fun h => absurd h Bool.false_ne_true, fun ⟨p, hp, hpc⟩ => ?_⟩
    exact absurd hpc (circularPathBy?_eq_none h p hp)

/-- A path is found exactly when the edges it would close form a cycle through the cell, and
    only circular paths are found. Nothing is assumed about the graph, which may have cycles
    already, nor about the order in which sets are listed. -/
theorem circularPathBy?_decides_cycle (listing : Listing) (g : Graph) (c : Cell)
    (proposed : List Cell) :
    ((g.circularPathBy? listing c proposed).isSome ↔
        (g.replace c (Std.ExtTreeSet.ofList proposed)).DependsOn c c) ∧
      ∀ path, g.circularPathBy? listing c proposed = some path →
        g.IsCircularPath c proposed path :=
  ⟨circularPathBy?_isSome_iff, fun _ h => (circularPathBy?_eq_some h).1⟩

end Graph

end Worksheet
