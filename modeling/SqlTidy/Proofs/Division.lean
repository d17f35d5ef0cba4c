/-
Module: SqlTidy.Proofs.Division
Purpose: How the division of a sequence into runs behaves when sequences are joined, mapped and
  flattened.
Main exports: divide_append_cons_divides, divide_append_cons_standsAlone, divide_append_of_getLast?,
  divide_append_of_head?, divide_eq_singleton, mem_divide, exists_place_of_divide_eq, map_divide,
  flatten_divide
-/
import SqlTidy.Text.Division

namespace SqlTidy.Text

/-!
Words, tokens, path segments and runs of letters are all divisions.  Everything that is known about
them follows from two equations: a sequence divides at an item that divides, and it divides around
an item that stands alone.
-/

variable {α β : Type} {divides standsAlone : α → Bool}

/-- An item that ends the run before it. -/
def breaks (divides standsAlone : α → Bool) (item : α) : Bool :=
  divides item || standsAlone item

/-- An item that ends a run divides, or else it stands alone. -/
theorem breaks_cases {c : α} (h : breaks divides standsAlone c = true) :
    divides c = true ∨ divides c = false ∧ standsAlone c = true := by
  by_cases hdivides : divides c = true
  · exact Or.inl hdivides
  · have halone : standsAlone c = true := by simpa [breaks, hdivides] using h
    exact Or.inr ⟨Bool.eq_false_iff.2 hdivides, halone⟩

theorem OpenRun.close_later_append (run : List α) (later more : List (List α)) :
    (OpenRun.mk run (later ++ more)).close = (OpenRun.mk run later).close ++ more := by
  cases run with
  | nil => rfl
  | cons c run => rfl

/-- Runs that are already closed stay as they are while more is read. -/
theorem foldr_read_closed (items : List α) (more : List (List α)) :
    items.foldr (OpenRun.read divides standsAlone) ⟨[], more⟩ =
      ⟨(items.foldr (OpenRun.read divides standsAlone) ⟨[], []⟩).run,
        (items.foldr (OpenRun.read divides standsAlone) ⟨[], []⟩).later ++ more⟩ := by
  induction items with
  | nil => rfl
  | cons c items ih =>
      rw [List.foldr_cons, ih, List.foldr_cons]
      by_cases hdivides : divides c = true
      · simp [OpenRun.read, hdivides, OpenRun.close_later_append]
      · by_cases halone : standsAlone c = true
        · simp [OpenRun.read, hdivides, halone, OpenRun.close_later_append]
        · simp [OpenRun.read, hdivides, halone]

/-! ### The two equations -/

/-- A sequence divides at an item that divides. -/
theorem divide_append_cons_divides {c : α} (hc : divides c = true) (before after : List α) :
    divide divides standsAlone (before ++ c :: after) =
      divide divides standsAlone before ++ divide divides standsAlone after := by
  have hread : (c :: after).foldr (OpenRun.read divides standsAlone) ⟨[], []⟩ =
      ⟨[], divide divides standsAlone after⟩ := by
    simp [OpenRun.read, hc, divide]
  rw [divide, List.foldr_append, hread, foldr_read_closed, OpenRun.close_later_append]
  rfl

/-- A sequence divides around an item that stands alone. -/
theorem divide_append_cons_standsAlone {c : α} (hdivides : divides c = false)
    (halone : standsAlone c = true) (before after : List α) :
    divide divides standsAlone (before ++ c :: after) =
      divide divides standsAlone before ++ [c] :: divide divides standsAlone after := by
  have hread : (c :: after).foldr (OpenRun.read divides standsAlone) ⟨[], []⟩ =
      ⟨[], [c] :: divide divides standsAlone after⟩ := by
    simp [OpenRun.read, hdivides, halone, divide]
  rw [divide, List.foldr_append, hread, foldr_read_closed, OpenRun.close_later_append]
  rfl

@[simp] theorem divide_nil : divide divides standsAlone [] = [] := rfl

theorem divide_cons_divides {c : α} (hc : divides c = true) (after : List α) :
    divide divides standsAlone (c :: after) = divide divides standsAlone after := by
  simpa using divide_append_cons_divides hc [] after

theorem divide_cons_standsAlone {c : α} (hdivides : divides c = false)
    (halone : standsAlone c = true) (after : List α) :
    divide divides standsAlone (c :: after) = [c] :: divide divides standsAlone after := by
  simpa using divide_append_cons_standsAlone hdivides halone [] after

/-- Items that divide have no runs between them. -/
theorem divide_eq_nil {items : List α} (h : ∀ c ∈ items, divides c = true) :
    divide divides standsAlone items = [] := by
  induction items with
  | nil => rfl
  | cons c items ih =>
      rw [divide_cons_divides (h c (by simp))]
      exact ih fun x hx => h x (by simp [hx])

/-! ### Joining two sequences

Two sequences divide independently as soon as the first one ends, or the second one starts, with an
item that ends a run. -/

theorem divide_cons_breaks {c : α} (hc : breaks divides standsAlone c = true)
    (before after : List α) :
    divide divides standsAlone (before ++ c :: after) =
      divide divides standsAlone before ++ divide divides standsAlone (c :: after) := by
  rcases breaks_cases hc with hdivides | ⟨hdivides, halone⟩
  · rw [divide_append_cons_divides hdivides, divide_cons_divides hdivides]
  · rw [divide_append_cons_standsAlone hdivides halone, divide_cons_standsAlone hdivides halone]

theorem divide_append_of_head? {before after : List α}
    (h : ∀ c ∈ after.head?, breaks divides standsAlone c = true) :
    divide divides standsAlone (before ++ after) =
      divide divides standsAlone before ++ divide divides standsAlone after := by
  cases after with
  | nil => simp
  | cons c after => exact divide_cons_breaks (h c (by simp)) before after

theorem divide_append_of_getLast? {before after : List α}
    (h : ∀ c ∈ before.getLast?, breaks divides standsAlone c = true) :
    divide divides standsAlone (before ++ after) =
      divide divides standsAlone before ++ divide divides standsAlone after := by
  rcases List.eq_nil_or_concat before with rfl | ⟨front, c, rfl⟩
  · simp
  · have hc : breaks divides standsAlone c = true := h c (by simp)
    rcases breaks_cases hc with hdivides | ⟨hdivides, halone⟩
    · simp [List.append_assoc, divide_append_cons_divides hdivides]
    · simp [List.append_assoc, divide_append_cons_standsAlone hdivides halone]

/-! ### Single runs -/

/-- Items that do not end a run are all read into the open run. -/
theorem foldr_read_run {run : List α} (h : ∀ c ∈ run, breaks divides standsAlone c = false) :
    run.foldr (OpenRun.read divides standsAlone) ⟨[], []⟩ = ⟨run, []⟩ := by
  induction run with
  | nil => rfl
  | cons c run ih =>
      have hc : breaks divides standsAlone c = false := h c (by simp)
      simp only [breaks, Bool.or_eq_false_iff] at hc
      rw [List.foldr_cons, ih fun x hx => h x (by simp [hx])]
      simp [OpenRun.read, hc.1, hc.2]

/-- Items that do not end a run are one run. -/
theorem divide_eq_singleton {run : List α} (hne : run ≠ [])
    (h : ∀ c ∈ run, breaks divides standsAlone c = false) :
    divide divides standsAlone run = [run] := by
  rw [divide, foldr_read_run h]
  cases run with
  | nil => exact absurd rfl hne
  | cons c run => rfl

/-- A sequence is empty, or starts with an item that ends a run, or starts with a run. -/
theorem run_cases (divides standsAlone : α → Bool) (items : List α) :
    items = [] ∨
      (∃ c rest, items = c :: rest ∧ breaks divides standsAlone c = true) ∨
      ∃ run rest, items = run ++ rest ∧ run ≠ [] ∧
        (∀ c ∈ run, breaks divides standsAlone c = false) ∧
        ∀ c ∈ rest.head?, breaks divides standsAlone c = true := by
  cases items with
  | nil => exact Or.inl rfl
  | cons c rest =>
      by_cases hc : breaks divides standsAlone c = true
      · exact Or.inr (Or.inl ⟨c, rest, rfl, hc⟩)
      · refine Or.inr (Or.inr ⟨(c :: rest).takeWhile (!breaks divides standsAlone ·),
          (c :: rest).dropWhile (!breaks divides standsAlone ·),
          List.takeWhile_append_dropWhile.symm, by simp [hc], ?_, ?_⟩)
        · intro x hx
          have := List.all_eq_true.1 List.all_takeWhile x hx
          simpa using this
        · intro x hx
          have := List.head?_dropWhile_not (!breaks divides standsAlone ·) (c :: rest)
          rw [Option.mem_def.1 hx] at this
          simpa using this

/-- Induction along the runs of a sequence. -/
theorem run_induction (divides standsAlone : α → Bool) {motive : List α → Prop}
    (nil : motive [])
    (cons : ∀ c rest, breaks divides standsAlone c = true → motive rest → motive (c :: rest))
    (append : ∀ run rest, run ≠ [] → (∀ c ∈ run, breaks divides standsAlone c = false) →
      (∀ c ∈ rest.head?, breaks divides standsAlone c = true) → motive rest →
      motive (run ++ rest)) :
    ∀ items, motive items := by
  intro items
  induction hlength : items.length using Nat.strongRecOn generalizing items with
  | ind n ih =>
      subst hlength
      rcases run_cases divides standsAlone items with
        rfl | ⟨c, rest, rfl, hc⟩ | ⟨run, rest, rfl, hne, hrun, hrest⟩
      · exact nil
      · exact cons c rest hc (ih _ (by simp) rest rfl)
      · have hlt : rest.length < (run ++ rest).length := by
          have := List.length_pos_iff.2 hne
          simp only [List.length_append]
          omega
        exact append run rest hne hrun hrest (ih _ hlt rest rfl)

theorem divide_run_append {run rest : List α} (hne : run ≠ [])
    (hrun : ∀ c ∈ run, breaks divides standsAlone c = false)
    (hrest : ∀ c ∈ rest.head?, breaks divides standsAlone c = true) :
    divide divides standsAlone (run ++ rest) = run :: divide divides standsAlone rest := by
  rw [divide_append_of_head? hrest, divide_eq_singleton hne hrun]
  rfl

/-! ### What the runs are -/

/-- A run is an item that stands alone, or a stretch of items of which none ends a run, between two
that do. -/
theorem mem_divide {run items : List α} (h : run ∈ divide divides standsAlone items) :
    (∃ c, run = [c] ∧ divides c = false ∧ standsAlone c = true) ∨
      ∃ before after, items = before ++ run ++ after ∧ run ≠ [] ∧
        (∀ c ∈ run, breaks divides standsAlone c = false) ∧
        (∀ c ∈ before.getLast?, breaks divides standsAlone c = true) ∧
        ∀ c ∈ after.head?, breaks divides standsAlone c = true := by
  induction items using run_induction divides standsAlone with
  | nil => simp at h
  | cons c rest hc ih =>
      have hcases : run ∈ divide divides standsAlone rest ∨
          run = [c] ∧ divides c = false ∧ standsAlone c = true := by
        rcases breaks_cases hc with hdivides | ⟨hdivides, halone⟩
        · rw [divide_cons_divides hdivides] at h
          exact Or.inl h
        · rw [divide_cons_standsAlone hdivides halone, List.mem_cons] at h
          exact h.symm.imp_right fun hrun => ⟨hrun, hdivides, halone⟩
      rcases hcases with hmem | halone
      · refine (ih hmem).imp_right ?_
        rintro ⟨before, after, rfl, hne, hrun, hbefore, hafter⟩
        refine ⟨c :: before, after, by simp, hne, hrun, ?_, hafter⟩
        intro x hx
        rw [List.getLast?_cons, Option.mem_some_iff] at hx
        cases hlast : before.getLast? with
        | none => simpa [hlast, ← hx] using hc
        | some last => simpa [hlast, ← hx] using hbefore last hlast
      · exact Or.inl ⟨c, halone⟩
  | append first rest hne hfirst hrest ih =>
      rw [divide_run_append hne hfirst hrest, List.mem_cons] at h
      rcases h with rfl | hmem
      · exact Or.inr ⟨[], rest, by simp, hne, hfirst, by simp, hrest⟩
      · refine (ih hmem).imp_right ?_
        rintro ⟨before, after, rfl, hne', hrun, hbefore, hafter⟩
        refine ⟨first ++ before, after, by simp, hne', hrun, ?_, hafter⟩
        -- The items before the run are not only the first run, which would go on otherwise.
        cases before with
        | nil =>
            obtain ⟨x, run, rfl⟩ := List.exists_cons_of_ne_nil hne'
            have hx := hrest x (by simp)
            rw [hrun x (by simp)] at hx
            exact absurd hx (by simp)
        | cons x before =>
            intro y hy
            exact hbefore y (by simpa using hy)

/-- Every run has a place: what comes before it has the runs before it, and what comes after it has
the runs after it. -/
theorem exists_place_of_divide_eq {items run : List α} {earlier later : List (List α)}
    (h : divide divides standsAlone items = earlier ++ run :: later) :
    ∃ before after, items = before ++ (run ++ after) ∧
      divide divides standsAlone before = earlier ∧ divide divides standsAlone after = later := by
  induction items using run_induction divides standsAlone generalizing earlier with
  | nil => simp at h
  | cons c rest hc ih =>
      rcases breaks_cases hc with hdivides | ⟨hdivides, halone⟩
      · rw [divide_cons_divides hdivides] at h
        obtain ⟨before, after, rfl, rfl, hafter⟩ := ih h
        exact ⟨c :: before, after, rfl, divide_cons_divides hdivides before, hafter⟩
      · rw [divide_cons_standsAlone hdivides halone] at h
        rcases List.cons_eq_append_iff.1 h with ⟨rfl, hrun⟩ | ⟨earlier, rfl, hrest⟩
        · obtain ⟨rfl, rfl⟩ := List.cons_eq_cons.1 hrun
          exact ⟨[], rest, rfl, rfl, rfl⟩
        · obtain ⟨before, after, rfl, rfl, hafter⟩ := ih hrest
          exact ⟨c :: before, after, rfl, divide_cons_standsAlone hdivides halone before, hafter⟩
  | append first rest hne hfirst hrest ih =>
      rw [divide_run_append hne hfirst hrest] at h
      rcases List.cons_eq_append_iff.1 h with ⟨rfl, hrun⟩ | ⟨earlier, rfl, hlater⟩
      · obtain ⟨rfl, rfl⟩ := List.cons_eq_cons.1 hrun
        exact ⟨[], rest, rfl, rfl, rfl⟩
      · obtain ⟨before, after, rfl, rfl, hafter⟩ := ih hlater
        refine ⟨first ++ before, after, by simp, divide_run_append hne hfirst ?_, hafter⟩
        intro c hc
        apply hrest c
        rw [List.head?_append, Option.mem_def.1 hc]
        rfl

/-- The runs hold all items that do not divide, in order. -/
theorem flatten_divide (items : List α) :
    (divide divides standsAlone items).flatten = items.filter (!divides ·) := by
  induction items using run_induction divides standsAlone with
  | nil => rfl
  | cons c rest hc ih =>
      rcases breaks_cases hc with hdivides | ⟨hdivides, halone⟩
      · rw [divide_cons_divides hdivides, ih]
        simp [hdivides]
      · rw [divide_cons_standsAlone hdivides halone]
        simp [hdivides, ih]
  | append run rest hne hrun hrest ih =>
      have hkept : run.filter (!divides ·) = run := by
        apply List.filter_eq_self.2
        intro c hc
        have := hrun c hc
        simp only [breaks, Bool.or_eq_false_iff] at this
        simp [this.1]
      rw [divide_run_append hne hrun hrest, List.flatten_cons, ih, List.filter_append, hkept]

/-- Images divide as the items do, if an item and its image agree on what divides and on what
stands alone. -/
theorem map_divide (f : α → β) {divides' standsAlone' : β → Bool}
    (hdivide : ∀ c, divides' (f c) = divides c)
    (hstand : ∀ c, standsAlone' (f c) = standsAlone c) (items : List α) :
    (divide divides standsAlone items).map (List.map f) =
      divide divides' standsAlone' (items.map f) := by
  induction items using run_induction divides standsAlone with
  | nil => rfl
  | cons c rest hc ih =>
      rcases breaks_cases hc with hdivides | ⟨hdivides, halone⟩
      · rw [divide_cons_divides hdivides, ih, List.map_cons,
          divide_cons_divides ((hdivide c).trans hdivides)]
      · rw [divide_cons_standsAlone hdivides halone, List.map_cons, ih, List.map_singleton,
          List.map_cons,
          divide_cons_standsAlone ((hdivide c).trans hdivides) ((hstand c).trans halone)]
  | append run rest hne hrun hrest ih =>
      have hbreaks : ∀ c, breaks divides' standsAlone' (f c) = breaks divides standsAlone c := by
        intro c
        rw [breaks, hdivide, hstand, breaks]
      have hrun' : ∀ c ∈ run.map f, breaks divides' standsAlone' c = false := by
        intro c hc
        obtain ⟨x, hx, rfl⟩ := List.mem_map.1 hc
        exact (hbreaks x).trans (hrun x hx)
      have hrest' : ∀ c ∈ (rest.map f).head?, breaks divides' standsAlone' c = true := by
        intro c hc
        rw [List.head?_map] at hc
        obtain ⟨x, hx, rfl⟩ := Option.map_eq_some_iff.1 hc
        exact (hbreaks x).trans (hrest x hx)
      rw [divide_run_append hne hrun hrest, List.map_cons, ih, List.map_append,
        divide_run_append (by simpa using hne) hrun' hrest']

end SqlTidy.Text
