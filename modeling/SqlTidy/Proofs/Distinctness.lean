/-
Module: SqlTidy.Proofs.Distinctness
Purpose: The search for repetitions in a list of texts finds one exactly if there is one.
Main exports: Value.takeRun_strings, Value.firstRun_strings, Value.placeOf_strings,
  Value.insertOrdered_strings, Value.ordered?_strings, Value.allDistinct_strings
-/
import Mathlib
import SqlTidy.Json.Order

namespace SqlTidy.Json.Value

/-!
A list is searched for repetitions by sorting it and comparing neighbours, and sorting is a first
run and then insertion by halving.  On arbitrary values the order is partial and the sort may give
up or miss a repetition.  Texts are ordered by their code points, each with each, so on texts the
sort comes to its end, and equal texts end up as neighbours.
-/

/-! ### Comparing texts -/

theorem ranks?_string (text other : CodePoints) :
    ranks? (.string text) (.string other) = some (decide (text < other)) := by
  simp [ranks?, kind, precedes?]

theorem same_string (boolsCount : Bool) (text other : CodePoints) :
    same boolsCount (.string text) (.string other) = (text == other) := by
  simp [same]

/-- Texts in order: none comes before an earlier one. -/
def InOrder (texts : List CodePoints) : Prop :=
  texts.Pairwise fun text other => ¬ other < text

/-! ### The first run

A run is taken while each text stands to the one before it in the same way, below it or not below
it.  Both ways pass on along the run, so its last text decides for all of them. -/

theorem decide_lt_trans {follows : Bool} {text middle other : CodePoints}
    (h : decide (text < middle) = follows) (h' : decide (middle < other) = follows) :
    decide (text < other) = follows := by
  cases follows with
  | true => exact decide_eq_true (lt_trans (of_decide_eq_true h) (of_decide_eq_true h'))
  | false =>
      apply decide_eq_false
      have hle : middle ≤ text := not_lt.1 (of_decide_eq_false h)
      have hle' : other ≤ middle := not_lt.1 (of_decide_eq_false h')
      exact not_lt.2 (le_trans hle' hle)

theorem takeRun_strings (follows : Bool) {run : List CodePoints} (rest : List CodePoints)
    (hrun : run.Pairwise fun text earlier => decide (text < earlier) = follows) :
    ∃ taken left : List CodePoints, takeRun follows (run.map .string) (rest.map .string) =
        some (taken.map .string, left.map .string) ∧
      (taken.Pairwise fun text earlier => decide (text < earlier) = follows) ∧
      taken.reverse ++ left = run.reverse ++ rest := by
  induction rest generalizing run with
  | nil =>
      refine ⟨run, [], ?_, hrun, rfl⟩
      cases run <;> rfl
  | cons text rest ih =>
      cases run with
      | nil => exact ⟨[], text :: rest, rfl, hrun, rfl⟩
      | cons last run =>
          by_cases hfollows : decide (text < last) = follows
          · have hpair : (text :: last :: run).Pairwise
                fun text earlier => decide (text < earlier) = follows := by
              refine List.pairwise_cons.2 ⟨fun other hother => ?_, hrun⟩
              rcases List.mem_cons.1 hother with rfl | hother
              · exact hfollows
              · exact decide_lt_trans hfollows (List.rel_of_pairwise_cons hrun hother)
            obtain ⟨taken, left, htake, htaken, happend⟩ := ih hpair
            refine ⟨taken, left, ?_, htaken, by simpa using happend⟩
            simpa [takeRun, ranks?_string, hfollows] using htake
          · refine ⟨last :: run, text :: rest, ?_, hrun, rfl⟩
            simp [takeRun, ranks?_string, hfollows]

theorem firstRun_strings (texts : List CodePoints) :
    ∃ run rest : List CodePoints,
      firstRun (texts.map .string) = some (run.map .string, rest.map .string) ∧
      InOrder run ∧ (run ++ rest).Perm texts := by
  rcases texts with _ | ⟨first, _ | ⟨second, others⟩⟩
  · exact ⟨[], [], rfl, .nil, .refl _⟩
  · exact ⟨[first], [], rfl, List.pairwise_singleton _ _, .refl _⟩
  · have hpair : [second, first].Pairwise
        fun text earlier => decide (text < earlier) = decide (second < first) := by
      simp
    obtain ⟨taken, left, htake, htaken, happend⟩ :=
      takeRun_strings (decide (second < first)) others hpair
    have hperm : (taken.reverse ++ left).Perm (first :: second :: others) := by
      rw [happend]
      exact .refl _
    by_cases hless : second < first
    · -- A falling run is kept last first, which is its order.
      refine ⟨taken, left, ?_, ?_, ?_⟩
      · simpa [firstRun, ranks?_string, hless] using htake
      · exact htaken.imp fun {text other} h => by
          have hlt : text < other := by simpa [hless] using h
          exact lt_asymm hlt
      · exact (taken.reverse_perm.symm.append_right left).trans hperm
    · refine ⟨taken.reverse, left, ?_, ?_, hperm⟩
      · have htake' : takeRun false [.string second, .string first] (others.map .string) =
            some (taken.map .string, left.map .string) := by
          simpa [hless] using htake
        simp [firstRun, ranks?_string, hless, htake']
      · exact List.pairwise_reverse.2 (htaken.imp fun h => by simpa [hless] using h)

/-! ### Insertion -/

/-- The place of a text among others: it does not come before those on the left, and it comes before
those on the right. -/
structure IsPlace (text : CodePoints) (ordered : List CodePoints) (low high : Nat) : Prop where
  low_le : low ≤ high
  high_le : high ≤ ordered.length
  left : ∀ other ∈ ordered.take low, ¬ text < other
  right : ∀ other ∈ ordered.drop high, text < other

namespace IsPlace

variable {text : CodePoints} {ordered : List CodePoints} {low high middle : Nat}

/-- Halving to the left: what comes after a greater text is greater. -/
theorem lower (h : IsPlace text ordered low high) (hordered : InOrder ordered)
    (hmiddle : low ≤ middle) (hlt : middle < ordered.length) (hless : text < ordered[middle]) :
    IsPlace text ordered low middle where
  low_le := hmiddle
  high_le := hlt.le
  left := h.left
  right := by
    intro other hother
    rw [List.drop_eq_getElem_cons hlt] at hother
    rcases List.mem_cons.1 hother with rfl | hother
    · exact hless
    · have hpair : (ordered.drop middle).Pairwise fun text other => ¬ other < text :=
        List.Pairwise.sublist (List.drop_sublist middle ordered) hordered
      rw [List.drop_eq_getElem_cons hlt] at hpair
      exact lt_of_lt_of_le hless (not_lt.1 (List.rel_of_pairwise_cons hpair hother))

/-- Halving to the right: what comes before a text that is not greater is not greater. -/
theorem raise (h : IsPlace text ordered low high) (hordered : InOrder ordered)
    (hmiddle : middle < high) (hlt : middle < ordered.length)
    (hless : ¬ text < ordered[middle]) : IsPlace text ordered (middle + 1) high where
  low_le := hmiddle
  high_le := h.high_le
  left := by
    intro other hother
    rw [List.take_succ_eq_append_getElem hlt, List.mem_append, List.mem_singleton] at hother
    rcases hother with hother | rfl
    · have hpair : (ordered.take middle ++ ordered.drop middle).Pairwise
          fun text other => ¬ other < text := by
        rw [List.take_append_drop]
        exact hordered
      have hmem : ordered[middle] ∈ ordered.drop middle := by
        rw [List.drop_eq_getElem_cons hlt]
        exact List.mem_cons_self
      have hle := (List.pairwise_append.1 hpair).2.2 other hother _ hmem
      exact not_lt.2 (le_trans (not_lt.1 hle) (not_lt.1 hless))
    · exact hless
  right := h.right

end IsPlace

theorem placeOf_strings {text : CodePoints} {ordered : List CodePoints}
    (hordered : InOrder ordered) {fuel low high : Nat} (h : IsPlace text ordered low high)
    (hfuel : high - low < fuel) :
    ∃ place, placeOf (.string text) (ordered.map .string) fuel low high = some place ∧
      IsPlace text ordered place place := by
  induction fuel generalizing low high with
  | zero => omega
  | succ fuel ih =>
      by_cases hlow : low < high
      · have hmiddle : low + (high - low) / 2 < high := by omega
        have hlt : low + (high - low) / 2 < ordered.length := lt_of_lt_of_le hmiddle h.high_le
        have hget : (ordered.map Value.string)[low + (high - low) / 2]? =
            some (.string ordered[low + (high - low) / 2]) := by
          rw [List.getElem?_map, List.getElem?_eq_getElem hlt]
          rfl
        by_cases hless : text < ordered[low + (high - low) / 2]
        · obtain ⟨place, hplace, his⟩ :=
            ih (h.lower hordered (by omega) hlt hless) (by omega)
          refine ⟨place, ?_, his⟩
          simpa [placeOf, hlow, hget, ranks?_string, hless] using hplace
        · obtain ⟨place, hplace, his⟩ :=
            ih (h.raise hordered hmiddle hlt hless) (by omega)
          refine ⟨place, ?_, his⟩
          simpa [placeOf, hlow, hget, ranks?_string, hless] using hplace
      · obtain rfl : low = high := le_antisymm h.low_le (not_lt.1 hlow)
        exact ⟨low, by simp [placeOf], h⟩

theorem insertOrdered_strings (text : CodePoints) {ordered : List CodePoints}
    (hordered : InOrder ordered) :
    ∃ result : List CodePoints,
      insertOrdered (ordered.map .string) (.string text) = some (result.map .string) ∧
      InOrder result ∧ result.Perm (text :: ordered) := by
  have hstart : IsPlace text ordered 0 ordered.length := {
    low_le := Nat.zero_le _
    high_le := le_rfl
    left := by simp
    right := by simp }
  have hfuel : ordered.length - 0 < ordered.length + 1 := by omega
  obtain ⟨place, hplace, his⟩ := placeOf_strings hordered hstart hfuel
  refine ⟨ordered.take place ++ text :: ordered.drop place, ?_, ?_, ?_⟩
  · rw [insertOrdered, List.length_map, hplace, Option.map_some]
    simp
  · have hparts : (ordered.take place ++ ordered.drop place).Pairwise
        fun text other => ¬ other < text := by
      rw [List.take_append_drop]
      exact hordered
    obtain ⟨hleft, hright, hcross⟩ := List.pairwise_append.1 hparts
    refine List.pairwise_append.2 ⟨hleft, List.pairwise_cons.2 ⟨?_, hright⟩, ?_⟩
    · intro other hother
      exact lt_asymm (his.right other hother)
    · intro other hother later hlater
      rcases List.mem_cons.1 hlater with rfl | hlater
      · exact his.left other hother
      · exact hcross other hother later hlater
  · have hmiddle := @List.perm_middle _ text (ordered.take place) (ordered.drop place)
    rwa [List.take_append_drop] at hmiddle

theorem foldlM_insertOrdered_strings (texts : List CodePoints) {ordered : List CodePoints}
    (hordered : InOrder ordered) :
    ∃ result : List CodePoints,
      (texts.map Value.string).foldlM insertOrdered (ordered.map .string) =
        some (result.map .string) ∧
      InOrder result ∧ result.Perm (ordered ++ texts) := by
  induction texts generalizing ordered with
  | nil => exact ⟨ordered, rfl, hordered, by simp⟩
  | cons text texts ih =>
      obtain ⟨next, hnext, hinorder, hperm⟩ := insertOrdered_strings text hordered
      obtain ⟨result, hresult, hsorted, hpermAll⟩ := ih hinorder
      refine ⟨result, ?_, hsorted, ?_⟩
      · rw [List.map_cons, List.foldlM_cons, hnext]
        exact hresult
      · exact hpermAll.trans ((hperm.append_right texts).trans List.perm_middle.symm)

/-- Texts can always be ordered. -/
theorem ordered?_strings (texts : List CodePoints) :
    ∃ result : List CodePoints,
      ordered? (texts.map .string) = some (result.map .string) ∧ InOrder result ∧
      result.Perm texts := by
  obtain ⟨run, rest, hrun, hinorder, hperm⟩ := firstRun_strings texts
  obtain ⟨result, hresult, hsorted, hpermAll⟩ := foldlM_insertOrdered_strings rest hinorder
  refine ⟨result, ?_, hsorted, hpermAll.trans hperm⟩
  simp [ordered?, hrun, hresult]

/-! ### Neighbours -/

/-- Among texts in order, equal ones are neighbours. -/
theorem repeatsNeighbour_strings {texts : List CodePoints} (h : InOrder texts) :
    repeatsNeighbour (texts.map .string) = false ↔ texts.Nodup := by
  induction texts with
  | nil => simp [repeatsNeighbour]
  | cons text texts ih =>
      cases texts with
      | nil => simp [repeatsNeighbour]
      | cons next texts =>
          have hnext : InOrder (next :: texts) := List.Pairwise.of_cons h
          have hmem : text ∈ next :: texts ↔ text = next := by
            refine ⟨fun hmem => ?_, fun heq => by simp [heq]⟩
            rcases List.mem_cons.1 hmem with rfl | hmem
            · rfl
            · have hle := List.rel_of_pairwise_cons h List.mem_cons_self
              have hge := List.rel_of_pairwise_cons hnext hmem
              exact le_antisymm (not_lt.1 hle) (not_lt.1 hge)
          have hstep : repeatsNeighbour ((text :: next :: texts).map .string) =
              (text == next || repeatsNeighbour ((next :: texts).map .string)) := by
            simp [repeatsNeighbour, same_string]
          rw [hstep, Bool.or_eq_false_iff, ih hnext, beq_eq_false_iff_ne,
            @List.nodup_cons _ text, hmem]

/-- The search finds no repetition in a list of texts exactly if they are distinct. -/
theorem allDistinct_strings (texts : List CodePoints) :
    allDistinct (texts.map .string) = true ↔ texts.Nodup := by
  obtain ⟨result, hresult, hinorder, hperm⟩ := ordered?_strings texts
  rw [← hperm.nodup_iff, ← repeatsNeighbour_strings hinorder]
  simp [allDistinct, hresult]

end SqlTidy.Json.Value
