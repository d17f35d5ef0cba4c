/-
Module: SqlTidy.Proofs.Patterns
Purpose: A pattern is found in a text exactly if a part of the text fits it, and what fits the
  patterns that are built from others.
Main exports: Pattern.Fits, Pattern.Found, Pattern.follows_ends, Pattern.isFound_iff,
  Pattern.fits_seq_iff, Pattern.fits_many_iff
-/
import Mathlib
import SqlTidy.Text.Pattern

namespace SqlTidy.Text.Pattern

/-!
What fits a pattern is said part by part, with the text on both sides of the part, since the marks
for the ends of a text look at nothing else.  The search goes through places instead, and never
repeats a part that takes no code point.  That loses nothing: such a part ends where it starts.
-/

/-- A part of a text fits a pattern, given the code points before and after it. -/
inductive Fits : Pattern → (before part after : List Nat) → Prop
  | empty {before after : List Nat} : Fits .empty before [] after
  | start {after : List Nat} : Fits .start [] [] after
  | finish {before : List Nat} : Fits .finish before [] []
  | beforeFeed {before : List Nat} : Fits .finish before [] [0xA]
  | oneOf {ranges : List (Nat × Nat)} {n : Nat} {before after : List Nat}
      (hrange : ∃ range ∈ ranges, range.1 ≤ n ∧ n ≤ range.2) :
      Fits (.oneOf ranges) before [n] after
  | seq {first second : Pattern} {before part more after : List Nat}
      (hfirst : Fits first before part (more ++ after))
      (hsecond : Fits second (before ++ part) more after) :
      Fits (.seq first second) before (part ++ more) after
  | none {body : Pattern} {before after : List Nat} : Fits (.many body) before [] after
  | more {body : Pattern} {before part more after : List Nat}
      (hfirst : Fits body before part (more ++ after))
      (hrest : Fits (.many body) (before ++ part) more after) :
      Fits (.many body) before (part ++ more) after

/-- Some part of the text fits the pattern. -/
def Found (pattern : Pattern) (text : List Nat) : Prop :=
  ∃ before part after, text = before ++ (part ++ after) ∧ pattern.Fits before part after

/-! ### The search -/

/-- The place between two parts of a text. -/
def spotAt (before rest : List Nat) : Spot :=
  ⟨before.isEmpty, rest⟩

/-- A step from place to place leads over the parts that fit the pattern. -/
def Follows (step : Spot → List Spot) (pattern : Pattern) : Prop :=
  ∀ before rest spot, spot ∈ step (spotAt before rest) ↔
    ∃ part after, rest = part ++ after ∧ pattern.Fits before part after ∧
      spot = spotAt (before ++ part) after

variable {step : Spot → List Spot} {body : Pattern} {before part rest after : List Nat}
  {fuel : Nat} {spot : Spot}

theorem fits_of_mem_reach (hstep : Follows step body)
    (h : spot ∈ reach step fuel (spotAt before rest)) :
    ∃ part after, rest = part ++ after ∧ Fits (.many body) before part after ∧
      spot = spotAt (before ++ part) after := by
  induction fuel generalizing before rest with
  | zero =>
      obtain rfl := List.mem_singleton.1 h
      exact ⟨[], rest, rfl, .none, by rw [List.append_nil]⟩
  | succ fuel ih =>
      rw [reach, List.mem_cons, List.mem_flatMap] at h
      rcases h with rfl | ⟨next, hnext, hspot⟩
      · exact ⟨[], rest, rfl, .none, by rw [List.append_nil]⟩
      · obtain ⟨part, middle, rfl, hpart, rfl⟩ :=
          (hstep before rest next).1 (List.mem_filter.1 hnext).1
        obtain ⟨more, after, rfl, hmore, rfl⟩ := ih hspot
        exact ⟨part ++ more, after, by simp, .more hpart hmore, by simp⟩

/-- Repeated parts are reached one by one, without those that take nothing. -/
theorem mem_reach_of_fits (hstep : Follows step body) (h : Fits (.many body) before part after)
    (hfuel : (part ++ after).length ≤ fuel) :
    spotAt (before ++ part) after ∈ reach step fuel (spotAt before (part ++ after)) := by
  have hhere : ∀ spot, spot ∈ reach step fuel spot := by
    intro spot
    cases fuel <;> simp [reach]
  generalize hmany : Pattern.many body = pattern at h
  induction h generalizing fuel with
  | none =>
      rw [List.append_nil, List.nil_append]
      exact hhere _
  | @more _ before first more after hfirst hrest _ ih =>
      cases hmany
      rw [List.append_assoc] at hfuel ⊢
      rw [← List.append_assoc before]
      cases first with
      | nil =>
          rw [List.append_nil] at ih ⊢
          exact ih hfuel hhere rfl
      | cons n first =>
          obtain ⟨fuel, rfl⟩ : ∃ k, fuel = k + 1 :=
            ⟨fuel - 1, by simp only [List.length_append, List.length_cons] at hfuel; omega⟩
          rw [reach, List.mem_cons, List.mem_flatMap]
          have hnext := (hstep before _ _).2 ⟨_, _, rfl, hfirst, rfl⟩
          refine Or.inr ⟨_, List.mem_filter.2 ⟨hnext, by simp [spotAt]⟩, ?_⟩
          refine ih ?_ (fun spot => by cases fuel <;> simp [reach]) rfl
          simp only [List.length_append, List.length_cons] at hfuel ⊢
          omega
  | empty | start | finish | beforeFeed | oneOf | seq => cases hmany

theorem follows_reach (hstep : Follows step body) :
    Follows (fun spot => reach step spot.rest.length spot) (.many body) := by
  intro before rest spot
  constructor
  · exact fits_of_mem_reach hstep
  · rintro ⟨part, after, rfl, hfits, rfl⟩
    exact mem_reach_of_fits hstep hfits le_rfl

/-- The search follows the pattern. -/
theorem follows_ends (pattern : Pattern) : Follows pattern.ends pattern := by
  induction pattern with
  | empty =>
      intro before rest spot
      rw [ends, List.mem_singleton]
      constructor
      · rintro rfl
        exact ⟨[], rest, rfl, .empty, by rw [List.append_nil]⟩
      · rintro ⟨part, after, rfl, hfits, rfl⟩
        cases hfits
        simp
  | start =>
      intro before rest spot
      constructor
      · intro h
        cases before with
        | nil =>
            obtain rfl := List.mem_singleton.1 h
            exact ⟨[], rest, rfl, .start, rfl⟩
        | cons n before => simp [ends, spotAt] at h
      · rintro ⟨part, after, rfl, hfits, rfl⟩
        cases hfits
        simp [ends, spotAt]
  | finish =>
      intro before rest spot
      constructor
      · intro h
        rw [ends] at h
        split at h
        · rename_i hend
          obtain rfl := List.mem_singleton.1 h
          simp only [spotAt, Bool.or_eq_true, List.isEmpty_iff, beq_iff_eq] at hend
          rcases hend with rfl | rfl
          · exact ⟨[], [], rfl, .finish, by rw [List.append_nil]⟩
          · exact ⟨[], [0xA], rfl, .beforeFeed, by rw [List.append_nil]⟩
        · simp at h
      · rintro ⟨part, after, rfl, hfits, rfl⟩
        cases hfits <;> simp [ends, spotAt]
  | oneOf ranges =>
      intro before rest spot
      constructor
      · intro h
        cases rest with
        | nil => simp [ends, spotAt] at h
        | cons n rest =>
            simp only [ends, spotAt] at h
            split at h
            · rename_i hrange
              obtain rfl := List.mem_singleton.1 h
              simp only [List.any_eq_true, Bool.and_eq_true, decide_eq_true_eq] at hrange
              exact ⟨[n], rest, rfl, .oneOf hrange, by simp [spotAt]⟩
            · simp at h
      · rintro ⟨part, after, rfl, hfits, rfl⟩
        cases hfits with
        | @oneOf _ n _ _ hrange =>
            have hany : (ranges.any fun range => range.1 ≤ n && n ≤ range.2) = true := by
              simpa using hrange
            simp [ends, spotAt, hany]
  | seq first second hfirst hsecond =>
      intro before rest spot
      rw [ends, List.mem_flatMap]
      constructor
      · rintro ⟨next, hnext, hspot⟩
        obtain ⟨part, middle, rfl, hpart, rfl⟩ := (hfirst before rest next).1 hnext
        obtain ⟨more, after, rfl, hmore, rfl⟩ := (hsecond _ _ spot).1 hspot
        exact ⟨part ++ more, after, by simp, .seq hpart hmore, by simp⟩
      · rintro ⟨whole, after, rfl, hfits, rfl⟩
        cases hfits with
        | @seq _ _ _ part more _ hpart hmore =>
            refine ⟨spotAt (before ++ part) (more ++ after), ?_, ?_⟩
            · exact (hfirst _ _ _).2 ⟨part, _, by simp, hpart, rfl⟩
            · exact (hsecond _ _ _).2 ⟨more, after, rfl, hmore, by simp⟩
  | many body hbody => exact follows_reach hbody

theorem ends_ne_nil_iff (pattern : Pattern) (before rest : List Nat) :
    (!(pattern.ends ⟨before.isEmpty, rest⟩).isEmpty) = true ↔
      ∃ part after, rest = part ++ after ∧ pattern.Fits before part after := by
  rw [Bool.not_eq_true', List.isEmpty_eq_false_iff_exists_mem]
  constructor
  · rintro ⟨spot, hspot⟩
    obtain ⟨part, after, hrest, hfits, _⟩ := (follows_ends pattern before rest spot).1 hspot
    exact ⟨part, after, hrest, hfits⟩
  · rintro ⟨part, after, hrest, hfits⟩
    exact ⟨_, (follows_ends pattern before rest _).2 ⟨part, after, hrest, hfits, rfl⟩⟩

theorem isFoundFrom_iff (pattern : Pattern) (before rest : List Nat) :
    pattern.isFoundFrom before.isEmpty rest = true ↔
      ∃ skipped part after, rest = skipped ++ (part ++ after) ∧
        pattern.Fits (before ++ skipped) part after := by
  induction rest generalizing before with
  | nil =>
      rw [isFoundFrom, ends_ne_nil_iff]
      constructor
      · rintro ⟨part, after, hrest, hfits⟩
        exact ⟨[], part, after, hrest, by rwa [List.append_nil]⟩
      · rintro ⟨skipped, part, after, hrest, hfits⟩
        obtain rfl := (List.append_eq_nil_iff.1 hrest.symm).1
        exact ⟨part, after, hrest, by rwa [List.append_nil] at hfits⟩
  | cons n rest ih =>
      have hlater := ih (before ++ [n])
      have hstarted : (before ++ [n]).isEmpty = false := by simp
      rw [hstarted] at hlater
      rw [isFoundFrom, Bool.or_eq_true, ends_ne_nil_iff, hlater]
      constructor
      · rintro (⟨part, after, hrest, hfits⟩ | ⟨skipped, part, after, rfl, hfits⟩)
        · exact ⟨[], part, after, hrest, by rwa [List.append_nil]⟩
        · exact ⟨n :: skipped, part, after, rfl, by rwa [List.append_cons]⟩
      · rintro ⟨skipped, part, after, hrest, hfits⟩
        cases skipped with
        | nil => exact Or.inl ⟨part, after, hrest, by rwa [List.append_nil] at hfits⟩
        | cons m skipped =>
            obtain ⟨rfl, rfl⟩ := List.cons_eq_cons.1 hrest
            exact Or.inr ⟨skipped, part, after, rfl, by rwa [List.append_cons] at hfits⟩

/-- The search finds a pattern exactly if some part of the text fits it. -/
theorem isFound_iff (pattern : Pattern) (text : List Nat) :
    pattern.isFound text = true ↔ pattern.Found text :=
  isFoundFrom_iff pattern [] text

/-! ### What fits some patterns -/

@[simp] theorem fits_empty_iff : Fits .empty before part after ↔ part = [] := by
  constructor
  · rintro ⟨⟩
    rfl
  · rintro rfl
    exact .empty

@[simp] theorem fits_start_iff : Fits .start before part after ↔ before = [] ∧ part = [] := by
  constructor
  · rintro ⟨⟩
    exact ⟨rfl, rfl⟩
  · rintro ⟨rfl, rfl⟩
    exact .start

@[simp] theorem fits_finish_iff :
    Fits .finish before part after ↔ part = [] ∧ (after = [] ∨ after = [0xA]) := by
  constructor
  · rintro (_ | _ | _ | _)
    · exact ⟨rfl, Or.inl rfl⟩
    · exact ⟨rfl, Or.inr rfl⟩
  · rintro ⟨rfl, rfl | rfl⟩
    · exact .finish
    · exact .beforeFeed

theorem fits_oneOf_iff {ranges : List (Nat × Nat)} :
    Fits (.oneOf ranges) before part after ↔
      ∃ n, part = [n] ∧ ∃ range ∈ ranges, range.1 ≤ n ∧ n ≤ range.2 := by
  constructor
  · rintro ⟨⟩
    exact ⟨_, rfl, ‹_›⟩
  · rintro ⟨n, rfl, hrange⟩
    exact .oneOf hrange

theorem fits_seq_iff {first second : Pattern} :
    Fits (.seq first second) before part after ↔
      ∃ front back, part = front ++ back ∧ Fits first before front (back ++ after) ∧
        Fits second (before ++ front) back after := by
  constructor
  · rintro ⟨⟩
    exact ⟨_, _, rfl, ‹_›, ‹_›⟩
  · rintro ⟨front, back, rfl, hfirst, hsecond⟩
    exact .seq hfirst hsecond

/-- A repeated pattern fits parts joined, if what fits once does not depend on what surrounds
it. -/
theorem fits_many_iff {α : Type} {good : α → Prop} {spell : α → List Nat}
    (hbody : ∀ before part after, Fits body before part after ↔ ∃ x, good x ∧ part = spell x) :
    Fits (.many body) before part after ↔
      ∃ items : List α, (∀ x ∈ items, good x) ∧ part = items.flatMap spell := by
  constructor
  · intro h
    generalize hmany : Pattern.many body = pattern at h
    induction h with
    | none => exact ⟨[], by simp, rfl⟩
    | more hfirst _ _ ih =>
        cases hmany
        obtain ⟨items, hitems, rfl⟩ := ih rfl
        obtain ⟨x, hx, rfl⟩ := (hbody _ _ _).1 hfirst
        exact ⟨x :: items, List.forall_mem_cons.2 ⟨hx, hitems⟩, rfl⟩
    | empty | start | finish | beforeFeed | oneOf | seq => cases hmany
  · rintro ⟨items, hitems, rfl⟩
    induction items generalizing before with
    | nil => exact .none
    | cons x items ih =>
        obtain ⟨hx, hitems⟩ := List.forall_mem_cons.1 hitems
        exact .more ((hbody _ _ _).2 ⟨x, hx, rfl⟩) (ih hitems)

end SqlTidy.Text.Pattern
