/-
Module: SqlTidy.Proofs.Grammar
Purpose: How the reading of a command line ends: it goes through the words from the left, and the
  first word that stops it decides.
Main exports: WordOutcome, Grammar.Front, Grammar.Front.walk_eq, Grammar.walk_append,
  Grammar.walk_eq_error_iff, Grammar.AsksFor, Grammar.Announces.parse_eq_error_iff
-/
import Mathlib
import SqlTidy.CommandLine.Grammar

namespace SqlTidy.CommandLine

/-!
Reading a command line is one walk over its words, which stops at the first fault and at the first
option that asks it to.  An option that takes a value looks at the next word too.  So what one step
does is said here for the words at the front of those that are left, and what the walk does follows
from it.
-/

/-! ### Outcomes -/

section Outcomes

variable {α β : Type} {outcome : Except Stop α} {stop : Stop}

theorem bind_eq_error_iff {next : α → Except Stop β} :
    (outcome >>= next) = .error stop ↔
      outcome = .error stop ∨ ∃ value, outcome = .ok value ∧ next value = .error stop := by
  cases outcome with
  | error found => simp [bind, Except.bind]
  | ok value => simp [bind, Except.bind]

theorem bind_eq_ok_iff {next : α → Except Stop β} {result : β} :
    (outcome >>= next) = .ok result ↔ ∃ value, outcome = .ok value ∧ next value = .ok result := by
  cases outcome with
  | error found => simp [bind, Except.bind]
  | ok value => simp [bind, Except.bind]

theorem map_eq_error_iff {f : α → β} : outcome.map f = .error stop ↔ outcome = .error stop := by
  cases outcome with
  | error found => simp [Except.map]
  | ok value => simp [Except.map]

end Outcomes

/-! ### What a word is -/

/-- What the spelling of a word makes of it: it stays as it is, or it is no input at all, or it
could be several options. -/
inductive WordOutcome (text : List Char) : Except Stop Word → Prop
  | plain : WordOutcome text (.ok (.plain text))
  | other (word : Word) (ne_plain : ∀ value, word ≠ .plain value) : WordOutcome text (.ok word)
  | misuse (message : String) : WordOutcome text (.error (.misuse message))

theorem wordOutcome_ofOption (text : List Char) (spec : OptionSpec) (value : Option (List Char)) :
    WordOutcome text (.ok (.ofOption spec value)) := by
  unfold Word.ofOption
  split
  · exact .other _ (by simp)
  · exact .other _ (by simp)

theorem wordOutcome_ofAssignment (text : List Char) (spec : OptionSpec) (name value : List Char) :
    WordOutcome text (.ok (.ofAssignment spec name value)) := by
  unfold Word.ofAssignment
  split
  · exact .other _ (by simp)
  · exact .other _ (by simp)
  · exact .other _ (by simp)

theorem wordOutcome_rest (text : List Char) (isInput : Bool) :
    WordOutcome text (.ok (if isInput then .plain text else .unknown text)) := by
  cases isInput with
  | true => exact .plain
  | false => exact .other _ (by simp)

theorem wordOutcome_dashedWord (specs : List OptionSpec) (text : List Char) :
    WordOutcome text (dashedWord specs text) := by
  simp only [dashedWord]
  split
  · exact wordOutcome_ofAssignment _ _ _ _
  · split
    · split
      · exact wordOutcome_rest _ _
      · exact wordOutcome_ofOption _ _ _
      · exact .misuse _
    · split
      · exact .other _ (by simp)
      · exact wordOutcome_rest _ _
    · exact wordOutcome_rest _ _

theorem wordOutcome_wordOf (specs : List OptionSpec) (text : List Char) :
    WordOutcome text (wordOf specs text) := by
  unfold wordOf
  split
  · split
    · exact .other _ (by simp)
    · exact wordOutcome_dashedWord specs _
  · exact .plain

theorem WordOutcome.misuse_of_eq_error {text : List Char} {outcome : Except Stop Word} {stop : Stop}
    (h : WordOutcome text outcome) (hstop : outcome = .error stop) :
    ∃ message, stop = .misuse message := by
  cases h with
  | plain => simp at hstop
  | other word => simp at hstop
  | misuse message => exact ⟨message, (Except.error.inj hstop).symm⟩

/-- A word that could be several options is the only obstacle to telling words apart. -/
theorem misuse_of_wordsOf_eq_error {specs : List OptionSpec} {arguments : List (List Char)}
    {stop : Stop} (h : wordsOf specs arguments = .error stop) :
    ∃ message, stop = .misuse message := by
  induction arguments with
  | nil => simp [wordsOf] at h
  | cons text rest ih =>
      rw [wordsOf] at h
      split at h
      · simp at h
      · rcases bind_eq_error_iff.1 h with hword | ⟨word, _, hrest⟩
        · exact (wordOutcome_wordOf specs text).misuse_of_eq_error hword
        · rcases bind_eq_error_iff.1 hrest with hrest | ⟨words, _, hpure⟩
          · exact ih hrest
          · simp [pure, Except.pure] at hpure

theorem misuse_of_groupOptions_eq_error {specs : List OptionSpec} {spec : OptionSpec}
    {letters : List Char} {stop : Stop} (h : groupOptions specs spec letters = .error stop) :
    ∃ message, stop = .misuse message := by
  induction letters generalizing spec with
  | nil => simp [groupOptions] at h
  | cons letter rest ih =>
      rw [groupOptions] at h
      split at h
      · exact ⟨_, (Except.error.inj h).symm⟩
      · exact ih (map_eq_error_iff.1 h)

namespace Grammar

variable {σ : Type} {grammar : Grammar σ} {progress : Progress σ} {words rest : List Word}

/-! ### One step -/

/-- Lets options act one after the other, none of them with a value. -/
abbrev performAll (grammar : Grammar σ) (progress : Progress σ) (specs : List OptionSpec) :
    Except Stop (Progress σ) :=
  specs.foldlM (fun progress spec => grammar.perform progress spec none) progress

theorem performAll_cons (spec : OptionSpec) (specs : List OptionSpec) :
    grammar.performAll progress (spec :: specs) =
      grammar.perform progress spec none >>= fun next => grammar.performAll next specs :=
  List.foldlM_cons

/-- What becomes of the words at the front, and which words are left: an option that takes a value
goes with the plain word after it, and any other word is taken by itself. -/
inductive Front (grammar : Grammar σ) (progress : Progress σ) :
    List Word → Except Stop (Progress σ) → List Word → Prop
  | divider {rest : List Word} :
      Front grammar progress (.divider :: rest) (.ok progress.takeDivider) rest
  | plain {text : List Char} {rest : List Word} :
      Front grammar progress (.plain text :: rest) (.ok (progress.takeInput text)) rest
  | unknown {text : List Char} {rest : List Word} :
      Front grammar progress (.unknown text :: rest) (.ok (progress.endRun.reject text)) rest
  | assigned {spec : OptionSpec} {value : List Char} {rest : List Word}
      (takesValue : spec.takesValue = true) :
      Front grammar progress (.assigned spec value :: rest)
        (grammar.perform progress.endRun spec (if value == ['-', '-'] then none else some value))
        rest
  | refused {spec : OptionSpec} {value : List Char} {rest : List Word}
      (takesNone : spec.takesValue = false) :
      Front grammar progress (.assigned spec value :: rest) (.error (spec.refuse value)) rest
  | grouped {spec : OptionSpec} {letters : List Char} {rest : List Word} :
      Front grammar progress (.grouped spec letters :: rest)
        (groupOptions grammar.options spec letters >>= grammar.performAll progress.endRun) rest
  | valued {spec : OptionSpec} {value : List Char} {rest : List Word}
      (takesValue : spec.takesValue = true) :
      Front grammar progress (.option spec :: .plain value :: rest)
        (grammar.perform progress.endRun spec (some value)) rest
  | missing {spec : OptionSpec} {rest : List Word} (takesValue : spec.takesValue = true)
      (alone : ∀ value more, rest ≠ .plain value :: more) :
      Front grammar progress (.option spec :: rest)
        (.error (spec.complain "expected one argument")) rest
  | bare {spec : OptionSpec} {rest : List Word} (takesNone : spec.takesValue = false) :
      Front grammar progress (.option spec :: rest) (grammar.perform progress.endRun spec none) rest

/-- Every word is taken in some way. -/
theorem exists_front (grammar : Grammar σ) (progress : Progress σ) (word : Word)
    (rest : List Word) :
    ∃ outcome left, Front grammar progress (word :: rest) outcome left := by
  cases word with
  | divider => exact ⟨_, _, .divider⟩
  | plain text => exact ⟨_, _, .plain⟩
  | unknown text => exact ⟨_, _, .unknown⟩
  | grouped spec letters => exact ⟨_, _, .grouped⟩
  | assigned spec value =>
      cases hvalue : spec.takesValue with
      | true => exact ⟨_, _, .assigned hvalue⟩
      | false => exact ⟨_, _, .refused hvalue⟩
  | option spec =>
      cases hvalue : spec.takesValue with
      | false => exact ⟨_, _, .bare hvalue⟩
      | true =>
          by_cases hplain : ∃ value more, rest = .plain value :: more
          · obtain ⟨value, more, rfl⟩ := hplain
            exact ⟨_, _, .valued hvalue⟩
          · exact ⟨_, _, .missing hvalue fun value more heq => hplain ⟨value, more, heq⟩⟩

/-- An option that takes no value leaves the next word alone, plain or not. -/
theorem walk_bare {spec : OptionSpec} (takesNone : spec.takesValue = false) :
    grammar.walk progress (.option spec :: rest) =
      grammar.perform progress.endRun spec none >>= fun next => grammar.walk next rest := by
  by_cases hplain : ∃ value more, rest = .plain value :: more
  · obtain ⟨value, more, rfl⟩ := hplain
    simp [walk, takesNone]
  · rw [walk]
    · simp [takesNone]
    · intro value more heq
      exact hplain ⟨value, more, heq⟩

/-- The walk takes the words at the front and goes on with those that are left. -/
theorem Front.walk_eq {outcome : Except Stop (Progress σ)}
    (h : Front grammar progress words outcome rest) :
    grammar.walk progress words = outcome >>= fun next => grammar.walk next rest := by
  cases h with
  | divider => rw [walk]; rfl
  | plain => rw [walk]; rfl
  | unknown => rw [walk]; rfl
  | assigned takesValue => simp [walk, takesValue]
  | refused takesNone =>
      rw [walk, if_neg (by simp [takesNone])]
      rfl
  | grouped => simp [walk]
  | valued takesValue => simp [walk, takesValue]
  | missing takesValue alone =>
      rw [walk]
      · simp [takesValue]
        rfl
      · exact alone
  | bare takesNone => exact walk_bare takesNone

/-- Words that are taken without a stop are taken in the same way before others. -/
theorem Front.append {outcome : Except Stop (Progress σ)}
    (h : Front grammar progress words outcome rest) (hok : ∀ stop, outcome ≠ .error stop)
    (more : List Word) : Front grammar progress (words ++ more) outcome (rest ++ more) := by
  cases h with
  | divider => exact .divider
  | plain => exact .plain
  | unknown => exact .unknown
  | assigned takesValue => exact .assigned takesValue
  | refused => exact absurd rfl (hok _)
  | grouped => exact .grouped
  | valued takesValue => exact .valued takesValue
  | missing => exact absurd rfl (hok _)
  | bare takesNone => exact .bare takesNone

/-- Words that are taken without a stop can be told from those that are left. -/
theorem Front.detach {outcome : Except Stop (Progress σ)}
    (h : Front grammar progress words outcome rest) (hok : ∀ stop, outcome ≠ .error stop) :
    ∃ taken, taken ≠ [] ∧ words = taken ++ rest ∧ Front grammar progress taken outcome [] := by
  cases h with
  | divider => exact ⟨[_], by simp, rfl, .divider⟩
  | plain => exact ⟨[_], by simp, rfl, .plain⟩
  | unknown => exact ⟨[_], by simp, rfl, .unknown⟩
  | assigned takesValue => exact ⟨[_], by simp, rfl, .assigned takesValue⟩
  | refused => exact absurd rfl (hok _)
  | grouped => exact ⟨[_], by simp, rfl, .grouped⟩
  | valued takesValue => exact ⟨[_, _], by simp, rfl, .valued takesValue⟩
  | missing => exact absurd rfl (hok _)
  | bare takesNone => exact ⟨[_], by simp, rfl, .bare takesNone⟩

/-! ### The whole walk -/

/-- Induction along the walk: the words are over, or those at the front stop it, or they are taken
and the walk goes on with the others. -/
theorem walk_induction (grammar : Grammar σ) {motive : Progress σ → List Word → Prop}
    (nil : ∀ progress, motive progress [])
    (stopped : ∀ progress words stop rest, Front grammar progress words (.error stop) rest →
      motive progress words)
    (taken : ∀ progress words next rest, words ≠ [] → Front grammar progress words (.ok next) [] →
      motive next rest → motive progress (words ++ rest)) :
    ∀ progress words, motive progress words := by
  intro progress words
  induction hlength : words.length using Nat.strongRecOn generalizing progress words with
  | ind n ih =>
      subst hlength
      cases words with
      | nil => exact nil progress
      | cons word more =>
          obtain ⟨outcome, rest, hfront⟩ := exists_front grammar progress word more
          cases outcome with
          | error stop => exact stopped _ _ _ _ hfront
          | ok next =>
              obtain ⟨front, hne, heq, hdetached⟩ := hfront.detach (by simp)
              rw [heq]
              apply taken _ _ _ _ hne hdetached
              apply ih rest.length _ next rest rfl
              have := List.length_pos_iff.2 hne
              rw [heq, List.length_append]
              omega

theorem Front.walk_append {next : Progress σ}
    (h : Front grammar progress words (.ok next) []) (more : List Word) :
    grammar.walk progress (words ++ more) = grammar.walk next more :=
  (h.append (by simp) more).walk_eq

/-- Words that are gone through without a stop say nothing about those after them. -/
theorem walk_append {next : Progress σ} (h : grammar.walk progress words = .ok next)
    (more : List Word) : grammar.walk progress (words ++ more) = grammar.walk next more := by
  induction progress, words using walk_induction grammar with
  | nil progress =>
      rw [walk, Except.ok.injEq] at h
      rw [h]
      rfl
  | stopped progress words stop rest hfront =>
      rw [hfront.walk_eq] at h
      simp [bind, Except.bind] at h
  | taken progress words reached rest _ hfront ih =>
      rw [hfront.walk_append] at h
      rw [List.append_assoc, hfront.walk_append]
      exact ih h

/-- The first word that stops the walk decides how it ends: those before it are gone through, and
those after it make no difference. -/
theorem walk_eq_error_iff {stop : Stop} :
    grammar.walk progress words = .error stop ↔
      ∃ before after next rest, words = before ++ after ∧
        grammar.walk progress before = .ok next ∧ Front grammar next after (.error stop) rest := by
  constructor
  · intro h
    induction progress, words using walk_induction grammar with
    | nil progress => simp [walk] at h
    | stopped progress words found rest hfront =>
        rw [hfront.walk_eq] at h
        obtain rfl := Except.error.inj h
        exact ⟨[], words, progress, rest, rfl, by rw [walk], hfront⟩
    | taken progress words reached rest _ hfront ih =>
        rw [hfront.walk_append] at h
        obtain ⟨before, after, next, left, rfl, hbefore, hstop⟩ := ih h
        refine ⟨words ++ before, after, next, left, by simp, ?_, hstop⟩
        rw [hfront.walk_append, hbefore]
  · rintro ⟨before, after, next, rest, rfl, hbefore, hstop⟩
    rw [walk_append hbefore, hstop.walk_eq]
    rfl

/-! ### Options that stop the reading -/

/-- The word lets an option without a value act: it is the option, or a group of letters in which no
option before it stops the reading. -/
inductive Calls (grammar : Grammar σ) (spec : OptionSpec) (progress : Progress σ) : Word → Prop
  | option : Calls grammar spec progress (.option spec)
  | letter {first : OptionSpec} {letters : List Char} {earlier later : List OptionSpec}
      {next : Progress σ}
      (group : groupOptions grammar.options first letters = .ok (earlier ++ spec :: later))
      (performed : grammar.performAll progress.endRun earlier = .ok next) :
      Calls grammar spec progress (.grouped first letters)

/-- What has been read before the first word. -/
def start (grammar : Grammar σ) (initial : σ) : Progress σ :=
  { settings := initial, phase := if grammar.hasInputs then .before else .after }

/-- The command line asks for an option: one of its words lets the option act, and the words before
that one are gone through without a stop. -/
def AsksFor (grammar : Grammar σ) (initial : σ) (arguments : List (List Char))
    (spec : OptionSpec) : Prop :=
  ∃ before word after progress,
    wordsOf grammar.options arguments = .ok (before ++ word :: after) ∧
    grammar.walk (grammar.start initial) before = .ok progress ∧ Calls grammar spec progress word

/-- An option that takes no value and does nothing but stop the reading, for a reason that no other
option has and that is no misuse. -/
structure Announces (grammar : Grammar σ) (spec : OptionSpec) (stop : Stop) : Prop where
  takesNone : spec.takesValue = false
  acts : ∀ settings other value, grammar.act settings other value = .error stop ↔ other = spec
  noMisuse : ∀ message, stop ≠ .misuse message

namespace Announces

variable {spec : OptionSpec} {stop : Stop}

theorem perform_eq_error_iff (h : grammar.Announces spec stop) {other : OptionSpec}
    {value : Option (List Char)} :
    grammar.perform progress other value = .error stop ↔ other = spec := by
  rw [perform, map_eq_error_iff, h.acts]

theorem performAll_eq_error_iff (h : grammar.Announces spec stop) {specs : List OptionSpec} :
    grammar.performAll progress specs = .error stop ↔
      ∃ earlier later next, specs = earlier ++ spec :: later ∧
        grammar.performAll progress earlier = .ok next := by
  induction specs generalizing progress with
  | nil => simp [performAll, pure, Except.pure]
  | cons first specs ih =>
      rw [performAll_cons, bind_eq_error_iff, h.perform_eq_error_iff]
      constructor
      · rintro (rfl | ⟨reached, hfirst, hrest⟩)
        · exact ⟨[], specs, progress, rfl, rfl⟩
        · obtain ⟨earlier, later, next, rfl, hnext⟩ := ih.1 hrest
          refine ⟨first :: earlier, later, next, rfl, ?_⟩
          rw [performAll_cons, hfirst]
          exact hnext
      · rintro ⟨earlier, later, next, heq, hnext⟩
        cases earlier with
        | nil => exact Or.inl (List.cons_eq_cons.1 heq).1
        | cons other earlier =>
            obtain ⟨rfl, rfl⟩ := List.cons_eq_cons.1 heq
            rw [performAll_cons, bind_eq_ok_iff] at hnext
            obtain ⟨reached, hfirst, hrest⟩ := hnext
            exact Or.inr ⟨reached, hfirst, ih.2 ⟨earlier, later, next, rfl, hrest⟩⟩

theorem not_misuse (h : grammar.Announces spec stop) : ¬ ∃ message, stop = .misuse message :=
  fun ⟨message, heq⟩ => h.noMisuse message heq

/-- The option takes no value, so it is none of those that act on one. -/
theorem perform_ne_error (h : grammar.Announces spec stop) {other : OptionSpec}
    (takesValue : other.takesValue = true) (value : Option (List Char)) :
    grammar.perform progress other value ≠ .error stop := by
  intro hstop
  rw [h.perform_eq_error_iff] at hstop
  rw [hstop, h.takesNone] at takesValue
  exact absurd takesValue (by simp)

theorem calls_of_front (h : grammar.Announces spec stop) {outcome : Except Stop (Progress σ)}
    (hfront : Front grammar progress words outcome rest) (hstop : outcome = .error stop) :
    ∃ word after, words = word :: after ∧ Calls grammar spec progress word := by
  cases hfront with
  | divider => simp at hstop
  | plain => simp at hstop
  | unknown => simp at hstop
  | assigned takesValue => exact absurd hstop (h.perform_ne_error takesValue _)
  | refused => exact absurd ⟨_, (Except.error.inj hstop).symm⟩ h.not_misuse
  | valued takesValue => exact absurd hstop (h.perform_ne_error takesValue _)
  | missing => exact absurd ⟨_, (Except.error.inj hstop).symm⟩ h.not_misuse
  | bare =>
      obtain rfl := h.perform_eq_error_iff.1 hstop
      exact ⟨_, _, rfl, .option⟩
  | grouped =>
      rcases bind_eq_error_iff.1 hstop with hgroup | ⟨specs, hgroup, hperform⟩
      · exact absurd (misuse_of_groupOptions_eq_error hgroup) h.not_misuse
      · obtain ⟨earlier, later, next, rfl, hnext⟩ := h.performAll_eq_error_iff.1 hperform
        exact ⟨_, _, rfl, .letter hgroup hnext⟩

theorem front_of_calls (h : grammar.Announces spec stop) {word : Word}
    (hcalls : Calls grammar spec progress word) (after : List Word) :
    Front grammar progress (word :: after) (.error stop) after := by
  cases hcalls with
  | option =>
      have hperform : grammar.perform progress.endRun spec none = .error stop :=
        h.perform_eq_error_iff.2 rfl
      rw [← hperform]
      exact .bare h.takesNone
  | @letter first letters earlier later next group performed =>
      have hperform : grammar.performAll progress.endRun (earlier ++ spec :: later) =
          .error stop :=
        h.performAll_eq_error_iff.2 ⟨earlier, later, next, rfl, performed⟩
      have houtcome : (groupOptions grammar.options first letters >>=
          grammar.performAll progress.endRun) = .error stop := by
        rw [group]
        exact hperform
      rw [← houtcome]
      exact .grouped

/-- Reading a command line stops for the option's reason exactly if the command line asks for the
option. -/
theorem parse_eq_error_iff (h : grammar.Announces spec stop) (initial : σ)
    (arguments : List (List Char)) :
    grammar.parse initial arguments = .error stop ↔ grammar.AsksFor initial arguments spec := by
  constructor
  · intro hparse
    rcases bind_eq_error_iff.1 hparse with hwords | ⟨words, hwords, hwalk⟩
    · exact absurd (misuse_of_wordsOf_eq_error hwords) h.not_misuse
    · rcases bind_eq_error_iff.1 hwalk with hwalk | ⟨progress, _, hrest⟩
      · obtain ⟨before, after, next, rest, rfl, hbefore, hfront⟩ := walk_eq_error_iff.1 hwalk
        obtain ⟨word, after, rfl, hcalls⟩ := h.calls_of_front hfront rfl
        exact ⟨before, word, after, next, hwords, hbefore, hcalls⟩
      · split at hrest
        · simp [pure, Except.pure] at hrest
        · exact absurd ⟨_, (Except.error.inj hrest).symm⟩ h.not_misuse
  · rintro ⟨before, word, after, progress, hwords, hbefore, hcalls⟩
    have hwalk : grammar.walk (grammar.start initial) (before ++ word :: after) = .error stop :=
      walk_eq_error_iff.2 ⟨before, word :: after, progress, after, rfl, hbefore,
        h.front_of_calls hcalls after⟩
    apply bind_eq_error_iff.2
    exact Or.inr ⟨_, hwords, bind_eq_error_iff.2 (Or.inl hwalk)⟩

end Announces

end Grammar

end SqlTidy.CommandLine
