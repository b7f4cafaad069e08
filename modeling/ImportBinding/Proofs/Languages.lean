/-
This file compares a language that is given with one that is configured.

Either is brought into the same form and looked up among the dialects, so they only differ in what
comes before that. A language that is given as an empty text counts as left out, while a variable
that is set to it names no dialect. And the environment may not give back the text that was stored,
which then has surrogates and names no dialect itself.
-/

import ImportBinding.Proofs.Configured
import ImportBinding.Proofs.Dialects
import ImportBinding.Proofs.Environment
import ImportBinding.Proofs.Positions

namespace ImportBinding

/-! ### Names with surrogates -/

/-- A surrogate has no lower case. -/
theorem CodePoint.lower_of_isSurrogate {point : CodePoint} (half : point.isSurrogate = true) :
    point.lower = point := by
  simp only [isSurrogate, Bool.and_eq_true, decide_eq_true_eq] at half
  have apart : (capitalRuns.all fun run => run.last < 0xD800 || 0xDFFF < run.first) = true := by
    cbv
  have none : (capitalRuns.find? fun run => run.contains point.toNat) = none := by
    refine List.find?_eq_none.mpr fun run member => ?_
    simp only [CaseRun.contains, Bool.and_eq_true, decide_eq_true_eq, not_and]
    have outside := List.all_eq_true.mp apart run member
    simp only [Bool.or_eq_true, decide_eq_true_eq] at outside
    omega
  rw [lower, if_neg (by omega), none]

theorem Text.mem_lowerAfter_of_isSurrogate {point : CodePoint} {content : Text}
    (half : point.isSurrogate = true) (member : point ∈ content) (before : Text) :
    point ∈ lowerAfter before content := by
  have bounds := half
  simp only [CodePoint.isSurrogate, Bool.and_eq_true, decide_eq_true_eq] at bounds
  induction content generalizing before with
  | nil => cases member
  | cons first rest inductionHypothesis =>
    rw [lowerAfter, List.mem_append]
    rcases List.mem_cons.mp member with rfl | member
    · left
      rw [if_neg (by omega), if_neg (by omega), CodePoint.lower_of_isSurrogate half]
      exact List.mem_singleton_self point
    · exact Or.inr (inductionHypothesis member _)

/-- A text with a surrogate names no dialect. -/
theorem Dialect.ofName?_of_isSurrogate {point : CodePoint} {language : Text}
    (half : point.isSurrogate = true) (member : point ∈ language) :
    ofName? language.trim.lower = none := by
  have kept : point ∈ language.trim.lower :=
    Text.mem_lowerAfter_of_isSurrogate half
      (mem_trim_of_not_isBlank member (CodePoint.isBlank_of_isSurrogate half)) []
  have whole : ∀ dialect : Dialect, ∀ letter ∈ dialect.name, letter.isSurrogate = false := by
    intro dialect
    cases dialect <;> decide
  cases found : ofName? language.trim.lower with
  | none => rfl
  | some dialect =>
    rw [(ofName?_eq_some_iff _ dialect).mp found] at kept
    rw [whole dialect point kept] at half
    cases half

/-! ### Outcomes -/

namespace Statement

theorem ofValue_named (recordings : List Recording) (given name : Text) :
    ofValue recordings (.text given) (.ok name) =
      match Dialect.ofName? name with
      | some dialect => ofText recordings given dialect
      | none => .error (.unsupportedLanguage (.text name)) := by
  cases found : Dialect.ofName? name with
  | some dialect =>
    rw [(Dialect.ofName?_eq_some_iff name dialect).mp found, ofValue_text]
  | none =>
    have unsupported : dialectOf (.text name) = .error (.unsupportedLanguage (.text name)) := by
      rw [dialectOf, found]
      rfl
    show dialectOf (.text name) >>= ofText recordings given = _
    rw [unsupported]
    rfl

/-- A text from which a statement is built in one dialect is built or refused in every other. -/
theorem built_or_refused {given : Text} {dialect : Dialect} {statement : Statement}
    (made : ofText [] given dialect = .ok statement) (other : Dialect) :
    (∃ built, ofText [] given other = .ok built) ∨
      ∃ refusal, ofText [] given other = .error (.refused refusal) := by
  by_cases more : other.Extends dialect
  · obtain ⟨-, -, same, -⟩ := ofText_eq_ok_iff.mp made
    exact Or.inl ⟨_, ofText_inDialect (same ▸ more) (same ▸ made)⟩
  · have less : dialect.Extends other := fun _ => (Classical.not_imp.mp more).1
    -- A program of the other dialect is one of this dialect, where it was decoded.
    refine (ofText_of_not_isUndecodable fun undecodable => ?_).imp_right
      fun ⟨_, refused⟩ => ⟨_, refused⟩
    have undecodableToo : IsUndecodable dialect given :=
      undecodable.imp_right fun ⟨program, declaration, parsed, first, large⟩ =>
        ⟨program, declaration, Program.ofText_mono less parsed, first, large⟩
    obtain ⟨failure, failed, -⟩ := ofText_of_isUndecodable undecodableToo
    rw [made] at failed
    cases failed

/-- Building from a text does not say that a language has no dialect. -/
theorem ofText_ne_unsupported {recordings : List Recording} {given : Text} {dialect : Dialect}
    {failure : Failure} (failed : ofText recordings given dialect = .error failure) :
    (∀ value, failure ≠ .unsupportedLanguage value) ∧
      ∀ name, failure ≠ .unsupportedSetting name := by
  rcases ofText_failsOnly recordings given dialect failure failed with reading | ⟨refusal, rfl⟩
  · constructor <;> rintro _ rfl <;> cases reading
  · exact ⟨nofun, nofun⟩

end Statement

/-! ### Given and configured -/

/-- Outcomes that are alike: the same statement in the same dialect, the same failure, or both times
that there is no dialect of a name. -/
inductive Alike : Except Failure Statement → Except Failure Statement → Prop
  | built {first second : Statement} (same : first.isSame second = true) :
    Alike (.ok first) (.ok second)
  | failed (failure : Failure) : Alike (.error failure) (.error failure)
  | unsupported (given : Value) (name : Text) :
    Alike (.error (.unsupportedLanguage given)) (.error (.unsupportedSetting name))

theorem Alike.refl (outcome : Except Failure Statement) : Alike outcome outcome := by
  cases outcome with
  | error failure => exact .failed failure
  | ok statement =>
    exact .built (Bool.and_eq_true_iff.mpr ⟨decide_eq_true rfl, decide_eq_true rfl⟩)

/-- Building from a text is not like finding that there is no dialect of a name. -/
theorem Statement.not_alike_unsupported (recordings : List Recording) (given : Text)
    (dialect : Dialect) :
    (∀ value, ¬ Alike (.error (.unsupportedLanguage value)) (ofText recordings given dialect)) ∧
      ∀ name, ¬ Alike (ofText recordings given dialect) (.error (.unsupportedSetting name)) := by
  generalize built : ofText recordings given dialect = outcome
  constructor
  · intro value alike
    cases alike with
    | failed => exact (ofText_ne_unsupported built).1 _ rfl
    | unsupported => exact (ofText_ne_unsupported built).2 _ rfl
  · intro name alike
    cases alike with
    | failed => exact (ofText_ne_unsupported built).2 _ rfl
    | unsupported => exact (ofText_ne_unsupported built).1 _ rfl

namespace Session

variable {recordings : List Recording} {given language value : Text} {process : Session}

/-- A language that is given is looked up in lower case and without blanks around it. -/
theorem build_chosen (chosen : language ≠ []) (session : Session) :
    (session.build recordings (.text given) (.text language)).1 =
      Statement.ofValue recordings (.text given) (.ok language.trim.lower) := by
  cases language with
  | nil => exact absurd rfl chosen
  | cons point rest => rfl

/-- An empty text counts as no language, and without a variable there is a default. -/
theorem build_unchosen :
    (initial.build recordings (.text given) (.text [])).1 =
      Statement.ofText recordings given .javascript := by
  have configured : initial.ask.1 = .ok Dialect.javascript.name := by with_unfolding_all rfl
  show Statement.ofValue recordings (.text given) initial.ask.1 = _
  rw [configured, Statement.ofValue_text]

/-- What is built when a process has started with a value of the variable. -/
theorem build_configured :
    (build recordings ⟨[], ⟨some value, false⟩⟩ (.text given) .null).1 =
      match Dialect.ofName? value.trim.lower with
      | some dialect => Statement.ofText recordings given dialect
      | none => .error (.unsupportedSetting value.trim.lower) := by
  show Statement.ofValue recordings (.text given) (ask ⟨[], ⟨some value, false⟩⟩).1 = _
  cases found : Dialect.ofName? value.trim.lower with
  | some dialect =>
    have yields : Settings.yields ⟨some value, false⟩ = true := congrArg Option.isSome found
    have named : Settings.language ⟨some value, true⟩ = dialect.name :=
      (Dialect.ofName?_eq_some_iff _ dialect).mp found
    rw [ask_of_yields yields]
    exact (congrArg (fun name => Statement.ofValue recordings (.text given) (.ok name)) named).trans
      (Statement.ofValue_text given)
  | none =>
    have silent : Settings.yields ⟨some value, false⟩ = false := congrArg Option.isSome found
    rw [ask_of_not_yields silent]
    rfl

/-- A process starts with what the environment gives back of a text, if the text can be stored. -/
theorem step_environment :
    initial.step recordings (.environment (some language)) =
      match Variable.stored language with
      | .ok value => (.ok .done, ⟨[], ⟨some value, false⟩⟩)
      | .error failure => (.error failure, initial) := by
  have read : (some language).mapM Variable.stored = (Variable.stored language).map some := rfl
  rw [step, Settings.withVariable, read]
  cases Variable.stored language <;> rfl

theorem exists_stored_of_started
    (started : initial.step recordings (.environment (some language)) = (.ok .done, process)) :
    ∃ value, Variable.stored language = .ok value ∧ process = ⟨[], ⟨some value, false⟩⟩ := by
  rw [step_environment] at started
  cases stored : Variable.stored language with
  | error failure =>
    rw [stored] at started
    cases started
  | ok value =>
    rw [stored] at started
    cases started
    exact ⟨value, rfl, rfl⟩

/-- A process starts with every text that has no surrogates and no code point zero. -/
theorem step_environment_of_whole (whole : ∀ point ∈ language, point.isSurrogate = false)
    (nonzero : ∀ point ∈ language, point.toNat ≠ 0) :
    initial.step recordings (.environment (some language)) =
      (.ok .done, ⟨[], ⟨some language, false⟩⟩) := by
  rw [step_environment, Variable.stored_of_whole whole nonzero]

/-- A text that the environment does not give back names no dialect. -/
theorem ofName?_of_stored_ne (stored : Variable.stored language = .ok value)
    (changed : value ≠ language) : Dialect.ofName? language.trim.lower = none := by
  by_cases whole : ∀ point ∈ language, point.isSurrogate = false
  · exact absurd ((Variable.eq_of_stored stored).trans (Text.ofBytes_bytes whole)) changed
  · simp only [not_forall, Bool.not_eq_false] at whole
    obtain ⟨point, member, half⟩ := whole
    exact Dialect.ofName?_of_isSurrogate half member

/-- A language is treated alike whether it is given or read from the environment. -/
theorem alike_of_chosen (chosen : language ≠ []) :
    Alike (initial.build recordings (.text given) (.text language)).1
      (build recordings ⟨[], ⟨some language, false⟩⟩ (.text given) .null).1 := by
  rw [build_chosen chosen, build_configured, Statement.ofValue_named]
  cases Dialect.ofName? language.trim.lower with
  | some dialect => exact Alike.refl _
  | none => exact .unsupported _ _

/-- A language without a dialect that is given is like what is configured exactly when that has no
dialect either. -/
theorem alike_unsupported_iff {name : Value} :
    Alike (.error (.unsupportedLanguage name))
        (build recordings ⟨[], ⟨some value, false⟩⟩ (.text given) .null).1 ↔
      Dialect.ofName? value.trim.lower = none := by
  rw [build_configured]
  cases Dialect.ofName? value.trim.lower with
  | none => exact iff_of_true (.unsupported _ _) rfl
  | some dialect =>
    exact iff_of_false ((Statement.not_alike_unsupported _ _ _).1 name) (Option.some_ne_none _)

/-- A language that is given as an empty text is not like one that is configured so. -/
theorem not_alike_nil :
    ¬ Alike (initial.build recordings (.text given) (.text [])).1
      (build recordings ⟨[], ⟨some [], false⟩⟩ (.text given) .null).1 := by
  have unsupported : Dialect.ofName? (Text.lower (Text.trim [])) = none := by decide
  rw [build_unchosen, build_configured, unsupported]
  exact (Statement.not_alike_unsupported _ _ _).2 _

/-- A language that is given and one that a process has been started with are treated alike unless
the given one is empty, or the environment gives back another text that names a dialect; it gives
back every text without surrogates. A statement that one dialect takes is then built in the one that
is named, or refused, and where none is named that is told. -/
theorem alike_iff
    (started : initial.step recordings (.environment (some language)) = (.ok .done, process)) :
    (Alike (initial.build recordings (.text given) (.text language)).1
        (process.build recordings (.text given) .null).1 ↔
      language ≠ [] ∧ (process.settings.environment = some language ∨
        Dialect.ofName? process.settings.language = none)) ∧
    ((∀ point ∈ language, point.isSurrogate = false) →
      process.settings.environment = some language) ∧
    ∀ other statement, Statement.ofText [] given other = .ok statement → language ≠ [] →
      match Dialect.ofName? language.trim.lower with
      | none =>
        (initial.build [] (.text given) (.text language)).1 =
          .error (.unsupportedLanguage (.text language.trim.lower))
      | some dialect =>
        (∃ built, (initial.build [] (.text given) (.text language)).1 = .ok built ∧
          built.dialect = dialect) ∨
        ∃ refusal, (initial.build [] (.text given) (.text language)).1 =
          .error (.refused refusal) := by
  obtain ⟨value, stored, rfl⟩ := exists_stored_of_started started
  refine ⟨?_, fun whole => ?_, fun other statement made chosen => ?_⟩
  · by_cases chosen : language = []
    · subst chosen
      have kept : value = [] :=
        (Variable.eq_of_stored stored).trans (Text.ofBytes_bytes (List.forall_mem_nil _))
      rw [kept]
      exact iff_of_false not_alike_nil fun both => both.1 rfl
    · rw [and_iff_right chosen]
      by_cases kept : value = language
      · subst kept
        exact iff_of_true (alike_of_chosen chosen) (Or.inl rfl)
      · have changed : some value ≠ some language := fun same => kept (Option.some.inj same)
        rw [build_chosen chosen, Statement.ofValue_named, ofName?_of_stored_ne stored kept,
          or_iff_right changed]
        exact alike_unsupported_iff
  · exact congrArg some ((Variable.eq_of_stored stored).trans (Text.ofBytes_bytes whole))
  · rw [build_chosen chosen, Statement.ofValue_named]
    cases Dialect.ofName? language.trim.lower with
    | none => rfl
    | some dialect =>
      refine (Statement.built_or_refused made dialect).imp_left fun ⟨built, same⟩ => ?_
      exact ⟨built, same, (Statement.ofText_eq_ok_iff.mp same).2.2.1⟩

/-- Blanks around a name and the case of its letters do not matter, neither for a given language nor
for a configured one. -/
theorem alike_iff_tsx :
    ∃ process built,
      initial.step [] (.environment (some (text " TSX "))) = (.ok .done, process) ∧
        (initial.build [] (.text (text "x from 'a'")) (.text (text " TSX "))).1 = .ok built ∧
        built.dialect = .tsx ∧
        Alike (.ok built) (process.build [] (.text (text "x from 'a'")) .null).1 := by
  have known : ((Statement.ofText [] (text "x from 'a'") .tsx).toOption.map fun statement =>
      statement.content) = some (text "import x from 'a';\n") := by
    with_unfolding_all rfl
  obtain ⟨statement, made, -⟩ := exists_ok_of_map_toOption known
  have started : initial.step [] (.environment (some (text " TSX "))) =
      (.ok .done, ⟨[], ⟨some (text " TSX "), false⟩⟩) :=
    step_environment_of_whole (by decide) (by decide)
  obtain ⟨condition, kept, outcome⟩ := alike_iff started
  have alike := condition.mpr ⟨by decide, Or.inl (kept (by decide))⟩
  have named : Dialect.ofName? (text " TSX ").trim.lower = some .tsx := by decide
  have told := outcome .tsx statement made (by decide)
  rw [named] at told
  rcases told with ⟨built, same, dialect⟩ | ⟨refusal, refused⟩
  · exact ⟨_, built, started, same, dialect, same ▸ alike⟩
  · rw [build_chosen (by decide), Statement.ofValue_named, named] at refused
    cases made.symm.trans refused

/-- A language that is given as an empty text counts as left out, and a configured one names
no dialect: a statement is built in the one way and not in the other. -/
theorem exists_not_alike :
    ∃ process built,
      initial.step [] (.environment (some [])) = (.ok .done, process) ∧
        (initial.build [] (.text (text "x from 'a'")) (.text [])).1 = .ok built ∧
        built.dialect = .javascript ∧
        (process.build [] (.text (text "x from 'a'")) .null).1 = .error (.unsupportedSetting []) ∧
        ¬ Alike (.ok built) (process.build [] (.text (text "x from 'a'")) .null).1 := by
  have known : ((Statement.ofText [] (text "x from 'a'") .javascript).toOption.map fun statement =>
      statement.content) = some (text "import x from 'a';\n") := by
    with_unfolding_all rfl
  obtain ⟨built, made, -⟩ := exists_ok_of_map_toOption known
  have started : initial.step [] (.environment (some [])) = (.ok .done, ⟨[], ⟨some [], false⟩⟩) :=
    step_environment_of_whole (List.forall_mem_nil _) (List.forall_mem_nil _)
  have given : (initial.build [] (.text (text "x from 'a'")) (.text [])).1 = .ok built :=
    build_unchosen.trans made
  have configured : (build [] ⟨[], ⟨some [], false⟩⟩ (.text (text "x from 'a'")) .null).1 =
      .error (.unsupportedSetting []) := build_configured
  exact ⟨_, built, started, given, (Statement.ofText_eq_ok_iff.mp made).2.2.1, configured,
    given ▸ not_alike_nil⟩

end Session

end ImportBinding
