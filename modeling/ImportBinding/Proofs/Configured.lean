/-
This file says when the settings yield a language that is none of the dialects.

The settings are checked each time they are asked for the language, until a check has passed. From
then on the variable that names the language is read without a check. So it is the order of the
steps of a session that counts: a name without a dialect gets through when the variable was changed
to it after the check, and in no other way.
-/

import ImportBinding.Proofs.Refusing
import ImportBinding.Session

namespace ImportBinding

/-! ### Asking the settings -/

namespace Settings

/-- Whether the language that is named is one of the dialects. -/
def isSupported (settings : Settings) : Bool := (Dialect.ofName? settings.language).isSome

/-- Whether the settings yield a language when they are asked for it. -/
def yields (settings : Settings) : Bool := settings.isChecked || settings.isSupported

end Settings

namespace Session

theorem ask_of_yields {session : Session} (yields : session.settings.yields = true) :
    session.ask = (.ok session.settings.language,
      { session with settings := { session.settings with isChecked := true } }) := by
  rw [Settings.yields, Settings.isSupported] at yields
  rw [ask, Settings.check, if_pos yields]
  rfl

theorem ask_of_not_yields {session : Session} (silent : session.settings.yields = false) :
    session.ask = (.error (.unsupportedSetting session.settings.language), session) := by
  rw [Settings.yields, Settings.isSupported] at silent
  rw [ask, Settings.check, silent, if_neg Bool.false_ne_true]
  rfl

/-- Asking the settings leaves the variable alone. -/
theorem environment_ask (session : Session) :
    session.ask.2.settings.environment = session.settings.environment := by
  cases yields : session.settings.yields with
  | true => rw [ask_of_yields yields]
  | false => rw [ask_of_not_yields yields]

/-- The settings are checked when they have yielded a language. -/
theorem isChecked_ask (session : Session) :
    session.ask.2.settings.isChecked = session.settings.yields := by
  cases yields : session.settings.yields with
  | true => rw [ask_of_yields yields]
  | false =>
    rw [ask_of_not_yields yields]
    exact (Bool.or_eq_false_iff.mp yields).1

theorem answer_configured (recordings : List Recording) (session : Session) :
    (session.step recordings .configured).1 =
      if session.settings.yields = true then .ok (.language session.settings.language)
      else .error (.unsupportedSetting session.settings.language) := by
  cases yields : session.settings.yields with
  | true =>
    rw [step, ask_of_yields yields]
    rfl
  | false =>
    rw [step, ask_of_not_yields yields]
    rfl

/-- A text is built without a language in the one that the settings yield. -/
theorem answer_build_unchosen {language : Value} (unchosen : language.isGiven = false)
    (session : Session) (content : Text) :
    (session.step [] (.build (.text content) language)).1 =
      if session.settings.yields = true then
        match Dialect.ofName? session.settings.language with
        | some dialect => (Statement.ofText [] content dialect).map .statement
        | none => .error (.unsupportedLanguage (.text session.settings.language))
      else .error (.unsupportedSetting session.settings.language) := by
  have configured : ∀ outcome, Statement.languageOf language outcome = outcome :=
    fun outcome => if_neg (Bool.eq_false_iff.mp unchosen)
  simp only [step, build, configured]
  cases yields : session.settings.yields with
  | false =>
    rw [ask_of_not_yields yields]
    rfl
  | true =>
    rw [ask_of_yields yields, if_pos rfl]
    cases found : Dialect.ofName? session.settings.language with
    | none =>
      have unsupported : dialectOf (.text session.settings.language) =
          .error (.unsupportedLanguage (.text session.settings.language)) := by
        rw [dialectOf, found]
        rfl
      show (dialectOf (.text session.settings.language) >>= Statement.ofText [] content).map
        Answer.statement = _
      rw [unsupported]
      rfl
    | some dialect =>
      rw [(Dialect.ofName?_eq_some_iff _ dialect).mp found]
      exact congrArg (Except.map _) (Statement.ofValue_text content)

end Session

/-! ### The settings after a history -/

namespace Step

/-- Whether a step asks the settings for the language. -/
def asks : Step → Bool
  | .build given language => !language.isGiven && (Statement.textOf given).toBool
  | .configured => true
  | _ => false

/-- The variable that names the language after a step. A value that cannot be stored unsets it. -/
def assigned (before : Option Text) : Step → Option Text
  | .environment value => (value.mapM Variable.stored).toOption.join
  | _ => before

end Step

/-- The language that is named after some steps. -/
def namedAfter (steps : List Step) : Text :=
  ((steps.foldl Step.assigned none).getD (text "javascript")).trim.lower

/-- Whether a check has passed in the course of some steps, and was not forgotten since: a step
asked for the language when it was one of the dialects. -/
def IsChecked (steps : List Step) : Prop :=
  ∃ earlier step later, steps = earlier ++ step :: later ∧ step.asks = true ∧
    (Dialect.ofName? (namedAfter earlier)).isSome = true ∧ Step.forget ∉ later

/-- Whether the variable names no dialect although a check has passed. -/
def IsStale (steps : List Step) : Prop :=
  IsChecked steps ∧ Dialect.ofName? (namedAfter steps) = none

theorem not_isChecked_nil : ¬ IsChecked [] := by
  rintro ⟨earlier, step, later, whole, -⟩
  exact List.append_ne_nil_of_right_ne_nil _ (List.cons_ne_nil _ _) whole.symm

/-- A check has passed when it passes in the last step, or had passed and is not forgotten in it. -/
theorem isChecked_concat_iff {steps : List Step} {last : Step} :
    IsChecked (steps ++ [last]) ↔
      (IsChecked steps ∧ last ≠ .forget) ∨
        (last.asks = true ∧ (Dialect.ofName? (namedAfter steps)).isSome = true) := by
  constructor
  · rintro ⟨earlier, step, later, whole, asked, supported, kept⟩
    rcases List.eq_nil_or_concat' later with rfl | ⟨later, other, rfl⟩
    · obtain ⟨rfl, same⟩ := List.append_inj' whole rfl
      cases same
      exact Or.inr ⟨asked, supported⟩
    · rw [← List.cons_append, ← List.append_assoc] at whole
      obtain ⟨rfl, same⟩ := List.append_inj' whole rfl
      cases same
      rw [List.mem_append, List.mem_singleton, not_or] at kept
      exact Or.inl ⟨⟨earlier, step, later, rfl, asked, supported, kept.1⟩, Ne.symm kept.2⟩
  · rintro (⟨⟨earlier, step, later, rfl, asked, supported, kept⟩, other⟩ | ⟨asked, supported⟩)
    · refine ⟨earlier, step, later ++ [last], ?_, asked, supported, fun member => ?_⟩
      · rw [List.append_assoc, List.cons_append]
      · rcases List.mem_append.mp member with member | member
        · exact kept member
        · exact other (List.mem_singleton.mp member).symm
    · exact ⟨steps, last, [], rfl, asked, supported, List.not_mem_nil⟩

namespace Session

/-- The session after some steps. -/
def after (session : Session) (steps : List Step) : Session :=
  steps.foldl (fun before step => (before.step [] step).2) session

theorem after_concat (session : Session) (steps : List Step) (last : Step) :
    session.after (steps ++ [last]) = ((session.after steps).step [] last).2 :=
  List.foldl_concat _ _ _ _

/-- Only setting the variable changes it. -/
theorem environment_step (recordings : List Recording) (session : Session) (step : Step) :
    (session.step recordings step).2.settings.environment =
      step.assigned session.settings.environment := by
  cases step with
  | build given language =>
    simp only [Session.step, build, fill, Step.assigned]
    split
    · exact environment_ask session
    · rfl
  | configured => exact environment_ask session
  | environment value =>
    simp only [Session.step, Settings.withVariable, Step.assigned]
    cases value.mapM Variable.stored <;> rfl
  | _ => rfl

/-- A step that asks for the language checks the settings, and only one step forgets that. -/
theorem isChecked_step (recordings : List Recording) (session : Session) (step : Step) :
    (session.step recordings step).2.settings.isChecked = true ↔
      (session.settings.isChecked = true ∧ step ≠ .forget) ∨
        (step.asks = true ∧ session.settings.isSupported = true) := by
  have asked : session.ask.2.settings.isChecked = true ↔
      session.settings.isChecked = true ∨ session.settings.isSupported = true := by
    rw [isChecked_ask, Settings.yields, Bool.or_eq_true]
  cases step with
  | build given language =>
    have other : (Step.build given language) ≠ .forget := nofun
    simp only [Session.step, build, fill, Step.asks, other, ne_eq, not_false_eq_true, and_true]
    cases !language.isGiven && (Statement.textOf given).toBool with
    | true => simpa using asked
    | false => simp
  | configured => simpa [Session.step, Step.asks] using asked
  | environment value =>
    simp only [Session.step, Settings.withVariable, Step.asks]
    cases value.mapM Variable.stored <;> simp
  | _ => simp [Session.step, Step.asks, fill]

theorem language_after (steps : List Step) :
    (initial.after steps).settings.language = namedAfter steps := by
  have environment : (initial.after steps).settings.environment =
      steps.foldl Step.assigned none := by
    induction steps using List.reverseRecOn with
    | nil => rfl
    | append_singleton steps last inductionHypothesis =>
      rw [after_concat, environment_step, inductionHypothesis, List.foldl_concat]
  rw [Settings.language, environment, namedAfter]

/-- The settings count as checked when a check has passed in the course of the steps. -/
theorem isChecked_after (steps : List Step) :
    (initial.after steps).settings.isChecked = true ↔ IsChecked steps := by
  induction steps using List.reverseRecOn with
  | nil => exact iff_of_false Bool.false_ne_true not_isChecked_nil
  | append_singleton steps last inductionHypothesis =>
    rw [after_concat, isChecked_step, isChecked_concat_iff, inductionHypothesis,
      Settings.isSupported, language_after]

/-- The settings yield a language when a check has passed, or passes now. -/
theorem yields_after (steps : List Step) :
    (initial.after steps).settings.yields = true ↔
      IsChecked steps ∨ (Dialect.ofName? (namedAfter steps)).isSome = true := by
  rw [Settings.yields, Bool.or_eq_true, isChecked_after, Settings.isSupported, language_after]

/-! ### Languages without a dialect -/

theorem ofText_ne_unsupportedLanguage (content : Text) (dialect : Dialect) (given : Value) :
    Statement.ofText [] content dialect ≠ .error (.unsupportedLanguage given) := by
  intro failed
  rcases Statement.failure_of_ofText failed with
    ⟨refusal, same⟩ | ⟨number, same | same⟩ | ⟨first, start, stop, same⟩ <;> cases same

/-- A name without a dialect is yielded when a check has passed before. -/
theorem yields_iff_isStale {steps : List Step}
    (unsupported : Dialect.ofName? (namedAfter steps) = none) :
    (initial.after steps).settings.yields = true ↔ IsStale steps := by
  rw [yields_after, unsupported, IsStale]
  simp [unsupported]

theorem answer_configured_after (steps : List Step) :
    ((initial.after steps).step [] .configured).1 =
      if (initial.after steps).settings.yields = true then .ok (.language (namedAfter steps))
      else .error (.unsupportedSetting (namedAfter steps)) := by
  rw [answer_configured, language_after]

/-- The settings yield a name without a dialect when a check has passed and the variable holds that
name now. -/
theorem language_iff_isStale (steps : List Step) (name : Text) :
    ((initial.after steps).step [] .configured).1 = .ok (.language name) ∧
        Dialect.ofName? name = none ↔
      IsStale steps ∧ name = namedAfter steps := by
  rw [answer_configured_after]
  constructor
  · rintro ⟨answered, unsupported⟩
    split at answered
    · rename_i yields
      cases answered
      exact ⟨(yields_iff_isStale unsupported).mp yields, rfl⟩
    · cases answered
  · rintro ⟨stale, rfl⟩
    rw [if_pos ((yields_iff_isStale stale.2).mpr stale)]
    exact ⟨rfl, stale.2⟩

/-- Building a text fails for want of a dialect in the same case, and with the same name. -/
theorem unsupportedLanguage_iff_isStale (steps : List Step) (content : Text) {language : Value}
    (unchosen : language.isGiven = false) (given : Value) :
    ((initial.after steps).step [] (.build (.text content) language)).1 =
        .error (.unsupportedLanguage given) ↔
      IsStale steps ∧ given = .text (namedAfter steps) := by
  rw [answer_build_unchosen unchosen, language_after]
  constructor
  · intro answered
    split at answered
    · rename_i yields
      split at answered
      · rename_i dialect _
        cases built : Statement.ofText [] content dialect with
        | ok statement =>
          rw [built] at answered
          cases answered
        | error failure =>
          rw [built] at answered
          cases answered
          exact absurd built (ofText_ne_unsupportedLanguage content dialect given)
      · rename_i unsupported
        cases answered
        exact ⟨(yields_iff_isStale unsupported).mp yields, rfl⟩
    · cases answered
  · rintro ⟨stale, rfl⟩
    rw [if_pos ((yields_iff_isStale stale.2).mpr stale), stale.2]

/-- A name without a dialect comes out of the settings, and is handed on when a text is built, in
one case: the variable was changed to it after a check had passed. Otherwise all that is seen of it
is the failure of the check. -/
theorem unsupported_iff_isStale (steps : List Step) :
    (∀ name, ((initial.after steps).step [] .configured).1 = .ok (.language name) ∧
        Dialect.ofName? name = none ↔ IsStale steps ∧ name = namedAfter steps) ∧
      (∀ content language, language.isGiven = false → ∀ given,
        ((initial.after steps).step [] (.build (.text content) language)).1 =
          .error (.unsupportedLanguage given) ↔
            IsStale steps ∧ given = .text (namedAfter steps)) ∧
      (Dialect.ofName? (namedAfter steps) = none → ¬ IsStale steps →
        ((initial.after steps).step [] .configured).1 =
            .error (.unsupportedSetting (namedAfter steps)) ∧
          ∀ content language, language.isGiven = false →
            ((initial.after steps).step [] (.build (.text content) language)).1 =
              .error (.unsupportedSetting (namedAfter steps))) := by
  refine ⟨language_iff_isStale steps,
    fun content language unchosen => unsupportedLanguage_iff_isStale steps content unchosen,
    fun unsupported fresh => ?_⟩
  have silent := mt (yields_iff_isStale unsupported).mp fresh
  refine ⟨?_, fun content language unchosen => ?_⟩
  · rw [answer_configured_after, if_neg silent]
  · rw [answer_build_unchosen unchosen, language_after, if_neg silent]

/-- The variable names a dialect when it is checked, and none later on: that name is what the
settings yield, and there is no grammar for it when a text is built. -/
theorem unsupported_language_ruby :
    ((initial.after [.environment (some (text "javascript")), .configured,
        .environment (some (text "ruby"))]).step [] .configured).1 =
          .ok (.language (text "ruby")) ∧
      Dialect.ofName? (text "ruby") = none ∧
      ((initial.after [.environment (some (text "javascript")), .configured,
        .environment (some (text "ruby"))]).step []
          (.build (.text (text "x from 'a'")) .null)).1 =
            .error (.unsupportedLanguage (.text (text "ruby"))) := by
  refine ⟨?_, ?_, ?_⟩ <;> with_unfolding_all rfl

end Session

end ImportBinding
