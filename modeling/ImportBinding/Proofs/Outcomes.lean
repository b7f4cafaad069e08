/-
This file says when steps that may fail succeed, and with which results.

One step succeeds with a result that the next one goes on from. A step that is made for each member
of a list succeeds with one result for each member, in the same order. Steps that fail in one way
only do so when they are made one after another, too.
-/

import ImportBinding.Declaration.Lossless
import Mathlib.Data.List.Forall2

namespace ImportBinding

/-! ### Single steps -/

section Single

variable {Fault First Second : Type}

theorem ok_bind (first : First) (next : First → Except Fault Second) :
    (Except.ok first >>= next) = next first := rfl

theorem bind_pure_eq_map (first : Except Fault First) (change : First → Second) :
    (do return change (← first)) = first.map change := by
  cases first <;> rfl

theorem map_eq_ok_iff {first : Except Fault First} {change : First → Second} {result : Second} :
    first.map change = .ok result ↔ ∃ middle, first = .ok middle ∧ change middle = result := by
  cases first <;> simp [Except.map]

theorem toOption_ok (result : First) :
    (Except.ok result : Except Fault First).toOption = some result := rfl

theorem toOption_eq_some_iff {outcome : Except Fault First} {result : First} :
    outcome.toOption = some result ↔ outcome = .ok result := by
  cases outcome <;> simp [Except.toOption]

/-- What a step and the next one read. -/
theorem toOption_bind (first : Except Fault First) (next : First → Except Fault Second) :
    (first >>= next).toOption = first.toOption.bind fun middle => (next middle).toOption := by
  cases first <;> rfl

/-- What is told of a result can only be told when there is one. -/
theorem exists_ok_of_map_toOption {outcome : Except Fault First} {tell : First → Second}
    {told : Second} (known : outcome.toOption.map tell = some told) :
    ∃ result, outcome = .ok result ∧ tell result = told := by
  cases outcome with
  | error fault => cases known
  | ok result => exact ⟨result, rfl, Option.some.inj known⟩

/-- What reads a result under a condition either reads it, or fails without the condition. -/
theorem cases_of_toOption_eq_ite {outcome : Except Fault First} {accepted : Prop}
    [Decidable accepted] {result : First}
    (read : outcome.toOption = if accepted then some result else none) :
    (accepted ∧ outcome = .ok result) ∨ (¬ accepted ∧ ∃ fault, outcome = .error fault) := by
  by_cases holds : accepted
  · rw [if_pos holds] at read
    exact Or.inl ⟨holds, toOption_eq_some_iff.mp read⟩
  · rw [if_neg holds] at read
    cases outcome with
    | error fault => exact Or.inr ⟨holds, fault, rfl⟩
    | ok other => cases read

end Single

/-! ### One step after another -/

section MapM

variable {Fault First Second Third : Type} {read : First → Except Fault Second} {all : List First}
  {results : List Second}

/-- All steps succeed with the results that they succeed with one by one. -/
theorem mapM_eq_ok_iff :
    all.mapM read = .ok results ↔
      List.Forall₂ (fun first second => read first = .ok second) all results := by
  induction all generalizing results with
  | nil =>
    rw [List.forall₂_nil_left_iff, List.mapM_nil]
    exact ⟨fun same => (Except.ok.inj same).symm, fun same => congrArg Except.ok same.symm⟩
  | cons first later inductionHypothesis =>
    simp only [List.mapM_cons, bind_eq_ok_iff, List.forall₂_cons_left_iff, inductionHypothesis]
    constructor
    · rintro ⟨second, done, others, ran, same⟩
      exact ⟨second, others, done, ran, (Except.ok.inj same).symm⟩
    · rintro ⟨second, others, done, ran, rfl⟩
      exact ⟨second, done, others, ran, rfl⟩

theorem mapM_congr {readToo : First → Except Fault Second}
    (same : ∀ first ∈ all, read first = readToo first) : all.mapM read = all.mapM readToo := by
  induction all with
  | nil => rfl
  | cons first later inductionHypothesis =>
    obtain ⟨sameFirst, sameLater⟩ := List.forall_mem_cons.mp same
    rw [List.mapM_cons, List.mapM_cons, sameFirst, inductionHypothesis sameLater]

/-- All steps succeed when each one does. -/
theorem exists_mapM_eq_ok_iff :
    (∃ results, all.mapM read = .ok results) ↔
      ∀ first ∈ all, ∃ second, read first = .ok second := by
  simp only [mapM_eq_ok_iff]
  induction all with
  | nil => simp
  | cons first later inductionHypothesis =>
    rw [List.forall_mem_cons, ← inductionHypothesis]
    constructor
    · rintro ⟨_, ran⟩
      obtain ⟨second, others, done, ran, -⟩ := List.forall₂_cons_left_iff.mp ran
      exact ⟨⟨second, done⟩, others, ran⟩
    · rintro ⟨⟨second, done⟩, others, ran⟩
      exact ⟨second :: others, .cons done ran⟩

/-- What is true of the result of every step is true of the results one by one. -/
theorem forall₂_of_mapM_eq_ok {fits : First → Second → Prop}
    (each : ∀ first ∈ all, ∀ second, read first = .ok second → fits first second)
    (ran : all.mapM read = .ok results) : List.Forall₂ fits all results := by
  have both := (List.forall₂_and_left all results).mpr ⟨each, mapM_eq_ok_iff.mp ran⟩
  exact both.imp fun first second step => step.1 second step.2

theorem map_eq_of_mapM_eq_ok {after : Second → Third} {before : First → Third}
    (each : ∀ first ∈ all, ∀ second, read first = .ok second → after second = before first)
    (ran : all.mapM read = .ok results) : results.map after = all.map before := by
  have fit := forall₂_of_mapM_eq_ok each ran
  clear each ran
  induction fit with
  | nil => rfl
  | cons same _ inductionHypothesis =>
    rw [List.map_cons, List.map_cons, same, inductionHypothesis]

theorem forall_of_mapM_eq_ok {fits : Second → Prop}
    (each : ∀ first ∈ all, ∀ second, read first = .ok second → fits second)
    (ran : all.mapM read = .ok results) : ∀ second ∈ results, fits second := by
  have fit := forall₂_of_mapM_eq_ok each ran
  clear each ran
  induction fit with
  | nil => exact List.forall_mem_nil fits
  | cons holds _ inductionHypothesis =>
    exact List.forall_mem_cons.mpr ⟨holds, inductionHypothesis⟩

theorem mapM_eq_ok_singleton_iff {result : Second} :
    all.mapM read = .ok [result] ↔ ∃ only, all = [only] ∧ read only = .ok result := by
  simp only [mapM_eq_ok_iff, List.forall₂_cons_right_iff, List.forall₂_nil_right_iff]
  constructor
  · rintro ⟨only, later, done, rfl, same⟩
    exact ⟨only, same, done⟩
  · rintro ⟨only, same, done⟩
    exact ⟨only, [], done, rfl, same⟩

theorem mapM_singleton (read : First → Except Fault Second) (only : First) :
    [only].mapM read = (read only).map fun result => [result] := by
  rw [List.mapM_cons]
  cases read only <;> rfl

theorem mapM_flatMap (read : Second → Except Fault Third) (parts : First → List Second)
    (all : List First) :
    (all.flatMap parts).mapM read =
      (all.mapM fun first => (parts first).mapM read).map List.flatten := by
  induction all with
  | nil => rfl
  | cons first later inductionHypothesis =>
    rw [List.flatMap_cons, List.mapM_append, List.mapM_cons, inductionHypothesis]
    cases (parts first).mapM read with
    | error fault => rfl
    | ok results => cases later.mapM fun first => (parts first).mapM read <;> rfl

end MapM

/-! ### Kinds of faults -/

/-- If a step fails, it fails with a fault of a kind. -/
def FailsOnly {Fault Result : Type} (kind : Fault → Prop) (outcome : Except Fault Result) : Prop :=
  ∀ fault, outcome = .error fault → kind fault

namespace FailsOnly

variable {Fault First Second : Type} {kind : Fault → Prop} {first : Except Fault First}

theorem ok (result : First) : FailsOnly kind (.ok result) := by
  intro fault failed
  cases failed

theorem error {fault : Fault} (is : kind fault) :
    FailsOnly kind (.error fault : Except Fault First) := by
  rintro _ ⟨⟩
  exact is

theorem bind {next : First → Except Fault Second} (only : FailsOnly kind first)
    (later : ∀ middle, FailsOnly kind (next middle)) : FailsOnly kind (first >>= next) := by
  cases first with
  | error fault => exact error (only fault rfl)
  | ok middle => exact later middle

theorem map {change : First → Second} (only : FailsOnly kind first) :
    FailsOnly kind (first.map change) := by
  cases first with
  | error fault => exact error (only fault rfl)
  | ok middle => exact ok _

theorem mapM {read : First → Except Fault Second} (only : ∀ first, FailsOnly kind (read first))
    (all : List First) : FailsOnly kind (all.mapM read) := by
  induction all with
  | nil => exact ok []
  | cons first later inductionHypothesis =>
    rw [List.mapM_cons]
    exact (only first).bind fun result => inductionHypothesis.bind fun results => ok _

end FailsOnly

end ImportBinding
