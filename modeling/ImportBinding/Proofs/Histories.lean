/-
This file says that of several renames only the last one counts.

Every rename leaves a place at which the next one puts its name. The first rename of a named import
without an alias puts `as` and the name behind the name of the export, and every later one exchanges
the name, so both leave the same text around it. The settings of a session play no part in this: a
statement keeps its dialect.
-/

import ImportBinding.Proofs.Alone
import ImportBinding.Proofs.Coherence
import ImportBinding.Session

namespace ImportBinding

/-! ### The place of a new local name -/

namespace Specifier

/-- Where the local name is written apart from the name of the export, it is exchanged. -/
theorem isAliased_of_not_isBare {imported binding : Identifier}
    (apart : (named imported binding).isBare = false) :
    (named imported binding).isAliased = true := by
  simp only [isBare, decide_eq_false_iff_not] at apart
  exact bne_iff_ne.mpr apart

/-- A new local name is written apart from the name of the export. -/
theorem isBare_renamed {specifier : Specifier} {front : List Token} {slot : Token}
    (stands : specifier.StandsAt 0 front slot) (name : Text) :
    (specifier.renamed name).isBare = false := by
  cases specifier with
  | default binding | star binding => rfl
  | named imported binding =>
    obtain ⟨rfl, bare⟩ := stands
    simp only [renamed, isBare, decide_eq_false_iff_not]
    split
    · rename_i same
      rw [bare same]
      simp only [Token.identifier, Token.width]
      omega
    · assumption

theorem stop_renamed (specifier : Specifier) (name : Text) :
    (specifier.renamed name).binding.stop =
      (specifier.renamed name).binding.start + name.length := by
  cases specifier <;> rfl

end Specifier

namespace Statement

/-- A local name that is written apart from the name of the export is exchanged where it stands. -/
theorem spliced_of_not_isBare {statement : Statement} (apart : statement.specifier.isBare = false)
    (name : Text) : statement.spliced name =
      statement.content.take statement.specifier.binding.start ++ name ++
        statement.content.drop statement.specifier.binding.stop := by
  rw [spliced]
  cases specified : statement.specifier with
  | default binding | star binding => rfl
  | named imported binding =>
    rw [specified] at apart
    exact if_pos (Specifier.isAliased_of_not_isBare apart)

/-! ### Two renames -/

section Slot

variable {statement renamed : Statement} {declaration : Declaration} {rest : List Token}
  {later : List Item} {tail : Text} {front back : List Token} {slot : Token} {name : Text}
  (reads : statement.Reads declaration rest later tail)
  (has : HasSlot 0 statement.specifier declaration.tokens
    (fun name => (declaration.rebind name).tokens)
    (fun name => (declaration.rebind name).specifiers 0) (declaration.keyword :: front) slot back)

include reads has

/-- The text of a renamed statement is the changed text as it is. -/
theorem Reads.content_renamed (sourced : declaration.source ∈ back)
    (done : statement.rename [] (.text name) = .ok renamed) :
    renamed.content = statement.spliced name := by
  obtain ⟨-, content, -⟩ := ofText_eq_ok_iff.mp done
  rw [content, normalForm_of_isNormal (reads.isNormal_spliced has sourced name)]

/-- The text around the local name is the same before and after a rename to a single name. -/
theorem Reads.spliced_renamed (sourced : declaration.source ∈ back) (single : IsName name)
    (done : statement.rename [] (.text name) = .ok renamed) (other : Text) :
    renamed.spliced other = statement.spliced other := by
  obtain ⟨-, specifier, -⟩ := reads.reads_renamed has sourced single done
  have apart := Specifier.isBare_renamed has.stands name
  have start := Specifier.start_renamed has.stands name
  have stop := Specifier.stop_renamed statement.specifier name
  rw [← specifier] at apart start stop
  rw [spliced_of_not_isBare apart, reads.content_renamed has sourced done, stop, start,
    reads.spliced_eq has, reads.spliced_eq has, ← List.append_assoc, List.take_left,
    ← List.drop_drop, List.drop_left, List.drop_left]
  simp only [List.append_assoc]

/-- Where the local name is written apart from the name of the export, its own name leaves the text
as it is. -/
theorem Reads.spliced_binding (apart : statement.specifier.isBare = false) :
    statement.spliced statement.binding = statement.content := by
  have lead : statement.specifier.lead slot = slot.gap := by
    rw [Specifier.lead, apart, if_neg Bool.false_ne_true]
  have body : statement.binding = slot.body :=
    congrArg Identifier.name has.stands.binding_eq
  rw [reads.spliced_eq has, reads.content_eq has, lead, body, Token.written, List.append_assoc]

end Slot

/-- A rename to a single name has no part in the outcome of the next rename. -/
theorem rename_of_takesName {statement renamed : Statement} (built : statement.IsBuilt)
    (taken : statement.TakesName renamed) (other : Text) :
    renamed.rename [] (.text other) = statement.rename [] (.text other) := by
  obtain ⟨name, single, done⟩ := taken
  obtain ⟨declaration, rest, later, tail, reads⟩ := built.exists_reads
  obtain ⟨front, slot, back, has, sourced⟩ := reads.exists_slot
  obtain ⟨-, -, -, dialect⟩ := reads.reads_renamed has sourced single done
  rw [rename, rename, reads.spliced_renamed has sourced single done, dialect]

/-- However often a statement is renamed to single names, the next rename has the outcome that it
would have had at first. -/
theorem rename_of_takesNames {statement renamed : Statement} (built : statement.IsBuilt)
    (taken : Relation.ReflTransGen TakesName statement renamed) (other : Text) :
    renamed.rename [] (.text other) = statement.rename [] (.text other) := by
  induction taken with
  | refl => rfl
  | tail before step inductionHypothesis =>
    have between := (isAlone_iff_of_takesNames built before).1
    exact (rename_of_takesName between step other).trans inductionHypothesis

/-- A statement whose local name is written apart from the name of the export is renamed to its own
local name without a change. -/
theorem rename_binding {statement : Statement} (built : statement.IsBuilt)
    (apart : statement.specifier.isBare = false) :
    statement.rename [] (.text statement.binding) =
      .ok { statement with given := statement.content } := by
  obtain ⟨declaration, rest, later, tail, reads⟩ := built.exists_reads
  obtain ⟨front, slot, back, has, -⟩ := reads.exists_slot
  rw [rename, reads.spliced_binding has apart]
  exact reads.ofText_eq (normalForm_of_isNormal reads.normal)

end Statement

/-! ### Sessions -/

namespace Session

/-- Steps only add slots. -/
theorem slots_step (recordings : List Recording) (session : Session) (step : Step) :
    session.slots <+: (session.step recordings step).2.slots := by
  have asked : session.ask.2.slots = session.slots := by
    unfold ask
    split <;> rfl
  cases step with
  | build given language =>
    simp only [Session.step, build, fill]
    split
    · rw [asked]
      exact List.prefix_append _ _
    · exact List.prefix_append _ _
  | rename slot name => exact List.prefix_append _ _
  | configured => exact ⟨[], (List.append_nil _).trans asked.symm⟩
  | _ => exact List.prefix_refl _

theorem statement_eq_ok_iff {session : Session} {slot : Nat} {statement : Statement} :
    session.statement slot = .ok statement ↔ session.slots[slot]? = some (some statement) := by
  unfold Session.statement
  split
  · rename_i other found
    rw [found]
    exact ⟨fun same => by cases same; rfl, fun same => by cases same; rfl⟩
  · rename_i empty
    exact ⟨nofun, fun found => absurd found (empty statement)⟩

/-- A statement stays in its slot. -/
theorem statement_step {session : Session} {slot : Nat} {statement : Statement}
    (found : session.statement slot = .ok statement) (recordings : List Recording) (step : Step) :
    (session.step recordings step).2.statement slot = .ok statement := by
  rw [statement_eq_ok_iff] at found ⊢
  obtain ⟨more, slots⟩ := session.slots_step recordings step
  obtain ⟨bound, -⟩ := List.getElem?_eq_some_iff.mp found
  rw [← slots, List.getElem?_append_left bound, found]

/-- A rename asks nothing but the statement, and its outcome takes the next slot. -/
theorem step_rename {session : Session} {slot : Nat} {statement : Statement}
    (found : session.statement slot = .ok statement) (recordings : List Recording)
    (name : Value) :
    session.step recordings (.rename slot name) =
      ((statement.rename recordings name).map .statement,
        session.fill (statement.rename recordings name)) := by
  rw [Session.step, found]
  rfl

/-- A text is built in a given language without asking the settings. -/
theorem answer_build (session : Session) (content : Text) (dialect : Dialect) :
    (session.step [] (.build (.text content) (.text dialect.name))).1 =
      (Statement.ofText [] content dialect).map .statement := by
  have chosen := Statement.languageOf_of_chosen (Statement.trim_lower_name dialect)
  simp only [Session.step, build, chosen, Statement.ofValue_text]

/-- How a session goes on with one of its statements. There may be any steps, and when the statement
is renamed to a single name, the renamed one takes its place. -/
inductive Renames (session : Session) (slot : Nat) : Session → Nat → Prop where
  | start : Renames session slot session slot
  | other {later : Session} {place : Nat} (before : Renames session slot later place)
      (step : Step) : Renames session slot (later.step [] step).2 place
  | rename {later : Session} {place : Nat} {name : Text} {renamed : Statement}
      (before : Renames session slot later place) (single : IsName name)
      (done : (later.step [] (.rename place (.text name))).1 = .ok (.statement renamed)) :
      Renames session slot (later.step [] (.rename place (.text name))).2 later.slots.length

/-- A session goes on when the statement that it has gone on with is renamed to a single name. -/
theorem Renames.followed {session later : Session} {slot place : Nat} {name : Text}
    {last renamed : Statement} (before : session.Renames slot later place) (single : IsName name)
    (there : later.statement place = .ok last)
    (done : last.rename [] (.text name) = .ok renamed) :
    session.Renames slot (later.fill (.ok renamed)) later.slots.length := by
  have answered := step_rename there [] (.text name)
  rw [done] at answered
  have next := before.rename single (congrArg Prod.fst answered)
  rwa [answered] at next

/-- The statement that a session has gone on with was made by renames to single names. -/
theorem Renames.exists_takesNames {session later : Session} {slot place : Nat}
    {statement : Statement} (renames : session.Renames slot later place)
    (found : session.statement slot = .ok statement) :
    ∃ last, later.statement place = .ok last ∧
      Relation.ReflTransGen Statement.TakesName statement last := by
  induction renames with
  | start => exact ⟨statement, found, .refl⟩
  | other before step inductionHypothesis =>
    obtain ⟨last, there, taken⟩ := inductionHypothesis
    exact ⟨last, statement_step there [] step, taken⟩
  | @rename later place name renamed before single done inductionHypothesis =>
    obtain ⟨last, there, taken⟩ := inductionHypothesis
    rw [step_rename there] at done ⊢
    obtain ⟨other, renamed, same⟩ := map_eq_ok_iff.mp done
    cases same
    refine ⟨_, ?_, taken.tail ⟨name, single, renamed⟩⟩
    rw [renamed, statement_eq_ok_iff]
    exact List.getElem?_concat_length

/-- The last rename wins. However a session has gone on with a statement, the next rename has the
outcome that it would have had at first, and whatever the settings are by now, it is that of
building the changed text in the language of the statement. Where the local name is written apart
from the name of the export, its own name brings back the same statement. -/
theorem answer_rename_of_renames {session later : Session} {slot place : Nat}
    {statement : Statement} (found : session.statement slot = .ok statement)
    (built : statement.IsBuilt) (renames : session.Renames slot later place) (name : Text) :
    (later.step [] (.rename place (.text name))).1 =
        (session.step [] (.rename slot (.text name))).1 ∧
      (later.step [] (.rename place (.text name))).1 =
        (later.step []
          (.build (.text (statement.spliced name)) (.text statement.dialect.name))).1 ∧
      (statement.specifier.isBare = false → name = statement.binding →
        ∃ again, (later.step [] (.rename place (.text name))).1 = .ok (.statement again) ∧
          again.isSame statement = true ∧ again.node = statement.node) := by
  obtain ⟨last, there, taken⟩ := renames.exists_takesNames found
  have same := Statement.rename_of_takesNames built taken name
  have outcome : (later.step [] (.rename place (.text name))).1 =
      (session.step [] (.rename slot (.text name))).1 := by
    rw [step_rename there, step_rename found, same]
  refine ⟨outcome, ?_, fun apart own => ?_⟩
  · rw [outcome, step_rename found, answer_build]
    rfl
  · subst own
    rw [outcome, step_rename found, Statement.rename_binding built apart]
    exact ⟨_, rfl, by simp [Statement.isSame], rfl⟩

/-- A named import gets the names `as` and `from`, and the variable that names the language is set
to no language in between. -/
theorem answer_rename_of_renames_query :
    ∃ (session later : Session) (statement : Statement),
      session.statement 0 = .ok statement ∧ statement.IsBuilt ∧ session.Renames 0 later 2 ∧
        later.settings.environment = some (text "ruby") ∧
          (later.step [] (.rename 2 (.text (text "useQuery2")))).1 =
            (session.step [] (.rename 0 (.text (text "useQuery2")))).1 := by
  have known : (Statement.ofValue [] (.text (text "\x7b useQuery \x7d from '@apollo/react-hooks'"))
      (.ok (text "javascript"))).toOption.map (fun statement =>
        (statement.rename [] (.text (text "as"))).toOption.map fun renamed =>
          (renamed.rename [] (.text (text "from"))).toOption.isSome) = some (some true) := by
    decide +kernel
  obtain ⟨statement, made, told⟩ := exists_ok_of_map_toOption known
  obtain ⟨renamed, done, accepted⟩ := exists_ok_of_map_toOption told
  obtain ⟨last, doneToo⟩ := Option.isSome_iff_exists.mp accepted
  have doneToo := toOption_eq_some_iff.mp doneToo
  let session : Session := ⟨[some statement], Settings.initial⟩
  have asName : IsName (text "as") := isName_as
  have fromName : IsName (text "from") := isName_iff.mpr ⟨by decide, by decide +kernel⟩
  have first : session.Renames 0 (session.fill (.ok renamed)) 1 := .followed .start asName rfl done
  have second := first.other (.environment (some (text "ruby")))
  have third := second.followed fromName rfl doneToo
  have named : (Settings.initial.withVariable (some (text "ruby"))).2.environment =
      some (text "ruby") := by
    decide +kernel
  exact ⟨session, _, statement, rfl, .new made, third, named,
    (answer_rename_of_renames rfl (.new made) third _).1⟩

end Session

end ImportBinding
