/-
This file says what normalizing leaves untouched.

The normal forms are the texts that normalizing does not change, and they are told by their start
and their end. Blanks around a text make no difference to its normal form. What comes out when a new
local name is pasted into a statement is one of these texts, whatever the name. So the text around
the name is kept, in the statement that is built from it as in the refusal.
-/

import ImportBinding.Proofs.Forms
import Mathlib.Dynamics.FixedPoints.Basic

namespace ImportBinding

/-! ### Normal forms -/

/-- A text with the word `import` at its start, which no letter, number, underscore or dollar sign
carries on. -/
def OpensWithImport (content : Text) : Prop :=
  ∃ behind, content = text "import" ++ behind ∧
    ∀ next ∈ behind.head?, next.isWord = false ∧ next ≠ '$'

/-- Normal texts are told by their first word and by a semicolon with one line break behind it at
their end. -/
theorem isNormal_iff {content : Text} :
    IsNormal content ↔ OpensWithImport content ∧ ∃ front, content = front ++ text ";\n" := by
  constructor
  · rintro ⟨starts, front, ends⟩
    exact ⟨startsWithImport_iff.mp starts, front, ends.symm⟩
  · rintro ⟨opens, front, ends⟩
    exact ⟨startsWithImport_iff.mpr opens, front, ends.symm⟩

/-- The normal texts are those that normalizing does not change. -/
theorem normalForm_eq_self_iff {content : Text} :
    normalForm content = content ↔ IsNormal content := by
  constructor
  · intro same
    rw [← same]
    exact isNormal_normalForm content
  · exact normalForm_of_isNormal

theorem normalForm_append_blanks {front back : Text}
    (blankFront : ∀ point ∈ front, point.isBlank = true)
    (blankBack : ∀ point ∈ back, point.isBlank = true) (content : Text) :
    normalForm (front ++ (content ++ back)) = normalForm content := by
  rw [normalForm, Text.trim_append_blanks blankFront blankBack, normalForm]

/-- A normal form starts with the word `import` and ends with a semicolon and one line break, and
has itself for a normal form. The normal forms, the texts that normalizing does not change, and the
texts with this start and this end are the same texts. Blanks around a text do not matter. -/
theorem normalForm_canonical (content : Text) {front back : Text}
    (blankFront : ∀ point ∈ front, point.isBlank = true)
    (blankBack : ∀ point ∈ back, point.isBlank = true) :
    OpensWithImport (normalForm content) ∧
      (∃ before, normalForm content = before ++ text ";\n") ∧
        normalForm (normalForm content) = normalForm content ∧
          Set.range normalForm = Function.fixedPoints normalForm ∧
            Function.fixedPoints normalForm =
              {other | OpensWithImport other ∧ ∃ before, other = before ++ text ";\n"} ∧
              normalForm (front ++ (content ++ back)) = normalForm content := by
  have settled (other : Text) : normalForm (normalForm other) = normalForm other :=
    normalForm_of_isNormal (isNormal_normalForm other)
  obtain ⟨opens, ends⟩ := isNormal_iff.mp (isNormal_normalForm content)
  refine ⟨opens, ends, settled content, ?_, ?_,
    normalForm_append_blanks blankFront blankBack content⟩
  · ext other
    constructor
    · rintro ⟨given, rfl⟩
      exact settled given
    · intro same
      exact ⟨other, same⟩
  · ext other
    exact normalForm_eq_self_iff.trans isNormal_iff

/-- The short form between blanks. -/
theorem normalForm_canonical_button :
    normalForm (text "\n\t " ++ (text "Button from './button'" ++ text "\u2028\u001c")) =
      text "import Button from './button';\n" := by
  have blankFront : ∀ point ∈ text "\n\t ", point.isBlank = true := by decide
  have blankBack : ∀ point ∈ text "\u2028\u001c", point.isBlank = true := by decide
  obtain ⟨-, -, -, -, -, same⟩ :=
    normalForm_canonical (text "Button from './button'") blankFront blankBack
  rw [same]
  with_unfolding_all rfl

/-! ### Pasting -/

namespace Statement

/-- A refusal has the value that was given. -/
theorem statement_of_ofText {content : Text} {dialect : Dialect} {refusal : Refusal}
    (refused : ofText [] content dialect = .error (.refused refusal)) :
    refusal.statement = .text content := by
  by_cases undecodable : IsUndecodable dialect content
  · obtain ⟨failure, failed, kind⟩ := ofText_of_isUndecodable undecodable
    rw [refused] at failed
    cases failed
    exact absurd kind (not_isDecodingFailure_refused refusal)
  · rcases ofText_of_not_isUndecodable undecodable with ⟨built, made⟩ | ⟨reason, failed⟩
    · rw [refused] at made
      cases made
    · rw [refused] at failed
      cases failed
      rfl

/-- What the text of a statement becomes with another local name: the new name stands in place of
the old one or, where that is the name of the export itself, behind it and the word `as`. -/
inductive Pastes (statement : Statement) (name : Text) : Text → Prop where
  | replaced {before old after : Text}
      (apart : ∀ exported, statement.specifier ≠ .named exported exported)
      (whole : statement.content = before ++ (old ++ after))
      (start : statement.specifier.binding.start = before.length)
      (stop : statement.specifier.binding.stop = (before ++ old).length) :
      Pastes statement name (before ++ (name ++ after))
  | added {exported : Identifier} {before after : Text}
      (bare : statement.specifier = .named exported exported)
      (whole : statement.content = before ++ after) (stop : exported.stop = before.length) :
      Pastes statement name (before ++ (text " as " ++ (name ++ after)))

/-- Where the local name is the name of the export itself, the new name is put behind it. -/
theorem spliced_of_bare {statement : Statement} {exported : Identifier}
    (bare : statement.specifier = .named exported exported) (name : Text) :
    statement.spliced name = statement.content.take exported.stop ++
      (text " as " ++ (name ++ statement.content.drop exported.stop)) := by
  have single : (Specifier.named exported exported).isAliased = false := bne_self_eq_false _
  simp only [spliced, bare, single, Bool.false_eq_true, if_false, List.append_assoc]

section Reads

variable {statement : Statement} {declaration : Declaration} {rest : List Token}
  {later : List Item} {tail : Text} (reads : statement.Reads declaration rest later tail)

include reads

/-- A local name that is not the name of the export itself is exchanged where it stands. -/
theorem Reads.spliced_of_apart
    (apart : ∀ exported, statement.specifier ≠ .named exported exported) (name : Text) :
    statement.spliced name = statement.content.take statement.specifier.binding.start ++
      (name ++ statement.content.drop statement.specifier.binding.stop) := by
  have behind := Declaration.isBehind_of_specifiers reads.opens.framed reads.specifiers_eq _
    (List.mem_singleton_self _)
  cases specified : statement.specifier with
  | default binding | star binding =>
    simp only [spliced, specified, Specifier.binding, List.append_assoc]
  | named imported binding =>
    rw [specified] at behind
    have aliased : (Specifier.named imported binding).isAliased = true := by
      rcases behind with rfl | ⟨spelled, later⟩
      · exact absurd specified (apart imported)
      · exact bne_iff_ne.mpr (by omega)
    simp only [spliced, specified, aliased, Specifier.binding, if_true, List.append_assoc]

/-- There is one text that a new local name is pasted into. -/
theorem Reads.pastes_iff {name other : Text} :
    statement.Pastes name other ↔ other = statement.spliced name := by
  obtain ⟨-, nonempty, inside, -⟩ := reads.binding_within
  have ends := reads.stop_lt
  constructor
  · intro pastes
    -- The place of the local name tells how long the text in front of it is.
    obtain @⟨before, old, after, apart, whole, start, stop⟩ |
      @⟨exported, before, after, bare, whole, stop⟩ := pastes
    · rw [reads.spliced_of_apart apart, start, stop, whole, List.take_left,
        ← List.append_assoc before old after, List.drop_left]
    · rw [spliced_of_bare bare, stop, whole, List.take_left, List.drop_left]
  · rintro rfl
    by_cases bare : ∃ exported, statement.specifier = .named exported exported
    · obtain ⟨exported, bare⟩ := bare
      rw [spliced_of_bare bare]
      refine .added bare (List.take_append_drop _ _).symm ?_
      rw [bare, Specifier.binding] at inside
      rw [List.length_take]
      omega
    · have apart (exported : Identifier) : statement.specifier ≠ .named exported exported :=
        fun same => bare ⟨exported, same⟩
      have kept := statement.content.take_append_slice (Nat.le_of_lt nonempty)
      have start : statement.specifier.binding.start =
          (statement.content.take statement.specifier.binding.start).length := by
        rw [List.length_take]
        omega
      have stop : statement.specifier.binding.stop =
          (statement.content.take statement.specifier.binding.stop).length := by
        rw [List.length_take]
        omega
      have whole : statement.content =
          statement.content.take statement.specifier.binding.start ++
            (statement.content.slice statement.specifier.binding.start
              statement.specifier.binding.stop ++
                statement.content.drop statement.specifier.binding.stop) := by
        rw [← List.append_assoc, kept, List.take_append_drop]
      rw [reads.spliced_of_apart apart]
      exact .replaced apart whole start (stop.trans (congrArg List.length kept.symm))

end Reads

/-- Whatever a new local name is, it is pasted into the text, and nothing else about the text is
changed. Both what comes out of it and a refusal have this text for the text that was given. -/
theorem exists_pasted {statement : Statement} (built : statement.IsBuilt) (name : Text) :
    ∃ pasted, (∀ other, statement.Pastes name other ↔ other = pasted) ∧
      normalForm pasted = pasted ∧
        (∀ renamed, statement.rename [] (.text name) = .ok renamed →
          renamed.content = pasted ∧ renamed.given = pasted ∧
            renamed.dialect = statement.dialect) ∧
          ∀ refusal, statement.rename [] (.text name) = .error (.refused refusal) →
            refusal.statement = .text pasted := by
  obtain ⟨declaration, rest, later, tail, reads⟩ := built.exists_reads
  obtain ⟨front, slot, back, has, sourced⟩ := reads.exists_slot
  have normal := normalForm_of_isNormal (reads.isNormal_spliced has sourced name)
  refine ⟨statement.spliced name, fun other => reads.pastes_iff, normal, fun renamed done => ?_,
    fun refusal refused => statement_of_ofText refused⟩
  obtain ⟨given, content, dialect, -⟩ := ofText_eq_ok_iff.mp done
  exact ⟨content.trans normal, given, dialect⟩

/-- A new local name with line breaks and declarations of its own leaves the rest as it is. -/
theorem exists_pasted_lines :
    ∃ statement renamed : Statement,
      ofValue [] (.text (text " x from 'a' ")) (.ok (text "javascript")) = .ok statement ∧
        statement.rename [] (.text (text "y from 'b';\n import { z } ")) = .ok renamed ∧
          renamed.content = text "import y from 'b';\n import { z }  from 'a';\n" ∧
            renamed.given = renamed.content := by
  have known : (ofValue [] (.text (text " x from 'a' ")) (.ok (text "javascript"))).toOption.map
      (fun statement => (statement.content, statement.specifier,
        (statement.rename [] (.text (text "y from 'b';\n import { z } "))).toOption.isSome)) =
      some (text "import x from 'a';\n", .default ⟨text "x", 7, 8⟩, true) := by
    with_unfolding_all rfl
  obtain ⟨statement, made, told⟩ := exists_ok_of_map_toOption known
  obtain ⟨content, told⟩ := Prod.mk.inj told
  obtain ⟨specifier, accepted⟩ := Prod.mk.inj told
  obtain ⟨renamed, done⟩ := Option.isSome_iff_exists.mp accepted
  have done := toOption_eq_some_iff.mp done
  obtain ⟨pasted, unique, -, kept, -⟩ :=
    exists_pasted (.new made) (text "y from 'b';\n import { z } ")
  have pastes : statement.Pastes (text "y from 'b';\n import { z } ")
      (text "import " ++ (text "y from 'b';\n import { z } " ++ text " from 'a';\n")) := by
    refine @Pastes.replaced statement _ (text "import ") (text "x") (text " from 'a';\n")
      (fun exported same => ?_) content ?_ ?_
    · rw [specifier] at same
      cases same
    · rw [specifier]
      rfl
    · rw [specifier]
      rfl
  obtain ⟨same, given, -⟩ := kept renamed done
  refine ⟨statement, renamed, made, done, ?_, given.trans same.symm⟩
  rw [same, ← (unique _).mp pastes]
  rfl

end Statement

end ImportBinding
