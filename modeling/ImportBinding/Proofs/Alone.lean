/-
This file says which statements stand alone in their text.

The specifier of a statement is that of the first declaration of its text. Nothing asks what follows
that declaration, so more declarations may. There are none exactly when nothing but layout and
semicolons follows, and renaming to single names changes nothing about that.
-/

import ImportBinding.Proofs.Renaming
import Mathlib.Logic.Relation

namespace ImportBinding

namespace Statement

/-- A statement is alone when its text is a program with one declaration, which has the one
specifier of the statement. -/
def IsAlone (statement : Statement) : Prop :=
  ∃ program declaration, Program.ofText statement.dialect statement.content = .ok program ∧
    program.declarations = [declaration] ∧ declaration.specifiers 0 = .ok [statement.specifier]

section Reads

variable {statement : Statement} {declaration : Declaration} {rest : List Token}
  {later : List Item} {tail : Text} (reads : statement.Reads declaration rest later tail)

include reads

/-- A statement is alone when there are no declarations among the other items of its text. -/
theorem Reads.isAlone_iff_later : statement.IsAlone ↔ later.filterMap Item.declaration? = [] := by
  have parsed := Program.ofText_eq_ok_cons_iff.mpr ⟨rest, reads.opens⟩
  have declarations : (⟨.declaration declaration :: later, tail⟩ : Program).declarations =
      declaration :: later.filterMap Item.declaration? := rfl
  constructor
  · rintro ⟨program, only, reparsed, single, -⟩
    rw [parsed] at reparsed
    cases reparsed
    rw [declarations] at single
    exact (List.cons.inj single).2
  · intro none
    refine ⟨_, declaration, parsed, ?_, reads.specifiers_eq⟩
    rw [declarations, none]

/-- Behind the node of a statement stand the other tokens of its text. -/
theorem Reads.scan_drop :
    scan (statement.content.drop statement.node.stop) = .ok (rest, tail) := by
  obtain ⟨specifiers, source, -, -, -, node⟩ := Declaration.node_eq_ok_iff.mp reads.node
  obtain ⟨clean, whole, spaced, ends⟩ := scan_eq_ok_iff.mp reads.opens.scanned
  have stop : statement.node.stop = (Tokens.written declaration.tokens).length := by
    rw [node, Tokens.length_written]
    exact Nat.zero_add _
  have behind : statement.content.drop statement.node.stop = Tokens.written rest ++ tail := by
    rw [stop, whole, Tokens.written_append, List.append_assoc, List.drop_left]
  refine scan_eq_ok_iff.mpr ⟨fun point member => ?_, behind, spaced.of_append_right, ends⟩
  exact clean point (List.mem_of_mem_drop member)

end Reads

/-- A statement is alone in its text exactly when there is nothing but layout and semicolons behind
its node. -/
theorem isAlone_iff {statement : Statement} (built : statement.IsBuilt) :
    statement.IsAlone ↔ ∃ semicolons tail,
      scan (statement.content.drop statement.node.stop) = .ok (semicolons, tail) ∧
        ∀ token ∈ semicolons, token.kind = .semicolon := by
  obtain ⟨declaration, rest, later, tail, reads⟩ := built.exists_reads
  rw [reads.isAlone_iff_later, declarations_eq_nil_iff reads.opens.others]
  constructor
  · intro every
    exact ⟨rest, tail, reads.scan_drop, every⟩
  · rintro ⟨semicolons, end_, scanned, every⟩
    rw [reads.scan_drop] at scanned
    cases scanned
    exact every

/-- A statement with more semicolons and a comment behind its own semicolon is alone in its text. -/
theorem isAlone_iff_button :
    ∃ statement : Statement, statement.IsBuilt ∧ statement.binding = text "Button" ∧
      statement.IsAlone := by
  have known : (ofValue []
      (.text (text "{ VeniaButton as Button } from '@magento/venia';; /* more */"))
      (.ok (text "javascript"))).toOption.map (fun statement =>
        (statement.binding, (scan (statement.content.drop statement.node.stop)).toOption.map
          fun behind => behind.1.map Token.kind)) =
            some (text "Button", some [.semicolon, .semicolon]) := by
    decide +kernel
  obtain ⟨statement, made, told⟩ := exists_ok_of_map_toOption known
  obtain ⟨name, told⟩ := Prod.mk.inj told
  obtain ⟨⟨semicolons, tail⟩, scanned, kinds⟩ := exists_ok_of_map_toOption told
  refine ⟨statement, .new made, name, (isAlone_iff (.new made)).mpr ⟨semicolons, tail, scanned, ?_⟩⟩
  intro token member
  have kind := List.mem_map_of_mem (f := Token.kind) member
  rw [kinds] at kind
  simpa using kind

/-- A statement is built from a text with two declarations: it is not alone in its text. -/
theorem exists_not_isAlone :
    ∃ statement : Statement,
      ofValue [] (.text (text "x from 'a'; import y from 'b'")) (.ok (text "javascript")) =
          .ok statement ∧
        statement.binding = text "x" ∧ ¬ statement.IsAlone := by
  have known : (ofValue [] (.text (text "x from 'a'; import y from 'b'"))
      (.ok (text "javascript"))).toOption.map (fun statement =>
        (statement.binding, (Program.ofText statement.dialect statement.content).toOption.map
          fun program => program.declarations.length)) = some (text "x", some 2) := by
    decide +kernel
  obtain ⟨statement, made, told⟩ := exists_ok_of_map_toOption known
  obtain ⟨name, counted⟩ := Prod.mk.inj told
  refine ⟨statement, made, name, ?_⟩
  rintro ⟨program, declaration, parsed, single, -⟩
  rw [parsed, toOption_ok, Option.map_some, single] at counted
  cases counted

/-! ### Renaming -/

/-- Renaming to a single name. -/
def TakesName (statement renamed : Statement) : Prop :=
  ∃ name, IsName name ∧ statement.rename [] (.text name) = .ok renamed

/-- Renaming to a single name neither brings other declarations nor takes them away. -/
theorem isAlone_iff_of_takesName {statement renamed : Statement} (built : statement.IsBuilt)
    (taken : statement.TakesName renamed) : renamed.IsAlone ↔ statement.IsAlone := by
  obtain ⟨name, single, done⟩ := taken
  obtain ⟨declaration, rest, later, tail, reads⟩ := built.exists_reads
  obtain ⟨front, slot, back, has, sourced⟩ := reads.exists_slot
  obtain ⟨reread, -⟩ := reads.reads_renamed has sourced single done
  rw [reread.isAlone_iff_later, reads.isAlone_iff_later]

/-- However often a statement is renamed to single names, it is alone in its text when it was at
first. -/
theorem isAlone_iff_of_takesNames {statement renamed : Statement} (built : statement.IsBuilt)
    (taken : Relation.ReflTransGen TakesName statement renamed) :
    renamed.IsBuilt ∧ (renamed.IsAlone ↔ statement.IsAlone) := by
  induction taken with
  | refl => exact ⟨built, Iff.rfl⟩
  | tail _ step inductionHypothesis =>
    obtain ⟨before, same⟩ := inductionHypothesis
    refine ⟨?_, (isAlone_iff_of_takesName before step).trans same⟩
    obtain ⟨name, -, done⟩ := step
    exact before.renamed done

end Statement

end ImportBinding
