/-
This file compares the dialects.

A dialect looks at a text in one way only: it says which words are modifiers. So a declaration that
is framed in one dialect is framed in every dialect with at least its modifiers, and there is but
one declaration that some tokens are read as. What the plain dialect reads is therefore read alike
in the typed ones, whatever words stand in it; and the typed ones do not differ at all.
-/

import ImportBinding.Proofs.Coherence
import ImportBinding.Proofs.Renaming

namespace ImportBinding

/-! ### More modifiers -/

/-- Whether a dialect has all modifiers of another one. -/
def Dialect.Extends (wider dialect : Dialect) : Prop :=
  dialect.isTyped = true → wider.isTyped = true

/-- Every dialect has the modifiers of the plain one, which has none. -/
theorem Dialect.extends_javascript (wider : Dialect) : wider.Extends .javascript := nofun

section Extends

variable {wider dialect : Dialect} (more : wider.Extends dialect)

include more

theorem Token.isModifier_mono {token : Token} (modifies : token.isModifier dialect = true) :
    token.isModifier wider = true := by
  obtain ⟨typed, word⟩ := Bool.and_eq_true_iff.mp modifies
  exact Bool.and_eq_true_iff.mpr ⟨more typed, word⟩

theorem NamedImport.IsFramed.mono {entry : NamedImport} (framed : entry.IsFramed dialect) :
    entry.IsFramed wider :=
  ⟨fun token member => Token.isModifier_mono more (framed.modifier token member), framed.binding,
    framed.renamed⟩

theorem Group.IsFramed.mono {members : Group} (framed : members.IsFramed dialect) :
    members.IsFramed wider := by
  cases members with
  | star mark asWord binding => exact framed
  | named listing =>
    exact ⟨framed.opening, framed.closing, framed.commas,
      fun entry member => NamedImport.IsFramed.mono more (framed.entries entry member)⟩

theorem Bindings.IsFramed.mono {bindings : Bindings} (framed : bindings.IsFramed dialect) :
    bindings.IsFramed wider := by
  cases bindings with
  | single binding => exact framed
  | both binding comma members =>
    obtain ⟨named, separates, grouped⟩ := framed
    exact ⟨named, separates, Group.IsFramed.mono more grouped⟩
  | group members => exact Group.IsFramed.mono more framed

theorem Clause.IsFramed.mono {clause : Clause} (framed : clause.IsFramed dialect) :
    clause.IsFramed wider :=
  ⟨fun token member => Token.isModifier_mono more (framed.modifier token member),
    Bindings.IsFramed.mono more framed.bindings, framed.fromWord, framed.pair⟩

theorem Declaration.IsFramed.mono {declaration : Declaration}
    (framed : declaration.IsFramed dialect) : declaration.IsFramed wider :=
  ⟨framed.keyword, fun clause stated => Clause.IsFramed.mono more (framed.clause clause stated),
    framed.source, framed.attributes, framed.terminator⟩

theorem IsRow.mono {tokens : List Token} {items : List Item} (row : IsRow dialect tokens items) :
    IsRow wider tokens items := by
  induction row with
  | nil => exact .nil
  | semicolon marks _ inductionHypothesis => exact .semicolon marks inductionHypothesis
  | declaration framed ends accepted _ inductionHypothesis =>
    exact .declaration (framed.mono more) ends accepted inductionHypothesis

theorem Declaration.Opens.mono {declaration : Declaration} {content tail : Text}
    {rest : List Token} {later : List Item}
    (opens : declaration.Opens dialect content rest later tail) :
    declaration.Opens wider content rest later tail :=
  ⟨opens.scanned, opens.framed.mono more, opens.ends, opens.accepted,
    readItems_eq_ok_iff.mpr ((readItems_eq_ok_iff.mp opens.others).mono more)⟩

theorem Program.ofText_mono {content : Text} {program : Program}
    (parsed : Program.ofText dialect content = .ok program) :
    Program.ofText wider content = .ok program := by
  obtain ⟨items, tail⟩ := program
  obtain ⟨tokens, scanned, read⟩ := Program.ofText_eq_ok_iff.mp parsed
  rcases readProgram_eq_ok_cases read with ⟨rfl, rfl⟩ | ⟨declaration, later, rfl⟩
  · exact Program.ofText_eq_ok_iff.mpr ⟨[], scanned, rfl⟩
  · obtain ⟨rest, opens⟩ := Program.ofText_eq_ok_cons_iff.mp parsed
    exact Program.ofText_eq_ok_cons_iff.mpr ⟨rest, opens.mono more⟩

end Extends

/-! ### Statements in another dialect -/

namespace Statement

/-- The statement as one of another dialect: its text and all that was read from it stay. -/
def inDialect (dialect : Dialect) (statement : Statement) : Statement := { statement with dialect }

section Extends

variable {wider : Dialect} {statement : Statement} (more : wider.Extends statement.dialect)

include more

theorem Reads.inDialect {declaration : Declaration} {rest : List Token} {later : List Item}
    {tail : Text} (reads : statement.Reads declaration rest later tail) :
    (statement.inDialect wider).Reads declaration rest later tail :=
  ⟨reads.normal, reads.encodes, reads.opens.mono more, reads.node⟩

/-- What is built in a dialect is built alike in a dialect with more modifiers. -/
theorem ofText_inDialect {given : Text}
    (built : ofText [] given statement.dialect = .ok statement) :
    ofText [] given wider = .ok (statement.inDialect wider) := by
  obtain ⟨sameGiven, sameContent, -, declaration, rest, later, tail, reads⟩ :=
    ofText_eq_ok_iff.mp built
  exact ofText_eq_ok_iff.mpr
    ⟨sameGiven, sameContent, rfl, declaration, rest, later, tail, reads.inDialect more⟩

/-- A single name is taken over in both dialects or in none, and what comes out differs in the
dialect only. -/
theorem rename_inDialect (built : statement.IsBuilt) {name : Text} (single : IsName name) :
    ((statement.inDialect wider).rename [] (.text name)).toOption =
      (statement.rename [] (.text name)).toOption.map (inDialect wider) := by
  obtain ⟨declaration, rest, later, tail, reads⟩ := built.exists_reads
  have readsToo := reads.inDialect more
  obtain ⟨front, slot, back, has, sourced⟩ := reads.exists_slot
  have carried : ∀ renamed, statement.rename [] (.text name) = .ok renamed →
      (statement.inDialect wider).rename [] (.text name) = .ok (renamed.inDialect wider) := by
    intro renamed done
    obtain ⟨-, -, same, -⟩ := ofText_eq_ok_iff.mp done
    exact ofText_inDialect (same ▸ more) (same ▸ done)
  cases done : statement.rename [] (.text name) with
  | ok renamed =>
    rw [carried renamed done]
    rfl
  | error failure =>
    cases doneToo : (statement.inDialect wider).rename [] (.text name) with
    | error _ => rfl
    | ok renamed =>
      -- what speaks against a name is the name, and a modifier in front of a pair of bindings;
      -- neither depends on the dialect
      have encodes := readsToo.encodes_of_rename has sourced doneToo
      obtain ⟨fresh, free, pair⟩ := readsToo.free_of_rename has sourced single encodes doneToo
      obtain ⟨other, redone, -⟩ := reads.rename_of_free has sourced single encodes pair fresh free
      rw [done] at redone
      cases redone

end Extends

end Statement

/-! ### The same modifiers -/

section Alike

variable {dialect other : Dialect} (same : dialect.isTyped = other.isTyped)

include same

theorem Declaration.read_congr : Declaration.read dialect = Declaration.read other := by
  cases dialect <;> cases other <;> first | rfl | cases same

theorem readItems_congr (tokens : List Token) :
    readItems dialect tokens = readItems other tokens := by
  induction length : tokens.length using Nat.strongRecOn generalizing tokens with
  | ind length inductionHypothesis =>
    subst length
    cases tokens with
    | nil => rw [readItems, readItems]
    | cons token rest =>
      by_cases marks : token.kind = .semicolon
      · rw [readItems, if_pos marks, readItems, if_pos marks,
          inductionHypothesis rest.length (Nat.lt_succ_self _) rest rfl]
      · rw [readItems_cons_of_ne marks, readItems_cons_of_ne marks, Declaration.read_congr same]
        cases front : Declaration.read other (token :: rest) with
        | error stuck => rfl
        | ok found =>
          obtain ⟨declaration, after⟩ := found
          have behind := inductionHypothesis after.length (Declaration.length_lt_of_read front)
            after rfl
          simp only [ok_bind, behind]

theorem readProgram_congr (tokens : List Token) :
    readProgram dialect tokens = readProgram other tokens := by
  cases tokens with
  | nil => rfl
  | cons token rest => rw [readProgram, readProgram, readItems_congr same]

theorem Program.ofText_congr (content : Text) :
    Program.ofText dialect content = Program.ofText other content := by
  simp only [Program.ofText, readProgram_congr same]

theorem readStatement_congr (content : Text) :
    readStatement [] dialect content = readStatement [] other content := by
  simp only [readStatement, recordedTree?_nil, Program.ofText_congr same]

end Alike

namespace Statement

theorem ofNode_inDialect (given content : Text) (dialect other : Dialect) (read : Option Node) :
    ofNode given content other read =
      (ofNode given content dialect read).map (inDialect other) := by
  unfold ofNode
  cases read with
  | none => rfl
  | some node =>
    obtain ⟨kind, start, stop, specifiers, source⟩ := node
    by_cases declares : kind = importKind
    · rcases specifiers with _ | ⟨specifier, _ | ⟨second, later⟩⟩ <;>
        simp only [declares, ne_eq, not_true_eq_false, if_false] <;> rfl
    · simp only [declares, ne_eq, not_false_eq_true, if_true]
      rfl

/-- What a text is built into, or why it is not, is the same in dialects with the same modifiers. -/
theorem ofText_congr {dialect other : Dialect} (same : dialect.isTyped = other.isTyped)
    (given : Text) : ofText [] given other = (ofText [] given dialect).map (inDialect other) := by
  simp only [ofText, readStatement_congr same]
  cases readStatement [] other (normalForm given) with
  | error failure => cases failure <;> rfl
  | ok read =>
    simp only [ofNode_inDialect given (normalForm given) dialect other read]
    cases ofNode given (normalForm given) dialect read <;> rfl

/-! ### The three dialects -/

/-- What is built in the plain dialect is built in every other dialect, with all that was read from
it, and renaming it to a single name comes to the same in all of them. The two typed dialects build
the same, and refuse the same for the same reason. -/
theorem ofValue_inDialect (content : Text) (configured : Except Failure Text) :
    (∀ statement, ofValue [] (.text content)
        (languageOf (.text Dialect.javascript.name) configured) = .ok statement →
      ∀ dialect : Dialect,
        ofValue [] (.text content) (languageOf (.text dialect.name) configured) =
            .ok (statement.inDialect dialect) ∧
          ∀ name, IsName name → ((statement.inDialect dialect).rename [] (.text name)).toOption =
            (statement.rename [] (.text name)).toOption.map (inDialect dialect)) ∧
      ofValue [] (.text content) (languageOf (.text Dialect.tsx.name) configured) =
        (ofValue [] (.text content) (languageOf (.text Dialect.typescript.name) configured)).map
          (inDialect .tsx) := by
  simp only [languageOf_of_chosen (trim_lower_name _), ofValue_text]
  have alike : Dialect.typescript.isTyped = Dialect.tsx.isTyped := rfl
  refine ⟨fun statement made dialect => ?_, ofText_congr alike content⟩
  obtain ⟨-, -, plain, -⟩ := ofText_eq_ok_iff.mp made
  have more : dialect.Extends statement.dialect := plain ▸ dialect.extends_javascript
  refine ⟨ofText_inDialect more (plain ▸ made), fun name single => ?_⟩
  exact rename_inDialect more (.new ((ofValue_text content).trans made)) single

/-- A named import of `type` as `as`, which is renamed to `from`, is the same in two dialects. -/
theorem ofValue_inDialect_type : ∃ statement renamed : Statement,
    ofValue [] (.text (text "{ type as as } from 'a'")) (.ok (text "tsx")) = .ok statement ∧
      statement.rename [] (.text (text "from")) = .ok renamed ∧
        renamed.content = text "import { type as from } from 'a';\n" := by
  have known : (ofValue [] (.text (text "{ type as as } from 'a'"))
      (languageOf (.text Dialect.javascript.name) (.ok []))).toOption.map (fun statement =>
        (statement.rename [] (.text (text "from"))).toOption.map Statement.content) =
        some (some (text "import { type as from } from 'a';\n")) := by
    with_unfolding_all rfl
  obtain ⟨statement, made, told⟩ := exists_ok_of_map_toOption known
  obtain ⟨renamed, done, content⟩ := exists_ok_of_map_toOption told
  have single : IsName (text "from") := isName_iff.mpr ⟨by decide, by decide +kernel⟩
  obtain ⟨madeToo, alike⟩ :=
    (ofValue_inDialect (text "{ type as as } from 'a'") (.ok [])).1 statement made .tsx
  have doneToo := alike (text "from") single
  rw [done] at doneToo
  rw [languageOf_of_chosen (trim_lower_name .tsx)] at madeToo
  exact ⟨statement.inDialect .tsx, renamed.inDialect .tsx, madeToo,
    toOption_eq_some_iff.mp doneToo, content⟩

end Statement

end ImportBinding
