/-
This file says what commands hand to the console, and when there is a glyph in it.

A command prints lines of markup, a table, and the line about the terminal. A line is sanitized
before it is laid out, and the cells of a table are not. So on a terminal that cannot show glyphs
they are handed to the console by one command only: the one that shows a statement in a table, when
something that it tells of the statement has glyphs.
-/

import ImportBinding.Command.Basic
import ImportBinding.Proofs.Glyphs
import ImportBinding.Proofs.Outcomes

namespace ImportBinding

/-! ### Printouts -/

/-- What a command prints at one time. -/
inductive Printout where
  /-- The line that says what a terminal is capable of. -/
  | status
  /-- Markup in lines that fit the console. -/
  | wrapped (markup : Text)
  /-- Markup without wrapping. -/
  | whole (markup : Text)
  /-- A table of fields and values under a title. -/
  | table (title : Text) (rows : List (Text × Text))

namespace Printout

/-- What a terminal with an encoding is sent for a printout. -/
def shown (encoding : Text) : Printout → Text
  | status => statusLine encoding
  | wrapped markup => Console.printWrapped (isUtf8 encoding) markup
  | whole markup => Console.printWhole (isUtf8 encoding) markup
  | table title rows => Console.table encoding title rows

/-- The texts of a printout that are laid out: markup when it has been sanitized, and all that
stands in a table. -/
def handed (encoding : Text) : Printout → List Text
  | status => [statusLine encoding]
  | wrapped markup | whole markup => [markup.sanitize (isUtf8 encoding)]
  | table title rows => [title, text "Field", text "Value"] ++ rows.map Prod.fst ++
      rows.map fun row => Markup.escape row.2

/-- Whether the console brings a code point into a printout by itself. -/
def Adds (encoding : Text) (point : CodePoint) : Printout → Prop
  | status => False
  | wrapped markup | whole markup => Markup.Brings (markup.sanitize (isUtf8 encoding)) point
  | table _ rows => point = CodePoint.ofChar '…' ∨
      point ∈ (Console.boxFor encoding).characters.map CodePoint.ofChar ∨
        ∃ row ∈ rows, Markup.Brings (Markup.escape row.2) point

/-- Whether a glyph is handed to the console. -/
def HasGlyph (encoding : Text) (printout : Printout) : Prop :=
  ∃ content ∈ printout.handed encoding, ∃ point ∈ content, point.isGlyph = true

theorem mem_handed_table_iff {encoding title : Text} {rows : List (Text × Text)}
    {point : CodePoint} : (∃ content ∈ (table title rows).handed encoding, point ∈ content) ↔
      point ∈ title ++ text "Field" ++ text "Value" ∨ (∃ row ∈ rows, point ∈ row.1) ∨
        ∃ row ∈ rows, point ∈ Markup.escape row.2 := by
  simp only [handed, List.mem_append, List.mem_cons, List.not_mem_nil, or_false, List.mem_map,
    or_and_right, exists_or, exists_eq_left, exists_exists_and_eq_and, or_assoc]

/-- Whether a code point, if it is a glyph, has been handed to the console or brought in by it. -/
def Explains (encoding : Text) (printout : Printout) (point : CodePoint) : Prop :=
  point.isGlyph = true →
    printout.Adds encoding point ∨ ∃ content ∈ printout.handed encoding, point ∈ content

/-- Every glyph that is shown has been handed to the console, or the console has brought it in. -/
theorem explains_of_mem_shown {encoding : Text} (printout : Printout) :
    ∀ point ∈ printout.shown encoding, printout.Explains encoding point := by
  have blank : printout.Explains encoding Flow.space := fun glyph => absurd glyph (by decide)
  have feed : printout.Explains encoding (CodePoint.ofChar '\n') :=
    fun glyph => absurd glyph (by decide)
  have rendered (markup : Text) : ∀ point ∈ Console.shown (isUtf8 encoding) markup,
      Markup.Brings (markup.sanitize (isUtf8 encoding)) point ∨
        ∃ content ∈ [markup.sanitize (isUtf8 encoding)], point ∈ content :=
    fun point member => (Markup.mem_shown member).symm.imp_right fun inside =>
      ⟨_, List.mem_singleton_self _, inside⟩
  cases printout with
  | status => exact fun point member _ => Or.inr ⟨_, List.mem_singleton_self _, member⟩
  | wrapped markup =>
    refine List.forall_mem_append.mpr ⟨?_, List.forall_mem_singleton.mpr feed⟩
    refine Flow.allowed_join (List.forall_mem_singleton.mpr feed) ?_
    exact Flow.allowed_wrap true blank nofun Table.consoleWidth
      fun point member _ => rendered markup point member
  | whole markup =>
    refine List.forall_mem_append.mpr ⟨?_, List.forall_mem_singleton.mpr feed⟩
    exact Flow.allowed_expandAllTabs blank feed fun point member _ => rendered markup point member
  | table title rows =>
    refine Table.allowed_draw blank feed (fun _ => Or.inl (Or.inl rfl))
      (fun character member _ => Or.inl (Or.inr (Or.inl (List.mem_map_of_mem member))))
      (fun point member _ => Or.inr (mem_handed_table_iff.mpr (Or.inl member))) ?_
    refine List.forall_mem_map.mpr fun row among point member glyph => ?_
    rcases List.mem_append.mp member with member | member
    · exact Or.inr (mem_handed_table_iff.mpr (Or.inr (Or.inl ⟨row, among, member⟩)))
    · rcases Markup.mem_shown member with inside | brings
      · exact Or.inr (mem_handed_table_iff.mpr (Or.inr (Or.inr ⟨row, among, inside⟩)))
      · exact Or.inl (Or.inr (Or.inr ⟨row, among, brings⟩))

/-- On a terminal that cannot show glyphs they are handed to the console in tables only. -/
theorem HasGlyph.exists_table {encoding : Text} (legacy : isUtf8 encoding = false)
    {printout : Printout} (has : printout.HasGlyph encoding) :
    ∃ title rows, printout = table title rows := by
  have sanitized (content : Text) :
      ∀ point ∈ content.sanitize (isUtf8 encoding), point.isGlyph = false := by
    rw [legacy]
    exact fun point member => Text.not_isGlyph_of_mem_plain member
  obtain ⟨content, among, point, member, glyph⟩ := has
  cases printout with
  | table title rows => exact ⟨title, rows, rfl⟩
  | status =>
    obtain rfl := List.mem_singleton.mp among
    rcases List.mem_append.mp member with member | member
    · rw [sanitized _ point member] at glyph
      cases glyph
    · obtain rfl := List.mem_singleton.mp member
      exact absurd glyph (by decide)
  | wrapped markup | whole markup =>
    obtain rfl := List.mem_singleton.mp among
    rw [sanitized markup point member] at glyph
    cases glyph

/-- Escaping does not keep glyphs out of a table. -/
theorem hasGlyph_table_iff {encoding title : Text} {rows : List (Text × Text)}
    (plain : ∀ point ∈ title, point.isGlyph = false)
    (named : ∀ row ∈ rows, ∀ point ∈ row.1, point.isGlyph = false) :
    (table title rows).HasGlyph encoding ↔
      ∃ row ∈ rows, ∃ point ∈ row.2, point.isGlyph = true := by
  have header : ∀ point ∈ title ++ text "Field" ++ text "Value", point.isGlyph = false :=
    List.forall_mem_append.mpr ⟨List.forall_mem_append.mpr ⟨plain, by decide⟩, by decide⟩
  have escaped {point : CodePoint} (glyph : point.isGlyph = true) {content : Text} :
      point ∈ Markup.escape content ↔ point ∈ content :=
    Markup.mem_escape_iff fun same => absurd (same ▸ glyph) (by decide)
  constructor
  · rintro ⟨content, among, point, member, glyph⟩
    rcases mem_handed_table_iff.mp ⟨content, among, member⟩ with
      inside | ⟨row, among, inside⟩ | ⟨row, among, inside⟩
    · rw [header point inside] at glyph
      cases glyph
    · rw [named row among point inside] at glyph
      cases glyph
    · exact ⟨row, among, point, (escaped glyph).mp inside, glyph⟩
  · rintro ⟨row, among, point, inside, glyph⟩
    have handed : ∃ content ∈ (table title rows).handed encoding, point ∈ content :=
      mem_handed_table_iff.mpr (Or.inr (Or.inr ⟨row, among, (escaped glyph).mpr inside⟩))
    obtain ⟨content, among, member⟩ := handed
    exact ⟨content, among, point, member, glyph⟩

end Printout

/-! ### Printouts of commands -/

namespace Command

/-- What is printed about a failure, if it is reported. -/
def failurePrintouts (reported : Bool) (failure : Failure) : List Printout :=
  if reported then
    [.whole (text "[bold red]Error:[/bold red] " ++ Markup.escape failure.message)]
  else []

/-- What a command prints, in order. -/
def printouts (surroundings : Surroundings) : Command → List Printout
  | .version => [.whole versionText]
  | .parse statement language verbose =>
    (if verbose then [.status] else []) ++
      match build surroundings statement language with
      | .error failure => failurePrintouts failure.isReported failure
      | .ok built =>
        match tableRows built with
        | .error _ => []
        | .ok rows => [.table (text "Import Statement") rows]
  | .rename statement name language =>
    match build surroundings statement language with
    | .error failure => failurePrintouts failure.isReported failure
    | .ok built =>
      match built.rename surroundings.recordings (.text name) with
      | .error (.refused refusal) => failurePrintouts true (.refused refusal)
      | .error _ => []
      | .ok renamed =>
        [.wrapped (text "[green]✓[/green] " ++ Markup.escape built.binding ++ text " → " ++
            Markup.escape renamed.binding),
          .whole (Markup.escape renamed.content.trimEnd)]

theorem printed_reportFailure {encoding : Text} (before : List Text) (reported : Bool)
    (failure : Failure) : (reportFailure (isUtf8 encoding) before reported failure).printed =
      before ++ (failurePrintouts reported failure).map (Printout.shown encoding) := by
  cases reported with
  | true => rfl
  | false => exact (List.append_nil before).symm

/-- What a report says has been printed is what is shown of the printouts of the command. -/
theorem printed_report (surroundings : Surroundings) (command : Command) :
    (report surroundings command).printed =
      (command.printouts surroundings).map (Printout.shown surroundings.encoding.lower) := by
  cases command with
  | version => rfl
  | parse statement language verbose =>
    have status : (if verbose then [statusLine surroundings.encoding.lower] else []) =
        (if verbose then [Printout.status] else []).map
          (Printout.shown surroundings.encoding.lower) := by
      cases verbose <;> rfl
    rw [report, printouts, List.map_append, ← status]
    cases build surroundings statement language with
    | error failure => exact printed_reportFailure _ _ failure
    | ok built =>
      dsimp only
      cases tableRows built with
      | error failure => exact (List.append_nil _).symm
      | ok rows => rfl
  | rename statement name language =>
    rw [report, printouts]
    cases build surroundings statement language with
    | error failure => exact printed_reportFailure _ _ failure
    | ok built =>
      dsimp only
      cases built.rename surroundings.recordings (.text name) with
      | ok renamed => rfl
      | error failure =>
        cases failure <;> rfl

/-- A table is only printed about a statement that has been built to be shown. -/
theorem table_mem_printouts_iff {surroundings : Surroundings} {command : Command} {title : Text}
    {rows : List (Text × Text)} : .table title rows ∈ command.printouts surroundings ↔
      title = text "Import Statement" ∧ ∃ statement language verbose built,
        command = .parse statement language verbose ∧
          build surroundings statement language = .ok built ∧ tableRows built = .ok rows := by
  have failed (reported : Bool) (failure : Failure) :
      .table title rows ∉ failurePrintouts reported failure := by
    cases reported <;> simp [failurePrintouts]
  constructor
  · intro among
    cases command with
    | version => cases List.mem_singleton.mp among
    | parse statement language verbose =>
      rcases List.mem_append.mp among with among | among
      · cases verbose with
        | true => cases List.mem_singleton.mp among
        | false => cases among
      · cases made : build surroundings statement language with
        | error failure =>
          rw [made] at among
          exact absurd among (failed _ failure)
        | ok built =>
          rw [made] at among
          dsimp only at among
          cases tabled : tableRows built with
          | error failure =>
            rw [tabled] at among
            cases among
          | ok found =>
            rw [tabled] at among
            cases List.mem_singleton.mp among
            exact ⟨rfl, statement, language, verbose, built, rfl, made, tabled⟩
    | rename statement name language =>
      rw [printouts] at among
      split at among
      · exact absurd among (failed _ _)
      · split at among
        · exact absurd among (failed _ _)
        · cases among
        · simp at among
  · rintro ⟨rfl, statement, language, verbose, built, rfl, made, tabled⟩
    rw [printouts, made]
    dsimp only
    rw [tabled]
    exact List.mem_append_right _ (List.mem_singleton_self _)

theorem not_isGlyph_of_tableRows {built : Statement} {rows : List (Text × Text)}
    (tabled : tableRows built = .ok rows) :
    ∀ row ∈ rows, ∀ point ∈ row.1, point.isGlyph = false := by
  rw [tableRows] at tabled
  split at tabled
  · cases tabled
  · cases tabled
    simp only [List.forall_mem_cons]
    exact ⟨by decide, by decide, by decide, by decide, List.forall_mem_nil _⟩

/-- On a terminal that cannot show glyphs they are handed to the console exactly when a statement is
shown in a table and what is told of it has glyphs. All other glyphs that are printed are brought in
by the console. -/
theorem exists_hasGlyph_iff {surroundings : Surroundings}
    (legacy : isUtf8 surroundings.encoding.lower = false) (command : Command) :
    (report surroundings command).printed =
      (command.printouts surroundings).map (Printout.shown surroundings.encoding.lower) ∧
    ((∃ printout ∈ command.printouts surroundings,
        printout.HasGlyph surroundings.encoding.lower) ↔
      ∃ statement language verbose built rows, command = .parse statement language verbose ∧
        build surroundings statement language = .ok built ∧ tableRows built = .ok rows ∧
          ∃ row ∈ rows, ∃ point ∈ row.2, point.isGlyph = true) ∧
    ∀ printout ∈ command.printouts surroundings,
      ∀ point ∈ printout.shown surroundings.encoding.lower,
        printout.Explains surroundings.encoding.lower point := by
  refine ⟨printed_report surroundings command, ?_, fun printout _ =>
    printout.explains_of_mem_shown⟩
  have plain : ∀ point ∈ text "Import Statement", point.isGlyph = false := by decide
  constructor
  · rintro ⟨printout, among, has⟩
    obtain ⟨title, rows, rfl⟩ := has.exists_table legacy
    obtain ⟨rfl, statement, language, verbose, built, asked, made, tabled⟩ :=
      table_mem_printouts_iff.mp among
    exact ⟨statement, language, verbose, built, rows, asked, made, tabled,
      (Printout.hasGlyph_table_iff plain (not_isGlyph_of_tableRows tabled)).mp has⟩
  · rintro ⟨statement, language, verbose, built, rows, asked, made, tabled, glyph⟩
    exact ⟨_, table_mem_printouts_iff.mpr
        ⟨rfl, statement, language, verbose, built, asked, made, tabled⟩,
      (Printout.hasGlyph_table_iff plain (not_isGlyph_of_tableRows tabled)).mpr glyph⟩

/-- The lines about a renaming have no glyphs, although the statement has one. -/
theorem exists_hasGlyph_iff_rename :
    isUtf8 (text "ascii").lower = false ∧
      (report ⟨Settings.initial, text "ascii", []⟩
        (.rename (text "x from '→'") (text "y") none)).ending = .ok 0 ∧
      ∀ printout ∈ printouts ⟨Settings.initial, text "ascii", []⟩
          (.rename (text "x from '→'") (text "y") none),
        ¬ printout.HasGlyph (text "ascii").lower := by
  have legacy : isUtf8 (Surroundings.encoding ⟨Settings.initial, text "ascii", []⟩).lower = false :=
    by decide
  obtain ⟨-, handed, -⟩ := exists_hasGlyph_iff legacy (.rename (text "x from '→'") (text "y") none)
  refine ⟨legacy, by with_unfolding_all rfl, fun printout among has => ?_⟩
  obtain ⟨_, _, _, _, _, parse, -⟩ := handed.mp ⟨printout, among, has⟩
  cases parse

/-- A statement with a glyph is shown in a table as it is, on a terminal that cannot show it. -/
theorem exists_hasGlyph_parse :
    isUtf8 (text "ascii").lower = false ∧
      ∃ printout ∈ printouts ⟨Settings.initial, text "ascii", []⟩
          (.parse (text "x from '→'") none false), printout.HasGlyph (text "ascii").lower := by
  have known : (build ⟨Settings.initial, text "ascii", []⟩ (text "x from '→'") none).toOption.map
      tableRows = some (.ok [(text "binding", text "x"), (text "source", text "→"),
        (text "imported", text "default"), (text "statement", text "import x from '→';")]) := by
    with_unfolding_all rfl
  obtain ⟨built, made, tabled⟩ := exists_ok_of_map_toOption known
  refine ⟨by decide, _, table_mem_printouts_iff.mpr
    ⟨rfl, _, none, false, built, rfl, made, tabled⟩, ?_⟩
  exact (Printout.hasGlyph_table_iff (by decide) (not_isGlyph_of_tableRows tabled)).mpr
    ⟨_, List.mem_cons_of_mem _ List.mem_cons_self, CodePoint.ofChar '→', List.mem_singleton_self _,
      by decide⟩

end Command

end ImportBinding
