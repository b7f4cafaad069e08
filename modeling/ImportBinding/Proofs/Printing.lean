/-
This file writes import declarations in every layout that the grammar leaves open.

A declaration is given by what it says: the names that it takes from a module, the local names that
it gives them, and the module. A layout says what stands between the tokens and which marks are
written that may be left out. Writing goes from left to right, and whoever writes a name is told the
stretch of text that the name takes up.
-/

import ImportBinding.Program
import ImportBinding.Proofs.Escapes

namespace ImportBinding

/-! ### Names -/

/-- A name that is no keyword. -/
structure IdentifierName where
  written : Text
  isWhole : tokenSize? written = some (.name, written.length)
  isFree : written ∉ keywords

/-- A name that a binding of a module may have. -/
structure LocalName extends IdentifierName where
  isUnreserved : written ∉ reservedWords

/-- The name of a binding that is written like this. -/
def LocalName.ofText (written : Text)
    (valid : tokenSize? written = some (.name, written.length) ∧ written ∉ keywords ∧
      written ∉ reservedWords) : LocalName where
  written := written
  isWhole := valid.1
  isFree := valid.2.1
  isUnreserved := valid.2.2

/-- The name of an export that gets a local name. -/
inductive ExportName where
  | identifier (name : IdentifierName)
  | default
  | literal (quoted : StringLiteral)

/-- The name that is written or denoted. -/
def ExportName.name : ExportName → Text
  | .identifier name => name.written
  | .default => text "default"
  | .literal quoted => quoted.value

/-- A modifier, in the dialects that have them. -/
inductive Modifier (dialect : Dialect) where
  | type (isTyped : dialect.isTyped = true)
  | typeof (isTyped : dialect.isTyped = true)

/-- The word that is written for a modifier. -/
def Modifier.word {dialect : Dialect} : Modifier dialect → Text
  | .type _ => text "type"
  | .typeof _ => text "typeof"

/-! ### Declarations -/

/-- The names of an entry of a list: one for both the export and the binding, or one for each. -/
inductive EntryNames where
  | same (name : LocalName)
  | renamed (imported : ExportName) (binding : LocalName)

/-- An entry of a list of named imports. -/
structure ImportEntry (dialect : Dialect) where
  modifier : Option (Modifier dialect)
  names : EntryNames

/-- What stands under a star or in braces. -/
inductive ImportGroup (dialect : Dialect) where
  | star (binding : LocalName)
  | named (entries : List (ImportEntry dialect))

/-- The bindings of a clause. -/
inductive ImportBindings (dialect : Dialect) where
  | single (binding : LocalName)
  | both (binding : LocalName) (members : ImportGroup dialect)
  | group (members : ImportGroup dialect)

/-- A clause. -/
structure ImportClause (dialect : Dialect) where
  modifier : Option (Modifier dialect)
  bindings : ImportBindings dialect

/-- The key of an attribute. Keywords are keys too. -/
inductive AttributeKey where
  | name (written : Text) (isWhole : tokenSize? written = some (.name, written.length))
  | literal (quoted : StringLiteral)

/-- An attribute. -/
structure ImportAttribute where
  key : AttributeKey
  value : StringLiteral

/-- An import declaration. -/
structure Import (dialect : Dialect) where
  clause : Option (ImportClause dialect)
  source : StringLiteral
  attributes : Option (List ImportAttribute)

/-! ### Bindings -/

/-- What a binding takes from a module. -/
inductive Taken where
  | default
  | whole
  | export (name : Text)

/-- A binding that a declaration introduces, wherever it is written. -/
structure Introduced where
  taken : Taken
  name : Text
  isAliased : Bool

/-- The binding of a specifier. -/
def Specifier.introduced (specifier : Specifier) : Introduced where
  taken := match specifier with
    | .default _ => .default
    | .star _ => .whole
    | .named imported _ => .export imported.name
  name := specifier.binding.name
  isAliased := specifier.isAliased

/-- The binding of an entry. -/
def EntryNames.introduced : EntryNames → Introduced
  | .same name => ⟨.export name.written, name.written, false⟩
  | .renamed imported binding => ⟨.export imported.name, binding.written, true⟩

section Dialects

variable {dialect : Dialect}

/-- The bindings of a group. -/
def ImportGroup.introduced : ImportGroup dialect → List Introduced
  | .star binding => [⟨.whole, binding.written, false⟩]
  | .named entries => entries.map fun entry => entry.names.introduced

/-- The bindings of a clause, in the order in which they are written. -/
def ImportBindings.introduced : ImportBindings dialect → List Introduced
  | .single binding => [⟨.default, binding.written, false⟩]
  | .both binding members => ⟨.default, binding.written, false⟩ :: members.introduced
  | .group members => members.introduced

/-- The bindings of a declaration. -/
def Import.introduced (declared : Import dialect) : List Introduced :=
  declared.clause.elim [] fun clause => clause.bindings.introduced

/-- No binding of a declaration has a reserved name. -/
theorem Import.not_mem_reservedWords (declared : Import dialect) :
    ∀ binding ∈ declared.introduced, binding.name ∉ reservedWords := by
  have entry (names : EntryNames) : names.introduced.name ∉ reservedWords := by
    cases names with
    | same name => exact name.isUnreserved
    | renamed imported binding => exact binding.isUnreserved
  have group (members : ImportGroup dialect) :
      ∀ binding ∈ members.introduced, binding.name ∉ reservedWords := by
    cases members with
    | star binding => exact List.forall_mem_singleton.mpr binding.isUnreserved
    | named entries => exact List.forall_mem_map.mpr fun each _ => entry each.names
  obtain ⟨clause, source, attributes⟩ := declared
  cases clause with
  | none => exact List.forall_mem_nil _
  | some clause =>
    obtain ⟨modifier, bindings⟩ := clause
    cases bindings with
    | single binding => exact List.forall_mem_singleton.mpr binding.isUnreserved
    | both binding members => exact List.forall_mem_cons.mpr ⟨binding.isUnreserved, group members⟩
    | group members => exact group members

end Dialects

/-! ### The form that is read in another way -/

/-- Whether a clause is of the one form that is not read as it is meant: the word `from` between a
modifier and a comma is taken for the end of the clause, whose binding is then the modifier. -/
def ImportClause.IsCutShort {dialect : Dialect} (clause : ImportClause dialect) : Prop :=
  clause.modifier.isSome = true ∧
    ∃ binding members, clause.bindings = .both binding members ∧ binding.written = text "from"

/-- Whether a declaration is of that form. -/
def Import.IsCutShort {dialect : Dialect} (declared : Import dialect) : Prop :=
  ∃ clause ∈ declared.clause, clause.IsCutShort

/-! ### Layout -/

/-- How a declaration is set: the layout in front of each token by its number, in front of the word
`with`, which has to stay on its line, and behind the last token, and the marks that may be left
out. -/
structure Layout where
  gap : Nat → Text
  withGap : Text
  tail : Text
  entryComma : Bool
  attributeComma : Bool
  semicolon : Bool
  isGap : ∀ place, IsGap (gap place)
  isWithGap : IsGap withGap
  sameLine : (withGap.units layoutSize).1.any breaksLine = false
  isTail : IsTail tail

/-- One and the same gap in front of so many tokens behind the first one, and no other layout but
at the end. -/
def Layout.uniform (count : Nat) {gap tail : Text} (isGap : IsGap gap) (isTail : IsTail tail)
    (commas semicolon : Bool) : Layout where
  gap place := if place ≠ 0 ∧ place ≤ count then gap else []
  withGap := []
  tail := tail
  entryComma := commas
  attributeComma := commas
  semicolon := semicolon
  isGap place := by
    split
    · exact isGap
    · decide +kernel
  isWithGap := by decide +kernel
  sameLine := by decide +kernel
  isTail := isTail

/-! ### Writing -/

/-- A step of writing, on the tokens that have been written. -/
abbrev Writing := StateM (List Token)

namespace Writing

variable {First Second : Type}

@[simp]
theorem bind_apply (first : Writing First) (next : First → Writing Second) (before : List Token) :
    (first >>= next) before = next (first before).1 (first before).2 := rfl

@[simp]
theorem pure_apply (result : First) (before : List Token) :
    (pure result : Writing First) before = (result, before) := rfl

@[simp]
theorem discard_apply (step : Writing First) (before : List Token) :
    (discard step : Writing Unit) before = ((), (step before).2) := rfl

end Writing

/-- Writes a token behind the given layout, and tells the stretch of text that it takes up. -/
def putAfter (gap : Text) (kind : TokenKind) (body : Text) : Writing Identifier := fun before =>
  let start := (Tokens.written before).length + gap.length
  (⟨body, start, start + body.length⟩, before ++ [⟨gap, kind, body⟩])

namespace Layout

variable (layout : Layout)

/-- Writes the next token. -/
def put (kind : TokenKind) (body : Text) : Writing Identifier := fun before =>
  putAfter (layout.gap before.length) kind body before

/-- Writes entries with commas between them, and perhaps one behind the last one. -/
def putEntries {Entry Result : Type} (write : Entry → Writing Result) (comma : Bool) :
    List Entry → Writing (List Result)
  | [] => return []
  | [entry] => do
    let result ← write entry
    if comma then
      discard (layout.put .comma (text ","))
    return [result]
  | entry :: later => do
    let result ← write entry
    discard (layout.put .comma (text ","))
    let results ← putEntries write comma later
    return result :: results

/-- Writes entries in braces. -/
def putListing {Entry Result : Type} (write : Entry → Writing Result) (comma : Bool)
    (entries : List Entry) : Writing (List Result) := do
  discard (layout.put .openBrace (text "\x7b"))
  let results ← layout.putEntries write comma entries
  discard (layout.put .closeBrace (text "\x7d"))
  return results

/-- Writes a name. -/
def putName (name : IdentifierName) : Writing Identifier := layout.put .name name.written

/-- Writes the name of an export. A literal stands for the name that it denotes. -/
def putExport : ExportName → Writing Identifier
  | .identifier name => layout.putName name
  | .default => layout.put .name (text "default")
  | .literal quoted => do
    let place ← layout.put .literal quoted.written
    return { place with name := quoted.value }

/-- Writes a modifier, if there is one. -/
def putModifier {dialect : Dialect} : Option (Modifier dialect) → Writing Unit
  | none => return
  | some modifier => discard (layout.put .name modifier.word)

/-- Writes the names of an entry. -/
def putEntryNames : EntryNames → Writing Specifier
  | .same name => do
    let place ← layout.putName name.toIdentifierName
    return .named place place
  | .renamed imported binding => do
    let imported ← layout.putExport imported
    discard (layout.put .name (text "as"))
    let place ← layout.putName binding.toIdentifierName
    return .named imported place

/-- Writes an entry of a list of named imports. -/
def putEntry {dialect : Dialect} (entry : ImportEntry dialect) : Writing Specifier := do
  layout.putModifier entry.modifier
  layout.putEntryNames entry.names

/-- Writes a group. -/
def putGroup {dialect : Dialect} : ImportGroup dialect → Writing (List Specifier)
  | .star binding => do
    discard (layout.put .star (text "*"))
    discard (layout.put .name (text "as"))
    let place ← layout.putName binding.toIdentifierName
    return [.star place]
  | .named entries => layout.putListing layout.putEntry layout.entryComma entries

/-- Writes the bindings of a clause. -/
def putBindings {dialect : Dialect} : ImportBindings dialect → Writing (List Specifier)
  | .single binding => do
    let place ← layout.putName binding.toIdentifierName
    return [.default place]
  | .both binding members => do
    let place ← layout.putName binding.toIdentifierName
    discard (layout.put .comma (text ","))
    let specifiers ← layout.putGroup members
    return .default place :: specifiers
  | .group members => layout.putGroup members

/-- Writes a clause. -/
def putClause {dialect : Dialect} (clause : ImportClause dialect) :
    Writing (List Specifier) := do
  layout.putModifier clause.modifier
  let specifiers ← layout.putBindings clause.bindings
  discard (layout.put .name (text "from"))
  return specifiers

/-- Writes the key of an attribute. -/
def putKey : AttributeKey → Writing Identifier
  | .name written _ => layout.put .name written
  | .literal quoted => layout.put .literal quoted.written

/-- Writes an attribute. -/
def putAttribute (pair : ImportAttribute) : Writing Unit := do
  discard (layout.putKey pair.key)
  discard (layout.put .colon (text ":"))
  discard (layout.put .literal pair.value.written)

/-- Writes attributes, if there are any. -/
def putAttributes : Option (List ImportAttribute) → Writing Unit
  | none => return
  | some attributes => do
    discard (putAfter layout.withGap .name (text "with"))
    discard (layout.putListing layout.putAttribute layout.attributeComma attributes)

/-- Writes a semicolon, if there is to be one. -/
def putEnd : Writing Unit := do
  if layout.semicolon then
    discard (layout.put .semicolon (text ";"))

/-- Writes a declaration. -/
def putImport {dialect : Dialect} (declared : Import dialect) : Writing (List Specifier) := do
  discard (layout.put .name (text "import"))
  let specifiers ← declared.clause.elim (pure []) layout.putClause
  discard (layout.put .literal declared.source.written)
  layout.putAttributes declared.attributes
  layout.putEnd
  return specifiers

end Layout

namespace Import

variable {dialect : Dialect} (declared : Import dialect) (layout : Layout)

/-- The tokens of a declaration as it is written. -/
def tokens : List Token := (layout.putImport declared []).2

/-- The specifiers of a declaration, each name where it is written. -/
def specifiers : List Specifier := (layout.putImport declared []).1

/-- The text of a declaration. -/
def written : Text := Tokens.written (declared.tokens layout) ++ layout.tail

/-- A layout that the grammar allows for a declaration: names are kept apart, and the text is made
of code points that may stand in a program. -/
structure Fits : Prop where
  apart : (declared.tokens layout).IsChain Token.IsApart
  encodes : ∀ point ∈ declared.written layout, point.isSurrogate = false
  clean : ∀ point ∈ declared.written layout, point.toNat ≠ 0

/-- The node of a declaration. It starts at the first token and ends with the last one. -/
def node : Node where
  kind := importKind
  start := (layout.gap 0).length
  stop := (Tokens.written (declared.tokens layout)).length
  specifiers := declared.specifiers layout
  source := some declared.source.value

end Import

/-! ### What has been written -/

/-- A name takes up its stretch of a text, in which it is written like this. -/
def Identifier.Spans (place : Identifier) (content body : Text) : Prop :=
  ∃ front back, content = front ++ (body ++ back) ∧ place.start = front.length ∧
    place.stop = front.length + body.length

/-- The names of a specifier take up their stretches of a text. A literal is written for the name of
an export that it denotes. -/
structure Specifier.Spans (content : Text) (specifier : Specifier) : Prop where
  binding : specifier.binding.Spans content specifier.binding.name
  imported : ∀ place ∈ specifier.imported?, place.Spans content place.name ∨
    ∃ quoted : StringLiteral, quoted.value = place.name ∧ place.Spans content quoted.written

/-- A step of writing that only adds to the text, and whose result is right about the text from then
on. -/
structure Writing.Tells {Result : Type} (step : Writing Result) (about : Text → Result → Prop) :
    Prop where
  adds : ∀ before, ∃ more, Tokens.written (step before).2 = Tokens.written before ++ more
  holds : ∀ before rest, about (Tokens.written (step before).2 ++ rest) (step before).1

namespace Writing.Tells

variable {First Second : Type} {about : Text → First → Prop} {aboutToo : Text → Second → Prop}

theorem pure {result : First} (holds : ∀ content, about content result) :
    Tells (Pure.pure result) about where
  adds _ := ⟨[], (List.append_nil _).symm⟩
  holds _ _ := holds _

/-- What was told stays right, so the next step may build on it. -/
theorem bind {first : Writing First} {next : First → Writing Second} (tells : first.Tells about)
    (later : ∀ result, (next result).Tells fun content second =>
      about content result → aboutToo content second) : (first >>= next).Tells aboutToo where
  adds before := by
    obtain ⟨more, added⟩ := tells.adds before
    obtain ⟨others, addedToo⟩ := (later (first before).1).adds (first before).2
    exact ⟨more ++ others, by rw [bind_apply, addedToo, added, List.append_assoc]⟩
  holds before rest := by
    obtain ⟨more, added⟩ := (later (first before).1).adds (first before).2
    refine (later (first before).1).holds (first before).2 rest ?_
    rw [added, List.append_assoc]
    exact tells.holds before (more ++ rest)

theorem imp {step : Writing First} {aboutToo : Text → First → Prop} (tells : step.Tells about)
    (implies : ∀ content result, about content result → aboutToo content result) :
    step.Tells aboutToo where
  adds := tells.adds
  holds before rest := implies _ _ (tells.holds before rest)

theorem discard {step : Writing First} (tells : step.Tells about) :
    (Functor.discard step).Tells fun _ _ => True where
  adds := tells.adds
  holds _ _ := trivial

/-- A step that tells nothing may stand in front of any other. -/
theorem andThen {first : Writing Unit} {next : Writing Second} (tells : first.Tells fun _ _ => True)
    (later : next.Tells aboutToo) : (first >>= fun _ => next).Tells aboutToo :=
  tells.bind fun _ => later.imp fun _ _ holds _ => holds

end Writing.Tells

/-- What is written takes up the stretch of text that is told. -/
theorem tells_putAfter (gap : Text) (kind : TokenKind) (body : Text) :
    (putAfter gap kind body).Tells fun content place =>
      place.name = body ∧ place.Spans content body where
  adds _ := ⟨gap ++ body, by simp [putAfter]⟩
  holds before rest := by
    refine ⟨rfl, Tokens.written before ++ gap, rest, ?_, ?_, ?_⟩ <;> simp [putAfter]

namespace Layout

variable (layout : Layout)

theorem tells_put (kind : TokenKind) (body : Text) :
    (layout.put kind body).Tells fun content place =>
      place.name = body ∧ place.Spans content body where
  adds before := (tells_putAfter (layout.gap before.length) kind body).adds before
  holds before := (tells_putAfter (layout.gap before.length) kind body).holds before

/-- A mark or a word is written, and its place is not looked at. -/
theorem tells_mark (kind : TokenKind) (body : Text) :
    (discard (layout.put kind body) : Writing Unit).Tells fun _ _ => True :=
  (layout.tells_put kind body).discard

theorem tells_name (body : Text) :
    (layout.put .name body).Tells fun content place => place.Spans content place.name := by
  refine (layout.tells_put .name body).imp ?_
  rintro content place ⟨rfl, spans⟩
  exact spans

theorem tells_putExport (exported : ExportName) :
    (layout.putExport exported).Tells fun content place => place.Spans content place.name ∨
      ∃ quoted : StringLiteral, quoted.value = place.name ∧ place.Spans content quoted.written := by
  cases exported with
  | identifier name => exact (layout.tells_name name.written).imp fun _ _ => Or.inl
  | default => exact (layout.tells_name (text "default")).imp fun _ _ => Or.inl
  | literal quoted =>
    refine (layout.tells_put .literal quoted.written).bind fun place => ?_
    exact .pure fun content spans => Or.inr ⟨quoted, rfl, spans.2⟩

theorem tells_putModifier {dialect : Dialect} (modifier : Option (Modifier dialect)) :
    (layout.putModifier modifier).Tells fun _ _ => True := by
  cases modifier with
  | none => exact .pure fun _ => trivial
  | some modifier => exact layout.tells_mark .name modifier.word

theorem tells_putEntryNames (names : EntryNames) :
    (layout.putEntryNames names).Tells fun content specifier => specifier.Spans content := by
  cases names with
  | same name =>
    refine (layout.tells_name name.written).bind fun place => .pure fun content spans => ?_
    exact ⟨spans, fun _ stated => Option.mem_some_iff.mp stated ▸ Or.inl spans⟩
  | renamed imported binding =>
    refine (layout.tells_putExport imported).bind fun exported => ?_
    refine (layout.tells_mark .name (text "as")).andThen ?_
    refine (layout.tells_name binding.written).bind fun place => ?_
    refine .pure fun content spans exports => ⟨spans, fun _ stated => ?_⟩
    exact Option.mem_some_iff.mp stated ▸ exports

theorem tells_putEntry {dialect : Dialect} (entry : ImportEntry dialect) :
    (layout.putEntry entry).Tells fun content specifier => specifier.Spans content :=
  (layout.tells_putModifier entry.modifier).andThen (layout.tells_putEntryNames entry.names)

section Entries

variable {Entry Result : Type} {write : Entry → Writing Result} {about : Text → Result → Prop}

theorem tells_putEntries (each : ∀ entry, (write entry).Tells about) (comma : Bool)
    (entries : List Entry) :
    (layout.putEntries write comma entries).Tells fun content results =>
      ∀ result ∈ results, about content result := by
  fun_induction putEntries layout write comma entries with
  | case1 => exact .pure fun _ => List.forall_mem_nil _
  | case2 entry =>
    refine (each entry).bind fun result => ?_
    have only : (pure [result] : Writing (List Result)).Tells fun content results =>
        about content result → ∀ result ∈ results, about content result :=
      .pure fun content holds => List.forall_mem_singleton.mpr holds
    cases comma with
    | false => exact only
    | true => exact (layout.tells_mark .comma (text ",")).andThen only
  | case3 entry later nonempty inductionHypothesis =>
    refine (each entry).bind fun result => ?_
    refine (layout.tells_mark .comma (text ",")).andThen ?_
    refine inductionHypothesis.bind fun results => .pure fun content rest first => ?_
    exact List.forall_mem_cons.mpr ⟨first, rest⟩

theorem tells_putListing (each : ∀ entry, (write entry).Tells about) (comma : Bool)
    (entries : List Entry) :
    (layout.putListing write comma entries).Tells fun content results =>
      ∀ result ∈ results, about content result := by
  refine (layout.tells_mark .openBrace (text "\x7b")).andThen ?_
  refine (layout.tells_putEntries each comma entries).bind fun results => ?_
  refine (layout.tells_mark .closeBrace (text "\x7d")).andThen ?_
  exact .pure fun _ every => every

end Entries

section Dialects

variable {dialect : Dialect}

theorem tells_putGroup (members : ImportGroup dialect) :
    (layout.putGroup members).Tells fun content specifiers =>
      ∀ specifier ∈ specifiers, specifier.Spans content := by
  cases members with
  | star binding =>
    refine (layout.tells_mark .star (text "*")).andThen ?_
    refine (layout.tells_mark .name (text "as")).andThen ?_
    refine (layout.tells_name binding.written).bind fun place => .pure fun content spans => ?_
    refine List.forall_mem_singleton.mpr ⟨spans, fun other stated => ?_⟩
    exact absurd stated (Option.not_mem_none other)
  | named entries => exact layout.tells_putListing layout.tells_putEntry layout.entryComma entries

theorem tells_putBindings (bindings : ImportBindings dialect) :
    (layout.putBindings bindings).Tells fun content specifiers =>
      ∀ specifier ∈ specifiers, specifier.Spans content := by
  have default {place : Identifier} {content : Text} (spans : place.Spans content place.name) :
      (Specifier.default place).Spans content :=
    ⟨spans, fun other stated => absurd stated (Option.not_mem_none other)⟩
  cases bindings with
  | single binding =>
    refine (layout.tells_name binding.written).bind fun place => .pure fun content spans => ?_
    exact List.forall_mem_singleton.mpr (default spans)
  | both binding members =>
    refine (layout.tells_name binding.written).bind fun place => ?_
    refine (layout.tells_mark .comma (text ",")).andThen ?_
    refine (layout.tells_putGroup members).bind fun specifiers => ?_
    exact .pure fun content every spans => List.forall_mem_cons.mpr ⟨default spans, every⟩
  | group members => exact layout.tells_putGroup members

theorem tells_putClause (clause : Option (ImportClause dialect)) :
    (clause.elim (pure []) layout.putClause).Tells fun content specifiers =>
      ∀ specifier ∈ specifiers, specifier.Spans content := by
  cases clause with
  | none => exact .pure fun _ => List.forall_mem_nil _
  | some clause =>
    refine (layout.tells_putModifier clause.modifier).andThen ?_
    refine (layout.tells_putBindings clause.bindings).bind fun specifiers => ?_
    exact (layout.tells_mark .name (text "from")).andThen (.pure fun _ every => every)

end Dialects

theorem tells_putAttribute (pair : ImportAttribute) :
    (layout.putAttribute pair).Tells fun _ _ => True := by
  have key : (discard (layout.putKey pair.key) : Writing Unit).Tells fun _ _ => True := by
    cases pair.key with
    | name written isWhole => exact layout.tells_mark .name written
    | literal quoted => exact layout.tells_mark .literal quoted.written
  exact key.andThen ((layout.tells_mark .colon (text ":")).andThen
    (layout.tells_mark .literal pair.value.written))

theorem tells_putAttributes (attributes : Option (List ImportAttribute)) :
    (layout.putAttributes attributes).Tells fun _ _ => True := by
  cases attributes with
  | none => exact .pure fun _ => trivial
  | some attributes =>
    refine (tells_putAfter layout.withGap .name (text "with")).discard.andThen ?_
    have listed :=
      layout.tells_putListing layout.tells_putAttribute layout.attributeComma attributes
    exact listed.discard

theorem tells_putEnd : layout.putEnd.Tells fun _ _ => True := by
  rw [putEnd]
  cases layout.semicolon with
  | false => exact .pure fun _ => trivial
  | true => exact layout.tells_mark .semicolon (text ";")

theorem tells_putImport {dialect : Dialect} (declared : Import dialect) :
    (layout.putImport declared).Tells fun content specifiers =>
      ∀ specifier ∈ specifiers, specifier.Spans content := by
  refine (layout.tells_mark .name (text "import")).andThen ?_
  refine (layout.tells_putClause declared.clause).bind fun specifiers => ?_
  refine (layout.tells_mark .literal declared.source.written).andThen ?_
  refine (layout.tells_putAttributes declared.attributes).andThen ?_
  exact layout.tells_putEnd.andThen (.pure fun _ every => every)

/-- A name that is written later starts later. -/
theorem start_lt_start_put (kind other : TokenKind) {body : Text} (nonempty : body ≠ [])
    (name : Text) (before between : List Token) :
    (layout.put kind body before).1.start <
      (layout.put other name ((layout.put kind body before).2 ++ between)).1.start := by
  have positive := List.length_pos_iff.mpr nonempty
  simp only [put, putAfter, Tokens.written_append, Tokens.written_cons, Tokens.written_nil,
    List.length_append, List.length_nil]
  omega

theorem name_putExport (exported : ExportName) (before : List Token) :
    (layout.putExport exported before).1.name = exported.name := by
  cases exported <;> rfl

/-- The name of an export is written as a token that is not empty. -/
theorem exists_putExport (exported : ExportName) :
    ∃ kind body, body ≠ [] ∧ ∀ before,
      (layout.putExport exported before).1.start = (layout.put kind body before).1.start ∧
        (layout.putExport exported before).2 = (layout.put kind body before).2 := by
  cases exported with
  | identifier name =>
    exact ⟨.name, name.written, ne_nil_of_tokenSize? name.isWhole, fun _ => ⟨rfl, rfl⟩⟩
  | default => exact ⟨.name, text "default", by decide, fun _ => ⟨rfl, rfl⟩⟩
  | literal quoted =>
    exact ⟨.literal, quoted.written, ne_nil_of_tokenSize? quoted.isWhole, fun _ => ⟨rfl, rfl⟩⟩

theorem introduced_putEntryNames (names : EntryNames) (before : List Token) :
    (layout.putEntryNames names before).1.introduced = names.introduced := by
  cases names with
  | same name =>
    show Introduced.mk _ _ (_ != _) = _
    rw [bne_self_eq_false]
    rfl
  | renamed imported binding =>
    obtain ⟨kind, body, nonempty, same⟩ := layout.exists_putExport imported
    have behind := layout.start_lt_start_put kind .name nonempty binding.written before
      [⟨layout.gap (layout.put kind body before).2.length, .name, text "as"⟩]
    have aliased :
        (layout.putEntryNames (.renamed imported binding) before).1.isAliased = true := by
      refine bne_iff_ne.mpr (Nat.ne_of_lt ?_)
      show (layout.putExport imported before).1.start <
        (layout.put .name binding.written ((layout.putExport imported before).2 ++
          [⟨layout.gap (layout.putExport imported before).2.length, .name, text "as"⟩])).1.start
      rw [(same before).1, (same before).2]
      exact behind
    show Introduced.mk (.export (layout.putExport imported before).1.name) binding.written
      (layout.putEntryNames (.renamed imported binding) before).1.isAliased = _
    rw [aliased, layout.name_putExport]
    rfl

theorem introduced_putEntry {dialect : Dialect} (entry : ImportEntry dialect)
    (before : List Token) : (layout.putEntry entry before).1.introduced = entry.names.introduced :=
  layout.introduced_putEntryNames entry.names _

/-- What is true of the result for each entry is true of the results for all of them. -/
theorem map_putEntries {Entry Result Third : Type} {write : Entry → Writing Result}
    {after : Result → Third} {told : Entry → Third}
    (each : ∀ entry before, after (write entry before).1 = told entry) (comma : Bool)
    (entries : List Entry) (before : List Token) :
    (layout.putEntries write comma entries before).1.map after = entries.map told := by
  fun_induction putEntries layout write comma entries generalizing before with
  | case1 => rfl
  | case2 entry =>
    cases comma <;> exact congrArg ([·]) (each entry before)
  | case3 entry later nonempty inductionHypothesis =>
    exact congrArg₂ (· :: ·) (each entry before) (inductionHypothesis _)

theorem introduced_putGroup {dialect : Dialect} (members : ImportGroup dialect)
    (before : List Token) :
    (layout.putGroup members before).1.map Specifier.introduced = members.introduced := by
  cases members with
  | star binding => rfl
  | named entries =>
    exact layout.map_putEntries (fun entry before => layout.introduced_putEntry entry before)
      layout.entryComma entries _

theorem introduced_putBindings {dialect : Dialect} (bindings : ImportBindings dialect)
    (before : List Token) :
    (layout.putBindings bindings before).1.map Specifier.introduced = bindings.introduced := by
  cases bindings with
  | single binding => rfl
  | both binding members => exact congrArg (_ :: ·) (layout.introduced_putGroup members _)
  | group members => exact layout.introduced_putGroup members before

end Layout

namespace Import

variable {dialect : Dialect} (declared : Import dialect) (layout : Layout)

/-- The specifiers of a written declaration introduce its bindings, in their order. -/
theorem introduced_specifiers :
    (declared.specifiers layout).map Specifier.introduced = declared.introduced := by
  obtain ⟨clause, source, attributes⟩ := declared
  cases clause with
  | none => rfl
  | some clause => exact layout.introduced_putBindings clause.bindings _

/-- The names of the specifiers take up their stretches of the text. -/
theorem spans_specifiers :
    ∀ specifier ∈ declared.specifiers layout, specifier.Spans (declared.written layout) :=
  (layout.tells_putImport declared).holds [] layout.tail

end Import

end ImportBinding
