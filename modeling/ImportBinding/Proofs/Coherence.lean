/-
This file says what holds of every statement, however it was built and however often it was renamed.

The text of a statement is in normal form. Its node starts where the text does and ends in front of
the last line break, and its local name stands inside of the node, behind the word `import`. Nothing
is known of a statement that its text does not tell: built anew from that text it is the same
statement.
-/

import ImportBinding.Proofs.Refusing
import ImportBinding.Proofs.Rows
import ImportBinding.Proofs.Splicing

namespace ImportBinding

/-! ### The normal form without its line break -/

theorem IsNormal.trim_trimEnd {content : Text} (normal : IsNormal content) :
    content.trimEnd.trim = content.trim := by
  obtain ⟨starts, front, rfl⟩ := normal
  have whole : front ++ text ";\n" = (front ++ text ";") ++ text "\n" := by
    rw [List.append_assoc]
    rfl
  have long : 7 ≤ (front ++ text ";").length := by
    rw [List.length_append]
    exact Nat.succ_le_succ (length_of_startsWithImport starts)
  have shorter : startsWithImport (front ++ text ";") = true := by
    rw [whole, startsWithImport_append long] at starts
    exact starts
  have same : Text.trimEnd (front ++ text ";") = front ++ text ";" := by
    rw [Text.trimEnd, List.reverse_append]
    show (text ";" ++ front.reverse).reverse = front ++ text ";"
    rw [List.reverse_append, List.reverse_reverse]
    rfl
  have stripped : Text.trimEnd (front ++ text ";" ++ text "\n") = front ++ text ";" := by
    rw [Text.trimEnd_append_blanks (by decide), same]
  rw [whole] at starts ⊢
  rw [stripped, Text.trim, Text.trim, trimStart_of_startsWithImport shorter,
    trimStart_of_startsWithImport starts, stripped, same]

/-- A normal text is also the normal form of what is left without the line break at its end. -/
theorem normalForm_trimEnd {content : Text} (normal : IsNormal content) :
    normalForm content.trimEnd = content := by
  rw [normalForm, normal.trim_trimEnd]
  exact normalForm_of_isNormal normal

/-! ### The start of a text -/

/-- Where a token is taken off the front of a text, a layout in front of it would be seen. -/
theorem gap_eq_nil_of_layoutSize {token : Token} {behind : Text} (gap : IsGap token.gap)
    (whole : token.IsWhole) (none : layoutSize (token.gap ++ (token.body ++ behind)) = 0) :
    token.gap = [] := by
  refine Decidable.byContradiction fun nonempty => ?_
  exact gap.layoutSize_ne_zero nonempty (layoutSize_of_tokenSize? whole behind) none

theorem layoutSize_of_startsWithImport {content : Text}
    (starts : startsWithImport content = true) : layoutSize content = 0 := by
  simp only [startsWithImport, Bool.and_eq_true] at starts
  obtain ⟨rest, rfl⟩ := List.isPrefixOf_iff_prefix.mp starts.1
  exact layoutSize_eq_zero_of_head (by decide) (by decide) _

/-! ### Local names and names of exports -/

namespace Specifier

/-- A local name is the name of the export itself, or stands behind it. -/
def IsBehind : Specifier → Prop
  | default _ | star _ => True
  | named imported binding =>
    imported = binding ∨ (imported.start ≤ imported.stop ∧ imported.stop < binding.start)

theorem IsBehind.named_cases {imported binding : Identifier}
    (behind : (named imported binding).IsBehind) :
    (imported.start = binding.start ∧ imported.stop = binding.stop ∧
        (named imported binding).isAliased = false) ∨
      (imported.stop < binding.start ∧ (named imported binding).isAliased = true) := by
  rcases behind with rfl | ⟨spelled, later⟩
  · exact Or.inl ⟨rfl, rfl, by simp [isAliased]⟩
  · refine Or.inr ⟨later, bne_iff_ne.mpr ?_⟩
    omega

end Specifier

theorem NamedImport.isBehind_of_specifier {dialect : Dialect} {entry : NamedImport} {offset : Nat}
    {specifier : Specifier} (framed : entry.IsFramed dialect)
    (read : entry.specifier offset = .ok specifier) : specifier.IsBehind := by
  obtain ⟨modifier, imported, asClause⟩ := entry
  obtain ⟨name, exported, same⟩ := bind_eq_ok_iff.mp read
  cases asClause with
  | none =>
    cases same
    exact Or.inl rfl
  | some pair =>
    obtain ⟨asWord, binding⟩ := pair
    cases same
    obtain ⟨start, stop⟩ := Token.start_of_exportName exported
    have long : asWord.body.length = 2 := by
      rw [Token.body_of_isWord (framed.renamed (asWord, binding) rfl).2]
      rfl
    refine Or.inr ?_
    rw [start, stop]
    simp only [Token.identifier, Token.width, long]
    omega

theorem Group.isBehind_of_specifiers {dialect : Dialect} {members : Group} {offset : Nat}
    {specifiers : List Specifier} (framed : members.IsFramed dialect)
    (read : members.specifiers offset = .ok specifiers) :
    ∀ specifier ∈ specifiers, specifier.IsBehind := by
  cases members with
  | star mark asWord binding =>
    cases read
    exact List.forall_mem_singleton.mpr trivial
  | named listing =>
    have entries := map_snd_placeEntries NamedImport.tokens listing.final
      (offset + listing.opening.width) listing.ended
    refine forall_of_mapM_eq_ok (fun pair member specifier specified => ?_) read
    refine NamedImport.isBehind_of_specifier (framed.entries pair.2 ?_) specified
    rw [Listing.entries, ← entries]
    exact List.mem_map_of_mem member

/-- The local names of a declaration are the names of the exports or stand behind them. -/
theorem Declaration.isBehind_of_specifiers {dialect : Dialect} {declaration : Declaration}
    {offset : Nat} {specifiers : List Specifier} (framed : declaration.IsFramed dialect)
    (read : declaration.specifiers offset = .ok specifiers) :
    ∀ specifier ∈ specifiers, specifier.IsBehind := by
  obtain ⟨keyword, clause, source, attributes, terminator⟩ := declaration
  cases clause with
  | none =>
    cases read
    exact List.forall_mem_nil _
  | some clause =>
    obtain ⟨modifier, bindings, fromWord⟩ := clause
    have inner := (framed.clause _ rfl).bindings
    cases bindings with
    | single binding =>
      cases read
      exact List.forall_mem_singleton.mpr trivial
    | both binding comma members =>
      obtain ⟨others, grouped, same⟩ := bind_eq_ok_iff.mp read
      cases same
      exact List.forall_mem_cons.mpr ⟨trivial, Group.isBehind_of_specifiers inner.2.2 grouped⟩
    | group members => exact Group.isBehind_of_specifiers inner read

/-! ### Places in the text of a statement -/

namespace Statement

section Reads

variable {statement : Statement} {declaration : Declaration} {rest : List Token}
  {later : List Item} {tail : Text} (reads : statement.Reads declaration rest later tail)

include reads

/-- The word `import` is the first thing in a statement. -/
theorem Reads.start_eq : statement.node.start = 0 := by
  obtain ⟨specifiers, source, -, -, -, node⟩ := Declaration.node_eq_ok_iff.mp reads.node
  obtain ⟨-, whole, spaced, -⟩ := scan_eq_ok_iff.mp reads.opens.scanned
  have member : declaration.keyword ∈ declaration.tokens ++ rest :=
    List.mem_append_left rest List.mem_cons_self
  have first := layoutSize_of_startsWithImport reads.normal.starts
  rw [whole, Declaration.tokens, List.cons_append, Tokens.written_cons, List.append_assoc,
    List.append_assoc] at first
  have close := gap_eq_nil_of_layoutSize (spaced.gaps _ member) (spaced.whole _ member) first
  rw [node, close]
  rfl

theorem Reads.stop_eq : statement.node.stop = (Tokens.written declaration.tokens).length := by
  obtain ⟨specifiers, source, -, -, -, node⟩ := Declaration.node_eq_ok_iff.mp reads.node
  rw [node, Tokens.length_written]
  exact Nat.zero_add _

/-- The line break at the end of a statement stands behind its node. -/
theorem Reads.stop_lt : statement.node.stop < statement.content.length := by
  obtain ⟨-, whole, spaced, -⟩ := scan_eq_ok_iff.mp reads.opens.scanned
  obtain ⟨front, last, tokens, other, -⟩ := reads.opens.framed.exists_last
  rw [Tokens.written_append, List.append_assoc] at whole
  rw [reads.stop_eq, whole, List.length_append]
  refine Nat.lt_add_of_pos_right (List.length_pos_of_ne_nil fun none => ?_)
  -- with nothing behind them the tokens of the declaration would end with the line break
  have member : last ∈ declaration.tokens ++ rest := by
    rw [tokens]
    exact List.mem_append_left rest (List.mem_append_right front (List.mem_singleton_self last))
  have isWhole := spaced.whole last member
  obtain ⟨before, ends⟩ := reads.normal.ends
  have newline : statement.content.getLast? = some (CodePoint.ofChar '\n') := by
    rw [← ends]
    exact List.getLast?_append_of_ne_nil before (List.cons_ne_nil _ _)
  have nonempty : last.body ≠ [] := ne_nil_of_tokenSize? isWhole
  rw [whole, none, List.append_nil, tokens, Tokens.written_append, Tokens.written_cons,
    Tokens.written_nil, List.append_nil,
    List.getLast?_append_of_ne_nil _ (List.append_ne_nil_of_right_ne_nil _ nonempty),
    List.getLast?_append_of_ne_nil _ nonempty] at newline
  obtain ⟨point, mark, notBlank⟩ := isWhole.exists_last other
  rw [mark] at newline
  cases newline
  exact absurd notBlank (by decide)

/-- A local name is a stretch of the text behind the word `import` and within the node. -/
theorem Reads.binding_within :
    7 ≤ statement.specifier.binding.start ∧
      statement.specifier.binding.start < statement.specifier.binding.stop ∧
        statement.specifier.binding.stop < statement.node.stop ∧
          statement.content.slice statement.specifier.binding.start
            statement.specifier.binding.stop = statement.binding := by
  obtain ⟨front, slot, back, has, sourced⟩ := reads.exists_slot
  have spaced := reads.spaced has
  have placed : statement.specifier.binding =
      slot.identifier (0 + Tokens.width (declaration.keyword :: front)) :=
    has.stands.binding_eq
  have start : (slot.identifier (0 + Tokens.width (declaration.keyword :: front))).start =
      (Tokens.written (declaration.keyword :: front) ++ slot.gap).length := by
    rw [List.length_append, Tokens.length_written, Token.identifier, Nat.zero_add]
  have stop : (slot.identifier (0 + Tokens.width (declaration.keyword :: front))).stop =
      (Tokens.written (declaration.keyword :: front) ++ slot.gap).length + slot.body.length := by
    rw [List.length_append, Tokens.length_written, Token.identifier, Nat.zero_add, Token.width,
      Nat.add_assoc]
  have nonempty : 0 < slot.body.length :=
    tokenSize?_pos (spaced.whole slot (List.mem_append_right _ List.mem_cons_self))
  have behind : 0 < (Tokens.written back).length := by
    have member : declaration.source ∈ declaration.keyword :: front ++ slot :: (back ++ rest) :=
      List.mem_append_right _ (List.mem_cons_of_mem slot (List.mem_append_left rest sourced))
    have long := two_le_length_of_isWhole (spaced.whole _ member) reads.opens.framed.source
    have inside := length_le_written_of_mem sourced
    omega
  rw [binding, placed, start, stop, reads.stop_eq, has.whole]
  refine ⟨reads.length_front has, Nat.lt_add_of_pos_right nonempty, ?_, ?_⟩
  · simp only [Tokens.written_append, Tokens.written_cons, List.length_append] at behind ⊢
    omega
  · rw [reads.content_eq has, Token.written, List.append_assoc, ← List.append_assoc, Text.slice,
      List.take_length_add_append, List.drop_left, List.take_left]
    rfl

/-- A text whose normal form is the text of a statement gives the same statement again. -/
theorem Reads.ofText_eq {given : Text} (same : normalForm given = statement.content) :
    ofText [] given statement.dialect = .ok { statement with given } := by
  refine ofText_eq_ok_iff.mpr ⟨rfl, same.symm, rfl, declaration, rest, later, tail, ?_⟩
  exact ⟨reads.normal, reads.encodes, reads.opens, reads.node⟩

end Reads

/-! ### Coherence -/

/-- What holds of a statement: its text is in normal form and spells its local name, its node spans
the text but for the line break, and from its text the same statement is built again. -/
structure IsCoherent (statement : Statement) : Prop where
  supported : Dialect.ofName? statement.dialect.name = some statement.dialect
  normal : normalForm statement.content = statement.content
  single : statement.node.specifiers = [statement.specifier]
  start : statement.node.start = 0
  behindImport : 7 ≤ statement.specifier.binding.start
  nonempty : statement.specifier.binding.start < statement.specifier.binding.stop
  inside : statement.specifier.binding.stop < statement.node.stop
  stop : statement.node.stop ≤ statement.content.length - 1
  spelled : statement.content.slice statement.specifier.binding.start
    statement.specifier.binding.stop = statement.binding
  named : ∀ imported binding, statement.specifier = .named imported binding →
    (imported.start = binding.start ∧ imported.stop = binding.stop ∧
        statement.specifier.isAliased = false) ∨
      (imported.stop < binding.start ∧ statement.specifier.isAliased = true)
  rebuilt : ∀ given ∈ [statement.content, statement.content.trimEnd],
    ∀ configured, ∃ again,
      ofValue [] (.text given) (languageOf (.text statement.dialect.name) configured) = .ok again ∧
        again.isSame statement = true ∧ again.node = statement.node ∧
          again.binding = statement.binding ∧ again.source = statement.source ∧
            again.imported = statement.imported

theorem trim_lower_name (dialect : Dialect) : dialect.name.trim.lower = dialect.name := by
  cases dialect <;> with_unfolding_all rfl

/-- Every statement is coherent. -/
theorem IsBuilt.isCoherent {statement : Statement} (built : statement.IsBuilt) :
    statement.IsCoherent := by
  obtain ⟨declaration, rest, later, tail, reads⟩ := built.exists_reads
  obtain ⟨behindImport, nonempty, inside, spelled⟩ := reads.binding_within
  have behind := Declaration.isBehind_of_specifiers reads.opens.framed reads.specifiers_eq _
    (List.mem_singleton_self _)
  refine ⟨(Dialect.ofName?_eq_some_iff _ _).mpr rfl, normalForm_of_isNormal reads.normal,
    statement.single, reads.start_eq, behindImport, nonempty, inside,
    Nat.le_sub_one_of_lt reads.stop_lt, spelled, fun imported binding same => ?_,
    fun given listed configured => ?_⟩
  · rw [same] at behind ⊢
    exact behind.named_cases
  · have normal : normalForm given = statement.content := by
      simp only [List.mem_cons, List.not_mem_nil, or_false] at listed
      rcases listed with rfl | rfl
      · exact normalForm_of_isNormal reads.normal
      · exact normalForm_trimEnd reads.normal
    refine ⟨{ statement with given }, ?_, ?_, rfl, rfl, rfl, rfl⟩
    · rw [languageOf_of_chosen (trim_lower_name statement.dialect), ofValue_text]
      exact reads.ofText_eq normal
    · simp [isSame]

/-- A named import that was renamed is coherent. -/
theorem IsBuilt.isCoherent_query : ∃ statement renamed : Statement,
    ofValue [] (.text (text "{ useQuery } from '@apollo/react-hooks'")) (.ok (text "tsx")) =
        .ok statement ∧
      statement.rename [] (.text (text "useQuery2")) = .ok renamed ∧ renamed.IsBuilt ∧
        renamed.IsCoherent := by
  have known : (ofValue [] (.text (text "{ useQuery } from '@apollo/react-hooks'"))
      (.ok (text "tsx"))).toOption.map (fun statement =>
        (statement.rename [] (.text (text "useQuery2"))).toOption.isSome) = some true := by
    decide +kernel
  obtain ⟨statement, made, accepted⟩ := exists_ok_of_map_toOption known
  obtain ⟨renamed, done⟩ := Option.isSome_iff_exists.mp accepted
  have done := toOption_eq_some_iff.mp done
  have built : renamed.IsBuilt := .renamed (.new made) done
  exact ⟨statement, renamed, made, done, built, built.isCoherent⟩

end Statement

end ImportBinding
