/-
This file follows a new local name into the text of a statement.

The text in front of the slot and the text behind it stay as they are. The changed text is therefore
in normal form again, and when the name is a single name of the grammar its tokens are those of the
declaration with that local name, followed by the tokens that were there.
-/

import ImportBinding.Proofs.Built
import ImportBinding.Proofs.Endings

namespace ImportBinding

/-! ### Names -/

/-- A text that is exactly one name of the grammar, without layout. -/
def IsName (name : Text) : Prop := scan name = .ok ([⟨[], .name, name⟩], [])

theorem isName_iff {name : Text} :
    IsName name ↔ (∀ point ∈ name, point.toNat ≠ 0) ∧
      tokenSize? name = some (.name, name.length) := by
  rw [IsName, scan_eq_ok_iff]
  constructor
  · rintro ⟨clean, -, spaced, -⟩
    exact ⟨clean, spaced.whole _ List.mem_cons_self⟩
  · rintro ⟨clean, whole⟩
    refine ⟨clean, ?_, ⟨?_, ?_, List.isChain_singleton _⟩, isTail_nil⟩
    · rw [Tokens.written_cons, Tokens.written_nil, List.append_nil, List.append_nil]
      rfl
    · exact List.forall_mem_singleton.mpr isGap_nil
    · exact List.forall_mem_singleton.mpr whole

theorem mem_written_of_mem {tokens : List Token} {token : Token} {point : CodePoint}
    (member : token ∈ tokens) (within : point ∈ token.body) : point ∈ Tokens.written tokens :=
  List.mem_flatMap.mpr ⟨token, member, List.mem_append_right token.gap within⟩

/-- The text of a name token is a name. -/
theorem isName_of_token {content tail : Text} {found : List Token} {token : Token}
    (scanned : scan content = .ok (found, tail)) (member : token ∈ found)
    (named : token.kind = .name) : IsName token.body := by
  obtain ⟨clean, rfl, spaced, -⟩ := scan_eq_ok_iff.mp scanned
  have whole : tokenSize? token.body = some (token.kind, token.body.length) :=
    spaced.whole token member
  rw [named] at whole
  refine isName_iff.mpr ⟨fun point within => clean point ?_, whole⟩
  exact List.mem_append_left tail (mem_written_of_mem member within)

/-! ### The text that a new local name is put into -/

namespace Specifier

/-- What is written between the tokens in front of a slot and the new local name. -/
def lead (specifier : Specifier) (slot : Token) : Text :=
  if specifier.isBare then slot.written ++ text " as " else slot.gap

theorem written_exchange (specifier : Specifier) (slot : Token) (name : Text) :
    Tokens.written (specifier.exchange slot name) = specifier.lead slot ++ name := by
  unfold exchange lead
  split
  · simp [aliasTokens, Token.written, text]
  · simp

theorem exists_lead_eq (specifier : Specifier) (slot : Token) :
    ∃ middle, specifier.lead slot = slot.gap ++ middle := by
  unfold lead
  split
  · exact ⟨slot.body ++ text " as ", List.append_assoc _ _ _⟩
  · exact ⟨[], (List.append_nil _).symm⟩

theorem start_renamed {specifier : Specifier} {front : List Token} {slot : Token}
    (stands : specifier.StandsAt 0 front slot) (name : Text) :
    (specifier.renamed name).binding.start =
      (Tokens.written front ++ specifier.lead slot).length := by
  rw [List.length_append, Tokens.length_written]
  cases specifier with
  | default binding | star binding =>
    cases stands
    show 0 + Tokens.width front + slot.gap.length = Tokens.width front + slot.gap.length
    rw [Nat.zero_add]
  | named imported binding =>
    obtain ⟨rfl, bare⟩ := stands
    by_cases same : imported.start = (slot.identifier (0 + Tokens.width front)).start
    · rw [bare same]
      simp only [renamed, lead, isBare, Specifier.binding, decide_true, if_true, Token.identifier,
        Token.written, List.length_append]
      show _ = Tokens.width front + (slot.gap.length + slot.body.length + 4)
      rw [Token.width]
      omega
    · simp only [renamed, lead, isBare, Specifier.binding, if_neg same, decide_eq_false same,
        Bool.false_eq_true, if_false]
      rw [Token.identifier, Nat.zero_add]

end Specifier

theorem Statement.spliced_eq {statement : Statement} {front : List Token} {slot : Token}
    {behind : Text} (stands : statement.specifier.StandsAt 0 front slot)
    (whole : statement.content = Tokens.written front ++ (slot.written ++ behind)) (name : Text) :
    statement.spliced name =
      Tokens.written front ++ (statement.specifier.lead slot ++ (name ++ behind)) := by
  have start : (slot.identifier (0 + Tokens.width front)).start =
      (Tokens.written front ++ slot.gap).length := by
    rw [List.length_append, Tokens.length_written, Token.identifier, Nat.zero_add]
  have stop : (slot.identifier (0 + Tokens.width front)).stop =
      (Tokens.written front ++ slot.written).length := by
    rw [List.length_append, Tokens.length_written, Token.identifier, Nat.zero_add, Token.written,
      List.length_append, Token.width]
  have taken : statement.content.take (slot.identifier (0 + Tokens.width front)).start =
      Tokens.written front ++ slot.gap := by
    rw [start, whole, Token.written, List.append_assoc, ← List.append_assoc, List.take_left]
  have kept : statement.content.take (slot.identifier (0 + Tokens.width front)).stop =
      Tokens.written front ++ slot.written := by
    rw [stop, whole, ← List.append_assoc, List.take_left]
  have dropped : statement.content.drop (slot.identifier (0 + Tokens.width front)).stop =
      behind := by
    rw [stop, whole, ← List.append_assoc, List.drop_left]
  rw [spliced]
  cases specified : statement.specifier with
  | default binding | star binding =>
    rw [specified] at stands
    cases stands
    show _ ++ name ++ _ = Tokens.written front ++ (slot.gap ++ (name ++ behind))
    rw [taken, dropped]
    simp only [List.append_assoc]
  | named imported binding =>
    rw [specified] at stands
    obtain ⟨rfl, bare⟩ := stands
    by_cases same : imported.start = (slot.identifier (0 + Tokens.width front)).start
    · rw [bare same]
      simp only [Specifier.isAliased, Specifier.lead, Specifier.isBare, bne_self_eq_false,
        Bool.false_eq_true, if_false, decide_true, if_true]
      rw [kept, dropped]
      simp only [List.append_assoc]
    · simp only [Specifier.isAliased, Specifier.lead, Specifier.isBare, bne_iff_ne.mpr same,
        if_true, decide_eq_false same, Bool.false_eq_true, if_false]
      rw [taken, dropped]
      simp only [List.append_assoc]

/-! ### The tokens that stand in place of a slot -/

theorem isName_as : IsName (text "as") :=
  isName_iff.mpr ⟨by decide, by decide +kernel⟩

theorem Specifier.wellSpaced_exchange {slot : Token} {name : Text} (specifier : Specifier)
    (gap : IsGap slot.gap) (whole : slot.IsWhole) (named : slot.kind = .name)
    (single : IsName name) : Tokens.WellSpaced (specifier.exchange slot name) := by
  have asWhole : (aliasTokens name).1.IsWhole := (isName_iff.mp isName_as).2
  have nameWhole : (aliasTokens name).2.IsWhole := (isName_iff.mp single).2
  unfold exchange
  split
  · refine ⟨fun token member => ?_, fun token member => ?_, ?_⟩
    · simp only [List.mem_cons, List.not_mem_nil, or_false] at member
      rcases member with rfl | rfl | rfl
      · exact gap
      · exact isGap_space
      · exact isGap_space
    · simp only [List.mem_cons, List.not_mem_nil, or_false] at member
      rcases member with rfl | rfl | rfl
      · exact whole
      · exact asWhole
      · exact nameWhole
    · have apart (token : Token) : token.IsApart (aliasTokens name).1 ∧
          token.IsApart (aliasTokens name).2 :=
        ⟨fun _ _ => List.cons_ne_nil _ _, fun _ _ => List.cons_ne_nil _ _⟩
      exact .cons_cons (apart slot).1 (.cons_cons (apart _).2 (.singleton _))
  · refine ⟨List.forall_mem_singleton.mpr gap, List.forall_mem_singleton.mpr ?_, .singleton _⟩
    have body := (isName_iff.mp single).2
    rw [← named] at body
    exact body

theorem Specifier.exchange_ne_nil (specifier : Specifier) (slot : Token) (name : Text) :
    specifier.exchange slot name ≠ [] := by
  unfold exchange
  split <;> exact List.cons_ne_nil _ _

/-- The tokens in place of a slot start as the slot does. -/
theorem Specifier.head_exchange {slot first : Token} (specifier : Specifier) {name : Text}
    (head : first ∈ (specifier.exchange slot name).head?) :
    first.gap = slot.gap ∧ first.kind = slot.kind := by
  unfold exchange at head
  split at head <;> cases head <;> exact ⟨rfl, rfl⟩

/-- The tokens in place of a slot end with a name, as the slot does. -/
theorem Specifier.last_exchange {slot last : Token} (specifier : Specifier) {name : Text}
    (named : slot.kind = .name) (end_ : last ∈ (specifier.exchange slot name).getLast?) :
    last.kind = slot.kind := by
  unfold exchange at end_
  split at end_
  · cases end_
    exact named.symm
  · cases end_
    rfl

/-! ### Statements -/

theorem two_le_length_of_isWhole {token : Token} (whole : token.IsWhole)
    (literal : token.kind = .literal) : 2 ≤ token.body.length := by
  rw [Token.IsWhole, literal] at whole
  rcases tokenSize?_cases whole with ⟨point, rest, -, marked, -⟩ |
    ⟨quote, inner, rest, -, -, -, -, -, size⟩ | ⟨point, name, rest, -, -, -, named, -⟩
  · exact absurd rfl (TokenKind.ofMark?_eq_some_cases marked).2.1
  · rw [size]
    exact Nat.le_add_left 2 inner.length
  · cases named

theorem length_le_written_of_mem {tokens : List Token} {token : Token} (member : token ∈ tokens) :
    token.body.length ≤ (Tokens.written tokens).length := by
  have part : token.written.Sublist (Tokens.written tokens) := by
    rw [Tokens.written, List.flatMap_def]
    exact List.sublist_flatten_of_mem (List.mem_map_of_mem member)
  exact ((List.sublist_append_right token.gap token.body).trans part).length_le

namespace Statement

variable {statement : Statement} {declaration : Declaration} {rest : List Token}
  {later : List Item} {tail : Text} {front back : List Token} {slot : Token}

/-- The changed text has the code points of the text, the new local name and the word `as`. -/
theorem forall_mem_spliced {fits : CodePoint → Prop} {name : Text}
    (inContent : ∀ point ∈ statement.content, fits point) (inName : ∀ point ∈ name, fits point)
    (inWord : ∀ point ∈ text " as ", fits point) :
    ∀ point ∈ statement.spliced name, fits point := by
  have taken (size : Nat) : ∀ point ∈ statement.content.take size, fits point :=
    fun point member => inContent point (List.mem_of_mem_take member)
  have dropped (size : Nat) : ∀ point ∈ statement.content.drop size, fits point :=
    fun point member => inContent point (List.mem_of_mem_drop member)
  rw [spliced]
  cases statement.specifier with
  | default binding | star binding =>
    simp only [List.forall_mem_append]
    exact ⟨⟨taken _, inName⟩, dropped _⟩
  | named imported binding =>
    simp only
    split <;> simp only [List.forall_mem_append]
    · exact ⟨⟨taken _, inName⟩, dropped _⟩
    · exact ⟨⟨taken _, inWord, inName⟩, dropped _⟩

/-- The local name of a statement has its slot in the declaration that opens the text. -/
theorem Reads.exists_slot (reads : statement.Reads declaration rest later tail) :
    ∃ front slot back, HasSlot 0 statement.specifier declaration.tokens
      (fun name => (declaration.rebind name).tokens)
      (fun name => (declaration.rebind name).specifiers 0)
      (declaration.keyword :: front) slot back ∧ declaration.source ∈ back :=
  Declaration.exists_slot reads.opens.framed reads.specifiers_eq

/-- The local name of a statement is the text of a token of its declaration. -/
theorem Reads.exists_token_binding (reads : statement.Reads declaration rest later tail) :
    ∃ token ∈ declaration.tokens, token.kind = .name ∧ token.body = statement.binding := by
  obtain ⟨front, slot, back, has, -⟩ := reads.exists_slot
  refine ⟨slot, ?_, has.named, (congrArg Identifier.name has.stands.binding_eq).symm⟩
  rw [has.whole]
  exact List.mem_append_right _ List.mem_cons_self

/-- The local name of a statement is a single name. -/
theorem Reads.isName_binding (reads : statement.Reads declaration rest later tail) :
    IsName statement.binding := by
  obtain ⟨token, member, named, body⟩ := reads.exists_token_binding
  rw [← body]
  exact isName_of_token reads.opens.scanned (List.mem_append_left rest member) named

section Slot

variable (reads : statement.Reads declaration rest later tail)
  (has : HasSlot 0 statement.specifier declaration.tokens
    (fun name => (declaration.rebind name).tokens)
    (fun name => (declaration.rebind name).specifiers 0) (declaration.keyword :: front) slot back)

include reads has

theorem Reads.content_eq : statement.content =
    Tokens.written (declaration.keyword :: front) ++
      (slot.written ++ (Tokens.written (back ++ rest) ++ tail)) := by
  obtain ⟨-, whole, -⟩ := scan_eq_ok_iff.mp reads.opens.scanned
  rw [whole, has.whole]
  simp only [Tokens.written_append, Tokens.written_cons, Token.written, List.append_assoc]

theorem Reads.spliced_eq (name : Text) : statement.spliced name =
    Tokens.written (declaration.keyword :: front) ++
      (statement.specifier.lead slot ++ (name ++ (Tokens.written (back ++ rest) ++ tail))) :=
  Statement.spliced_eq has.stands (reads.content_eq has) name

theorem Reads.spaced :
    Tokens.WellSpaced (declaration.keyword :: front ++ slot :: (back ++ rest)) := by
  obtain ⟨-, -, spaced, -⟩ := scan_eq_ok_iff.mp reads.opens.scanned
  rw [has.whole, List.append_assoc] at spaced
  exact spaced

/-- The first word of a statement and one more code point stand in front of the local name. -/
theorem Reads.length_front :
    7 ≤ (Tokens.written (declaration.keyword :: front) ++ slot.gap).length := by
  have spaced := reads.spaced has
  have word := Token.body_of_isWord reads.opens.framed.keyword
  have six : declaration.keyword.body.length = 6 := by
    rw [word]
    rfl
  rw [List.length_append, Tokens.length_written, Tokens.width_cons, Token.width, six]
  cases front with
  | nil =>
    have apart := List.isChain_cons_cons.mp spaced.apart
    have nonempty := apart.1 (Token.kind_of_isWord reads.opens.framed.keyword) has.named
    have positive := List.length_pos_of_ne_nil nonempty
    omega
  | cons next front =>
    have member : next ∈ declaration.keyword :: next :: front ++ slot :: (back ++ rest) :=
      List.mem_cons_of_mem _ List.mem_cons_self
    have positive := tokenSize?_pos (spaced.whole next member)
    rw [Tokens.width_cons, Token.width]
    omega

/-- The semicolon at the end of a statement stands behind the local name. -/
theorem Reads.ends (sourced : declaration.source ∈ back) :
    text ";\n" <:+ Tokens.written (back ++ rest) ++ tail := by
  have spaced := reads.spaced has
  have inBack : declaration.source ∈ back ++ rest := List.mem_append_left rest sourced
  have whole := spaced.whole declaration.source
    (List.mem_append_right _ (List.mem_cons_of_mem slot inBack))
  have long := two_le_length_of_isWhole whole reads.opens.framed.source
  refine List.suffix_of_suffix_length_le reads.normal.ends ?_ ?_
  · rw [reads.content_eq has, ← List.append_assoc]
    exact List.suffix_append _ _
  · rw [List.length_append]
    exact (long.trans (length_le_written_of_mem inBack)).trans (Nat.le_add_right _ _)

/-- The text with another local name is in normal form. -/
theorem Reads.isNormal_spliced (sourced : declaration.source ∈ back) (name : Text) :
    IsNormal (statement.spliced name) := by
  obtain ⟨middle, lead⟩ := statement.specifier.exists_lead_eq slot
  have content := reads.content_eq has
  have normal := reads.normal
  rw [content, Token.written, List.append_assoc, ← List.append_assoc, ← List.append_assoc] at normal
  have spliced := normal.splice (reads.length_front has) (reads.ends has sourced) (middle ++ name)
  rw [reads.spliced_eq has, lead]
  simpa only [List.append_assoc] using spliced

/-- The tokens of the text with another local name, if that is a name. -/
theorem Reads.scan_spliced {name : Text} (single : IsName name) :
    scan (statement.spliced name) = .ok ((declaration.rebind name).tokens ++ rest, tail) := by
  obtain ⟨clean, -, -, ends⟩ := scan_eq_ok_iff.mp reads.opens.scanned
  have spaced := reads.spaced has
  have member : slot ∈ declaration.keyword :: front ++ slot :: (back ++ rest) :=
    List.mem_append_right _ List.mem_cons_self
  have fresh := statement.specifier.wellSpaced_exchange (spaced.gaps slot member)
    (spaced.whole slot member) has.named single
  have changed := spaced.splice fresh (statement.specifier.exchange_ne_nil slot name)
    (fun first => statement.specifier.head_exchange)
    (fun last => statement.specifier.last_exchange has.named)
  have tokens : (declaration.rebind name).tokens ++ rest = declaration.keyword :: front ++
      (statement.specifier.exchange slot name ++ (back ++ rest)) := by
    rw [has.exchanged]
    simp only [List.append_assoc]
  refine scan_eq_ok_iff.mpr ⟨?_, ?_, ?_, ends⟩
  · exact forall_mem_spliced clean (isName_iff.mp single).1 (by decide)
  · rw [tokens, reads.spliced_eq has, Tokens.written_append (declaration.keyword :: front),
      Tokens.written_append (statement.specifier.exchange slot name), Specifier.written_exchange]
    simp only [List.append_assoc]
  · rw [tokens]
    exact changed

end Slot

end Statement

end ImportBinding
