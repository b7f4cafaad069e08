/-
This file says which refusals have a position.

Reading, from a tree or by the grammar, may fail in some ways, but does not refuse: that is up to
statements. So a text that is refused with a position has been read as a text with a fault, which
stands at that position in the normal form.
-/

import ImportBinding.Proofs.Extents
import ImportBinding.Proofs.Refusing

namespace ImportBinding

/-! ### Failures of reading -/

/-- A failure that reading a text may come to. Refusals are up to statements, and languages without
a grammar to those who choose one. -/
def Failure.isOfReading : Failure → Bool
  | illFormed _ | notCodePoint _ | tooLarge _ | notNumeral _ | emptyEscape | surrogates _ _ _
  | splitCodePoint _ _ _ | noAttribute => true
  | _ => false

/-- A step that only reads, however it may fail. -/
abbrev FailsReading {Result : Type} (outcome : Except Failure Result) : Prop :=
  FailsOnly (fun failure => failure.isOfReading = true) outcome

theorem codePointOf_failsReading (number : Int) : FailsReading (codePointOf number) := by
  unfold codePointOf
  split
  · exact .error rfl
  · split
    · exact .error rfl
    · split
      · exact .ok _
      · exact .error rfl

theorem codePointOfHex_failsReading (numeral : Text) :
    FailsReading (codePointOfHex numeral) := by
  unfold codePointOfHex
  split
  · exact codePointOf_failsReading _
  · exact .error rfl

theorem escapeBodyValue_failsReading (body : Text) :
    FailsReading (escapeBodyValue body) := by
  unfold escapeBodyValue
  split
  · exact .ok []
  · split
    · exact .error rfl
    · exact .ok _
    · split
      · exact codePointOfHex_failsReading _
      · split
        · exact codePointOfHex_failsReading _
        · split
          · exact codePointOf_failsReading _
          · exact .ok _

theorem Piece.decode_failsReading (piece : Piece) : FailsReading piece.decode := by
  cases piece with
  | plain content => exact .ok content
  | escape sequence => exact escapeBodyValue_failsReading _

theorem Node.ofImport_failsReading {extent : Except Failure (Nat × Nat)}
    {specifiers : Except Failure (List Specifier)} {source : Except Failure (Option Text)}
    (extended : FailsReading extent) (specified : FailsReading specifiers)
    (sourced : FailsReading source) :
    FailsReading (Node.ofImport extent specifiers source) := by
  refine specified.bind fun specifiers => ?_
  split
  · exact .error rfl
  · exact extended.bind fun stretch => sourced.bind fun source => .ok _

theorem offsetAt_failsReading (content : Text) (byte : Nat) :
    FailsReading (offsetAt content byte) := by
  unfold offsetAt
  split
  · exact .ok _
  · exact .error rfl

theorem textBetween_failsReading (content : Text) (start stop : Nat) :
    FailsReading (textBetween content start stop) := by
  unfold textBetween
  split
  · exact .ok []
  · split
    · exact .error rfl
    · split
      · exact .ok _
      · exact .error rfl
      · rename_i failure _ failed
        exact .error (offsetAt_failsReading content stop failure failed)

namespace Tree

variable {content : Text}

theorem fault_failsReading (tree : Tree) : FailsReading (tree.fault content) := by
  unfold fault
  split
  · exact .ok _
  · refine (offsetAt_failsReading content _).bind fun position => ?_
    split
    · exact .ok _
    · exact (textBetween_failsReading content _ _).bind fun stretch => .ok _

theorem pieceValues_failsReading (children : List Tree) :
    FailsReading (pieceValues content children) := by
  induction children with
  | nil => exact .ok []
  | cons child later inductionHypothesis =>
    refine FailsOnly.bind ?_ fun piece => FailsOnly.bind ?_ fun value =>
      inductionHypothesis.bind fun _ => .ok _
    · exact (textBetween_failsReading content _ _).bind fun written => .ok _
    · cases piece with
      | none => exact .ok []
      | some piece => exact piece.decode_failsReading

theorem literalValue_failsReading (tree : Tree) : FailsReading (tree.literalValue content) :=
  (pieceValues_failsReading tree.namedChildren).bind fun _ => .ok _

theorem extent_failsReading (tree : Tree) : FailsReading (tree.extent content) :=
  (offsetAt_failsReading content _).bind fun _ =>
    (offsetAt_failsReading content _).bind fun _ => .ok _

theorem identifier_failsReading (tree : Tree) : FailsReading (tree.identifier content) := by
  unfold identifier
  dsimp only
  split
  · exact tree.literalValue_failsReading.bind fun _ =>
      tree.extent_failsReading.bind fun _ => .ok _
  · exact (textBetween_failsReading content _ _).bind fun _ =>
      tree.extent_failsReading.bind fun _ => .ok _

theorem specifier_failsReading (site : Site) : FailsReading (site.specifier content) := by
  cases site with
  | default name | star name => exact name.identifier_failsReading.map
  | named entry =>
    rw [Site.specifier, namedSpecifier]
    split
    · exact .error rfl
    · rename_i name _
      refine name.identifier_failsReading.bind fun imported => ?_
      split
      · exact .ok _
      · rename_i renamed _
        exact renamed.identifier_failsReading.bind fun binding => .ok _

theorem statement_failsReading (tree : Tree) : FailsReading (tree.statement content) := by
  rw [statement]
  split
  · refine Node.ofImport_failsReading tree.extent_failsReading ?_ ?_
    · rw [specifiers_eq]
      exact .mapM specifier_failsReading tree.sites
    · rw [source]
      split
      · exact .ok none
      · rename_i literal _
        exact literal.literalValue_failsReading.map
  · exact tree.extent_failsReading.bind fun stretch => .ok _

theorem node?_failsReading (tree : Tree) : FailsReading (tree.node? content) := by
  rw [node?]
  split
  · exact tree.fault_failsReading.bind fun fault => .error rfl
  · split
    · exact .ok none
    · rename_i first _
      exact first.statement_failsReading.map

end Tree

theorem FailsAt.failsReading {Result : Type} {number? : Option Nat}
    {outcome : Except Failure Result} (at_ : FailsAt number? outcome) : FailsReading outcome := by
  cases found : number? with
  | none =>
    obtain ⟨result, rfl⟩ := at_.succeeds found
    exact .ok result
  | some number =>
    rw [at_.fails number found, Failure.ofNumber]
    refine .error ?_
    split <;> rfl

theorem Declaration.node_failsReading (declaration : Declaration) :
    FailsReading (declaration.node 0) := by
  refine Node.ofImport_failsReading (.ok _) (declaration.specifiers_failsAt 0).failsReading
    (FailsOnly.map ?_)
  exact (FailsOnly.mapM Piece.decode_failsReading _).bind fun _ => .ok _

/-- Whatever keeps a statement from being read, it is a failure of reading. -/
theorem readStatement_failsReading (recordings : List Recording) (dialect : Dialect)
    (content : Text) : FailsReading (readStatement recordings dialect content) := by
  rw [readStatement]
  split
  · exact .error rfl
  · split
    · rename_i tree _
      exact tree.node?_failsReading
    · split
      · exact .error rfl
      · rename_i program _
        rw [Program.node?]
        split
        · exact .ok none
        · rename_i declaration _ _
          exact declaration.node_failsReading.map

/-! ### Refusals with a position -/

namespace Statement

/-- A text that is refused with a position has a fault there in its normal form. -/
theorem exists_fault_of_position {recordings : List Recording} {dialect : Dialect} {given : Text}
    {refusal : Refusal} {position : Int}
    (refused : ofText recordings given dialect = .error (.refused refusal))
    (placed : refusal.position = some position) :
    ∃ fault, refusal = ⟨.text given, .illFormed fault (normalForm given)⟩ ∧
      position = (fault.position : Int) := by
  have unread := readStatement_failsReading recordings dialect (normalForm given)
  unfold ofText at refused
  dsimp only at refused
  split at refused
  · rename_i fault _
    cases refused
    exact ⟨fault, rfl, (Option.some.inj placed).symm⟩
  · rename_i failure _ failed
    cases refused
    cases unread _ failed
  · rename_i read _
    unfold ofNode at refused
    split at refused
    · cases refused
      cases placed
    · split at refused
      · cases refused
        cases placed
      · split at refused
        · cases refused
        · cases refused
          cases placed

/-- Building from a text fails by refusing it, or where it is read. -/
theorem ofText_failsOnly (recordings : List Recording) (given : Text) (dialect : Dialect) :
    FailsOnly (fun failure => failure.isOfReading = true ∨ ∃ refusal, failure = .refused refusal)
      (ofText recordings given dialect) := by
  have unread := readStatement_failsReading recordings dialect (normalForm given)
  unfold ofText
  dsimp only
  split
  · exact .error (Or.inr ⟨_, rfl⟩)
  · rename_i failure _ failed
    exact .error (Or.inl (unread failure failed))
  · rename_i read _
    cases ofNode given (normalForm given) dialect read with
    | error reason => exact .error (Or.inr ⟨_, rfl⟩)
    | ok statement => exact .ok statement

/-- A text whose normal form has a fault is refused for it. -/
theorem ofValue_of_illFormed {language content : Text} {dialect : Dialect} {fault : SyntaxFault}
    (chosen : language.trim.lower = dialect.name)
    (read : readStatement [] dialect (normalForm content) = .error (.illFormed fault))
    (configured : Except Failure Text) :
    ofValue [] (.text content) (languageOf (.text language) configured) =
      .error (.refused ⟨.text content, .illFormed fault (normalForm content)⟩) := by
  rw [languageOf_of_chosen chosen, ofValue_text]
  exact ofText_of_illFormed read

end Statement

end ImportBinding
