/-
This file cuts a text into tokens.

A token keeps the layout in front of it, so that the tokens and the layout after the last one
spell the text again. A token does not know where it stands: its place follows from the tokens
before it, and changing a token leaves the others as they are.
-/

import ImportBinding.Literal

namespace ImportBinding

/-! ### Tokens -/

/-- The kinds of tokens. -/
inductive TokenKind where
  | openBrace
  | closeBrace
  | comma
  | semicolon
  | star
  | colon
  | name
  | literal
deriving DecidableEq

/-- A token: the layout in front of it and the text of the token itself. -/
structure Token where
  gap : Text
  kind : TokenKind
  body : Text
deriving DecidableEq

namespace Token

/-- The token as it is written, after the layout in front of it. -/
def written (token : Token) : Text := token.gap ++ token.body

/-- The code points of a token and of the layout in front of it. -/
def width (token : Token) : Nat := token.gap.length + token.body.length

/-- Whether there is a line break between a token and the one before it. Inside a comment only a
line feed is one. -/
def startsLine (token : Token) : Bool := (token.gap.units layoutSize).1.any breaksLine

/-- Whether a token is the name with that spelling. -/
def isWord (token : Token) (word : Text) : Bool := token.kind = .name && token.body = word

end Token

namespace Tokens

/-- The text of a list of tokens. -/
def written (tokens : List Token) : Text := tokens.flatMap Token.written

/-- The code points of a list of tokens. -/
def width : List Token → Nat
  | [] => 0
  | token :: later => token.width + width later

theorem length_written (tokens : List Token) : (written tokens).length = width tokens := by
  induction tokens with
  | nil => rfl
  | cons token tokens ih =>
    simp only [written, width, List.flatMap_cons, List.length_append] at *
    rw [ih, Token.written, Token.width, List.length_append]

end Tokens

/-! ### The extent of a token -/

/-- A code point that a name is made of: any but controls, white space and the marks of the
language. -/
def CodePoint.isNamePart (point : CodePoint) : Bool :=
  0x20 ≤ point.toNat && !point.isSpace &&
    !(text ":;`\"'@#.,|^&<=>+-*/\\%?!~()[]\x7b\x7d").contains point

/-- The length of the part of a name at the front of a text: a code point, or the escape sequence
of one. -/
def namePartSize : Text → Nat
  | [] => 0
  | point :: rest =>
    if point = '\\' then
      let size := unicodeEscapeSize rest
      if size = 0 then 0 else size + 1
    else if point.isNamePart then 1
    else 0

/-- The kind of a token that is a single mark. -/
def TokenKind.ofMark? (point : CodePoint) : Option TokenKind :=
  if point = '\x7b' then some .openBrace
  else if point = '\x7d' then some .closeBrace
  else if point = ',' then some .comma
  else if point = ';' then some .semicolon
  else if point = '*' then some .star
  else if point = ':' then some .colon
  else none

/-- The kind and the length of the token at the front of a text. A name does not start with a
digit. -/
def tokenSize? : Text → Option (TokenKind × Nat)
  | [] => none
  | point :: rest =>
    match TokenKind.ofMark? point with
    | some kind => some (kind, 1)
    | none =>
      if point = '\'' ∨ point = '"' then
        let (pieces, after) := Text.units (pieceSize point) rest
        if after.head? = some point then some (.literal, pieces.flatten.length + 2) else none
      else
        let size := (Text.units namePartSize (point :: rest)).1.flatten.length
        if size = 0 ∨ point.isDigit then none else some (.name, size)

/-- A token is not empty. -/
theorem tokenSize?_pos {content : Text} {kind : TokenKind} {size : Nat}
    (found : tokenSize? content = some (kind, size)) : 0 < size := by
  cases content with
  | nil => simp [tokenSize?] at found
  | cons point rest =>
    rw [tokenSize?] at found
    split at found
    · simp only [Option.some.injEq, Prod.mk.injEq] at found
      omega
    · split at found
      · simp only at found
        split at found
        · simp only [Option.some.injEq, Prod.mk.injEq] at found
          omega
        · simp at found
      · simp only at found
        split at found
        · simp at found
        · rename_i named
          simp only [Option.some.injEq, Prod.mk.injEq] at found
          omega

/-- The text at the front of which there is a token is not empty. -/
theorem ne_nil_of_tokenSize? {content : Text} {found : TokenKind × Nat}
    (sized : tokenSize? content = some found) : content ≠ [] := by
  intro empty
  rw [empty] at sized
  simp [tokenSize?] at sized

/-! ### Scanning -/

/-- The tokens of a text and the layout after the last one. Where there is no token, the answer is
what is left of the text from there. -/
def tokens (content : Text) : Except Text (List Token × Text) :=
  let layout := (content.units layoutSize).1.flatten
  let rest := (content.units layoutSize).2
  match _sized : tokenSize? rest with
  | none => if rest = [] then .ok ([], layout) else .error rest
  | some (kind, size) =>
    match tokens (rest.drop size) with
    | .ok (later, tail) => .ok (⟨layout, kind, rest.take size⟩ :: later, tail)
    | .error left => .error left
termination_by content.length
decreasing_by
  have positive := tokenSize?_pos _sized
  have nonempty : (content.units layoutSize).2.length ≠ 0 :=
    fun none => ne_nil_of_tokenSize? _sized (List.length_eq_zero_iff.mp none)
  have shorter := Text.units_length_le layoutSize content
  simp only [List.length_drop]
  omega

/-- The tokens of a program text. The code point zero stands nowhere in a program. -/
def scan (content : Text) : Except Text (List Token × Text) :=
  match content.dropWhile fun point => point.toNat ≠ 0 with
  | [] => tokens content
  | stray => .error stray

end ImportBinding
