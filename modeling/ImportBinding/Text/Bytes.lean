/-
This file says how a text stands for bytes that need not be UTF-8.

The bytes of a code point are its UTF-8 encoding. A byte that belongs to no code point is kept as
a stray byte, which is a surrogate whose low half is the byte. So every list of bytes is that of
a text, while a text has bytes only if all of its surrogates are stray bytes.
-/

import ImportBinding.Text.Units

namespace ImportBinding

namespace CodePoint

/-- A surrogate that stands for a byte from `0x80` on. -/
def isStrayByte (point : CodePoint) : Bool :=
  0xDC80 ≤ point.toNat && point.toNat ≤ 0xDCFF

/-- The stray byte of a byte, and the code point of a byte below `0x80`. -/
def ofByte (byte : Nat) : CodePoint :=
  if byte < 0x80 then ⟨byte % 0x80, by omega⟩ else ⟨0xDC00 + byte % 0x100, by omega⟩

/-- The bytes that a code point stands for. -/
def bytes (point : CodePoint) : List Nat :=
  if point.isStrayByte then [point.toNat - 0xDC00] else point.utf8

end CodePoint

namespace Text

/-- The first run of surrogates, from the first of them that is not excepted on: that surrogate,
where it stands and where the run ends. -/
def surrogates? (isExcepted : CodePoint → Bool) (content : Text) :
    Option (CodePoint × Nat × Nat) :=
  match content.dropWhile fun point => !point.isSurrogate || isExcepted point with
  | [] => none
  | first :: rest =>
    let start := content.length - (rest.length + 1)
    some (first, start, start + 1 + (rest.takeWhile CodePoint.isSurrogate).length)

/-- The bytes that a text stands for. -/
def bytes (content : Text) : List Nat := content.flatMap CodePoint.bytes

/-- The number that the bytes of a code point carry: the bits of the first byte behind those that
give the number of bytes, and six bits of each other byte. -/
def payload : List Nat → Nat
  | [] => 0
  | first :: later =>
    let bits := match later.length with
      | 0 => 0x80
      | 1 => 0x20
      | 2 => 0x10
      | _ => 0x08
    later.foldl (fun number byte => number * 0x40 + byte % 0x40) (first % bits)

/-- The code point that all of some bytes encode, if they encode one that is no surrogate. -/
def decodePoint? (bytes : List Nat) : Option CodePoint :=
  (CodePoint.ofNat? (payload bytes)).filter fun point =>
    point.utf8 = bytes && !point.isSurrogate

/-- The text that some bytes stand for. -/
def ofBytes (bytes : List Nat) : Text :=
  match bytes with
  | [] => []
  | first :: rest =>
    match [1, 2, 3, 4].findSome? fun size => decodePoint? ((first :: rest).take size) with
    | some point => point :: ofBytes (rest.drop (point.utf8.length - 1))
    | none => CodePoint.ofByte first :: ofBytes rest
termination_by bytes.length
decreasing_by
  · simp only [List.length_drop, List.length_cons]
    omega
  · simp

end Text

end ImportBinding
