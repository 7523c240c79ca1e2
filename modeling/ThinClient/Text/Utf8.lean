import ThinClient.Bytes.LittleEndian

/-!
# UTF-8 with error positions

Text is carried as UTF-8. Reading accepts exactly the well-formed sequences (no overlong forms, no
surrogates, nothing above U+10FFFF) and says about any other input where its first flaw starts and
how many octets it spans: the longest beginning that some well-formed sequence also has, or a
single octet where no sequence starts like that.

* `Utf8.encode` is the sequence of a text.
* `Utf8.decode` is its inverse, or the first flaw.
-/

namespace ThinClient

/-- The first flaw of an octet string that is not UTF-8. -/
structure Utf8Error where
  /-- How many octets before the flaw are well formed. -/
  validUpTo : Nat
  /-- How many octets the flaw spans, or `none` if the input ends inside a sequence. -/
  errorLength : Option Nat
  deriving DecidableEq, Repr

namespace Utf8Error

/-- The flaw in words. -/
def message (e : Utf8Error) : String :=
  match e.errorLength with
  | some n =>
    "invalid utf-8 sequence of " ++ toString n ++ " bytes from index " ++ toString e.validUpTo
  | none => "incomplete utf-8 byte sequence from index " ++ toString e.validUpTo

end Utf8Error

namespace Utf8

/-- The UTF-8 form of a list of characters. -/
def encodeChars (cs : List Char) : Bytes :=
  cs.flatMap String.utf8EncodeChar

/-- The UTF-8 form of a text. -/
def encode (s : String) : Bytes :=
  encodeChars s.toList

/-- How many octets the sequence that starts with this octet has, or `none` if none starts so. -/
def sequenceLength (lead : UInt8) : Option Nat :=
  if lead < 0x80 then some 1
  else if lead < 0xc2 then none
  else if lead < 0xe0 then some 2
  else if lead < 0xf0 then some 3
  else if lead < 0xf5 then some 4
  else none

/-- Whether an octet continues a sequence. -/
def isContinuation (b : UInt8) : Bool :=
  0x80 ≤ b && b < 0xc0

/-- Whether an octet may follow a lead octet: the ranges leave out overlong forms, surrogates and
numbers above U+10FFFF. -/
def isSecond (lead b : UInt8) : Bool :=
  if lead = 0xe0 then 0xa0 ≤ b && b < 0xc0
  else if lead = 0xed then 0x80 ≤ b && b < 0xa0
  else if lead = 0xf0 then 0x90 ≤ b && b < 0xc0
  else if lead = 0xf4 then 0x80 ≤ b && b < 0x90
  else isContinuation b

/-- The six payload bits of a continuation octet. -/
def payload (b : UInt8) : Nat :=
  b.toNat % 64

/-- The characters of an octet string that starts at the given position, or its first flaw. -/
def decodeFrom (start : Nat) : Bytes → Except Utf8Error (List Char)
  | [] => .ok []
  | a :: rest =>
    match sequenceLength a with
    | some 1 => (decodeFrom (start + 1) rest).map (Char.ofNat a.toNat :: ·)
    | some 2 =>
      match rest with
      | [] => .error ⟨start, none⟩
      | b :: rest =>
        if isSecond a b then
          (decodeFrom (start + 2) rest).map (Char.ofNat (a.toNat % 32 * 64 + payload b) :: ·)
        else .error ⟨start, some 1⟩
    | some 3 =>
      match rest with
      | [] => .error ⟨start, none⟩
      | b :: rest =>
        if isSecond a b then
          match rest with
          | [] => .error ⟨start, none⟩
          | c :: rest =>
            if isContinuation c then
              (decodeFrom (start + 3) rest).map
                (Char.ofNat ((a.toNat % 16 * 64 + payload b) * 64 + payload c) :: ·)
            else .error ⟨start, some 2⟩
        else .error ⟨start, some 1⟩
    | some _ =>
      match rest with
      | [] => .error ⟨start, none⟩
      | b :: rest =>
        if isSecond a b then
          match rest with
          | [] => .error ⟨start, none⟩
          | c :: rest =>
            if isContinuation c then
              match rest with
              | [] => .error ⟨start, none⟩
              | d :: rest =>
                if isContinuation d then
                  (decodeFrom (start + 4) rest).map
                    (Char.ofNat
                      (((a.toNat % 8 * 64 + payload b) * 64 + payload c) * 64 + payload d) :: ·)
                else .error ⟨start, some 3⟩
            else .error ⟨start, some 2⟩
        else .error ⟨start, some 1⟩
    | none => .error ⟨start, some 1⟩

/-- The text of an octet string, or its first flaw. -/
def decode (bs : Bytes) : Except Utf8Error String :=
  (decodeFrom 0 bs).map String.ofList

end Utf8

end ThinClient
