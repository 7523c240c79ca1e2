import ThinClient.Text.LetterTables

/-!
# Lower-casing

The full lower-casing of Unicode, without the rules of a particular language. Each character
goes to its partner on its own, with two exceptions: the dotted capital I becomes two characters,
and a capital sigma at the end of a word becomes the final sigma.

* `LowerCase.text` is the lower-cased text.
* `LowerCase.endsWord` says when a sigma is final: a cased letter stands before it and none after
  it, where characters that do not count are skipped on both sides.
-/

namespace ThinClient.LowerCase

open Letters

/-- Whether a code point lies in one of the ranges. -/
def inRanges (ranges : List (Nat × Nat)) (n : Nat) : Bool :=
  ranges.any fun r => r.1 ≤ n && n ≤ r.2

/-- Whether a character is cased. -/
def isCased (c : Char) : Bool :=
  inRanges casedRanges c.toNat

/-- Whether a character is skipped when the end of a word is looked for. -/
def isIgnorable (c : Char) : Bool :=
  inRanges ignorableRanges c.toNat

/-- The lower-case partner of a character, or the character itself if it has none. -/
def partner (c : Char) : Char :=
  match lowerRuns.find? fun r => r.covers c.toNat with
  | some r => Char.ofNat (c.toNat + r.up - r.down)
  | none => c

/-- Whether the first character that counts is cased. -/
def meetsCased (cs : List Char) : Bool :=
  match cs.dropWhile isIgnorable with
  | [] => false
  | c :: _ => isCased c

/-- Whether a place between two characters is the end of a word. The characters before it are
given backwards. -/
def endsWord (before after : List Char) : Bool :=
  meetsCased before && !meetsCased after

/-- The lower-cased form of characters that follow others, which are given backwards. -/
def chars (before : List Char) : List Char → List Char
  | [] => []
  | c :: rest =>
    let lowered :=
      if c = '\u03a3' then
        if endsWord before rest then ['\u03c2'] else ['\u03c3']
      else if c = '\u0130' then ['i', '\u0307']
      else [partner c]
    lowered ++ chars (c :: before) rest

/-- The lower-cased text. -/
def text (s : String) : String :=
  String.ofList (chars [] s.toList)

end ThinClient.LowerCase
