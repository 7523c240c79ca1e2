/-!
# Splitting text

Addresses and lists in texts are taken apart at separators, on lists of characters.
-/

namespace ThinClient.Split

/-- What stands before and after the first separator, if there is one. -/
def atFirst (separator : Char) : List Char → Option (List Char × List Char)
  | [] => none
  | c :: rest =>
    if c = separator then some ([], rest)
    else (atFirst separator rest).map fun parts => (c :: parts.1, parts.2)

/-- What stands before and after the last separator, if there is one. -/
def atLast (separator : Char) : List Char → Option (List Char × List Char)
  | [] => none
  | c :: rest =>
    match atLast separator rest with
    | some (before, after) => some (c :: before, after)
    | none => if c = separator then some ([], rest) else none

/-- What stands before and after the first place where a word stands, if there is one. -/
def atWord (word : List Char) : List Char → Option (List Char × List Char)
  | [] => if word.isEmpty then some ([], []) else none
  | c :: rest =>
    if word.isPrefixOf (c :: rest) then some ([], (c :: rest).drop word.length)
    else (atWord word rest).map fun parts => (c :: parts.1, parts.2)

/-- The pieces between all separators, one more than there are separators. -/
def all (separator : Char) : List Char → List (List Char)
  | [] => [[]]
  | c :: rest =>
    if c = separator then [] :: all separator rest
    else
      match all separator rest with
      | [] => [[c]]
      | piece :: pieces => (c :: piece) :: pieces

/-- A text without some character at its end. -/
def trimEnd (unwanted : Char) (cs : List Char) : List Char :=
  (cs.reverse.dropWhile (· = unwanted)).reverse

end ThinClient.Split
