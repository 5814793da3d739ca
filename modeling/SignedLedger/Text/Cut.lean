-- Cutting text at marks. All functions work on characters, so that what they
-- keep and what they drop can be compared with list append.
namespace SignedLedger.Text

-- The part before the last occurrence of a mark and the part after it.
-- The mark is not empty and does not overlap itself.
def cutLast? (mark : List Char) : List Char → Option (List Char × List Char)
  | [] => none
  | c :: rest =>
    match cutLast? mark rest with
    | some (before, after) => some (c :: before, after)
    | none =>
      if mark.isPrefixOf (c :: rest) then some ([], (c :: rest).drop mark.length) else none

def pieces (mark : Char) : List Char → List (List Char)
  | [] => [[]]
  | c :: rest =>
    if c = mark then [] :: pieces mark rest
    else match pieces mark rest with
      | [] => [[c]]
      | first :: others => (c :: first) :: others

def dropEnding? (ending text : List Char) : Option (List Char) :=
  if ending.isSuffixOf text then some (text.take (text.length - ending.length)) else none

end SignedLedger.Text
