/-!
# Texts in parts

A text is split at every separator, or cut once at the first one.
-/

namespace WalletEvents

/-- The parts between the separators; there is one more part than separators. -/
def splitAll (separator : Char) : List Char → List (List Char)
  | [] => [[]]
  | c :: rest =>
    if c = separator then [] :: splitAll separator rest
    else
      match splitAll separator rest with
      | first :: others => (c :: first) :: others
      | [] => [[c]]

/-- What stands before the first separator and what stands after it. -/
def cutFirst? (separator : Char) : List Char → Option (List Char × List Char)
  | [] => none
  | c :: rest =>
    if c = separator then some ([], rest)
    else (cutFirst? separator rest).map fun (before, after) => (c :: before, after)

/-- The characters before the first separator, or all of them. -/
def upTo (separator : Char) (text : List Char) : List Char := text.takeWhile (· != separator)

end WalletEvents
