import XsdDerivation.Text.Alphanumeric
import XsdDerivation.Text.LetterCase

/-!
# Camel case

A text is cut into words at everything that is not a letter or a number, and within such a
piece where its letters change case: after a lowercase run that an uppercase letter follows,
and before the last letter of an uppercase run that a lowercase letter follows. The camel-case
form joins the words, each with a capital first and small letters after it.
-/

namespace XsdDerivation.Text

/-- The case of the last cased letter of a word that is being read. -/
inductive LastCase where
  /-- No cased letter has been read yet. -/
  | none
  /-- The last cased letter is lowercase. -/
  | lower
  /-- The last cased letter is uppercase. -/
  | upper
  deriving DecidableEq, Repr

/-- The last case once `c` has been read too. -/
def LastCase.after (last : LastCase) (c : Char) : LastCase :=
  if isLowercase c then .lower
  else if isUppercase c then .upper
  else last

/-- The stretches of letters and numbers, some of them empty, between the other characters. -/
def pieces : List Char → List (List Char)
  | [] => [[]]
  | c :: rest =>
    if isAlphanumeric c then
      match pieces rest with
      | [] => [[c]]
      | piece :: others => (c :: piece) :: others
    else [] :: pieces rest

/-- The words of a piece. `last` and `word` describe the word that is being read, `word` in
reverse order. -/
def splitHumps (last : LastCase) (word : List Char) : List Char → List (List Char)
  | [] => []
  | [c] => [(c :: word).reverse]
  | c :: next :: rest =>
    if last.after c = .lower ∧ isUppercase next then
      (c :: word).reverse :: splitHumps .none [] (next :: rest)
    else if last = .upper ∧ isUppercase c ∧ isLowercase next then
      word.reverse :: splitHumps .none [c] (next :: rest)
    else
      splitHumps (last.after c) (c :: word) (next :: rest)

/-- The words of a text, in order. -/
def words (s : List Char) : List (List Char) :=
  (pieces s).flatMap (splitHumps .none [])

/-- The letters of a word after its first one, in lowercase. A sigma that ends the word takes
its final form. -/
def lowercaseTail : List Char → List Char
  | [] => []
  | c :: rest =>
    if c = 'Σ' ∧ rest = [] then ['ς'] else lowercase c ++ lowercaseTail rest

/-- A word with its first letter in uppercase and the others in lowercase. -/
def capitalize : List Char → List Char
  | [] => []
  | c :: rest => uppercase c ++ lowercaseTail rest

/-- The words of a text, capitalized and joined. -/
def camelCase (s : List Char) : List Char :=
  (words s).flatMap capitalize

end XsdDerivation.Text
