import NodeCall.Text.Percent

/-!
# Form encoding

Names and values joined to one text: `&` between the pairs, `=` between name and value, `+` for a
space, and every byte that is no letter, digit or one of `*-._` escaped.  A reader takes a pair
without `=` for a name with an empty value, and passes over empty pairs.
-/

namespace NodeCall.Text.Form

def isPlain (c : Char) : Bool :=
  c.isAlphanum || c = '*' || c = '-' || c = '.' || c = '_'

def encodeChar (c : Char) : List Char :=
  if c = ' ' then ['+'] else Percent.encodeChar (fun c => !isPlain c) c

def encode (s : List Char) : List Char := s.flatMap encodeChar

def decode (s : List Char) : List Char :=
  Utf8.decode (Percent.decode (s.map fun c => if c = '+' then ' ' else c))

def splitOn (separator : Char) : List Char → List (List Char)
  | [] => [[]]
  | c :: rest =>
    if c = separator then [] :: splitOn separator rest
    else
      match splitOn separator rest with
      | [] => [[c]]
      | part :: parts => (c :: part) :: parts

abbrev Pair := List Char × List Char

def pairOf (part : List Char) : Pair :=
  (decode (part.takeWhile (· ≠ '=')), decode ((part.dropWhile (· ≠ '=')).drop 1))

def parse (s : List Char) : List Pair :=
  ((splitOn '&' s).filter fun part => !part.isEmpty).map pairOf

def pairText (pair : Pair) : List Char := encode pair.1 ++ '=' :: encode pair.2

def serialize : List Pair → List Char
  | [] => []
  | [pair] => pairText pair
  | pair :: rest => pairText pair ++ '&' :: serialize rest

end NodeCall.Text.Form
