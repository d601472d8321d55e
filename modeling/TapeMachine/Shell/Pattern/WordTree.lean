import TapeMachine.Shell.Pattern.Size

/-! A choice between words as a tree: words that begin alike share states until they part. A word that
ends where others go on parts those before it from those after it, since what comes first is tried
first. -/
namespace TapeMachine.Pattern

abbrev Word := List UInt8

namespace WordTree

def parted : List Word → List (List Word)
  | [] => [[]]
  | [] :: rest => [] :: parted rest
  | word :: rest =>
    match parted rest with
    | group :: groups => (word :: group) :: groups
    | [] => [[word]]

def after (byte : UInt8) (words : List Word) : List Word :=
  words.filterMap fun
    | [] => none
    | b :: rest => if b = byte then some rest else none

def firstBytes (words : List Word) : List UInt8 :=
  (words.filterMap List.head?).eraseDups

/-- The words without those that end here in front of all others, except for one. -/
def endingOnce : List Word → List Word
  | [] :: [] :: rest => endingOnce ([] :: rest)
  | words => words

/-- The size of what leads on through the words, which are at most so long. Each group has a state with
its bytes, and a state before them leads to all groups and to the ends between them. Where all words
have ended, nothing leads on. -/
def sizeWithin : Nat → List Word → Size
  | 0, _ => {}
  | length + 1, words =>
    if words.all List.isEmpty then {}
    else
      let groups := parted (endingOnce words)
      let inner := groups.filter (!·.isEmpty)
      let branching := Size.state (freeWaySize * (inner.length + (groups.length - 1)))
      let sizes := inner.map fun group =>
        let bytes := firstBytes group
        let here := Size.state (if bytes.length = 1 then 0 else byteWaySize * bytes.length)
        here + Size.sum (bytes.map fun b => sizeWithin length (after b group))
      branching + Size.sum sizes

/-- The size of the tree of some words, with the state where all of them end. -/
def size (words : List Word) : Size :=
  .state 0 + sizeWithin ((words.map List.length).foldl max 0) words

end WordTree

end TapeMachine.Pattern
