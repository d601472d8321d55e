import TapeMachine.Shell.Pattern.Charset

/-! The bytes that write the characters of a set, as sequences of intervals of bytes: a character is in
the set when its bytes lie, one after the other, in the intervals of one sequence. The sequences come in
ascending order, and no two hold the same bytes. -/
namespace TapeMachine.Pattern

abbrev ByteSequence := List Interval

/-- The numbers from `low` to `high` written with one digit and so many digits to the base 64 after it,
as sequences of intervals of digits. -/
def digitSequences : Nat → Nat → Nat → List ByteSequence
  | 0, low, high => [[(low, high)]]
  | following + 1, low, high =>
    let block := 64 ^ (following + 1)
    let first := low / block
    let last := high / block
    let under (digit least greatest : Nat) : List ByteSequence :=
      (digitSequences following least greatest).map ((digit, digit) :: ·)
    if first = last then under first (low % block) (high % block)
    else
      let startsWhole := low % block = 0
      let endsWhole := high % block = block - 1
      let wholeFirst := if startsWhole then first else first + 1
      let wholeEnd := if endsWhole then last + 1 else last
      let whole : List ByteSequence :=
        if wholeFirst < wholeEnd then
          [(wholeFirst, wholeEnd - 1) :: List.replicate (following + 1) (0, 63)]
        else []
      (if startsWhole then [] else under first (low % block) (block - 1)) ++ whole ++
        (if endsWhole then [] else under last 0 (high % block))

/-- The code points that are written alike: how many bytes follow the first, what is added to the first
digit to give the first byte, and the least and the greatest of them. -/
def writings : List (Nat × Nat × Nat × Nat) :=
  [(0, 0x00, 0x00, 0x7F), (1, 0xC0, 0x80, 0x7FF), (2, 0xE0, 0x800, 0xD7FF),
    (2, 0xE0, 0xE000, 0xFFFF), (3, 0xF0, 0x10000, 0x10FFFF)]

def bytesOfDigits (lead : Nat) : ByteSequence → ByteSequence
  | [] => []
  | (low, high) :: rest =>
    (low + lead, high + lead) :: rest.map fun i => (i.1 + 0x80, i.2 + 0x80)

def Charset.byteSequences (s : Charset) : List ByteSequence :=
  s.intervals.flatMap fun i =>
    writings.flatMap fun (following, lead, least, greatest) =>
      let low := max i.1 least
      let high := min i.2 greatest
      if low ≤ high then (digitSequences following low high).map (bytesOfDigits lead) else []

namespace ByteSequence

/-- The sequences by their first interval, with what follows it; equal first intervals stand side by
side. -/
def byFirst : List ByteSequence → List (Interval × List ByteSequence)
  | [] => []
  | [] :: rest => byFirst rest
  | (i :: tail) :: rest =>
    match byFirst rest with
    | (j, tails) :: groups =>
      if i = j then (j, tail :: tails) :: groups else (i, [tail]) :: (j, tails) :: groups
    | [] => [(i, [tail])]

end ByteSequence

end TapeMachine.Pattern
