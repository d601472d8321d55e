/-! Cells of one to thirty-two bits in machine words. Counting wraps by comparison at the ends of the
range and filling reduces a signed word. For widths up to thirty-two both come to arithmetic modulo a
power of two; that the width is such is for whoever makes the cell. -/
namespace TapeMachine

structure Cell where
  width : Nat
  value : UInt32
  deriving DecidableEq, Repr

/-- The remainder with the sign of the modulus, which is positive. -/
def euclideanRemainder (value modulus : Int64) : Int64 :=
  let remainder := value % modulus
  if remainder < 0 then remainder + modulus else remainder

namespace Cell

def blank (width : Nat) : Cell :=
  ⟨width, 0⟩

/-- The largest value of the width. -/
def top (c : Cell) : UInt32 :=
  ((1 : UInt64) <<< UInt64.ofNat c.width - 1).toUInt32

def increment (c : Cell) : Cell :=
  { c with value := if c.value = c.top then 0 else c.value + 1 }

def decrement (c : Cell) : Cell :=
  { c with value := if c.value = 0 then c.top else c.value - 1 }

def fill (c : Cell) (value : Int64) : Cell :=
  { c with value :=
      (euclideanRemainder value ((1 : Int64) <<< Int64.ofNat c.width)).toUInt64.toUInt32 }

/-- The code of a character fills the cell. -/
def receive (c : Cell) (char : Char) : Cell :=
  c.fill (Int64.ofNat char.toNat)

/-- The character with the cell's value as its code; a value that is no character's code shows as
U+FFFD. -/
def char (c : Cell) : Char :=
  if valid : c.value.isValidChar then ⟨c.value, valid⟩ else '\uFFFD'

@[simp] theorem increment_width (c : Cell) : c.increment.width = c.width := rfl

@[simp] theorem decrement_width (c : Cell) : c.decrement.width = c.width := rfl

@[simp] theorem fill_width (c : Cell) (value : Int64) : (c.fill value).width = c.width := rfl

end Cell

end TapeMachine
