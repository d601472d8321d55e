import TapeMachine.Text.CodePoint

/-! The blank characters: the twenty-five code points with the Unicode property `White_Space`. They
separate instructions and mean nothing themselves. -/
namespace TapeMachine

def blankIntervals : List CodePoint.Interval :=
  [(0x09, 0x0D), (0x20, 0x20), (0x85, 0x85), (0xA0, 0xA0), (0x1680, 0x1680), (0x2000, 0x200A),
    (0x2028, 0x2029), (0x202F, 0x202F), (0x205F, 0x205F), (0x3000, 0x3000)]

def isBlank (c : Char) : Bool :=
  CodePoint.memberOf blankIntervals c

/-- The text without the blanks at its ends. -/
def trimBlanks (text : String) : String :=
  let fromStart := text.toList.dropWhile isBlank
  String.ofList (fromStart.reverse.dropWhile isBlank).reverse

end TapeMachine
