import TapeMachine.Proofs.ReadingLoop

/-! A program that writes each character as soon as it has read it. It copies its input as far as the
cells can hold it, up to the first character that a cell keeps as zero; if there is none it fails for want
of input, with all of the copy pending. -/
namespace TapeMachine

open Machine Store

section Echo

variable {settings : Settings} {input : String} {m : Machine}

end Echo

end TapeMachine
