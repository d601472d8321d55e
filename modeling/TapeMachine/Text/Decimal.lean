/-! Decimal numbers as they are typed: a sign that may be left out, then one or more digits and nothing
else. Leading zeros are allowed and no bound is put on the value. -/
namespace TapeMachine.Decimal

def digit? (c : Char) : Option Nat :=
  if '0' ≤ c ∧ c ≤ '9' then some (c.toNat - '0'.toNat) else none

/-- The value of the digits behind those already worth `above`. -/
def digitsAfter (above : Nat) : List Char → Option Nat
  | [] => some above
  | c :: rest => do
    let d ← digit? c
    digitsAfter (10 * above + d) rest

def digits? (text : List Char) : Option Nat :=
  if text.isEmpty then none else digitsAfter 0 text

/-- A plus sign may stand in front. -/
def natural? (text : String) : Option Nat :=
  match text.toList with
  | '+' :: rest => digits? rest
  | unsigned => digits? unsigned

/-- A sign of either kind may stand in front. -/
def integer? (text : String) : Option Int :=
  match text.toList with
  | '+' :: rest => (digits? rest).map fun (n : Nat) => (n : Int)
  | '-' :: rest => (digits? rest).map fun (n : Nat) => -(n : Int)
  | unsigned => (digits? unsigned).map fun (n : Nat) => (n : Int)

end TapeMachine.Decimal
