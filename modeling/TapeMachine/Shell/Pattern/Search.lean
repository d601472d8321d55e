import TapeMachine.Shell.Pattern.Expression

/-! Looking for an expression in a text. The places of a text, before each character and at the end, are
marked, and an expression carries marks from where it begins to where it can end; it occurs in the text
if it carries some mark anywhere when all places are marked. -/
namespace TapeMachine.Pattern

structure Gap where
  before : Option Char
  after : Option Char
  deriving DecidableEq, Repr

def gapsAfter (before : Option Char) : List Char → List Gap
  | [] => [⟨before, none⟩]
  | c :: rest => ⟨before, some c⟩ :: gapsAfter (some c) rest

/-- There is one place more than there are characters. -/
theorem length_gapsAfter (before : Option Char) (text : List Char) :
    (gapsAfter before text).length = text.length + 1 := by
  induction text generalizing before with
  | nil => rfl
  | cons c rest ih => simp [gapsAfter, ih]

def isWordCharacter (c : Option Char) : Bool :=
  c.any ClassName.word.charset.contains

def Boundary.holds (b : Boundary) (g : Gap) : Bool :=
  let before := isWordCharacter g.before
  let after := isWordCharacter g.after
  match b with
  | boundary => before != after
  | noBoundary => before == after
  | wordStart => !before && after
  | wordEnd => before && !after
  | wordStartHalf => !before
  | wordEndHalf => !after

/-- A carriage return and a line feed end a line together. Letters of other scripts are not known to be
parts of words. -/
def Look.holds (l : Look) (g : Gap) : Bool :=
  match l with
  | textStart => g.before.isNone
  | textEnd => g.after.isNone
  | lineStart returns =>
    g.before.isNone || g.before = some '\n' ||
      returns && g.before = some '\r' && g.after != some '\n'
  | lineEnd returns =>
    if returns then
      g.after.isNone || g.after = some '\r' || g.after = some '\n' && g.before != some '\r'
    else g.after.isNone || g.after = some '\n'
  | word _ b => b.holds g

abbrev Marks := List Bool

namespace Marks

def any (m : Marks) : Bool :=
  List.any m id

def union (m n : Marks) : Marks :=
  List.zipWith (· || ·) m n

def without (m n : Marks) : Marks :=
  List.zipWith (fun a b => a && !b) m n

def keep (m : Marks) (holds : Gap → Bool) (gaps : List Gap) : Marks :=
  List.zipWith (fun a g => a && holds g) m gaps

/-- Every mark goes across the character after it, if that is in the set. -/
def across (m : Marks) (set : Charset) (gaps : List Gap) : Marks :=
  false :: (m.keep (fun g => g.after.any set.contains) gaps).dropLast

theorem length_across (m : Marks) (set : Charset) (gaps : List Gap)
    (same : m.length = gaps.length) (positive : 0 < gaps.length) :
    (m.across set gaps).length = m.length := by
  simp only [across, keep, List.length_cons, List.length_dropLast, List.length_zipWith]
  omega

/-- Every mark goes across a text, if that is what follows it. -/
def acrossText (m : Marks) (chars : List Char) (gaps : List Gap) : Marks :=
  chars.foldl (fun m c => m.across (.single c) gaps) m

/-- So many turns, fewer if no mark is left. -/
def turns (turn : Marks → Marks) : Nat → Marks → Marks
  | 0, m => m
  | count + 1, m => if m.any then turns turn count (turn m) else m

/-- All that is marked after at most so many turns: `reached` are the marks so far, and `latest` those
of them that no turn began with yet. -/
def reach (turn : Marks → Marks) : Nat → Marks → Marks → Marks
  | 0, reached, _ => reached
  | count + 1, reached, latest =>
    let found := (turn latest).without reached
    if found.any then reach turn count (reached.union found) found else reached

/-- From `min` to `max` turns. Marks never go back, so that as many turns as there are places reach
whatever more of them would reach. -/
def repeated (turn : Marks → Marks) (min : Nat) (max : Option Nat) (m : Marks) : Marks :=
  let places := m.length
  let first := turns turn (Nat.min min places) m
  let more := (max.map (· - min)).getD places
  reach turn (Nat.min more places) first first

end Marks

namespace Expression

mutual

/-- Where the expression can end if it begins at a mark. -/
def ends (gaps : List Gap) : Expression → Marks → Marks
  | nothing, m => m
  | literal chars, m => m.acrossText chars gaps
  | oneOf _ set, m => m.across set gaps
  | look l, m => m.keep l.holds gaps
  | times min max _ body, m => Marks.repeated (body.ends gaps) min max m
  | captured body, m => body.ends gaps m
  | sequence parts, m => endsOfSequence gaps parts m
  | choice branches, m => endsOfChoice gaps branches m

def endsOfSequence (gaps : List Gap) : List Expression → Marks → Marks
  | [], m => m
  | e :: es, m => endsOfSequence gaps es (e.ends gaps m)

def endsOfChoice (gaps : List Gap) : List Expression → Marks → Marks
  | [], m => m.map fun _ => false
  | e :: es, m => (e.ends gaps m).union (endsOfChoice gaps es m)

end

def occursIn (e : Expression) (text : String) : Bool :=
  let gaps := gapsAfter none text.toList
  (e.ends gaps (gaps.map fun _ => true)).any

end Expression

end TapeMachine.Pattern
