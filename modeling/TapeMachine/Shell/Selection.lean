import TapeMachine.Text.Blank
import TapeMachine.Shell.Pattern
import TapeMachine.Journal.Event

/-! Which events are shown. Directives set the most talkative level for targets by the beginning of
their names; the longest name that fits decides, and of equally long ones the latest. A pattern may be
asked for as well, which is looked for in the texts of the events. -/
namespace TapeMachine

/-- The most talkative level let through; none lets nothing through. -/
abbrev Threshold := Option Level

def Threshold.admits (t : Threshold) (level : Level) : Bool :=
  match t with
  | some most => level.rank ≤ most.rank
  | none => false

/-- Names of levels are read in either case; `off` lets nothing through. -/
def Threshold.ofName? (name : String) : Option Threshold :=
  match name.toLower with
  | "off" => some none
  | "error" => some (some .error)
  | "warn" => some (some .warn)
  | "info" => some (some .info)
  | "debug" => some (some .debug)
  | "trace" => some (some .trace)
  | _ => none

structure Directive where
  /-- The beginning of the targets meant; none means them all. -/
  scope : Option String
  threshold : Threshold
  deriving DecidableEq, Repr

namespace Directive

def covers (d : Directive) (target : String) : Bool :=
  (d.scope.getD "").toList.isPrefixOf target.toList

def length (d : Directive) : Nat :=
  (d.scope.getD "").length

/-- Of two directives that cover a target the longer decides, the later if they are equally long. -/
def prevailing (earlier : Option Directive) (later : Directive) : Option Directive :=
  match earlier with
  | some d => if later.length < d.length then some d else some later
  | none => some later

/-- A directive takes the place of an earlier one for the same scope. -/
def insert (d : Directive) (directives : List Directive) : List Directive :=
  if directives.any (·.scope == d.scope) then
    directives.map fun e => if e.scope = d.scope then d else e
  else directives ++ [d]

/-- Reads `level`, `scope`, `scope=` or `scope=level`. What cannot be read is named by the part at
fault. -/
def ofText (text : String) : Except String Directive :=
  match text.splitOn "=" with
  | [name] =>
    match Threshold.ofName? name with
    | some threshold => .ok ⟨none, threshold⟩
    | none => .ok ⟨some name, some .trace⟩
  | [scope, name] =>
    let name := trimBlanks name
    if name.isEmpty then .ok ⟨some scope, some .trace⟩
    else
      match Threshold.ofName? name with
      | some threshold => .ok ⟨some scope, threshold⟩
      | none => .error name
  | _ => .error text

end Directive

structure Selection where
  directives : List Directive
  /-- What must occur in the text of a shown event. -/
  wanted : Option Pattern := none
  deriving Repr

namespace Selection

def uniform (threshold : Threshold) : Selection where
  directives := [⟨none, threshold⟩]

def threshold (s : Selection) (target : String) : Threshold :=
  match (s.directives.filter (·.covers target)).foldl Directive.prevailing none with
  | some d => d.threshold
  | none => none

def shows (s : Selection) (e : Event) : Bool :=
  (s.threshold Event.target).admits e.level &&
    match s.wanted with
    | some pattern => pattern.occursIn e.text
    | none => true

def complaint (part : String) : String :=
  s!"invalid logging spec '{part}'"

/-- Takes over the directives that can be read, in their order, and complains of the others. -/
def takeDirectives (s : Selection) (text : String) : Selection × List String :=
  let parts := ((text.splitOn ",").map trimBlanks).filter (!·.isEmpty)
  parts.foldl (fun (s, complaints) part =>
    match Directive.ofText part with
    | .ok d => ({ s with directives := d.insert s.directives }, complaints)
    | .error fault => (s, complaints ++ [complaint fault])) (s, [])

/-- Asks for a pattern; one that is refused is complained of and not asked for. -/
def want (s : Selection) (text : String) : Selection × List String :=
  match Pattern.ofText text with
  | .ok pattern => ({ s with wanted := some pattern }, [])
  | .error refusal => (s, ["invalid regex filter - " ++ refusal.message text])

/-- Follows a specification, `directive,directive,…/pattern`, as far as it can be read. -/
def follow (s : Selection) (specification : String) : Selection × List String :=
  match specification.splitOn "/" with
  | [directives] => s.takeDirectives directives
  | [directives, pattern] =>
    let (s, complaints) := s.takeDirectives directives
    let (s, more) := s.want pattern
    (s, complaints ++ more)
  | _ => (s, [complaint specification ++ " (too many '/'s)"])

end Selection

end TapeMachine
