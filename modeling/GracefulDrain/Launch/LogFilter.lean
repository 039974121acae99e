import GracefulDrain.Text.Alphanumeric
import GracefulDrain.Text.Blank
import GracefulDrain.Text.Split

/-! A filter is a list of directives parted by commas: a level (`info`), a target (`a::b`), or a
target with its level (`a::b=debug`). A message passes when the directive with the longest target in
front of its own allows its level. -/
namespace GracefulDrain

/-- Severities; a higher one lets more messages pass. -/
inductive LogLevel
  | off
  | error
  | warn
  | info
  | debug
  | trace
  deriving DecidableEq, Repr

namespace LogLevel

def rank : LogLevel → Nat
  | off => 0
  | error => 1
  | warn => 2
  | info => 3
  | debug => 4
  | trace => 5

def all : List LogLevel := [off, error, warn, info, debug, trace]

def name : LogLevel → String
  | off => "OFF"
  | error => "ERROR"
  | warn => "WARN"
  | info => "INFO"
  | debug => "DEBUG"
  | trace => "TRACE"

/-- A level's name in any case, or its rank. -/
def ofText? (s : String) : Option LogLevel :=
  all.find? fun l =>
    String.ofList (s.toList.map Char.toUpper) = l.name || s = toString l.rank

end LogLevel

/-- A rule of a filter; without a target it is for all messages. -/
structure LogDirective where
  target : Option String
  level : LogLevel
  /-- Only for messages inside some spans. -/
  inSpan : Bool
  deriving DecidableEq, Repr

inductive LogFault
  | malformed
  | unknownLevel
  deriving DecidableEq, Repr

def LogFault.message : LogFault → String
  | malformed => "invalid filter directive"
  | unknownLevel =>
    "error parsing level filter: expected one of \"off\", \"error\", \"warn\", \"info\", \"debug\", " ++
      "\"trace\", or a number 0-5"

namespace LogDirective

/-- The level after the equals sign; none stands for the lowest severity. -/
def readLevel (cs : List Char) : Except LogFault LogLevel :=
  if cs = [] then .ok .trace
  else
    match LogLevel.ofText? (String.ofList cs) with
    | some l => .ok l
    | none => .error .unknownLevel

/-- A level, or a target with all its messages. -/
def ofWord (cs : List Char) : LogDirective :=
  match LogLevel.ofText? (String.ofList cs) with
  | some l => ⟨none, l, false⟩
  | none => ⟨some (String.ofList cs), .trace, false⟩

/-- The end of a directive after a span's closing bracket. -/
def readAfterSpan (target : Option String) : List Char → Except LogFault LogDirective
  | [] => .ok ⟨target, .trace, true⟩
  | '=' :: level => do return ⟨target, ← readLevel level, true⟩
  | _ => .error .malformed

/-- A span's name and fields up to the closing bracket. -/
def readSpan (target : Option String) (cs : List Char) : Except LogFault LogDirective :=
  match cs.dropWhile fun c => c ≠ ']' && c ≠ '\x7b' with
  | ']' :: rest => readAfterSpan target rest
  | '\x7b' :: rest =>
    let fields := rest.takeWhile (· ≠ '\x7d')
    match rest.dropWhile (· ≠ '\x7d') with
    | '\x7d' :: ']' :: rest => if fields = [] then .error .malformed else readAfterSpan target rest
    | _ => .error .malformed
  | _ => .error .malformed

def isStart (c : Char) : Bool := c = '-' || c = ':' || c = '_' || Text.alphanumeric c

/-- Blanks in front of a directive count as part of its target. -/
def parse (cs : List Char) : Except LogFault LogDirective :=
  match Text.trimStart cs with
  | [] => .error .malformed
  | '[' :: rest => readSpan none rest
  | c :: _ =>
    if !isStart c then .error .malformed
    else
      let word := cs.takeWhile fun c => c ≠ '=' && c ≠ '['
      match cs.dropWhile fun c => c ≠ '=' && c ≠ '[' with
      | '=' :: level => do return ⟨some (String.ofList word), ← readLevel level, false⟩
      | '[' :: rest => readSpan (some (String.ofList word)) rest
      | _ => .ok (ofWord cs)

/-- How specific the directive is for a target, if it applies to it at all. -/
def weight? (d : LogDirective) (target : String) : Option Nat :=
  if d.inSpan then none
  else
    match d.target with
    | none => some 0
    | some t => if t.toList.isPrefixOf target.toList then some (t.length + 1) else none

end LogDirective

structure LogFilter where
  directives : List LogDirective
  deriving DecidableEq, Repr

namespace LogFilter

def pieces (s : String) : List (List Char) :=
  (Text.splitOn ',' s.toList).filter fun piece => !piece.isEmpty

/-- Without a directive only errors pass. -/
def ofDirectives (ds : List LogDirective) : LogFilter :=
  ⟨if ds.isEmpty then [⟨none, .error, false⟩] else ds⟩

/-- The filter, if every directive is well formed. -/
def ofText? (s : String) : Option LogFilter :=
  match (pieces s).mapM LogDirective.parse with
  | .ok ds => some (ofDirectives ds)
  | .error _ => none

/-- The filter of the well-formed directives, and a remark on each of the others. -/
def ofTextLossy (s : String) : LogFilter × List String :=
  let read := (pieces s).map fun piece => (String.ofList piece, LogDirective.parse piece)
  (ofDirectives (read.filterMap fun r => r.2.toOption),
    read.filterMap fun r =>
      match r.2 with
      | .ok _ => none
      | .error fault => some ("ignoring \x60" ++ r.1 ++ "\x60: " ++ fault.message))

/-- The directive that decides about a target: the most specific one, the last of several. -/
def decisive? (f : LogFilter) (target : String) : Option LogDirective :=
  f.directives.foldl (fun best d =>
    match d.weight? target with
    | none => best
    | some w =>
      match best.bind (·.weight? target) with
      | some w' => if w' ≤ w then some d else best
      | none => some d) none

def allows (f : LogFilter) (target : String) (level : LogLevel) : Bool :=
  (f.decisive? target).any fun d => level.rank ≤ d.level.rank

end LogFilter

end GracefulDrain
