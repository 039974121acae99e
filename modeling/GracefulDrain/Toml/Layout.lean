/-! Within a line only spaces and tabs are blank. A line ends with a line feed, before which a
carriage return may stand; a comment runs to the end of its line and holds no control character but
the tab. -/
namespace GracefulDrain.Toml

def isBlank (c : Char) : Bool := c = ' ' || c = '\t'

def skipBlanks (cs : List Char) : List Char := cs.dropWhile isBlank

/-- A character that may stand as it is in comments and in quoted text. -/
def isPlain (c : Char) : Bool := c = '\t' || (' ' ≤ c && c ≠ '\x7f')

/-- Skips blanks, line ends and comments up to the next other character; `inComment` tells whether
the input begins inside a comment. -/
def skipLayout (inComment : Bool) : List Char → Option (List Char)
  | [] => some []
  | '\r' :: '\n' :: rest => skipLayout false rest
  | c :: rest =>
    if c = '\n' then skipLayout false rest
    else if inComment then if isPlain c then skipLayout true rest else none
    else if isBlank c then skipLayout false rest
    else if c = '#' then skipLayout true rest
    else some (c :: rest)

/-- What follows the end of a line, before which a comment may stand. -/
def endLine (cs : List Char) : Option (List Char) :=
  let cs := skipBlanks cs
  let cs := match cs with
    | '#' :: rest => rest.dropWhile isPlain
    | _ => cs
  match cs with
  | [] => some []
  | '\n' :: rest => some rest
  | '\r' :: '\n' :: rest => some rest
  | _ => none

end GracefulDrain.Toml
