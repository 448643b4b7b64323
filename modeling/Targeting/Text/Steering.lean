/-!
# Terminal sequences

A text can hold sequences that steer a terminal. They begin with an escape, and what
they are made of does not show; nor do other control characters.
-/

namespace Targeting.Text

/-- Where a place in a text stands: outside any sequence or in which kind of one. -/
inductive Steering where
  | outside
  /-- After the escape. -/
  | escape
  /-- After a mark that calls for more. -/
  | between
  /-- Among the numbers of a control sequence. -/
  | numbers
  /-- In a title, which a bell ends. -/
  | title
  /-- In a text for the device. -/
  | payload
  deriving DecidableEq

namespace Steering

def isSpace (c : Char) : Bool := c = '\t' || c = '\n' || c = '\x0c' || c = '\r'

def inRange (low high c : Char) : Bool := low ≤ c && c ≤ high

def after (s : Steering) (c : Char) : Steering :=
  if c = '\x1b' then .escape
  else if c = '\x18' || c = '\x1a' then .outside
  else
    match s with
    | .outside => .outside
    | .title => if c = '\x07' then .outside else .title
    | .payload => .payload
    | .escape =>
      if isSpace c then .outside
      else if inRange ' ' '/' c then .between
      else if c = '[' then .numbers
      else if c = ']' then .title
      else if c ∈ ['P', 'X', '^', '_'] then .payload
      else if inRange '0' '~' c then .outside
      else .escape
    | .between => if isSpace c || inRange '0' '~' c then .outside else .between
    | .numbers => if isSpace c || inRange '@' '~' c then .outside else .numbers

/-- Whether a character shows; the spaces end most sequences and show. -/
def shows (s : Steering) (c : Char) : Bool :=
  match s with
  | .title | .payload => false
  | .outside => isSpace c || ' ' ≤ c && c ≠ '\x7f'
  | _ => isSpace c

def shownFrom : Steering → List Char → List Char
  | _, [] => []
  | s, c :: rest =>
    if s.shows c then c :: shownFrom (s.after c) rest else shownFrom (s.after c) rest

end Steering

def shown (text : String) : String := .ofList (Steering.shownFrom .outside text.toList)

end Targeting.Text
