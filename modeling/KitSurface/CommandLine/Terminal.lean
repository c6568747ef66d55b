import KitSurface.Text.Basic
import KitSurface.Text.Utf8
/-!
Texts with control sequences, as a terminal shows them. A control sequence begins with an escape
character and is not shown itself. What a terminal makes of a character depends on the sequence
that it is in, and each kind of sequence has characters of its own that end it.
-/

namespace KitSurface.CommandLine

/-- Where in a control sequence a terminal is. -/
inductive TerminalState where
  /-- Outside of any sequence. -/
  | ground
  /-- Behind an escape character. -/
  | escape
  /-- In a sequence that is an escape character and marks up to a last one. -/
  | intermediate
  /-- In a control sequence with parameters. -/
  | control
  /-- In a command to the operating system. -/
  | command
  /-- At the front of a control string for a device. -/
  | deviceEntry
  /-- In the parameters of a control string. -/
  | deviceParameters
  /-- In the marks behind the parameters of a control string. -/
  | deviceIntermediate
  /-- In the body of a control string. -/
  | body
  deriving DecidableEq, Repr

namespace TerminalState

/-- The control characters that are shown as blanks. -/
def isBlankControl (c : Char) : Bool :=
  c = '\t' || c = '\n' || c = '\x0c' || c = '\r'

/-- A character that is seen by itself. -/
def isVisible (c : Char) : Bool :=
  ' ' ≤ c && c ≠ '\x7f'

def shows (s : TerminalState) (c : Char) : Bool :=
  match s with
  | ground => isVisible c || isBlankControl c
  | escape | intermediate | control => isBlankControl c
  | _ => false

/-- The encoding of a character holds the byte that ends a control string. -/
def endsString (c : Char) : Bool :=
  Text.encode (String.ofList [c]) |>.contains 0x9C

/-- The kind of sequence that a character behind an escape character begins. -/
def afterEscape (c : Char) : TerminalState :=
  if c = '[' then control
  else if c = ']' then command
  else if c = 'P' then deviceEntry
  else if c = 'X' || c = '^' || c = '_' then body
  else if ' ' ≤ c && c ≤ '/' then intermediate
  else if '0' ≤ c && c ≤ '~' then ground
  else escape

/-- Where in a control string a character at its front leads to. -/
def inDevice (s : TerminalState) (c : Char) : TerminalState :=
  if ' ' ≤ c && c ≤ '/' then deviceIntermediate
  else if '0' ≤ c && c ≤ ';' then
    if s = deviceIntermediate then body else deviceParameters
  else if '<' ≤ c && c ≤ '?' then
    if s = deviceEntry then deviceParameters else body
  else if '@' ≤ c && c ≤ '~' then body
  else s

/-- The state behind a character that is not shown. -/
def next (s : TerminalState) (c : Char) : TerminalState :=
  if c = '\x1b' then escape
  else if c = '\x18' || c = '\x1a' then ground
  else match s with
    | ground => ground
    | escape => afterEscape c
    | intermediate => if '0' ≤ c && c ≤ '~' then ground else intermediate
    | control => if '@' ≤ c && c ≤ '~' then ground else control
    | command => if c = '\x07' then ground else command
    | deviceEntry | deviceParameters | deviceIntermediate => inDevice s c
    | body => if endsString c then ground else body

/-- What is shown of a text. A character that is shown ends the sequence that it is in. -/
def shownFrom (s : TerminalState) : List Char → List Char
  | [] => []
  | c :: rest => if s.shows c then c :: shownFrom ground rest else shownFrom (s.next c) rest

end TerminalState

namespace Terminal

/-- The text of a control sequence that sets how text looks. -/
def appearance (parameter : String) : String :=
  String.ofList ['\x1b', '['] ++ parameter ++ "m"

def coloured (text : String) : String :=
  appearance "33" ++ text ++ appearance "0"

def emphasised (text : String) : String :=
  appearance "1" ++ text ++ appearance "0"

def shown (text : String) : String :=
  String.ofList (TerminalState.shownFrom .ground text.toList)

/-- The first line that a terminal shows of a text. -/
def firstLine (text : String) : String :=
  (Text.lines (shown text)).head?.getD ""

end Terminal

end KitSurface.CommandLine
