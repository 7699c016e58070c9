import RoundTrip.Text.Utf8

/-! # Plain text

What is left of a text once control sequences and control characters are dropped. A control sequence
begins with an escape character; what ends it depends on the character after that. Line ends, tabs
and form feeds are shown, also inside a short sequence. Main statement: a text of shown characters
is its own plain text.
-/
namespace RoundTrip.Text

/-- Where in a control sequence the next character stands. -/
inductive Sequence where
  | outside
  /-- Right after the escape character. -/
  | escape
  /-- After an escape character and marks. -/
  | escapeMark
  /-- In a sequence that a letter ends, such as one for a colour. -/
  | control
  /-- At the head of a device string, before any parameter. -/
  | device
  /-- In the parameters of a device string. -/
  | deviceParameter
  /-- In the marks of a device string. -/
  | deviceMark
  /-- In a string that is read by no one. -/
  | unread
  /-- In a string that a bell ends, such as a title. -/
  | title
  deriving DecidableEq

/-- Line end, tab, form feed and carriage return. -/
def isLayout (c : Char) : Bool := c = '\n' || c = '\t' || c = '\x0c' || c = '\r'

/-- A character that is shown outside of control sequences. -/
def isShown (c : Char) : Bool := isLayout c || (0x20 ≤ c.toNat && c.toNat != 0x7F)

/-- The byte that closes an unread string, in whichever character it stands. -/
def closingByte : UInt8 := 0x9C

def closesString (c : Char) : Bool := (utf8 c.toString).contains closingByte

/-- One of the marks between space and slash. -/
def isMark (c : Char) : Bool := 0x20 ≤ c.toNat && c.toNat ≤ 0x2F

/-- From the digit zero on, up to the question mark. -/
def isParameter (c : Char) : Bool := 0x30 ≤ c.toNat && c.toNat ≤ 0x3F

/-- From the at sign on, up to the tilde. -/
def isFinal (c : Char) : Bool := 0x40 ≤ c.toNat && c.toNat ≤ 0x7E

namespace Sequence

/-- What a character makes of a sequence, where it neither cancels it nor begins another. -/
def step : Sequence → Char → Sequence
  | .outside, _ => .outside
  | .escape, c =>
      if c = '[' then .control
      else if c = ']' then .title
      else if c = 'P' then .device
      else if c = 'X' || c = '^' || c = '_' then .unread
      else if isMark c then .escapeMark
      else if isParameter c || isFinal c then .outside
      else .escape
  | .escapeMark, c => if isParameter c || isFinal c then .outside else .escapeMark
  | .control, c => if isFinal c then .outside else .control
  | .device, c =>
      if isFinal c then .unread
      else if isMark c then .deviceMark
      else if isParameter c then .deviceParameter
      else .device
  | .deviceParameter, c =>
      if isFinal c || (isParameter c && '<' ≤ c) then .unread
      else if isMark c then .deviceMark
      else .deviceParameter
  | .deviceMark, c => if isFinal c || isParameter c then .unread else .deviceMark
  | .unread, c => if closesString c then .outside else .unread
  | .title, c => if c = '\x07' then .outside else .title

/-- Two characters cancel every sequence, and an escape character begins one anywhere. -/
def next (s : Sequence) (c : Char) : Sequence :=
  if c = '\x18' || c = '\x1a' then .outside
  else if c = '\x1b' then .escape
  else s.step c

def shows (s : Sequence) (c : Char) : Bool :=
  match s with
  | .outside => isShown c
  | .escape | .escapeMark | .control => isLayout c
  | .device | .deviceParameter | .deviceMark | .unread | .title => false

end Sequence

/-- What becomes of a sequence once a character inside it was shown. -/
inductive Interruption where
  /-- The sequence is over. -/
  | ends
  /-- The sequence goes on at the next character that is not shown. -/
  | pauses
  deriving DecidableEq

/-- The sequence after a character that was shown among others. -/
def Interruption.after : Interruption → Sequence → Char → Sequence
  | .ends, _, _ => .outside
  | .pauses, s, c => if c.toNat ≤ 0x7F then s else .outside

/-- The characters that are shown, from a place in a sequence on; `showing` tells whether the
character before was shown. -/
def plainFrom (interruption : Interruption) : Sequence → (showing : Bool) → List Char → List Char
  | _, _, [] => []
  | s, showing, c :: rest =>
      if (showing && isShown c) || s.shows c then
        c :: plainFrom interruption (interruption.after s c) true rest
      else plainFrom interruption (s.next c) false rest

/-- The characters of a text that are shown. -/
def plain (interruption : Interruption) (cs : List Char) : List Char :=
  plainFrom interruption .outside false cs

theorem Interruption.after_outside (interruption : Interruption) (c : Char) :
    interruption.after .outside c = .outside := by
  cases interruption <;> simp [after]

theorem plainFrom_outside {interruption : Interruption} {showing : Bool} {cs : List Char}
    (shown : ∀ c ∈ cs, isShown c = true) :
    plainFrom interruption .outside showing cs = cs := by
  induction cs generalizing showing with
  | nil => rfl
  | cons c rest ih =>
      have first : isShown c = true := shown c (by simp)
      simp [plainFrom, Sequence.shows, first, Interruption.after_outside,
        ih fun d member => shown d (by simp [member])]

/-- A text of shown characters is its own plain text. -/
theorem plain_eq_self {interruption : Interruption} {cs : List Char}
    (shown : ∀ c ∈ cs, isShown c = true) : plain interruption cs = cs :=
  plainFrom_outside shown

/-- The characters before the first line end. -/
def firstLine (cs : List Char) : List Char := cs.takeWhile (· != '\n')

/-- A line without the carriage return that may end it. -/
def dropReturn (line : List Char) : List Char :=
  if line.getLast? == some '\r' then line.dropLast else line

theorem takeWhile_ne_of_not_mem {x : Char} {cs : List Char} (h : x ∉ cs) :
    cs.takeWhile (· != x) = cs := by
  induction cs with
  | nil => rfl
  | cons c rest ih =>
      simp only [List.mem_cons, not_or] at h
      simp [Ne.symm h.1, ih h.2]

theorem firstLine_eq_self {cs : List Char} (h : '\n' ∉ cs) : firstLine cs = cs :=
  takeWhile_ne_of_not_mem h

end RoundTrip.Text
