namespace SignalRelay

/-!
# Control sequences

A terminal takes an escape character and some characters behind it for a command.  The
plain text of a text is what is left when such sequences and all controls other than
white space are taken out of it.
-/

/-- How the characters of a text are taken. -/
inductive ControlState where
  /-- Characters stand for themselves. -/
  | plain : ControlState
  /-- An escape character was read. -/
  | escaped : ControlState
  /-- Characters between a space and a slash follow the escape character. -/
  | selecting : ControlState
  /-- A command behind an opening bracket, up to a letter or a similar character. -/
  | commanding : ControlState
  /-- A title behind a closing bracket, up to a bell. -/
  | naming : ControlState
  /-- The head of a text for the device, up to a character that is not before a bound. -/
  | heading : (bound : Char) → ControlState
  /-- A text for the terminal itself, up to a terminator. -/
  | addressing : ControlState
  deriving Repr, DecidableEq

namespace ControlState

/-- The character that begins every sequence. -/
def escape : Char := Char.ofNat 0x1B

/-- Whether a character gives up a sequence. -/
def isCancel (c : Char) : Bool :=
  c.toNat == 0x18 || c.toNat == 0x1A

/-- Whether a control is white space. -/
def isSpacing (c : Char) : Bool :=
  c == '\t' || c == '\n' || c.toNat == 0x0C || c == '\r'

/-- Whether a character of ASCII is not before another one, and no control. -/
def isFrom (first c : Char) : Bool :=
  first ≤ c && c.toNat < 0x7F

/-- Whether the encoding of a character has the octet of the string terminator in it. -/
def isTerminating (c : Char) : Bool :=
  (String.utf8EncodeChar c).contains 0x9C

/-- What follows an escape character. -/
def afterEscape (c : Char) : ControlState :=
  if c == '[' then .commanding
  else if c == ']' then .naming
  else if c == 'P' then .heading '@'
  else if "X^_".toList.contains c then .addressing
  else if isFrom '0' c then .plain
  else if isFrom ' ' c then .selecting
  else .escaped

/-- What follows a character in a head; the bound falls as the head goes on. -/
def afterHeading (bound c : Char) : ControlState :=
  if isFrom bound c then .addressing
  else if isFrom '0' c then .heading '<'
  else if isFrom ' ' c then .heading '0'
  else .heading bound

/-- Whether a character is shown outside of sequences. -/
def isPlain (c : Char) : Bool :=
  isSpacing c || (' ' ≤ c && c.toNat != 0x7F)

/-- The state after a character, and whether the character is shown. -/
def next (state : ControlState) (c : Char) : ControlState × Bool :=
  if c == escape then
    (.escaped, false)
  else if isCancel c then
    (.plain, false)
  else
    match state with
    | .plain => (.plain, isPlain c)
    | .escaped => if isSpacing c then (.escaped, true) else (afterEscape c, false)
    | .selecting =>
        if isSpacing c then (.selecting, true)
        else (if isFrom '0' c then .plain else .selecting, false)
    | .commanding =>
        if isSpacing c then (.commanding, true)
        else (if isFrom '@' c then .plain else .commanding, false)
    | .naming => (if c.toNat == 0x07 then .plain else .naming, false)
    | .heading bound => (afterHeading bound c, false)
    | .addressing => (if isTerminating c then .plain else .addressing, false)

end ControlState

/-- What becomes of a sequence in which white space is shown. -/
inductive Interruption where
  /-- It has come to its end. -/
  | final : Interruption
  /-- It goes on at the next control, unless a character beyond ASCII came before. -/
  | passing : Interruption
  deriving Repr, DecidableEq

namespace Interruption

/-- The state to return to behind a character that is shown. -/
def stateBehind (interruption : Interruption) (state : ControlState) (c : Char) :
    ControlState :=
  match interruption with
  | .final => .plain
  | .passing => if c.toNat < 0x80 then state else .plain

end Interruption

namespace ControlSequence

/-- The characters that are shown; those behind a shown one are shown up to a control. -/
def shown (interruption : Interruption) :
    (shows : Bool) → ControlState → List Char → List Char
  | _, _, [] => []
  | shows, state, c :: rest =>
      match if shows && ControlState.isPlain c then (state, true) else state.next c with
      | (after, true) =>
          c :: shown interruption true (interruption.stateBehind after c) rest
      | (after, false) => shown interruption false after rest

/-- A text without control sequences and controls. -/
def strip (interruption : Interruption) (text : String) : String :=
  String.ofList (shown interruption false .plain text.toList)

end ControlSequence

end SignalRelay
