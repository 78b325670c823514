/-!
# Text for terminals

A terminal takes some control characters, and the sequences that some of them open, as
commands.  `plain` keeps what a terminal would show and drops the commands, for outputs
that are no terminal.
-/

namespace Schemata.Text.Terminal

/-! ## Ways of display -/

/-- A text between the commands that switch a way of display on and off. -/
def highlighted (mode text : String) : String :=
  "\x1b[" ++ mode ++ "m" ++ text ++ "\x1b[0m"

def bold (text : String) : String :=
  highlighted "1" text

def dimmed (text : String) : String :=
  highlighted "2" text

/-! ## Commands -/

/-- Which part of a command comes next. -/
inductive State where
  /-- No command is open. -/
  | ground
  | escape
  /-- After an escape character and more characters that end no command. -/
  | escapeMore
  /-- Inside a control sequence. -/
  | control
  /-- At the parameters of a device control string. -/
  | device
  | deviceParameters
  | deviceMore
  /-- Inside an operating system command. -/
  | operatingSystem
  /-- Inside a string that goes on up to its terminator. -/
  | string
deriving DecidableEq, Repr

def isBetween (first last c : Char) : Bool :=
  first ≤ c && c ≤ last

/-- The characters between a command's opening and its last character. -/
def isIntermediate (c : Char) : Bool :=
  isBetween ' ' '/' c

/-- The byte that ends a string, also where it is part of a longer character. -/
def stringTerminator : UInt8 := 0x9C

/-- What follows a character that is not shown. -/
def State.next (state : State) (c : Char) : State :=
  if c = '\x1b' then .escape
  else if c = '\x18' ∨ c = '\x1a' then .ground
  else match state with
    | .ground => .ground
    | .escape =>
      if isIntermediate c then .escapeMore
      else if c = '[' then .control
      else if c = 'P' then .device
      else if c = ']' then .operatingSystem
      else if c ∈ ['X', '^', '_'] then .string
      else if isBetween '0' '~' c then .ground
      else .escape
    | .escapeMore => if isBetween '0' '~' c then .ground else .escapeMore
    | .control => if isBetween '@' '~' c then .ground else .control
    | .device =>
      if isIntermediate c then .deviceMore
      else if isBetween '0' '?' c then .deviceParameters
      else if isBetween '@' '~' c then .string
      else .device
    | .deviceParameters =>
      if isIntermediate c then .deviceMore
      else if isBetween '<' '~' c then .string
      else .deviceParameters
    | .deviceMore => if isBetween '0' '~' c then .string else .deviceMore
    | .operatingSystem => if c = '\x07' then .ground else .operatingSystem
    | .string => if stringTerminator ∈ String.utf8EncodeChar c then .ground else .string

/-- The control characters that move the place of writing. -/
def isMotion (c : Char) : Bool :=
  c ∈ ['\t', '\n', '\x0c', '\r']

/-- Whether a character outside commands is shown. -/
def isShown (c : Char) : Bool :=
  isMotion c || (' ' ≤ c && c ≠ '\x7f')

/-- Whether a character is shown after others that were not. -/
def State.shows (state : State) (c : Char) : Bool :=
  match state with
  | .ground => isShown c
  | .escape | .escapeMore | .control => isMotion c
  | _ => false

/-- The characters that are shown.  Once one is shown, so are those after it up to a
control character; there a command that was left open goes on, unless a character
beyond ASCII was shown and closed it. -/
def shown (state : State) (showing : Bool) : List Char → List Char
  | [] => []
  | c :: rest =>
    if state.shows c || (showing && isShown c) then
      c :: shown (if c.toNat < 0x80 then state else .ground) true rest
    else shown (state.next c) false rest

/-- What a terminal would show of a text. -/
def plain (text : String) : String :=
  String.ofList (shown .ground true text.toList)

end Schemata.Text.Terminal
