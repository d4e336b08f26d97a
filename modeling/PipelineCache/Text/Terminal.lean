/-! Text with the control sequences of terminals left out. A reader is outside of a sequence or in
some part of one; a character that it meets is either shown or part of a sequence. -/

namespace PipelineCache.Text.Terminal

/-- The part of a control sequence that a reader is in, if any. -/
inductive Mode
  /-- Outside of any sequence. -/
  | ground
  | escape
  | escapeIntermediate
  /-- Behind an escape and a bracket: parameters, intermediates and a final character follow. -/
  | controlEntry
  | controlParameter
  | controlIntermediate
  | controlIgnored
  /-- The same for a device, with a string behind the final character. -/
  | deviceEntry
  | deviceParameter
  | deviceIntermediate
  | deviceIgnored
  | deviceString
  /-- A string for the system, which a bell ends. -/
  | systemString
  | otherString
  deriving DecidableEq

def isIntermediate (char : Char) : Bool := ' ' ≤ char && char ≤ '/'
def isParameter (char : Char) : Bool := '0' ≤ char && char ≤ ';'
def isPrivate (char : Char) : Bool := '<' ≤ char && char ≤ '?'
def isFinal (char : Char) : Bool := '@' ≤ char && char ≤ '~'
def isAscii (char : Char) : Bool := char.toNat < 0x80

/-- Tabs, line feeds, form feeds and carriage returns. -/
def isLayout (char : Char) : Bool := char ∈ ['\t', '\n', '\x0c', '\r']

/-- Layout, and all characters but the other controls of ASCII. -/
def isPlain (char : Char) : Bool := isLayout char || (' ' ≤ char && char ≠ '\x7f')

/-- Whether the bytes of a character include the one that ends a string. -/
def holdsTerminator (char : Char) : Bool := (String.utf8EncodeChar char).contains 0x9C

namespace Mode

/-- The mode after the character that follows an escape. -/
def afterEscape (char : Char) : Mode :=
  if isIntermediate char then .escapeIntermediate
  else if char = '[' then .controlEntry
  else if char = ']' then .systemString
  else if char = 'P' then .deviceEntry
  else if char ∈ ['X', '^', '_'] then .otherString
  else if '0' ≤ char ∧ char ≤ '~' then .ground
  else .escape

/-- The mode after a character that is not shown. Cancelling and escaping work everywhere. -/
def next (mode : Mode) (char : Char) : Mode :=
  if char = '\x18' ∨ char = '\x1a' then .ground
  else if char = '\x1b' then .escape
  else
    match mode with
    | .ground => .ground
    | .escape => afterEscape char
    | .escapeIntermediate => if '0' ≤ char ∧ char ≤ '~' then .ground else mode
    | .controlEntry =>
        if isFinal char then .ground
        else if isIntermediate char then .controlIntermediate
        else if isParameter char ∨ isPrivate char then .controlParameter
        else mode
    | .controlParameter =>
        if isFinal char then .ground
        else if isIntermediate char then .controlIntermediate
        else if isPrivate char then .controlIgnored
        else mode
    | .controlIntermediate =>
        if isFinal char then .ground
        else if isParameter char ∨ isPrivate char then .controlIgnored
        else mode
    | .controlIgnored => if isFinal char then .ground else mode
    | .deviceEntry =>
        if isFinal char then .deviceString
        else if isIntermediate char then .deviceIntermediate
        else if isParameter char ∨ isPrivate char then .deviceParameter
        else mode
    | .deviceParameter =>
        if isFinal char then .deviceString
        else if isIntermediate char then .deviceIntermediate
        else if isPrivate char then .deviceIgnored
        else mode
    | .deviceIntermediate =>
        if isFinal char then .deviceString
        else if isParameter char ∨ isPrivate char then .deviceIgnored
        else mode
    | .systemString => if char = '\x07' then .ground else mode
    | .deviceIgnored | .deviceString | .otherString =>
        if holdsTerminator char then .ground else mode

/-- Whether a mode shows a character that follows one which was not shown. -/
def shows (mode : Mode) (char : Char) : Bool :=
  match mode with
  | .ground => isPlain char
  | .escape | .escapeIntermediate | .controlEntry | .controlParameter | .controlIntermediate
  | .controlIgnored => isLayout char
  | .deviceEntry | .deviceParameter | .deviceIntermediate | .deviceIgnored | .deviceString
  | .systemString | .otherString => false

end Mode

/-- A mode, and whether the character before was shown. -/
structure Reader where
  mode : Mode := .ground
  showing : Bool := false

namespace Reader

/-- Layout within a sequence is shown, and so is then all that follows up to the next control. -/
def shows (reader : Reader) (char : Char) : Bool :=
  if reader.showing then isPlain char else reader.mode.shows char

def after (reader : Reader) (char : Char) : Reader :=
  if reader.shows char then ⟨if isAscii char then reader.mode else .ground, true⟩
  else ⟨reader.mode.next char, false⟩

/-- The characters of a text that are shown. -/
def visible (reader : Reader) : List Char → List Char
  | [] => []
  | char :: rest =>
      if reader.shows char then char :: (reader.after char).visible rest
      else (reader.after char).visible rest

theorem visible_sublist (reader : Reader) (text : List Char) :
    (reader.visible text).Sublist text := by
  induction text generalizing reader with
  | nil => exact .slnil
  | cons char rest ih =>
    unfold visible
    split
    · exact (ih _).cons_cons char
    · exact (ih _).cons char

theorem isPlain_of_mem_visible {reader : Reader} {text : List Char} {char : Char}
    (member : char ∈ reader.visible text) : isPlain char = true := by
  induction text generalizing reader with
  | nil => simp [visible] at member
  | cons first rest ih =>
    unfold visible at member
    split at member
    · rename_i shown
      rcases List.mem_cons.mp member with rfl | later
      · unfold shows at shown
        split at shown
        · exact shown
        · unfold Mode.shows at shown
          split at shown <;> simp_all [isPlain]
      · exact ih later
    · exact ih member

/-- Outside of a sequence, a text without controls is shown as it is. -/
theorem visible_of_plain {reader : Reader} {text : List Char} (outside : reader.mode = .ground)
    (plain : ∀ char ∈ text, isPlain char = true) : reader.visible text = text := by
  induction text generalizing reader with
  | nil => rfl
  | cons char rest ih =>
    have shown : reader.shows char = true := by
      simp [shows, outside, Mode.shows, plain char List.mem_cons_self]
    have stays : (reader.after char).mode = .ground := by simp [after, shown, outside]
    rw [visible, if_pos shown, ih stays fun other member => plain other (.tail char member)]

end Reader

/-- A text without its control sequences, read from outside of any. -/
def visible (text : List Char) : List Char := Reader.visible {} text

end PipelineCache.Text.Terminal
