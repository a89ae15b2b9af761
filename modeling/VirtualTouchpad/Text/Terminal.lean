/-
# Text on a terminal

What a terminal shows of a text.  Control characters show nothing, and neither
do control sequences: an escape character and what belongs to it.

A tab, a line feed, a form feed or a carriage return inside a short sequence is
shown, and pauses it: all that can be shown is shown then, until a control
character comes and the sequence goes on.

`isShown_of_mem_shown` says that only characters with a place on the terminal are
shown, and `shown_eq_self` that a text of such characters is shown as it is.
-/
import VirtualTouchpad.Text.Utf8

namespace VirtualTouchpad.Terminal

/-! ## Control sequences -/

/-- Where a text stands with respect to control sequences. -/
inductive Sequence where
  /-- Outside of them. -/
  | outside
  /-- After the escape character. -/
  | escape
  /-- Between an intermediate character and the one that ends the sequence. -/
  | intermediate
  /-- In a control sequence proper, `[` and parameters up to a letter. -/
  | control
  /-- In a command to the system, up to the bell. -/
  | command
  /-- At the start of a device control, before any parameter. -/
  | deviceStart
  /-- In the parameters of a device control. -/
  | deviceParameters
  /-- In the intermediate characters of a device control. -/
  | deviceIntermediates
  /-- In a string, which goes on up to the byte `0x9C`. -/
  | string
  deriving DecidableEq, Repr

/-- Whether a character is the escape character. -/
def isEscape (c : Char) : Bool := c == '\x1b'

/-- Whether a character cancels the sequence that it stands in. -/
def isCancel (c : Char) : Bool := c == '\x18' || c == '\x1a'

/-- Whether a character lies between two others. -/
def isBetween (first last c : Char) : Bool := first ≤ c && c ≤ last

namespace Sequence

/-- What the character after an escape character begins. -/
def afterEscape (c : Char) : Sequence :=
  if c = '[' then .control
  else if c = ']' then .command
  else if c = 'P' then .deviceStart
  else if c = 'X' ∨ c = '^' ∨ c = '_' then .string
  else if isBetween ' ' '/' c then .intermediate
  else if isBetween '0' '~' c then .outside
  else .escape

/-- Where a character leads that neither begins a sequence anew nor cancels it. -/
def step (sequence : Sequence) (c : Char) : Sequence :=
  match sequence with
  | .outside => .outside
  | .escape => afterEscape c
  | .intermediate => if isBetween '0' '~' c then .outside else .intermediate
  | .control => if isBetween '@' '~' c then .outside else .control
  | .command => if c = '\x07' then .outside else .command
  | .deviceStart =>
    if isBetween ' ' '/' c then .deviceIntermediates
    else if isBetween '0' '?' c then .deviceParameters
    else if isBetween '@' '~' c then .string
    else .deviceStart
  | .deviceParameters =>
    if isBetween ' ' '/' c then .deviceIntermediates
    else if isBetween '<' '~' c then .string
    else .deviceParameters
  | .deviceIntermediates => if isBetween '0' '~' c then .string else .deviceIntermediates
  | .string => if (bytesOf (String.singleton c)).contains 0x9C then .outside else .string

/-- Where a character leads. -/
def next (sequence : Sequence) (c : Char) : Sequence :=
  if isEscape c then .escape else if isCancel c then .outside else sequence.step c

/-- Whether a layout character is shown inside a sequence. -/
def showsLayout : Sequence → Bool
  | .outside | .escape | .intermediate | .control => true
  | _ => false

end Sequence

/-! ## What is shown -/

/-- Whether a character only moves to another place. -/
def isLayout (c : Char) : Bool := c == '\t' || c == '\n' || c == '\x0c' || c == '\r'

/-- Whether a character is shown outside of sequences. -/
def isShown (c : Char) : Bool := isLayout c || isBetween ' ' '~' c || '\x80' ≤ c

/-- What is shown of characters inside a sequence; `paused` says that it is paused.  Characters
beyond ASCII end a paused sequence. -/
def shownFrom (sequence : Sequence) (paused : Bool) : List Char → List Char
  | [] => []
  | c :: rest =>
    if (paused || sequence == .outside) && isShown c then
      c :: shownFrom (if '\x80' ≤ c then .outside else sequence) paused rest
    else if sequence.showsLayout && isLayout c then c :: shownFrom sequence true rest
    else shownFrom (sequence.next c) false rest

/-- What is shown of a text. -/
def shown (text : String) : String := String.ofList (shownFrom .outside false text.toList)

/-! ## Only what can be shown is, and all of it outside of sequences -/

theorem isShown_of_isLayout {c : Char} (h : isLayout c = true) : isShown c = true := by
  simp [isShown, h]

theorem isShown_of_mem_shownFrom {c : Char} (text : List Char) (sequence : Sequence)
    (paused : Bool) (h : c ∈ shownFrom sequence paused text) : isShown c = true := by
  induction text generalizing sequence paused with
  | nil => simp [shownFrom] at h
  | cons d rest ih =>
    rw [shownFrom] at h
    split at h
    · next hd =>
      rcases List.mem_cons.mp h with rfl | h
      · exact ((Bool.and_eq_true _ _).mp hd).2
      · exact ih _ _ h
    · split at h
      · next hd =>
        rcases List.mem_cons.mp h with rfl | h
        · exact isShown_of_isLayout ((Bool.and_eq_true _ _).mp hd).2
        · exact ih _ _ h
      · exact ih _ _ h

theorem isShown_of_mem_shown {c : Char} {text : String} (h : c ∈ (shown text).toList) :
    isShown c = true := by
  rw [shown, String.toList_ofList] at h
  exact isShown_of_mem_shownFrom _ _ _ h

theorem shownFrom_eq_self {text : List Char} (paused : Bool) (h : ∀ c ∈ text, isShown c = true) :
    shownFrom .outside paused text = text := by
  induction text with
  | nil => rfl
  | cons c rest ih =>
    have hc : isShown c = true := h c (by simp)
    have hrest := ih fun d hd => h d (by simp [hd])
    simp [shownFrom, hc, hrest]

theorem shown_eq_self {text : String} (h : ∀ c ∈ text.toList, isShown c = true) :
    shown text = text := by
  rw [shown, shownFrom_eq_self _ h, String.ofList_toList]

end VirtualTouchpad.Terminal
