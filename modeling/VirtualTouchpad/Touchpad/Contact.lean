/-
# Contacts

What a touchpad remembers of the last two samples: whether each was a contact.
-/

namespace VirtualTouchpad

/-- The change of contact from the last sample but one to the last. -/
inductive Contact where
  /-- Neither was a contact. -/
  | hovering
  /-- Only the last one was. -/
  | starting
  /-- Only the one before was. -/
  | ending
  /-- Both were. -/
  | continuing
  deriving DecidableEq, Repr

namespace Contact

/-- Whether the last sample was a contact. -/
def isPressed : Contact → Bool
  | .starting | .continuing => true
  | .hovering | .ending => false

/-- The change after one more sample. -/
def next (contact : Contact) (pressed : Bool) : Contact :=
  match contact.isPressed, pressed with
  | false, false => .hovering
  | false, true => .starting
  | true, false => .ending
  | true, true => .continuing

/-- Two bits: the last sample in the low one, the sample before in the other. -/
def bits : Contact → Nat
  | .hovering => 0
  | .starting => 1
  | .ending => 2
  | .continuing => 3

/-- The name of a change. -/
def name : Contact → String
  | .hovering => "Hovering"
  | .starting => "Begin"
  | .ending => "End"
  | .continuing => "Continuing"

theorem isPressed_next (contact : Contact) (pressed : Bool) :
    (contact.next pressed).isPressed = pressed := by
  cases contact <;> cases pressed <;> rfl

theorem bits_next (contact : Contact) (pressed : Bool) :
    (contact.next pressed).bits = 2 * contact.isPressed.toNat + pressed.toNat := by
  cases contact <;> cases pressed <;> rfl

end Contact

end VirtualTouchpad
