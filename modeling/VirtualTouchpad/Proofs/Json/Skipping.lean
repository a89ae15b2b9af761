/-
# How far a value goes

Readers differ in what they make of a value, and in what they refuse.  They do not
differ in where a value ends: a reader that takes a value stops exactly where
skipping the value would (`Spans`).  So two readers that both take the value at the
front of the same bytes leave the same bytes (`Spans.eq_rest`).

Skipping counts its steps and keeps the open brackets in a list.  What it does
inside some brackets does not depend on the brackets around them
(`skipFrom_append`), and it does not matter how many steps it is allowed beyond
those that it needs (`skipFrom_mono`).
-/
import Mathlib.Data.List.DropRight
import VirtualTouchpad.Json.Value

namespace VirtualTouchpad.Json

section Outcomes

variable {ε α β : Type} {x : Except ε α} {b : β}

/-- Two steps that succeed. -/
theorem bind_eq_ok {f : α → Except ε β} : x >>= f = .ok b ↔ ∃ a, x = .ok a ∧ f a = .ok b := by
  cases x <;> simp [bind, Except.bind]

theorem map_eq_ok {f : α → β} : x.map f = .ok b ↔ ∃ a, x = .ok a ∧ f a = b := by
  cases x <;> simp [Except.map]

end Outcomes

variable {α δ : Type} {input inside mid after rest : Bytes}

/-! ## Blanks, texts and numbers -/

@[simp] theorem dropBlanks_dropBlanks (input : Bytes) :
    dropBlanks (dropBlanks input) = dropBlanks input :=
  List.dropWhile_idempotent _ _

/-- Where skipping stands when the reading of a text stands at `state`.  To skipping, the two halves
of a pair are two escapes. -/
def TextState.skipping : TextState → SkipState
  | .plain | .pairBackslash _ => .plain
  | .escape | .pairLetter _ => .escape
  | .hex digits _ => .hex digits

/-- A text that is read ends where skipping it ends. -/
theorem skipTextFrom_of_textFrom {state : TextState} {done bytes : Bytes}
    (h : textFrom state done input = .ok (bytes, rest)) :
    skipTextFrom state.skipping input = .ok rest := by
  induction input generalizing state done with
  | nil => cases state <;> cases h
  | cons b input ih =>
    cases state with
    | plain =>
      simp only [textFrom] at h
      simp only [TextState.skipping, skipTextFrom]
      split_ifs at h ⊢
      · cases h
        rfl
      · exact ih h
      · exact ih h
    | escape =>
      simp only [textFrom] at h
      simp only [TextState.skipping, skipTextFrom]
      cases hshort : shortEscape? b with
      | some byte =>
        rw [hshort] at h
        exact ih h
      | none =>
        simp only [hshort] at h
        split_ifs at h ⊢ with hnot
        · cases hnot
        · exact ih h
    | hex digits high =>
      by_cases hfew : digits.length < 3
      · simp only [textFrom, if_pos hfew] at h
        rw [TextState.skipping, skipTextFrom, if_pos hfew]
        exact ih h
      · simp only [textFrom, if_neg hfew] at h
        rw [TextState.skipping, skipTextFrom, if_neg hfew]
        -- Any four digits are an escape to skipping, whatever unit they are.
        cases hvalue : hexValue? (digits ++ [b]) with
        | none => simp [hvalue] at h
        | some unit => cases high <;> simp only [hvalue] at h <;> split_ifs at h <;> exact ih h
    | pairBackslash high =>
      simp only [textFrom] at h
      split_ifs at h with hback
      subst hback
      exact ih h
    | pairLetter high =>
      simp only [textFrom] at h
      split_ifs at h with hletter
      subst hletter
      exact ih h

theorem skipTextFrom_of_textLiteral {text : String} (h : textLiteral input = .ok (text, rest)) :
    skipTextFrom .plain input = .ok rest := by
  obtain ⟨⟨bytes, after⟩, hbytes, htext⟩ := bind_eq_ok.1 h
  have hskip := skipTextFrom_of_textFrom hbytes
  dsimp only at htext
  split at htext
  · cases htext
    exact hskip
  · cases htext

/-- How a number that ends too early would be refused does not matter to one that does not. -/
theorem someDigits_other {short : Fault} (other : Fault) {digits : List Nat}
    (h : someDigits short input = .ok (digits, rest)) :
    someDigits other input = .ok (digits, rest) := by
  unfold someDigits at h ⊢
  split at h
  · cases h
  · cases h
  · simp_all

theorem scanWhole_other {short : Fault} (other : Fault) {digits : List Nat}
    (h : scanWhole short input = .ok (digits, rest)) :
    scanWhole other input = .ok (digits, rest) := by
  cases input with
  | nil => cases h
  | cons => exact h

theorem scanFraction_other {short : Fault} (other : Fault) {digits : List Nat}
    (h : scanFraction short input = .ok (digits, rest)) :
    scanFraction other input = .ok (digits, rest) := by
  cases input with
  | nil => exact h
  | cons b input =>
    simp only [scanFraction] at h ⊢
    split_ifs at h ⊢
    · exact someDigits_other other h
    · exact h

theorem scanExponent_other {short : Fault} (other : Fault) {exponent : Option (Bool × List Nat)}
    (h : scanExponent short input = .ok (exponent, rest)) :
    scanExponent other input = .ok (exponent, rest) := by
  cases input with
  | nil => exact h
  | cons b input =>
    by_cases hmark : b = ascii 'e' ∨ b = ascii 'E'
    · simp only [scanExponent, if_pos hmark] at h ⊢
      obtain ⟨⟨digits, after⟩, hdigits, hexponent⟩ := map_eq_ok.1 h
      exact map_eq_ok.2 ⟨_, someDigits_other other hdigits, hexponent⟩
    · simpa only [scanExponent, if_neg hmark] using h

theorem scanUnsigned_other {short : Fault} (other : Fault) {negative : Bool} {numeral : Numeral}
    (h : scanUnsigned short negative input = .ok (numeral, rest)) :
    scanUnsigned other negative input = .ok (numeral, rest) := by
  obtain ⟨whole, hwhole, h⟩ := bind_eq_ok.1 h
  obtain ⟨fraction, hfraction, h⟩ := bind_eq_ok.1 h
  obtain ⟨exponent, hexponent, h⟩ := bind_eq_ok.1 h
  exact bind_eq_ok.2 ⟨whole, scanWhole_other other hwhole, bind_eq_ok.2 ⟨fraction,
    scanFraction_other other hfraction, bind_eq_ok.2 ⟨exponent, scanExponent_other other hexponent, h⟩⟩⟩

theorem scanNumeral_other {short : Fault} (other : Fault) {numeral : Numeral}
    (h : scanNumeral short input = .ok (numeral, rest)) :
    scanNumeral other input = .ok (numeral, rest) := by
  cases input with
  | nil => cases h
  | cons b input =>
    simp only [scanNumeral] at h ⊢
    split_ifs at h ⊢
    · exact scanUnsigned_other other h
    · exact scanUnsigned_other other h

theorem scanNumeral_of_readNumber {number : Number} (h : readNumber input = .ok (number, rest)) :
    ∃ numeral, scanNumeral .invalidNumber input = .ok (numeral, rest) := by
  obtain ⟨⟨numeral, after⟩, hscan, h⟩ := bind_eq_ok.1 h
  obtain ⟨value, -, h⟩ := bind_eq_ok.1 h
  cases h
  exact ⟨numeral, scanNumeral_other .invalidNumber hscan⟩

/-! ## Skipping within brackets -/

/-- Where skipping stands: what comes next, the brackets that are open, and the bytes. -/
structure Standing where
  turn : Turn
  brackets : List Bracket
  input : Bytes

namespace Standing

/-- Skips from here in at most so many steps. -/
def skip (standing : Standing) (steps : Nat) : Except Fault Bytes :=
  skipFrom steps standing.turn standing.brackets standing.input

/-- The same within more brackets. -/
def within (standing : Standing) (outer : List Bracket) : Standing :=
  { standing with brackets := standing.brackets ++ outer }

/-- The next entry inside a bracket: an element of a list, or a member of an object. -/
def enter (outer : List Bracket) (input : Bytes) : Bracket → Except Fault Standing
  | .list => .ok ⟨.value, .list :: outer, input⟩
  | .object => (skipKey input).map fun rest => ⟨.value, .object :: outer, rest⟩

/-- One step of skipping, or none after a value that no bracket is around. -/
def next? : Standing → Except Fault (Option Standing)
  | ⟨.rest, [], _⟩ => .ok none
  | ⟨.rest, bracket :: outer, input⟩ =>
    match dropBlanks input with
    | [] => .error (.ended bracket.part)
    | b :: rest =>
      if b = bracket.closing then .ok (some ⟨.rest, outer, rest⟩)
      else if b = ascii ',' then (enter outer rest bracket).map some
      else .error bracket.commaFault
  | ⟨.value, brackets, input⟩ => do
    match ← skipOpening input with
    | .scalar rest => .ok (some ⟨.rest, brackets, rest⟩)
    | .bracket bracket inside =>
      match dropBlanks inside with
      | [] => .error (.ended bracket.part)
      | b :: rest =>
        if b = bracket.closing then .ok (some ⟨.rest, brackets, rest⟩)
        else (enter brackets (b :: rest) bracket).map some

/-- Skipping is step after step. -/
theorem skip_succ (standing : Standing) (steps : Nat) :
    standing.skip (steps + 1) = standing.next?.bind fun
      | none => .ok standing.input
      | some standing => standing.skip steps := by
  have henter : ∀ outer input bracket, (match bracket with
      | .list => skipFrom steps .value (.list :: outer) input
      | .object => (skipKey input).bind (skipFrom steps .value (.object :: outer)))
        = ((enter outer input bracket).map some).bind fun
          | none => .ok standing.input
          | some standing => standing.skip steps := by
    intro outer input bracket
    cases bracket with
    | list => rfl
    | object => cases hkey : skipKey input <;> simp [enter, hkey, Except.map, Except.bind, skip]
  obtain ⟨_ | _, brackets, input⟩ := standing
  · simp only [skip, skipFrom, next?, bind]
    cases skipOpening input with
    | error fault => rfl
    | ok opening =>
      cases opening with
      | scalar rest => rfl
      | bracket bracket inside =>
        simp only [Except.bind]
        cases dropBlanks inside with
        | nil => rfl
        | cons b rest =>
          dsimp only
          split_ifs
          · rfl
          · exact henter brackets (b :: rest) bracket
  · cases brackets with
    | nil => rfl
    | cons bracket outer =>
      simp only [skip, skipFrom, next?, bind]
      cases dropBlanks input with
      | nil => rfl
      | cons b rest =>
        dsimp only
        split_ifs
        · rfl
        · exact henter outer rest bracket
        · rfl

/-- Skipping ends only after a value that no bracket is around. -/
theorem eq_of_next?_none {standing : Standing} (h : standing.next? = .ok none) :
    standing = ⟨.rest, [], standing.input⟩ := by
  have hsome : ∀ {entered : Except Fault Standing}, entered.map some ≠ .ok none := by
    intro entered heq
    obtain ⟨_, -, heq⟩ := map_eq_ok.1 heq
    cases heq
  obtain ⟨_ | _, brackets, input⟩ := standing
  · obtain ⟨opening, -, h⟩ := bind_eq_ok.1 h
    cases opening with
    | scalar rest => cases h
    | bracket bracket inside =>
      cases hblanks : dropBlanks inside with
      | nil => simp [hblanks] at h
      | cons b rest =>
        simp only [hblanks] at h
        split_ifs at h
        · cases h
        · exact absurd h hsome
  · cases brackets with
    | nil => rfl
    | cons bracket outer =>
      cases hblanks : dropBlanks input with
      | nil => simp [next?, hblanks] at h
      | cons b rest =>
        simp only [next?, hblanks] at h
        split_ifs at h
        · cases h
        · exact absurd h hsome

theorem enter_within {next : Standing} {outer : List Bracket} {bracket : Bracket}
    (h : enter outer input bracket = .ok next) (more : List Bracket) :
    enter (outer ++ more) input bracket = .ok (next.within more) := by
  cases bracket with
  | list =>
    cases h
    rfl
  | object =>
    obtain ⟨rest, hkey, rfl⟩ := map_eq_ok.1 h
    exact map_eq_ok.2 ⟨rest, hkey, rfl⟩

/-- A step does not depend on the brackets around. -/
theorem next?_within {standing next : Standing} (h : standing.next? = .ok (some next))
    (outer : List Bracket) :
    (standing.within outer).next? = .ok (some (next.within outer)) := by
  have henter : ∀ {brackets input bracket}, (enter brackets input bracket).map some = .ok (some next) →
      (enter (brackets ++ outer) input bracket).map some = .ok (some (next.within outer)) := by
    intro brackets input bracket h
    obtain ⟨_, hentered, h⟩ := map_eq_ok.1 h
    cases h
    exact map_eq_ok.2 ⟨_, enter_within hentered outer, rfl⟩
  obtain ⟨_ | _, brackets, input⟩ := standing
  · obtain ⟨opening, hopening, h⟩ := bind_eq_ok.1 h
    refine bind_eq_ok.2 ⟨opening, hopening, ?_⟩
    cases opening with
    | scalar rest =>
      cases h
      rfl
    | bracket bracket inside =>
      cases hblanks : dropBlanks inside with
      | nil => simp [hblanks] at h
      | cons b rest =>
        simp only [hblanks] at h ⊢
        split_ifs at h ⊢
        · cases h
          rfl
        · exact henter h
  · cases brackets with
    | nil => cases h
    | cons bracket brackets =>
      cases hblanks : dropBlanks input with
      | nil => simp [next?, hblanks] at h
      | cons b rest =>
        simp only [within, List.cons_append, next?, hblanks] at h ⊢
        split_ifs at h ⊢
        · cases h
          rfl
        · exact henter h

/-- More steps do no harm. -/
theorem skip_mono {standing : Standing} {few many : Nat} (h : standing.skip few = .ok rest)
    (hle : few ≤ many) : standing.skip many = .ok rest := by
  induction few generalizing standing many with
  | zero => cases h
  | succ few ih =>
    obtain ⟨many, rfl⟩ := Nat.exists_eq_add_of_le' (Nat.le_trans (Nat.le_add_left 1 few) hle)
    rw [skip_succ] at h ⊢
    obtain ⟨next, hnext, h⟩ := bind_eq_ok.1 h
    refine bind_eq_ok.2 ⟨next, hnext, ?_⟩
    cases next with
    | none => exact h
    | some next => exact ih h (Nat.le_of_succ_le_succ hle)

/-- **Skipping within brackets** is skipping by itself, and then going on. -/
theorem skip_within {standing : Standing} {outer : List Bracket} {steps more : Nat}
    (h : standing.skip steps = .ok mid) (hmore : skip ⟨.rest, outer, mid⟩ more = .ok rest) :
    (standing.within outer).skip (steps + more) = .ok rest := by
  induction steps generalizing standing with
  | zero => cases h
  | succ steps ih =>
    rw [skip_succ] at h
    obtain ⟨next, hnext, h⟩ := bind_eq_ok.1 h
    cases next with
    | none =>
      cases h
      rw [eq_of_next?_none hnext]
      exact skip_mono hmore (Nat.le_add_left ..)
    | some next =>
      rw [Nat.add_right_comm, skip_succ]
      exact bind_eq_ok.2 ⟨_, next?_within hnext outer, ih h⟩

end Standing

/-! ## The extent of a value -/

/-- A value stands at the front of the bytes, and the rest is what follows it. -/
def Spans (input rest : Bytes) : Prop := ∃ steps, skipFrom steps .value [] input = .ok rest

/-- A list or an object goes on with the bytes, after its opening bracket if nothing came before, and
the rest is what follows its closing bracket. -/
def Closes (bracket : Bracket) (first : Bool) (input rest : Bytes) : Prop :=
  if first then ∀ before, skipOpening before = .ok (.bracket bracket input) → Spans before rest
  else ∃ steps, skipFrom steps .rest [bracket] input = .ok rest

theorem spans_of_skipValue (h : skipValue input = .ok rest) : Spans input rest := ⟨_, h⟩

theorem Spans.eq_rest {other : Bytes} (h : Spans input rest) (hother : Spans input other) :
    rest = other := by
  obtain ⟨steps, hsteps⟩ := h
  obtain ⟨more, hmore⟩ := hother
  have hfirst : Standing.skip ⟨.value, [], input⟩ (max steps more) = .ok rest :=
    Standing.skip_mono hsteps (Nat.le_max_left ..)
  have hsecond : Standing.skip ⟨.value, [], input⟩ (max steps more) = .ok other :=
    Standing.skip_mono hmore (Nat.le_max_right ..)
  exact Except.ok.inj (hfirst.symm.trans hsecond)

theorem spans_scalar (h : skipOpening input = .ok (.scalar rest)) : Spans input rest :=
  ⟨2, by simp [skipFrom, h, bind, Except.bind]⟩

/-- Blanks before a value do not matter. -/
theorem Spans.of_dropBlanks (h : Spans (dropBlanks input) rest) : Spans input rest := by
  obtain ⟨_ | steps, h⟩ := h
  · cases h
  · refine ⟨steps + 1, ?_⟩
    simpa only [skipFrom, skipOpening, dropBlanks_dropBlanks] using h

/-- A value inside a bracket, and all that follows it there. -/
theorem Spans.exists_skip {bracket : Bracket} (h : Spans input after)
    (hclose : Closes bracket false after rest) :
    ∃ steps, skipFrom steps .value [bracket] input = .ok rest := by
  obtain ⟨steps, hsteps⟩ := h
  obtain ⟨more, hmore⟩ := hclose
  have hvalue : Standing.skip ⟨.value, [], input⟩ steps = .ok after := hsteps
  exact ⟨steps + more, Standing.skip_within hvalue hmore⟩

theorem Closes.spans {bracket : Bracket} (h : Closes bracket true inside rest)
    (hopening : skipOpening input = .ok (.bracket bracket inside)) : Spans input rest :=
  h input hopening

theorem closes_of_closing {bracket : Bracket} (first : Bool)
    (h : dropBlanks input = bracket.closing :: rest) : Closes bracket first input rest := by
  cases first with
  | true =>
    intro before hopening
    exact ⟨2, by simp [skipFrom, hopening, h, bind, Except.bind]⟩
  | false => exact ⟨2, by simp [skipFrom, h]⟩

/-! ### Lists -/

theorem nextElement_closed {first : Bool} (h : nextElement first input = .ok (.closed rest)) :
    dropBlanks input = ascii ']' :: rest := by
  unfold nextElement at h
  split at h
  · cases h
  · split_ifs at h with hclosing
    · cases h
      rwa [← hclosing]
    · cases h
    · split at h
      · cases h
      · split_ifs at h
        cases h

/-- An element of a list comes at once, or after a comma. -/
theorem nextElement_entry {first : Bool} (h : nextElement first input = .ok (.entry mid)) :
    ∃ b more, dropBlanks input = b :: more ∧ b ≠ ascii ']' ∧
      if first then mid = b :: more else b = ascii ',' ∧ mid = dropBlanks more := by
  unfold nextElement at h
  split at h
  · cases h
  · next b more hblanks =>
    refine ⟨b, more, hblanks, ?_⟩
    split_ifs at h with hclosing hfirst hcomma
    · cases h
    · cases h
      exact ⟨hclosing, by simp [hfirst]⟩
    · split at h
      · cases h
      · next c after hmore =>
        split_ifs at h
        cases h
        exact ⟨hclosing, by simp [hfirst, hcomma, hmore]⟩

theorem closeList_closed (h : closeList input = .ok rest) :
    dropBlanks input = ascii ']' :: rest := by
  unfold closeList at h
  split at h
  · cases h
  · split_ifs at h with hclosing
    cases h
    rwa [← hclosing]

/-- A list goes on with an element. -/
theorem Closes.element {first : Bool} (hnext : nextElement first input = .ok (.entry mid))
    (hspan : Spans mid after) (hclose : Closes .list false after rest) :
    Closes .list first input rest := by
  obtain ⟨b, more, hblanks, hclosing, hmid⟩ := nextElement_entry hnext
  cases first with
  | true =>
    obtain rfl : mid = b :: more := hmid
    obtain ⟨steps, hsteps⟩ := hspan.exists_skip hclose
    intro before hopening
    refine ⟨steps + 1, ?_⟩
    simpa [skipFrom, hopening, hblanks, Bracket.closing, hclosing, bind, Except.bind] using hsteps
  | false =>
    obtain ⟨rfl, rfl⟩ : b = ascii ',' ∧ mid = dropBlanks more := hmid
    obtain ⟨steps, hsteps⟩ := hspan.of_dropBlanks.exists_skip hclose
    refine ⟨steps + 1, ?_⟩
    simpa [skipFrom, hblanks, Bracket.closing, hclosing] using hsteps

/-! ### Objects -/

theorem nextKey_closed {first : Bool} (h : nextKey first input = .ok (.closed rest)) :
    dropBlanks input = ascii '}' :: rest := by
  unfold nextKey at h
  split at h
  · cases h
  · split_ifs at h with hclosing
    · cases h
      rwa [← hclosing]
    · cases h
    · split at h
      · cases h
      · split_ifs at h
        cases h

/-- A key comes at once, or after a comma. -/
theorem nextKey_entry {first : Bool} (h : nextKey first input = .ok (.entry mid)) :
    if first then dropBlanks input = ascii '"' :: mid
    else ∃ more, dropBlanks input = ascii ',' :: more ∧ dropBlanks more = ascii '"' :: mid := by
  unfold nextKey at h
  split at h
  · cases h
  · next b more hblanks =>
    split_ifs at h with hclosing hfirst hquote hcomma
    · cases h
    · cases h
      simp [hfirst, hblanks, hquote]
    · split at h
      · cases h
      · next c after hmore =>
        split_ifs at h with hquote
        cases h
        simp [hfirst, hblanks, hcomma, hmore, hquote]

/-- A key that is read is skipped. -/
theorem skipKey_of_textLiteral {name : String} {colon : Bytes}
    (hblanks : dropBlanks input = ascii '"' :: mid) (hkey : textLiteral mid = .ok (name, colon))
    (hcolon : dropColon colon = .ok after) : skipKey input = .ok after := by
  simp only [skipKey, hblanks, if_pos, skipTextFrom_of_textLiteral hkey, bind, Except.bind]
  exact hcolon

/-- An object goes on with a member of a name, and the member's value comes next. -/
def HasMember (first : Bool) (input : Bytes) (name : String) (value : Bytes) : Prop :=
  ∃ mid colon, nextKey first input = .ok (.entry mid) ∧ textLiteral mid = .ok (name, colon) ∧
    dropColon colon = .ok value

section HasMember

variable {first : Bool} {name other : String} {value otherValue : Bytes}

theorem HasMember.not_closed (h : HasMember first input name value) :
    nextKey first input ≠ .ok (.closed rest) := by
  obtain ⟨_, _, hnext, -⟩ := h
  rw [hnext]
  intro heq
  cases heq

/-- There is one next member at most. -/
theorem HasMember.eq (h : HasMember first input name value)
    (hother : HasMember first input other otherValue) : name = other ∧ value = otherValue := by
  obtain ⟨_, _, hnext, hkey, hcolon⟩ := h
  obtain ⟨_, _, hsameNext, hsameKey, hsameColon⟩ := hother
  cases hnext.symm.trans hsameNext
  cases hkey.symm.trans hsameKey
  cases hcolon.symm.trans hsameColon
  exact ⟨rfl, rfl⟩

/-- An object goes on with a member. -/
theorem Closes.member (h : HasMember first input name value) (hspan : Spans value after)
    (hclose : Closes .object false after rest) : Closes .object first input rest := by
  obtain ⟨mid, colon, hnext, hkey, hcolon⟩ := h
  have hentry := nextKey_entry hnext
  obtain ⟨steps, hsteps⟩ := hspan.exists_skip hclose
  have hquote : ascii '"' ≠ ascii '}' := by decide
  have hcomma : ascii ',' ≠ ascii '}' := by decide
  cases first with
  | true =>
    have hblanks : dropBlanks input = ascii '"' :: mid := hentry
    have hskip : skipKey (ascii '"' :: mid) = .ok value := by
      rw [← hblanks]
      exact skipKey_of_textLiteral (by rw [dropBlanks_dropBlanks, hblanks]) hkey hcolon
    intro before hopening
    refine ⟨steps + 1, ?_⟩
    simpa [skipFrom, hopening, hblanks, Bracket.closing, hquote, hskip, bind, Except.bind] using hsteps
  | false =>
    obtain ⟨more, hblanks, hmore⟩ := hentry
    have hskip := skipKey_of_textLiteral hmore hkey hcolon
    refine ⟨steps + 1, ?_⟩
    simpa [skipFrom, hblanks, Bracket.closing, hcomma, hskip, bind, Except.bind] using hsteps

end HasMember

end VirtualTouchpad.Json
