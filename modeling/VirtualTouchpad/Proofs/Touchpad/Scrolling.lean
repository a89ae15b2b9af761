/-
# Scrolling by detents

What a scroll sends to the sink of an attached touchpad is decided by which of the two
amounts are zero: an event for the horizontal wheel unless the first is, one for the other
wheel unless the second is, and one report if there was an event.  Each event has the
detents of its amount, so no amount is too small to be noticed.
-/
import VirtualTouchpad.Proofs.Numeric.Detents
import VirtualTouchpad.Proofs.Touchpad.Holding

namespace VirtualTouchpad

variable {x y : Single}

/-- The events of a wheel that turns by an amount. -/
def wheelEvents (axis : UInt16) (amount : Single) : List Call :=
  if amount.number? = some 0 then [] else [.rel axis amount.detents]

/-- Only amounts of zero leave a wheel without an event. -/
theorem wheelEvents_eq (h : x.InSpan) (axis : UInt16) :
    wheelEvents axis x = if x.detents = 0 then [] else [.rel axis x.detents] := by
  simp only [wheelEvents, Single.detents_eq_zero_iff h]

theorem wheelEvents_eq_nil_iff {axis : UInt16} : wheelEvents axis x = [] ↔ x.number? = some 0 := by
  rw [wheelEvents]
  split <;> simp_all

/-- The frame of a scroll: the events of both wheels, and a report if there are any. -/
theorem scrollFrame_eq (hx : x.InSpan) (hy : y.InSpan) :
    scrollFrame x.detents y.detents
      = wheelEvents RelAxis.horizontalWheel x ++ wheelEvents RelAxis.wheel y
        ++ if x.number? = some 0 ∧ y.number? = some 0 then [] else [.synReport] := by
  have hnone : wheelEvents RelAxis.horizontalWheel x ++ wheelEvents RelAxis.wheel y = []
      ↔ x.number? = some 0 ∧ y.number? = some 0 := by
    rw [List.append_eq_nil_iff, wheelEvents_eq_nil_iff, wheelEvents_eq_nil_iff]
  rw [scrollFrame, ← wheelEvents_eq hx, ← wheelEvents_eq hy]
  simp only [hnone]
  split
  · next hzero => rw [hnone.mpr hzero, List.append_nil]
  · rfl

namespace Rig

/-- **A scroll of an attached touchpad** drives its sink with the frame of the two amounts. -/
theorem effects_scroll {rig : Rig} {id : Nat} {sink : SinkId} (hsink : rig.sinkAt? id = some sink)
    (hx : x.InSpan) (hy : y.InSpan) :
    rig.effects (.scroll id x y) = driving sink (scrollFrame x.detents y.detents) := by
  obtain ⟨pad, ownership, hpad, hheld⟩ := sinkAt?_eq_some_iff.mp hsink
  have hframe : pad.frame? rig.config (.scroll id x y)
      = some (scrollFrame x.detents y.detents) := by
    rw [Pad.frame?, if_pos ⟨Single.isScrollAmount_iff.mpr hx, Single.isScrollAmount_iff.mpr hy⟩]
  rw [effects, sampling, hpad]
  simp only [hheld, hframe]

/-- **Scrolling by detents.**  Four times an amount, rounded away from zero and brought within 32
bits, is what every float that is a number scrolls by; infinities scroll as far as 32 bits go, and
a NaN by nothing.  Among the amounts from minus one to one this is odd and monotone, at most
four either way, and zero for no amounts but the zeros.  So a scroll by such amounts gives the sink
of an attached touchpad an event for each amount that is not zero, the horizontal one first, and a
report if either is not; and it gives other sinks nothing. -/
theorem scrolls_by_detents :
    (∀ (x : Single) (q : ℚ), x.number? = some q → x.detents.toInt = within32 (detentsOf q))
    ∧ (∀ (x : Single) (negative : Bool), x.reading = .infinite negative →
        x.detents.toInt = if negative then -0x80000000 else 0x7FFFFFFF)
    ∧ (∀ x : Single, x.reading = .nan → x.detents = 0)
    ∧ Single.DetentsFit
    ∧ ∀ (rig : Rig) (id : Nat) (sink : SinkId) (x y : Single), rig.sinkAt? id = some sink →
        x.InSpan → y.InSpan →
        (rig.act (.scroll id x y)).1.rack = rig.rack.performAll (rig.effects (.scroll id x y))
        ∧ received sink (rig.effects (.scroll id x y))
          = wheelEvents RelAxis.horizontalWheel x ++ wheelEvents RelAxis.wheel y
            ++ (if x.number? = some 0 ∧ y.number? = some 0 then [] else [.synReport])
        ∧ ∀ other, sink ≠ other → received other (rig.effects (.scroll id x y)) = [] := by
  refine ⟨fun x q => Single.toInt_detents, fun x negative => Single.toInt_detents_of_infinite,
    fun x => Single.detents_of_nan, Single.detentsFit, fun rig id sink x y hsink hx hy => ?_⟩
  have heffects := effects_scroll hsink hx hy
  refine ⟨rack_act rig _, ?_, fun other hne => ?_⟩
  · rw [heffects, received_driving_self, scrollFrame_eq hx hy]
  · rw [heffects, received_driving_of_ne hne]

/-- A quarter is worth one detent, but what comes past it is worth two; the least amount above zero is
worth one, and an attached touchpad's sink gets it. -/
theorem scrolls_by_detents_least :
    let least : Single := ⟨1#32⟩
    let quarter : Single := Binary.ofRatio .single false 1 4
    let past : Single := ⟨quarter.bits + 1⟩
    let rig := ((new .standard (.recorders []) ⟨[], .new []⟩).act .attach).1
    Single.detents quarter = 1 ∧ Single.detents (.infinity .single true) = Int32.minValue
      ∧ Single.detents (.nan .single) = 0
      ∧ received 1 (rig.effects (.scroll 1 least past.neg))
        = [.rel RelAxis.horizontalWheel 1, .rel RelAxis.wheel (-2), .synReport]
      ∧ received 1 (rig.effects (.scroll 1 (Binary.zero .single true) (Binary.zero .single false))) = [] := by
  intro least quarter past rig
  obtain ⟨hnumbers, hinfinite, hnan, -, hscroll⟩ := scrolls_by_detents
  have hquarter : quarter.number? = some (1 / 4) := by decide +kernel
  have hsink : rig.sinkAt? 1 = some 1 := by decide +kernel
  have hscrolled := (hscroll rig 1 1 least past.neg hsink (by decide +kernel) (by decide +kernel)).2.1
  have hstill := (hscroll rig 1 1 (Binary.zero .single true) (Binary.zero .single false) hsink
    (by decide +kernel) (by decide +kernel)).2.1
  refine ⟨?_, ?_, hnan _ (by decide +kernel), ?_, ?_⟩
  · exact Int32.toInt.inj ((hnumbers quarter _ hquarter).trans (by decide +kernel))
  · exact Int32.toInt.inj ((hinfinite _ true (by decide +kernel)).trans (by decide))
  · exact hscrolled.trans (by decide +kernel)
  · exact hstill.trans (by decide +kernel)

end Rig

end VirtualTouchpad
