/-
# The declared surface

A rig keeps a configuration whose sizes are at least one.  When it is attached, each
touchpad's sink is told the greatest coordinates, which are one less than the sizes; and a
touch sends no contact with greater coordinates (`touches_on_surface`).  Taking one from a
size does not overflow, however small the sizes of the configuration were at first.
-/
import VirtualTouchpad.Proofs.Numeric.Coordinates
import VirtualTouchpad.Proofs.Touchpad.Attaching

namespace VirtualTouchpad

/-! ## Sizes -/

namespace Config

/-- What is raised to one is one at least. -/
theorem one_le_raised (n : Int32) : 1 ≤ (if n < 1 then 1 else n).toInt := by
  split
  · decide
  · next h => exact Int32.le_iff_toInt_le.mp (Int32.not_lt.mp h)

theorem one_le_clamped (config : Config) : 1 ≤ config.clamped.width.toInt
    ∧ 1 ≤ config.clamped.height.toInt ∧ 1 ≤ config.clamped.slots.toInt :=
  ⟨one_le_raised _, one_le_raised _, one_le_raised _⟩

end Config

namespace Rig

variable {rig : Rig} {sink : SinkId}

/-! ## What is declared -/

/-- The ranges that a sink is told are those of the configuration. -/
theorem multiTouch_of_attach {x0 y0 x1 y1 : Int32}
    (h : .configureMultiTouch x0 y0 x1 y1 ∈ received sink (rig.effects .attach)) :
    x0 = 0 ∧ y0 = 0 ∧ x1 = rig.config.width - 1 ∧ y1 = rig.config.height - 1 := by
  obtain ⟨name, hmem⟩ := mem_received_attachingEach h
  simpa [bracket] using hmem

/-- So is the number of contacts. -/
theorem slots_of_attach {slots : Int32}
    (h : .configureSlots slots ∈ received sink (rig.effects .attach)) :
    slots = rig.config.slots := by
  obtain ⟨name, hmem⟩ := mem_received_attachingEach h
  simpa [bracket] using hmem

/-- A touchpad that is attached has a sink that was told the ranges. -/
theorem mem_received_attach {id : Nat} (h : (rig.act .attach).1.sinkAt? id = some sink) :
    .configureMultiTouch 0 0 (rig.config.width - 1) (rig.config.height - 1)
      ∈ received sink (rig.effects .attach) := by
  obtain ⟨-, -, -, hsinks, hcalls, -⟩ := attach_all rig
  have hid : id < rig.pads.length := by
    obtain ⟨pad, ownership, hpad, -⟩ := sinkAt?_eq_some_iff.mp h
    rw [← length_pads_act rig .attach]
    exact (List.getElem?_eq_some_iff.mp hpad).1
  have hheld : rig.sinkOnceAttached id = sink := Option.some.inj ((hsinks id hid).symm.trans h)
  rw [hcalls sink, List.mem_flatMap]
  refine ⟨id, List.mem_range.mpr hid, ?_⟩
  rw [if_pos hheld]
  simp [bracket]

/-! ## What is sent -/

/-- The contacts of a touch's frame are at the touch's coordinates. -/
theorem contact_of_mem_touchFrame {pad : Pad} {position : Int32 × Int32}
    {slot tracking X Y : Int32} (h : .contact slot tracking X Y ∈ pad.touchFrame position) :
    X = position.1 ∧ Y = position.2 := by
  have hmoved : Call.contact slot tracking X Y
      = .contact touchSlot touchTracking position.1 position.2 := by
    rw [Pad.touchFrame] at h
    cases hcontact : pad.contact with
    | hovering | continuing =>
      simp only [hcontact] at h
      split at h
      · cases h
      · simpa using h
    | starting =>
      simp only [hcontact] at h
      simpa using h
    | ending => simp [hcontact] at h
  injection hmoved with _ _ hX hY
  exact ⟨hX, hY⟩

/-- A touch sends no contact but that of its own coordinates, and none unless it is in range. -/
theorem contact_of_touch {id : Nat} {x y pressure : Single} {slot tracking X Y : Int32}
    (h : .contact slot tracking X Y ∈ received sink (rig.effects (.touch id x y pressure))) :
    (x.InUnit ∧ y.InUnit)
      ∧ X = x.coordinate rig.config.width ∧ Y = y.coordinate rig.config.height := by
  rw [effects, sampling] at h
  split at h
  · cases h
  split at h
  · next pad _ frame _ hframe =>
    have hmem := mem_of_mem_received_driving h
    rw [Pad.frame?] at hframe
    split at hframe
    · next hin =>
      obtain rfl := Option.some.inj hframe
      exact ⟨⟨Single.isPosition_iff.mp hin.1, Single.isPosition_iff.mp hin.2⟩,
        contact_of_mem_touchFrame hmem⟩
    · cases hframe
  · cases h

/-- **Touches stay on the declared surface.**  Whatever the configuration, and whatever happened
before a rig is attached: no size and no number of contacts is so small that one less overflows,
neither in the rig nor in a sink that it configures; each touchpad's sink is told the greatest
coordinates; and whatever happens between that and a touch, what the touch sends are its coordinates,
and they lie between zero and those that the sink was told.  On an axis whose size is a power of two
positions are scaled without rounding. -/
theorem touches_on_surface (config : Config) (factory : Factory) (rack : Rack)
    (before between : List Step) :
    let start := (new config factory rack).steps before
    let rig := start.steps (.call .attach :: between)
    (∀ size ∈ [rig.config.width, rig.config.height, rig.config.slots],
        (size - 1).toInt = size.toInt - 1)
      ∧ (∀ (sink : SinkId) (slots : Int32),
        .configureSlots slots ∈ received sink (start.effects .attach) →
          (slots - 1).toInt = slots.toInt - 1)
      ∧ (∀ (id : Nat) (sink : SinkId), (start.act .attach).1.sinkAt? id = some sink →
        .configureMultiTouch 0 0 (rig.config.width - 1) (rig.config.height - 1)
          ∈ received sink (start.effects .attach))
      ∧ (∀ (id : Nat) (x y pressure : Single) (sink : SinkId) (slot tracking X Y : Int32),
        .contact slot tracking X Y ∈ received sink (rig.effects (.touch id x y pressure)) →
          X = x.coordinate rig.config.width ∧ Y = y.coordinate rig.config.height
          ∧ ∀ x0 y0 x1 y1 : Int32,
            .configureMultiTouch x0 y0 x1 y1 ∈ received sink (start.effects .attach) →
              (x0 = 0 ∧ 0 ≤ X ∧ X ≤ x1) ∧ y0 = 0 ∧ 0 ≤ Y ∧ Y ≤ y1)
      ∧ ∀ (size : Int32) (k : Nat), size.toInt = 2 ^ k → Single.ScalesExactly size := by
  intro start rig
  obtain ⟨hwidth, hheight, hslots⟩ := config.one_le_clamped
  have hstart : start.config = config.clamped := config_steps _ before
  have hrig : rig.config = config.clamped := (config_steps start _).trans hstart
  refine ⟨?_, ?_, ?_, ?_, fun size k => Single.scalesExactly_of_two_pow⟩
  · rw [hrig]
    simp only [List.mem_cons, List.not_mem_nil, or_false]
    rintro size (rfl | rfl | rfl)
    · exact toInt_sub_one hwidth
    · exact toInt_sub_one hheight
    · exact toInt_sub_one hslots
  · intro sink slots hmem
    rw [slots_of_attach hmem, hstart]
    exact toInt_sub_one hslots
  · intro id sink hsink
    rw [hrig, ← hstart]
    exact mem_received_attach hsink
  · intro id x y pressure sink slot tracking X Y hmem
    obtain ⟨⟨hx, hy⟩, rfl, rfl⟩ := contact_of_touch hmem
    refine ⟨rfl, rfl, fun x0 y0 x1 y1 htold => ?_⟩
    obtain ⟨rfl, rfl, rfl, rfl⟩ := multiTouch_of_attach htold
    rw [hrig, hstart]
    exact ⟨⟨rfl, Single.coordinate_bounds hx hwidth⟩, rfl, Single.coordinate_bounds hy hheight⟩

/-- A height of the least integer and no contacts: the surface is one unit high, and a touch in the
middle of it has the middle of the width, which is that of a size that nothing is rounded for. -/
theorem touches_on_surface_flat :
    let config := { Config.standard with height := Int32.minValue, slots := 0 }
    let half : Single := ⟨0x3F000000⟩
    let start := new config (.recorders []) ⟨[], .new []⟩
    let rig := start.steps [.call .attach]
    .configureMultiTouch 0 0 0xFFFF 0 ∈ received 0 (start.effects .attach)
      ∧ .contact 0 0 0x8000 0 ∈ received 0 (rig.effects (.touch 0 half half .one))
      ∧ half.coordinate rig.config.height = 0
      ∧ (∃ x : Single, x.InUnit ∧ x.coordinate 0x10000 = 0xFFFF) := by
  intro config half start rig
  obtain ⟨-, -, htold, hsent, hexact⟩ :=
    touches_on_surface config (.recorders []) ⟨[], .new []⟩ [] []
  have hmem : .contact 0 0 0x8000 0 ∈ received 0 (rig.effects (.touch 0 half half .one)) := by
    decide +kernel
  obtain ⟨-, hheight, -⟩ := hsent 0 half half .one 0 0 0 0x8000 0 hmem
  have hdeclared : .configureMultiTouch 0 0 (rig.config.width - 1) (rig.config.height - 1)
      ∈ received 0 (start.effects .attach) := htold 0 0 (by decide +kernel)
  have hgreatest : rig.config.width - 1 = 0xFFFF ∧ rig.config.height - 1 = 0 := by decide
  rw [hgreatest.1, hgreatest.2] at hdeclared
  refine ⟨hdeclared, hmem, hheight.symm, ?_⟩
  exact (hexact 0x10000 16 (by decide)).reached (by decide) 0xFFFF (by decide) (by decide)

end Rig

end VirtualTouchpad
