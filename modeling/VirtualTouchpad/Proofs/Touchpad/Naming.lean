/-
# Names of devices

The name of a device is the template with the device's number for each placeholder.  Two
numbers may have decimal texts of different lengths, and then everything after the first
placeholder is shifted; but then the names have different lengths too, as many times over as
there are placeholders (`length_fillBraces`).  Texts of one length stand in the same places,
so the first placeholder tells them apart (`eq_of_fillBraces_eq`).

So names tell devices apart exactly if the template has a placeholder, and what attaching
names the devices is distinct exactly if it has, or there is but one device.
-/
import Mathlib.Data.List.Nodup
import VirtualTouchpad.Proofs.Touchpad.Attaching

namespace VirtualTouchpad

namespace Config

/-! ## Placeholders -/

/-- How many placeholders there are to fill. -/
def placeholders : List Char → Nat
  | '{' :: '}' :: rest => placeholders rest + 1
  | _ :: rest => placeholders rest
  | [] => 0

/-- Whether the names of a configuration show the number of the device. -/
def HasPlaceholder (config : Config) : Prop := ['{', '}'] <:+: config.nameTemplate.toList

instance (config : Config) : Decidable config.HasPlaceholder :=
  inferInstanceAs (Decidable (['{', '}'] <:+: config.nameTemplate.toList))

theorem placeholders_eq_zero_iff (template : List Char) :
    placeholders template = 0 ↔ ¬ ['{', '}'] <:+: template := by
  fun_induction placeholders template with
  | case1 rest ih => simp [List.infix_cons_iff]
  | case2 c rest hnone ih =>
    have hfirst : ¬ ['{', '}'] <+: c :: rest := by
      rintro ⟨later, hlater⟩
      injection hlater with hc hrest
      exact hnone later hc.symm hrest.symm
    rw [ih, List.infix_cons_iff]
    simp [hfirst]
  | case3 => simp

/-! ## Filling -/

/-- Each placeholder gives up its two braces for the filling. -/
theorem length_fillBraces (filling template : List Char) :
    (fillBraces filling template).length + 2 * placeholders template
      = template.length + filling.length * placeholders template := by
  fun_induction fillBraces filling template with
  | case1 rest ih =>
    rw [placeholders, List.length_append, Nat.mul_add, Nat.mul_add]
    simp only [List.length_cons]
    omega
  | case2 c rest hnone ih =>
    rw [placeholders.eq_2 _ _ hnone, List.length_cons, List.length_cons]
    omega
  | case3 => rfl

/-- Without placeholders nothing is filled in. -/
theorem fillBraces_of_placeholders {template : List Char} (h : placeholders template = 0)
    (filling : List Char) : fillBraces filling template = template := by
  fun_induction fillBraces filling template with
  | case1 rest ih => simp [placeholders] at h
  | case2 c rest hnone ih =>
    rw [placeholders.eq_2 _ _ hnone] at h
    rw [ih h]
  | case3 => rfl

/-- Fillings of one length are told apart by the first placeholder. -/
theorem eq_of_length_eq {filling other template : List Char}
    (hlength : filling.length = other.length) (hsome : placeholders template ≠ 0)
    (h : fillBraces filling template = fillBraces other template) : filling = other := by
  fun_induction fillBraces filling template with
  | case1 rest ih => exact (List.append_inj h hlength).1
  | case2 c rest hnone ih =>
    rw [placeholders.eq_2 _ _ hnone] at hsome
    rw [fillBraces.eq_2 _ _ _ hnone] at h
    exact ih hsome (List.cons.inj h).2
  | case3 => exact absurd rfl hsome

/-- **Fillings are told apart** by what they make of a template with a placeholder. -/
theorem eq_of_fillBraces_eq {filling other template : List Char}
    (hsome : placeholders template ≠ 0)
    (h : fillBraces filling template = fillBraces other template) : filling = other := by
  have hfilled := length_fillBraces filling template
  have hother := length_fillBraces other template
  rw [h] at hfilled
  have hlength : filling.length * placeholders template = other.length * placeholders template := by
    omega
  exact eq_of_length_eq (Nat.eq_of_mul_eq_mul_right (Nat.pos_of_ne_zero hsome) hlength) hsome h

/-- Numbers are told apart by their decimal texts. -/
theorem toDigits_inj {i j : Nat} (h : Nat.toDigits 10 i = Nat.toDigits 10 j) : i = j := by
  rw [← Nat.ofDigitChars_ten_toDigits (n := i), h, Nat.ofDigitChars_ten_toDigits]

/-- Two devices have the same name exactly if the template has no placeholder. -/
theorem deviceName_eq_iff (config : Config) {i j : Nat} (hne : i ≠ j) :
    config.deviceName i = config.deviceName j ↔ ¬ config.HasPlaceholder := by
  rw [deviceName, deviceName, String.ofList_inj, HasPlaceholder, ← placeholders_eq_zero_iff]
  constructor
  · intro h
    by_contra hsome
    exact hne (toDigits_inj (eq_of_fillBraces_eq hsome h))
  · intro hzero
    rw [fillBraces_of_placeholders hzero, fillBraces_of_placeholders hzero]

/-- The names of so many devices are distinct exactly if the template has a placeholder or there
are not two devices. -/
theorem nodup_deviceNames_iff (config : Config) (n : Nat) :
    ((List.range n).map config.deviceName).Nodup ↔ n ≤ 1 ∨ config.HasPlaceholder := by
  by_cases hplaceholder : config.HasPlaceholder
  · have hinjective : Function.Injective config.deviceName := by
      intro i j h
      by_contra hne
      exact (config.deviceName_eq_iff hne).mp h hplaceholder
    simp only [hplaceholder, or_true, iff_true]
    exact List.nodup_range.map hinjective
  · simp only [hplaceholder, or_false]
    constructor
    · intro hnodup
      by_contra hmore
      have hsame := (config.deviceName_eq_iff Nat.zero_ne_one).mpr hplaceholder
      exact Nat.zero_ne_one (List.inj_on_of_nodup_map hnodup (List.mem_range.mpr (by omega))
        (List.mem_range.mpr (by omega)) hsame)
    · intro hfew
      have hcases : n = 0 ∨ n = 1 := by omega
      rcases hcases with rfl | rfl <;> simp

theorem devices_ne_zero {config : Config} (h : config.validate = .ok ()) : config.devices ≠ 0 := by
  intro hzero
  rw [validate, if_pos hzero] at h
  cases h

end Config

/-! ## Naming the devices of a rig -/

/-- Which sink gets which name, if any does. -/
def Effect.naming? : Effect → Option (SinkId × String)
  | .done sink (.call (.configureBegin identity)) => some (sink, identity.name)
  | _ => none

namespace Rig

theorem naming?_driving (sink : SinkId) (config : Config) (name : String) :
    (driving sink (bracket config name)).filterMap Effect.naming? = [(sink, name)] := rfl

/-- Attaching names each touchpad's sink once. -/
theorem naming?_attachment (rig : Rig) (id : Nat) :
    (rig.attachment id).filterMap Effect.naming?
      = [(rig.sinkOnceAttached id, rig.config.deviceName id)] := by
  rw [attachment, List.filterMap_append, naming?_driving]
  split <;> rfl

/-- The names that attaching gives, in the order of the touchpads. -/
theorem naming?_effects_attach (rig : Rig) :
    (rig.effects .attach).filterMap Effect.naming?
      = (List.range rig.pads.length).map fun id =>
          (rig.sinkOnceAttached id, rig.config.deviceName id) := by
  have heffects : rig.effects .attach = (List.range rig.pads.length).flatMap rig.attachment :=
    (attachEach_first rig (Nat.le_refl _)).1
  rw [heffects, List.filterMap_flatMap]
  simp only [naming?_attachment, List.map_eq_flatMap]

/-- **Distinct names.**  Whatever the template, two devices have the same name exactly if it has no
placeholder.  So attaching, after whatever else was done to a rig of a valid configuration, names
the touchpads' sinks distinctly exactly if there is one touchpad or the template has a
placeholder. -/
theorem named_apart_iff :
    (∀ (config : Config) (i j : Nat), i ≠ j →
      (config.deviceName i = config.deviceName j ↔ ¬ config.HasPlaceholder))
    ∧ ∀ (config : Config) (factory : Factory) (rack : Rack) (steps : List Step),
        config.validate = .ok () →
        let rig := (new config factory rack).steps steps
        let named := (rig.effects .attach).filterMap Effect.naming?
        named = (List.range config.devices.toNat).map (fun id =>
            (rig.sinkOnceAttached id, config.deviceName id))
          ∧ ((named.map Prod.snd).Nodup ↔ config.devices = 1 ∨ config.HasPlaceholder) := by
  refine ⟨fun config i j => config.deviceName_eq_iff, fun config factory rack steps hvalid => ?_⟩
  intro rig named
  have hlength : rig.pads.length = config.devices.toNat := by
    rw [length_pads_steps]
    exact List.length_replicate
  have hconfig : rig.config = config.clamped := config_steps _ _
  have hnamed : named = (List.range config.devices.toNat).map fun id =>
      (rig.sinkOnceAttached id, config.deviceName id) := by
    rw [← hlength]
    refine (naming?_effects_attach rig).trans ?_
    rw [hconfig]
    rfl
  have hone : config.devices.toNat ≤ 1 ↔ config.devices = 1 := by
    have hsome := Config.devices_ne_zero hvalid
    rw [Ne, ← UInt64.toNat_inj, UInt64.toNat_zero] at hsome
    rw [← UInt64.toNat_inj, UInt64.toNat_one]
    omega
  refine ⟨hnamed, ?_⟩
  rw [hnamed, List.map_map, ← hone]
  exact config.nodup_deviceNames_iff _

/-- A stray brace before the placeholder and another placeholder after it: the ninth and the tenth
device have names of different lengths.  Without the inner brace there is none. -/
theorem named_apart_iff_stray :
    let stray := { Config.standard with devices := 11, nameTemplate := "\x7b\x7b\x7d-\x7b\x7d\x7d" }
    let split := { Config.standard with devices := 2, nameTemplate := "\x7b \x7d" }
    let rig := (new split (.recorders []) ⟨[], .new []⟩).steps []
    stray.deviceName 9 ≠ stray.deviceName 10
      ∧ (rig.effects .attach).filterMap Effect.naming? = [(0, "\x7b \x7d"), (1, "\x7b \x7d")]
      ∧ ¬ (((rig.effects .attach).filterMap Effect.naming?).map Prod.snd).Nodup := by
  intro stray split rig
  obtain ⟨heach, hall⟩ := named_apart_iff
  have hplaceholder : stray.HasPlaceholder := by decide
  have hnone : ¬ split.HasPlaceholder := by decide
  obtain ⟨hnamed, hnodup⟩ := hall split (.recorders []) ⟨[], .new []⟩ [] (by decide)
  refine ⟨fun hsame => (heach stray 9 10 (by decide)).mp hsame hplaceholder, ?_, ?_⟩
  · exact hnamed.trans (by decide +kernel)
  · exact fun h => (hnodup.mp h).elim (by decide) hnone

end Rig

end VirtualTouchpad
