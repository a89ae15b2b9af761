/-
# Delivering a frame

The end of a frame writes the frame to the host's device.  Whatever faults the host has,
the device takes a beginning of the encoding, and all of it if and only if the write does
not fail; and the frame is empty then, so that what is written later was reported later
(`Device.frame_operateAll`).

`Device.frame_whole_or_cut` says this of any events that wait in a sink that is ready.
-/
import VirtualTouchpad.Proofs.Input.Reading
import VirtualTouchpad.Proofs.Sink.Lifecycle

namespace VirtualTouchpad

namespace Device

/-! ## What waits in the frame -/

/-- The events that operations put into the frame, one after the other. -/
def queuedAll (d : Device) (host : Host) : List Operation → List InputEvent
  | [] => []
  | operation :: operations =>
    d.queuedBy operation
      ++ (d.operate host operation).2.queuedAll (d.operate host operation).1 operations

/-- **A run**: the events that wait in the end are the last of those that were there before and those
that were put into the frame. -/
theorem frame_operateAll (d : Device) (host : Host) (operations : List Operation) :
    (d.operateAll host operations).2.frame <:+ d.frame ++ d.queuedAll host operations := by
  induction operations generalizing d host with
  | nil =>
    show d.frame <:+ d.frame ++ []
    exact ⟨[], (List.append_nil d.frame).symm⟩
  | cons operation operations ih =>
    obtain ⟨before, hbefore⟩ := d.frame_operate_suffix host operation
    have hlater := ih (d.operate host operation).2 (d.operate host operation).1
    show _ <:+ d.frame ++ (d.queuedBy operation ++ _)
    rw [← List.append_assoc, ← hbefore, List.append_assoc]
    exact List.suffix_append_of_suffix hlater

/-! ## The end of a frame -/

/-- **A frame is delivered whole or cut**: whatever events wait in a sink that is ready, and whatever
faults its host has.  Each call of the write goes as the faults have it and offers the bytes that
are left; what the device takes of them makes up a beginning of the encoding of the events and the
end, and all of it if and only if the write does not fail.  The whole is read back as just these
events.  A failure is kept, unless there is one already; and the frame is empty then, so that all
that ever waits there again was put into it later. -/
theorem frame_whole_or_cut (path : String) (start host : Host) (operations : List Operation)
    (frame : List InputEvent)
    (hready : ((new path).operateAll start operations).2.stage = .ready) :
    let d := { ((new path).operateAll start operations).2 with frame := frame }
    let bytes := (frame ++ [InputEvent.synReport]).flatMap InputEvent.bytes
    let after := (d.receive host .synReport).2
    decode bytes = frame ++ [InputEvent.synReport]
      ∧ (∃ n writes failure, d.node = some n
        ∧ d.receive host .synReport = (host.recordAll writes,
          { d with
            frame := []
            status := d.status <|> failure.map (.io "write uinput frame") })
        ∧ Host.Delivers n host bytes writes failure
        ∧ acceptedBytes writes <+: bytes
        ∧ (acceptedBytes writes = bytes ↔ failure = none))
      ∧ ∀ (later : Host) (operations : List Operation),
        (after.operateAll later operations).2.frame <:+ after.queuedAll later operations := by
  intro d bytes after
  obtain ⟨n, hnode⟩ := ((equipped_new path).operateAll start operations).exists_node hready
  have hsyn : d.receive host .synReport = _ := synReport_eq (d := d) hready hnode host
  obtain ⟨writes, hhost, hdelivers⟩ := host.write_delivers n d.payload
  refine ⟨decode_flatMap _, ⟨n, writes, (host.write n d.payload).2, hnode, ?_, hdelivers,
    hdelivers.offers.accepted_prefix, hdelivers.accepted_eq_iff⟩, fun later operations => ?_⟩
  · rw [hsyn, hhost]
  · have hclear : after.frame = [] := congrArg (fun result => result.2.frame) hsyn
    have hframe := after.frame_operateAll later operations
    rw [hclear] at hframe
    exact hframe

/-- A write is interrupted, then cut inside the second of two events, then it fails: the device has
taken 30 bytes, the failure is kept, and the frame is empty. -/
theorem frame_whole_or_cut_inside_event :
    let begun : List Operation := [.call (.configureBegin ⟨"pad", virtualBus, 0, 0, 1⟩),
      .call (.configureKey KeyCode.back), .call (.configureRel RelAxis.wheel), .call .configureEnd]
    let d := { ((new "/dev/uinput").operateAll (.new []) begun).2 with
      frame := [⟨EventType.rel, RelAxis.wheel, -1⟩, ⟨EventType.key, KeyCode.back, 1⟩] }
    let host := Host.new [⟨"write", 1, .fails Errno.interrupted⟩, ⟨"write", 2, .takes 30⟩,
      ⟨"write", 3, .fails 5⟩]
    acceptedBytes (d.receive host .synReport).1.events = d.payload.take 30
      ∧ decode d.payload = d.frame ++ [InputEvent.synReport]
      ∧ (d.receive host .synReport).2
        = { d with frame := [], status := some (.io "write uinput frame" (.os 5)) } := by
  intro begun d host
  have hready : ((new "/dev/uinput").operateAll (.new []) begun).2.stage = .ready := by
    decide +kernel
  obtain ⟨hdecode, ⟨n, writes, failure, -, hsyn, -, hprefix, -⟩, -⟩ :=
    frame_whole_or_cut "/dev/uinput" (.new []) host begun
      [⟨EventType.rel, RelAxis.wheel, -1⟩, ⟨EventType.key, KeyCode.back, 1⟩] hready
  have hwrites : (d.receive host .synReport).1.events = writes := congrArg (·.1.events) hsyn
  have htaken : (acceptedBytes (d.receive host .synReport).1.events).length = 30 := by
    decide +kernel
  refine ⟨?_, hdecode, ?_⟩
  · rw [hwrites] at htaken ⊢
    rw [← htaken]
    exact List.prefix_iff_eq_take.mp hprefix
  · decide +kernel

end Device

end VirtualTouchpad
