import MediapipeLivelink.Program.Simulation
import MediapipeLivelink.Transmission.Network

namespace MediapipeLivelink

open Asio (accepted)

variable {cv : OpenCV}

namespace Process

variable (os : System) (env : Env cv) (heap : BlendShapeList) (n patience : Nat)

/-- What the system has accepted from a process is what the program transmits,
or the beginning of it when the process is cut short. -/
theorem main_accepted : (main os env heap n patience).Ensures (start cv)
    (fun code t => code=exitCode env n ∧
      accepted t.calls=(transmitted env heap (frameCount env n)).map fun d => (d,serverAddr os))
    (fun e t => ¬IsFault e ∧
      accepted t.calls<+:(transmitted env heap (frameCount env n)).map fun d =>
        (d,serverAddr os)) := by
  obtain ⟨r,hr,hc,hd,-⟩ := run_transmits env heap n
  have ha := main_accounted os env heap n patience
  have hm := main_refines os env heap n patience r hr
  apply (ha.and hm).mono
  · intro code t h
    obtain ⟨⟨d,h⟩,hcode,hw⟩ := h
    have hs := h.handles.accepted
    rw [addressed,hw,hd] at hs
    exact ⟨hcode.trans hc,hs⟩
  · intro e t h
    obtain ⟨⟨d,h⟩,hstop,hw⟩ := h
    have hs := h.handles.accepted
    refine ⟨hstop,?_⟩
    rw [hs,addressed,← hd]
    exact (hw.filterMap _).map _

theorem accepted_start : accepted (run os env heap n patience).2.calls<+:
    (transmitted env heap (frameCount env n)).map fun d => (d,serverAddr os) := by
  have h := main_accepted os env heap n patience
  cases hr : run os env heap n patience with
  | mk r t =>
    cases r with
    | ok code => exact (h.ok hr).2 ▸ List.prefix_refl _
    | error e => exact (h.error hr).2

theorem accepted_returned (code : Option Int) (hr : (run os env heap n patience).1=.ok code) :
    code=exitCode env n ∧ accepted (run os env heap n patience).2.calls=
      (transmitted env heap (frameCount env n)).map fun d => (d,serverAddr os) :=
  (main_accepted os env heap n patience).ok (Prod.ext hr rfl)

/-- The system accepts each face `blend_shape_size` times, face after face, and all of them
from a process that returns. -/
theorem run_accepted :
    accepted (run os env heap n patience).2.calls<+:
        ((transmitted env heap (frameCount env n)).map fun d => (d,serverAddr os)) ∧
      ∀code,(run os env heap n patience).1=.ok code → code=exitCode env n ∧
        accepted (run os env heap n patience).2.calls=
          (transmitted env heap (frameCount env n)).map fun d => (d,serverAddr os) := by
  exact ⟨accepted_start os env heap n patience,accepted_returned os env heap n patience⟩

end Process

end MediapipeLivelink
