import MediapipeLivelink.Framework.Channel
import MediapipeLivelink.Lifecycle.Termination

namespace MediapipeLivelink

open Asio (accepted)

variable {cv : OpenCV}

/-- A datagram is taken for what it is: it is refused when bytes are missing or added at its end,
and no other bytes are read as the same packet. -/
structure Unmistakable (d : Buffer) : Prop where
  cut : ∀t u,d=t++u → u≠[] → receive t=none
  padded : ∀u,u≠[] → receive (d++u)=none
  only : ∀d',receive d'=receive d → d'=d

theorem receive_cut (list : BlendShapeList) (t u : Buffer) (h : packet list=t++u) (hu : u≠[]) :
    receive t=none := by
  have hp : LiveLinkPacket.format.encode (.ofBlendShapes uuid name list)=t++u := h
  have hd := Format.decode_cut LiveLinkPacket.format (.ofBlendShapes uuid name list) t u hp hu
  rw [receive,LiveLinkPacket.read,hd]

theorem receive_padded (list : BlendShapeList) (u : Buffer) (hu : u≠[]) :
    receive (packet list++u)=none := by
  have hd := LiveLinkPacket.format.decode_encode (.ofBlendShapes uuid name list) u
  rw [receive,LiveLinkPacket.read,packet,hd]
  cases u with
  | nil => exact absurd rfl hu
  | cons b u => rfl

theorem receive_only (list : BlendShapeList) (d : Buffer) (h : receive d=receive (packet list)) :
    d=packet list := by
  rw [receive_packet,receive] at h
  cases hd : LiveLinkPacket.read d with
  | none => simp [hd] at h
  | some r =>
    obtain ⟨p,rest⟩ := r
    cases rest with
    | nil =>
      have hp : p=.ofBlendShapes uuid name list := by simpa [hd] using h
      have he := LiveLinkPacket.format.encode_decode d p [] hd
      rw [List.append_nil,hp] at he
      exact he.symm
    | cons b rest => simp [hd] at h

/-- What every run sends is taken for what it is. -/
theorem run_unmistakable (env : Env cv) (heap : BlendShapeList) (n : Nat) :
    Returns (run env heap n) fun r => ∀d∈datagrams r.2.trace,Unmistakable d := by
  apply (run_transmits env heap n).mono
  intro r hr d hd
  rw [hr.2.1] at hd
  obtain ⟨face,hf,hm⟩ := List.mem_flatMap.mp hd
  obtain ⟨k,-,rfl⟩ := List.mem_map.mp hf
  rw [List.eq_of_mem_replicate hm]
  exact ⟨receive_cut _,receive_padded _,receive_only _⟩

namespace Process

section Delivered

variable (os : System) (env : Env cv) (heap : BlendShapeList) (n patience : Nat)

/-- The datagrams that come out of a channel behind the sending system. -/
def received (copies : Nat → Nat) (calls : List Asio.SystemCall) : List Buffer :=
  deliver copies ((accepted calls).map Prod.fst)

theorem received_stutters (copies : Nat → Nat) :
    Stutters (surviving blendShapeSize
        (fun i => if i<(accepted (run os env heap n patience).2.calls).length then copies i else 0)
        (faces env heap (frameCount env n)))
      (received copies (run os env heap n patience).2.calls) := by
  have hr : (accepted (run os env heap n patience).2.calls).map Prod.fst<+:
      transmitted env heap (frameCount env n) := by
    have hm := (accepted_start os env heap n patience).map Prod.fst
    have hf : (Prod.fst ∘ fun d => (d,serverAddr os))=(id : Buffer → Buffer) := rfl
    rwa [List.map_map,hf,List.map_id] at hm
  have ht := List.prefix_iff_eq_take.mp hr
  rw [List.length_map] at ht
  rw [received,ht,deliver_take,transmitted]
  exact deliver_stutters blendShapeSize _ _

/-- Behind a lossy and copying channel, a receiver that may get a packet twice without harm
ends up as if each face of which a datagram came through had been sent once. -/
theorem run_delivered {σ : Type} (copies : Nat → Nat) (f : σ → Buffer → σ)
    (hf : ∀s d,f (f s d) d=f s d) (s : σ) :
    (received copies (run os env heap n patience).2.calls).foldl f s=
      (surviving blendShapeSize
        (fun i => if i<(accepted (run os env heap n patience).2.calls).length then copies i else 0)
        (faces env heap (frameCount env n))).foldl f s :=
  (received_stutters os env heap n patience copies).foldl_eq f hf s

theorem faces_take (m k : Nat) (h : k ≤ m) : (faces env heap m).take k=faces env heap k := by
  rw [faces,← List.map_take,List.take_range,Nat.min_eq_left h,faces]

/-- Bursts of up to 51 losses do no harm: the receiver ends up as after one packet for each
of the first frames, and for all frames when the process has returned. -/
theorem run_burst_tolerant {σ : Type} (copies : Nat → Nat)
    (hb : ∀a,∃i<blendShapeSize,copies (a+i)≠0) (f : σ → Buffer → σ)
    (hf : ∀s d,f (f s d) d=f s d) (s : σ) : ∃k≤frameCount env n,
      (received copies (run os env heap n patience).2.calls).foldl f s=
        (faces env heap k).foldl f s ∧
      ∀code,(run os env heap n patience).1=.ok code → k=frameCount env n := by
  have hs := (received_stutters os env heap n patience copies).foldl_eq f hf s
  have hl : (faces env heap (frameCount env n)).length=frameCount env n := by simp [faces]
  by_cases hr : ∃code,(run os env heap n patience).1=.ok code
  · obtain ⟨code,hr⟩ := hr
    have ha := (accepted_returned os env heap n patience code hr).2
    have hlen : (accepted (run os env heap n patience).2.calls).length=
        blendShapeSize*frameCount env n := by
      rw [ha,List.length_map,transmitted_length]
    have hall : surviving blendShapeSize
        (fun i => if i<(accepted (run os env heap n patience).2.calls).length then copies i else 0)
        (faces env heap (frameCount env n))=faces env heap (frameCount env n) := by
      rw [surviving_eq_iff,hl,hlen]
      intro k hk
      obtain ⟨i,hi,hc⟩ := hb (blendShapeSize*k)
      have hm := Nat.mul_le_mul_left blendShapeSize (Nat.succ_le_of_lt hk)
      have hlt : blendShapeSize*k+i<blendShapeSize*frameCount env n := by
        rw [Nat.mul_succ] at hm
        omega
      exact (comesOut_iff _ _ _).mpr ⟨i,hi,by rw [if_pos hlt]; exact hc⟩
    refine ⟨frameCount env n,Nat.le_refl _,?_,fun _ _ => rfl⟩
    rw [hs,hall]
  · obtain ⟨k,hk,ht⟩ := surviving_cut blendShapeSize copies hb
      (accepted (run os env heap n patience).2.calls).length (faces env heap (frameCount env n))
    rw [hl] at hk
    refine ⟨k,hk,?_,fun code he => absurd ⟨code,he⟩ hr⟩
    rw [hs,ht,faces_take env heap _ k hk]

end Delivered

theorem listAfter_faceless (heap : BlendShapeList) (m : Nat) :
    listAfter (.faceless true 1) heap m=heap := by
  induction m with
  | zero => rfl
  | succ m ih =>
    funext i
    rw [listAfter,ih,overwrite]
    exact ite_self (heap i)

theorem faces_faceless : faces (.faceless true 1) (fun _ => ⟨0⟩) (frameCount (.faceless true 1) 2)=
    [packet fun _ => ⟨0⟩] := by
  have hm : frameCount (.faceless true 1) 2=1 := rfl
  rw [hm,faces,List.range_one,List.map_singleton,listAfter_faceless]

theorem prompt_returns : (run .prompt (.faceless true 1) (fun _ => ⟨0⟩) 2 1).1=.ok (some 0) :=
  (quiet_returns .prompt 1 prompt_serves (.faceless true 1) (fun _ => ⟨0⟩) 2 fun _ => rfl).1

theorem prompt_accepted :
    (accepted (run .prompt (.faceless true 1) (fun _ => ⟨0⟩) 2 1).2.calls).length=52 := by
  rw [(quiet_returns .prompt 1 prompt_serves (.faceless true 1) (fun _ => ⟨0⟩) 2 fun _ => rfl).2,
    List.length_map,transmitted_length]
  rfl

/-- A receiver that keeps the last packet has it when every second datagram is lost. -/
theorem delivered_prompt :
    (accepted (run .prompt (.faceless true 1) (fun _ => ⟨0⟩) 2 1).2.calls).length=52 ∧
      (received (fun i => i%2) (run .prompt (.faceless true 1) (fun _ => ⟨0⟩) 2 1).2.calls).foldl
        (fun _ d => some d) none=some (packet fun _ => ⟨0⟩) := by
  refine ⟨prompt_accepted,?_⟩
  rw [run_delivered .prompt (.faceless true 1) (fun _ => ⟨0⟩) 2 1 (fun i => i%2)
    (fun _ d => some d) (fun _ _ => rfl) none,prompt_accepted,faces_faceless]
  have hcopy : comesOut (fun i => if i<52 then i%2 else 0) 0 blendShapeSize=true := by decide
  rw [surviving,if_pos hcopy]
  rfl

/-- One datagram in 52 is enough. -/
theorem burst_tolerant_prompt :
    (accepted (run .prompt (.faceless true 1) (fun _ => ⟨0⟩) 2 1).2.calls).length=52 ∧
      (received (fun i => if i%52=0 then 1 else 0)
        (run .prompt (.faceless true 1) (fun _ => ⟨0⟩) 2 1).2.calls).foldl
        (fun _ d => some d) none=some (packet fun _ => ⟨0⟩) := by
  obtain ⟨k,-,hk,hall⟩ := run_burst_tolerant .prompt (.faceless true 1) (fun _ => ⟨0⟩) 2 1
    (fun i => if i%52=0 then 1 else 0)
    (fun a => ⟨(52-a%52)%52,by unfold blendShapeSize; omega,by rw [if_pos (by omega)]; decide⟩)
    (fun _ d => some d) (fun _ _ => rfl) none
  refine ⟨prompt_accepted,?_⟩
  rw [hk,hall (some 0) prompt_returns,faces_faceless]
  rfl

end Process

end MediapipeLivelink
