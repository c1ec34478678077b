import MediapipeLivelink.Program.Rules
import MediapipeLivelink.Transmission.Refinement

namespace MediapipeLivelink

open Asio (Descriptor Handles accepted)

variable {cv : OpenCV}

/-- The datagrams of a trace, each with the bytes of the address it goes to. -/
def addressed (addr : Buffer) (t : List (Event cv)) : List (Buffer×Buffer) :=
  (datagrams t).map fun d => (d,addr)

theorem addressed_append (addr : Buffer) (t u : List (Event cv)) :
    addressed addr (t++u)=addressed addr t++addressed addr u := by
  simp only [addressed,datagrams,List.filterMap_append,List.map_append]

namespace Process

theorem datagrams_quiet (es : List (Event cv)) (h : ∀e∈es,Quiet e) : datagrams es=[] := by
  apply List.filterMap_eq_nil_iff.mpr
  intro e he
  have hq := h e he
  cases e <;> first | rfl | contradiction

theorem addressed_quiet (addr : Buffer) (es : List (Event cv)) (h : ∀e∈es,Quiet e) :
    addressed addr es=[] := by
  rw [addressed,datagrams_quiet es h,List.map_nil]

/-- The socket object holds the descriptor that the system has open for it, and what was
accepted there are the datagrams of the trace. -/
structure Connected (addr : Buffer) (t : Process cv) : Prop where
  held : ∃s,t.sock.socket=some s ∧
    Handles .unopened t.calls (.held s) (addressed addr t.world.trace)
  opened : t.world.trace≠[]

/-- Nothing has happened but for system calls that opened no socket. -/
structure NotOpened (t : Process cv) : Prop where
  closed : t.sock.socket=none
  settled : Handles .unopened t.calls .unopened [] ∨ Handles .unopened t.calls .closed []
  nothing : t.world.trace=[]

theorem Fresh.notOpened {os : System} {t : Process cv} (h : Fresh os t) : NotOpened t := by
  constructor
  · rw [h.sock]
    rfl
  · rw [h.calls]
    exact .inl (.nothing _)
  · rw [h.world]
    rfl

section Keep

variable (os : System) (addr : Buffer) (patience : Nat)

theorem onWorld_connected {α : Type} (x : Exec Fault (World cv) α)
    (hx : Exec.Moves (Adds Quiet) x) :
    Proc.Keeps (Connected addr) (fun _ => Connected addr) (onWorld x) := by
  refine Proc.Keeps.ofExec hx ?_ fun _ _ h => h
  intro t w hw hc
  obtain ⟨es,he,hq⟩ := hw
  obtain ⟨⟨s,hs,hh⟩,ho⟩ := hc
  have ha : addressed addr w.trace=addressed addr t.world.trace := by
    rw [he,addressed_append,addressed_quiet addr es hq,List.append_nil]
  have hn : w.trace≠[] := by simp [he,ho]
  exact ⟨⟨s,hs,ha.symm ▸ hh⟩,hn⟩

/-- A send that returns gets the datagram accepted that it adds to the trace;
one that is cut short gets none accepted and adds none. -/
theorem sendBuffer_connected : Proc.Keeps (Connected addr) (fun _ => Connected addr)
    (sendBuffer os addr patience : Proc Halt (Process cv) Unit) := by
  constructor
  intro t hc
  obtain ⟨⟨s,hs,hh⟩,ho⟩ := hc
  have hsend := Asio.sendTo_handles os.kernel t.sock s hs t.world.buffer addr patience t.calls
  rw [sendBuffer,Proc.bind_ensures,Proc.get_ensures,Proc.bind_ensures,onSystem,Proc.zoom_ensures]
  apply hsend.mono
  · intro bytes calls h
    obtain ⟨cs,rfl,hcs⟩ := h
    apply (Proc.ofExec_ensures _ _ _ _ _ (emit_run _ _)).mpr
    have ha := hh.append hcs
    constructor
    · refine ⟨s,hs,?_⟩
      change Handles .unopened (t.calls++cs) (.held s)
        (addressed addr (t.world.trace++[.sendTo t.world.buffer serverEndpoint]))
      rw [addressed_append]
      exact ha
    · simp
  · intro e calls h
    obtain ⟨cs,rfl,hcs⟩ := h
    have ha := hh.append hcs
    rw [List.append_nil] at ha
    exact ⟨⟨s,hs,ha⟩,ho⟩

theorem calling_connected : Proc.Keeps (Connected addr) (fun _ => Connected addr)
    (calling os : Proc Halt (Process cv) Unit) :=
  calling_keeps os (fun _ _ h => ⟨h.held,h.opened⟩) fun _ _ h => ⟨h.held,h.opened⟩

theorem afterOpen_connected (env : Env cv) (heap : BlendShapeList) (n : Nat) :
    Proc.Keeps (Connected addr) (fun _ => Connected addr)
      (afterOpen os addr patience env heap n) :=
  afterOpen_keeps (calling_connected os addr) (sendBuffer_connected os addr patience)
    (fun x => onWorld_connected addr x) env heap n

theorem openSock_ensures (t : Process cv) (h : Fresh os t) : (openSock os).Ensures t
    (fun _ => Connected addr) (fun _ => NotOpened) := by
  apply (openSock_calls os t h).mono
  · intro _ u hu
    obtain ⟨⟨s,registered,hs,ho⟩,hw⟩ := hu
    constructor
    · refine ⟨s,congrArg Asio.Implementation.socket hs,?_⟩
      rw [hw]
      exact ho.handles
    · rw [hw]
      exact List.cons_ne_nil _ _
  · intro e u hu
    obtain ⟨err,-,hf,hs,hw⟩ := hu
    constructor
    · rw [hs]
      rfl
    · exact hf.handles
    · rw [hw]
      rfl

theorem destroySock_connected (t : Process cv) (h : Connected addr t) :
    (destroySock os).Ensures t
      (fun _ u => u.world=t.world ∧ Handles .unopened u.calls .closed
        (addressed addr t.world.trace)) (fun _ _ => False) := by
  obtain ⟨⟨s,hs,hh⟩,-⟩ := h
  apply (destroySock_ends os t).mono
  · intro _ u hu
    obtain ⟨later,rfl,hd⟩ := hu
    have ha := hh.append (hd.handles hs)
    rw [List.append_nil] at ha
    exact ⟨rfl,ha⟩
  · exact fun _ _ h => h

theorem destroySock_notOpened (t : Process cv) (h : NotOpened t) :
    (destroySock os).Ensures t (fun _ u => u=t) (fun _ _ => False) := by
  apply (destroySock_ends os t).mono
  · intro _ u hu
    obtain ⟨later,rfl,hd⟩ := hu
    simp only [Asio.Destroyed,h.closed] at hd
    rw [hd,List.append_nil]
  · exact fun _ _ h => h

end Keep

/-- What is left of the descriptor when a run has ended in `r`, or has come so far:
it is held from the time it is open to the destructor of the socket object. -/
structure Accounted (os : System) (r : Except Halt (Option Int)) (t : Process cv)
    (d : Descriptor) : Prop where
  handles : Handles .unopened t.calls d (addressed (serverAddr os) t.world.trace)
  settled : d=.unopened ∨ d=.closed ∨ ∃s,d=.held s
  held_iff : (∃s,d=.held s) ↔ t.world.trace≠[] ∧ destructs os r=false

section Account

variable (os : System) (r : Except Halt (Option Int)) (t : Process cv)

theorem accounted_connected (h : Connected (serverAddr os) t) (hd : destructs os r=false) :
    ∃d,Accounted os r t d := by
  obtain ⟨⟨s,hs,hh⟩,ho⟩ := h
  exact ⟨.held s,hh,.inr (.inr ⟨s,rfl⟩),fun _ => ⟨ho,hd⟩,fun _ => ⟨s,rfl⟩⟩

theorem accounted_closed
    (h : Handles .unopened t.calls .closed (addressed (serverAddr os) t.world.trace))
    (hd : destructs os r=true) : ∃d,Accounted os r t d := by
  refine ⟨.closed,h,.inr (.inl rfl),?_,?_⟩
  · intro hs
    obtain ⟨s,hs⟩ := hs
    contradiction
  · intro hn
    rw [hd] at hn
    exact absurd hn.2 Bool.noConfusion

theorem accounted_notOpened (h : NotOpened t) : ∃d,Accounted os r t d := by
  have ha : addressed (serverAddr os) t.world.trace=[] := by
    rw [h.nothing]
    rfl
  have hn (d : Descriptor) (hd : ∀s,d≠.held s) :
      (∃s,d=.held s) ↔ t.world.trace≠[] ∧ destructs os r=false := by
    constructor
    · intro hs
      obtain ⟨s,hs⟩ := hs
      exact absurd hs (hd s)
    · intro hr
      exact absurd h.nothing hr.1
  rcases h.settled with hs|hs
  · exact ⟨.unopened,ha.symm ▸ hs,.inl rfl,hn _ (by simp)⟩
  · exact ⟨.closed,ha.symm ▸ hs,.inr (.inl rfl),hn _ (by simp)⟩

end Account

theorem opened_ensures (os : System) (addr : Buffer) (env : Env cv) (heap : BlendShapeList)
    (n patience : Nat) (t : Process cv) (h : Fresh os t) :
    (openSock os>>=fun _ => afterOpen os addr patience env heap n).Ensures t
      (fun _ u => Connected addr u ∨ NotOpened u) (fun _ u => Connected addr u ∨ NotOpened u) := by
  rw [Proc.bind_ensures]
  apply (openSock_ensures os addr t h).mono
  · intro _ u hu
    apply ((afterOpen_connected os addr patience env heap n).ensures u hu).mono
    · exact fun _ _ hc => .inl hc
    · exact fun _ _ hc => .inl hc
  · exact fun _ u hu => .inr hu

theorem main_accounted (os : System) (env : Env cv) (heap : BlendShapeList) (n patience : Nat) :
    (main os env heap n patience).Ensures (start cv)
      (fun code t => ∃d,Accounted os (.ok code) t d)
      (fun e t => ∃d,Accounted os (.error e) t d) := by
  apply main_rule os env heap n patience
    (fun _ t => Connected (serverAddr os) t ∨ NotOpened t) fun r t => ∃d,Accounted os r t d
  · intro e t ht
    cases ht with
    | exception t h _ =>
      have hn := h.notOpened
      exact accounted_notOpened os _ _ ⟨hn.closed,hn.settled,hn.nothing⟩
    | address t h e _ => exact accounted_notOpened os _ t h.notOpened
  · exact opened_ensures os (serverAddr os) env heap n patience
  · intro r t hr hc
    rcases hc with hc|hc
    · apply (destroySock_connected os (serverAddr os) t hc).mono
      · intro _ u hu
        exact accounted_closed os r u (hu.1 ▸ hu.2) hr
      · exact fun _ _ h => h
    · apply (destroySock_notOpened os t hc).mono
      · intro _ u hu
        exact accounted_notOpened os r u (hu ▸ hc)
      · exact fun _ _ h => h
  · intro r t hr hc
    rcases hc with hc|hc
    · exact accounted_connected os r t hc hr
    · exact accounted_notOpened os r t hc

end Process

end MediapipeLivelink
