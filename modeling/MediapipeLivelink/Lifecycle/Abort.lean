import MediapipeLivelink.Lifecycle.Run
import MediapipeLivelink.Transmission.Acceptance

namespace MediapipeLivelink

variable {cv : OpenCV}

/-- The library has been started and the array allocated, and neither is given back. -/
structure Abandoned (t : List (Event cv)) : Prop where
  created : (libraryCalls t).count .create=1
  started : (libraryCalls t).count .start=1
  stopped : .stop∉libraryCalls t
  released : .release∉libraryCalls t
  allocated : (heapUses t).count .new=1
  deleted : .delete∉heapUses t

def InIteration (e : Event cv) : Prop := Process.InLoop e ∨ e.datagram.isSome

theorem inIteration_libraryCalls (es : List (Event cv)) (h : ∀e∈es,InIteration e)
    (c : LibraryCall) (hc : c∈libraryCalls es) : c=.process ∨ c=.getOutput := by
  obtain ⟨e,he,hec⟩ := List.mem_filterMap.mp hc
  have hi := h e he
  cases e <;> simp_all [Event.libraryCall,InIteration,Process.InLoop,Event.datagram]

theorem inIteration_heapUses (es : List (Event cv)) (h : ∀e∈es,InIteration e)
    (u : HeapUse) (hu : u∈heapUses es) : u=.pass ∨ u=.read := by
  obtain ⟨e,he,heu⟩ := List.mem_filterMap.mp hu
  have hi := h e he
  cases e <;> simp_all [Event.heapUse,InIteration,Process.InLoop,Event.datagram]

theorem abandoned (env : Env cv) (heap : BlendShapeList) (w : World cv)
    (h : Adds InIteration (loopEntry env heap) w) : Abandoned w.trace := by
  obtain ⟨es,he,hi⟩ := h
  have hc : libraryCalls w.trace=[.create,.addPoller,.start]++libraryCalls es := by
    rw [he,libraryCalls_append]
    rfl
  have hu : heapUses w.trace=[.new]++heapUses es := by
    rw [he,heapUses_append]
    rfl
  have hcalls (c : LibraryCall) (hp : c≠.process) (ho : c≠.getOutput) : c∉libraryCalls es := by
    intro hm
    rcases inIteration_libraryCalls es hi c hm with hm|hm
    · exact hp hm
    · exact ho hm
  have huses (u : HeapUse) (hp : u≠.pass) (hr : u≠.read) : u∉heapUses es := by
    intro hm
    rcases inIteration_heapUses es hi u hm with hm|hm
    · exact hp hm
    · exact hr hm
  have hn := List.count_eq_zero.mpr (hcalls .create (by simp) (by simp))
  have hs := List.count_eq_zero.mpr (hcalls .start (by simp) (by simp))
  have ha := List.count_eq_zero.mpr (huses .new (by simp) (by simp))
  have ht := hcalls .stop (by simp) (by simp)
  have hr := hcalls .release (by simp) (by simp)
  have hd := huses .delete (by simp) (by simp)
  constructor
  · simp [hc,hn]
  · simp [hc,hs]
  · simp [hc,ht]
  · simp [hc,hr]
  · simp [hu,ha]
  · simp [hu,hd]

/-- What has been created must be released. -/
theorem unreleased_not_lifecycle (t : List (Event cv)) (h : .release∉libraryCalls t) :
    ¬Lifecycle t := by
  intro hl
  obtain ⟨calls,hc⟩ := List.head?_eq_some_iff.mp hl.1.create_first
  have h1 := (hl.1.create_matched [] calls hc).2.1
  have hr : .release∈calls := List.count_pos_iff.mp (by omega)
  exact h (hc ▸ List.mem_cons_of_mem _ hr)

theorem held_not_lifecycle (t : List (Event cv)) (p : Phase) (h : Reaches t p .held) :
    ¬Lifecycle t := by
  intro hl
  have hm : 0=(heapUses t).count .delete := deletions_count h.2
  have h1 := hl.2.deleted_once
  omega

namespace Process

/-- The socket is open in blocking mode. The system calls have opened it, sent the datagrams
of the trace one after another, and then there are the `last` ones. -/
structure Sent (os : System) (s : Nat) (last : List Asio.SystemCall) (t : Process cv) : Prop where
  sock : ∃registered,t.sock=⟨some s,Asio.datagramOriented,registered⟩
  calls : ∃opening sent,t.calls=opening++sent++last ∧ Asio.Opened os.kernel.win32 s opening ∧
    Asio.Sends os.kernel.win32 Asio.datagramOriented s (serverAddr os)
      (datagrams t.world.trace) sent

/-- The loop has been entered, and no send is under way. -/
structure Started (os : System) (env : Env cv) (heap : BlendShapeList) (t : Process cv) :
    Prop where
  sent : ∃s,Sent os s [] t
  looping : Adds InIteration (loopEntry env heap) t.world

/-- How a process is cut short. An address that makes no sense comes before any system call.
A socket that cannot be opened and a send that is given up show in the last system calls;
after those of the send there are only those of the destructor, if it runs. Any other exception
comes from the last call that can throw, which is the first one that does. -/
inductive Ended (os : System) (env : Env cv) (heap : BlendShapeList) (patience : Nat) :
    Halt → Process cv → Prop
  | address (e : Asio.Error) (t : Process cv)
      (h : Asio.makeAddress os.inetPton "127.0.0.1"=.error e) (ht : t.world.trace=[])
      (hcalls : t.calls=[]) : Ended os env heap patience (.stop (.systemError e "")) t
  | socket (e : Asio.Error) (t : Process cv) (h : Asio.Refused os.kernel.win32 e t.calls)
      (ht : t.world.trace=[]) : Ended os env heap patience (.stop (.systemError e "open")) t
  | send (stop : Asio.Stop) (t : Process cv) (s : Nat) (cs later : List Asio.SystemCall)
      (hsent : Sent os s (cs++later) t)
      (hsend : Asio.GivenUp os.kernel.win32 Asio.datagramOriented s t.world.buffer (serverAddr os)
        patience stop cs)
      (hlater : if destructs os (.error (.stop stop) : Except Halt (Option Int)) then
        Asio.Closing s later else later=[])
      (hloop : Adds InIteration (loopEntry env heap) t.world) :
      Ended os env heap patience (.stop stop) t
  | exception (t : Process cv) (h : LastThrew os t) : Ended os env heap patience .exception t

/-- A process that is cut short, and what it leaves behind. -/
structure CutShort (os : System) (env : Env cv) (heap : BlendShapeList) (patience : Nat)
    (e : Halt) (t : Process cv) : Prop where
  reason : Ended os env heap patience e t
  calm : e≠.exception → Calm os t
  unreleased : .release∉libraryCalls t.world.trace
  abandoned : e=.exception ∨ t.world.trace=[] ∨ Abandoned t.world.trace

section Undone

variable (os : System)

/-- No call has thrown, and the library has not been released. -/
structure Undone (t : Process cv) : Prop where
  calm : Calm os t
  unreleased : .release∉libraryCalls t.world.trace

/-- The same of a process that is cut short; if by an exception, the last call has thrown. -/
structure Thrown (e : Halt) (t : Process cv) : Prop where
  calm : e≠.exception → Calm os t
  last : e=.exception → LastThrew os t
  unreleased : .release∉libraryCalls t.world.trace

theorem Undone.thrown {t : Process cv} (h : Undone os t) (e : Halt) (he : e≠.exception) :
    Thrown os e t := ⟨fun _ => h.calm,fun hx => absurd hx he,h.unreleased⟩

theorem Fresh.undone {t : Process cv} (h : Fresh os t) : Undone os t := by
  refine ⟨h.calm,?_⟩
  rw [h.world]
  simp [World.start,libraryCalls]

theorem Undone.throws {t : Process cv} (h : Undone os t) (ht : os.throws t.externals=true) :
    Thrown os .exception {t with externals := t.externals+1} :=
  ⟨fun hx => absurd rfl hx,fun _ => ⟨t.externals,rfl,ht,h.calm⟩,h.unreleased⟩

theorem calling_undone : Proc.Keeps (Undone os) (Thrown os)
    (calling os : Proc Halt (Process cv) Unit) :=
  calling_keeps os (fun _ ht h => ⟨h.calm.next ht,h.unreleased⟩) fun _ ht h => h.throws os ht

theorem onWorld_undone {α : Type} (x : Exec Fault (World cv) α)
    (hx : Exec.Moves (Adds fun e => e.libraryCall≠some .release) x) :
    Proc.Keeps (Undone os) (Thrown os) (onWorld x) := by
  refine Proc.Keeps.ofExec hx ?_ fun _ _ h => h.thrown os _ (by simp)
  intro t w hw h
  obtain ⟨es,he,hr⟩ := hw
  refine ⟨h.calm,?_⟩
  change .release∉libraryCalls w.trace
  rw [he,libraryCalls_append]
  intro hm
  rcases List.mem_append.mp hm with hm|hm
  · exact h.unreleased hm
  · obtain ⟨e,he,hc⟩ := List.mem_filterMap.mp hm
    exact hr e he hc

theorem onSystem_undone {α : Type} (p : Asio.Sys α) :
    Proc.Keeps (Undone os) (Thrown os) (onSystem p : Proc Halt (Process cv) α) := by
  constructor
  intro t h
  rw [onSystem,Proc.zoom_ensures]
  apply Proc.Ensures.intro
  · exact fun _ _ => ⟨h.calm,h.unreleased⟩
  · intro e calls
    have hu : Undone os {t with calls := calls} := ⟨h.calm,h.unreleased⟩
    exact hu.thrown os _ (by simp)

theorem Unended.unreleased (e : Event cv) (h : Unended e) : e.libraryCall≠some .release := by
  cases e <;> simp_all [Unended,Event.libraryCall]

theorem opened_undone (addr : Buffer) (env : Env cv) (heap : BlendShapeList) (n patience : Nat)
    (t : Process cv) (h : Fresh os t) :
    (openSock os>>=fun _ => afterOpen os addr patience env heap n).Ensures t
      (fun _ u => Calm os u) (Thrown os) := by
  have hemit (e : Event cv) (he : e.libraryCall≠some .release) :
      Proc.Keeps (Undone os) (Thrown os) (onWorld (emit e)) :=
    onWorld_undone os _ (emit_adds e he)
  have hopen : Proc.Keeps (Undone os) (Thrown os) (openSock os : Proc Halt (Process cv) Unit) := by
    refine Proc.Keeps.get.bind fun _ => ?_
    refine (onSystem_undone os _).bind fun sock => ?_
    refine (Proc.Keeps.modify _ fun u hu => ?_).bind fun _ => ?_
    · exact ⟨hu.calm,hu.unreleased⟩
    · exact hemit _ (by simp [Event.libraryCall])
  have hsend : Proc.Keeps (Undone os) (Thrown os)
      (sendBuffer os addr patience : Proc Halt (Process cv) Unit) :=
    sendBuffer_keeps (onSystem_undone os) fun _ => hemit _ (by simp [Event.libraryCall])
  have hlast (u : Process cv) (hu : Undone os u) :
      (external os (emit .releaseFaceBlendShapeInterface)).Ensures u (fun _ => Calm os)
        (Thrown os) := by
    refine (calling_undone os).then (fun _ v hv => ?_) u hu
    apply (Proc.ofExec_ensures _ _ _ _ _ (emit_run _ _)).mpr
    exact hv.calm
  refine hopen.then (fun _ => ?_) t (h.undone os)
  exact afterOpen_ensures (calling_undone os) hsend (fun _ hu => hu.calm)
    (fun x hx => onWorld_undone os x (hx.mono fun _ _ ha => ha.mono Unended.unreleased)) hlast
    env heap n

end Undone

section Cut

variable (os : System) (env : Env cv) (heap : BlendShapeList) (patience : Nat)

/-- A send has just been given up, unless there was a fault or another exception. -/
def GaveUp (e : Halt) (t : Process cv) : Prop := ∀stop,e=.stop stop →
  Adds InIteration (loopEntry env heap) t.world ∧ ∃s cs,Sent os s cs t ∧
    Asio.GivenUp os.kernel.win32 Asio.datagramOriented s t.world.buffer (serverAddr os) patience
      stop cs

theorem onWorld_started {α : Type} (x : Exec Fault (World cv) α)
    (hx : Exec.Moves (Adds InLoop) x) :
    Proc.Keeps (Started os env heap) (GaveUp os env heap patience) (onWorld x) := by
  refine Proc.Keeps.ofExec hx ?_ ?_
  · intro t w hw ht
    have hm : Adds InIteration t.world w := hw.mono fun _ h => .inl h
    obtain ⟨es,he,hq⟩ := hw
    have hd : datagrams w.trace=datagrams t.world.trace := by
      have hn := datagrams_quiet es fun e h => (hq e h).unended.quiet
      rw [datagrams] at hn
      rw [he,datagrams,List.filterMap_append,hn,List.append_nil,datagrams]
    obtain ⟨s,hsock,hcalls⟩ := ht.sent
    exact ⟨⟨s,hsock,hd.symm ▸ hcalls⟩,trans_of (Adds InIteration) ht.looping hm⟩
  · intro e t _ stop he
    contradiction

theorem exception_gaveUp (t : Process cv) : GaveUp os env heap patience .exception t := by
  intro stop he
  contradiction

theorem calling_started :
    Proc.Keeps (Started os env heap) (GaveUp os env heap patience) (calling os) := by
  refine calling_keeps os ?_ fun _ _ _ => exception_gaveUp os env heap patience _
  intro t _ h
  obtain ⟨s,hs⟩ := h.sent
  exact ⟨⟨s,hs.sock,hs.calls⟩,h.looping⟩

theorem sendBuffer_started : Proc.Keeps (Started os env heap) (GaveUp os env heap patience)
    (sendBuffer os (serverAddr os) patience) := by
  constructor
  intro t ht
  obtain ⟨s,⟨registered,hsock⟩,opening,sent,hcalls,hopened,hsends⟩ := ht.sent
  rw [List.append_nil] at hcalls
  have hs : t.sock.socket=some s := congrArg Asio.Implementation.socket hsock
  have hstate : t.sock.state=Asio.datagramOriented := congrArg Asio.Implementation.state hsock
  have hsend := Asio.sendTo_writes os.kernel t.sock s hs t.world.buffer (serverAddr os) patience
    t.calls
  rw [hstate] at hsend
  rw [sendBuffer,Proc.bind_ensures,Proc.get_ensures,Proc.bind_ensures,onSystem,Proc.zoom_ensures]
  apply hsend.mono
  · intro bytes calls h
    obtain ⟨cs,rfl,hcs⟩ := h
    apply (Proc.ofExec_ensures _ _ _ _ _ (emit_run _ _)).mpr
    have hd : Adds InIteration t.world _ := Adds.one t.world
      {t.world with trace := t.world.trace++[.sendTo t.world.buffer serverEndpoint]} _ (.inr rfl) rfl
    refine ⟨⟨s,⟨registered,hsock⟩,opening,sent++cs,?_,hopened,?_⟩,
      trans_of (Adds InIteration) ht.looping hd⟩
    · rw [List.append_nil,← List.append_assoc,← hcalls]
    · have hm := hsends.more t.world.buffer bytes hcs
      rw [datagrams] at hm
      rw [datagrams,List.filterMap_append]
      exact hm
  · intro e calls h stop he
    obtain ⟨cs,rfl,hg⟩ := h
    cases he
    exact ⟨ht.looping,s,cs,⟨⟨registered,hsock⟩,opening,sent,by rw [hcalls],hopened,hsends⟩,hg⟩

/-- Outside the loop no send is given up. -/
theorem onWorld_sendless {α : Type} (x : Exec Fault (World cv) α) :
    Proc.Keeps (fun _ => True) (GaveUp os env heap patience) (onWorld x) := by
  have hx : Exec.Moves (fun _ _ => True) x := ⟨fun _ _ _ _ => trivial⟩
  refine Proc.Keeps.ofExec hx (fun _ _ _ _ => trivial) ?_
  intro e t _ stop he
  contradiction

theorem external_sendless {α : Type} (x : Exec Fault (World cv) α) :
    Proc.Keeps (fun _ => True) (GaveUp os env heap patience) (external os x) := by
  refine external_keeps (calling_keeps os (fun _ _ _ => trivial) ?_)
    (onWorld_sendless os env heap patience x)
  exact fun _ _ _ => exception_gaveUp os env heap patience _

theorem afterOpen_gaveUp (n : Nat) (t : Process cv)
    (hs : ∃s registered,t.sock=⟨some s,Asio.datagramOriented,registered⟩ ∧
      Asio.Opened os.kernel.win32 s t.calls)
    (hw : t.world=(World.start cv).extend [] [.socketOpen]) :
    (afterOpen os (serverAddr os) patience env heap n).Ensures t (fun _ _ => True)
      (GaveUp os env heap patience) := by
  have hdelete := onWorld_sendless os env heap patience deleteBlendShapeList
  have hexternal (e : Event cv) := external_sendless os env heap patience (emit e)
  have hexception := exception_gaveUp os env heap patience
  have hloop : Proc.Keeps (Started os env heap) (GaveUp os env heap patience)
      (captureLoop os (serverAddr os) patience env n) :=
    captureLoop_keeps (calling_started os env heap patience)
      (sendBuffer_started os env heap patience)
      (fun x hx => onWorld_started os env heap patience x hx) env n
  obtain ⟨w,sock,calls,externals⟩ := t
  subst hw
  obtain ⟨s,registered,hsock,hopened⟩ := hs
  have hstart (m : Nat) : Started os env heap ⟨loopEntry env heap,sock,calls,m⟩ :=
    ⟨⟨s,⟨registered,hsock⟩,calls,[],by simp,hopened,.start⟩,refl_of (Adds InIteration) _⟩
  rw [afterOpen,Proc.bind_ensures]
  apply external_run _ (newBlendShapeList_run _ _) hexception
  iterate 3
    rw [Proc.bind_ensures]
    apply external_run _ (emit_run _ _) hexception
  split
  · exact (hdelete.bind fun _ => Proc.Keeps.pure _).ensures _ trivial
  · iterate 3
      rw [Proc.bind_ensures]
      apply external_run _ (emit_run _ _) hexception
    rw [Proc.bind_ensures]
    apply (hloop.ensures _ (hstart _)).mono
    · intro c u _
      cases c with
      | next => trivial
      | leave =>
        refine (hdelete.bind fun _ => ?_).ensures u trivial
        iterate 3 refine (hexternal _).bind fun _ => ?_
        exact Proc.Keeps.pure _
    · exact fun _ _ h => h

/-- How the socket's part of `main` ends, before the destructor. -/
def BodyEnds (r : Except Halt (Option Int)) (t : Process cv) : Prop :=
  match r with
  | .ok _ => Calm os t
  | .error e => Thrown os e t ∧
    ((∃err,e=.stop (.systemError err "open") ∧ Asio.Refused os.kernel.win32 err t.calls ∧
        t.sock=Asio.construct ∧ t.world.trace=[]) ∨
      GaveUp os env heap patience e t)

def Ends (r : Except Halt (Option Int)) (t : Process cv) : Prop :=
  match r with
  | .ok _ => Calm os t
  | .error e => ¬IsFault e → CutShort os env heap patience e t

theorem opened_ends (n : Nat) (t : Process cv) (h : Fresh os t) :
    (openSock os>>=fun _ => afterOpen os (serverAddr os) patience env heap n).Ensures t
      (fun code => BodyEnds os env heap patience (.ok code))
      (fun e => BodyEnds os env heap patience (.error e)) := by
  have hgave : (openSock os>>=fun _ => afterOpen os (serverAddr os) patience env heap n).Ensures t
      (fun _ _ => True) (fun e u =>
        (∃err,e=.stop (.systemError err "open") ∧ Asio.Refused os.kernel.win32 err u.calls ∧
          u.sock=Asio.construct ∧ u.world.trace=[]) ∨ GaveUp os env heap patience e u) := by
    rw [Proc.bind_ensures]
    apply (openSock_calls os t h).mono
    · intro _ u hu
      apply (afterOpen_gaveUp os env heap patience n u hu.1 hu.2).mono
      · exact fun _ _ h => h
      · exact fun _ _ h => .inr h
    · intro e u hu
      obtain ⟨err,he,hf,hs,hw⟩ := hu
      exact .inl ⟨err,he,hf,hs,congrArg World.trace hw⟩
  apply ((opened_undone os (serverAddr os) env heap n patience t h).and hgave).mono
  · exact fun _ _ h => h.1
  · exact fun _ _ h => h

/-- The destructor's system calls come last. -/
theorem BodyEnds.ends {r : Except Halt (Option Int)} {t : Process cv}
    (h : BodyEnds os env heap patience r t) (later : List Asio.SystemCall)
    (hl : if destructs os r then Asio.Destroyed t.sock later else later=[]) :
    Ends os env heap patience r {t with calls := t.calls++later} := by
  cases r with
  | ok code => exact h
  | error e =>
    intro hf
    obtain ⟨ht,hb⟩ := h
    cases e with
    | fault f => exact absurd ⟨f,rfl⟩ hf
    | exception => exact ⟨.exception _ (ht.last rfl),ht.calm,ht.unreleased,.inl rfl⟩
    | stop stop =>
      rcases hb with ⟨err,he,hr,hs,hn⟩|hg
      · cases he
        have hnil : later=[] := by
          rw [hs] at hl
          split at hl
          · exact hl
          · exact hl
        rw [hnil,List.append_nil]
        exact ⟨.socket err t hr hn,ht.calm,ht.unreleased,.inr (.inl hn)⟩
      · obtain ⟨hloop,s,cs,⟨⟨registered,hsock⟩,opening,sent,hcalls,ho,hs⟩,hgiven⟩ := hg stop rfl
        have hlater : if destructs os (.error (.stop stop) : Except Halt (Option Int)) then
            Asio.Closing s later else later=[] := by
          by_cases hd : destructs os (.error (.stop stop) : Except Halt (Option Int))=true
          · rw [if_pos hd,hsock] at hl
            rw [if_pos hd]
            exact hl.dgram
          · rw [if_neg hd] at hl
            rw [if_neg hd]
            exact hl
        have hc : t.calls++later=opening++sent++(cs++later) := by rw [hcalls,List.append_assoc]
        exact ⟨.send stop _ s cs later ⟨⟨registered,hsock⟩,opening,sent,hc,ho,hs⟩ hgiven hlater
          hloop,ht.calm,ht.unreleased,.inr (.inr (abandoned env heap _ hloop))⟩

theorem main_ends (n : Nat) : (main os env heap n patience).Ensures (start cv)
    (fun code => Ends os env heap patience (.ok code))
    (fun e => Ends os env heap patience (.error e)) := by
  apply main_rule os env heap n patience (BodyEnds os env heap patience)
    (Ends os env heap patience)
  · intro e t ht _
    cases ht with
    | exception t h ht =>
      have hu := (h.undone os).throws os ht
      exact ⟨.exception _ (hu.last rfl),hu.calm,hu.unreleased,.inl rfl⟩
    | address t h e he =>
      have hw : t.world.trace=[] := h.notOpened.nothing
      exact ⟨.address e t he hw h.calls,fun _ => h.calm,(h.undone os).unreleased,.inr (.inl hw)⟩
  · exact opened_ends os env heap patience n
  · intro r t hd hb
    apply (destroySock_ends os t).mono
    · intro _ u hu
      obtain ⟨later,rfl,hl⟩ := hu
      exact hb.ends os env heap patience later (by rw [if_pos hd]; exact hl)
    · exact fun _ _ h => h
  · intro r t hd hb
    have he := hb.ends os env heap patience [] (by rw [if_neg (Bool.eq_false_iff.mp hd)])
    rwa [List.append_nil] at he

/-- A process that is cut short could not make sense of the address, could not open a socket,
gave up a send for the reason that its last system calls show, or met the first call that throws.
In no case has it released the library; after a send it leaves the library running and the array
allocated. -/
theorem run_cut_short (n : Nat) : (main os env heap n patience).Ensures (start cv)
    (fun code t => code=exitCode env n ∧ Calm os t)
    (fun e t => CutShort os env heap patience e t) := by
  have ha := main_accepted os env heap n patience
  apply ((main_ends os env heap patience n).and ha).mono
  · exact fun _ _ h => ⟨h.2.1,h.1⟩
  · exact fun _ _ h => h.1 h.2.1

/-- Over all runs, however they end: the library and the array are used as they should be and
given back exactly by a process that returns 0. No handler gives them back after an exception, and
a run that ends before the library has been created is not complete. -/
theorem run_lifecycle_iff (n : Nat) : Lifecycle (run os env heap n patience).2.world.trace ↔
    (run os env heap n patience).1=.ok (some 0) := by
  obtain ⟨r,hr,hcases⟩ := run_cases env heap n
  have hm := main_refines os env heap n patience r hr
  have hl := (main_ends os env heap patience n).and hm
  cases hrun : run os env heap n patience with
  | mk result t =>
    cases result with
    | ok code =>
      obtain ⟨rfl,hw⟩ := hm.ok hrun
      rw [hw]
      rcases hcases with ⟨-,rfl⟩|⟨-,c,w,hc,rfl⟩
      · simp [cameraFailed_unreleased]
      · have hv := (captureLoop_reaches env heap n).apply hc
        cases c with
        | next => simp [finish,held_not_lifecycle w.trace _ hv]
        | leave => simp [finish,lifecycle_of_reaches _ (cleanedUp_reaches w hv)]
    | error e =>
      obtain ⟨hends,hf,-⟩ := hl.error hrun
      have hn := unreleased_not_lifecycle t.world.trace (hends hf).unreleased
      simp [hn]

end Cut

end Process

end MediapipeLivelink
