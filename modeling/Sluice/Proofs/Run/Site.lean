import Sluice.Proofs.Worker.Outside

/-!
# Runs

A worker together with the clients that are on their way to it (`Site`), and the deeds that lead
from one site to the next (`Site.Step`): moves at far ends, new files, attachments, handed over
clients whose descriptors enter the control pipe byte by byte, turns over batches in any
arrangement, and destroying. The sites that can be reached from a new worker (`Site.Reachable`) are
all in order (`Reachable.sound`), because every step keeps them so (`Step.keeps`).

A descriptor is handed over by whoever has it, so it is open, is no session's, and was not handed
over before.
-/

namespace Sluice

/-- A worker and the clients that are on their way to it. The numbers of those that are not in the
pipe yet are kept here as bytes, because the pipe may take them in pieces. -/
structure Site where
  worker : Worker
  /-- The bytes of messages that are not in the control pipe yet. -/
  unsent : List UInt8 := []
  /-- The descriptors that were ever handed over. -/
  given : List Descriptor := []

namespace Site

open Worker

/-! ## Steps -/

/-- What may be done at a site between two turns, and turns. Only turns, attaching and destroying
are the worker's own doing; all else comes from outside. -/
inductive Deed where
  /-- Something happens at the far end of a file. -/
  | move (fd : Descriptor) (m : Move)
  /-- A file comes up that nothing has passed yet. -/
  | arrive (f : File)
  /-- The attempts to connect get other outcomes, and descriptors run out or come back. -/
  | provide (attempts : List Attempt) (exhausted : Bool)
  | attach (client remote : Descriptor) (status : ConnectStatus)
  /-- A client is handed over. -/
  | handOff (client : Int32)
  /-- Bytes of messages enter the control pipe. -/
  | push (n : Nat)
  | closeSender
  /-- A turn that puts the batch it finds into some arrangement. -/
  | turn (arrange : List Event → List Event)
  | destroy (id : SessionId)

inductive Step (σ : Site) : Deed → Site → Prop
  | move (fd : Descriptor) (m : Move) :
      Step σ (.move fd m) { σ with worker := σ.worker.withHost (σ.worker.host.play fd m) }
  | arrive {f : File} (hf : f.Fresh) :
      Step σ (.arrive f) { σ with worker := σ.worker.withHost (σ.worker.host.install f).2 }
  | provide {attempts : List Attempt} (ha : ∀ a ∈ attempts, a.Fresh) (exhausted : Bool) :
      Step σ (.provide attempts exhausted)
        { σ with worker := σ.worker.withHost (σ.worker.host.provide attempts exhausted) }
  | attach {client remote : Descriptor} {status : ConnectStatus} {ids : SessionId × SessionId}
      {w : Worker} (hc : σ.worker.Loose client) (hr : σ.worker.Loose remote)
      (hne : client ≠ remote) (hgc : client ∉ σ.given) (hgr : remote ∉ σ.given)
      (h : attachPair client remote status σ.worker = .ok ids w) :
      Step σ (.attach client remote status) { σ with worker := w }
  | handOff {client : Int32} (hl : σ.worker.Loose client.toInt) (hg : client.toInt ∉ σ.given) :
      Step σ (.handOff client)
        { σ with
          unsent := σ.unsent ++ Handoff.encode client
          given := client.toInt :: σ.given }
  | push {n : Nat} {control : Channel}
      (h : σ.worker.control.write (σ.unsent.take n) = .ok control) :
      Step σ (.push n)
        { σ with worker := { σ.worker with control }, unsent := σ.unsent.drop n }
  | closeSender :
      Step σ .closeSender
        { σ with worker := { σ.worker with control := σ.worker.control.closeSender } }
  | turn {arrange : List Event → List Event} {w : Worker}
      (h : turnIn arrange σ.worker = .ok ⟨⟩ w) : Step σ (.turn arrange) { σ with worker := w }
  | destroy {id : SessionId} {w : Worker} (h : Worker.destroy id σ.worker = .ok ⟨⟩ w) :
      Step σ (.destroy id) { σ with worker := w }

/-- The sites of runs that begin with a new worker whose control pipe is empty. Settings, host and
backend may be any with which the worker can be made. -/
inductive Reachable : Site → Prop
  | start {index : Nat} {settings : Settings} {host : Host} {control : Channel} {w : Worker}
      (hhost : host.Fresh) (hheld : control.held = []) (hqueued : control.queued = [])
      (h : Worker.create index settings host control = .ok w) : Reachable { worker := w }
  | step {σ σ' : Site} {d : Deed} (h : Reachable σ) (hs : Step σ d σ') : Reachable σ'

/-! ## What steps keep -/

/-- The worker is in order, and the bytes on their way to it are those of waiting clients: the
second part is what the intake of clients relies on. -/
structure Sound (σ : Site) : Prop where
  worker : σ.worker.Sound
  supplied : σ.worker.Supplied σ.unsent σ.given

variable {σ σ' : Site} {d : Deed} {J : Worker → Prop}

theorem Sound.handedOff {client : Int32} (h : σ.Sound) (hl : σ.worker.Loose client.toInt)
    (hg : client.toInt ∉ σ.given) :
    σ.worker.Supplied (σ.unsent ++ Handoff.encode client) (client.toInt :: σ.given) := by
  obtain ⟨hidle, vs, hbytes, hwait, hsub⟩ := h.supplied
  refine ⟨hidle, vs ++ [client], ?_, ⟨?_, fun fd hfd => ?_⟩, fun fd hfd => ?_⟩
  · rw [Channel.encoded_append, ← hbytes, Channel.encoded_cons, Channel.encoded_nil,
      List.append_nil, List.append_assoc _ σ.unsent]
  · rw [List.map_append, List.map_singleton]
    refine List.nodup_append.mpr ⟨hwait.nodup, List.nodup_singleton _, ?_⟩
    rintro fd hfd fd' hfd' rfl
    obtain rfl := List.mem_singleton.mp hfd'
    exact hg (hsub hfd)
  · rw [List.map_append, List.mem_append, List.map_singleton, List.mem_singleton] at hfd
    rcases hfd with hfd | rfl
    · exact hwait.loose fd hfd
    · exact hl
  · rw [List.map_append, List.mem_append, List.map_singleton, List.mem_singleton] at hfd
    rcases hfd with hfd | rfl
    · exact List.mem_cons_of_mem _ (hsub hfd)
    · exact List.mem_cons_self ..

theorem Sound.pushed {n : Nat} {control : Channel} (h : σ.Sound)
    (hw : σ.worker.control.write (σ.unsent.take n) = .ok control) :
    control.readFd = σ.worker.control.readFd
      ∧ ({ σ.worker with control } : Worker).Supplied (σ.unsent.drop n) σ.given := by
  unfold Channel.write at hw
  split at hw
  · cases hw
    obtain ⟨hidle, vs, hbytes, hwait, hsub⟩ := h.supplied
    refine ⟨rfl, hidle, vs, ?_, ⟨hwait.nodup, hwait.loose⟩, hsub⟩
    rw [← hbytes]
    simp [Channel.queued]
  · cases hw

/-- A step keeps the site in order, and what every event and every intake of clients keeps. Moves
and destroying have to be looked at on their own. -/
theorem Step.keeps (hJ : Kept J) (hs : Step σ d σ') (h : σ.Sound) (hj : J σ.worker)
    (hmove : ∀ fd m, d = .move fd m → J (σ.worker.withHost (σ.worker.host.play fd m)))
    (hdestroy : ∀ id w', d = .destroy id → Destroyed σ.worker id w' → J w') :
    σ'.Sound ∧ J σ'.worker := by
  -- a wider host, or more sessions: what was loose and handed over stays so
  have hadmitted {w : Worker} (hw : w.Sound) (ha : Admitted σ.worker w)
      (hi : w.incoming = σ.worker.incoming) (hc : w.control = σ.worker.control)
      (hl : ∀ fd ∈ σ.given, σ.worker.Loose fd → w.Loose fd) :
      (Site.mk w σ.unsent σ.given).Sound ∧ J w :=
    ⟨⟨hw, h.supplied.keep hi (by rw [hc]) hl⟩, hJ.admitted h.worker hj hw ha⟩
  have hwider {host : Host} (ha : Admitted σ.worker (σ.worker.withHost host))
      (hfiles : ∀ fd, fd < σ.worker.host.next → host.file fd = σ.worker.host.file fd)
      {fd : Descriptor} (hl : σ.worker.Loose fd) : (σ.worker.withHost host).Loose fd :=
    loose_withHost hl (hfiles fd (h.worker.housed.next fd hl.1))
  cases hs with
  | move fd m =>
    refine ⟨⟨h.worker.moved fd m, h.supplied.keep rfl rfl fun fd' _ hl => loose_play hl fd m⟩, ?_⟩
    exact hmove fd m rfl
  | @arrive f hf =>
    obtain ⟨hw, ha⟩ := h.worker.arrived hf
    refine hadmitted hw ha rfl rfl fun fd _ hl => hwider ha ?_ hl
    intro fd hfd
    rw [file_install, if_neg (Int.ne_of_lt hfd)]
  | provide hattempts exhausted =>
    obtain ⟨hw, ha⟩ := h.worker.provided hattempts exhausted
    exact hadmitted hw ha rfl rfl fun fd _ hl => hwider ha (fun _ _ => rfl) hl
  | @attach client remote status ids w hc hr hne hgc hgr hok =>
    obtain ⟨hw, ha, hloose, hcontrol, hincoming, -, -⟩ :=
      (leads_attachPair_sound h.worker hc hr hne status).of_ok hok
    refine hadmitted hw ha hincoming hcontrol fun fd hfd hl => hloose fd hl ?_ ?_
    · rintro rfl
      exact hgc hfd
    · rintro rfl
      exact hgr hfd
  | handOff hl hg => exact ⟨⟨h.worker, h.handedOff hl hg⟩, hj⟩
  | push hok =>
    obtain ⟨hread, hsup⟩ := h.pushed hok
    exact ⟨⟨h.worker.withControl hread, hsup⟩, hJ.waited hj rfl rfl⟩
  | closeSender =>
    exact ⟨⟨h.worker.withControl rfl, h.supplied.keep rfl rfl fun _ _ hl => ⟨hl.1, hl.2⟩⟩,
      hJ.waited hj rfl rfl⟩
  | turn hok =>
    obtain ⟨hw, hsup, hj'⟩ := (leads_turnIn hJ _ h.worker h.supplied hj).of_ok hok
    exact ⟨⟨hw, hsup⟩, hj'⟩
  | @destroy id w hok =>
    cases hs : σ.worker.session? id with
    | none =>
      have hstop := (leads_destroy_unknown (E := anyhow) hs fun _ _ => False).mpr trivial
      exact (hstop.of_ok hok).elim
    | some s =>
      obtain ⟨hd, hw⟩ := (leads_destroy h.worker hs).of_ok hok
      exact ⟨⟨hw, h.supplied.spared (Spares.of_destroyed hd)⟩, hdestroy id w rfl hd⟩

theorem kept_true : Kept fun _ => True :=
  ⟨fun _ _ _ => trivial, fun _ _ _ _ => trivial, fun _ _ _ => trivial⟩

theorem Step.sound (hs : Step σ d σ') (h : σ.Sound) : σ'.Sound :=
  (hs.keeps kept_true h trivial (fun _ _ _ => trivial) fun _ _ _ _ => trivial).1

/-- Every site that can be reached is in order. The induction is on the run, and all that is said
about runs begins with it. -/
theorem Reachable.sound (h : Reachable σ) : σ.Sound := by
  induction h with
  | start hhost hheld hqueued hok =>
    obtain ⟨hw, hcontrol, hincoming⟩ := sound_create hhost hok
    refine ⟨hw, hincoming, [], ?_, ⟨List.nodup_nil, nofun⟩, nofun⟩
    rw [hcontrol, hheld, hqueued]
    rfl
  | step _ hs ih => exact hs.sound ih

/-! ## A run -/

def after {α : Type} (x : Act α) (w : Worker) : Option Worker :=
  match x w with
  | .ok _ w' => some w'
  | .error _ _ => none

theorem exists_of_after {α : Type} {x : Act α} {w w' : Worker} (h : after x w = some w') :
    ∃ a, x w = .ok a w' := by
  unfold after at h
  split at h
  · next a _ hx => exact ⟨a, hx.trans (by rw [Option.some.inj h])⟩
  · cases h

/-- The list that a wait fills in a worker that finds events, and the poller after it. -/
def found (w : Worker) : Option (ReadyList × Poller) :=
  match w.poller.wait w.view with
  | .ok (some ready, poller) => some (ready, poller)
  | _ => none

theorem wait_of_found {w : Worker} {ready : ReadyList} {poller : Poller}
    (h : found w = some (ready, poller)) : w.poller.wait w.view = .ok (some ready, poller) := by
  unfold found at h
  split at h
  · next hwait =>
    cases h
    exact hwait
  · cases h

/-- The worker after some moves, one after the other. -/
def played (w : Worker) (moves : List (Descriptor × Move)) : Worker :=
  moves.foldl (fun w m => w.withHost (w.host.play m.1 m.2)) w

theorem Reachable.played (h : Reachable σ) (moves : List (Descriptor × Move)) :
    Reachable { σ with worker := Site.played σ.worker moves } := by
  induction moves generalizing σ with
  | nil => exact h
  | cons m rest ih => exact ih (h.step (.move m.1 m.2))

/-- The worker with two new connections attached to it, behind the next two descriptors. -/
def joined (status : ConnectStatus) (w : Worker) : Option Worker :=
  let fd := w.host.next
  let w := w.withHost (w.host.install (.stream .pair)).2
  let w := w.withHost (w.host.install (.stream .pair)).2
  after (attachPair fd (fd + 1) status) w

theorem fresh_pair : (File.stream .pair).Fresh :=
  ⟨List.suffix_rfl, rfl, rfl⟩

theorem Reachable.joined {w w' : Worker} {status : ConnectStatus}
    (h : Reachable { worker := w }) (hw : Site.joined status w = some w') :
    Reachable { worker := w' } := by
  have h₁ := h.step (.arrive fresh_pair)
  have h₂ := h₁.step (.arrive fresh_pair)
  obtain ⟨ids, hattach⟩ := exists_of_after hw
  let v := w.withHost (w.host.install (.stream .pair)).2
  let v' := v.withHost (v.host.install (.stream .pair)).2
  have hne : w.host.next ≠ w.host.next + 1 := Int.ne_of_lt (Int.lt_succ _)
  have hclient : v'.Loose w.host.next := by
    refine loose_withHost (h.sound.worker.loose_install rfl) ?_
    exact (file_install ..).trans (if_neg hne)
  have hremote : v'.Loose (w.host.next + 1) := h₁.sound.worker.loose_install rfl
  exact h₂.step (.attach hclient hremote hne List.not_mem_nil List.not_mem_nil hattach)

/-- A new worker to which two new connections were attached, behind the descriptors 3 and 4. -/
def pairedWorker : Option Worker := do
  let control ← (Channel.create false 0 1).toOption
  let w ← (Worker.create 0 { bufferSize := 4, maxOpsPerFd := 2, backend := .poll } { next := 2 }
    control).toOption
  joined .connected w

/-- The two connections are two linked sessions, which read from each other, at a site that can be
reached. -/
theorem exists_pair : ∃ w, pairedWorker = some w ∧ Reachable { worker := w }
    ∧ ∃ s p, w.session? 0 = some s ∧ w.session? 1 = some p ∧ s.peer = some 1
      ∧ s.fd = 3 ∧ p.fd = 4 ∧ s.awaitingReadable = true
      ∧ w.host.file 3 = .stream .pair ∧ w.host.file 4 = .stream .pair := by
  have hhost : ({ next := 2 } : Host).Fresh :=
    ⟨fun _ hopen => Bool.noConfusion hopen, fun _ ha => nomatch ha⟩
  have hstart {w : Worker} (hw : Worker.create 0
      { bufferSize := 4, maxOpsPerFd := 2, backend := .poll } { next := 2 }
      { readFd := 0, writeFd := 1 } = .ok w) : Reachable { worker := w } :=
    .start hhost rfl rfl hw
  exact ⟨_, rfl, (hstart rfl).joined rfl, _, _, rfl, rfl, rfl, rfl, rfl, rfl, rfl, rfl⟩

/-- A new connection is handed over, and the pipe takes its number whole. -/
theorem Reachable.handed {w : Worker} {given : List Descriptor} {client : Int32}
    {control : Channel} (h : Reachable { worker := w, given })
    (hnext : w.host.next = client.toInt) (hnew : client.toInt ∉ given)
    (hwrite : w.control.write (Handoff.encode client) = .ok control) :
    Reachable {
      worker := { w.withHost (w.host.install (.stream .pair)).2 with control }
      given := client.toInt :: given } := by
  have hwaiting := h.sound.worker.loose_install (f := .stream .pair) rfl
  rw [show Site.worker { worker := w, given } = w from rfl, hnext] at hwaiting
  exact ((h.step (.arrive fresh_pair)).step (.handOff hwaiting hnew)).step
    (.push (n := 4) hwrite)

/-- That pair and another one behind the descriptors 5 and 6, and in the control pipe a client, 7,
for which a connection can be made. -/
def crowdedWorker : Option Worker := do
  let w ← joined .connected (← pairedWorker)
  let control ← (w.control.write (Handoff.encode 7)).toOption
  let w := w.withHost (w.host.provide [{ stream := .pair }] false)
  return { w.withHost (w.host.install (.stream .pair)).2 with control }

theorem exists_crowd : ∃ w, crowdedWorker = some w ∧ Reachable { worker := w, given := [7] } := by
  have hattempts : ∀ a ∈ [({ stream := .pair } : Attempt)], a.Fresh := by
    intro a ha s status hbegun
    obtain rfl := List.mem_singleton.mp ha
    cases hbegun
    exact fresh_pair
  obtain ⟨w', hw'⟩ : ∃ w', crowdedWorker = some w' :=
    Option.isSome_iff_exists.mp (by decide +kernel)
  refine ⟨w', hw', ?_⟩
  obtain ⟨w, hw, h, -⟩ := exists_pair
  rw [crowdedWorker, hw] at hw'
  simp only [Option.bind_eq_bind, Option.bind_some, Option.bind_eq_some_iff] at hw'
  obtain ⟨w₁, hjoined, control, hcontrol, hw'⟩ := hw'
  have hnext : w₁.host.next = (7 : Int32).toInt := by
    have hall : (pairedWorker.bind (joined .connected)).map (·.host.next) = some 7 := by
      decide +kernel
    rw [hw, Option.bind_some, hjoined] at hall
    exact Option.some.inj hall
  have h₁ := (h.joined hjoined).step (.provide hattempts false)
  cases hwrite : w₁.control.write (Handoff.encode 7) with
  | error e =>
    rw [hwrite] at hcontrol
    cases hcontrol
  | ok control' =>
    rw [hwrite] at hcontrol
    cases hcontrol
    cases hw'
    exact h₁.handed hnext List.not_mem_nil hwrite

end Site

end Sluice
