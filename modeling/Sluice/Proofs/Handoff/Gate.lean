import Sluice.Proofs.Handoff.Accepting
import Sluice.Proofs.Handoff.Deal
import Sluice.Proofs.Handoff.Exchange

/-!
# The acceptor and the receivers side by side

The acceptor and the receivers of its channels run side by side. A `Gate` is the acceptor at some
point of a turn, the clients accepted so far and what each receiver got; a step is one thing that
the acceptor, a receiver or the outside does, however small: a client accepted, some bytes of its
number written, one read of one receiver. The outside may put clients before a listener and take
them away again, so that nothing is said here about clients that nobody has accepted yet.

The invariant of these steps (`Gate.Sound`) says where every accepted client is, also the one whose
number is written only in part.
-/

namespace Sluice

open Handoff Channel

/-- Where the acceptor is in a turn: between turns, accepting from the first of the ready listeners
with so many rounds left for it, or handing off a client of which some bytes are not written yet. -/
inductive Stage where
  | idle
  | accepting (rounds : Nat) (ready : List Nat)
  | handing (client : Descriptor) (unwritten : List UInt8) (rounds : Nat) (ready : List Nat)

namespace Stage

def inHand : Stage → List Descriptor
  | idle | accepting .. => []
  | handing client .. => [client]

def unwritten : Stage → List UInt8
  | idle | accepting .. => []
  | handing _ bytes .. => bytes

end Stage

/-- An acceptor in a turn, all clients that it has accepted, and the numbers that each receiver
got. -/
structure Gate where
  acceptor : Acceptor
  stage : Stage := .idle
  accepted : List Descriptor := []
  received : Nat → List Int32 := fun _ => []

namespace Gate

/-- Descriptors have 32 bits. The system gives out no others, and only those come out of a channel
as the numbers they were. -/
def Fits (fd : Descriptor) : Prop :=
  -2 ^ 31 ≤ fd ∧ fd < 2 ^ 31

theorem Fits.toInt_ofInt {fd : Descriptor} (h : Fits fd) : (Int32.ofInt fd).toInt = fd :=
  Int32.toInt_ofInt_of_le h.1 h.2

def withListener (a : Acceptor) (i : Nat) (l : Listener) (said : List LogEntry) : Acceptor :=
  { a with listeners := a.listeners.set i l, log := said ++ a.log }

def read (g : Gate) (w : Nat) (c : Channel) (limit : Nat) : Gate :=
  let r := c.receive limit
  { g with
    acceptor := g.acceptor.setChannel w r.2
    received := fun v => if v = w then g.received w ++ r.1.toList else g.received v }

/-- One thing that happens. The acceptor takes a turn in small steps, and at each moment between two
of them a receiver may read, so that a number can be received in part while the rest is still to be
written. -/
inductive Step : Gate → Gate → Prop
  /-- Other clients or failures are to come at a listener. -/
  | stock (g : Gate) (i : Nat) (l : Listener) :
      Step g { g with acceptor := withListener g.acceptor i l [] }
  /-- Descriptors run out, or there are some again. -/
  | exhaust (g : Gate) (exhausted : Bool) :
      Step g { g with acceptor := { g.acceptor with exhausted } }
  /-- A receiver makes one read. -/
  | read (g : Gate) {w : Nat} {c : Channel} (hc : g.acceptor.channels[w]? = some c) (limit : Nat) :
      Step g (g.read w c limit)
  /-- A turn begins, with the ready listeners in any order. -/
  | wait (g : Gate) {a : Acceptor} {found ready : List Nat} (hstage : g.stage = .idle)
      (hwait : Acceptor.waitReady g.acceptor = .ok found a) (hready : ready.Perm found) :
      Step g { g with acceptor := a, stage := .accepting a.maxOpsPerFd ready }
  /-- A client is accepted. -/
  | accept (g : Gate) {i rounds : Nat} {ready : List Nat} {l l' : Listener} {client : Descriptor}
      (hstage : g.stage = .accepting (rounds + 1) (i :: ready))
      (hl : g.acceptor.listeners[i]? = some l)
      (haccept : l.accept g.acceptor.exhausted = (.ok client, l')) (hfits : Fits client) :
      Step g { g with
        acceptor := withListener g.acceptor i l' [⟨.info, s!"accepted fd {client}"⟩]
        stage := .handing client (encode (Int32.ofInt client)) rounds (i :: ready)
        accepted := g.accepted ++ [client] }
  /-- The accept call was interrupted. -/
  | retry (g : Gate) {i rounds : Nat} {ready : List Nat} {l l' : Listener} {e : Errno}
      (hstage : g.stage = .accepting (rounds + 1) (i :: ready))
      (hl : g.acceptor.listeners[i]? = some l)
      (haccept : l.accept g.acceptor.exhausted = (.error e, l'))
      (hkind : IoError.Kind.ofErrno e = .interrupted) :
      Step g { g with
        acceptor := withListener g.acceptor i l' []
        stage := .accepting rounds (i :: ready) }
  /-- The accept call failed for another reason. -/
  | giveUp (g : Gate) {i rounds : Nat} {ready : List Nat} {l l' : Listener} {e : Errno}
      (hstage : g.stage = .accepting (rounds + 1) (i :: ready))
      (hl : g.acceptor.listeners[i]? = some l)
      (haccept : l.accept g.acceptor.exhausted = (.error e, l'))
      (hkind : IoError.Kind.ofErrno e ≠ .interrupted) (said : List LogEntry) :
      Step g { g with
        acceptor := withListener g.acceptor i l' said
        stage := .accepting g.acceptor.maxOpsPerFd ready }
  /-- The rounds for a listener are used up. -/
  | spent (g : Gate) {i : Nat} {ready : List Nat} (hstage : g.stage = .accepting 0 (i :: ready)) :
      Step g { g with stage := .accepting g.acceptor.maxOpsPerFd ready }
  /-- The turn is over. -/
  | done (g : Gate) {rounds : Nat} (hstage : g.stage = .accepting rounds []) :
      Step g { g with stage := .idle }
  /-- Some bytes of a number are written. -/
  | write (g : Gate) {client : Descriptor} {piece rest : List UInt8} {rounds : Nat}
      {ready : List Nat} {c : Channel}
      (hstage : g.stage = .handing client (piece ++ rest) rounds ready)
      (hwrite : g.acceptor.nextChannel.write piece = .ok c) :
      Step g { g with
        acceptor := g.acceptor.setChannel g.acceptor.next c
        stage := .handing client rest rounds ready }
  /-- The client is counted, and the turn passes to the next worker. -/
  | pass (g : Gate) {client : Descriptor} {rounds : Nat} {ready : List Nat} {a : Acceptor}
      (hstage : g.stage = .handing client [] rounds ready)
      (hpass : (do Acceptor.record g.acceptor.next; modify Acceptor.rotate : Acceptor.Act Unit)
        g.acceptor = .ok ⟨⟩ a) :
      Step g { g with acceptor := a, stage := .accepting rounds ready }

/-- What can come of a new acceptor with new channels, whatever comes between the steps of its
turns. -/
inductive Reachable : Gate → Prop
  | start {listeners : List Listener} {channels : List Channel} {settings : Settings}
      {exhausted : Bool} {fd : Descriptor} {a : Acceptor}
      (hnew : ∀ c ∈ channels, ∃ readFd writeFd, Channel.create false readFd writeFd = .ok c)
      (hcreate : Acceptor.create listeners channels settings channels.length exhausted fd = .ok a) :
      Reachable { acceptor := a }
  | step {g g' : Gate} (h : Reachable g) (hstep : Step g g') : Reachable g'

/-! ## The invariant -/

/-- The clients `handed` were handed off completely, and at most one more was accepted. The number
of the latter may be written in part, to the worker whose turn it is. -/
structure Sound (g : Gate) (handed : List Descriptor) : Prop where
  accepted : g.accepted = handed ++ g.stage.inHand
  next : g.acceptor.next = handed.length % g.acceptor.channels.length
  counts : g.acceptor.counts = (List.range g.acceptor.channels.length).map fun w =>
    (deal g.acceptor.channels.length w handed).length
  balance : ∀ w c, g.acceptor.channels[w]? = some c →
    encoded (g.received w) ++ c.held ++ c.queued
      ++ (if w = g.acceptor.next then g.stage.unwritten else [])
      = encoded ((deal g.acceptor.channels.length w g.accepted).map Int32.ofInt)
  fits : ∀ fd ∈ g.accepted, Fits fd

variable {g g' : Gate} {handed : List Descriptor}

/-- What does not touch the channels and their clients leaves everything in its place. What comes to
a listener, a wait and an accept call that fails are of this kind. -/
theorem Sound.keep (h : g.Sound handed) (hchannels : g'.acceptor.channels = g.acceptor.channels)
    (hcounts : g'.acceptor.counts = g.acceptor.counts) (hnext : g'.acceptor.next = g.acceptor.next)
    (haccepted : g'.accepted = g.accepted) (hreceived : g'.received = g.received)
    (hinHand : g'.stage.inHand = g.stage.inHand)
    (hunwritten : g'.stage.unwritten = g.stage.unwritten) : g'.Sound handed := by
  constructor
  · rw [haccepted, hinHand, h.accepted]
  · rw [hnext, hchannels, h.next]
  · rw [hcounts, hchannels, h.counts]
  · rw [hchannels, hnext, hunwritten, hreceived, haccepted]
    exact h.balance
  · rw [haccepted]
    exact h.fits

/-- A read moves bytes from a channel to its receiver. The client in hand may be in the pipe in part
already, and these bytes are read like any others. -/
theorem Sound.read (h : g.Sound handed) {w : Nat} {c : Channel}
    (hc : g.acceptor.channels[w]? = some c) (limit : Nat) : (g.read w c limit).Sound handed := by
  have hlength : (g.read w c limit).acceptor.channels.length = g.acceptor.channels.length :=
    List.length_set ..
  refine ⟨h.accepted, ?_, ?_, fun v c' hc' => ?_, h.fits⟩
  · rw [hlength]
    exact h.next
  · rw [hlength]
    exact h.counts
  · rw [hlength]
    change (g.acceptor.channels.set w (c.receive limit).2)[v]? = some c' at hc'
    by_cases hv : v = w
    · subst hv
      rw [List.getElem?_set_self (List.getElem?_eq_some_iff.mp hc).1] at hc'
      cases hc'
      have hgot : (g.read v c limit).received v = g.received v ++ (c.receive limit).1.toList :=
        if_pos rfl
      have hmoved : encoded (g.received v ++ (c.receive limit).1.toList)
          ++ (c.receive limit).2.held ++ (c.receive limit).2.queued
          = encoded (g.received v) ++ c.held ++ c.queued := by
        rw [List.append_assoc _ c.held, c.held_append_queued limit, encoded_append]
        simp only [List.append_assoc]
      rw [hgot, hmoved]
      exact h.balance v c hc
    · rw [List.getElem?_set_ne (Ne.symm hv)] at hc'
      have hsame : (g.read w c limit).received v = g.received v := if_neg hv
      rw [hsame]
      exact h.balance v c' hc'

/-- The next client is accepted when the one before was handed off. It is the one that is not yet
handed off then, with all its bytes still to be written. -/
theorem Sound.accept (h : g.Sound handed) {rounds rounds' : Nat} {ready ready' : List Nat}
    (hstage : g.stage = .accepting rounds ready) {client : Descriptor} (hfits : Fits client)
    (i : Nat) (l : Listener) (said : List LogEntry) :
    Sound { g with
      acceptor := withListener g.acceptor i l said
      stage := .handing client (encode (Int32.ofInt client)) rounds' ready'
      accepted := g.accepted ++ [client] } handed := by
  have haccepted : g.accepted = handed := by
    rw [h.accepted, hstage]
    exact List.append_nil handed
  refine ⟨congrArg (· ++ [client]) haccepted, h.next, h.counts, fun w c hc => ?_, ?_⟩
  · have hbalance := h.balance w c hc
    rw [hstage] at hbalance
    change _ ++ (if w = g.acceptor.next then encode (Int32.ofInt client) else [])
      = encoded ((deal g.acceptor.channels.length w (g.accepted ++ [client])).map Int32.ofInt)
    rw [deal_concat, List.map_append, encoded_append, ← hbalance, haccepted, ← h.next]
    by_cases hw : w = g.acceptor.next
    · simp [hw, Stage.unwritten]
    · simp [hw, Ne.symm hw]
  · intro fd hfd
    rcases List.mem_append.mp hfd with hold | hnew
    · exact h.fits fd hold
    · rw [List.mem_singleton.mp hnew]
      exact hfits

theorem Sound.write (h : g.Sound handed) {client : Descriptor} {piece rest : List UInt8}
    {rounds : Nat} {ready : List Nat}
    (hstage : g.stage = .handing client (piece ++ rest) rounds ready)
    {c : Channel} (hwrite : g.acceptor.nextChannel.write piece = .ok c) :
    Sound { g with
      acceptor := g.acceptor.setChannel g.acceptor.next c
      stage := .handing client rest rounds ready } handed := by
  have hlength : (g.acceptor.setChannel g.acceptor.next c).channels.length
      = g.acceptor.channels.length := List.length_set ..
  have hinHand : g.accepted = handed ++ [client] := by rw [h.accepted, hstage]; rfl
  refine ⟨hinHand, ?_, ?_, fun w c' hc' => ?_, h.fits⟩
  · rw [hlength]
    exact h.next
  · rw [hlength]
    exact h.counts
  · rw [hlength]
    change (g.acceptor.channels.set g.acceptor.next c)[w]? = some c' at hc'
    change _ ++ (if w = g.acceptor.next then rest else []) = encoded
      ((deal g.acceptor.channels.length w g.accepted).map Int32.ofInt)
    by_cases hw : w = g.acceptor.next
    · subst hw
      rw [List.getElem?_set_self g.acceptor.next_lt] at hc'
      cases hc'
      obtain ⟨hheld, hqueued⟩ := of_write hwrite
      have hbalance := h.balance g.acceptor.next g.acceptor.nextChannel
        (List.getElem?_eq_getElem g.acceptor.next_lt)
      rw [if_pos rfl, hstage] at hbalance
      rw [if_pos rfl, ← hbalance, hheld, hqueued]
      simp only [Stage.unwritten, List.append_assoc]
    · rw [List.getElem?_set_ne (Ne.symm hw)] at hc'
      have hbalance := h.balance w c' hc'
      rw [if_neg hw] at hbalance ⊢
      exact hbalance

/-- The client in hand is counted for the worker that got it. With no bytes left to be written it is
one of those that were handed off, and the turn passes to the next worker. -/
theorem Sound.pass (h : g.Sound handed) {client : Descriptor} {rounds : Nat} {ready : List Nat}
    (hstage : g.stage = .handing client [] rounds ready) {a : Acceptor}
    (hpass : (do Acceptor.record g.acceptor.next; modify Acceptor.rotate : Acceptor.Act Unit)
      g.acceptor = .ok ⟨⟩ a) :
    Sound { g with acceptor := a, stage := .accepting rounds ready } (handed ++ [client]) := by
  obtain ⟨_, _, hrecord, hrotate⟩ := Acceptor.of_bind hpass
  obtain rfl := Acceptor.of_record hrecord
  cases hrotate
  have haccepted : g.accepted = handed ++ [client] := by rw [h.accepted, hstage]; rfl
  constructor
  · rw [haccepted]
    exact (List.append_nil _).symm
  · change (g.acceptor.next + 1) % g.acceptor.channels.length
      = (handed ++ [client]).length % g.acceptor.channels.length
    rw [h.next, Nat.mod_add_mod, List.length_append]
    rfl
  · change g.acceptor.counts.modify g.acceptor.next (· + 1)
        = (List.range g.acceptor.channels.length).map
      fun w => (deal g.acceptor.channels.length w (handed ++ [client])).length
    rw [h.counts, h.next, modify_length_deal]
  · intro w c hc
    have hbalance := h.balance w c hc
    rw [hstage] at hbalance
    change _ ++ (if w = g.acceptor.next then [] else []) = _ at hbalance
    rw [ite_self] at hbalance
    change _ ++ (if w = (g.acceptor.next + 1) % g.acceptor.channels.length then [] else []) = _
    rw [ite_self]
    exact hbalance
  · exact h.fits

/-- Every step keeps every client in its place. The clients that were handed off are more only after
the step that counts one, so the list of them is found anew for each step. -/
theorem Step.sound (hstep : Step g g') (h : g.Sound handed) : ∃ handed', g'.Sound handed' := by
  cases hstep with
  | stock i l => exact ⟨handed, h.keep rfl rfl rfl rfl rfl rfl rfl⟩
  | exhaust exhausted => exact ⟨handed, h.keep rfl rfl rfl rfl rfl rfl rfl⟩
  | read hc limit => exact ⟨handed, h.read hc limit⟩
  | wait hstage hwait hready =>
    obtain ⟨_, poller, -, rfl⟩ := Acceptor.of_waitReady hwait
    refine ⟨handed, h.keep rfl rfl rfl rfl rfl ?_ ?_⟩ <;> rw [hstage] <;> rfl
  | accept hstage hl haccept hfits => exact ⟨handed, h.accept hstage hfits ..⟩
  | retry hstage hl haccept hkind =>
    refine ⟨handed, h.keep rfl rfl rfl rfl rfl ?_ ?_⟩ <;> rw [hstage] <;> rfl
  | giveUp hstage hl haccept hkind said =>
    refine ⟨handed, h.keep rfl rfl rfl rfl rfl ?_ ?_⟩ <;> rw [hstage] <;> rfl
  | spent hstage =>
    refine ⟨handed, h.keep rfl rfl rfl rfl rfl ?_ ?_⟩ <;> rw [hstage] <;> rfl
  | done hstage =>
    refine ⟨handed, h.keep rfl rfl rfl rfl rfl ?_ ?_⟩ <;> rw [hstage] <;> rfl
  | write hstage hwrite => exact ⟨handed, h.write hstage hwrite⟩
  | pass hstage hpass => exact ⟨_, h.pass hstage hpass⟩

/-! ## Runs -/

theorem Reachable.sound (h : g.Reachable) : ∃ handed, g.Sound handed := by
  induction h with
  | @start _ channels _ _ _ a hnew hcreate =>
    obtain ⟨-, hchannels, hnext, hcounts⟩ := Acceptor.of_create hcreate
    refine ⟨[], rfl, ?_, ?_, fun w c hc => ?_, fun fd hfd => absurd hfd List.not_mem_nil⟩
    · rw [hnext]
      exact (Nat.zero_mod _).symm
    · rw [hcounts, hchannels]
      simp
    · obtain ⟨readFd, writeFd, hcc⟩ := hnew c (hchannels ▸ List.mem_of_getElem? hc)
      cases hcc
      simp [Stage.unwritten, queued, Fifo.toList]
  | step h hstep ih =>
    obtain ⟨handed, hsound⟩ := ih
    exact hstep.sound hsound

end Gate

end Sluice
