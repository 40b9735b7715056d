import Sluice.Proofs.Run.Site

/-!
# When a run stops

A worker that can be reached has no reason of its own to stop. As long as nothing fails outside
(`Site.Undisturbed`), the one thing that can cut a turn short is that a larger pool cannot be
allocated (`Reachable.turn_stops`): none of the conditions that the worker takes for fatal comes up,
and no assertion breaks. The same goes for attaching a pair of free sockets and for destroying a
session that is there.
-/

namespace Sluice

namespace Worker

variable {α : Type} {w w' : Worker}

theorem Leads.of_error {x : Act α} {Q : α → Worker → Prop} {E : Abort → Prop} {a : Abort}
    (h : Leads x w Q E) (hx : x w = .error a w') : E a := by
  unfold Leads at h
  rwa [hx] at h

/-- The action does not stop, unless a larger pool cannot be allocated. That is no error but a
panic, and the address space is what it depends on. -/
def StopsForMemory (x : Act α) (w : Worker) : Prop :=
  ∀ a w', x w = .error a w' → a = .panic .capacityOverflow

end Worker

namespace Site

open Worker

variable {σ : Site}

/-- Nothing fails outside: the system carries out the wait, the sender of the control pipe has not
closed it, the number of that pipe is not given out again, and the clients that are on their way can
be registered. -/
structure Undisturbed (σ : Site) : Prop where
  waits : ∀ e, σ.worker.poller.wait σ.worker.view ≠ .error e
  senderOpen : σ.worker.control.senderOpen = true
  control : σ.worker.control.readFd < σ.worker.host.next
  clients : ∀ fd ∈ σ.given, σ.worker.Loose fd → 0 ≤ fd ∧ σ.worker.Registrable fd

/-- The clients that are still on their way can be taken in. -/
theorem Undisturbed.obliging {fds : List Descriptor} (h : σ.Undisturbed) (hσ : σ.Sound)
    (hwait : σ.worker.Waiting fds) (hsub : fds ⊆ σ.given) : σ.worker.Obliging fds where
  control := h.control
  numbers fd hfd := by
    have hl := hwait.loose fd hfd
    exact ⟨(h.clients fd (hsub hfd) hl).1, hσ.worker.housed.next fd hl.1⟩
  registrable fd hfd _ := (h.clients fd (hsub hfd) (hwait.loose fd hfd)).2

/-- A turn of a reachable worker is not cut short by anything in the worker, in whatever order it
handles what is ready; nor is attaching two free sockets, or destroying a session. -/
theorem Reachable.turn_stops (h : Reachable σ) (hun : σ.Undisturbed) :
    (∀ arrange : List Event → List Event, (∀ events, arrange events ⊆ events) →
        StopsForMemory (turnIn arrange) σ.worker)
      ∧ (∀ client remote status, σ.worker.Loose client → σ.worker.Loose remote → client ≠ remote →
        σ.worker.Registrable client → σ.worker.Registrable remote →
        StopsForMemory (attachPair client remote status) σ.worker)
      ∧ ∀ id, σ.worker.session? id ≠ none → ∀ a w', Worker.destroy id σ.worker ≠ .error a w' := by
  have hσ := h.sound
  refine ⟨fun arrange harrange a w' hstop => ?_,
    fun client remote status hc hr hne hcr hrr a w' hstop =>
    ?_, fun id hid a w' hstop => ?_⟩
  · -- only the clients that have not arrived yet matter, and they are all loose
    obtain ⟨hidle, vs, hbytes, hwait, hsub⟩ := hσ.supplied
    have hsup : σ.worker.Supplied σ.unsent (vs.map Int32.toInt) :=
      ⟨hidle, vs, hbytes, hwait, fun _ hv => hv⟩
    exact (leads_turnIn kept_true arrange hσ.worker hsup trivial).of_error hstop harrange
      ⟨hun.waits, hun.senderOpen, hun.obliging hσ hwait hsub⟩
  · exact (leads_attachPair_sound hσ.worker hc hr hne status).of_error hstop hcr hrr
  · obtain ⟨s, hs⟩ := Option.ne_none_iff_exists'.mp hid
    exact (leads_destroy hσ.worker hs).of_error hstop

/-- A pair at work, with one more client in the control pipe. -/
theorem turn_stops_of_client : ∃ σ : Site, Reachable σ ∧ σ.Undisturbed ∧ σ.given = [5]
    ∧ σ.worker.session? 0 ≠ none
    ∧ StopsForMemory (turnIn List.reverse) σ.worker
    ∧ ∀ a w', Worker.destroy 0 σ.worker ≠ .error a w' := by
  obtain ⟨w, hw, hreach, s, -, hs, -⟩ := exists_pair
  have hfields : w.control.readFd = 0 ∧ w.control.senderOpen = true ∧ w.control.receiverOpen = true
      ∧ w.host.next = 5 ∧ w.host.exhausted = false ∧ w.poller.backend = .poll := by
    have hall : pairedWorker.map (fun w => (w.control.readFd, w.control.senderOpen,
        w.control.receiverOpen, w.host.next, w.host.exhausted, w.poller.backend))
        = some (0, true, true, 5, false, .poll) := rfl
    rw [hw] at hall
    simpa using hall
  obtain ⟨hread, hsender, hreceiver, hnext, hexhausted, hbackend⟩ := hfields
  have hpush : w.control.write (Handoff.encode 5)
      = .ok { w.control with queue := w.control.queue.append (Handoff.encode 5) } := by
    rw [Channel.write, if_pos hreceiver]
  let host := (w.host.install (.stream .pair)).2
  let control := { w.control with queue := w.control.queue.append (Handoff.encode 5) }
  let σ : Site :=
    { worker := { w.withHost host with control }
      given := [(5 : Int32).toInt] }
  have hσ : Reachable σ := hreach.handed hnext List.not_mem_nil hpush
  have hun : σ.Undisturbed := {
    waits := fun e he => by
      have hview : σ.worker.view.exhausted = false := hexhausted
      obtain ⟨o, q, hok⟩ := Poller.wait_succeeds σ.worker.poller fun _ => hview
      rw [hok] at he
      cases he
    senderOpen := hsender
    control := by
      show w.control.readFd < w.host.next + 1
      rw [hread, hnext]
      decide
    clients := fun fd hfd _ => by
      obtain rfl := List.mem_singleton.mp hfd
      refine ⟨by decide, ⟨?_, ?_⟩⟩
      · show (5 : Int32).toInt ≠ w.control.readFd
        rw [hread]
        decide
      · show w.poller.backend.Admits _
        rw [hbackend]
        trivial }
  have hid : σ.worker.session? 0 ≠ none := by
    show w.session? 0 ≠ none
    rw [hs]
    exact Option.some_ne_none s
  have hstop := hσ.turn_stops hun
  exact ⟨σ, hσ, hun, rfl, hid, hstop.1 _ fun _ _ he => List.mem_reverse.mp he, hstop.2.2 0 hid⟩

end Site

end Sluice
