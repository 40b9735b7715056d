import Sluice.Proofs.Handoff.Gate
import Sluice.Proofs.Handoff.Harvest
import Sluice.Proofs.Store.Registrations

/-!
# Clients dealt out in turn

A whole turn of the acceptor and a whole drain of a receiver are runs of the steps of a `Gate`. The
clients of a turn are those of the harvests of the listeners that its wait has found
(`Gate.Reachable.turned`), and a drain gets what a receiver gets that reads until its channel is
empty (`Gate.Reachable.drained`).

Between turns every worker has got, or finds in its channel, exactly the clients that fall to it
when they are dealt out in turn (`Gate.Reachable.dealt_in_turn`).
-/

namespace Sluice

open Handoff Channel

namespace Gate

variable {g g' : Gate} {handed : List Descriptor}

/-! ## What a wait finds -/

/-- Whatever is registered with the acceptor stands for one of its listeners. It is what makes the
listeners that a wait finds ready all known, so that none of their clients is passed over. -/
structure Watchful (a : Acceptor) : Prop where
  sound : a.poller.Sound
  known : ∀ fd r, a.poller.registration? fd = some r → r.1.value < a.listeners.length

theorem Watchful.of_eq {a b : Acceptor} (h : Watchful a) (hpoller : b.poller = a.poller)
    (hlength : b.listeners.length = a.listeners.length) : Watchful b := by
  obtain ⟨hsound, hknown⟩ := h
  refine ⟨hpoller ▸ hsound, fun fd r hr => ?_⟩
  rw [hpoller] at hr
  rw [hlength]
  exact hknown fd r hr

theorem Watchful.waited {a : Acceptor} (h : Watchful a) {ready : ReadyList} {poller : Poller}
    (hwait : a.poller.wait a.view = .ok (some ready, poller)) : Watchful { a with poller } := by
  obtain ⟨hsound, -, hsame⟩ := Poller.wait_ok h.sound hwait
  refine ⟨hsound, fun fd r hr => h.known fd r ?_⟩
  rwa [← hsame fd]

theorem Watchful.found {a : Acceptor} (h : Watchful a) {ready : ReadyList} {poller : Poller}
    (hwait : a.poller.wait a.view = .ok (some ready, poller)) :
    ∀ i ∈ Acceptor.readyListeners ready, i < a.listeners.length := by
  intro i hi
  obtain ⟨e, he, rfl⟩ := List.mem_map.mp hi
  obtain ⟨m, hm, hreport⟩ := (Poller.wait_found h.sound hwait).1 e (List.mem_filter.mp he).1
  have htoken : e.token = m.token := Conditions.token_of_event? hreport
  rw [htoken]
  exact h.known m.fd _ ((Poller.mem_registrations h.sound).mp hm)

/-- The listeners are registered under their own indexes. The induction is on the listeners, with
`i` registered before them. -/
theorem watchful_registerAll {view : SystemView} {i : Nat} {ls : List Listener} {p q : Poller}
    (h : Acceptor.registerAll view i ls p = .ok q) (hsound : p.Sound)
    (hknown : ∀ fd r, p.registration? fd = some r → r.1.value < i) :
    q.Sound ∧ ∀ fd r, q.registration? fd = some r → r.1.value < i + ls.length := by
  induction ls generalizing i p with
  | nil =>
    cases h
    exact ⟨hsound, hknown⟩
  | cons l rest ih =>
    unfold Acceptor.registerAll at h
    split at h
    · next p' hadd =>
      obtain ⟨hsound', -, -, hlook⟩ := Poller.add_ok hsound hadd
      obtain ⟨hq, hknown'⟩ := ih h hsound' fun fd r hr => by
        rw [hlook] at hr
        split at hr
        · cases hr
          exact Nat.lt_succ_self i
        · exact Nat.lt_succ_of_lt (hknown fd r hr)
      refine ⟨hq, fun fd r hr => ?_⟩
      rw [List.length_cons, Nat.add_comm rest.length, ← Nat.add_assoc]
      exact hknown' fd r hr
    · cases h

theorem watchful_create {listeners : List Listener} {channels : List Channel} {settings : Settings}
    {counters : Nat} {exhausted : Bool} {fd : Descriptor} {a : Acceptor}
    (h : Acceptor.create listeners channels settings counters exhausted fd = .ok a) :
    Watchful a := by
  unfold Acceptor.create at h
  split at h
  · dsimp only at h
    split at h
    · cases h
    · next p hcreate =>
      obtain ⟨hsound, hnone⟩ := Poller.create_ok hcreate
      split at h <;> cases h
      next q hall =>
      obtain ⟨hsound', hknown⟩ := watchful_registerAll hall hsound fun fd r hr => by
        rw [hnone] at hr
        cases hr
      refine ⟨hsound', fun fd r hr => ?_⟩
      have hlt := hknown fd r hr
      rwa [Nat.zero_add] at hlt
  · cases h

theorem Step.watchful (hstep : Step g g') (h : Watchful g.acceptor) : Watchful g'.acceptor := by
  cases hstep with
  | wait hstage hwait hready =>
    obtain ⟨ready, poller, hfound, rfl⟩ := Acceptor.of_waitReady hwait
    exact h.waited hfound
  | pass hstage hpass =>
    obtain ⟨_, _, hrecord, hrotate⟩ := Acceptor.of_bind hpass
    obtain rfl := Acceptor.of_record hrecord
    cases hrotate
    exact h.of_eq rfl rfl
  | spent | done => exact h
  | exhaust | read | write => exact h.of_eq rfl rfl
  | stock | accept | retry | giveUp => exact h.of_eq rfl (List.length_set ..)

theorem Reachable.watchful (h : g.Reachable) : Watchful g.acceptor := by
  induction h with
  | start hnew hcreate => exact watchful_create hcreate
  | step h hstep ih => exact hstep.watchful ih

/-! ## Whole turns -/

/-- The listeners have only descriptors to give: what is in their backlogs has 32 bits. -/
def Fitting (a : Acceptor) : Prop :=
  ∀ l ∈ a.listeners, ∀ fd, .ok fd ∈ l.backlog → Fits fd

theorem Fitting.set {a b : Acceptor} (h : Fitting a) {i : Nat} {l l' : Listener}
    (hl : a.listeners[i]? = some l) (hsub : ∀ outcome ∈ l'.backlog, outcome ∈ l.backlog)
    (hb : b.listeners = a.listeners.set i l') : Fitting b := by
  intro m hm fd hfd
  rw [hb] at hm
  rcases List.mem_or_eq_of_mem_set hm with hold | rfl
  · exact h m hold fd hfd
  · exact h l (List.mem_of_getElem? hl) fd (hsub _ hfd)

theorem mem_backlog_of_skip {l : Listener} {exhausted : Bool} {n : Nat}
    {outcome : Except Errno Descriptor} (h : outcome ∈ (l.skip exhausted n).backlog) :
    outcome ∈ l.backlog := by
  unfold Listener.skip at h
  split at h
  · exact List.mem_of_mem_drop h
  · exact h

theorem Reachable.handedOff (h : g.Reachable) {client : Descriptor} {rounds : Nat}
    {ready : List Nat}
    (hstage : g.stage = .handing client (encode (Int32.ofInt client)) rounds ready) {a : Acceptor}
    (hand : Acceptor.handOff client g.acceptor = .ok ⟨⟩ a) :
    Reachable { g with acceptor := a, stage := .accepting rounds ready } := by
  obtain ⟨c, hwrite, hpass⟩ := Acceptor.of_handOff hand
  have hwhole : g.stage = .handing client (encode (Int32.ofInt client) ++ []) rounds ready := by
    rw [hstage, List.append_nil]
  exact (h.step (.write g hwhole hwrite)).step (.pass _ rfl hpass)

/-- Accepting from one listener is a run, and what it adds to the clients is the harvest. The
induction is on the rounds, as in `Acceptor.acceptFrom_cases`. -/
theorem Reachable.acceptedFrom (h : g.Reachable) {i rounds : Nat} {ready : List Nat} {l : Listener}
    (hstage : g.stage = .accepting rounds (i :: ready)) (hl : g.acceptor.listeners[i]? = some l)
    (hfit : Fitting g.acceptor) {a : Acceptor}
    (hfrom : Acceptor.acceptFrom i rounds g.acceptor = .ok ⟨⟩ a) :
    ∃ answers, l.Harvest g.acceptor.exhausted rounds answers ∧ Reachable { g with
      acceptor := a
      stage := .accepting a.maxOpsPerFd ready
      accepted := g.accepted ++ Answer.clients answers } := by
  induction rounds generalizing g l with
  | zero =>
    cases hfrom
    refine ⟨[], Listener.harvest_zero .., ?_⟩
    rw [Answer.clients, List.filterMap_nil, List.append_nil]
    exact h.step (.spent g hstage)
  | succ rounds ih =>
    have hi := (List.getElem?_eq_some_iff.mp hl).1
    rcases haccept : l.accept g.acceptor.exhausted with ⟨answer, l'⟩
    obtain ⟨hsub, hmem⟩ := Listener.of_accept haccept
    cases answer with
    | ok client =>
      have hfits : Fits client := hfit l (List.mem_of_getElem? hl) client (hmem client rfl)
      rw [Acceptor.acceptFrom_client hl haccept, Acceptor.after_nil] at hfrom
      obtain ⟨_, a₁, hand, hfrom⟩ := Acceptor.of_bind hfrom
      have hnext := (h.step (.accept g hstage hl haccept hfits)).handedOff rfl hand
      obtain rfl := Acceptor.eq_dealt_of_handOff hand
      obtain ⟨answers, hharvest, hreach⟩ :=
        ih hnext rfl (List.getElem?_set_self hi) (hfit.set hl hsub rfl) hfrom
      refine ⟨.ok client :: answers, .cons haccept trivial hharvest, ?_⟩
      rwa [List.append_assoc] at hreach
    | error e =>
      by_cases hkind : IoError.Kind.ofErrno e = .interrupted
      · have hsilent : ([.error e] : List Answer).flatMap Answer.said = [] := by
          rw [List.flatMap_singleton, Answer.said_of_interrupted hkind]
        rw [Acceptor.acceptFrom_retry hl haccept hkind, Acceptor.after_nil, hsilent] at hfrom
        have hnext := h.step (.retry g hstage hl haccept hkind)
        obtain ⟨answers, hharvest, hreach⟩ :=
          ih hnext rfl (List.getElem?_set_self hi) (hfit.set hl hsub rfl) hfrom
        exact ⟨.error e :: answers, .cons haccept hkind hharvest, hreach⟩
      · rw [Acceptor.acceptFrom_last hl haccept hkind, Acceptor.after_nil] at hfrom
        cases hfrom
        have hnobody : g.accepted ++ Answer.clients [.error e] = g.accepted :=
          List.append_nil g.accepted
        refine ⟨[.error e], Listener.harvest_last haccept hkind, ?_⟩
        rw [hnobody]
        exact h.step (.giveUp g hstage hl haccept hkind _)

/-- The listeners are as the first harvest leaves them when the next one begins. That is known from
`Acceptor.of_acceptFrom`, and there is only one harvest (`Listener.Harvest.unique`). -/
theorem Reachable.acceptedFromAll {ready : List Nat} (h : g.Reachable)
    (hstage : g.stage = .accepting g.acceptor.maxOpsPerFd ready) (hfit : Fitting g.acceptor)
    (hknown : ∀ i ∈ ready, i < g.acceptor.listeners.length) {a : Acceptor}
    (hfrom : Acceptor.acceptFromAll ready g.acceptor = .ok ⟨⟩ a) :
    ∃ harvests, Acceptor.Harvests g.acceptor.exhausted g.acceptor.maxOpsPerFd g.acceptor.listeners
        ready harvests a.listeners
      ∧ Reachable { g with
        acceptor := a
        stage := .idle
        accepted := g.accepted ++ Answer.clients harvests.flatten } := by
  induction ready generalizing g with
  | nil =>
    cases hfrom
    refine ⟨[], .nil _, ?_⟩
    rw [List.flatten_nil, Answer.clients, List.filterMap_nil, List.append_nil]
    exact h.step (.done g hstage)
  | cons i ready ih =>
    obtain ⟨hi, hknown⟩ := List.forall_mem_cons.mp hknown
    have hl := List.getElem?_eq_getElem hi
    obtain ⟨_, _, hget, hfrom⟩ := Acceptor.of_bind hfrom
    cases hget
    obtain ⟨_, a₁, hfirst, hrest⟩ := Acceptor.of_bind hfrom
    obtain ⟨answers, hharvest, hreach⟩ := h.acceptedFrom hstage hl hfit hfirst
    obtain ⟨_, hsame, rfl⟩ := Acceptor.of_acceptFrom hl hfirst
    obtain rfl := hharvest.unique hsame
    obtain ⟨later, hlater, hreach'⟩ := ih hreach rfl
      (hfit.set hl (fun _ => mem_backlog_of_skip) rfl)
      (fun j hj => Nat.lt_of_lt_of_eq (hknown j hj) (List.length_set ..).symm) hrest
    refine ⟨answers :: later, .cons hl hharvest hlater, ?_⟩
    rwa [List.append_assoc, ← Answer.clients_append] at hreach'

/-- A turn that nothing comes between is a run, and the clients it adds are those of the harvests
of the listeners that its wait has found. -/
theorem Reachable.turned (h : g.Reachable) (hidle : g.stage = .idle) (hfit : Fitting g.acceptor)
    {a : Acceptor} (hturn : Acceptor.turn g.acceptor = .ok ⟨⟩ a) :
    ∃ ready poller harvests, g.acceptor.poller.wait g.acceptor.view = .ok (some ready, poller)
      ∧ Acceptor.Harvests g.acceptor.exhausted g.acceptor.maxOpsPerFd g.acceptor.listeners
          (Acceptor.readyListeners ready) harvests a.listeners
      ∧ Reachable { g with
        acceptor := a
        accepted := g.accepted ++ Answer.clients harvests.flatten } := by
  obtain ⟨ready, poller, hwait, hfrom⟩ := Acceptor.of_turn hturn
  have hwaited := h.step (.wait g hidle (Acceptor.waitReady_eq hwait) (.refl _))
  have hknown := h.watchful.found hwait
  obtain ⟨harvests, hharvests, hreach⟩ := hwaited.acceptedFromAll rfl hfit hknown hfrom
  refine ⟨ready, poller, harvests, hwait, hharvests, ?_⟩
  rw [hidle]
  exact hreach

/-! ## Whole drains -/

def drain (g : Gate) (w : Nat) (c : Channel) : Gate :=
  { g with
    acceptor := g.acceptor.setChannel w c.drain.2
    received := fun v => if v = w then g.received w ++ c.drain.1.values else g.received v }

theorem drain_of_empty {w : Nat} {c : Channel} (hc : g.acceptor.channels[w]? = some c)
    (hempty : c.queued = []) : g.drain w c = g := by
  have hset : g.acceptor.channels.set w c = g.acceptor.channels := by
    obtain ⟨hw, rfl⟩ := List.getElem?_eq_some_iff.mp hc
    exact List.set_getElem_self hw
  have hacceptor : g.acceptor.setChannel w c = g.acceptor := by
    unfold Acceptor.setChannel
    simp only [hset]
  have hreceived : (fun v => if v = w then g.received w ++ [] else g.received v) = g.received := by
    funext v
    by_cases hv : v = w <;> simp [hv]
  rw [drain, Channel.drain_of_empty hempty, hacceptor, hreceived]

theorem drain_of_queued {w : Nat} {c : Channel} (hqueued : c.queued ≠ []) :
    g.drain w c = (g.read w c messageLength).drain w (c.receive messageLength).2 := by
  rw [drain, Channel.drain_of_queued hqueued, drain, read]
  simp only [Acceptor.setChannel, List.set_set, if_true, ← List.append_assoc]
  congr 1
  funext v
  by_cases hv : v = w <;> simp [hv]

/-- A drain that nothing comes between is a run: one read after the other, until the pipe is
empty. -/
theorem Reachable.drained (h : g.Reachable) {w : Nat} {c : Channel}
    (hc : g.acceptor.channels[w]? = some c) : (g.drain w c).Reachable := by
  induction hlength : c.queued.length using Nat.strong_induction_on generalizing g c with
  | _ length ih =>
    by_cases hempty : c.queued = []
    · rwa [drain_of_empty hc hempty]
    · rw [drain_of_queued hempty]
      have hshort : (c.receive messageLength).2.queued.length < length := by
        have hheld := c.held_lt
        have hpos := List.length_pos_iff.mpr hempty
        rw [c.receive_queued, List.length_drop, hlength]
        omega
      exact ih _ hshort (h.step (.read g hc messageLength))
        (List.getElem?_set_self (List.getElem?_eq_some_iff.mp hc).1) rfl

/-! ## Between turns -/

/-- With no client in hand, a receiver lacks of its deal what waits in its channel. A number of
which a part was read counts as waiting, with all its bytes. -/
theorem Sound.waiting (h : g.Sound handed) (hidle : g.stage = .idle) {w : Nat} {c : Channel}
    (hc : g.acceptor.channels[w]? = some c) :
    ∃ us, (deal g.acceptor.channels.length w g.accepted).map Int32.ofInt = g.received w ++ us
      ∧ c.held ++ c.queued = encoded us := by
  have hbalance := h.balance w c hc
  rw [hidle] at hbalance
  change _ ++ (if w = g.acceptor.next then [] else []) = _ at hbalance
  rw [ite_self, List.append_nil, List.append_assoc] at hbalance
  exact encoded_prefix hbalance

theorem Sound.toInt_deal (h : g.Sound handed) (n w : Nat) :
    ((deal n w g.accepted).map Int32.ofInt).map Int32.toInt = deal n w g.accepted := by
  have hsame : ∀ fd ∈ deal n w g.accepted, (Int32.ofInt fd).toInt = fd := fun fd hfd =>
    (h.fits fd (deal_subset n w g.accepted hfd)).toInt_ofInt
  rw [List.map_map]
  exact (List.map_congr_left hsame).trans (List.map_id _)

/-- Between turns, what a receiver got and what waits in its channel, as clients, are those that
fall to its worker when all clients accepted so far are dealt out in turn. The counts say so, no two
of them differ by more than one, and no client is lost, doubled or given to two workers. -/
theorem Reachable.dealt_in_turn (h : g.Reachable) (hidle : g.stage = .idle) :
    let n := g.acceptor.channels.length
    ∃ waiting : Nat → List Int32,
      (∀ w c, g.acceptor.channels[w]? = some c → c.held ++ c.queued = encoded (waiting w)
        ∧ (g.received w ++ waiting w).map Int32.toInt = deal n w g.accepted
        ∧ g.acceptor.counts[w]? = some (deal n w g.accepted).length)
      ∧ g.acceptor.counts.length = n ∧ g.acceptor.next = g.accepted.length % n
      ∧ (∀ x ∈ g.acceptor.counts, ∀ y ∈ g.acceptor.counts, x ≤ y + 1)
      ∧ ((List.range n).flatMap fun w => (g.received w ++ waiting w).map Int32.toInt).Perm
          g.accepted := by
  intro n
  obtain ⟨handed, hsound⟩ := h.sound
  have haccepted : g.accepted = handed := by
    rw [hsound.accepted, hidle]
    exact List.append_nil handed
  subst haccepted
  let waiting (w : Nat) : List Int32 :=
    ((deal n w g.accepted).map Int32.ofInt).drop (g.received w).length
  have hwaiting (w : Nat) (c : Channel) (hc : g.acceptor.channels[w]? = some c) :
      c.held ++ c.queued = encoded (waiting w)
        ∧ (g.received w ++ waiting w).map Int32.toInt = deal n w g.accepted := by
    obtain ⟨us, hus, hbytes⟩ := hsound.waiting hidle hc
    have hwaits : waiting w = us := by
      change ((deal n w g.accepted).map Int32.ofInt).drop (g.received w).length = us
      rw [hus, List.drop_left]
    rw [hwaits, ← hus, hsound.toInt_deal]
    exact ⟨hbytes, rfl⟩
  have hcounts : ∀ x ∈ g.acceptor.counts, ∃ w < n, x = (deal n w g.accepted).length := by
    intro x hx
    rw [hsound.counts, List.mem_map] at hx
    obtain ⟨w, hw, rfl⟩ := hx
    exact ⟨w, List.mem_range.mp hw, rfl⟩
  refine ⟨waiting, fun w c hc => ?_, ?_, hsound.next, ?_, ?_⟩
  · obtain ⟨hbytes, hvalues⟩ := hwaiting w c hc
    have hw : w < n := (List.getElem?_eq_some_iff.mp hc).1
    refine ⟨hbytes, hvalues, ?_⟩
    rw [hsound.counts, List.getElem?_map, List.getElem?_range hw]
    rfl
  · rw [hsound.counts, List.length_map, List.length_range]
  · intro x hx y hy
    obtain ⟨v, hv, rfl⟩ := hcounts x hx
    obtain ⟨w, hw, rfl⟩ := hcounts y hy
    exact length_deal_le hv hw g.accepted
  · have hall : (List.range n).flatMap (fun w => (g.received w ++ waiting w).map Int32.toInt)
        = (List.range n).flatMap fun w => deal n w g.accepted := by
      refine List.flatMap_congr fun w hw => ?_
      exact (hwaiting w _ (List.getElem?_eq_getElem (List.mem_range.mp hw))).2
    rw [hall]
    exact perm_deal (Nat.zero_lt_of_lt g.acceptor.next_lt) g.accepted

/-- Three clients come to two workers: the acceptor before that turn and after it, and its channels
then. -/
def dealing : Option ((Acceptor × Acceptor) × Channel × Channel) :=
  match Acceptor.create [{ fd := 3, backlog := [.ok 10, .error .interrupted, .ok 11, .ok 12] }]
      [{ readFd := 4, writeFd := 5, held_lt := Channel.length_nil_lt },
        { readFd := 6, writeFd := 7, held_lt := Channel.length_nil_lt }]
          { maxOpsPerFd := 9 } 2 false 8 with
  | .ok a =>
    match Acceptor.turn a with
    | .ok _ a' =>
      match a'.channels with
      | [c, d] => some ((a, a'), c, d)
      | _ => none
    | .error .. => none
  | .error _ => none

/-- After that, the first worker reads half of a number. -/
theorem exists_dealing : ∃ (g : Gate) (c d : Channel), g.Reachable ∧ g.stage = .idle
    ∧ g.acceptor.channels = [c, d] ∧ g.received 0 = [] ∧ g.received 1 = [] ∧ c.held = [10, 0]
    ∧ c.queued = [0, 0, 12, 0, 0, 0] ∧ d.held ++ d.queued = [11, 0, 0, 0] := by
  have hall : dealing.any
      (fun r => decide ((r.2.1.receive 2).1 = none ∧ (r.2.1.receive 2).2.held = [10, 0]
      ∧ (r.2.1.receive 2).2.queued = [0, 0, 12, 0, 0, 0]
        ∧ r.2.2.held ++ r.2.2.queued = [11, 0, 0, 0]))
        = true := by
    decide +kernel
  obtain ⟨_, hr, hall⟩ := (Option.any_eq_true _ _).mp hall
  obtain ⟨hnone, hheld, hqueued, hd⟩ := of_decide_eq_true hall
  unfold dealing at hr
  split at hr
  next a hcreate =>
    split at hr
    next a' hturn =>
      split at hr
      next c d hchannels =>
        cases hr
        have hfit : Fitting a := by
          intro l hl fd hfd
          rw [(Acceptor.of_create hcreate).1, List.mem_singleton] at hl
          subst hl
          have hfds : fd = 10 ∨ fd = 11 ∨ fd = 12 := by simpa using hfd
          rcases hfds with rfl | rfl | rfl <;> exact ⟨by decide, by decide⟩
        obtain ⟨_, _, _, -, -, hturned⟩ :=
          (Reachable.start (by simp [create]) hcreate).turned rfl hfit hturn
        have hc : a'.channels[0]? = some c := by rw [hchannels]; rfl
        have hset : a'.channels.set 0 (c.receive 2).2 = [(c.receive 2).2, d] := by
          rw [hchannels]
          rfl
        exact ⟨_, _, d, hturned.step (.read _ hc 2), rfl, hset,
          by simp [Gate.read, hnone], rfl, hheld, hqueued, hd⟩
      next => cases hr
    next => cases hr
  next => cases hr

/-- Half of the first client's number counts as received. -/
theorem dealt_in_turn_of_three : ∃ g : Gate, g.Reachable ∧ g.stage = .idle
    ∧ (∃ c, g.acceptor.channels[0]? = some c ∧ c.held = [10, 0]) ∧ g.acceptor.counts = [2, 1]
    ∧ deal 2 0 g.accepted = [10, 12] ∧ deal 2 1 g.accepted = [11] := by
  obtain ⟨g, c, d, h, hidle, hchannels, hnone₀, hnone₁, hheld, hqueued, hd⟩ := exists_dealing
  obtain ⟨waiting, hdealt, hlength, -⟩ := h.dealt_in_turn hidle
  have hc : g.acceptor.channels[0]? = some c := by rw [hchannels]; rfl
  have hd' : g.acceptor.channels[1]? = some d := by rw [hchannels]; rfl
  obtain ⟨hbytes₀, hvalues₀, hcount₀⟩ := hdealt 0 c hc
  obtain ⟨hbytes₁, hvalues₁, hcount₁⟩ := hdealt 1 d hd'
  rw [hnone₀, List.nil_append, ← numbers_encoded, ← hbytes₀, hheld, hqueued] at hvalues₀
  rw [hnone₁, List.nil_append, ← numbers_encoded, ← hbytes₁, hd] at hvalues₁
  rw [hchannels] at hvalues₀ hvalues₁ hcount₀ hcount₁ hlength
  have hdeal₀ : deal 2 0 g.accepted = [10, 12] := hvalues₀.symm.trans (by decide)
  have hdeal₁ : deal 2 1 g.accepted = [11] := hvalues₁.symm.trans (by decide)
  refine ⟨g, h, hidle, ⟨c, hc, hheld⟩, ?_, hdeal₀, hdeal₁⟩
  obtain ⟨x, y, hcounts⟩ := List.length_eq_two.mp hlength
  rw [hcounts] at hcount₀ hcount₁ ⊢
  rw [Option.some.inj hcount₀, Option.some.inj hcount₁]
  change [(deal 2 0 g.accepted).length, (deal 2 1 g.accepted).length] = _
  rw [hdeal₀, hdeal₁]
  rfl

end Gate

end Sluice

