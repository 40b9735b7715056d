import Sluice.Proofs.Run.Cascade
import Sluice.Proofs.Run.Isolation
import Sluice.Proofs.Worker.Progress

/-!
# Receiving clients

What has changed in a worker after the clients in its control pipe were received (`Worker.Admits`):
each that could be prepared and connected has become one of a pair, in the order of the clients; the
others are closed, and no trace of them is left. Admitting some clients and then others admits them
all (`Admits.trans`), so that it is enough to look at one (`Received.admits`).

A control event receives every client that has arrived, whatever becomes of the ones before it, and
leaves none over for the next one (`Site.Reachable.clients_received`).
-/

namespace Sluice

namespace Worker

variable {w w₁ w' : Worker} {fd : Descriptor} {fds rest given : List Descriptor} {n : Newcomer}
  {n? : Option Newcomer} {news more : List Newcomer} {unsent : List UInt8}

/-! ## Newcomers -/

def Newcomer.slots (n : Newcomer) : List SessionId :=
  [n.id, n.pid]

def Newcomer.connected (n : Newcomer) : Bool :=
  n.status == .connected

/-- The newcomer has its two sessions, which are linked, hold nothing and are watched for what they
wait for: both for bytes to read when the connection stands, and the remote one for the end of
connecting otherwise. -/
structure Seats (w : Worker) (n : Newcomer) (c r : Session) : Prop where
  client : w.session? n.id = some c
  remote : w.session? n.pid = some r
  sockets : c.fd = n.client ∧ r.fd = n.remote
  roles : c.role = .clientSide ∧ r.role = .remoteSide
  linked : c.peer = some n.pid ∧ r.peer = some n.id
  idle : c.pending = 0 ∧ r.pending = 0
  flags : c.flags = (false, n.connected, false, false)
    ∧ r.flags = (!n.connected, n.connected, false, false)
  watched : w.poller.registration? n.client = some (Session.token n.id, ⟨n.connected, false⟩)
    ∧ w.poller.registration? n.remote = some (Session.token n.pid, ⟨n.connected, !n.connected⟩)

/-- From `w` to `w'` the clients `fds` were received, and `news` are those that were taken in. It
says the whole of what has come of them at once, and is put together client by client
(`Admits.trans`). -/
structure Admits (w : Worker) (fds : List Descriptor) (news : List Newcomer)
    (w' : Worker) : Prop where
  order : (news.map Newcomer.client).Sublist fds
  closed : ∀ fd ∈ fds, fd ∉ news.map Newcomer.client → (w'.host.file fd).isOpen = false
  seated : ∀ n ∈ news, ∃ c r, w'.Seats n c r
  vacant : ∀ n ∈ news, w.session? n.id = none ∧ w.session? n.pid = none
  apart : (news.flatMap Newcomer.slots).Nodup
  clients : ∀ n ∈ news, w'.host.file n.client = w.host.file n.client
  remotes : ∀ n ∈ news, w.host.next ≤ n.remote ∧ (w'.host.file n.remote).isOpen = true
  sessions : ∀ x, x ∉ news.flatMap Newcomer.slots → w'.session? x = w.session? x
  files : ∀ fd, fd ∉ fds → fd < w.host.next → w'.host.file fd = w.host.file fd
  registrations : ∀ fd, fd ∉ news.map Newcomer.client → fd ∉ news.map Newcomer.remote →
    w'.poller.registration? fd = w.poller.registration? fd
  count : w'.sessionCount = w.sessionCount + 2 * news.length
  next : w.host.next ≤ w'.host.next
  settings : w'.settings = w.settings

theorem Newcomer.mem_slots {x : SessionId} : x ∈ n.slots ↔ x = n.id ∨ x = n.pid := by
  simp [slots]

theorem Joins.seats (hj : Joins w w' n.client n.remote n.status n.id n.pid)
    (hne : n.client ≠ n.remote) :
    ∃ c r, w'.Seats n c r := by
  obtain ⟨b, b', l₁, l₂, l₃, l₄, -, -, ha⟩ := hj.attached
  refine ⟨_, _, ha.session_id, ha.session_pid, ⟨rfl, rfl⟩, ⟨rfl, rfl⟩, ⟨rfl, rfl⟩,
    ⟨rfl, rfl⟩, ⟨rfl, rfl⟩, (ha.watched _).trans ((if_neg hne).trans (if_pos rfl)), ?_⟩
  have hinterest : (Session.newRemote n.remote b' l₃ l₄ n.connected n.id).interest
      = ⟨n.connected, !n.connected⟩ := congrArg (Interest.mk n.connected) (Bool.or_false _)
  rw [← hinterest]
  exact (ha.watched _).trans (if_pos rfl)

/-- Sessions stay seated while no one else gets their slots or their descriptors. The clients that
come later get neither. -/
theorem Seats.keep {c r : Session} (h : w₁.Seats n c r) (hid : w'.session? n.id = w₁.session? n.id)
    (hpid : w'.session? n.pid = w₁.session? n.pid)
    (hclient : w'.poller.registration? n.client = w₁.poller.registration? n.client)
    (hremote : w'.poller.registration? n.remote = w₁.poller.registration? n.remote) :
    w'.Seats n c r :=
  { h with
    client := hid.trans h.client
    remote := hpid.trans h.remote
    watched := ⟨hclient.trans h.watched.1, hremote.trans h.watched.2⟩ }

theorem Seats.taken {c r : Session} {x : SessionId} (h : w.Seats n c r) (hx : x ∈ n.slots) :
    w.session? x ≠ none := by
  rcases Newcomer.mem_slots.mp hx with rfl | rfl
  · rw [h.client]
    exact Option.some_ne_none c
  · rw [h.remote]
    exact Option.some_ne_none r

theorem Seats.owned {c r : Session} (h : w.Seats n c r) : w.Owned n.client ∧ w.Owned n.remote :=
  ⟨⟨n.id, c, h.client, h.sockets.1⟩, ⟨n.pid, r, h.remote, h.sockets.2⟩⟩

/-- No slot is given to a newcomer that another session has. This is what keeps newcomers apart from
each other as well, since each finds those before it in their slots. -/
theorem Admits.slot_vacant {x : SessionId} (ha : Admits w fds news w')
    (hx : x ∈ news.flatMap Newcomer.slots) :
    w.session? x = none := by
  obtain ⟨n, hn, hslot⟩ := List.mem_flatMap.mp hx
  obtain ⟨hid, hpid⟩ := ha.vacant n hn
  rcases Newcomer.mem_slots.mp hslot with rfl | rfl
  · exact hid
  · exact hpid

theorem Admits.slot_taken {x : SessionId} (ha : Admits w fds news w')
    (hx : x ∈ news.flatMap Newcomer.slots) :
    w'.session? x ≠ none := by
  obtain ⟨n, hn, hslot⟩ := List.mem_flatMap.mp hx
  obtain ⟨c, r, hseats⟩ := ha.seated n hn
  exact hseats.taken hslot

/-! ## One client -/

theorem admits_nil (w : Worker) : Admits w [] [] w where
  order := .slnil
  closed _ hfd := absurd hfd List.not_mem_nil
  seated _ hn := absurd hn List.not_mem_nil
  vacant _ hn := absurd hn List.not_mem_nil
  apart := List.nodup_nil
  clients _ hn := absurd hn List.not_mem_nil
  remotes _ hn := absurd hn List.not_mem_nil
  sessions _ _ := rfl
  files _ _ _ := rfl
  registrations _ _ _ := rfl
  count := rfl
  next := Int.le_refl _
  settings := rfl

/-- A client that cannot be prepared or connected is closed without a trace. What an attempt may
have opened for it is closed again, and only numbers have been used up. -/
theorem admits_close {e : IoError} {host : Host} (log : List LogEntry)
    (hd : w.host.Dialed (.error e, host)) :
    Admits w [fd] [] { w with host := host.close fd, log } := by
  obtain ⟨hfiles, hnext⟩ : (∀ fd', host.file fd' = w.host.file fd') ∧ host.next = w.host.next := by
    cases hd with
    | failed hfiles hnext => exact ⟨hfiles, hnext⟩
  exact { w.admits_nil with
    order := List.nil_sublist _
    closed := fun fd' hfd' _ => by
      obtain rfl := List.mem_singleton.mp hfd'
      show ((host.close fd').file fd').isOpen = false
      rw [Host.file_close, if_pos rfl]
      exact File.isOpen_close _
    seated := fun _ hn => absurd hn List.not_mem_nil
    clients := fun _ hn => absurd hn List.not_mem_nil
    remotes := fun _ hn => absurd hn List.not_mem_nil
    files := fun fd' hfd' _ => by
      show (host.close fd).file fd' = w.host.file fd'
      rw [Host.file_close, if_neg (by simpa using hfd'), hfiles]
    next := Int.le_of_eq hnext.symm }

theorem Joins.admits {host : Host}
    (hj : Joins (w.withHost host) w' n.client n.remote n.status n.id n.pid)
    (hd : w.host.Dialed (.ok (n.remote, n.status), host)) (h : w.Sound)
    (hlt : n.client < w.host.next) :
    Admits w [n.client] [n] w' := by
  obtain ⟨hremote, hfiles, hloose, -⟩ := h.loose_opened hd
  have hne : n.client ≠ n.remote := by
    rw [hremote]
    exact Int.ne_of_lt hlt
  obtain ⟨b, b', l₁, l₂, l₃, l₄, -, -, ha⟩ := hj.attached
  have hhost : w'.host = host := ha.host
  constructor
  case order => exact List.Sublist.refl _
  case closed => exact fun fd hfd hn => absurd hfd hn
  case seated =>
    intro m hm
    obtain rfl := List.mem_singleton.mp hm
    exact hj.seats hne
  case vacant =>
    intro m hm
    obtain rfl := List.mem_singleton.mp hm
    exact ⟨ha.vacant.1, ha.vacant.2.1⟩
  case apart =>
    have hids : n.id ≠ n.pid := ha.vacant.2.2
    simpa [Newcomer.slots] using hids
  case clients =>
    intro m hm
    obtain rfl := List.mem_singleton.mp hm
    rw [hhost, hfiles _ hlt]
  case remotes =>
    intro m hm
    obtain rfl := List.mem_singleton.mp hm
    rw [hhost]
    exact ⟨Int.le_of_eq hremote.symm, hloose.1⟩
  case sessions =>
    intro x hx
    rw [List.flatMap_singleton, Newcomer.mem_slots, not_or] at hx
    exact (ha.sessions x).trans ((if_neg hx.1).trans (if_neg hx.2))
  case files =>
    intro fd _ hfd
    rw [hhost, hfiles fd hfd]
  case registrations =>
    intro fd hc hr
    rw [List.map_singleton, List.mem_singleton] at hc hr
    exact (ha.watched fd).trans ((if_neg hr).trans (if_neg hc))
  case count => exact ha.size
  case next =>
    rw [hhost]
    exact (h.dialed hd).2.next
  case settings => exact ha.settings

theorem Received.admits (hr : Received w fd n? w') (h : w.Sound) (hl : w.Loose fd) :
    Admits w [fd] n?.toList w' := by
  have hdial := w.dialed_reception fd
  cases hr with
  | turnedAway log hreception =>
    rw [hreception] at hdial
    exact admits_close log hdial
  | joined hclient hreception hjoins =>
    rw [hreception] at hdial
    subst hclient
    exact hjoins.admits hdial h (h.housed.next _ hl.1)

/-! ## All clients -/

/-- Newcomers get nothing that belongs to a session already: a client that waits is a loose file,
and the connection for it is a new one. -/
theorem Admits.owned (ha : Admits w fds news w') (h : w.Sound) (hwait : w.Waiting fds)
    (hown : w.Owned fd) :
    w'.host.file fd = w.host.file fd ∧ w'.poller.registration? fd = w.poller.registration? fd := by
  have hfds : fd ∉ fds := fun hfd => (hwait.loose fd hfd).2 hown
  have hnext := h.owned_lt hown
  refine ⟨ha.files fd hfds hnext, ha.registrations fd ?_ ?_⟩
  · intro hfd
    exact hfds (ha.order.subset hfd)
  · rw [List.mem_map]
    rintro ⟨n, hn, rfl⟩
    exact absurd (ha.remotes n hn).1 (Int.not_le.mpr hnext)

theorem Admits.seats {c r : Session} (ha : Admits w fds news w') (h : w.Sound)
    (hwait : w.Waiting fds)
    (hseats : w.Seats n c r) : w'.Seats n c r := by
  obtain ⟨hc, hr⟩ := hseats.owned
  have hsame {x : SessionId} (hx : x ∈ n.slots) : w'.session? x = w.session? x :=
    ha.sessions x fun hmem => hseats.taken hx (ha.slot_vacant hmem)
  exact hseats.keep (hsame (Newcomer.mem_slots.mpr (Or.inl rfl)))
    (hsame (Newcomer.mem_slots.mpr (Or.inr rfl)))
    (ha.owned h hwait hc).2 (ha.owned h hwait hr).2

/-- Whoever is admitted first stays, and those admitted then come on top. All of them have to be
waiting before, so that the ones that come later are none of those that came first. -/
theorem Admits.trans (ha : Admits w fds news w₁) (hb : Admits w₁ rest more w') (h : w.Sound)
    (h₁ : w₁.Sound) (hwait : w.Waiting (fds ++ rest)) (hwait₁ : w₁.Waiting rest) :
    Admits w (fds ++ rest) (news ++ more) w' := by
  obtain ⟨-, -, hdisjoint⟩ := List.nodup_append.mp hwait.nodup
  have hlt {fd : Descriptor} (hfd : fd ∈ fds ++ rest) : fd < w.host.next :=
    h.housed.next fd (hwait.loose fd hfd).1
  constructor
  case order =>
    rw [List.map_append]
    exact ha.order.append hb.order
  case closed =>
    intro fd hfd hn
    rw [List.map_append, List.mem_append, not_or] at hn
    rcases List.mem_append.mp hfd with hfirst | hlater
    · have hclosed := ha.closed fd hfirst hn.1
      have hrest : fd ∉ rest := fun hlater => hdisjoint fd hfirst fd hlater rfl
      rwa [hb.files fd hrest (Int.lt_of_lt_of_le (hlt hfd) ha.next)]
    · exact hb.closed fd hlater hn.2
  case seated =>
    intro n hn
    rcases List.mem_append.mp hn with hfirst | hlater
    · obtain ⟨c, r, hseats⟩ := ha.seated n hfirst
      exact ⟨c, r, hb.seats h₁ hwait₁ hseats⟩
    · exact hb.seated n hlater
  case vacant =>
    intro n hn
    rcases List.mem_append.mp hn with hfirst | hlater
    · exact ha.vacant n hfirst
    · have hold {x : SessionId} (hx : w₁.session? x = none) : w.session? x = none := by
        by_cases hmem : x ∈ news.flatMap Newcomer.slots
        · exact ha.slot_vacant hmem
        · rw [← ha.sessions x hmem, hx]
      obtain ⟨hid, hpid⟩ := hb.vacant n hlater
      exact ⟨hold hid, hold hpid⟩
  case apart =>
    rw [List.flatMap_append]
    refine List.nodup_append.mpr ⟨ha.apart, hb.apart, ?_⟩
    rintro x hx y hy rfl
    -- what the first ones have is not given to the later ones
    exact ha.slot_taken hx (hb.slot_vacant hy)
  case clients =>
    intro n hn
    rcases List.mem_append.mp hn with hfirst | hlater
    · obtain ⟨c, r, hseats⟩ := ha.seated n hfirst
      rw [(hb.owned h₁ hwait₁ hseats.owned.1).1, ha.clients n hfirst]
    · have hmem : n.client ∈ rest := hb.order.subset (List.mem_map_of_mem hlater)
      have hfds : n.client ∉ fds := fun hfirst => hdisjoint _ hfirst _ hmem rfl
      rw [hb.clients n hlater, ha.files _ hfds (hlt (List.mem_append_right _ hmem))]
  case remotes =>
    intro n hn
    rcases List.mem_append.mp hn with hfirst | hlater
    · obtain ⟨c, r, hseats⟩ := ha.seated n hfirst
      rw [(hb.owned h₁ hwait₁ hseats.owned.2).1]
      exact ha.remotes n hfirst
    · obtain ⟨hge, hopen⟩ := hb.remotes n hlater
      exact ⟨Int.le_trans ha.next hge, hopen⟩
  case sessions =>
    intro x hx
    rw [List.flatMap_append, List.mem_append, not_or] at hx
    rw [hb.sessions x hx.2, ha.sessions x hx.1]
  case files =>
    intro fd hfd hnext
    rw [List.mem_append, not_or] at hfd
    rw [hb.files fd hfd.2 (Int.lt_of_lt_of_le hnext ha.next), ha.files fd hfd.1 hnext]
  case registrations =>
    intro fd hc hr
    rw [List.map_append, List.mem_append, not_or] at hc hr
    rw [hb.registrations fd hc.2 hr.2, ha.registrations fd hc.1 hr.1]
  case count =>
    rw [hb.count, ha.count, List.length_append]
    omega
  case next => exact Int.le_trans ha.next hb.next
  case settings => exact hb.settings.trans ha.settings

/-- Clients that were received in turn are admitted or closed, each by itself. The induction is on
the clients, with `admits_close` or a seated pair for each of them. -/
theorem Receives.admits (hr : Receives w fds news w') (h : w.Sound) (hwait : w.Waiting fds) :
    Admits w fds news w' := by
  induction hr with
  | nil w => exact admits_nil w
  | cons hfirst _ ih =>
    have htook := hfirst.tookIn h hwait.head
    have hwait₁ := hwait.tail htook
    exact (hfirst.admits h hwait.head).trans (ih htook.sound hwait₁) h htook.sound hwait hwait₁

/-- The sessions that were there are as they were, on their files and in the poller. It follows from
their slots and descriptors being taken already. -/
theorem Admits.untouched {x : SessionId} (ha : Admits w fds news w') (h : w.Sound) (h' : w'.Sound)
    (hwait : w.Waiting fds) (hx : w.session? x ≠ none) : Untouched x w w' := by
  have hsame := ha.sessions x fun hmem => hx (ha.slot_vacant hmem)
  refine ⟨hsame, fun t ht => ?_, fun t ht => ?_⟩
  · exact (ha.owned h hwait ⟨x, t, ht, rfl⟩).1
  · exact ⟨(h.held x t ht).watched, (h'.held x t (hsame.trans ht)).watched⟩

end Worker

namespace Site

open Worker

variable {σ : Site} {w : Worker}

/-- A control event receives the clients that have arrived one after the other. Those that can be
prepared and connected are taken in, in their order; the others are closed and leave no trace. What
was there before is left alone, and no client is left over. Only memory can run out meanwhile. -/
theorem Reachable.clients_received (h : Reachable σ) (hv : σ.Visits w)
    (hopen : w.control.senderOpen = true)
    (hob : w.Obliging w.arrived) :
    (∃ news w', onControl w = .ok ⟨⟩ w' ∧ w'.incoming = []
        ∧ Receives w.emptied w.arrived news w' ∧ Admits w w.arrived news w'
        ∧ (∀ x, w.session? x ≠ none → Untouched x w w')
        ∧ w'.buffersInUse = w.buffersInUse + 2 * news.length
        ∧ w'.poller.size = w.poller.size + 2 * news.length)
      ∨ (∃ w', onControl w = .error (.panic .capacityOverflow) w')
        ∧ w.Cramped (2 * w.arrived.length) := by
  have hw := hv.sound h
  have hsup := hv.supplied h
  have hwait : w.emptied.Waiting w.arrived := hsup.arrived.keep fun _ _ hl => hl
  have hleads := leads_onControl_receives hw hsup
  rcases hrun : onControl w with ⟨_, w'⟩ | ⟨a, w'⟩
  · obtain ⟨-, news, hreceives⟩ := hleads.of_ok hrun
    have hadmits := hreceives.admits hw.emptied hwait
    have ha : Admits w w.arrived news w' := { hadmits with }
    have hw' := (hreceives.tookIn hw.emptied hwait).sound
    have hcount := ha.count
    refine Or.inl ⟨news, w', rfl, hreceives.incoming, hreceives, ha, fun x hx => ?_, ?_, ?_⟩
    · exact ha.untouched hw hw' hsup.arrived hx
    · exact hw'.stocked.lent.trans
        (hcount.trans (congrArg (· + 2 * news.length) hw.stocked.lent.symm))
    · rw [hw'.size_poller, hw.size_poller, hcount]
      omega
  · refine Or.inr ?_
    unfold Leads at hleads
    rw [hrun] at hleads
    obtain ⟨rfl, hcramped⟩ := hleads hopen hob
    exact ⟨⟨w', rfl⟩, hcramped⟩

/-- The two pairs of the crowd with a second client, 8, behind the one in the control pipe. -/
def queueingWorker : Option Worker := do
  let w ← crowdedWorker
  let w := w.withHost (w.host.install (.stream .pair)).2
  let control ← (w.control.write (Handoff.encode 8)).toOption
  return { w with control }

theorem exists_queue :
    ∃ w, queueingWorker = some w ∧ Reachable { worker := w, given := [8, 7] } := by
  obtain ⟨w, hw, h⟩ := exists_crowd
  have hnext : crowdedWorker.map (·.host.next) = some 8 := by decide +kernel
  rw [hw] at hnext
  have hnext : w.host.next = (8 : Int32).toInt := Option.some.inj hnext
  have hnotyet : (8 : Int32).toInt ∉ [7] := by decide
  obtain ⟨v, hv⟩ : ∃ v, queueingWorker = some v := Option.isSome_iff_exists.mp (by decide +kernel)
  refine ⟨v, hv, ?_⟩
  rw [queueingWorker, hw] at hv
  cases hwrite :
    (w.withHost (w.host.install (.stream .pair)).2).control.write (Handoff.encode 8) with
  | error e =>
    simp only [Option.bind_eq_bind, Option.bind_some, hwrite] at hv
    cases hv
  | ok control =>
    simp only [Option.bind_eq_bind, Option.bind_some, hwrite] at hv
    cases hv
    exact h.handed hnext hnotyet hwrite

/-- Two clients wait, and one connection can be made. The first client becomes a pair beside the two
that are there, and the second is closed. -/
theorem clients_received_of_queue : ∃ σ : Site, Reachable σ ∧ σ.worker.arrived = [7, 8]
    ∧ σ.worker.sessionCount = 4
    ∧ ∃ n w', onControl σ.worker = .ok ⟨⟩ w' ∧ w'.incoming = [] ∧ n.client = 7
      ∧ Admits σ.worker [7, 8] [n] w' ∧ (w'.host.file 8).isOpen = false ∧ w'.sessionCount = 6 := by
  obtain ⟨w, hw, hσ⟩ := exists_queue
  have hall : queueingWorker.any (fun w =>
      w.control.senderOpen && w.control.readFd == 0 && w.host.next == 9 && w.poller.backend == .poll
      && w.arrived == [7, 8] && w.sessionCount == 4
      && !Pool.tooLarge w.pool.bufferSize ((w.pool.inUse + 4) * 2)
      && match onControl w with
        | .ok _ w' => w'.sessionCount == 6 && (w'.host.file 7).isOpen && !(w'.host.file 8).isOpen
        | .error _ _ => false) = true := by
    decide +kernel
  rw [hw, Option.any_some] at hall
  simp only [Bool.and_eq_true, Bool.not_eq_true', beq_iff_eq] at hall
  obtain ⟨⟨⟨⟨⟨⟨⟨hsender, hread⟩, hnext⟩, hbackend⟩, harrived⟩, hcount⟩, hroom⟩, hrun⟩ := hall
  have hob : w.Obliging w.arrived := by
    have hnumbers : ∀ fd ∈ ([7, 8] : List Descriptor), (0 ≤ fd ∧ fd < 9) ∧ fd ≠ 0 := by decide
    refine ⟨by rw [hread, hnext]; decide, fun fd hfd => ?_, fun fd hfd _ => ⟨?_, ?_⟩⟩
    · rw [hnext]
      exact (hnumbers fd (harrived ▸ hfd)).1
    · rw [hread]
      exact (hnumbers fd (harrived ▸ hfd)).2
    · rw [hbackend]
      trivial
  rcases hσ.clients_received .between hsender hob with
    ⟨news, w', hok, hincoming, -, hadmits, -, -, -⟩ | ⟨-, hcramped⟩
  · dsimp only at hok hadmits
    rw [hok] at hrun
    simp only [Bool.and_eq_true, Bool.not_eq_true', beq_iff_eq] at hrun
    obtain ⟨⟨hcount', hopen⟩, hclosed⟩ := hrun
    rw [harrived] at hadmits
    -- one client was taken in, and it is not the one that was closed
    have hone : news.length = 1 := by
      have hsum := hadmits.count
      omega
    obtain ⟨n, rfl⟩ := List.length_eq_one_iff.mp hone
    have hclient : n.client = 7 := by
      by_contra hne
      have hgone := hadmits.closed 7 (by decide) (by simpa using Ne.symm hne)
      rw [hopen] at hgone
      cases hgone
    exact ⟨_, hσ, harrived, hcount, n, w', hok, hincoming, hclient, hadmits, hclosed, hcount'⟩
  · dsimp only at hcramped
    rw [harrived] at hcramped
    exact absurd (hroom.symm.trans hcramped) Bool.false_ne_true

end Site

end Sluice
