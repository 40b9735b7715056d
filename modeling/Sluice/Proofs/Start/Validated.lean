import Mathlib.Algebra.Group.Nat.Defs
import Mathlib.Tactic.SplitIfs
import Mathlib.Tactic.ByContra
import Sluice.Service

/-!
# Starting with validated settings

Validation looks at one field after the other and passes exactly the settings with none of six
faults (`Settings.validate_eq_ok_iff`). It sets no upper bounds, but a worker makes its first
buffers and the slots for its first sessions at once, and there is a limit to what can be allocated.
Settings beyond that limit (`Settings.Oversized`) pass, and what comes of it is a panic and no
error: `Worker.create_settled` says how the making of a worker ends for all validated settings, and
`Service.join_of_start` what that is for the relay, whose listeners are bound by then.
-/

namespace Sluice

variable {s : Settings} {host : Host} {control : Channel}

/-! ## Validation -/

namespace Settings

/-- The settings that can be used as far as validation knows. That the poller is there is not part
of it: it depends on the platform, and the command line does not look at it. -/
structure Sane (s : Settings) : Prop where
  listen : s.listen ≠ []
  bufferSize : 0 < s.bufferSize
  ioThreads : 0 < s.ioThreads
  maxOpsPerFd : 0 < s.maxOpsPerFd
  initialPoolSize : 0 < s.initialPoolSize

/-- A worker with these settings would have to allocate more at once than can be allocated: one
buffer, or the slots of its arena. The list that its pool begins with asks for less than the slots
do, one entry for each as well, so it does not show here. -/
def Oversized (s : Settings) : Prop :=
  2 ^ 63 ≤ s.bufferSize ∨ 2 ^ 63 ≤ s.initialPoolSize * Session.slotLength

theorem Sane.fault?_eq (h : s.Sane) : s.fault? = if s.backend.available then none else
    some (s.backend.name ++ " poller is not available on this platform") := by
  have hbuffer := Nat.ne_of_gt h.bufferSize
  have hthreads := Nat.ne_of_gt h.ioThreads
  have hops := Nat.ne_of_gt h.maxOpsPerFd
  have hpool := Nat.ne_of_gt h.initialPoolSize
  unfold fault?
  simp only [h.listen, hbuffer, hthreads, hops, hpool, if_false]
  cases s.backend.available <;> rfl

theorem validate_eq_ok_iff : s.validate = .ok () ↔ s.Sane ∧ s.backend.available = true := by
  constructor
  · intro h
    have hnone : s.fault? = none := by
      unfold validate at h
      split at h
      · cases h
      · assumption
    have hsane : s.Sane := by
      unfold fault? at hnone
      split_ifs at hnone with hlisten hbuffer hthreads hops hpool
      exact ⟨hlisten, Nat.pos_of_ne_zero hbuffer, Nat.pos_of_ne_zero hthreads,
        Nat.pos_of_ne_zero hops, Nat.pos_of_ne_zero hpool⟩
    refine ⟨hsane, ?_⟩
    rw [hsane.fault?_eq] at hnone
    by_contra hunavailable
    simp [hunavailable] at hnone
  · rintro ⟨hsane, havailable⟩
    rw [validate, hsane.fault?_eq, if_pos havailable]

end Settings

/-! ## The storage of a worker -/

theorem Pool.creationFault?_eq (h : s.Sane) : Pool.creationFault? s.bufferSize s.initialPoolSize
    = if Pool.tooLarge s.bufferSize s.initialPoolSize then some .capacityOverflow else none := by
  rw [Pool.creationFault?, if_neg (Nat.ne_of_gt h.bufferSize),
    if_neg (Nat.ne_of_gt h.initialPoolSize)]

/-- What the pool asks for is too much only where the arena asks for too much, or one buffer alone
is. -/
theorem Settings.Oversized.of_tooLarge (h : Pool.tooLarge s.bufferSize s.initialPoolSize = true) :
    s.Oversized := by
  have hlimit : allocationLimit = 2 ^ 63 - 1 := by decide
  simp only [Pool.tooLarge, hlimit, slotLength, Bool.or_eq_true, decide_eq_true_eq] at h
  simp only [Settings.Oversized, Session.slotLength]
  omega

/-- The storage for sane settings can be had unless it is too large. -/
theorem Worker.storage_settled (h : s.Sane) :
    (s.Oversized ∧ storageFault? s = some .capacityOverflow)
      ∨ ¬ s.Oversized ∧ storageFault? s = none := by
  have hlimit : allocationLimit = 2 ^ 63 - 1 := by decide
  rw [storageFault?, Pool.creationFault?_eq h]
  cases hpool : Pool.tooLarge s.bufferSize s.initialPoolSize with
  | true => exact Or.inl ⟨.of_tooLarge hpool, rfl⟩
  | false =>
    have hbuffer : s.bufferSize < 2 ^ 63 := by
      simp only [Pool.tooLarge, hlimit, Bool.or_eq_false_iff, decide_eq_false_iff_not] at hpool
      omega
    by_cases hslots : 2 ^ 63 ≤ s.initialPoolSize * Session.slotLength
    · exact Or.inl ⟨Or.inr hslots, allocationFault?_of_lt (by omega)⟩
    · refine Or.inr ⟨?_, allocationFault?_of_le (by omega)⟩
      rintro (htoolarge | htoolarge)
      · omega
      · exact hslots htoolarge

/-! ## The poller of a worker -/

namespace Poller

variable {b : Backend} {view : SystemView} {fd target : Descriptor}

/-- There is a poller of an available backend, unless it needs a descriptor and there is none. An
event set is a file of its own, and a scan is not. -/
theorem create_settled (view : SystemView) (fd : Descriptor) (h : b.available = true) :
    (b = .epoll ∧ view.exhausted = true
      ∧ create b view fd = .error (.create .epoll (.os .tooManyFiles)))
      ∨ (b = .epoll → view.exhausted = false) ∧ ∃ p, create b view fd = .ok p := by
  cases b with
  | epoll =>
    cases hexhausted : view.exhausted with
    | true => exact Or.inl ⟨rfl, rfl, by simp [create, hexhausted]⟩
    | false => exact Or.inr ⟨fun _ => rfl, .epoll { fd }, by simp [create, hexhausted]⟩
  | kqueue => cases h
  | poll => exact Or.inr ⟨nofun, _, rfl⟩

/-- A new poller takes any descriptor that is open: nothing is registered with it yet that could be
in the way. -/
theorem add_create {p : Poller} {c : Conditions} (h : create b view fd = .ok p)
    (hlive : view.status target = .live c) (token : Token) (i : Interest) :
    ∃ p', p.add view target token i = .ok p' := by
  cases b with
  | epoll =>
    obtain rfl : p = .epoll { fd } := by
      unfold create at h
      split_ifs at h
      exact (Except.ok.inj h).symm
    simp [add, Epoll.add, Epoll.refusal?, hlive, Epoll.isMember, Except.map]
  | kqueue => cases h
  | poll =>
    cases h
    exact ⟨_, rfl⟩

end Poller

/-! ## Workers -/

namespace Worker

/-- Once the control pipe is registered, the storage is all that is left to make. The pool comes
before the arena, as it does in `storageFault?`. -/
theorem create_of_registered (index : Nat) {poller registered : Poller}
    (hpoller : Poller.create s.backend
      (viewWith host.reserve.2 control) host.reserve.1 = .ok poller)
    (hadd : poller.add (viewWith host.reserve.2 control) control.readFd .control .readable
      = .ok registered) :
    (∀ cause, storageFault? s = some cause → create index s host control = .error (.panicked cause))
      ∧ (storageFault? s = none → ∃ w, create index s host control = .ok w) := by
  unfold storageFault?
  cases hmade : Pool.create s.bufferSize s.initialPoolSize with
  | error cause =>
    simp only [Pool.create_eq_error_iff.mp hmade, create, hpoller, hadd, hmade]
    exact ⟨fun _ hcause => by rw [Option.some.inj hcause], nofun⟩
  | ok pool =>
    have hnone : Pool.creationFault? s.bufferSize s.initialPoolSize = none := by
      refine Option.eq_none_iff_forall_ne_some.mpr fun cause hcause => ?_
      rw [← Pool.create_eq_error_iff, hmade] at hcause
      cases hcause
    simp only [hnone, create, hpoller, hadd, hmade, Arena.create]
    cases allocationFault? s.initialPoolSize Session.slotLength with
    | some cause => exact ⟨fun _ hcause => by rw [Option.some.inj hcause], nofun⟩
    | none => exact ⟨nofun, fun _ => ⟨_, rfl⟩⟩

/-- How the making of a worker ends. With validated settings that are not too large there is a
worker, or an error if the system gives no event set; with those that are too large the worker
panics where it would come about. -/
theorem create_settled (index : Nat) (host : Host) (control : Channel) (h : s.validate = .ok ()) :
    (s.backend = .epoll ∧ host.exhausted = true
      ∧ create index s host control
        = .error (.refused (.poll (.create .epoll (.os .tooManyFiles)))))
    ∨ (s.backend = .epoll → host.exhausted = false)
      ∧ ((s.Oversized ∧ create index s host control = .error (.panicked .capacityOverflow))
        ∨ ¬ s.Oversized ∧ ∃ w, create index s host control = .ok w) := by
  obtain ⟨hsane, havailable⟩ := Settings.validate_eq_ok_iff.mp h
  have hcontrol : (viewWith host.reserve.2 control).status control.readFd
      = .live control.conditions :=
    if_pos rfl
  rcases Poller.create_settled (viewWith host.reserve.2 control) host.reserve.1 havailable with
    ⟨hepoll, hexhausted, hfails⟩ | ⟨hroom, poller, hpoller⟩
  · refine Or.inl ⟨hepoll, hexhausted, ?_⟩
    simp only [create, hfails]
  · obtain ⟨registered, hadd⟩ := Poller.add_create hpoller hcontrol .control .readable
    obtain ⟨hfails, hmakes⟩ := create_of_registered index hpoller hadd
    refine Or.inr ⟨hroom, ?_⟩
    rcases storage_settled hsane with ⟨hover, hfault⟩ | ⟨hfits, hnone⟩
    · exact Or.inl ⟨hover, hfails _ hfault⟩
    · exact Or.inr ⟨hfits, hmakes hnone⟩

/-- A worker with validated settings panics exactly when they are too large, as far as it comes to
that; then it is for want of room. Otherwise there is a worker, unless it has to do without an event
set, which is an error. -/
theorem create_panics_iff (index : Nat) (host : Host) (control : Channel)
    (h : s.validate = .ok ()) :
    (∀ cause, create index s host control = .error (.panicked cause) ↔
      cause = .capacityOverflow ∧ s.Oversized ∧ (s.backend = .epoll → host.exhausted = false))
    ∧ ((∃ w, create index s host control = .ok w) ↔
      ¬ s.Oversized ∧ (s.backend = .epoll → host.exhausted = false))
    ∧ ∀ e, create index s host control = .error (.refused e) ↔
      e = .poll (.create .epoll (.os .tooManyFiles)) ∧ s.backend = .epoll
        ∧ host.exhausted = true := by
  rcases create_settled index host control h with
    ⟨hepoll, hexhausted, hcreate⟩ | ⟨hroom, hcases⟩
  · simp [hcreate, hepoll, hexhausted, eq_comm]
  · have hsome : ¬ (s.backend = .epoll ∧ host.exhausted = true) := by
      rintro ⟨hepoll, hexhausted⟩
      simp [hroom hepoll] at hexhausted
    rcases hcases with ⟨hover, hcreate⟩ | ⟨hfits, w, hcreate⟩
    · simp only [hcreate, hover, hsome, not_true, and_false, and_iff_left hroom]
      simp [eq_comm]
    · simp only [hcreate, hfits, hsome, false_and, and_false, not_false_eq_true, true_and,
        iff_true_intro hroom]
      simp

/-- Buffers of a single byte each, and not too many for a pool, but too many slots for the sessions
that would use them. -/
theorem create_panics_of_slots : ∃ s : Settings, s.validate = .ok () ∧ s.bufferSize = 1
    ∧ s.initialPoolSize = 2 ^ 57 ∧ Pool.creationFault? 1 (2 ^ 57) = none
    ∧ create 0 s { next := 2 } { readFd := 0, writeFd := 1 }
      = .error (.panicked .capacityOverflow) := by
  have hvalid : Settings.validate
      { listen := [.v4 .loopback 9000], bufferSize := 1, initialPoolSize := 2 ^ 57 } = .ok () := rfl
  have hover : Settings.Oversized
      { listen := [.v4 .loopback 9000], bufferSize := 1, initialPoolSize := 2 ^ 57 } :=
        Or.inr (by decide)
  exact ⟨_, hvalid, rfl, rfl, by decide,
    ((create_panics_iff 0 { next := 2 } _ hvalid).1 _).mpr ⟨rfl, hover, fun _ => rfl⟩⟩

/-- Validation lets a buffer of half the address space pass, and the worker panics. All that is in
the settings is a 64-bit number, and the host and the channel are as good as any. -/
theorem validated_panics : ¬ ∀ (s : Settings) (index : Nat) (host : Host) (control : Channel),
    s.bufferSize < 2 ^ 64 → s.initialPoolSize < 2 ^ 64 → s.validate = .ok () →
      (∃ w, create index s host control = .ok w)
        ∨ ∃ e, create index s host control = .error (.refused e) := by
  intro hall
  have hpanics : create 0
      { listen := [.v4 .loopback 9000], bufferSize := 2 ^ 63, backend := .poll } {}
      { readFd := 0, writeFd := 1 } = .error (.panicked .capacityOverflow) := rfl
  rcases hall { listen := [.v4 .loopback 9000], bufferSize := 2 ^ 63, backend := .poll } 0 {}
    { readFd := 0, writeFd := 1 } (by decide) (by decide) rfl with ⟨w, hw⟩ | ⟨e, he⟩
  · rw [hpanics] at hw
    cases hw
  · rw [hpanics] at he
    cases he

end Worker

/-! ## The relay -/

namespace Service

variable {m : Machine} {exhausted exhausted' : Bool} {fd fd' : Descriptor} {service : Service}
  {running : Running}

/-- A relay that listens has validated settings. -/
theorem validate_of_bind (h : (bind s m exhausted fd).1 = .ok service) :
    s.validate = .ok () ∧ service.settings = s := by
  unfold bind at h
  split at h
  · cases h
  · next hvalid =>
    refine ⟨hvalid, ?_⟩
    cases hall : (bindAll m exhausted fd s.listen).1 with
    | error e =>
      simp [hall, Except.map] at h
    | ok listeners =>
      simp only [hall, Except.map, Except.ok.injEq] at h
      rw [← h]

theorem workers_of_start (h : (service.start exhausted fd).1 = .ok running) :
    running.workers = (List.range service.settings.ioThreads).map fun i =>
      (threadName i, Worker.storageFault? service.settings) := by
  unfold start at h
  dsimp only at h
  split at h
  · cases h
  · split at h
    · cases h
    · split at h <;> cases h
      rfl

/-- With settings that are too large the relay starts all the same. Its listeners are bound, but
each of its workers panics, and that is what the wait for them ends with; otherwise the wait does
not end. -/
theorem join_of_start (hbind : (bind s m exhausted fd).1 = .ok service)
    (hstart : (service.start exhausted' fd').1 = .ok running) :
    running.workers.length = s.ioThreads
      ∧ (s.Oversized → (∀ t ∈ running.workers, t.2 = some .capacityOverflow)
        ∧ running.join? = some (.io (.custom .other "thread io-0 panicked")))
      ∧ (¬ s.Oversized → (∀ t ∈ running.workers, t.2 = none) ∧ running.join? = none) := by
  obtain ⟨hvalid, rfl⟩ := validate_of_bind hbind
  obtain ⟨hsane, -⟩ := Settings.validate_eq_ok_iff.mp hvalid
  have hworkers := workers_of_start hstart
  obtain ⟨n, hn⟩ := Nat.exists_eq_succ_of_ne_zero (Nat.ne_of_gt hsane.ioThreads)
  have hsettled := Worker.storage_settled hsane
  refine ⟨by simp [hworkers], fun hover => ?_, fun hfits => ?_⟩
  · obtain ⟨-, hfault⟩ := hsettled.resolve_right fun hsmall => hsmall.1 hover
    rw [hfault] at hworkers
    refine ⟨by simp [hworkers], ?_⟩
    simp only [Running.join?, hworkers, hn, List.range_succ_eq_map, List.map_cons,
      Option.some.injEq]
    rfl
  · obtain ⟨-, hnone⟩ := hsettled.resolve_left fun hlarge => hfits hlarge.1
    rw [hnone] at hworkers
    refine ⟨by simp [hworkers], ?_⟩
    simp only [Running.join?, hworkers, hn, List.range_succ_eq_map, List.map_cons]

end Service

end Sluice
