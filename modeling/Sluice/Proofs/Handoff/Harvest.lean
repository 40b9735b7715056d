import Mathlib.Data.List.Induction
import Sluice.Proofs.Handoff.Accepting
import Sluice.Proofs.Handoff.Exchange

/-!
# Accepting within bounds

A listener has outcomes in store for the accept calls to come (`Listener.prospects`). The acceptor
takes them one by one, as many as it has rounds, and stops early at the first that is neither a
client nor an interruption; what it takes is the harvest of the listener (`Listener.Harvest`). The
clients of a harvest are dealt out to the workers from the one on whose turn it is, and the turn
moves on by as many (`Acceptor.dealt`).

`Acceptor.acceptFrom_cases` says that for one listener, `Acceptor.acceptFromAll_cases` that the
harvests of several listeners are dealt out one after the other as if they were one. Both say as
well at which client the acceptor stops for good if a worker cannot be given one
(`Acceptor.Blocks`).
-/

namespace Sluice

open Handoff

/-! ## Dealing from a later hand on -/

section

variable {α : Type}

/-- What hand `w` of `n` gets of a list that is dealt out beginning with hand `first`. -/
def dealFrom (n first w : Nat) (l : List α) : List α :=
  ((l.zipIdx first).filter fun x => x.2 % n == w).map Prod.fst

@[simp] theorem dealFrom_nil (n first w : Nat) : dealFrom n first w ([] : List α) = [] := rfl

theorem dealFrom_append (n first w : Nat) (l m : List α) :
    dealFrom n first w (l ++ m) = dealFrom n first w l ++ dealFrom n (first + l.length) w m := by
  simp [dealFrom, List.zipIdx_append, List.filter_append]

theorem dealFrom_singleton (n first w : Nat) (x : α) :
    dealFrom n first w [x] = if first % n = w then [x] else [] := by
  by_cases h : first % n = w <;> simp [dealFrom, h]

theorem dealFrom_mod (n first w : Nat) (l : List α) :
    dealFrom n (first % n) w l = dealFrom n first w l := by
  induction l using List.reverseRecOn with
  | nil => rfl
  | append_singleton l x ih =>
    rw [dealFrom_append, dealFrom_append, ih, dealFrom_singleton, dealFrom_singleton,
      Nat.mod_add_mod]

end

/-! ## What a listener yields -/

/-- What an accept call came to: a client, or why there was none. -/
abbrev Answer := Except Errno Descriptor

namespace Answer

def Passes : Answer → Prop
  | .ok _ => True
  | .error e => IoError.Kind.ofErrno e = .interrupted

def clients (answers : List Answer) : List Descriptor :=
  answers.filterMap fun
    | .ok client => some client
    | .error _ => none

theorem clients_append (answers later : List Answer) :
    clients (answers ++ later) = clients answers ++ clients later :=
  List.filterMap_append

def said : Answer → List LogEntry
  | .ok client => [⟨.info, s!"accepted fd {client}"⟩]
  | .error e =>
    match IoError.Kind.ofErrno e with
    | .wouldBlock => []
    | .interrupted => []
    | _ => [⟨.warn, "accept error " ++ e.describe⟩]

theorem said_of_interrupted {e : Errno} (h : IoError.Kind.ofErrno e = .interrupted) :
    said (.error e) = [] := by
  simp only [said, h]

end Answer

namespace Listener

variable {l l' : Listener} {exhausted : Bool} {rounds : Nat} {answer : Answer}
  {answers : List Answer}

/-- The answers that accept calls will get, up to one that all later calls get as well: the backlog
is empty then, or there are no descriptors, or the socket never listens. -/
def prospects (l : Listener) (exhausted : Bool) : List Answer :=
  if exhausted then [.error .tooManyFiles]
  else if l.listening then l.backlog ++ [.error .tryAgain]
  else [.error .invalidArgument]

/-- The listener after `n` of these answers. The others stay in the backlog. -/
def skip (l : Listener) (exhausted : Bool) (n : Nat) : Listener :=
  if !exhausted && l.listening then { l with backlog := l.backlog.drop n } else l

/-- The answers that an acceptor with so many rounds takes: no more than those, and fewer only if
the last of them is the first after which it does not go on. -/
structure Harvest (l : Listener) (exhausted : Bool) (rounds : Nat)
    (answers : List Answer) : Prop where
  met : answers <+: l.prospects exhausted
  length_le : answers.length ≤ rounds
  passed : ∀ a ∈ answers.dropLast, a.Passes
  stopped : answers.length < rounds → ∃ a, answers.getLast? = some a ∧ ¬ a.Passes

/-- An accept call takes the first of a backlog, or it fails as it would again. What is in the
backlog may itself be a failure, which is then taken from it as a client is. -/
theorem accept_cases (l : Listener) (exhausted : Bool) :
    (∃ e, IoError.Kind.ofErrno e ≠ .interrupted ∧ l.prospects exhausted = [.error e]
      ∧ l.accept exhausted = (.error e, l) ∧ ∀ n, l.skip exhausted n = l)
    ∨ ∃ answer rest, l.prospects exhausted
      = answer :: { l with backlog := rest }.prospects exhausted
      ∧ l.accept exhausted = (answer, { l with backlog := rest })
      ∧ ∀ n, l.skip exhausted (n + 1) = { l with backlog := rest }.skip exhausted n := by
  obtain ⟨fd, listening, backlog⟩ := l
  cases exhausted with
  | true => exact Or.inl ⟨.tooManyFiles, by decide, rfl, rfl, fun _ => rfl⟩
  | false =>
    cases listening with
    | false => exact Or.inl ⟨.invalidArgument, by decide, rfl, rfl, fun _ => rfl⟩
    | true =>
      cases backlog with
      | nil => exact Or.inl ⟨.tryAgain, by decide, rfl, rfl, fun n => by simp [skip]⟩
      | cons answer rest => exact Or.inr ⟨answer, rest, rfl, rfl, fun _ => rfl⟩

theorem accept_prospects (h : l.accept exhausted = (answer, l')) :
    (∃ rest, l.prospects exhausted = answer :: rest) ∧ l' = l.skip exhausted 1 := by
  rcases l.accept_cases exhausted with ⟨e, -, hmet, haccept, hskip⟩ | ⟨first, rest, hmet,
    haccept, hskip⟩
  · obtain ⟨rfl, rfl⟩ := Prod.mk.inj (haccept.symm.trans h)
    exact ⟨⟨[], hmet⟩, (hskip 1).symm⟩
  · obtain ⟨rfl, rfl⟩ := Prod.mk.inj (haccept.symm.trans h)
    refine ⟨⟨_, hmet⟩, ?_⟩
    rw [hskip 0]
    simp [skip]

theorem accept_passes (h : l.accept exhausted = (answer, l')) (hpasses : answer.Passes) :
    l.prospects exhausted = answer :: l'.prospects exhausted
      ∧ ∀ n, l.skip exhausted (n + 1) = l'.skip exhausted n := by
  rcases l.accept_cases exhausted with ⟨e, hkind, -, haccept, -⟩ | ⟨first, rest, hmet,
    haccept, hskip⟩
  · obtain ⟨rfl, rfl⟩ := Prod.mk.inj (haccept.symm.trans h)
    exact absurd hpasses hkind
  · obtain ⟨rfl, rfl⟩ := Prod.mk.inj (haccept.symm.trans h)
    exact ⟨hmet, hskip⟩

@[simp] theorem skip_zero (l : Listener) (exhausted : Bool) : l.skip exhausted 0 = l := by
  simp [skip]

theorem harvest_zero (l : Listener) (exhausted : Bool) : l.Harvest exhausted 0 [] :=
  ⟨List.nil_prefix, Nat.le_refl 0, nofun, nofun⟩

theorem harvest_last (h : l.accept exhausted = (answer, l')) (hstops : ¬ answer.Passes) :
    l.Harvest exhausted (rounds + 1) [answer] := by
  obtain ⟨⟨rest, hmet⟩, -⟩ := accept_prospects h
  exact ⟨⟨rest, hmet.symm⟩, Nat.le_add_left .., nofun, fun _ => ⟨answer, rfl, hstops⟩⟩

theorem Harvest.cons (h : l.accept exhausted = (answer, l')) (hpasses : answer.Passes)
    (hrest : l'.Harvest exhausted rounds answers) :
    l.Harvest exhausted (rounds + 1) (answer :: answers) where
  met := by
    rw [(accept_passes h hpasses).1, List.prefix_cons_inj]
    exact hrest.met
  length_le := Nat.succ_le_succ hrest.length_le
  passed a ha := by
    cases answers with
    | nil => cases ha
    | cons next more =>
      rcases List.mem_cons.mp ha with rfl | ha
      · exact hpasses
      · exact hrest.passed a ha
  stopped hless := by
    obtain ⟨a, hlast, hstops⟩ := hrest.stopped (Nat.lt_of_succ_lt_succ hless)
    refine ⟨a, ?_, hstops⟩
    rw [List.getLast?_cons, hlast]
    rfl

/-- A harvest that begins like another one is the other one. If it were shorter, the answer that
stopped it would be one that the other went on after. -/
theorem Harvest.eq_of_prefix {others : List Answer} (h : l.Harvest exhausted rounds answers)
    (hother : l.Harvest exhausted rounds others) (hbegins : answers <+: others) :
    answers = others := by
  obtain ⟨more, rfl⟩ := hbegins
  cases more with
  | nil => exact (List.append_nil answers).symm
  | cons next more =>
    have hless : answers.length < rounds := by
      have hlength := hother.length_le
      rw [List.length_append, List.length_cons] at hlength
      omega
    obtain ⟨a, hlast, hstops⟩ := h.stopped hless
    have hmem : a ∈ (answers ++ next :: more).dropLast := by
      rw [List.dropLast_append_cons]
      exact List.mem_append_left _ (List.mem_of_getLast? hlast)
    exact absurd (hother.passed a hmem) hstops

theorem Harvest.unique {others : List Answer} (h : l.Harvest exhausted rounds answers)
    (hother : l.Harvest exhausted rounds others) : answers = others := by
  rcases List.prefix_or_prefix_of_prefix h.met hother.met with hbegins | hbegins
  · exact h.eq_of_prefix hother hbegins
  · exact (hother.eq_of_prefix h hbegins).symm

end Listener

/-! ## What the acceptor does with it -/

def Channel.fed (c : Channel) (clients : List Descriptor) : Channel :=
  { c with queue := c.queue.append (encoded (clients.map Int32.ofInt)) }

theorem Channel.fed_nil (c : Channel) : c.fed [] = c := rfl

theorem Channel.fed_fed (c : Channel) (clients more : List Descriptor) :
    (c.fed clients).fed more = c.fed (clients ++ more) := by
  simp [fed, Fifo.append, List.map_append, encoded_append, List.reverseAux_eq]

namespace Acceptor

variable {a a' : Acceptor} {i rounds : Nat} {cause : Abort} {client : Descriptor}

/-- The acceptor after these clients: each worker was sent those that fall to it, and counts as many
more, and the turn has passed as many times. -/
def dealt (a : Acceptor) (clients : List Descriptor) : Acceptor :=
  let share (w : Nat) := dealFrom a.channels.length a.next w clients
  { a with
    channels := a.channels.mapIdx fun w c => c.fed (share w)
    counts := a.counts.mapIdx fun w count => count + (share w).length
    next := (a.next + clients.length) % a.channels.length
    next_lt := by
      rw [List.length_mapIdx]
      exact Nat.mod_lt _ (Nat.zero_lt_of_lt a.next_lt) }

/-- The acceptor after these answers, of whose clients it has handed off `handed`. The last one may
be still in its hands, and the answers say what it has logged. -/
def after (a : Acceptor) (handed : List Descriptor) (listeners : List Listener)
    (answers : List Answer) : Acceptor :=
  { a.dealt handed with listeners, log := (answers.flatMap Answer.said).reverse ++ a.log }

/-- Why worker `w` cannot be given a client: nobody reads from its channel, or it has no counter.
Both are found out at the hand-off, and no hand-off to another worker changes either. -/
inductive Blocks (a : Acceptor) (w : Nat) : Abort → Prop
  | closed {c : Channel} (hc : a.channels[w]? = some c) (h : c.receiverOpen = false) :
      Blocks a w (.fatal (.handoffPipe c.writeFd (.os .brokenPipe)))
  | uncounted {c : Channel} (hc : a.channels[w]? = some c) (hopen : c.receiverOpen = true)
      (h : a.counts.length ≤ w) : Blocks a w (.panic (.outOfBounds a.counts.length w))

theorem dealt_nil (a : Acceptor) : a.dealt [] = a := by
  have hnext : a.next % a.channels.length = a.next := Nat.mod_eq_of_lt a.next_lt
  cases a
  simp [dealt, Channel.fed_nil, List.mapIdx_eq_zipIdx_map, hnext]

theorem dealt_dealt (a : Acceptor) (clients more : List Descriptor) :
    (a.dealt clients).dealt more = a.dealt (clients ++ more) := by
  have hshare (w : Nat) : dealFrom a.channels.length a.next w clients
      ++ dealFrom a.channels.length ((a.next + clients.length) % a.channels.length) w more
      = dealFrom a.channels.length a.next w (clients ++ more) := by
    rw [dealFrom_mod, dealFrom_append]
  simp only [dealt, List.length_mapIdx, List.mapIdx_mapIdx, mk.injEq, true_and, and_true]
  refine ⟨?_, ?_, ?_⟩
  · simp only [Function.comp_def, Channel.fed_fed, hshare]
  · rw [Nat.mod_add_mod, List.length_append, Nat.add_assoc]
  · simp only [Function.comp_def, Nat.add_assoc, ← List.length_append, hshare]

theorem getElem?_next (a : Acceptor) : a.channels[a.next]? = some a.nextChannel :=
  List.getElem?_eq_getElem a.next_lt

theorem send_of_open {c : Channel} (hopen : c.receiverOpen = true) (client : Descriptor) :
    c.send (Int32.ofInt client) = .ok (c.fed [client]) := by
  simp [Channel.send, Channel.write, hopen, Channel.fed]

/-- One client is sent to the worker on whose turn it is, and counted. It is the step of `dealt`,
whose definition speaks of all the clients at once. -/
theorem dealt_singleton (a : Acceptor) (client : Descriptor) :
    a.dealt [client] = rotate { a.setChannel a.next (a.nextChannel.fed [client]) with
      counts := a.counts.modify a.next (· + 1) } := by
  have hnext : a.next % a.channels.length = a.next := Nat.mod_eq_of_lt a.next_lt
  simp only [dealt, rotate, setChannel, dealFrom_singleton, hnext, mk.injEq, true_and, and_true,
    List.length_singleton, List.length_set]
  constructor
  · refine List.ext_getElem (by simp) fun w hw hw' => ?_
    simp only [List.getElem_mapIdx, List.getElem_set]
    by_cases h : a.next = w
    · subst h
      simp [nextChannel]
    · simp [h, Channel.fed_nil]
  · refine List.ext_getElem (by simp) fun w hw hw' => ?_
    simp only [List.getElem_mapIdx, List.getElem_modify]
    by_cases h : a.next = w <;> simp [h]

theorem bind_of_ok {α β : Type} {x : Act α} {v : α} (hx : x a = .ok v a') (f : α → Act β) :
    (x >>= f) a = f v a' := by
  show EStateM.bind x f a = f v a'
  rw [EStateM.bind, hx]

theorem bind_of_error {α β : Type} {x : Act α} (hx : x a = .error cause a') (f : α → Act β) :
    (x >>= f) a = .error cause a' := by
  show EStateM.bind x f a = .error cause a'
  rw [EStateM.bind, hx]

theorem record_eq {w : Nat} (h : w < a.counts.length) :
    record w a = .ok ⟨⟩ { a with counts := a.counts.modify w (· + 1) } := by
  rw [record, bind_of_ok (x := get) rfl, if_pos h]
  rfl

theorem record_blocked {w : Nat} (h : a.counts.length ≤ w) :
    record w a = .error (.panic (.outOfBounds a.counts.length w)) a := by
  rw [record, bind_of_ok (x := get) rfl, if_neg (Nat.not_lt.mpr h)]
  rfl

theorem handOff_of_open (hopen : a.nextChannel.receiverOpen = true) (client : Descriptor) :
    handOff client a = (do record a.next; modify rotate : Act Unit)
      (a.setChannel a.next (a.nextChannel.fed [client])) := by
  rw [handOff, bind_of_ok (x := get) rfl]
  rw [send_of_open hopen]
  rfl

theorem handOff_eq (hopen : a.nextChannel.receiverOpen = true) (hcount : a.next < a.counts.length)
    (client : Descriptor) : handOff client a = .ok ⟨⟩ (a.dealt [client]) := by
  have hrecord := record_eq (a := a.setChannel a.next (a.nextChannel.fed [client])) hcount
  rw [handOff_of_open hopen, bind_of_ok hrecord, dealt_singleton]
  rfl

theorem handOff_blocked (h : a.Blocks a.next cause) (client : Descriptor) :
    ∃ a', handOff client a = .error cause a' := by
  have hnext := a.getElem?_next
  cases h with
  | closed hc hclosed =>
    obtain rfl := Option.some.inj (hnext.symm.trans hc)
    refine ⟨a, ?_⟩
    rw [handOff, bind_of_ok (x := get) rfl]
    simp only [Channel.send, Channel.write, hclosed]
    rfl
  | uncounted hc hopen hcount =>
    obtain rfl := Option.some.inj (hnext.symm.trans hc)
    have hrecord := record_blocked (a := a.setChannel a.next (a.nextChannel.fed [client])) hcount
    have hstops : handOff client a = .error (.panic (.outOfBounds a.counts.length a.next))
        (a.setChannel a.next (a.nextChannel.fed [client])) := by
      rw [handOff_of_open hopen]
      exact bind_of_error hrecord _
    exact ⟨_, hstops⟩

theorem open_or_blocked (a : Acceptor) :
    (a.nextChannel.receiverOpen = true ∧ a.next < a.counts.length)
      ∨ ∃ cause, a.Blocks a.next cause := by
  cases hopen : a.nextChannel.receiverOpen with
  | false => exact Or.inr ⟨_, .closed a.getElem?_next hopen⟩
  | true =>
    by_cases hcount : a.next < a.counts.length
    · exact Or.inl ⟨rfl, hcount⟩
    · exact Or.inr ⟨_, .uncounted a.getElem?_next hopen (Nat.le_of_not_lt hcount)⟩

theorem eq_dealt_of_handOff (h : handOff client a = .ok ⟨⟩ a') : a' = a.dealt [client] := by
  rcases a.open_or_blocked with ⟨hopen, hcount⟩ | ⟨cause, hblocks⟩
  · rw [handOff_eq hopen hcount] at h
    cases h
    rfl
  · obtain ⟨_, hstops⟩ := handOff_blocked hblocks client
    rw [hstops] at h
    cases h

variable {handed more : List Descriptor} {ls ls' : List Listener} {l l' : Listener}
  {answers later : List Answer}

theorem blocks_of_after {w : Nat} (h : (a.after handed ls answers).Blocks w cause) :
    a.Blocks w cause := by
  cases h with
  | closed hc hclosed =>
    simp only [after, dealt, List.getElem?_mapIdx, Option.map_eq_some_iff] at hc
    obtain ⟨c, hc, rfl⟩ := hc
    have hblocked : a.Blocks w (.fatal (.handoffPipe c.writeFd (.os .brokenPipe))) :=
      .closed hc hclosed
    exact hblocked
  | uncounted hc hopen hcount =>
    simp only [after, dealt, List.getElem?_mapIdx, Option.map_eq_some_iff, List.length_mapIdx]
      at hc hcount ⊢
    obtain ⟨c, hc, rfl⟩ := hc
    exact .uncounted hc hopen hcount

theorem after_after : (a.after handed ls answers).after more ls' later
    = a.after (handed ++ more) ls' (answers ++ later) := by
  have hdealt : (a.after handed ls answers).dealt more
      = { a.dealt (handed ++ more) with
        listeners := ls, log := (a.after handed ls answers).log } := by
    rw [← dealt_dealt]
    rfl
  rw [after, hdealt]
  simp [after]

theorem after_nil : a.after [] ls answers
    = { a with listeners := ls, log := (answers.flatMap Answer.said).reverse ++ a.log } := by
  rw [after, dealt_nil]

/-! ## One listener -/

theorem acceptFrom_client (hl : a.listeners[i]? = some l)
    (h : l.accept a.exhausted = (.ok client, l')) :
    acceptFrom i (rounds + 1) a = (do handOff client; acceptFrom i rounds : Act Unit)
      (a.after [] (a.listeners.set i l') [.ok client]) := by
  rw [after_nil, acceptFrom, bind_of_ok (x := get) rfl]
  simp only [hl, h]
  rfl

theorem acceptFrom_retry {e : Errno} (hl : a.listeners[i]? = some l)
    (h : l.accept a.exhausted = (.error e, l'))
    (hkind : IoError.Kind.ofErrno e = .interrupted) : acceptFrom i (rounds + 1) a
      = acceptFrom i rounds (a.after [] (a.listeners.set i l') [.error e]) := by
  rw [after_nil, acceptFrom, bind_of_ok (x := get) rfl]
  simp only [hl, h, hkind, List.flatMap_cons, Answer.said_of_interrupted hkind]
  rfl

theorem acceptFrom_last {e : Errno} (hl : a.listeners[i]? = some l)
    (h : l.accept a.exhausted = (.error e, l'))
    (hkind : IoError.Kind.ofErrno e ≠ .interrupted) : acceptFrom i (rounds + 1) a
      = .ok ⟨⟩ (a.after [] (a.listeners.set i l') [.error e]) := by
  rw [after_nil, acceptFrom, bind_of_ok (x := get) rfl]
  simp only [hl, h, List.flatMap_cons, List.flatMap_nil, List.append_nil, Answer.said]
  rw [bind_of_ok (x := set _) rfl]
  generalize IoError.Kind.ofErrno e = kind at hkind ⊢
  cases kind with
  | interrupted => exact absurd rfl hkind
  | _ => rfl

/-- What comes of these answers. All their clients are handed off, and `ls` are the listeners then,
or the acceptor stops for good at a client that falls to a blocked worker, with those before it
handed off. -/
inductive ComesTo (a : Acceptor) (answers : List Answer) (ls : List Listener) :
    EStateM.Result Abort Acceptor Unit → Prop
  | done : ComesTo a answers ls (.ok ⟨⟩ (a.after (Answer.clients answers) ls answers))
  | stopped (before rest : List Answer) {client : Descriptor} {ls' : List Listener} {cause : Abort}
      {a' : Acceptor}
      (hanswers : answers = before ++ .ok client :: rest)
      (hblocks : a.Blocks ((a.next + (Answer.clients before).length) % a.channels.length) cause)
      (hhandOff : handOff client (a.after (Answer.clients before) ls' (before ++ [.ok client]))
        = .error cause a') :
      ComesTo a answers ls (.error cause a')

theorem ComesTo.of_after {r : EStateM.Result Abort Acceptor Unit}
    (h : (a.after (Answer.clients answers) ls answers).ComesTo later ls' r) :
    a.ComesTo (answers ++ later) ls' r := by
  cases h with
  | done =>
    rw [after_after, ← Answer.clients_append]
    exact .done
  | stopped before rest hanswers hblocks hhandOff =>
    rw [after_after, ← Answer.clients_append, ← List.append_assoc] at hhandOff
    refine .stopped (answers ++ before) rest (by rw [hanswers, List.append_assoc]) ?_ hhandOff
    have hblocks := blocks_of_after hblocks
    simp only [after, dealt, List.length_mapIdx, Nat.mod_add_mod] at hblocks
    rwa [Answer.clients_append, List.length_append, ← Nat.add_assoc]

/-- One part after the other. Where the first one stops for good, the second never begins, and its
answers are among those that were not come to. -/
theorem ComesTo.bind {x : Act Unit} {f : Unit → Act Unit} {b : Acceptor}
    (h : a.ComesTo answers ls (x b))
    (hnext : (a.after (Answer.clients answers) ls answers).ComesTo later ls'
      (f ⟨⟩ (a.after (Answer.clients answers) ls answers))) :
    a.ComesTo (answers ++ later) ls' ((x >>= f) b) := by
  generalize hx : x b = r at h
  cases h with
  | done =>
    rw [bind_of_ok hx]
    exact hnext.of_after
  | stopped before rest hanswers hblocks hhandOff =>
    rw [bind_of_error hx]
    exact .stopped before (rest ++ later)
      (by rw [hanswers, List.append_assoc, List.cons_append]) hblocks hhandOff

theorem comesTo_handOff (a : Acceptor) (client : Descriptor) (ls : List Listener) :
    a.ComesTo [.ok client] ls (handOff client (a.after [] ls [.ok client])) := by
  have hnext : (a.after [] ls [.ok client]).next = (a.next + 0) % a.channels.length := rfl
  rcases (a.after [] ls [.ok client]).open_or_blocked with ⟨hopen, hcount⟩ | ⟨cause, hblocks⟩
  · have hdealt : (a.after [] ls [.ok client]).dealt [client]
        = a.after [client] ls [.ok client] := by
      rw [after, after, dealt_nil]
      rfl
    rw [handOff_eq hopen hcount, hdealt]
    exact .done
  · obtain ⟨a', hstops⟩ := handOff_blocked hblocks client
    rw [hstops]
    rw [hnext] at hblocks
    exact .stopped [] [] rfl (blocks_of_after hblocks) hstops

/-- From one listener, the acceptor takes its harvest. The induction is on the rounds, each of which
is one accept call. -/
theorem acceptFrom_cases (hl : a.listeners[i]? = some l) (rounds : Nat) :
    ∃ answers, l.Harvest a.exhausted rounds answers
      ∧ a.ComesTo answers (a.listeners.set i (l.skip a.exhausted answers.length))
        (acceptFrom i rounds a) := by
  induction rounds generalizing a l with
  | zero =>
    obtain ⟨hi, rfl⟩ := List.getElem?_eq_some_iff.mp hl
    have hsame : a.after [] (a.listeners.set i (a.listeners[i].skip a.exhausted 0)) [] = a := by
      rw [after_nil, Listener.skip_zero, List.set_getElem_self]
      rfl
    refine ⟨[], Listener.harvest_zero .., ?_⟩
    have hcomes : a.ComesTo [] (a.listeners.set i (a.listeners[i].skip a.exhausted 0))
        (.ok ⟨⟩ (a.after [] _ [])) :=
      .done
    rwa [hsame] at hcomes
  | succ rounds ih =>
    have hi := (List.getElem?_eq_some_iff.mp hl).1
    rcases haccept : l.accept a.exhausted with ⟨answer, l'⟩
    by_cases hpasses : Answer.Passes answer
    · obtain ⟨answers, hharvest, hcomes⟩ :=
        ih (a := a.after (Answer.clients [answer]) (a.listeners.set i l') [answer])
        (l := l') (List.getElem?_set_self hi)
      have hlisteners : (a.listeners.set i l').set i (l'.skip a.exhausted answers.length)
          = a.listeners.set i (l.skip a.exhausted (answers.length + 1)) := by
        rw [List.set_set, (Listener.accept_passes haccept hpasses).2]
      have hcomes : ComesTo _ answers
          ((a.listeners.set i l').set i (l'.skip a.exhausted answers.length)) _ := hcomes
      rw [hlisteners] at hcomes
      refine ⟨answer :: answers, .cons haccept hpasses hharvest, ?_⟩
      cases answer with
      | ok client =>
        rw [acceptFrom_client hl haccept]
        exact (comesTo_handOff a client _).bind hcomes
      | error e =>
        rw [acceptFrom_retry hl haccept hpasses]
        exact hcomes.of_after
    · cases answer with
      | ok client => exact absurd trivial hpasses
      | error e =>
        refine ⟨[.error e], Listener.harvest_last haccept hpasses, ?_⟩
        rw [acceptFrom_last hl haccept hpasses, (Listener.accept_prospects haccept).2]
        exact .done

theorem of_acceptFrom (hl : a.listeners[i]? = some l) (h : acceptFrom i rounds a = .ok ⟨⟩ a') :
    ∃ answers, l.Harvest a.exhausted rounds answers ∧ a' = a.after (Answer.clients answers)
      (a.listeners.set i (l.skip a.exhausted answers.length)) answers := by
  obtain ⟨answers, hharvest, hcomes⟩ := acceptFrom_cases hl rounds
  rw [h] at hcomes
  cases hcomes
  exact ⟨answers, hharvest, rfl⟩

/-! ## Several listeners -/

/-- The harvests of the ready listeners, one after the other, and the listeners after them. A
listener that is ready twice is harvested twice. -/
inductive Harvests (exhausted : Bool) (rounds : Nat) :
    List Listener → List Nat → List (List Answer) → List Listener → Prop
  | nil (ls : List Listener) : Harvests exhausted rounds ls [] [] ls
  | cons {ls ls' : List Listener} {i : Nat} {ready : List Nat} {l : Listener}
      {answers : List Answer}
      {later : List (List Answer)} (hl : ls[i]? = some l) (h : l.Harvest exhausted rounds answers)
      (hrest : Harvests exhausted rounds
        (ls.set i (l.skip exhausted answers.length)) ready later ls') :
      Harvests exhausted rounds ls (i :: ready) (answers :: later) ls'

/-- The clients of several listeners are dealt out as those of one: a listener begins with the
worker at which the one before it ended. -/
theorem acceptFromAll_cases {ready : List Nat} (hknown : ∀ i ∈ ready, i < a.listeners.length) :
    ∃ harvests ls, Harvests a.exhausted a.maxOpsPerFd a.listeners ready harvests ls
      ∧ a.ComesTo harvests.flatten ls (acceptFromAll ready a) := by
  induction ready generalizing a with
  | nil =>
    have hcomes : a.ComesTo [] a.listeners (.ok ⟨⟩ (a.after [] a.listeners [])) := .done
    rw [after_nil] at hcomes
    exact ⟨[], a.listeners, .nil _, hcomes⟩
  | cons i ready ih =>
    obtain ⟨hi, hknown⟩ := List.forall_mem_cons.mp hknown
    obtain ⟨answers, hharvest, hcomes⟩ :=
      acceptFrom_cases (List.getElem?_eq_getElem hi) a.maxOpsPerFd
    let b := a.after (Answer.clients answers)
      (a.listeners.set i (a.listeners[i].skip a.exhausted answers.length)) answers
    have hlength : b.listeners.length = a.listeners.length := List.length_set ..
    obtain ⟨harvests, ls, hharvests, hrest⟩ := ih (a := b) (by rwa [hlength])
    refine ⟨answers :: harvests, ls, .cons (List.getElem?_eq_getElem hi) hharvest hharvests, ?_⟩
    exact hcomes.bind hrest

/-- The listeners with something to accept or to fail over, in the order of the list. -/
def readyListeners (ready : ReadyList) : List Nat :=
  (ready.events.filter fun e => e.readable || e.error).map (·.token.value)

theorem waitReady_eq {ready : ReadyList} {poller : Poller}
    (h : a.poller.wait a.view = .ok (some ready, poller)) :
    waitReady a = .ok (readyListeners ready) { a with poller } := by
  rw [waitReady, bind_of_ok (x := get) rfl]
  simp only [h]
  rfl

theorem of_turn (h : turn a = .ok ⟨⟩ a') : ∃ ready poller,
    a.poller.wait a.view = .ok (some ready, poller)
      ∧ acceptFromAll (readyListeners ready) { a with poller } = .ok ⟨⟩ a' := by
  obtain ⟨_, _, hready, hfrom⟩ := of_bind h
  obtain ⟨_, _, hget, hready⟩ := of_bind hready
  cases hget
  rcases hwait : a.poller.wait a.view with e | ⟨_ | ready, poller⟩ <;>
    simp only [hwait] at hready <;> cases hready
  exact ⟨ready, poller, rfl, hfrom⟩

/-- The acceptor takes from a listener what it has rounds for, and from the ready listeners of a
turn so much each. The clients are handed off one by one, dealt out over all listeners from the
worker on whose turn it is. -/
theorem accepts_harvests (a : Acceptor) :
    (∀ (i : Nat) (l : Listener) (rounds : Nat), a.listeners[i]? = some l →
      ∃ answers, l.Harvest a.exhausted rounds answers
        ∧ a.ComesTo answers (a.listeners.set i (l.skip a.exhausted answers.length))
          (acceptFrom i rounds a))
    ∧ ∀ (ready : ReadyList) (poller : Poller), a.poller.wait a.view = .ok (some ready, poller) →
      (∀ i ∈ readyListeners ready, i < a.listeners.length) →
      ∃ harvests ls,
        Harvests a.exhausted a.maxOpsPerFd a.listeners (readyListeners ready) harvests ls
        ∧ ({ a with poller } : Acceptor).ComesTo harvests.flatten ls (turn a) := by
  refine ⟨fun i l rounds hl => acceptFrom_cases hl rounds, fun ready poller hwait hknown => ?_⟩
  rw [turn, bind_of_ok (waitReady_eq hwait)]
  exact acceptFromAll_cases (a := { a with poller }) hknown

def crowded : Listener where
  fd := 3
  backlog := [.ok 10, .error .interrupted, .ok 11, .ok 12]

/-- An acceptor of two workers and two listeners before and after a turn, and what it waited for. -/
def crowdedTurn : Option ((Acceptor × Acceptor) × ReadyList × Poller) :=
  match create [crowded, { fd := 4, backlog := [.ok 13] }]
      [{ readFd := 5, writeFd := 6, held_lt := Channel.length_nil_lt },
        { readFd := 7, writeFd := 8, held_lt := Channel.length_nil_lt }]
          { maxOpsPerFd := 3 } 2 false 9 with
  | .ok a =>
    match a.poller.wait a.view, turn a with
    | .ok (some ready, poller), .ok _ a' => some ((a, a'), ready, poller)
    | _, _ => none
  | .error _ => none

/-- Of the three calls to the first listener, one is interrupted. The client of the second is the
third to be handed off. -/
theorem accepts_harvests_of_crowded : ∃ a a' ready poller, a.listeners[0]? = some crowded
    ∧ a.poller.wait a.view = .ok (some ready, poller) ∧ readyListeners ready = [0, 1]
    ∧ (∃ answers, crowded.Harvest a.exhausted 3 answers
      ∧ a.ComesTo answers (a.listeners.set 0 (crowded.skip a.exhausted answers.length))
        (acceptFrom 0 3 a))
    ∧ (∃ harvests ls,
      Harvests a.exhausted a.maxOpsPerFd a.listeners (readyListeners ready) harvests ls
      ∧ ({ a with poller } : Acceptor).ComesTo harvests.flatten ls (turn a))
    ∧ turn a = .ok ⟨⟩ a' ∧ a'.next = 1 ∧ a'.counts = [2, 1] := by
  have hall : crowdedTurn.any (fun r => decide (readyListeners r.2.1 = [0, 1] ∧ r.1.2.next = 1
      ∧ r.1.2.counts = [2, 1])) = true := by
    decide +kernel
  obtain ⟨_, hr, hall⟩ := (Option.any_eq_true _ _).mp hall
  obtain ⟨hready, hnext, hcounts⟩ := of_decide_eq_true hall
  unfold crowdedTurn at hr
  split at hr
  next a hcreate =>
    split at hr
    next ready poller _ a' hwait hturn =>
      cases hr
      have hlisteners := (of_create hcreate).1
      have hfirst : a.listeners[0]? = some crowded := by rw [hlisteners]; rfl
      have hknown : ∀ i ∈ readyListeners ready, i < a.listeners.length := by
        rw [hready, hlisteners]
        decide
      exact ⟨a, a', ready, poller, hfirst, hwait, hready, a.accepts_harvests.1 0 crowded 3 hfirst,
        a.accepts_harvests.2 ready poller hwait hknown, hturn, hnext, hcounts⟩
    next => cases hr
  next => cases hr

end Acceptor

end Sluice
