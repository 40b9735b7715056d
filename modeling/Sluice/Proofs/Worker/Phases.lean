import Sluice.Proofs.Pair.Delivery
import Sluice.Proofs.Worker.Outside

/-!
# The phases of a pair

A pair that relays from `a` to `b` is linked; when `a` has ended, `b` drains what is left; then both
are closed (`Worker.Phase`). As long as the far end of `a` leaves no error behind and that of `b`
only takes (`Worker.Clean`), the pair goes through these phases in this order and no byte is lost on
the way: whatever happens in a turn keeps it on its way (`kept_onItsWay`), and so does a move from
outside (`Phase.moved`).
-/

namespace Sluice

namespace File

theorem ended_close (f : File) : f.close.ended = true := by
  cases f <;> rfl

theorem offered_close (f : File) : f.close.offered = f.offered := by
  cases f <;> rfl

theorem sent_close (f : File) : f.close.sent = f.sent := by
  cases f <;> rfl

/-- From `f` to `f'` the far end has done nothing, and if the file was closed, the far end had
ended. -/
structure Ends (f f' : File) : Prop where
  offered : f'.offered = f.offered
  stays : f'.isOpen = true → f.isOpen = true ∧ f'.ended = f.ended
  closes : f'.isOpen = false → f.isOpen = false ∨ f.ended = true

variable {f f' f'' : File}

theorem Ends.refl (f : File) : f.Ends f :=
  ⟨rfl, fun h => ⟨h, rfl⟩, fun h => Or.inl h⟩

theorem Ends.trans (h : f.Ends f') (h' : f'.Ends f'') : f.Ends f'' where
  offered := h'.offered.trans h.offered
  stays ho := by
    obtain ⟨ho', hended'⟩ := h'.stays ho
    obtain ⟨ho, hended⟩ := h.stays ho'
    exact ⟨ho, hended'.trans hended⟩
  closes hc := by
    rcases h'.closes hc with hc' | hended'
    · exact h.closes hc'
    · cases ho' : f'.isOpen with
      | false => exact h.closes ho'
      | true => exact Or.inr ((h.stays ho').2.symm.trans hended')

theorem Ends.of_used (h : f.Used f') : f.Ends f' where
  offered := h.offered
  stays ho := ⟨h.isOpen.symm.trans ho, h.ended⟩
  closes hc := Or.inl (h.isOpen.symm.trans hc)

theorem Ends.close (h : f.ended = true) : f.Ends f.close where
  offered := f.offered_close
  stays ho := by
    rw [isOpen_close] at ho
    cases ho
  closes _ := Or.inr h

end File

namespace Worker

variable {w w' : Worker} {id pid : SessionId} {s p : Session} {a b fd : Descriptor} {e : Event}
  {stop : Bool} {except : List SessionId}

/-! ## Closed files -/

/-- The file is closed, and its descriptor will not be given out again, so that it stays closed
whatever comes. -/
structure Gone (w : Worker) (fd : Descriptor) : Prop where
  closed : (w.host.file fd).isOpen = false
  old : fd < w.host.next

theorem Gone.not_loose (h : w.Gone fd) : ¬ w.Loose fd := by
  rintro ⟨hopen, -⟩
  rw [h.closed] at hopen
  cases hopen

theorem Gone.not_owned (h : w.Gone fd) (hw : SoundBut except w) : ¬ w.Owned fd := by
  rintro ⟨id, s, hs, rfl⟩
  have hopen : (w.host.file s.fd).isOpen = true := (hw.held id s hs).isOpen
  rw [h.closed] at hopen
  cases hopen

theorem Gone.of_file (h : w.Gone fd) (hfile : w'.host.file fd = w.host.file fd)
    (hnext : w.host.next ≤ w'.host.next) : w'.Gone fd :=
  ⟨by rw [hfile]; exact h.closed, Int.lt_of_lt_of_le h.old hnext⟩

theorem SoundBut.gone_close {w₁ : Worker} (h : SoundBut except w) (hs : w.session? id = some s)
    {f : File} (hfile : w₁.host.file s.fd = f.close) (hnext : w₁.host.next = w.host.next) :
    w₁.Gone s.fd :=
  ⟨by rw [hfile, File.isOpen_close], by rw [hnext]; exact h.owned_lt ⟨id, s, hs, rfl⟩⟩

/-! ## Phases -/

/-- How far the relay from `a` to `b` has come: both sessions are there and linked; the source was
read to its end and the sink still has bytes to write; or all is written and both are closed. -/
inductive Phase (w : Worker) (a b : Descriptor) : Prop
  | linked {id pid : SessionId} {s p : Session} (hs : w.session? id = some s)
      (hp : w.session? pid = some p) (hpeer : s.peer = some pid) (ha : s.fd = a) (hb : p.fd = b)
  | draining {pid : SessionId} {p : Session} (hp : w.session? pid = some p) (hpeer : p.peer = none)
      (hb : p.fd = b) (gone : w.Gone a) (ended : (w.host.file a).ended = true)
      (bytes : (w.host.file a).offered = (w.half p).passed)
  | done (gone : w.Gone a) (gone' : w.Gone b) (ended : (w.host.file a).ended = true)
      (bytes : (w.host.file a).offered = (w.host.file b).sent)

/-- As long as `a` and `b` are open, the far end of `a` leaves no error behind, and that of `b` only
takes. -/
structure Clean (w : Worker) (a b : Descriptor) : Prop where
  source : (w.host.file a).isOpen = true → (w.host.file a).Source
  sink : (w.host.file b).isOpen = true → (w.host.file b).Sink

/-- Once `b` is closed, all that was offered to `a` was written to `b`, and before that its
beginning. -/
theorem Phase.delivered (h : Phase w a b) (hw : w.Sound) :
    (w.host.file b).sent <+: (w.host.file a).offered
      ∧ ((w.host.file b).isOpen = false → (w.host.file a).isOpen = false
        ∧ (w.host.file a).ended = true ∧ (w.host.file b).sent = (w.host.file a).offered) := by
  have hopen {pid : SessionId} {p : Session} (hp : w.session? pid = some p) (hb : p.fd = b)
      (hclosed : (w.host.file b).isOpen = false) : False := by
    have ho : (w.host.file p.fd).isOpen = true := (hw.held pid p hp).isOpen
    rw [hb, hclosed] at ho
    cases ho
  cases h with
  | @linked id pid s p hs hp hpeer ha hb =>
    refine ⟨?_, fun hclosed => (hopen hp hb hclosed).elim⟩
    obtain ⟨-, -, hl⟩ := hw.linked_peer hs hp hpeer
    subst ha hb
    refine List.IsPrefix.trans ?_ hl.there.sound.received_prefix
    rw [hl.there.bytes]
    exact List.prefix_append ..
  | draining hp _ hb _ _ bytes =>
    refine ⟨?_, fun hclosed => (hopen hp hb hclosed).elim⟩
    subst hb
    rw [bytes]
    exact List.prefix_append ..
  | done gone _ ended bytes =>
    rw [bytes]
    exact ⟨List.prefix_rfl, fun _ => ⟨gone.closed, ended, rfl⟩⟩

/-- A file that relays is closed only after its far end has ended. This is where data would be lost
if it were otherwise. -/
theorem Phase.ended_of_closed (h : Phase w a b) (hw : w.Sound)
    (hclosed : (w.host.file a).isOpen = false) : (w.host.file a).ended = true := by
  cases h with
  | @linked id _ s _ hs _ _ ha =>
    have ho : (w.host.file s.fd).isOpen = true := (hw.held id s hs).isOpen
    rw [ha, hclosed] at ho
    cases ho
  | draining _ _ _ _ ended => exact ended
  | done _ _ ended => exact ended

theorem Phase.settled (h : Phase w a b) (hw : w.Sound) (hfd : fd = a ∨ fd = b) :
    fd < w.host.next ∧ ¬ w.Loose fd := by
  have howned {id : SessionId} {s : Session} (hs : w.session? id = some s) :
      s.fd < w.host.next ∧ ¬ w.Loose s.fd :=
    ⟨hw.owned_lt ⟨id, s, hs, rfl⟩, fun hl => hl.2 ⟨id, s, hs, rfl⟩⟩
  have hgone {fd : Descriptor} (hg : w.Gone fd) : fd < w.host.next ∧ ¬ w.Loose fd :=
    ⟨hg.old, hg.not_loose⟩
  cases h with
  | linked hs hp _ ha hb =>
    subst ha hb
    rcases hfd with rfl | rfl
    · exact howned hs
    · exact howned hp
  | draining hp _ hb gone =>
    subst hb
    rcases hfd with rfl | rfl
    · exact hgone gone
    · exact howned hp
  | done gone gone' =>
    rcases hfd with rfl | rfl
    · exact hgone gone
    · exact hgone gone'

/-- The phase depends on the sessions and files of the pair alone, so that events of others and new
clients leave it as it is. -/
theorem Phase.frame (h : Phase w a b)
    (hsessions : ∀ id s, w.session? id = some s → s.fd = a ∨ s.fd = b → w'.session? id = some s)
    (hfiles : ∀ fd, fd = a ∨ fd = b → w'.host.file fd = w.host.file fd)
    (hnext : w.host.next ≤ w'.host.next) : Phase w' a b := by
  have ha := hfiles a (Or.inl rfl)
  have hb := hfiles b (Or.inr rfl)
  cases h with
  | linked hs hp hpeer hfd hfd' =>
    exact .linked (hsessions _ _ hs (Or.inl hfd)) (hsessions _ _ hp (Or.inr hfd')) hpeer hfd hfd'
  | draining hp hpeer hfd gone ended bytes =>
    subst hfd
    refine .draining (hsessions _ _ hp (Or.inr rfl)) hpeer rfl (gone.of_file ha hnext) ?_ ?_
    · rw [ha, ended]
    · rw [ha, bytes, half, half, hb]
  | done gone gone' ended bytes =>
    refine .done (gone.of_file ha hnext) (gone'.of_file hb hnext) ?_ ?_
    · rw [ha, ended]
    · rw [ha, hb, bytes]

theorem Phase.moved (h : Phase w a b) (fd : Descriptor) (m : Move) :
    Phase (w.withHost (w.host.play fd m)) a b := by
  have hmoved := w.moved_play fd m
  have hgone {fd' : Descriptor} (hg : w.Gone fd') : (w.withHost (w.host.play fd m)).Gone fd' := by
    refine ⟨(hmoved fd').isOpen.trans hg.closed, ?_⟩
    show fd' < (w.host.play fd m).next
    rw [(w.host.play_fields fd m).1]
    exact hg.old
  cases h with
  | linked hs hp hpeer hfd hfd' => exact .linked hs hp hpeer hfd hfd'
  | draining hp hpeer hfd gone ended bytes =>
    subst hfd
    obtain ⟨hended, hoffered⟩ := (hmoved a).ended ended
    refine .draining hp hpeer rfl (hgone gone) hended ?_
    calc ((w.host.play fd m).file a).offered = (w.half _).passed := hoffered.trans bytes
      _ = ((w.withHost (w.host.play fd m)).half _).passed := by
        rw [Half.passed, Half.passed, half, half, ← (hmoved _).sent]
        rfl
  | done gone gone' ended bytes =>
    obtain ⟨hended, hoffered⟩ := (hmoved a).ended ended
    exact .done (hgone gone) (hgone gone') hended
      (hoffered.trans (bytes.trans (hmoved b).sent.symm))

/-! ## Events -/

theorem Sound.delivers (h : w.Sound) (hs : w.session? id = some s) (hp : w.session? pid = some p)
    (hpeer : s.peer = some pid) (hc : Clean w s.fd p.fd) : (w.half s).Delivers (w.half p) := by
  obtain ⟨-, -, hl⟩ := h.linked_peer hs hp hpeer
  have hroom {id : SessionId} {s : Session} (hs : w.session? id = some s) :
      0 < s.staging.buffer.length := by
    rw [h.stocked.buffers id s hs, h.stocked.size]
    exact h.stocked.positive
  exact ⟨hl, hc.source (h.held id s hs).isOpen, hc.sink (h.held pid p hp).isOpen,
    hroom hs, hroom hp⟩

/-- Destroying a session that has been read to its end leaves its peer to write what remains. If
nothing remains, both are destroyed at once, and the phase is the last one. -/
theorem Phase.of_destroyed (h : SoundBut except w) (hs : w.session? id = some s)
    (hp : w.session? pid = some p) (hpeer : s.peer = some pid) (hl : (w.half s).Linked (w.half p))
    (hread : (w.host.file s.fd).received = (w.host.file s.fd).offered) (hd : Destroyed w id w') :
    Phase w' s.fd p.fd ∧ w'.host.file s.fd = (w.host.file s.fd).close := by
  have hbytes : (w.host.file s.fd).offered = (w.half p).passed :=
    hread.symm.trans hl.there.bytes
  obtain ⟨hne, w₁, h₁, hend⟩ := hd.of_pair hs hp hpeer
  have hfd : s.fd ≠ p.fd := fun heq => hne (h.fd_inj hs hp heq)
  rcases hend with ⟨hidle, h₂⟩ | ⟨hblocked, h₂⟩
  · have ha : w'.host.file s.fd = (w.host.file s.fd).close := by
      rw [h₂.files, if_neg hfd, h₁.files, if_pos rfl]
    have hb : w'.host.file p.fd = (w.host.file p.fd).close := by
      rw [h₂.files, if_pos rfl, h₁.files, if_neg hfd.symm]
    have hnext := h₂.next.trans h₁.next
    have hwin : p.staging.window = [] :=
      Half.window_eq_nil_iff.mpr (hl.paired.back.pending_eq_zero hidle)
    refine ⟨.done (h.gone_close hs ha hnext) (h.gone_close hp hb hnext) ?_ ?_, ha⟩
    · rw [ha, File.ended_close]
    · rw [ha, hb, File.offered_close, File.sent_close, hbytes]
      show (w.host.file p.fd).sent ++ p.staging.window = _
      rw [hwin, List.append_nil]
  · have ha : w'.host.file s.fd = (w.host.file s.fd).close := by
      rw [h₂.within.files _ (by simpa [left, Half.set, half] using hfd), h₁.files, if_pos rfl]
    refine ⟨.draining h₂.holds.session rfl rfl
      (h.gone_close hs ha (h₂.within.next.trans h₁.next)) ?_ ?_, ha⟩
    · rw [ha, File.ended_close]
    · rw [ha, File.offered_close, hbytes, h₂.holds.half_eq]
      rfl

/-- An event of the session that reads from `a`. It is doomed by nothing but the end of what it
reads, so that the phase changes only when all was read. -/
theorem Phase.source_event (h : w.Sound) (hc : Clean w s.fd p.fd)
    (hs : w.session? (Session.ofToken e.token) = some s) (hp : w.session? pid = some p)
    (hpeer : s.peer = some pid) (hh : Handled w e stop w') :
    Phase w' s.fd p.fd ∧ (w.host.file s.fd).Ends (w'.host.file s.fd) := by
  have hf := (h.delivers hs hp hpeer hc).source_onEvent w.settings.maxOpsPerFd e
  obtain ⟨r, hr⟩ : ∃ r, r = Half.onEvent w.settings.maxOpsPerFd e (w.half s) (w.half p) := ⟨_, rfl⟩
  obtain ⟨hback, -, hk⟩ := h.event_keeps hs hp hpeer hr
  have hused {w₁ : Worker} (ha : Attends w w₁ (Session.ofToken e.token) pid r.self r.peer) :=
    Serves.used ha (h.held _ _ hs) (h.held _ _ hp) hk.self.fd hk.peer.fd hk.self.used hk.peer.used
      s.fd
  rcases hh.of_pair hs hp hpeer hr with ⟨-, ha⟩ | ⟨target, w₁, ht, ha, hd⟩
  · exact ⟨.linked ha.self.session ha.peer.session (hk.self.peer.trans hpeer) hk.self.fd hk.peer.fd,
      .of_used (hused ha)⟩
  · rw [← hr] at hf
    -- the event dooms the session itself, so that the pair is still linked
    obtain ⟨hself, hended, hread⟩ := hf.resolve_left fun hnone => by
      rw [Outcome.target, hnone] at ht
      cases ht
    rw [Outcome.target, hself] at ht
    obtain rfl := Option.some.inj ht
    have h₁ := h.attended hs hp hpeer hback hk ha
    have hfd : r.self.session.fd = s.fd := hk.self.fd
    have hfd' : r.peer.session.fd = p.fd := hk.peer.fd
    have hfile := ha.self.file
    have hl : (w₁.half r.self.session).Linked (w₁.half r.peer.session) := by
      rw [ha.self.half_eq, ha.peer.half_eq]
      exact hk.linked_of_self hself
    obtain ⟨hphase, hclosed⟩ := Phase.of_destroyed h₁ ha.self.session ha.peer.session
      (hk.self.peer.trans hpeer) hl (by rw [hfile]; exact hread) hd
    rw [hfd] at hfile hclosed hphase
    rw [hfd'] at hphase
    refine ⟨hphase, (File.Ends.of_used (hused ha)).trans ?_⟩
    rw [hclosed]
    exact .close (by rw [hfile]; exact hended)

theorem Phase.sink_event (h : w.Sound) (hc : Clean w s.fd p.fd) (hs : w.session? id = some s)
    (hp : w.session? (Session.ofToken e.token) = some p)
    (hpeer : s.peer = some (Session.ofToken e.token)) (hh : Handled w e stop w') :
    Phase w' s.fd p.fd ∧ (w.host.file s.fd).Ends (w'.host.file s.fd) := by
  obtain ⟨hback, -, -⟩ := h.linked_peer hs hp hpeer
  have hf := (h.delivers hs hp hpeer hc).sink_onEvent w.settings.maxOpsPerFd e
  obtain ⟨-, -, hk⟩ := h.event_keeps hp hs hback rfl
  rcases hh.of_pair hp hs hback rfl with ⟨-, ha⟩ | ⟨target, w₁, ht, -, -⟩
  · refine ⟨.linked ha.peer.session ha.self.session
      (hk.peer.peer.trans hpeer) hk.peer.fd hk.self.fd,
      .of_used ?_⟩
    exact Serves.used ha (h.held _ _ hp) (h.held _ _ hs) hk.self.fd hk.peer.fd hk.self.used
      hk.peer.used s.fd
  · rw [Outcome.target, hf] at ht
    cases ht

/-- An event of the session that writes to `b`, when it drains. It is doomed when all is written,
since no write to `b` fails. -/
theorem Phase.drain_event (h : w.Sound) (hc : Clean w a p.fd)
    (hp : w.session? (Session.ofToken e.token) = some p) (hpeer : p.peer = none)
    (gone : w.Gone a) (ended : (w.host.file a).ended = true)
    (bytes : (w.host.file a).offered = (w.half p).passed) (hh : Handled w e stop w') :
    Phase w' a p.fd := by
  have hsp := Spares.of_handled h hh
  have hfile := hsp.files a (gone.not_owned h)
  have hgone : w'.Gone a := gone.of_file hfile (Int.le_of_eq hsp.next.symm)
  obtain ⟨hlike, hpassed, -⟩ := Half.draining_drain e (h.draining hp hpeer)
  obtain ⟨w₁, ht, ⟨-, rfl⟩ | ⟨hdoomed, hd⟩⟩ := hh.of_alone hp hpeer
  · refine .draining ht.holds.session (hlike.peer.trans hpeer) hlike.fd hgone ?_ ?_
    · rw [hfile, ended]
    · rw [hfile, bytes, ht.holds.half_eq, hpassed]
  · have hwin := Half.sink_drain e (hc.sink (h.held _ p hp).isOpen) hdoomed
    obtain ⟨h₁, hpeer₁⟩ := h.drained hp hpeer ht
    have hr := hd.of_alone ht.holds.session hpeer₁
    have hfd : (Half.drain e (w.half p)).2.session.fd = p.fd := hlike.fd
    have hb : w'.host.file (Half.drain e (w.half p)).2.session.fd
        = (Half.drain e (w.half p)).2.file.close := by
      rw [← ht.holds.file]
      exact (hr.files _).trans (if_pos rfl)
    have hgone' : w'.Gone (Half.drain e (w.half p)).2.session.fd :=
      h₁.gone_close ht.holds.session hb hr.next
    rw [hfd] at hb hgone'
    refine .done hgone hgone' ?_ ?_
    · rw [hfile, ended]
    · rw [hfile, bytes, hb, File.sent_close, ← hpassed, Half.passed, hwin, List.append_nil]

/-- The event of any session keeps the phase of a clean pair: it is that of the one session or the
other, or of a third one that has nothing to do with them. -/
theorem Phase.handled (hphase : Phase w a b) (h : w.Sound) (hc : Clean w a b)
    (hh : Handled w e stop w') :
    Phase w' a b ∧ (w.host.file a).Ends (w'.host.file a) := by
  have hsp := Spares.of_handled h hh
  cases hphase with
  | @linked id pid s p hs hp hpeer ha hb =>
    subst ha hb
    by_cases hid : Session.ofToken e.token = id
    · subst hid
      exact Phase.source_event h hc hs hp hpeer hh
    · by_cases hpid : Session.ofToken e.token = pid
      · subst hpid
        exact Phase.sink_event h hc hs hp hpeer hh
      · obtain ⟨hback, -, -⟩ := h.linked_peer hs hp hpeer
        obtain ⟨hs₁, hf₁⟩ := hh.elsewhere h hs hid fun heq =>
          hpid (Option.some.inj (heq.symm.trans hpeer))
        obtain ⟨hp₁, -⟩ := hh.elsewhere h hp hpid fun heq =>
          hid (Option.some.inj (heq.symm.trans hback))
        refine ⟨.linked hs₁ hp₁ hpeer rfl rfl, ?_⟩
        rw [hf₁]
        exact .refl _
  | @draining pid p hp hpeer hb gone ended bytes =>
    subst hb
    have hfile := hsp.files a (gone.not_owned h)
    refine ⟨?_, by rw [hfile]; exact .refl _⟩
    by_cases hpid : Session.ofToken e.token = pid
    · subst hpid
      exact Phase.drain_event h hc hp hpeer gone ended bytes hh
    · obtain ⟨hp₁, hf₁⟩ := hh.elsewhere h hp hpid (by rw [hpeer]; exact nofun)
      refine .draining hp₁ hpeer rfl (gone.of_file hfile (Int.le_of_eq hsp.next.symm)) ?_ ?_
      · rw [hfile, ended]
      · rw [hfile, bytes, half, half, hf₁]
  | done gone gone' ended bytes =>
    have hfile := hsp.files a (gone.not_owned h)
    have hfile' := hsp.files b (gone'.not_owned h)
    have hnext := Int.le_of_eq hsp.next.symm
    refine ⟨.done (gone.of_file hfile hnext) (gone'.of_file hfile' hnext) ?_ ?_, ?_⟩
    · rw [hfile, ended]
    · rw [hfile, hfile', bytes]
    · rw [hfile]
      exact .refl _

theorem Clean.handled (hc : Clean w a b) (h : w.Sound) (hh : Handled w e stop w') :
    Clean w' a b where
  source hopen := by
    have hused := hh.used h hopen
    exact (hc.source (hused.isOpen.symm.trans hopen)).used hused
  sink hopen := by
    have hused := hh.used h hopen
    exact (hc.sink (hused.isOpen.symm.trans hopen)).used hused

/-! ## Turns -/

theorem Clean.of_files (hc : Clean w a b)
    (hfiles : ∀ fd, fd = a ∨ fd = b → w'.host.file fd = w.host.file fd) : Clean w' a b := by
  constructor
  · intro hopen
    rw [hfiles a (Or.inl rfl)] at hopen ⊢
    exact hc.source hopen
  · intro hopen
    rw [hfiles b (Or.inr rfl)] at hopen ⊢
    exact hc.sink hopen

/-- A clean pair in one of its phases, whose file `a` has at most come to its end since it was
`f`. -/
structure OnItsWay (a b : Descriptor) (f : File) (w : Worker) : Prop where
  phase : Phase w a b
  clean : Clean w a b
  ends : f.Ends (w.host.file a)

theorem OnItsWay.frame {f : File} (h : OnItsWay a b f w)
    (hsessions : ∀ id s, w.session? id = some s → w'.session? id = some s)
    (hfiles : ∀ fd, fd = a ∨ fd = b → w'.host.file fd = w.host.file fd)
    (hnext : w.host.next ≤ w'.host.next) : OnItsWay a b f w' where
  phase := h.phase.frame (fun id s hs _ => hsessions id s hs) hfiles hnext
  clean := h.clean.of_files hfiles
  ends := by
    rw [hfiles a (Or.inl rfl)]
    exact h.ends

/-- Whatever happens in a turn keeps a clean pair on its way. -/
theorem kept_onItsWay (f : File) : Kept (OnItsWay a b f) where
  handled h hj hh := by
    obtain ⟨hphase, hends⟩ := hj.phase.handled h hj.clean hh
    exact ⟨hphase, hj.clean.handled h hh, hj.ends.trans hends⟩
  admitted {w w'} h hj _ ha := by
    refine hj.frame ha.sessions ?_ ha.next
    intro fd hfd
    obtain ⟨hold, hloose⟩ := hj.phase.settled h hfd
    exact ha.files fd hold hloose
  waited {w w'} hj hsessions hhost := by
    refine hj.frame ?_ (fun fd _ => by rw [hhost]) (Int.le_of_eq (by rw [hhost]))
    intro id s hs
    rw [session?, hsessions]
    exact hs

end Worker

end Sluice
