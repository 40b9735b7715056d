import Sluice.Proofs.Run.Site
import Sluice.Proofs.Worker.Phases

/-!
# A clean close delivers everything

A run in which the far end of `a` leaves no error behind, that of `b` only takes, and nothing is
destroyed from outside (`CleanRun`). At every site of it, what was written to `b` is the beginning
of what was sent to `a`; and `b` is closed only after the far end of `a` has ended and all that it
sent was written (`Reachable.clean_close_delivers`).
-/

namespace Sluice.Site

open Worker

variable {σ₀ σ σ' : Site} {d : Deed} {a b : Descriptor} {id pid : SessionId} {s p : Session}

/-- A run in which the pair from `a` to `b` is clean and nothing is destroyed from outside. Other
pairs may fail, and new clients may come, at any time. -/
inductive CleanRun (a b : Descriptor) (σ₀ : Site) : Site → Prop
  | refl : CleanRun a b σ₀ σ₀
  | step {σ σ' : Site} {d : Deed} (h : CleanRun a b σ₀ σ) (clean : σ.worker.Clean a b)
      (hs : Step σ d σ') (hd : ∀ id, d ≠ .destroy id) : CleanRun a b σ₀ σ'

/-- A step of a clean run keeps the phase. If `a` is closed after it, the far end of `a` had ended
or `a` was closed before it, and nothing was sent meanwhile. -/
theorem Step.onItsWay (hs : Step σ d σ') (h : σ.Sound) (hphase : σ.worker.Phase a b)
    (clean : σ.worker.Clean a b) (hd : ∀ id, d ≠ .destroy id) :
    σ'.worker.Phase a b ∧ ((σ'.worker.host.file a).isOpen = false →
      (σ'.worker.host.file a).offered = (σ.worker.host.file a).offered
        ∧ ((σ.worker.host.file a).isOpen = false ∨ (σ.worker.host.file a).ended = true)) := by
  by_cases hmove : ∃ fd m, d = .move fd m
  · obtain ⟨fd, m, rfl⟩ := hmove
    cases hs with
    | move =>
      have hmoved := σ.worker.moved_play fd m a
      refine ⟨hphase.moved fd m, ?_⟩
      intro hclosed
      have hclosed₀ := hmoved.isOpen.symm.trans hclosed
      exact ⟨(hmoved.ended (hphase.ended_of_closed h.worker hclosed₀)).2, Or.inl hclosed₀⟩
  · have hway : OnItsWay a b (σ.worker.host.file a) σ.worker := ⟨hphase, clean, .refl _⟩
    obtain ⟨-, hway'⟩ := hs.keeps (kept_onItsWay _) h hway
      (fun fd m heq => (hmove ⟨fd, m, heq⟩).elim) fun id _ heq => (hd id heq).elim
    exact ⟨hway'.phase, fun hclosed => ⟨hway'.ends.offered, hway'.ends.closes hclosed⟩⟩

/-- What a clean run keeps: the phase, and when `a` was closed in it, the site at which the far end
of `a` had ended. -/
theorem CleanRun.keeps (hrun : CleanRun a b σ₀ σ) (h : Reachable σ₀) (hphase : σ₀.worker.Phase a b)
    (hopen : (σ₀.worker.host.file a).isOpen = true) :
    Reachable σ ∧ σ.worker.Phase a b ∧ ((σ.worker.host.file a).isOpen = false →
      ∃ σ₁, CleanRun a b σ₀ σ₁ ∧ CleanRun a b σ₁ σ ∧ (σ₁.worker.host.file a).isOpen = true
        ∧ (σ₁.worker.host.file a).ended = true
        ∧ (σ.worker.host.file a).offered = (σ₁.worker.host.file a).offered) := by
  induction hrun with
  | refl =>
    refine ⟨h, hphase, ?_⟩
    intro hclosed
    rw [hopen] at hclosed
    cases hclosed
  | @step σ σ' d hrun clean hs hd ih =>
    obtain ⟨hreach, hphase₁, hbefore⟩ := ih
    obtain ⟨hphase', hstep⟩ := hs.onItsWay hreach.sound hphase₁ clean hd
    refine ⟨hreach.step hs, hphase', ?_⟩
    intro hclosed
    obtain ⟨hoffered, hended⟩ := hstep hclosed
    cases ho : (σ.worker.host.file a).isOpen with
    | false =>
      obtain ⟨σ₁, hrun₁, hrun₂, hopen₁, hended₁, hoffered₁⟩ := hbefore ho
      exact ⟨σ₁, hrun₁, hrun₂.step clean hs hd, hopen₁, hended₁, hoffered.trans hoffered₁⟩
    | true =>
      have hended : (σ.worker.host.file a).ended = true := by
        rw [ho] at hended
        exact hended.resolve_left nofun
      exact ⟨σ, hrun, .step .refl clean hs hd, ho, hended, hoffered⟩

/-- What was written to `b` is always the beginning of what the far end of `a` sent. When `b` is
closed, the far end of `a` had ended before, and what was written to `b` is all that it had sent. -/
theorem Reachable.clean_close_delivers (h : Reachable σ₀) (hs : σ₀.worker.session? id = some s)
    (hp : σ₀.worker.session? pid = some p) (hpeer : s.peer = some pid)
    (hrun : CleanRun s.fd p.fd σ₀ σ) :
    (σ.worker.host.file p.fd).sent <+: (σ.worker.host.file s.fd).offered
      ∧ ((σ.worker.host.file p.fd).isOpen = false →
        ∃ σ₁, CleanRun s.fd p.fd σ₀ σ₁ ∧ CleanRun s.fd p.fd σ₁ σ
          ∧ (σ₁.worker.host.file s.fd).isOpen = true ∧ (σ₁.worker.host.file s.fd).ended = true
          ∧ (σ.worker.host.file p.fd).sent = (σ₁.worker.host.file s.fd).offered) := by
  have hopen : (σ₀.worker.host.file s.fd).isOpen = true := (h.sound.worker.held id s hs).isOpen
  obtain ⟨hreach, hphase, hbefore⟩ := hrun.keeps h (.linked hs hp hpeer rfl rfl) hopen
  obtain ⟨hpre, hdone⟩ := hphase.delivered hreach.sound.worker
  refine ⟨hpre, ?_⟩
  intro hclosed
  obtain ⟨hclosed', -, hall⟩ := hdone hclosed
  obtain ⟨σ₁, hrun₁, hrun₂, hopen₁, hended₁, hoffered⟩ := hbefore hclosed'
  exact ⟨σ₁, hrun₁, hrun₂, hopen₁, hended₁, hall.trans hoffered⟩

/-- Three bytes are sent to the pair and the far end closes: one turn delivers them and closes
both. -/
theorem clean_close_delivers_three : ∃ σ₀ σ : Site, σ₀.Reachable ∧ CleanRun 3 4 σ₀ σ
    ∧ (σ.worker.host.file 4).isOpen = false ∧ (σ.worker.host.file 4).sent = [1, 2, 3]
    ∧ ∃ σ₁, CleanRun 3 4 σ₀ σ₁ ∧ CleanRun 3 4 σ₁ σ ∧ (σ₁.worker.host.file 3).isOpen = true
      ∧ (σ₁.worker.host.file 3).ended = true
      ∧ (σ.worker.host.file 4).sent = (σ₁.worker.host.file 3).offered := by
  obtain ⟨w, hw, h, s, p, hs, hp, hpeer, ha, hb, -, hfile, hfile'⟩ := exists_pair
  let host₁ := w.host.play 3 (.write [1, 2, 3])
  let host₂ := host₁.play 3 .close
  obtain ⟨w₃, hw₃, hclosed, hsent⟩ : ∃ w₃, after turn (w.withHost host₂) = some w₃
      ∧ (w₃.host.file 4).isOpen = false ∧ (w₃.host.file 4).sent = [1, 2, 3] := by
    have hturn : (pairedWorker.bind fun w => after turn
        (w.withHost ((w.host.play 3 (.write [1, 2, 3])).play 3 .close))).any
          (fun w => !(w.host.file 4).isOpen && (w.host.file 4).sent == [1, 2, 3]) = true := by
      decide +kernel
    rw [hw] at hturn
    obtain ⟨w₃, hw₃, hend⟩ := (Option.any_eq_true _ _).mp hturn
    exact ⟨w₃, hw₃, by simpa using hend⟩
  have hclean {host : Host} {s : Stream} (hs : host.file 3 = .stream s) (ho : s.nearOpen = true)
      (hr : s.Reliable) (hp : host.file 4 = .stream .pair) : (w.withHost host).Clean 3 4 :=
    ⟨fun _ => ⟨s, hs, ho, hr⟩, fun _ => ⟨_, hp, rfl, ⟨rfl, rfl, nofun⟩, nofun, rfl, rfl, rfl⟩⟩
  have hfile₁ : host₁.file 3 = .stream ((Move.write [1, 2, 3]).onStream .pair) := by
    rw [Host.file_play, if_pos rfl, hfile]
    rfl
  have hfile₂ : host₂.file 3
      = .stream (Move.close.onStream ((Move.write [1, 2, 3]).onStream .pair)) := by
    rw [Host.file_play, if_pos rfl, hfile₁]
    rfl
  have hother₁ : host₁.file 4 = .stream .pair := by rw [Host.file_play, if_neg (by decide), hfile']
  have hother₂ : host₂.file 4 = .stream .pair := by rw [Host.file_play, if_neg (by decide), hother₁]
  obtain ⟨_, hturn⟩ := exists_of_after hw₃
  have hrun : CleanRun 3 4 { worker := w } { worker := w₃ } := by
    refine .step
      (.step (.step .refl ?_ (.move 3 (.write [1, 2, 3])) nofun) ?_ (.move 3 .close) nofun)
      ?_ (.turn hturn) nofun
    · exact hclean hfile rfl ⟨rfl, rfl, nofun⟩ hfile'
    · exact hclean hfile₁ rfl ⟨rfl, rfl, nofun⟩ hother₁
    · exact hclean hfile₂ rfl ⟨rfl, rfl, nofun⟩ hother₂
  refine ⟨{ worker := w }, { worker := w₃ }, h, hrun, hclosed, hsent, ?_⟩
  rw [← ha, ← hb] at hrun
  have hdelivers := h.clean_close_delivers hs hp hpeer hrun
  rw [ha, hb] at hdelivers
  exact hdelivers.2 hclosed

end Sluice.Site
