import Mathlib.Data.List.Forall2
import Sluice.Proofs.Cli.Amounts
import Sluice.Proofs.Start.Validated

/-!
# Settings from the command line

Whatever command line is accepted, what is left to go wrong is known beforehand: an address may fail
to resolve, and the error is then that of the first one that does, or the platform may lack the
poller that was asked for. Nothing else that validation looks at can be at fault
(`usable_of_parse`).
-/

namespace Sluice

variable {names : Directory} {text : String} {texts : List String} {e : RelayError}

theorem Settings.Sane.validate_eq {s : Settings} (h : s.Sane) :
    s.validate = if s.backend.available then .ok () else
    .error (.invalidArgument (s.backend.name ++ " poller is not available on this platform")) := by
  rw [validate, h.fault?_eq]
  cases s.backend.available <;> rfl

/-! ## Resolving a list of addresses -/

/-- Of the texts that do not resolve, the first one fails with this error. -/
def FailsFirst (names : Directory) (texts : List String) (e : RelayError) : Prop :=
  ∃ before text after, texts = before ++ text :: after
    ∧ (∀ earlier ∈ before, ∃ found, resolveIn names earlier = .ok found)
    ∧ resolveIn names text = .error e

theorem isUsageError_of_resolveIn (h : resolveIn names text = .error e) :
    e.isUsageError = true := by
  unfold resolveIn at h
  split at h
  · cases h
    rfl
  · split at h <;> cases h
    rfl

theorem resolveAll_eq_ok_iff {found : List Endpoint} : texts.mapM (resolveIn names) = .ok found
    ↔ List.Forall₂ (fun text e => resolveIn names text = .ok e) texts found := by
  induction texts generalizing found with
  | nil => rw [List.mapM_nil, pure_eq_ok_iff, List.forall₂_nil_left_iff]
  | cons text texts ih =>
    simp only [List.mapM_cons, bind_eq_ok_iff, pure_eq_ok_iff, ih]
    constructor
    · rintro ⟨first, hfirst, others, hothers, rfl⟩
      exact .cons hfirst hothers
    · rintro (_ | ⟨hfirst, hothers⟩)
      exact ⟨_, hfirst, _, hothers, rfl⟩

theorem not_failsFirst_nil (e : RelayError) : ¬ FailsFirst names [] e := by
  rintro ⟨before, _, _, hsplit, -⟩
  cases before <;> cases hsplit

theorem failsFirst_cons : FailsFirst names (text :: texts) e
    ↔ resolveIn names text = .error e ∨ ∃ found, resolveIn names text = .ok found
      ∧ FailsFirst names texts e := by
  constructor
  · rintro ⟨before, failing, after, hsplit, hbefore, hfails⟩
    cases before with
    | nil =>
      cases hsplit
      exact Or.inl hfails
    | cons first before =>
      cases hsplit
      obtain ⟨⟨found, hfound⟩, hbefore⟩ := List.forall_mem_cons.mp hbefore
      exact Or.inr ⟨found, hfound, before, failing, after, rfl, hbefore, hfails⟩
  · rintro (hfails | ⟨found, hfound, before, failing, after, rfl, hbefore, hfails⟩)
    · exact ⟨[], text, texts, rfl, nofun, hfails⟩
    · exact ⟨text :: before, failing, after, rfl,
        List.forall_mem_cons.mpr ⟨⟨found, hfound⟩, hbefore⟩, hfails⟩

theorem resolves_iff :
    (∀ text ∈ texts, ∃ found, resolveIn names text = .ok found)
      ↔ ∀ e, ¬ FailsFirst names texts e := by
  induction texts with
  | nil => exact ⟨fun _ => not_failsFirst_nil, fun _ => nofun⟩
  | cons text texts ih =>
    rw [List.forall_mem_cons, ih]
    simp only [failsFirst_cons]
    cases resolveIn names text with
    | error e => simp
    | ok found => simp

theorem resolveAll_eq_error_iff :
    texts.mapM (resolveIn names) = .error e ↔ FailsFirst names texts e := by
  induction texts with
  | nil =>
    constructor
    · intro h
      cases h
    · intro h
      exact absurd h (not_failsFirst_nil e)
  | cons text texts ih =>
    simp only [List.mapM_cons, bind_eq_error_iff, failsFirst_cons, ih, pure_ne_error, and_false,
      exists_false, or_false]

/-! ## The settings of an invocation -/

namespace Cli

open Settings

variable {i : Invocation} {s : Settings} {arguments : List String}

theorem toSettingsIn_eq_ok_iff : i.toSettingsIn names = .ok s ↔ ∃ listen remote,
    List.Forall₂ (fun text e => resolveIn names text = .ok e) i.listen listen
      ∧ resolveIn names i.remote = .ok remote
      ∧ s = { listen, remote, bufferSize := i.bufferSize, noDelay := i.noDelay,
              ioThreads := i.ioThreads, pinThreads := i.pinThreads,
              backend := i.backend.getD .native } := by
  simp only [Invocation.toSettingsIn, resolveEndpointsIn, bind_eq_ok_iff, pure_eq_ok_iff,
    resolveAll_eq_ok_iff]
  constructor
  · rintro ⟨_, ⟨listen, hlisten, remote, hremote, rfl⟩, rfl⟩
    exact ⟨listen, remote, hlisten, hremote, rfl⟩
  · rintro ⟨listen, remote, hlisten, hremote, rfl⟩
    exact ⟨_, ⟨listen, hlisten, remote, hremote, rfl⟩, rfl⟩

theorem toSettingsIn_eq_error_iff :
    i.toSettingsIn names = .error e ↔ FailsFirst names (i.listen ++ [i.remote]) e := by
  simp only [← resolveAll_eq_error_iff, List.mapM_append, List.mapM_cons, List.mapM_nil,
    Invocation.toSettingsIn, resolveEndpointsIn, bind_eq_error_iff, bind_eq_ok_iff, pure_ne_error,
    and_false, exists_false, or_false]

/-- What is validated comes from the uses, and where it does not, from the defaults. -/
theorem sane_of_amounts {uses : List Use} (h : Amounts uses i)
    (hs : i.toSettingsIn names = .ok s) : s.Sane := by
  obtain ⟨listen, remote, hlisten, -, rfl⟩ := toSettingsIn_eq_ok_iff.mp hs
  have hne : listen ≠ [] := by
    rintro rfl
    exact h.listen_ne (List.eq_nil_of_length_eq_zero hlisten.length_eq)
  exact {
    listen := hne
    bufferSize := h.bufferSize.pos (by decide)
    ioThreads := h.ioThreads.pos (by decide)
    maxOpsPerFd := Nat.succ_pos 99
    initialPoolSize := Nat.succ_pos 15 }

/-- A command line that is accepted can be read in one way, with positive numbers. It comes to
settings if its addresses resolve, in the order in which they were given, and to a usage error
otherwise. Settings that it comes to are valid but for a poller that the platform lacks. -/
theorem usable_of_parse (names : Directory) (h : parse arguments = .ok i) :
    (∃ uses, Spells none arguments uses ∧ (∀ others, Spells none arguments others → others = uses)
      ∧ Amounts uses i)
    ∧ 0 < i.bufferSize ∧ 0 < i.ioThreads
    ∧ ((∃ s, i.toSettingsIn names = .ok s)
      ↔ ∀ text ∈ i.listen ++ [i.remote], ∃ found, resolveIn names text = .ok found)
    ∧ (∀ e, i.toSettingsIn names = .error e ↔ FailsFirst names (i.listen ++ [i.remote]) e)
    ∧ (∀ e, i.toSettingsIn names = .error e → e.isUsageError = true)
    ∧ ∀ s, i.toSettingsIn names = .ok s →
      List.Forall₂ (fun text found => resolveIn names text = .ok found) i.listen s.listen
      ∧ resolveIn names i.remote = .ok s.remote
      ∧ s.bufferSize = i.bufferSize ∧ s.ioThreads = i.ioThreads ∧ s.noDelay = i.noDelay
      ∧ s.pinThreads = i.pinThreads
      ∧ s.backend = i.backend.getD .native
      ∧ s.validate = if s.backend = .kqueue
        then .error (.invalidArgument "kqueue poller is not available on this platform")
        else .ok () := by
  obtain ⟨uses, hspells, hamounts⟩ := parse_eq_ok_iff.mp h
  refine ⟨⟨uses, hspells, fun _ => hspells.unique, hamounts⟩, hamounts.bufferSize.pos (by decide),
    hamounts.ioThreads.pos (by decide), ?_, fun e => toSettingsIn_eq_error_iff, fun e he => ?_,
    fun s hs => ?_⟩
  · rw [resolves_iff]
    simp only [← toSettingsIn_eq_error_iff]
    cases i.toSettingsIn names with
    | error e => simp
    | ok s => simp
  · obtain ⟨_, _, _, _, -, hfails⟩ := toSettingsIn_eq_error_iff.mp he
    exact isUsageError_of_resolveIn hfails
  · have hvalid := (sane_of_amounts hamounts hs).validate_eq
    obtain ⟨listen, remote, hlisten, hremote, rfl⟩ := toSettingsIn_eq_ok_iff.mp hs
    refine ⟨hlisten, hremote, rfl, rfl, rfl, rfl, rfl, ?_⟩
    rw [hvalid]
    dsimp only
    cases i.backend.getD .native <;> rfl

/-- A command line with values that are attached or not and letters in a row. -/
def varied : List String :=
  ["-nl127.0.0.1:80", "-r=::1:443", "--poller", "kqueue", "-l", "[::]:0", "-t", "2"]

def variedAsked : Invocation where
  listen := ["127.0.0.1:80", "[::]:0"]
  remote := "::1:443"
  bufferSize := 16384
  noDelay := true
  ioThreads := 2
  pinThreads := false
  verbose := false
  backend := some .kqueue

/-- It is accepted, and its addresses resolve. That the platform lacks the poller is found when the
settings are validated. -/
theorem usable_of_parse_varied :
    parse varied = .ok variedAsked ∧ ∃ s, variedAsked.toSettingsIn .empty = .ok s
    ∧ s.listen.length = 2 ∧ s.ioThreads = 2
    ∧ s.validate = .error (.invalidArgument "kqueue poller is not available on this platform") := by
  have hparse : parse varied = .ok variedAsked := by decide +kernel
  have hok : (variedAsked.toSettingsIn .empty).isOk = true := by decide +kernel
  obtain ⟨-, -, -, -, -, -, husable⟩ := usable_of_parse .empty hparse
  cases hs : variedAsked.toSettingsIn .empty with
  | error e =>
    rw [hs] at hok
    cases hok
  | ok s =>
    obtain ⟨hlisten, -, -, hthreads, -, -, hbackend, hvalidate⟩ := husable s hs
    have hkqueue : s.backend = .kqueue := hbackend
    rw [if_pos hkqueue] at hvalidate
    exact ⟨hparse, s, rfl, hlisten.length_eq.symm, hthreads, hvalidate⟩

end Cli

end Sluice
