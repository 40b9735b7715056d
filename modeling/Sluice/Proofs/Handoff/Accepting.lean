import Sluice.Acceptor.Basic

/-!
# What the acceptor's actions come to

One lemma for each action of the acceptor that returned: what it has made of the acceptor. They are
read backwards from the result, part by part (`Acceptor.of_bind`).
-/

namespace Sluice

/-- An accept call takes its outcome from the backlog, if it gets that far. A call that fails for
want of descriptors leaves the backlog alone, which is why there is no equation for what is left of
it. -/
theorem Listener.of_accept {l l' : Listener} {exhausted : Bool} {result : Except Errno Descriptor}
    (h : l.accept exhausted = (result, l')) :
    (∀ outcome ∈ l'.backlog, outcome ∈ l.backlog)
      ∧ ∀ client, result = .ok client → .ok client ∈ l.backlog := by
  unfold Listener.accept at h
  split at h
  · cases h
    exact ⟨fun _ ho => ho, fun _ hok => by cases hok⟩
  · split at h
    · cases h
      exact ⟨fun _ ho => ho, fun _ hok => by cases hok⟩
    · split at h
      · cases h
        exact ⟨fun _ ho => ho, fun _ hok => by cases hok⟩
      · next outcome rest hbacklog =>
        cases h
        rw [hbacklog]
        exact ⟨fun _ ho => List.mem_cons_of_mem _ ho, fun _ hok => hok ▸ List.mem_cons_self ..⟩

namespace Acceptor

open Handoff

variable {α β : Type} {a a' : Acceptor}

theorem of_bind {x : Act α} {f : α → Act β} {b : β} (h : (x >>= f) a = .ok b a') :
    ∃ v a₁, x a = .ok v a₁ ∧ f v a₁ = .ok b a' := by
  change EStateM.bind x f a = .ok b a' at h
  unfold EStateM.bind at h
  split at h
  · next v a₁ hx => exact ⟨v, a₁, hx, h⟩
  · cases h

theorem of_waitReady {found : List Nat} (h : waitReady a = .ok found a') :
    ∃ ready poller, a.poller.wait a.view = .ok (some ready, poller) ∧ a' = { a with poller } := by
  obtain ⟨_, _, hget, h⟩ := of_bind h
  cases hget
  rcases hwait : a.poller.wait a.view with e | ⟨_ | ready, poller⟩ <;> simp only [hwait] at h <;>
    cases h
  exact ⟨ready, poller, rfl, rfl⟩

theorem of_record {i : Nat} (h : record i a = .ok ⟨⟩ a') :
    a' = { a with counts := a.counts.modify i (· + 1) } := by
  obtain ⟨_, _, hget, h⟩ := of_bind h
  cases hget
  split at h <;> cases h
  rfl

theorem of_create {listeners : List Listener} {channels : List Channel} {settings : Settings}
    {counters : Nat} {exhausted : Bool} {fd : Descriptor} {a : Acceptor}
    (h : create listeners channels settings counters exhausted fd = .ok a) :
    a.listeners = listeners ∧ a.channels = channels ∧ a.next = 0
      ∧ a.counts = List.replicate counters 0 := by
  unfold create at h
  split at h
  · dsimp only at h
    split at h
    · cases h
    · split at h <;> cases h
      exact ⟨rfl, rfl, rfl, rfl⟩
  · cases h

theorem of_handOff {client : Descriptor} (h : handOff client a = .ok ⟨⟩ a') :
    ∃ c, a.nextChannel.write (encode (Int32.ofInt client)) = .ok c
      ∧ (do record a.next; modify rotate : Act Unit) (a.setChannel a.next c) = .ok ⟨⟩ a' := by
  obtain ⟨_, _, hget, h⟩ := of_bind h
  cases hget
  rcases hsend : a.nextChannel.send (Int32.ofInt client) with e | c <;> simp only [hsend] at h
  · cases h
  · obtain ⟨_, _, hset, h⟩ := of_bind h
    cases hset
    exact ⟨c, hsend, h⟩

end Acceptor

end Sluice
