import Mathlib.Data.Finmap
import Mathlib.Data.Finset.Card
import Sluice.Readiness.FdTable

/-!
# The tokens as a finite map

The table of tokens answers every run of requests as a finite map from descriptors to tokens does
(`FdTable.answers_of_map`), and lists the keys of that map in ascending order, each once
(`Mirrors`). All of this follows from the look-ups: a table that finds what the map holds has its
size and its keys (`mirrors_of_get`), and one request keeps the look-ups equal (`Mirrors.answer`).
-/

namespace Sluice

/-- A finite map from descriptors to tokens. -/
abbrev TokenMap := Finmap fun _ : Descriptor => Token

namespace FdTable

inductive Request where
  | insert (fd : Descriptor) (token : Token)
  | replace (fd : Descriptor) (token : Token)
  | remove (fd : Descriptor)
  | get (fd : Descriptor)

inductive Answer where
  | done
  | removed (token : Token)
  | looked (token : Option Token)
  | refused (e : PollError)

def settle (t : FdTable) : Except PollError FdTable → Answer × FdTable
  | .ok t' => (.done, t')
  | .error e => (.refused e, t)

def answer (t : FdTable) : Request → Answer × FdTable
  | .insert fd token => t.settle (t.insert fd token)
  | .replace fd token => t.settle (t.replace fd token)
  | .remove fd =>
    match t.remove fd with
    | .ok (token, t') => (.removed token, t')
    | .error e => (.refused e, t)
  | .get fd => (.looked (t.get? fd), t)

def answers {S : Type} (answer : S → Request → Answer × S) (s : S) : List Request → List Answer × S
  | [] => ([], s)
  | r :: rest =>
    let first := answer s r
    let others := answers answer first.2 rest
    (first.1 :: others.1, others.2)

end FdTable

open FdTable

/-- A map answers a request: a new key is entered, a key that is there is replaced or taken out, and
everything else is refused. -/
def TokenMap.answer (m : TokenMap) : Request → Answer × TokenMap
  | .insert fd token =>
    if fd ∈ m then (.refused (.alreadyRegistered fd), m) else (.done, m.insert fd token)
  | .replace fd token =>
    if fd ∈ m then (.done, m.insert fd token) else (.refused (.notRegistered fd), m)
  | .remove fd =>
    match m.lookup fd with
    | some token => (.removed token, m.erase fd)
    | none => (.refused (.notRegistered fd), m)
  | .get fd => (.looked (m.lookup fd), m)

namespace FdTable

variable {t : FdTable} {m : TokenMap} {fd fd' : Descriptor} {token : Token}

/-- The table holds what the map holds, and lists it in order. The map has no order of its own, so
that the order of the list is part of this and not of the map. -/
structure Mirrors (t : FdTable) (m : TokenMap) : Prop where
  get : ∀ fd, t.get? fd = m.lookup fd
  contains : ∀ fd, t.contains fd = true ↔ fd ∈ m
  size : t.size = m.keys.card
  ascending : t.fds.Pairwise (· < ·)
  listed : ∀ fd, fd ∈ t.fds ↔ fd ∈ m

theorem mem_fds_iff : fd ∈ t.fds ↔ t.contains fd = true :=
  (Table.contains_iff_mem_keys t.tokens fd).symm

theorem mirrors_of_get (h : ∀ fd, t.get? fd = m.lookup fd) : t.Mirrors m := by
  have hcontains (fd : Descriptor) : t.contains fd = true ↔ fd ∈ m := by
    rw [← Finmap.lookup_isSome, ← h fd]
    rfl
  have hlisted (fd : Descriptor) : fd ∈ t.fds ↔ fd ∈ m := mem_fds_iff.trans (hcontains fd)
  have hascending : t.fds.Pairwise (· < ·) := Table.keys_pairwise t.tokens
  refine ⟨h, hcontains, ?_, hascending, hlisted⟩
  have hkeys : m.keys = t.fds.toFinset := by
    ext fd
    rw [Finmap.mem_keys, List.mem_toFinset, hlisted]
  have hnodup : t.fds.Nodup := hascending.imp fun hlt => Int.ne_of_lt hlt
  calc t.size = t.fds.length := (Table.length_keys t.tokens).symm
    _ = t.fds.toFinset.card := (List.toFinset_card_of_nodup hnodup).symm
    _ = m.keys.card := by rw [hkeys]

theorem Mirrors.put (h : t.Mirrors m) (fd : Descriptor) (token : Token) :
    Mirrors ⟨t.tokens.insert fd token⟩ (m.insert fd token) := by
  refine mirrors_of_get fun fd' => ?_
  rw [get?, Table.get?_insert]
  split
  · next heq => rw [heq, Finmap.lookup_insert]
  · next hne => exact (h.get fd').trans (Finmap.lookup_insert_of_ne _ hne).symm

theorem Mirrors.erase (h : t.Mirrors m) (fd : Descriptor) :
    Mirrors ⟨t.tokens.erase fd⟩ (m.erase fd) := by
  refine mirrors_of_get fun fd' => ?_
  rw [get?, Table.get?_erase]
  split
  · next heq => rw [heq, Finmap.lookup_erase]
  · next hne => exact (h.get fd').trans (Finmap.lookup_erase_ne hne).symm

/-- One request: the answer is the map's, and the table goes on mirroring it. A request either
changes one key in both or is refused by both. -/
theorem Mirrors.answer (h : t.Mirrors m) (r : Request) :
    (t.answer r).1 = (m.answer r).1 ∧ (t.answer r).2.Mirrors (m.answer r).2 := by
  cases r with
  | insert fd token =>
    by_cases hmem : fd ∈ m
    · simp only [FdTable.answer, FdTable.insert, TokenMap.answer,
        (h.contains fd).mpr hmem, if_pos hmem]
      exact ⟨rfl, h⟩
    · simp only [FdTable.answer, FdTable.insert, TokenMap.answer,
        mt (h.contains fd).mp hmem, if_neg hmem]
      exact ⟨rfl, h.put fd token⟩
  | replace fd token =>
    by_cases hmem : fd ∈ m
    · simp only [FdTable.answer, FdTable.replace, TokenMap.answer,
        (h.contains fd).mpr hmem, if_pos hmem]
      exact ⟨rfl, h.put fd token⟩
    · simp only [FdTable.answer, FdTable.replace, TokenMap.answer,
        mt (h.contains fd).mp hmem, if_neg hmem]
      exact ⟨rfl, h⟩
  | remove fd =>
    simp only [FdTable.answer, FdTable.remove, TokenMap.answer, h.get fd]
    cases m.lookup fd with
    | some token => exact ⟨rfl, h.erase fd⟩
    | none => exact ⟨rfl, h⟩
  | get fd => exact ⟨congrArg Answer.looked (h.get fd), h⟩

theorem Mirrors.answers (h : t.Mirrors m) (rs : List Request) :
    (answers FdTable.answer t rs).1 = (FdTable.answers TokenMap.answer m rs).1
      ∧ (FdTable.answers FdTable.answer t rs).2.Mirrors
        (FdTable.answers TokenMap.answer m rs).2 := by
  induction rs generalizing t m with
  | nil => exact ⟨rfl, h⟩
  | cons r rest ih =>
    obtain ⟨hfirst, hnext⟩ := h.answer r
    obtain ⟨hothers, hlast⟩ := ih hnext
    simp only [FdTable.answers]
    exact ⟨by rw [hfirst, hothers], hlast⟩

theorem settle_of_refused {x : Except PollError FdTable} {e : PollError}
    (h : (t.settle x).1 = .refused e) :
    (t.settle x).2 = t := by
  cases x with
  | ok t' => cases h
  | error e => rfl

theorem answer_of_refused {r : Request} {e : PollError} (h : (t.answer r).1 = .refused e) :
    (t.answer r).2 = t := by
  cases r with
  | insert fd token => exact settle_of_refused h
  | replace fd token => exact settle_of_refused h
  | remove fd =>
    simp only [answer] at h ⊢
    split at h
    · cases h
    · rfl
  | get fd => cases h

/-- Every run of requests to a new table is answered as a finite map answers it, and the table
mirrors the map after it. A request that is refused next leaves the table as it is. -/
theorem answers_of_map (rs : List Request) :
    let table := answers FdTable.answer {} rs
    let map := answers TokenMap.answer ∅ rs
    table.1 = map.1 ∧ table.2.Mirrors map.2
      ∧ ∀ r e, (table.2.answer r).1 = .refused e → (table.2.answer r).2 = table.2 := by
  intro table map
  have hempty : Mirrors {} ∅ := mirrors_of_get fun _ => rfl
  obtain ⟨hsame, hmirrors⟩ := hempty.answers rs
  exact ⟨hsame, hmirrors, fun r e => answer_of_refused⟩

end FdTable

end Sluice
