import Sluice.Address.Numeric
import Sluice.Proofs.Text.Numeral

/-!
# Addresses that are written and read

The text of an internet address is read back as that address (`Ipv4.parse?_chars`,
`Ipv6.parse?_chars`). In version 6 the row of groups before a double colon and the one behind it are
read alike (`Ipv6.readRow_joined`), because a row ends where the text ends or where two colons
follow each other (`Ipv6.Halts`). The groups that are left out are zero, wherever the longest run of
zeros is (`Ipv6.isRun_longestZeros`).
-/

namespace Sluice

variable {α : Type} {c : Char} {s t rest : List Char}

/-! ## Separators -/

theorem readSeparated_first (read : List Char → Option (α × List Char)) (s : List Char) :
    readSeparated c true read s = read s := rfl

theorem readSeparated_cons (read : List Char → Option (α × List Char)) (s : List Char) :
    readSeparated c false read (c :: s) = read s := by
  simp [readSeparated, readChar]

theorem readSeparated_eq_none (read : List Char → Option (α × List Char)) (h : s.head? ≠ some c) :
    readSeparated c false read s = none := by
  cases s with
  | nil => rfl
  | cons d s =>
    have hne : d ≠ c := fun heq => h (congrArg some heq)
    simp [readSeparated, readChar, hne]

/-! ## Version 4 -/

namespace Ipv4

theorem readPart_ofNat (n : UInt8) (hrest : ∀ c ∈ rest.head?, Numeral.isDigit 10 c = false) :
    readPart (Numeral.ofNat 10 n.toNat ++ rest) = some (n, rest) := by
  have hlen : (Numeral.ofNat 10 n.toNat).length ≤ 3 :=
    Numeral.length_ofNat_le (by decide) (by decide) (by have := n.toNat_lt; omega)
  have hhead :
      ¬ ((Numeral.ofNat 10 n.toNat).head? = some '0' ∧ 1 < (Numeral.ofNat 10 n.toNat).length) := by
    rintro ⟨hzero, hlong⟩
    rcases Nat.eq_zero_or_pos n.toNat with h0 | hpos
    · rw [h0] at hlong
      exact absurd hlong (by decide)
    · exact Numeral.head?_ofNat (by decide) (by decide) hpos hzero
  have hlt := n.toNat_lt
  have hne : ¬ (Numeral.ofNat 10 n.toNat = [] ∨ 3 < (Numeral.ofNat 10 n.toNat).length) := by
    rintro (hnil | hlong)
    · exact Numeral.ofNat_ne_nil hnil
    · omega
  rw [readPart, Numeral.span_ofNat (by decide) (by decide) hrest]
  dsimp only
  rw [if_neg hne, if_neg hhead, Numeral.value_ofNat (by decide) (by decide), if_pos hlt]
  simp

theorem read_chars (ip : Ipv4) (hrest : ∀ c ∈ rest.head?, Numeral.isDigit 10 c = false) :
    read (ip.chars ++ rest) = some (ip, rest) := by
  have hdot (s : List Char) : ∀ c ∈ ('.' :: s).head?, Numeral.isDigit 10 c = false := by
    rintro c hc
    obtain rfl := Option.some.inj hc
    decide
  simp only [read, chars, List.append_assoc, List.cons_append, readSeparated_first,
    readPart_ofNat _ (hdot _), Option.bind_eq_bind, Option.bind_some, readSeparated_cons,
    readPart_ofNat _ hrest]
  rfl

theorem parse?_chars (ip : Ipv4) : parse? ip.chars = some ip := by
  have hread : read (ip.chars ++ []) = some (ip, []) := ip.read_chars nofun
  rw [List.append_nil] at hread
  rw [parse?, hread]

theorem rest_of_readPart {n : UInt8} (h : readPart s = some (n, rest)) :
    rest = s.dropWhile (Numeral.isDigit 10) := by
  unfold readPart at h
  dsimp only at h
  split at h
  · cases h
  · split at h
    · cases h
    · split at h
      · exact (Prod.mk.inj (Option.some.inj h)).2.symm
      · cases h

/-- Where something else than a dot follows the first digits, hexadecimal ones included, there is no
address of version 4. -/
theorem read_eq_none (h : (s.dropWhile (Numeral.isDigit 16)).head? ≠ some '.') : read s = none := by
  unfold read
  rw [readSeparated_first]
  cases hpart : readPart s with
  | none => rfl
  | some r =>
    obtain ⟨a, t⟩ := r
    have ht := rest_of_readPart hpart
    have hdot : t.head? ≠ some '.' := by
      intro hhead
      refine h ?_
      have hdigits : ∀ c ∈ s.takeWhile (Numeral.isDigit 10), Numeral.isDigit 16 c = true := by
        intro c hc
        have hten := List.all_eq_true.mp List.all_takeWhile c hc
        exact Numeral.isDigit_mono (by decide) hten
      rw [← List.takeWhile_append_dropWhile (p := Numeral.isDigit 10) (l := s),
        List.dropWhile_append_of_pos hdigits, ← ht]
      cases t with
      | nil => cases hhead
      | cons c t =>
        obtain rfl := Option.some.inj hhead
        rfl
    simp only [Option.bind_eq_bind, Option.bind_some, readSeparated_eq_none readPart hdot,
      Option.bind_none]

end Ipv4

/-! ## Rows of groups -/

namespace Ipv6

variable {g : UInt16} {gs hs : List UInt16} {limit : Nat}

/-- The text ends here, or two colons follow each other. These are the two places where a row of
groups stops without an error, the second one because zeros are left out there. -/
def Halts (s : List Char) : Prop :=
  s = [] ∨ ∃ t, s = ':' :: ':' :: t

def preceded (gs : List UInt16) : List Char :=
  gs.flatMap fun g => ':' :: Numeral.ofNat 16 g.toNat

theorem joined_cons (g : UInt16) (gs : List UInt16) :
    joined (g :: gs) = Numeral.ofNat 16 g.toNat ++ preceded gs := by
  induction gs generalizing g with
  | nil => simp [joined, preceded]
  | cons h hs ih => simp [joined, preceded, ih h]

theorem head?_preceded (gs : List UInt16) (h : Halts rest) :
    ∀ c ∈ (preceded gs ++ rest).head?, c = ':' := by
  intro c hc
  cases gs with
  | nil =>
    rcases h with rfl | ⟨t, rfl⟩
    · cases hc
    · exact (Option.some.inj hc).symm
  | cons g gs => exact (Option.some.inj hc).symm

theorem readGroup_ofNat (g : UInt16) (hrest : ∀ c ∈ rest.head?, c = ':') :
    readGroup (Numeral.ofNat 16 g.toNat ++ rest) = some (g, rest) := by
  have hlt := g.toNat_lt
  have hlen : (Numeral.ofNat 16 g.toNat).length ≤ 4 :=
    Numeral.length_ofNat_le (by decide) (by decide) hlt
  have hne : ¬ (Numeral.ofNat 16 g.toNat = [] ∨ 4 < (Numeral.ofNat 16 g.toNat).length) := by
    rintro (hnil | hlong)
    · exact Numeral.ofNat_ne_nil hnil
    · omega
  have hcolon : ∀ c ∈ rest.head?, Numeral.isDigit 16 c = false := by
    intro c hc
    rw [hrest c hc]
    decide
  rw [readGroup, Numeral.span_ofNat (by decide) (by decide) hcolon]
  dsimp only
  rw [if_neg hne, Numeral.value_ofNat (by decide) (by decide)]
  simp

/-- A group is not the first part of a dotted form. The reader tries the dotted form before the
group, and it could be misled by a group of decimal digits, but no dot follows it. -/
theorem readV4_ofNat (g : UInt16) (hrest : ∀ c ∈ rest.head?, c = ':') :
    Ipv4.read (Numeral.ofNat 16 g.toNat ++ rest) = none := by
  refine Ipv4.read_eq_none ?_
  rw [List.dropWhile_append_of_pos (Numeral.isDigit_ofNat (by decide) (by decide) g.toNat)]
  cases rest with
  | nil => exact nofun
  | cons c rest =>
    obtain rfl := hrest c rfl
    have hcolon : Numeral.isDigit 16 ':' = false := by decide
    simp [hcolon]

theorem readV4_colon (s : List Char) : Ipv4.read (':' :: s) = none := by
  refine Ipv4.read_eq_none ?_
  have hcolon : Numeral.isDigit 16 ':' = false := by decide
  simp [hcolon]

theorem readGroup_colon (s : List Char) : readGroup (':' :: s) = none := by
  have hcolon : Numeral.isDigit 16 ':' = false := by decide
  simp [readGroup, Numeral.span, hcolon]

/-- A row ends where the text halts: neither reader accepts the end of the text or a second colon,
behind a separator or at the very beginning. -/
theorem readRow_halts (first : Bool) (limit : Nat) (h : Halts rest) :
    readRow first limit rest = ⟨[], false, rest⟩ := by
  have hnone : readSeparated ':' first Ipv4.read rest = none
      ∧ readSeparated ':' first readGroup rest = none := by
    rcases h with rfl | ⟨t, rfl⟩
    · cases first <;> exact ⟨rfl, rfl⟩
    · cases first
      · rw [readSeparated_cons, readSeparated_cons]
        exact ⟨readV4_colon t, readGroup_colon t⟩
      · exact ⟨readV4_colon (':' :: t), readGroup_colon (':' :: t)⟩
  cases limit with
  | zero => rfl
  | succ limit =>
    simp only [readRow, hnone.1, hnone.2, ite_self]

theorem readRow_preceded (hlen : gs.length ≤ limit) (h : Halts rest) :
    readRow false limit (preceded gs ++ rest) = ⟨gs, false, rest⟩ := by
  induction gs generalizing limit with
  | nil => exact readRow_halts false limit h
  | cons g gs ih =>
    obtain ⟨limit, rfl⟩ : ∃ l, limit = l + 1 :=
      Nat.exists_eq_succ_of_ne_zero (by rintro rfl; cases hlen)
    have hhead := head?_preceded gs h
    have htext : preceded (g :: gs) ++ rest
        = ':' :: (Numeral.ofNat 16 g.toNat ++ (preceded gs ++ rest)) := by
      simp [preceded]
    rw [htext, readRow, readSeparated_cons, readSeparated_cons, readV4_ofNat g hhead,
      readGroup_ofNat g hhead, ite_self]
    simp only [ih (Nat.le_of_succ_le_succ hlen)]

theorem readRow_joined (hlen : gs.length ≤ limit) (h : Halts rest) :
    readRow true limit (joined gs ++ rest) = ⟨gs, false, rest⟩ := by
  cases gs with
  | nil => exact readRow_halts true limit h
  | cons g gs =>
    obtain ⟨limit, rfl⟩ : ∃ l, limit = l + 1 :=
      Nat.exists_eq_succ_of_ne_zero (by rintro rfl; cases hlen)
    have hhead := head?_preceded gs h
    rw [joined_cons, List.append_assoc, readRow, readSeparated_first, readSeparated_first,
      readV4_ofNat g hhead, readGroup_ofNat g hhead, ite_self]
    simp only [readRow_preceded (Nat.le_of_succ_le_succ hlen) h]

/-! ## Runs of zeros -/

/-- The run is one of zeros in `gs`. -/
def IsRun (gs : List UInt16) (r : Run) : Prop :=
  ∃ before after, gs = before ++ List.replicate r.length 0 ++ after ∧ before.length = r.start

/-- The run is one of zeros at the end of `gs`; an empty one may say that it begins anywhere. -/
def EndsIn (gs : List UInt16) (r : Run) : Prop :=
  ∃ before, gs = before ++ List.replicate r.length 0 ∧ (0 < r.length → before.length = r.start)

theorem IsRun.append {r : Run} (h : IsRun gs r) (hs : List UInt16) : IsRun (gs ++ hs) r := by
  obtain ⟨before, after, rfl, hstart⟩ := h
  exact ⟨before, after ++ hs, by rw [List.append_assoc], hstart⟩

theorem IsRun.split {r : Run} (h : IsRun gs r) :
    gs = gs.take r.start ++ List.replicate r.length 0 ++ gs.drop (r.start + r.length) := by
  obtain ⟨before, after, rfl, hstart⟩ := h
  have hskip : (before ++ List.replicate r.length 0).length = r.start + r.length := by
    rw [List.length_append, List.length_replicate, hstart]
  rw [← hskip, List.drop_left, ← hstart, List.append_assoc, List.take_left, List.append_assoc]

/-- While the groups behind `gs` are looked through, `current` is a run of zeros at the end of `gs`,
and `best` is one somewhere in it. The induction is on what is still to come, for every `gs` before
it. -/
theorem isRun_longestZeros_from {current best : Run} (hcurrent : EndsIn gs current)
    (hbest : IsRun gs best) : IsRun (gs ++ hs) (longestZeros gs.length current best hs) := by
  induction hs generalizing gs current best with
  | nil =>
    rw [List.append_nil]
    exact hbest
  | cons g hs ih =>
    have hsplit : gs ++ g :: hs = gs ++ [g] ++ hs := by
      rw [List.append_assoc, List.singleton_append]
    have hlen : gs.length + 1 = (gs ++ [g]).length := by
      rw [List.length_append, List.length_singleton]
    obtain ⟨before, hgs, hstart⟩ := hcurrent
    rw [longestZeros, hsplit, hlen]
    split
    · next hzero =>
      subst hzero
      dsimp only
      generalize hlonger : (if current.length = 0 then ⟨gs.length, 1⟩
        else ⟨current.start, current.length + 1⟩ : Run) = longer
      -- the run at the end is longer by one, or begins here
      obtain ⟨before', hgs', hstart'⟩ :
          ∃ before, gs ++ [0] = before ++ List.replicate longer.length 0
          ∧ before.length = longer.start := by
        subst hlonger
        split
        · exact ⟨gs, rfl, rfl⟩
        · refine ⟨before, ?_, hstart (by omega)⟩
          rw [List.replicate_succ', ← List.append_assoc, ← hgs]
      refine ih ⟨before', hgs', fun _ => hstart'⟩ ?_
      split
      · exact ⟨before', [], by rw [List.append_nil]; exact hgs', hstart'⟩
      · exact hbest.append [0]
    · refine ih ⟨gs ++ [g], ?_, fun h => absurd h (Nat.lt_irrefl 0)⟩ (hbest.append [g])
      rw [List.replicate_zero, List.append_nil]

theorem isRun_longestZeros (gs : List UInt16) : IsRun gs (longestZeros 0 ⟨0, 0⟩ ⟨0, 0⟩ gs) := by
  have hnone : IsRun [] ⟨0, 0⟩ := ⟨[], [], rfl, rfl⟩
  have hends : EndsIn [] ⟨0, 0⟩ := ⟨[], rfl, fun _ => rfl⟩
  exact isRun_longestZeros_from hends hnone

/-! ## Version 6 -/

theorem ext_groups {ip ip' : Ipv6} (h : ip.groups = ip'.groups) : ip = ip' := by
  cases ip
  cases ip'
  cases h
  rfl

theorem read_full (h : readRow true 8 s = ⟨gs, false, rest⟩) (hlen : gs.length = 8) :
    ∃ ip, read s = some (ip, rest) ∧ ip.groups = gs := by
  have hgroups : (readRow true 8 s).groups = gs := congrArg Row.groups h
  have hrest : (readRow true 8 s).rest = rest := congrArg Row.rest h
  have hfull : (readRow true 8 s).groups.length = 8 := by rw [hgroups, hlen]
  refine ⟨⟨(readRow true 8 s).groups, hfull⟩, ?_, hgroups⟩
  rw [read]
  dsimp only
  rw [dif_pos hfull, hrest]

/-- A double colon stands for zeros between the groups before it and those behind it. The row behind
it may be one group shorter than there is room for, since the colons stand for at least one. -/
theorem read_spread {dotted : Bool} (h : readRow true 8 s = ⟨gs, false, ':' :: ':' :: t⟩)
    (hlen : gs.length < 8)
    (htail : readRow true (7 - gs.length) t = ⟨hs, dotted, rest⟩) :
    ∃ ip, read s = some (ip, rest)
      ∧ ip.groups = gs ++ List.replicate (8 - (gs.length + hs.length)) 0 ++ hs := by
  have hgroups : (readRow true 8 s).groups = gs := congrArg Row.groups h
  have hplain : ¬ (readRow true 8 s).dotted = true := by
    rw [h]
    exact Bool.false_ne_true
  have hcolons : (readChar ':' (readRow true 8 s).rest).bind (readChar ':') = some t := by
    rw [h]
    simp [readChar]
  rw [← hgroups] at htail
  rw [read]
  dsimp only
  rw [dif_neg (by rw [hgroups]; omega), if_neg hplain]
  split
  · next hnone =>
    rw [hcolons] at hnone
    cases hnone
  · next t' hsome =>
    rw [hcolons] at hsome
    obtain rfl := Option.some.inj hsome
    have hrest := congrArg Row.rest htail
    have hbehind := congrArg Row.groups htail
    refine ⟨_, congrArg (fun r => some (_, r)) hrest, ?_⟩
    simp only [spread]
    rw [hbehind, hgroups]

theorem groups_of_mapped {ip : Ipv6} {v4 : Ipv4} (h : ip.mapped? = some v4) :
    ip.groups = [0, 0, 0, 0, 0, 0xffff] ++ v4.groups := by
  unfold mapped? at h
  split at h
  · next hi lo hgroups =>
    have hpair (n : UInt16) : (n / 256).toUInt8.toUInt16 * 256 + n.toUInt8.toUInt16 = n := by
      apply UInt16.toNat_inj.mp
      have hlt := n.toNat_lt
      simp
      omega
    cases h
    rw [hgroups, Ipv4.groups]
    dsimp only
    rw [hpair, hpair]
    rfl
  · cases h

/-- The groups of a mapped address behind its zeros. -/
theorem readRow_mapped (v4 : Ipv4) :
    readRow true 7 ("ffff:".toList ++ v4.chars) = ⟨0xffff :: v4.groups, true, []⟩ := by
  have hdigits : Numeral.ofNat 16 (0xffff : UInt16).toNat = ['f', 'f', 'f', 'f'] := rfl
  have htext : "ffff:".toList ++ v4.chars = Numeral.ofNat 16 (0xffff : UInt16).toNat
      ++ ':' :: v4.chars := by
    rw [hdigits]
    rfl
  have hhead : ∀ c ∈ (':' :: v4.chars).head?, c = ':' := fun c hc => (Option.some.inj hc).symm
  have hread : Ipv4.read (v4.chars ++ []) = some (v4, []) := v4.read_chars nofun
  rw [List.append_nil] at hread
  have hdotted : readRow false 6 (':' :: v4.chars) = ⟨v4.groups, true, []⟩ := by
    rw [readRow, readSeparated_cons, hread]
    rfl
  rw [htext, readRow, readSeparated_first, readSeparated_first, readV4_ofNat _ hhead,
    readGroup_ofNat _ hhead, ite_self]
  simp only [hdotted]

/-- Two rows with a double colon between them are an address, if they leave room for zeros. This is
the text of every address with a run of zeros that is left out, wherever the run stands. -/
theorem read_shortened (hroom : gs.length + hs.length < 8) :
    ∃ ip, read (joined gs ++ "::".toList ++ joined hs) = some (ip, [])
      ∧ ip.groups = gs ++ List.replicate (8 - (gs.length + hs.length)) 0 ++ hs
      ∧ (readRow true 8 (joined gs ++ "::".toList ++ joined hs)).dotted = false := by
  have htext : joined gs ++ "::".toList ++ joined hs = joined gs ++ ':' :: ':' :: joined hs := by
    rw [List.append_assoc]
    rfl
  have hrow : readRow true 8 (joined gs ++ ':' :: ':' :: joined hs)
      = ⟨gs, false, ':' :: ':' :: joined hs⟩ :=
    readRow_joined (by omega) (Or.inr ⟨_, rfl⟩)
  have htail : readRow true (7 - gs.length) (joined hs ++ []) = ⟨hs, false, []⟩ :=
    readRow_joined (by omega) (Or.inl rfl)
  rw [List.append_nil] at htail
  obtain ⟨ip, hread, hgroups⟩ := read_spread hrow (by omega) htail
  rw [htext]
  exact ⟨ip, hread, hgroups, by rw [hrow]⟩

/-- The text of an address is read back, whatever of it is left out. It does not begin in dotted
form. -/
theorem read_chars (ip : Ipv6) :
    read ip.chars = some (ip, []) ∧ (readRow true 8 ip.chars).dotted = false := by
  have hlen := ip.length_groups
  obtain ⟨ip', hread, hgroups, hplain⟩ : ∃ ip', read ip.chars = some (ip', [])
      ∧ ip'.groups = ip.groups
      ∧ (readRow true 8 ip.chars).dotted = false := by
    cases hmapped : ip.mapped? with
    | some v4 =>
      have htext : ip.chars = ':' :: ':' :: ("ffff:".toList ++ v4.chars) := by
        rw [chars, hmapped]
        rfl
      have hrow := readRow_halts true 8 (Or.inr ⟨"ffff:".toList ++ v4.chars, rfl⟩)
      obtain ⟨ip', hread, hgroups⟩ := read_spread hrow (by decide) (readRow_mapped v4)
      rw [htext]
      refine ⟨ip', hread, ?_, by rw [hrow]⟩
      rw [hgroups, groups_of_mapped hmapped]
      rfl
    | none =>
      rw [chars, hmapped]
      dsimp only
      generalize hzeros : longestZeros 0 ⟨0, 0⟩ ⟨0, 0⟩ ip.groups = zeros
      split
      · next hrun =>
        have hsplit := (hzeros ▸ isRun_longestZeros ip.groups : IsRun ip.groups zeros).split
        generalize ip.groups.take zeros.start = before at hsplit ⊢
        generalize ip.groups.drop (zeros.start + zeros.length) = after at hsplit ⊢
        have hsum : before.length + zeros.length + after.length = 8 := by
          rw [← hlen, hsplit, List.length_append, List.length_append, List.length_replicate]
        obtain ⟨ip', hread, hgroups, hplain⟩ :=
          read_shortened (show before.length + after.length < 8 by omega)
        refine ⟨ip', hread, ?_, hplain⟩
        rw [hgroups, hsplit, show 8 - (before.length + after.length) = zeros.length by omega]
      · have hrow : readRow true 8 (joined ip.groups ++ []) = ⟨ip.groups, false, []⟩ :=
          readRow_joined (Nat.le_of_eq hlen) (Or.inl rfl)
        rw [List.append_nil] at hrow
        obtain ⟨ip', hread, hgroups⟩ := read_full hrow hlen
        exact ⟨ip', hread, hgroups, by rw [hrow]⟩
  rw [ext_groups hgroups] at hread
  exact ⟨hread, hplain⟩

theorem parse?_chars (ip : Ipv6) : parse? ip.chars = some ip := by
  rw [parse?, (read_chars ip).1]

/-- The text of an address of version 6 is none of version 4, which is tried first. This is what the
second part of `read_chars` is for: a dotted form at the beginning would have been read as one. -/
theorem parseV4_chars (ip : Ipv6) : Ipv4.parse? ip.chars = none := by
  have hplain := (read_chars ip).2
  rw [Ipv4.parse?]
  cases hread : Ipv4.read ip.chars with
  | none => rfl
  | some r =>
    rw [readRow, readSeparated_first, hread] at hplain
    simp at hplain

end Ipv6

/-! ## Characters -/

def addressChar (c : Char) : Bool :=
  Numeral.isDigit 16 c || c == ':' || c == '.'

theorem addressChar_ofNat {base : Nat} (hbase : 1 < base) (hle : base ≤ 16) (n : Nat) :
    ∀ c ∈ Numeral.ofNat base n, addressChar c = true := by
  intro c hc
  have hdigit := Numeral.isDigit_mono hle (Numeral.isDigit_ofNat hbase hle n c hc)
  simp [addressChar, hdigit]

theorem Ipv4.addressChar_chars (ip : Ipv4) : ∀ c ∈ ip.chars, addressChar c = true := by
  have hpart (n : UInt8) := addressChar_ofNat (by decide) (by decide : 10 ≤ 16) n.toNat
  have hdot : addressChar '.' = true := by decide
  simp only [chars, List.forall_mem_append, List.forall_mem_cons]
  exact ⟨⟨⟨hpart _, hdot, hpart _⟩, hdot, hpart _⟩, hdot, hpart _⟩

theorem Ipv6.addressChar_joined (gs : List UInt16) : ∀ c ∈ joined gs, addressChar c = true := by
  have hgroup (g : UInt16) := addressChar_ofNat (by decide) (by decide : 16 ≤ 16) g.toNat
  have hcolon : addressChar ':' = true := by decide
  cases gs with
  | nil => exact nofun
  | cons g gs =>
    rw [joined_cons, List.forall_mem_append]
    refine ⟨hgroup g, fun c hc => ?_⟩
    obtain ⟨g', -, hc⟩ := List.mem_flatMap.mp hc
    rcases List.mem_cons.mp hc with rfl | hc
    · exact hcolon
    · exact hgroup g' c hc

theorem Ipv6.addressChar_chars (ip : Ipv6) : ∀ c ∈ ip.chars, addressChar c = true := by
  have hmapped : "::ffff:".toList.all addressChar = true := by decide
  have hcolons : "::".toList.all addressChar = true := by decide
  rw [chars]
  split
  · next v4 _ =>
    rw [List.forall_mem_append]
    exact ⟨List.all_eq_true.mp hmapped, v4.addressChar_chars⟩
  · dsimp only
    split
    · simp only [List.forall_mem_append]
      exact ⟨⟨addressChar_joined _, List.all_eq_true.mp hcolons⟩, addressChar_joined _⟩
    · exact addressChar_joined _

end Sluice
