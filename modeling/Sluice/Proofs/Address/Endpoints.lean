import Sluice.Address.Resolve
import Sluice.Proofs.Address.Literals

/-!
# What is taken for an endpoint

A text places a host and a port when its last colon stands between them (`Target.Places`), and it is
malformed when it does not (`Target.Malformed`). The reader takes apart the one kind and refuses the
other (`Target.ofText?_eq_some_iff`, `Target.ofText?_eq_none_iff`), so that an argument is invalid
exactly when it is malformed; a host that is well placed is found with its port or fails to resolve
(`Endpoint.resolved_of_syntax`).

Printing an endpoint and resolving the text gives the endpoint back (`Endpoint.resolved_of_text`).
-/

namespace Sluice

variable {names : Directory} {host s before after : List Char} {c : Char} {n : Nat}
  {port : UInt16} {t : Target}
  {e : Endpoint} {input : String}

namespace Target

/-! ## The last colon -/

theorem takeWhile_reverse (h : c ∉ after) (s : List Char) :
    (after.reverse ++ s).takeWhile (· != c) = after.reverse ++ s.takeWhile (· != c) := by
  refine List.takeWhile_append_of_pos fun d hd => ?_
  rw [bne_iff_ne]
  rintro rfl
  exact h (List.mem_reverse.mp hd)

theorem splitAtLast_append (before : List Char) (h : c ∉ after) :
    splitAtLast c (before ++ c :: after) = some (before, after) := by
  have hreverse : (before ++ c :: after).reverse = after.reverse ++ c :: before.reverse := by simp
  have hafter : ((before ++ c :: after).reverse.takeWhile (· != c)).reverse = after := by
    rw [hreverse, takeWhile_reverse h]
    simp
  have hlen : (before ++ c :: after).length = before.length + (after.length + 1) := by simp
  rw [splitAtLast, hafter, if_pos (by omega), hlen,
    show before.length + (after.length + 1) - after.length - 1 = before.length by omega,
        List.take_left]

theorem splitAtLast_of_not_mem (h : c ∉ s) : splitAtLast c s = none := by
  have hall := takeWhile_reverse h []
  rw [List.append_nil, List.takeWhile_nil, List.append_nil] at hall
  rw [splitAtLast, hall, List.reverse_reverse, if_neg (Nat.lt_irrefl _)]

theorem exists_last (h : c ∈ s) : ∃ before after, s = before ++ c :: after ∧ c ∉ after := by
  obtain ⟨as, bs, hsplit, hfirst⟩ := List.eq_append_cons_of_mem (List.mem_reverse.mpr h)
  refine ⟨bs.reverse, as.reverse, ?_, fun hmem => hfirst (List.mem_reverse.mp hmem)⟩
  rw [← List.reverse_reverse s, hsplit]
  simp

/-! ## Brackets -/

/-- The host is what stands between brackets, if both are there, and the whole text otherwise. A
bracket without its partner is a character of the host, which is why `plain` asks for no more than
that the first case does not apply. -/
inductive Bares : List Char → List Char → Prop
  | bracketed (host : List Char) : Bares ('[' :: (host ++ [']'])) host
  | plain {host : List Char} (h : ∀ inner, host ≠ '[' :: (inner ++ [']'])) : Bares host host

theorem bares_iff : Bares before host ↔ unbracketed before = host := by
  constructor
  · intro h
    cases h with
    | bracketed => simp [unbracketed]
    | plain hplain =>
      unfold unbracketed
      split
      · next rest =>
        split
        · next hlast =>
          obtain ⟨inner, rfl⟩ := List.getLast?_eq_some_iff.mp hlast
          exact absurd rfl (hplain inner)
        · rfl
      · rfl
  · rintro rfl
    unfold unbracketed
    split
    · next rest =>
      split
      · next hlast =>
        obtain ⟨inner, rfl⟩ := List.getLast?_eq_some_iff.mp hlast
        rw [List.dropLast_concat]
        exact .bracketed inner
      · next hlast =>
        refine .plain fun inner heq => hlast ?_
        rw [(List.cons.inj heq).2, List.getLast?_concat]
    · next hhead =>
      refine .plain fun inner heq => ?_
      exact hhead _ heq

/-! ## Ports -/

/-- The text is a port: decimal digits, after an optional plus sign, whose value fits into 16
bits. -/
def PortText (s : List Char) (n : Nat) : Prop :=
  ∃ digits, (s = digits ∨ s = '+' :: digits) ∧ digits ≠ [] ∧ (∀ c ∈ digits, c.isDigit = true)
    ∧ Nat.ofDigitChars 10 digits 0 = n ∧ n ≤ 65535

theorem portText_iff : PortText s n ↔ Numeral.unsigned? s = some n ∧ n ≤ 65535 := by
  rw [Numeral.unsigned?_eq_some_iff, PortText]
  constructor
  · rintro ⟨digits, htext, hne, hdigits, hvalue, hle⟩
    exact ⟨⟨digits, htext, hne, hdigits, hvalue⟩, hle⟩
  · rintro ⟨⟨digits, htext, hne, hdigits, hvalue⟩, hle⟩
    exact ⟨digits, htext, hne, hdigits, hvalue, hle⟩

theorem port?_eq_some_iff : port? s = some port ↔ PortText s port.toNat := by
  have hlt := port.toNat_lt
  rw [portText_iff, port?]
  constructor
  · intro h
    split at h
    · next n hread =>
      split at h
      · next hsmall =>
        have hn : n.toUInt16 = port := Option.some.inj h
        have hvalue : port.toNat = n := by
          rw [← hn]
          simp
          omega
        exact ⟨by rw [hread, hvalue], by omega⟩
      · cases h
    · cases h
  · rintro ⟨hread, -⟩
    have hsmall : port.toNat < 1 <<< 16 := hlt
    rw [hread]
    dsimp only
    rw [if_pos hsmall]
    simp

theorem port?_eq_none_iff : port? s = none ↔ ∀ n, ¬ PortText s n := by
  constructor
  · intro h n hn
    have hle : n ≤ 65535 := (portText_iff.mp hn).2
    have hvalue : n.toUInt16.toNat = n := by
      simp
      omega
    rw [← hvalue, ← port?_eq_some_iff, h] at hn
    cases hn
  · intro h
    cases hport : port? s with
    | none => rfl
    | some port => exact absurd (port?_eq_some_iff.mp hport) (h _)

/-! ## Hosts and ports -/

/-- The text has the host and the port on both sides of its last colon: an address of version 6
keeps its own colons, whether it is written in brackets or not. -/
def Places (s host : List Char) (n : Nat) : Prop :=
  ∃ before after, s = before ++ ':' :: after ∧ ':' ∉ after ∧ Bares before host ∧ host ≠ []
    ∧ PortText after n

/-- The text has no colon, or there is no host before the last one or no port behind it. -/
def Malformed (s : List Char) : Prop :=
  ':' ∉ s ∨ ∃ before after, s = before ++ ':' :: after ∧ ':' ∉ after
    ∧ (Bares before [] ∨ ∀ n, ¬ PortText after n)

theorem ofText?_append (before : List Char) (h : ':' ∉ after) : ofText? (before ++ ':' :: after)
    = if unbracketed before = [] then none else (port? after).map (⟨unbracketed before, ·⟩) := by
  rw [ofText?, splitAtLast_append before h]
  dsimp only [Option.bind_eq_bind, Option.bind_some]
  split
  · rfl
  · cases port? after <;> rfl

theorem ofText?_eq_some_iff : ofText? s = some t ↔ Places s t.host t.port.toNat := by
  constructor
  · intro h
    by_cases hcolon : ':' ∈ s
    · obtain ⟨before, after, rfl, hlast⟩ := exists_last hcolon
      rw [ofText?_append before hlast] at h
      split at h
      · cases h
      · next hhost =>
        obtain ⟨port, hport, rfl⟩ := Option.map_eq_some_iff.mp h
        exact ⟨before, after, rfl, hlast, bares_iff.mpr rfl, hhost, port?_eq_some_iff.mp hport⟩
    · rw [ofText?, splitAtLast_of_not_mem hcolon] at h
      cases h
  · rintro ⟨before, after, rfl, hlast, hbares, hhost, hport⟩
    rw [ofText?_append before hlast, bares_iff.mp hbares, if_neg hhost, port?_eq_some_iff.mpr hport]
    rfl

theorem ofText?_eq_none_iff : ofText? s = none ↔ Malformed s := by
  constructor
  · intro h
    by_cases hcolon : ':' ∈ s
    · obtain ⟨before, after, rfl, hlast⟩ := exists_last hcolon
      refine Or.inr ⟨before, after, rfl, hlast, ?_⟩
      rw [ofText?_append before hlast] at h
      split at h
      · next hhost => exact Or.inl (bares_iff.mpr hhost)
      · exact Or.inr (port?_eq_none_iff.mp (Option.map_eq_none_iff.mp h))
    · exact Or.inl hcolon
  · rintro (hcolon | ⟨before, after, rfl, hlast, hhost | hport⟩)
    · rw [ofText?, splitAtLast_of_not_mem hcolon]
      rfl
    · rw [ofText?_append before hlast, if_pos (bares_iff.mp hhost)]
    · rw [ofText?_append before hlast, port?_eq_none_iff.mpr hport, Option.map_none, ite_self]

-- a host in one bracket only is a host, and a plus sign is one, but nothing between brackets is
-- none
example : ["[::1]", "[:80", "[]:1", "+:1"].map (fun s => (ofText? s.toList).isSome)
    = [false, true, false, true] := by
  decide

theorem malformed_or_places (s : List Char) : Malformed s ∨ ∃ host n, Places s host n := by
  cases htext : ofText? s with
  | none => exact Or.inl (ofText?_eq_none_iff.mp htext)
  | some t => exact Or.inr ⟨_, _, ofText?_eq_some_iff.mp htext⟩

end Target

/-! ## Finding an endpoint -/

namespace Endpoint

open Target

theorem port_withPort (port : UInt16) (e : Endpoint) : (e.withPort port).port = port := by
  cases e <;> rfl

theorem port_ofNumericHost (h : ofNumericHost? host port = some e) : e.port = port := by
  simp only [ofNumericHost?, Option.or_eq_some_iff, Option.map_eq_some_iff] at h
  rcases h with ⟨ip, -, rfl⟩ | ⟨-, ⟨ip, -, rfl⟩ | ⟨-, ⟨ip, -, rfl⟩ | ⟨-, r, -, rfl⟩⟩⟩ <;> rfl

theorem port_lookUp (h : t.lookUp names = .ok e) : e.port = t.port := by
  unfold lookUp at h
  split at h
  · cases h
  · split at h
    · next found hnumeric =>
      obtain rfl := Except.ok.inj h
      exact port_ofNumericHost hnumeric
    · split at h
      · next found others _ =>
        obtain rfl := Except.ok.inj h
        exact port_withPort t.port found
      · cases h
      · cases h

theorem resolveIn_of_malformed (names : Directory) (h : Malformed input.toList) :
    ∃ reason, resolveIn names input = .error (.invalidArgument reason) := by
  rw [resolveIn, ofText?_eq_none_iff.mpr h]
  exact ⟨_, rfl⟩

theorem resolveIn_of_places (names : Directory) (h : Places input.toList host n) :
    (∃ e, resolveIn names input = .ok e ∧ e.port.toNat = n)
      ∨ ∃ reason, resolveIn names input = .error (.resolve input reason) := by
  obtain ⟨t, rfl, rfl⟩ : ∃ t : Target, t.host = host ∧ t.port.toNat = n := by
    obtain ⟨_, _, _, _, _, _, hport⟩ := h
    have hle : n ≤ 65535 := (portText_iff.mp hport).2
    refine ⟨⟨host, n.toUInt16⟩, rfl, ?_⟩
    simp
    omega
  rw [resolveIn, ofText?_eq_some_iff.mpr h]
  dsimp only
  split
  · next e hfound => exact Or.inl ⟨e, rfl, congrArg UInt16.toNat (port_lookUp hfound)⟩
  · next reason _ => exact Or.inr ⟨reason, rfl⟩

/-- An argument is invalid exactly when it is malformed. Otherwise it has a host and a port, and
resolving it either comes to an endpoint with this port or fails to resolve. -/
theorem resolved_of_syntax (names : Directory) (input : String) :
    ((∃ reason, resolveIn names input = .error (.invalidArgument reason)) ↔ Malformed input.toList)
      ∧ (Malformed input.toList ∨ ∃ host n, Places input.toList host n
        ∧ ((∃ e, resolveIn names input = .ok e ∧ e.port.toNat = n)
          ∨ ∃ reason, resolveIn names input = .error (.resolve input reason))) := by
  rcases malformed_or_places input.toList with hbad | ⟨host, n, hplaces⟩
  · exact ⟨⟨fun _ => hbad, resolveIn_of_malformed names⟩, Or.inl hbad⟩
  · have hresolved := resolveIn_of_places names hplaces
    refine ⟨⟨?_, resolveIn_of_malformed names⟩, Or.inr ⟨host, n, hplaces, hresolved⟩⟩
    rintro ⟨reason, hinvalid⟩
    rcases hresolved with ⟨e, hok, -⟩ | ⟨reason', hfails⟩
    · rw [hok] at hinvalid
      cases hinvalid
    · rw [hfails] at hinvalid
      cases hinvalid

/-! ## Printing and resolving -/

theorem portText_ofNat (port : UInt16) : PortText (Numeral.ofNat 10 port.toNat) port.toNat := by
  have hdigits : ∀ c ∈ Numeral.ofNat 10 port.toNat, c.isDigit = true := by
    intro c hc
    rw [← Numeral.isDigit_ten]
    exact Numeral.isDigit_ofNat (by decide) (by decide) _ c hc
  refine ⟨_, Or.inl rfl, Numeral.ofNat_ne_nil, hdigits, ?_, Nat.le_of_lt_succ port.toNat_lt⟩
  rw [← Numeral.value_eq_ofDigitChars hdigits, Numeral.value_ofNat (by decide) (by decide)]

theorem colon_not_mem_ofNat (port : UInt16) : ':' ∉ Numeral.ofNat 10 port.toNat := by
  intro hmem
  have hdigit := Numeral.isDigit_ofNat (by decide) (by decide) _ ':' hmem
  cases hdigit

theorem bares_of_addressChar (h : ∀ c ∈ host, addressChar c = true) : Bares host host := by
  refine .plain fun inner heq => ?_
  have hbracket : addressChar '[' = true := h '[' (by rw [heq]; exact List.mem_cons_self ..)
  exact absurd hbracket (by decide)

/-- A host that is written as an address stands for it, with brackets or without. Its characters are
those of addresses, so that there are no brackets left in it and no character that a host may not
have, and the names that the system knows are never asked. -/
theorem resolveIn_of_literal (hbares : Bares before host)
    (hchars : ∀ c ∈ host, addressChar c = true)
    (hhost : ofNumericHost? host port = some e) :
    resolveIn names (String.ofList (before ++ ':' :: Numeral.ofNat 10 port.toNat)) = .ok e := by
  have hne : host ≠ [] := by
    rintro rfl
    cases hhost
  have hnul : host.contains '\x00' = false := by
    rw [Bool.eq_false_iff, ne_eq, List.contains_iff_mem]
    intro hmem
    exact absurd (hchars _ hmem) (by decide)
  have hplaces : Places (before ++ ':' :: Numeral.ofNat 10 port.toNat) host port.toNat :=
    ⟨before, _, rfl, colon_not_mem_ofNat port, hbares, hne, portText_ofNat port⟩
  have hread : ofText? (before ++ ':' :: Numeral.ofNat 10 port.toNat) = some ⟨host, port⟩ :=
    ofText?_eq_some_iff.mpr hplaces
  have hfound : lookUp names ⟨host, port⟩ = .ok e := by
    rw [lookUp, if_neg (by rw [hnul]; decide), hhost]
  rw [resolveIn, String.toList_ofList, hread]
  dsimp only
  rw [hfound]

theorem ofNumericHost_v4 (ip : Ipv4) (port : UInt16) :
    ofNumericHost? ip.chars port = some (.v4 ip port) := by
  rw [ofNumericHost?, ip.parse?_chars]
  rfl

theorem ofNumericHost_v6 (ip : Ipv6) (port : UInt16) :
    ofNumericHost? ip.chars port = some (.v6 ip 0 port) := by
  rw [ofNumericHost?, ip.parseV4_chars, ip.parse?_chars]
  rfl

/-- The text of an endpoint without a scope resolves to that endpoint, whatever names the system
knows. In version 6 this is also so when the brackets are left out. -/
theorem resolved_of_text (names : Directory) :
    (∀ ip port, resolveIn names (Endpoint.v4 ip port).text = .ok (.v4 ip port))
      ∧ (∀ ip port, resolveIn names (Endpoint.v6 ip 0 port).text = .ok (.v6 ip 0 port))
      ∧ ∀ (ip : Ipv6) (port : UInt16),
        resolveIn names (String.ofList (ip.chars ++ ':' :: Numeral.ofNat 10 port.toNat))
          = .ok (.v6 ip 0 port) := by
  refine ⟨fun ip port => ?_, fun ip port => ?_, fun ip port => ?_⟩
  · have hchars := ip.addressChar_chars
    exact resolveIn_of_literal (bares_of_addressChar hchars) hchars (ofNumericHost_v4 ip port)
  · have htext : (Endpoint.v6 ip 0 port).text
        = String.ofList ('[' :: (ip.chars ++ [']']) ++ ':' :: Numeral.ofNat 10 port.toNat) := by
      simp [text, chars]
    rw [htext]
    exact resolveIn_of_literal (.bracketed ip.chars) ip.addressChar_chars (ofNumericHost_v6 ip port)
  · have hchars := ip.addressChar_chars
    exact resolveIn_of_literal (bares_of_addressChar hchars) hchars (ofNumericHost_v6 ip port)

end Endpoint

end Sluice
