import Mathlib
import GracefulDrain.Net.Address
import GracefulDrain.Proofs.Numerals

/-! A grammar of the texts of addresses and socket addresses, and its readers: each takes a text
exactly when the grammar does, and the two that are tried on a remote address have no text in
common. -/
namespace GracefulDrain.Net
open Number Text

namespace Ipv4

/-- At most three digits; a zero in front stands only alone. -/
structure Octet (o : UInt8) (ds : List Char) : Prop where
  numeral : Numeral 10 o.toNat ds
  length_le : ds.length ≤ 3
  eq_of_zero : ds.head? = some '0' → ds = ['0']

/-- Four octets joined by points. -/
inductive Literal (ip : Ipv4) : List Char → Prop
  | mk {a b c d : List Char} (ha : Octet ip.a a) (hb : Octet ip.b b) (hc : Octet ip.c c)
      (hd : Octet ip.d d) : Literal ip (a ++ '.' :: b ++ '.' :: c ++ '.' :: d)

end Ipv4

namespace Ipv6

/-- At most four digits, zeros in front among them. -/
structure Group (g : UInt16) (ds : List Char) : Prop where
  numeral : Numeral 16 g.toNat ds
  length_le : ds.length ≤ 4

/-- A colon stands in front of every group but the first. -/
def separator : (first : Bool) → List Char
  | true => []
  | false => [':']

/-- Groups; if `dotted`, the last two are written as an IPv4 address. -/
inductive Groups : (first : Bool) → List UInt16 → (dotted : Bool) → List Char → Prop
  | nil (first : Bool) : Groups first [] false []
  | dotted (first : Bool) {ip : Ipv4} {t : List Char} (ht : ip.Literal t) :
      Groups first (groupsOf ip) true (separator first ++ t)
  | cons (first : Bool) {g : UInt16} {t : List Char} {gs : List UInt16} {dotted : Bool}
      {cs : List Char} (ht : Group g t) (hrest : Groups false gs dotted cs) :
      Groups first (g :: gs) dotted (separator first ++ t ++ cs)

/-- All groups, or two colons in the place of one or more zero groups. -/
inductive Literal (ip : Ipv6) : List Char → Prop
  | full {dotted : Bool} {cs : List Char} (h : Groups true ip.groups dotted cs) : Literal ip cs
  | gap {head tail : List UInt16} {dotted : Bool} {cs ds : List Char} {zeros : Nat}
      (hhead : Groups true head false cs) (htail : Groups true tail dotted ds) (hzeros : 0 < zeros)
      (hgroups : ip.groups = head ++ List.replicate zeros 0 ++ tail) :
      Literal ip (cs ++ ':' :: ':' :: ds)

end Ipv6

inductive Address.Literal : Address → List Char → Prop
  | v4 {ip : Ipv4} {cs : List Char} (h : ip.Literal cs) : Literal (.v4 ip) cs
  | v6 {ip : Ipv6} {cs : List Char} (h : ip.Literal cs) : Literal (.v6 ip) cs

/-- An IPv6 address stands in brackets, together with its scope if it has one. -/
inductive SocketAddress.Literal : SocketAddress → List Char → Prop
  | v4 {ip : Ipv4} {port : UInt16} {cs ps : List Char} (hip : ip.Literal cs)
      (hport : Numeral 10 port.toNat ps) : Literal (.v4 ip port) (cs ++ ':' :: ps)
  | v6 {ip : Ipv6} {port : UInt16} {cs ps : List Char} (hip : ip.Literal cs)
      (hport : Numeral 10 port.toNat ps) : Literal (.v6 ip port 0) ('[' :: cs ++ ']' :: ':' :: ps)
  | withScope {ip : Ipv6} {port : UInt16} {scope : UInt32} {cs ss ps : List Char} (hip : ip.Literal cs)
      (hscope : Numeral 10 scope.toNat ss) (hport : Numeral 10 port.toNat ps) :
      Literal (.v6 ip port scope) ('[' :: cs ++ '%' :: ss ++ ']' :: ':' :: ps)

/-- The text is an address, or a socket address at it. -/
inductive Denotes (text : String) (a : Address) : Prop
  | address (h : a.Literal text.toList)
  | socket {s : SocketAddress} (h : s.Literal text.toList) (hs : s.address = a)

namespace Ipv4

theorem readOctet_eq_some_iff {o : UInt8} {cs rest : List Char} :
    readOctet cs = some (o, rest) ↔ ∃ ds, cs = ds ++ rest ∧ Octet o ds ∧ NoDigit 10 rest := by
  constructor
  · intro h
    obtain ⟨⟨n, after⟩, hread, h⟩ := Option.bind_eq_some_iff.1 h
    obtain ⟨ds, rfl, hnum, hlen, hlimit, hrest⟩ := (readNumber_eq_some_iff (by decide)).1 hread
    simp only [takeWhile_digits (isDigitOf_of_numeral (by decide) hnum) hrest] at h
    split at h
    · cases h
    · next hzero =>
      obtain ⟨rfl, rfl⟩ := Prod.mk.inj (Option.some.inj h)
      have hn : (UInt8.ofNat n).toNat = n := UInt8.toNat_ofNat_of_lt' (Nat.lt_succ_of_le hlimit)
      refine ⟨ds, rfl, ⟨hn.symm ▸ hnum, hlen, fun hhead => ?_⟩, hrest⟩
      by_contra hne
      refine hzero ⟨?_, hne⟩
      rw [List.head?_append_of_ne_nil _ (ne_nil_of_numeral (by decide) hnum), hhead]
  · rintro ⟨ds, rfl, ⟨hnum, hlen, hzero⟩, hrest⟩
    have hlimit : o.toNat ≤ 255 := Nat.le_of_lt_succ o.toNat_lt
    have hread : readNumber 10 3 255 (ds ++ rest) = some (o.toNat, rest) :=
      (readNumber_eq_some_iff (by decide)).2 ⟨ds, rfl, hnum, hlen, hlimit, hrest⟩
    rw [readOctet, hread, Option.bind_eq_bind, Option.bind_some]
    simp only [takeWhile_digits (isDigitOf_of_numeral (by decide) hnum) hrest]
    rw [if_neg, UInt8.ofNat_toNat]
    rintro ⟨hhead, hne⟩
    rw [List.head?_append_of_ne_nil _ (ne_nil_of_numeral (by decide) hnum)] at hhead
    exact hne (hzero hhead)

theorem noDigit_point (cs : List Char) : NoDigit 10 ('.' :: cs) := noDigit_cons.2 (by decide)

theorem read_eq_some_iff {ip : Ipv4} {cs rest : List Char} :
    read cs = some (ip, rest) ↔ ∃ t, cs = t ++ rest ∧ ip.Literal t ∧ NoDigit 10 rest := by
  constructor
  · intro h
    simp only [read, bind, Option.bind_eq_some_iff, Prod.exists, readChar_eq_some_iff,
      readOctet_eq_some_iff] at h
    obtain ⟨a, _, ⟨as, rfl, ha, -⟩, _, rfl, b, _, ⟨bs, rfl, hb, -⟩, _, rfl, c, _, ⟨cs, rfl, hc, -⟩,
      _, rfl, d, _, ⟨ds, rfl, hd, hrest⟩, h⟩ := h
    obtain ⟨rfl, rfl⟩ := Prod.mk.inj (Option.some.inj h)
    exact ⟨_, by simp, .mk ha hb hc hd, hrest⟩
  · rintro ⟨_, rfl, ⟨ha, hb, hc, hd⟩, hrest⟩
    simp only [List.append_assoc, List.cons_append]
    simp only [read, bind, Option.bind_eq_some_iff, Prod.exists, readChar_eq_some_iff,
      readOctet_eq_some_iff]
    exact ⟨_, _, ⟨_, rfl, ha, noDigit_point _⟩, _, rfl, _, _, ⟨_, rfl, hb, noDigit_point _⟩, _, rfl,
      _, _, ⟨_, rfl, hc, noDigit_point _⟩, _, rfl, _, _, ⟨_, rfl, hd, hrest⟩, rfl⟩

theorem read_eq_none {cs : List Char} (h : NoDigit 10 cs) : read cs = none := by
  by_contra hne
  obtain ⟨⟨ip, rest⟩, hread⟩ := Option.ne_none_iff_exists'.1 hne
  obtain ⟨_, rfl, ⟨ha, -, -, -⟩, -⟩ := read_eq_some_iff.1 hread
  simp only [List.append_assoc] at h
  exact not_noDigit_of_numeral (by decide) ha.numeral h

theorem read_append {ip : Ipv4} {t rest : List Char} (h : ip.Literal t) (hrest : NoDigit 10 rest) :
    read (t ++ rest) = some (ip, rest) := read_eq_some_iff.2 ⟨t, rfl, h, hrest⟩

theorem Literal.chars {ip : Ipv4} {t : List Char} (h : ip.Literal t) :
    '.' ∈ t ∧ ∀ c ∈ t, isDigitOf 10 c = true ∨ c = '.' := by
  obtain ⟨ha, hb, hc, hd⟩ := h
  have hdigit {o : UInt8} {ds : List Char} (ho : Octet o ds) : ∀ d ∈ ds, isDigitOf 10 d = true :=
    isDigitOf_of_numeral (by decide) ho.numeral
  refine ⟨by simp, fun x hx => ?_⟩
  simp only [List.mem_append, List.mem_cons] at hx
  rcases hx with (((hx | hx | hx) | hx | hx) | hx | hx)
  · exact .inl (hdigit ha x hx)
  · exact .inr hx
  · exact .inl (hdigit hb x hx)
  · exact .inr hx
  · exact .inl (hdigit hc x hx)
  · exact .inr hx
  · exact .inl (hdigit hd x hx)

/-- Hexadecimal digits with no point after them are no beginning of an address. -/
theorem read_digits_eq_none {ds rest : List Char} (hds : ∀ d ∈ ds, isDigitOf 16 d = true)
    (hrest : ∀ c ∈ rest.head?, isDigitOf 10 c = false ∧ c ≠ '.') : read (ds ++ rest) = none := by
  by_contra hne
  obtain ⟨⟨ip, after⟩, hread⟩ := Option.ne_none_iff_exists'.1 hne
  obtain ⟨t, happ, hlit, -⟩ := read_eq_some_iff.1 hread
  obtain ⟨hpoint, hchars⟩ := hlit.chars
  have hds' : '.' ∉ ds := fun hm => absurd (hds _ hm) (by decide)
  rcases List.append_eq_append_iff.1 happ with ⟨u, rfl, rfl⟩ | ⟨u, rfl, rfl⟩
  · cases u with
    | nil => exact hds' (by simpa using hpoint)
    | cons c u =>
      obtain ⟨hdigit, hc⟩ := hrest c (by simp)
      have := hchars c (by simp)
      simp_all
  · exact hds' (List.mem_append_left u hpoint)

end Ipv4

namespace Ipv6

theorem readGroup_eq_some_iff {g : UInt16} {cs rest : List Char} :
    readGroup cs = some (g, rest) ↔ ∃ ds, cs = ds ++ rest ∧ Group g ds ∧ NoDigit 16 rest := by
  constructor
  · intro h
    obtain ⟨⟨n, after⟩, hread, h⟩ := Option.map_eq_some_iff.1 h
    obtain ⟨rfl, rfl⟩ := Prod.mk.inj h
    obtain ⟨ds, rfl, hnum, hlen, hlimit, hrest⟩ := (readNumber_eq_some_iff (by decide)).1 hread
    have hn : (UInt16.ofNat n).toNat = n := UInt16.toNat_ofNat_of_lt' (Nat.lt_succ_of_le hlimit)
    exact ⟨ds, rfl, ⟨hn.symm ▸ hnum, hlen⟩, hrest⟩
  · rintro ⟨ds, rfl, ⟨hnum, hlen⟩, hrest⟩
    have hlimit : g.toNat ≤ 0xFFFF := Nat.le_of_lt_succ g.toNat_lt
    rw [readGroup, (readNumber_eq_some_iff (by decide)).2 ⟨ds, rfl, hnum, hlen, hlimit, hrest⟩]
    simp only [Option.map_some, UInt16.ofNat_toNat]

theorem readSeparator_eq_some_iff {first : Bool} {cs rest : List Char} :
    readSeparator first cs = some rest ↔ cs = separator first ++ rest := by
  cases first with
  | true => simp [readSeparator, separator]
  | false => simp [readSeparator, separator, readChar_eq_some_iff]

/-- Neither a group nor a point follows. -/
structure Ends (cs : List Char) : Prop where
  head : ∀ c ∈ cs.head?, isDigitOf 16 c = false ∧ c ≠ '.'
  colon : ∀ rest, cs = ':' :: rest → NoDigit 16 rest

theorem ends_nil : Ends [] := ⟨by simp, by simp⟩

theorem ends_cons {c : Char} {cs : List Char} (hc : isDigitOf 16 c = false) (hpoint : c ≠ '.')
    (hcolon : c = ':' → NoDigit 16 cs) : Ends (c :: cs) := by
  refine ⟨by simpa using ⟨hc, hpoint⟩, ?_⟩
  rintro rest h
  obtain ⟨rfl, rfl⟩ := List.cons.inj h
  exact hcolon rfl

theorem readGroup_eq_none {cs : List Char} (h : NoDigit 16 cs) : readGroup cs = none := by
  by_contra hne
  obtain ⟨⟨g, rest⟩, hread⟩ := Option.ne_none_iff_exists'.1 hne
  obtain ⟨ds, rfl, hds, -⟩ := readGroup_eq_some_iff.1 hread
  exact not_noDigit_of_numeral (by decide) hds.numeral h

theorem Ends.noDigit {cs : List Char} (h : Ends cs) : NoDigit 16 cs := fun c hc => (h.head c hc).1

theorem Ends.noDigit_of_separator {cs rest : List Char} (h : Ends cs) {first : Bool}
    (hs : readSeparator first cs = some rest) : NoDigit 16 rest := by
  rw [readSeparator_eq_some_iff] at hs
  cases first with
  | true =>
    obtain rfl : cs = rest := hs
    exact h.noDigit
  | false => exact h.colon rest hs

theorem readGroups_of_no_separator {n : Nat} {first : Bool} {cs : List Char}
    (hs : readSeparator first cs = none) : readGroups n first cs = ([], false, cs) := by
  cases n with
  | zero => rfl
  | succ n => simp [readGroups, hs]

/-- After the separator an IPv4 address is tried first, unless there is room for one group only. -/
theorem readGroups_succ {n : Nat} {first : Bool} {cs after : List Char}
    (hs : readSeparator first cs = some after) :
    readGroups (n + 1) first cs =
      match if n = 0 then none else Ipv4.read after with
      | some (ip, rest) => (groupsOf ip, true, rest)
      | none =>
        match readGroup after with
        | none => ([], false, cs)
        | some (g, rest) => (g :: (readGroups n false rest).1, (readGroups n false rest).2) := by
  rw [readGroups, hs]
  rfl

theorem readGroups_of_ends (n : Nat) (first : Bool) {cs : List Char} (h : Ends cs) :
    readGroups n first cs = ([], false, cs) := by
  cases hs : readSeparator first cs with
  | none => exact readGroups_of_no_separator hs
  | some after =>
    cases n with
    | zero => rfl
    | succ n =>
      have hdigit : NoDigit 16 after := h.noDigit_of_separator hs
      have hdotted : Ipv4.read after = none :=
        Ipv4.read_eq_none (noDigit_mono (by decide) le_rfl hdigit)
      rw [readGroups_succ hs, hdotted, ite_self, readGroup_eq_none hdigit]

/-- What follows a group is the end of the groups or a colon. -/
theorem head?_of_groups {gs : List UInt16} {dotted : Bool} {cs rest : List Char}
    (h : Groups false gs dotted cs) (hrest : Ends rest) :
    ∀ c ∈ (cs ++ rest).head?, isDigitOf 16 c = false ∧ c ≠ '.' := by
  cases h with
  | nil => exact hrest.head
  | dotted | cons => simpa [separator] using (by decide)

theorem readGroups_append {first : Bool} {gs : List UInt16} {dotted : Bool} {t rest : List Char}
    (h : Groups first gs dotted t) {n : Nat} (hn : gs.length ≤ n) (hrest : Ends rest) :
    readGroups n first (t ++ rest) = (gs, dotted, rest) := by
  induction h generalizing n with
  | nil first => exact readGroups_of_ends n first hrest
  | @dotted first ip t ht =>
    obtain ⟨n, rfl⟩ : ∃ m, n = m + 2 := Nat.exists_eq_add_of_le' hn
    have hs : readSeparator first (separator first ++ t ++ rest) = some (t ++ rest) :=
      readSeparator_eq_some_iff.2 (List.append_assoc ..)
    have hread : Ipv4.read (t ++ rest) = some (ip, rest) :=
      Ipv4.read_append ht (noDigit_mono (by decide) le_rfl hrest.noDigit)
    rw [readGroups_succ hs, if_neg (Nat.succ_ne_zero n), hread]
  | @cons first g t gs dotted cs ht hgs ih =>
    obtain ⟨n, rfl⟩ : ∃ m, n = m + 1 := Nat.exists_eq_add_of_le' (Nat.one_le_of_lt hn)
    have hs : readSeparator first (separator first ++ t ++ cs ++ rest) = some (t ++ (cs ++ rest)) :=
      readSeparator_eq_some_iff.2 (by simp)
    have hhead := head?_of_groups hgs hrest
    have hdigit : NoDigit 16 (cs ++ rest) := fun c hc => (hhead c hc).1
    have hdotted : Ipv4.read (t ++ (cs ++ rest)) = none :=
      Ipv4.read_digits_eq_none (isDigitOf_of_numeral (by decide) ht.numeral) fun c hc =>
        ⟨noDigit_mono (by decide) le_rfl hdigit c hc, (hhead c hc).2⟩
    have hgroup : readGroup (t ++ (cs ++ rest)) = some (g, cs ++ rest) :=
      readGroup_eq_some_iff.2 ⟨t, rfl, ht, hdigit⟩
    rw [readGroups_succ hs, hdotted, ite_self, hgroup]
    simp only [ih (Nat.le_of_succ_le_succ hn)]

theorem groups_of_readGroups {n : Nat} {first : Bool} {cs : List Char} {gs : List UInt16}
    {dotted : Bool} {rest : List Char} (h : readGroups n first cs = (gs, dotted, rest)) :
    gs.length ≤ n ∧ ∃ t, cs = t ++ rest ∧ Groups first gs dotted t := by
  induction n generalizing first cs gs dotted rest with
  | zero =>
    cases h
    exact ⟨le_rfl, [], rfl, .nil first⟩
  | succ n ih =>
    cases hs : readSeparator first cs with
    | none =>
      rw [readGroups_of_no_separator hs] at h
      cases h
      exact ⟨Nat.zero_le _, [], rfl, .nil first⟩
    | some after =>
      obtain rfl := readSeparator_eq_some_iff.1 hs
      rw [readGroups_succ hs] at h
      split at h
      · next ip after' hdotted =>
        obtain ⟨hn, hread⟩ : n ≠ 0 ∧ Ipv4.read after = some (ip, after') := by
          split at hdotted
          · cases hdotted
          · exact ⟨‹_›, hdotted⟩
        cases h
        obtain ⟨t, rfl, ht, -⟩ := Ipv4.read_eq_some_iff.1 hread
        refine ⟨?_, _, (List.append_assoc ..).symm, .dotted first ht⟩
        simp only [groupsOf, List.length_cons, List.length_nil]
        omega
      · split at h
        · cases h
          exact ⟨Nat.zero_le _, [], rfl, .nil first⟩
        · next g after' hgroup =>
          obtain ⟨t, rfl, ht, -⟩ := readGroup_eq_some_iff.1 hgroup
          obtain ⟨rfl, htail⟩ := Prod.mk.inj h
          have hread : readGroups n false after' = ((readGroups n false after').1, dotted, rest) := by
            rw [← htail]
          obtain ⟨hlen, u, rfl, hgs⟩ := ih hread
          exact ⟨Nat.succ_le_succ hlen, _, by simp, .cons first ht hgs⟩

theorem eq_of_groups {ip other : Ipv6} (h : ip.groups = other.groups) : ip = other := by
  cases ip
  cases other
  cases h
  rfl

theorem length_of_parts {ip : Ipv6} {head tail : List UInt16} {zeros : Nat}
    (h : ip.groups = head ++ List.replicate zeros 0 ++ tail) :
    head.length + zeros + tail.length = 8 := by simpa [h, add_assoc] using ip.length_eq

theorem ofParts?_eq_some_iff {head tail : List UInt16} {ip : Ipv6} :
    ofParts? head tail = some ip ↔ ∃ zeros, ip.groups = head ++ List.replicate zeros 0 ++ tail := by
  constructor
  · intro h
    rw [ofParts?] at h
    split at h
    · obtain rfl := Option.some.inj h
      exact ⟨_, rfl⟩
    · cases h
  · rintro ⟨zeros, hgroups⟩
    have hlen := length_of_parts hgroups
    rw [ofParts?, dif_pos (by omega)]
    refine congrArg some (eq_of_groups ?_)
    have hz : 8 - head.length - tail.length = zeros := by omega
    simp only [ofParts, hgroups, hz]

/-- An IPv4 address alone fills too few groups. -/
theorem read_dotted {ip : Ipv4} {t rest : List Char} (h : ip.Literal t) (hrest : NoDigit 10 rest) :
    read (t ++ rest) = none := by
  have hs : readSeparator true (t ++ rest) = some (t ++ rest) := rfl
  have hgroups : readGroups 8 true (t ++ rest) = (groupsOf ip, true, rest) := by
    rw [readGroups_succ hs, if_neg (by decide), Ipv4.read_append h hrest]
  simp [read, hgroups, groupsOf]

theorem read_append {ip : Ipv6} {t rest : List Char} (h : ip.Literal t) (hrest : Ends rest) :
    read (t ++ rest) = some (ip, rest) := by
  cases h with
  | full h =>
    have hgroups := readGroups_append h ip.length_eq.le hrest
    have hparts : ofParts? ip.groups [] = some ip := ofParts?_eq_some_iff.2 ⟨0, by simp⟩
    simp [read, hgroups, ip.length_eq, hparts]
  | @gap head tail dotted cs ds zeros hhead htail hzeros hgroups =>
    have hlen := length_of_parts hgroups
    have hends : Ends (':' :: ':' :: (ds ++ rest)) :=
      ends_cons (by decide) (by decide) fun _ => noDigit_cons.2 (by decide)
    have hread := readGroups_append hhead (n := 8) (by omega) hends
    have hread' := readGroups_append htail (n := 7 - head.length) (by omega) hrest
    have hparts : ofParts? head tail = some ip := ofParts?_eq_some_iff.2 ⟨zeros, hgroups⟩
    have hne : head.length ≠ 8 := by omega
    simp [read, hread, hne, readChar_self, hread', hparts]

theorem literal_of_read {ip : Ipv6} {cs rest : List Char} (h : read cs = some (ip, rest)) :
    ∃ t, cs = t ++ rest ∧ ip.Literal t := by
  obtain ⟨head, dotted, after, hread⟩ :
      ∃ head dotted after, readGroups 8 true cs = (head, dotted, after) := ⟨_, _, _, rfl⟩
  obtain ⟨-, t, rfl, hhead⟩ := groups_of_readGroups hread
  simp only [read, hread] at h
  split at h
  · next hlen =>
    obtain ⟨_, hparts, hpair⟩ := Option.map_eq_some_iff.1 h
    cases hpair
    obtain ⟨zeros, hgroups⟩ := ofParts?_eq_some_iff.1 hparts
    have hzeros : zeros = 0 := by simpa [hgroups, hlen] using ip.length_eq
    refine ⟨t, rfl, .full (?_ : Groups true ip.groups dotted t)⟩
    rwa [hgroups, hzeros, List.replicate_zero, List.append_nil, List.append_nil]
  · split at h
    · cases h
    · next hne hdotted =>
      simp only [bind, Option.bind_eq_some_iff, readChar_eq_some_iff] at h
      obtain ⟨_, rfl, after, rfl, h⟩ := h
      obtain ⟨tail, dotted', rest', hread'⟩ :
          ∃ tail dotted' rest', readGroups (7 - head.length) true after = (tail, dotted', rest') :=
        ⟨_, _, _, rfl⟩
      obtain ⟨hlen, u, rfl, htail⟩ := groups_of_readGroups hread'
      rw [hread'] at h
      obtain ⟨_, hparts, hpair⟩ := Option.map_eq_some_iff.1 h
      cases hpair
      obtain ⟨zeros, hgroups⟩ := ofParts?_eq_some_iff.1 hparts
      have htotal : head.length + zeros + tail.length = 8 := length_of_parts hgroups
      obtain rfl := Bool.eq_false_of_not_eq_true hdotted
      exact ⟨_, by simp, .gap hhead htail (by omega) hgroups⟩

/-- What begins with neither a digit nor a colon is no address. -/
theorem read_eq_none {cs : List Char} (h : NoDigit 16 cs) (hcolon : cs.head? ≠ some ':') :
    read cs = none := by
  have hgroups : readGroups 8 true cs = ([], false, cs) := by
    have hs : readSeparator true cs = some cs := rfl
    rw [readGroups_succ hs, readGroup_eq_none h]
    rw [Ipv4.read_eq_none (noDigit_mono (by decide) le_rfl h), ite_self]
  have hchar : readChar ':' cs = none := by
    by_contra hne
    obtain ⟨rest, hrest⟩ := Option.ne_none_iff_exists'.1 hne
    exact hcolon (by rw [readChar_eq_some_iff.1 hrest]; rfl)
  simp [read, hgroups, hchar]

end Ipv6

theorem Address.parse_eq_some_iff {a : Address} {cs : List Char} :
    Address.parse cs = some a ↔ a.Literal cs := by
  constructor
  · intro h
    rw [Address.parse] at h
    split at h
    · next ip hread =>
      cases h
      obtain ⟨t, rfl, ht, -⟩ := Ipv4.read_eq_some_iff.1 hread
      exact .v4 (by rwa [List.append_nil])
    · split at h
      · next ip hread =>
        cases h
        obtain ⟨t, rfl, ht⟩ := Ipv6.literal_of_read hread
        exact .v6 (by rwa [List.append_nil])
      · cases h
  · rintro (⟨h⟩ | ⟨h⟩)
    · have hread := Ipv4.read_append h (noDigit_nil 10)
      rw [List.append_nil] at hread
      rw [Address.parse, hread]
    · have hread := Ipv6.read_append h Ipv6.ends_nil
      rw [List.append_nil] at hread
      have hne (ip : Ipv4) : Ipv4.read cs ≠ some (ip, []) := by
        intro hread4
        obtain ⟨t, rfl, ht, hrest⟩ := Ipv4.read_eq_some_iff.1 hread4
        rw [Ipv6.read_dotted ht hrest] at hread
        cases hread
      rw [Address.parse]
      split
      · next ip hread4 => exact absurd hread4 (hne ip)
      · rw [hread]

namespace SocketAddress

theorem readPort_eq_some_iff {port : UInt16} {cs rest : List Char} :
    readPort cs = some (port, rest) ↔
      ∃ ps, cs = ':' :: ps ++ rest ∧ Numeral 10 port.toNat ps ∧ NoDigit 10 rest := by
  simp only [readPort, bind, Option.bind_eq_some_iff, readChar_eq_some_iff, Prod.exists,
    readDecimal_eq_some_iff]
  constructor
  · rintro ⟨_, rfl, n, _, ⟨ps, rfl, hnum, hlimit, hrest⟩, h⟩
    cases h
    have hn : (UInt16.ofNat n).toNat = n := UInt16.toNat_ofNat_of_lt' (Nat.lt_succ_of_le hlimit)
    exact ⟨ps, rfl, hn.symm ▸ hnum, hrest⟩
  · rintro ⟨ps, rfl, hnum, hrest⟩
    have hlimit : port.toNat ≤ 0xFFFF := Nat.le_of_lt_succ port.toNat_lt
    exact ⟨_, rfl, port.toNat, rest, ⟨ps, rfl, hnum, hlimit, hrest⟩, by simp⟩

theorem readScope_percent {scope : UInt32} {ss rest : List Char} (h : Numeral 10 scope.toNat ss)
    (hrest : NoDigit 10 rest) : readScope ('%' :: ss ++ rest) = (scope, rest) := by
  have hlimit : scope.toNat ≤ 0xFFFFFFFF := Nat.le_of_lt_succ scope.toNat_lt
  have hread : readDecimal 0xFFFFFFFF (ss ++ rest) = some (scope.toNat, rest) :=
    readDecimal_eq_some_iff.2 ⟨ss, rfl, h, hlimit, hrest⟩
  simp [readScope, readChar_self, hread]

theorem readScope_bracket (cs : List Char) : readScope (']' :: cs) = (0, ']' :: cs) := rfl

/-- A scope is a percent sign with a number, or absent and zero. -/
theorem readScope_cases {scope : UInt32} {cs rest : List Char} (h : readScope cs = (scope, rest)) :
    (scope = 0 ∧ cs = rest) ∨
      ∃ ss, cs = '%' :: ss ++ rest ∧ Numeral 10 scope.toNat ss ∧ NoDigit 10 rest := by
  rw [readScope] at h
  split at h
  · next n after hread =>
    cases h
    obtain ⟨digits, hpercent, hdecimal⟩ := Option.bind_eq_some_iff.1 hread
    obtain rfl := readChar_eq_some_iff.1 hpercent
    obtain ⟨ss, rfl, hnum, hlimit, hrest⟩ := readDecimal_eq_some_iff.1 hdecimal
    have hn : (UInt32.ofNat n).toNat = n := UInt32.toNat_ofNat_of_lt' (Nat.lt_succ_of_le hlimit)
    exact .inr ⟨ss, rfl, hn.symm ▸ hnum, hrest⟩
  · cases h
    exact .inl ⟨rfl, rfl⟩

theorem readV4_eq_some_iff {s : SocketAddress} {cs rest : List Char} :
    readV4 cs = some (s, rest) ↔
      ∃ ip port t ps, s = .v4 ip port ∧ cs = t ++ ':' :: ps ++ rest ∧ ip.Literal t ∧
        Numeral 10 port.toNat ps ∧ NoDigit 10 rest := by
  simp only [readV4, bind, Option.bind_eq_some_iff, Prod.exists, Ipv4.read_eq_some_iff,
    readPort_eq_some_iff]
  constructor
  · rintro ⟨ip, _, ⟨t, rfl, ht, -⟩, port, _, ⟨ps, rfl, hport, hrest⟩, h⟩
    cases h
    exact ⟨ip, port, t, ps, rfl, by simp, ht, hport, hrest⟩
  · rintro ⟨ip, port, t, ps, rfl, rfl, ht, hport, hrest⟩
    exact ⟨ip, _, ⟨t, List.append_assoc .., ht, noDigit_cons.2 (by decide)⟩, port, _,
      ⟨ps, rfl, hport, hrest⟩, rfl⟩

/-- What is read in brackets is the text of an IPv6 socket address. -/
theorem literal_of_readV6 {s : SocketAddress} {cs rest : List Char}
    (h : readV6 cs = some (s, rest)) : ∃ t, cs = t ++ rest ∧ s.Literal t := by
  simp only [readV6, bind, Option.bind_eq_some_iff, Prod.exists, readChar_eq_some_iff,
    readPort_eq_some_iff] at h
  obtain ⟨_, rfl, ip, afterIp, hip, _, hbracket, port, _, ⟨ps, rfl, hport, -⟩, h⟩ := h
  obtain ⟨t, rfl, ht⟩ := Ipv6.literal_of_read hip
  obtain ⟨scope, after, hscope⟩ : ∃ scope after, readScope afterIp = (scope, after) := ⟨_, _, rfl⟩
  simp only [hscope] at hbracket h
  cases h
  rcases readScope_cases hscope with ⟨rfl, rfl⟩ | ⟨ss, rfl, hss, -⟩
  · exact ⟨_, by simp [hbracket], .v6 ht hport⟩
  · exact ⟨_, by simp [hbracket], .withScope ht hss hport⟩

theorem readV6_append {ip : Ipv6} {port : UInt16} {scope : UInt32} {t ps cs : List Char}
    (ht : ip.Literal t) (hport : Numeral 10 port.toNat ps) (hends : Ipv6.Ends cs)
    (hscope : readScope cs = (scope, ']' :: ':' :: ps)) :
    readV6 ('[' :: t ++ cs) = some (.v6 ip port scope, []) := by
  have hread : readPort (':' :: ps) = some (port, []) :=
    readPort_eq_some_iff.2 ⟨ps, (List.append_nil _).symm, hport, noDigit_nil 10⟩
  simp [readV6, readChar_self, Ipv6.read_append ht hends, hscope, hread]

theorem ends_bracket (cs : List Char) : Ipv6.Ends (']' :: cs) :=
  Ipv6.ends_cons (by decide) (by decide) fun h => absurd h (by decide)

theorem ends_percent (cs : List Char) : Ipv6.Ends ('%' :: cs) :=
  Ipv6.ends_cons (by decide) (by decide) fun h => absurd h (by decide)

theorem parse_eq_some_iff {s : SocketAddress} {cs : List Char} :
    SocketAddress.parse cs = some s ↔ s.Literal cs := by
  constructor
  · intro h
    rw [SocketAddress.parse] at h
    split at h
    · next hread =>
      cases h
      obtain ⟨ip, port, t, ps, rfl, rfl, ht, hport, -⟩ := readV4_eq_some_iff.1 hread
      rw [List.append_nil]
      exact .v4 ht hport
    · split at h
      · next hread =>
        cases h
        obtain ⟨t, rfl, ht⟩ := literal_of_readV6 hread
        rwa [List.append_nil]
      · cases h
  · have hopen (cs : List Char) : readV4 ('[' :: cs) = none := by
      rw [readV4, Ipv4.read_eq_none (noDigit_cons.2 (by decide))]
      rfl
    intro h
    cases h with
    | v4 hip hport =>
      have hread := readV4_eq_some_iff.2
        ⟨_, _, _, _, rfl, (List.append_nil _).symm, hip, hport, noDigit_nil 10⟩
      rw [SocketAddress.parse, hread]
    | v6 hip hport =>
      have hread := readV6_append hip hport (ends_bracket _) (readScope_bracket _)
      simp only [List.cons_append] at hread ⊢
      rw [SocketAddress.parse, hopen, hread]
    | @withScope ip port scope t ss ps hip hscope hport =>
      have hends : Ipv6.Ends ('%' :: ss ++ ']' :: ':' :: ps) := ends_percent _
      have hread := readV6_append hip hport hends
        (readScope_percent hscope (noDigit_cons.2 (by decide)))
      simp only [List.cons_append, List.append_assoc] at hread ⊢
      rw [SocketAddress.parse, hopen, hread]

theorem parse_of_literal {s : SocketAddress} {cs : List Char} (h : s.Literal cs) :
    Address.parse cs = none := by
  have hopen (cs : List Char) : Address.parse ('[' :: cs) = none := by
    have h4 : Ipv4.read ('[' :: cs) = none := Ipv4.read_eq_none (noDigit_cons.2 (by decide))
    have h6 : Ipv6.read ('[' :: cs) = none :=
      Ipv6.read_eq_none (noDigit_cons.2 (by decide)) (by simp)
    rw [Address.parse, h4, h6]
  cases h with
  | v4 hip hport =>
    have hcolon (ps : List Char) : NoDigit 10 (':' :: ps) := noDigit_cons.2 (by decide)
    rw [Address.parse, Ipv4.read_append hip (hcolon _), Ipv6.read_dotted hip (hcolon _)]
  | v6 | withScope => exact hopen _

end SocketAddress

theorem hostOf_eq_some_iff {remote : String} {a : Address} :
    hostOf remote = some a ↔ Denotes remote a := by
  rw [hostOf, SocketAddress.ofText, Address.ofText]
  constructor
  · intro h
    split at h
    · next s hs =>
      cases h
      exact .socket (SocketAddress.parse_eq_some_iff.1 hs) rfl
    · exact .address (Address.parse_eq_some_iff.1 h)
  · rintro (h | ⟨h, rfl⟩)
    · have ha := Address.parse_eq_some_iff.2 h
      split
      · next s hs =>
        rw [SocketAddress.parse_of_literal (SocketAddress.parse_eq_some_iff.1 hs)] at ha
        cases ha
      · exact ha
    · rw [SocketAddress.parse_eq_some_iff.2 h]

/-- No text denotes two addresses: the two ways to read it never disagree. -/
theorem Denotes.unique {remote : String} {a b : Address} (ha : Denotes remote a)
    (hb : Denotes remote b) : a = b := by
  rw [← hostOf_eq_some_iff] at ha hb
  exact Option.some.inj (ha.symm.trans hb)

end GracefulDrain.Net
