import Mathlib
import GracefulDrain.Proofs.AddressText

namespace GracefulDrain.Net
open Number Text

namespace Ipv4

theorem octet_octetText (o : UInt8) : Octet o (octetText o) where
  numeral := numeral_toDigits (by decide) o.toNat
  length_le := Nat.toDigits_length 10 o.toNat 3 (by decide) (o.toNat_lt.trans (by decide))
  eq_of_zero := toDigits_of_head?_zero (by decide) (by decide)

theorem literal_render (ip : Ipv4) : ip.Literal ip.render :=
  .mk (octet_octetText ip.a) (octet_octetText ip.b) (octet_octetText ip.c) (octet_octetText ip.d)

end Ipv4

namespace Ipv6

/-- The groups from `start` on begin with `length` zeros. -/
def ZeroRun (gs : List UInt16) (start length : Nat) : Prop :=
  List.replicate length 0 <+: gs.drop start

/-- No run is longer, and none of this length comes before. -/
structure LongestRun (gs : List UInt16) (start length : Nat) : Prop where
  run : ZeroRun gs start length
  length_le {s l : Nat} (h : ZeroRun gs s l) : l ≤ length
  start_le {s : Nat} (h : ZeroRun gs s length) : start ≤ s

theorem zeroRun_cons (g : UInt16) (gs : List UInt16) :
    zeroRun (g :: gs) = if g = 0 then zeroRun gs + 1 else 0 := by
  rw [zeroRun, List.takeWhile_cons]
  split <;> simp_all [zeroRun]

theorem replicate_prefix_iff {n : Nat} {gs : List UInt16} :
    List.replicate n 0 <+: gs ↔ n ≤ zeroRun gs := by
  induction gs generalizing n with
  | nil => simp [zeroRun]
  | cons g gs ih =>
    cases n with
    | zero => simp
    | succ n =>
      rw [List.replicate_succ, List.cons_prefix_cons, ih, zeroRun_cons]
      split
      · next hg => simp [hg]
      · next hg => simp [Ne.symm hg]

theorem zeroRun_iff {gs : List UInt16} {start length : Nat} :
    ZeroRun gs start length ↔ length ≤ zeroRun (gs.drop start) := replicate_prefix_iff

/-- What is known of the best run after the first `n` starts were looked at. -/
structure BestOf (gs : List UInt16) (n start length : Nat) : Prop where
  run : ZeroRun gs start length
  start_le : start ≤ n
  start_eq : length = 0 → start = 0
  le {i : Nat} (hi : i < n) : zeroRun (gs.drop i) ≤ length
  first {i : Nat} (hi : i < n) (h : zeroRun (gs.drop i) = length) : start ≤ i

theorem BestOf.succ {gs : List UInt16} {n start length : Nat} (h : BestOf gs n start length) :
    let best := if length < zeroRun (gs.drop n) then (n, zeroRun (gs.drop n)) else (start, length)
    BestOf gs (n + 1) best.1 best.2 := by
  split
  · next hlonger =>
    refine ⟨zeroRun_iff.2 le_rfl, Nat.le_succ n, fun h0 => by simp at h0; omega, ?_, ?_⟩
    · intro i hi
      rcases Nat.lt_succ_iff_lt_or_eq.1 hi with hi | rfl
      · exact (h.le hi).trans hlonger.le
      · exact le_rfl
    · intro i hi heq
      rcases Nat.lt_succ_iff_lt_or_eq.1 hi with hi | rfl
      · exact absurd (h.le hi) (not_le.2 (hlonger.trans_eq heq.symm))
      · exact le_rfl
  · next hshorter =>
    refine ⟨h.run, Nat.le_succ_of_le h.start_le, h.start_eq, ?_, ?_⟩
    · intro i hi
      rcases Nat.lt_succ_iff_lt_or_eq.1 hi with hi | rfl
      · exact h.le hi
      · exact not_lt.1 hshorter
    · intro i hi heq
      rcases Nat.lt_succ_iff_lt_or_eq.1 hi with hi | rfl
      · exact h.first hi heq
      · exact h.start_le

theorem bestOf_foldl (gs : List UInt16) (n : Nat) :
    let best := (List.range n).foldl
      (fun best i => if best.2 < zeroRun (gs.drop i) then (i, zeroRun (gs.drop i)) else best) (0, 0)
    BestOf gs n best.1 best.2 := by
  induction n with
  | zero => exact ⟨List.nil_prefix, le_rfl, fun _ => rfl, by simp, by simp⟩
  | succ n ih =>
    rw [List.range_succ, List.foldl_concat]
    exact ih.succ

theorem longestRun_spec (gs : List UInt16) : LongestRun gs (longestRun gs).1 (longestRun gs).2 := by
  have hbest : BestOf gs gs.length (longestRun gs).1 (longestRun gs).2 := bestOf_foldl gs gs.length
  have hbehind {s : Nat} (hs : gs.length ≤ s) : zeroRun (gs.drop s) = 0 := by
    rw [List.drop_eq_nil_of_le hs]
    rfl
  have hle (s : Nat) : zeroRun (gs.drop s) ≤ (longestRun gs).2 := by
    rcases lt_or_ge s gs.length with hs | hs
    · exact hbest.le hs
    · rw [hbehind hs]
      exact Nat.zero_le _
  refine ⟨hbest.run, fun h => (zeroRun_iff.1 h).trans (hle _), fun {s} h => ?_⟩
  have heq : zeroRun (gs.drop s) = (longestRun gs).2 := (hle s).antisymm (zeroRun_iff.1 h)
  rcases lt_or_ge s gs.length with hs | hs
  · exact hbest.first hs heq
  · rw [hbest.start_eq (heq ▸ hbehind hs)]
    exact Nat.zero_le s

theorem eq_of_zeroRun {gs : List UInt16} {start length : Nat} (h : ZeroRun gs start length) :
    gs = gs.take start ++ List.replicate length 0 ++ gs.drop (start + length) := by
  obtain ⟨rest, hrest⟩ := h
  have hdrop : gs.drop (start + length) = rest := by
    rw [← List.drop_drop, ← hrest, List.drop_left' List.length_replicate]
  rw [hdrop, List.append_assoc, hrest, List.take_append_drop]

/-- An address in `::ffff:0:0/96` ends in an IPv4 address; in all others the groups are written in
lower case without zeros in front, and the longest run of at least two zero groups is compressed. -/
inductive Canonical (ip : Ipv6) : List Char → Prop
  | mapped {v4 : Ipv4} {cs : List Char} (h : ip.groups = [0, 0, 0, 0, 0, 0xFFFF] ++ groupsOf v4)
      (hcs : v4.Literal cs) : Canonical ip ("::ffff:".toList ++ cs)
  | compressed {start length : Nat} (hip : ¬[0, 0, 0, 0, 0, 0xFFFF] <+: ip.groups)
      (hrun : LongestRun ip.groups start length) (hlength : 2 ≤ length) :
      Canonical ip (joinGroups (ip.groups.take start) ++ ':' :: ':' ::
        joinGroups (ip.groups.drop (start + length)))
  | plain (hip : ¬[0, 0, 0, 0, 0, 0xFFFF] <+: ip.groups)
      (hrun : ∀ start length, ZeroRun ip.groups start length → length < 2) :
      Canonical ip (joinGroups ip.groups)

theorem octets_of_group (g : UInt16) :
    (g / 256).toUInt8.toUInt16 * 256 + (g % 256).toUInt8.toUInt16 = g := by
  have hg : g.toNat < 65536 := g.toNat_lt
  rw [← UInt16.toNat_inj]
  simp only [UInt16.toNat_add, UInt16.toNat_mul, UInt8.toNat_toUInt16, UInt16.toNat_toUInt8,
    UInt16.toNat_div, UInt16.toNat_mod, UInt16.reduceToNat]
  omega

theorem mapped?_eq_some {ip : Ipv6} {v4 : Ipv4} (h : ip.mapped? = some v4) :
    ip.groups = [0, 0, 0, 0, 0, 0xFFFF] ++ groupsOf v4 := by
  rw [mapped?] at h
  split at h
  · next g h' hgroups =>
    obtain rfl := Option.some.inj h
    simp only [hgroups, groupsOf, octets_of_group]
    rfl
  · cases h

theorem mapped?_eq_none {ip : Ipv6} (h : ip.mapped? = none) :
    ¬[0, 0, 0, 0, 0, 0xFFFF] <+: ip.groups := by
  rintro ⟨rest, hrest⟩
  have hlen : rest.length = 2 := by simpa [← hrest] using ip.length_eq
  obtain ⟨g, g', rfl⟩ := List.length_eq_two.1 hlen
  rw [mapped?, ← hrest] at h
  cases h

theorem render_canonical (ip : Ipv6) : ip.Canonical ip.render := by
  rw [render]
  split
  · next v4 h => exact .mapped (mapped?_eq_some h) (Ipv4.literal_render v4)
  · next h =>
    have hrun := longestRun_spec ip.groups
    dsimp only
    split
    · next hshort =>
      exact .plain (mapped?_eq_none h) fun _ _ hz => (hrun.length_le hz).trans_lt hshort
    · next hlong => exact .compressed (mapped?_eq_none h) hrun (not_lt.1 hlong)

theorem group_groupText (g : UInt16) : Group g (groupText g) where
  numeral := numeral_toDigits (by decide) g.toNat
  length_le := Nat.toDigits_length 16 g.toNat 4 (by decide) g.toNat_lt

/-- Groups that come after others have a colon in front. -/
theorem Groups.after {gs : List UInt16} {dotted : Bool} {cs : List Char} (hgs : gs ≠ [])
    (h : Groups true gs dotted cs) : Groups false gs dotted (':' :: cs) := by
  cases h with
  | nil => exact absurd rfl hgs
  | dotted _ ht => exact .dotted false ht
  | cons _ ht hrest => exact .cons false ht hrest

theorem Groups.cons_after {g : UInt16} {t : List Char} {gs : List UInt16} {dotted : Bool}
    {cs : List Char} (hg : Group g t) (hgs : gs ≠ []) (h : Groups true gs dotted cs) :
    Groups true (g :: gs) dotted (t ++ ':' :: cs) := .cons true hg (h.after hgs)

theorem groups_joinGroups (gs : List UInt16) : Groups true gs false (joinGroups gs) := by
  induction gs with
  | nil => exact .nil true
  | cons g gs ih =>
    cases gs with
    | nil =>
      have h : Groups true [g] false (groupText g ++ []) :=
        .cons true (group_groupText g) (.nil false)
      simpa [joinGroups] using h
    | cons g' gs =>
      have hjoin : joinGroups (g :: g' :: gs) = groupText g ++ ':' :: joinGroups (g' :: gs) := by
        simp [joinGroups]
      rw [hjoin]
      exact .cons_after (group_groupText g) (List.cons_ne_nil g' gs) ih

theorem Canonical.literal {ip : Ipv6} {cs : List Char} (h : ip.Canonical cs) : ip.Literal cs := by
  cases h with
  | @mapped v4 cs hip hcs =>
    have hffff : Group 0xFFFF "ffff".toList := group_groupText 0xFFFF
    have htail : Groups true (0xFFFF :: groupsOf v4) true ("ffff".toList ++ ':' :: cs) :=
      .cons_after hffff (List.cons_ne_nil _ _) (.dotted true hcs)
    have hgap : ip.groups = [] ++ List.replicate 5 0 ++ 0xFFFF :: groupsOf v4 := hip
    exact .gap (.nil true) htail (by decide) hgap
  | compressed _ hrun hlength =>
    exact .gap (groups_joinGroups _) (groups_joinGroups _) (Nat.zero_lt_of_lt hlength)
      (eq_of_zeroRun hrun.run)
  | plain => exact .full (groups_joinGroups _)

end Ipv6

inductive Address.Canonical : Address → List Char → Prop
  | v4 {ip : Ipv4} {cs : List Char} (h : ip.Literal cs) : Canonical (.v4 ip) cs
  | v6 {ip : Ipv6} {cs : List Char} (h : ip.Canonical cs) : Canonical (.v6 ip) cs

namespace Address

theorem text_canonical (a : Address) : a.Canonical a.text.toList := by
  rw [text, String.toList_ofList]
  cases a with
  | v4 ip => exact .v4 ip.literal_render
  | v6 ip => exact .v6 ip.render_canonical

theorem Canonical.literal {a : Address} {cs : List Char} (h : a.Canonical cs) : a.Literal cs := by
  cases h with
  | v4 h => exact .v4 h
  | v6 h => exact .v6 h.literal

theorem denotes_text (a : Address) : Denotes a.text a := .address a.text_canonical.literal

theorem hostOf_text (a : Address) : hostOf a.text = some a := hostOf_eq_some_iff.2 a.denotes_text

theorem text_injective : Function.Injective text := by
  intro a b h
  have hab : some a = some b := by rw [← hostOf_text a, h, hostOf_text b]
  exact Option.some.inj hab

theorem text_ne_empty (a : Address) : a.text ≠ "" := by
  intro h
  have hread := hostOf_text a
  rw [h] at hread
  cases hread

end Address

namespace SocketAddress

theorem literal_render (s : SocketAddress) : s.Literal s.render := by
  cases s with
  | v4 ip port => exact .v4 ip.literal_render (numeral_toDigits (by decide) _)
  | v6 ip port scope =>
    have hip : ip.Literal ip.render := ip.render_canonical.literal
    have hport : Numeral 10 port.toNat (Nat.toDigits 10 port.toNat) :=
      numeral_toDigits (by decide) _
    by_cases hscope : scope = 0
    · subst hscope
      simpa [render, portText] using Literal.v6 hip hport
    · have h := Literal.withScope hip (numeral_toDigits (by decide) scope.toNat) hport
      simpa [render, portText, hscope] using h

/-- The way through the text of a socket address loses nothing of it. -/
theorem ofText_text (s : SocketAddress) : ofText s.text = some s := by
  rw [ofText, text, String.toList_ofList]
  exact parse_eq_some_iff.2 s.literal_render

theorem hostOf_text (s : SocketAddress) : hostOf s.text = some s.address := by
  rw [hostOf, ofText_text]

end SocketAddress

end GracefulDrain.Net
