import Mathlib
import GracefulDrain.Proofs.CanonicalAddress
import GracefulDrain.Proofs.PercentDecoding
import GracefulDrain.Service.Basic

namespace GracefulDrain.Http
open Net Text

/-- What can name the client of a request. -/
inductive Source
  | route
  | realIp
  | remote
  | peer
  deriving DecidableEq, Repr

/-- The sources, each before those that it goes before. -/
def Source.order : List Source := [.route, .realIp, .remote, .peer]

/-- A source names the client. The route does so only when all its parameters are UTF-8; a remote
address given as text hides the peer, also when it denotes nothing. -/
inductive Names (captures : List (String × List Char)) (r : Request) : Source → String → Prop
  | route {raw : List Char} {id : String}
      (hall : ∀ c ∈ captures, ∃ text,
        PercentDecoded (utf8Bytes (String.ofList c.2)) (utf8Bytes text))
      (hraw : captures.lookup "ip" = some raw)
      (hid : PercentDecoded (utf8Bytes (String.ofList raw)) (utf8Bytes id)) (hne : id ≠ "") :
      Names captures r .route id
  | realIp {id : String} (hfirst : r.headers.lookup "x-real-ip" = some id) (hne : id ≠ "")
      (hplain : ∀ c ∈ id.toList, c = '\t' ∨ (' ' ≤ c ∧ c ≤ '~')) : Names captures r .realIp id
  | remote {text : String} {a : Address} (hremote : r.remote = some text) (ha : Denotes text a) :
      Names captures r .remote a.text
  | peer {s : SocketAddress} (hremote : r.remote = none) (hpeer : r.peer = some s) :
      Names captures r .peer s.address.text

end GracefulDrain.Http

namespace GracefulDrain.Routing
open Text

theorem decodeCaptures?_cons (name : String) (cs : List Char) (rest : List (String × List Char)) :
    decodeCaptures? ((name, cs) :: rest) =
      (percentDecodeText? (String.ofList cs)).bind fun text =>
        (decodeCaptures? rest).map ((name, text) :: ·) := by
  simp only [decodeCaptures?, List.mapM_cons]
  cases percentDecodeText? (String.ofList cs) with
  | none => rfl
  | some text =>
    generalize List.mapM (m := Option) _ rest = decoded
    cases decoded <;> rfl

theorem exists_decodeCaptures? {captures : List (String × List Char)} :
    (∃ decoded, decodeCaptures? captures = some decoded) ↔
      ∀ c ∈ captures, ∃ text, percentDecodeText? (String.ofList c.2) = some text := by
  induction captures with
  | nil => simp [decodeCaptures?]
  | cons c rest ih =>
    obtain ⟨name, cs⟩ := c
    simp only [decodeCaptures?_cons, Option.bind_eq_some_iff, Option.map_eq_some_iff,
      List.forall_mem_cons, ← ih]
    constructor
    · rintro ⟨_, text, htext, decoded, hrest, -⟩
      exact ⟨⟨text, htext⟩, decoded, hrest⟩
    · rintro ⟨⟨text, htext⟩, decoded, hrest⟩
      exact ⟨_, text, htext, decoded, hrest, rfl⟩

theorem lookup_of_decodeCaptures? {captures : List (String × List Char)}
    {decoded : List (String × String)} (h : decodeCaptures? captures = some decoded)
    (key : String) :
    decoded.lookup key =
      (captures.lookup key).bind fun raw => percentDecodeText? (String.ofList raw) := by
  induction captures generalizing decoded with
  | nil =>
    cases h
    rfl
  | cons c rest ih =>
    rw [decodeCaptures?_cons] at h
    obtain ⟨text, htext, h⟩ := Option.bind_eq_some_iff.1 h
    obtain ⟨decodedRest, hrest, rfl⟩ := Option.map_eq_some_iff.1 h
    rw [List.lookup_cons, List.lookup_cons, ih hrest]
    split
    · exact htext.symm
    · rfl

end GracefulDrain.Routing

namespace GracefulDrain.Http
open Net Text Routing

variable {captures : List (String × List Char)} {r : Request} {id : String}

/-- The name that a source gives. -/
def Source.name? (captures : List (String × List Char)) (r : Request) : Source → Option String
  | .route => (Service.routeIp? captures).filter (· ≠ "")
  | .realIp => r.realIp.filter (· ≠ "")
  | .remote => (r.remote.bind hostOf).map Address.text
  | .peer => if r.remote = none then r.peer.map fun s => s.address.text else none

theorem names_route_iff :
    Names captures r .route id ↔ Source.name? captures r .route = some id := by
  simp only [Source.name?, Service.routeIp?, Option.filter_eq_some_iff, decide_eq_true_eq,
    Option.bind_eq_some_iff]
  constructor
  · intro h
    cases h with | route hall hraw hid hne
    simp only [← percentDecodeText?_eq_some_iff] at hall hid
    obtain ⟨decoded, hdecoded⟩ := exists_decodeCaptures?.2 hall
    refine ⟨⟨decoded, hdecoded, ?_⟩, hne⟩
    rw [lookup_of_decodeCaptures? hdecoded, hraw, Option.bind_some, hid]
  · rintro ⟨⟨decoded, hdecoded, hlookup⟩, hne⟩
    have hall := exists_decodeCaptures?.1 ⟨decoded, hdecoded⟩
    rw [lookup_of_decodeCaptures? hdecoded] at hlookup
    obtain ⟨raw, hraw, hid⟩ := Option.bind_eq_some_iff.1 hlookup
    simp only [percentDecodeText?_eq_some_iff] at hall hid
    exact .route hall hraw hid hne

theorem isPlainText_iff {s : String} :
    isPlainText s = true ↔ ∀ c ∈ s.toList, c = '\t' ∨ (' ' ≤ c ∧ c ≤ '~') := by
  have hspace : ' '.toNat = 0x20 := rfl
  have htilde : '~'.toNat = 0x7E := rfl
  simp only [isPlainText, List.all_eq_true, Bool.or_eq_true, Bool.and_eq_true, decide_eq_true_eq,
    Char.le_def, UInt32.le_iff_toNat_le, Char.toNat_val, hspace, htilde, Nat.lt_succ_iff]

theorem names_realIp_iff :
    Names captures r .realIp id ↔ Source.name? captures r .realIp = some id := by
  simp only [Source.name?, Request.realIp, Option.filter_eq_some_iff, decide_eq_true_eq,
    isPlainText_iff]
  constructor
  · intro h
    cases h with | realIp hfirst hne hplain
    exact ⟨⟨hfirst, hplain⟩, hne⟩
  · rintro ⟨⟨hfirst, hplain⟩, hne⟩
    exact .realIp hfirst hne hplain

theorem names_remote_iff :
    Names captures r .remote id ↔ Source.name? captures r .remote = some id := by
  simp only [Source.name?, Option.map_eq_some_iff, Option.bind_eq_some_iff, hostOf_eq_some_iff]
  constructor
  · intro h
    cases h with | remote hremote ha
    exact ⟨_, ⟨_, hremote, ha⟩, rfl⟩
  · rintro ⟨a, ⟨text, hremote, ha⟩, rfl⟩
    exact .remote hremote ha

theorem names_peer_iff :
    Names captures r .peer id ↔ Source.name? captures r .peer = some id := by
  simp only [Source.name?]
  constructor
  · intro h
    cases h with | peer hremote hpeer
    rw [if_pos hremote, hpeer, Option.map_some]
  · intro h
    split at h
    · next hremote =>
      obtain ⟨s, hpeer, rfl⟩ := Option.map_eq_some_iff.1 h
      exact .peer hremote hpeer
    · cases h

theorem names_iff (source : Source) :
    Names captures r source id ↔ source.name? captures r = some id := by
  cases source with
  | route => exact names_route_iff
  | realIp => exact names_realIp_iff
  | remote => exact names_remote_iff
  | peer => exact names_peer_iff

/-- The remote address and the peer share the last place in `resolveIdentity`. -/
theorem map_remoteText (captures : List (String × List Char)) (r : Request) :
    (r.remoteText.bind hostOf).map Address.text =
      (Source.name? captures r .remote).or (Source.name? captures r .peer) := by
  simp only [Source.name?, Request.remoteText]
  cases r.remote with
  | none =>
    cases r.peer with
    | none => rfl
    | some s => simp [SocketAddress.hostOf_text]
  | some text => simp

theorem resolveIdentity_eq_or (routeIp realIp remote : Option String) :
    resolveIdentity routeIp realIp remote =
      (routeIp.filter (· ≠ "")).or
        ((realIp.filter (· ≠ "")).or ((remote.bind hostOf).map Address.text)) := by
  rw [resolveIdentity]
  cases routeIp.filter (· ≠ "") with
  | some => rfl
  | none => cases realIp.filter (· ≠ "") <;> rfl

theorem identity_eq_findSome? (captures : List (String × List Char)) (r : Request) :
    (r.origin (Service.routeIp? captures)).identity =
      Source.order.findSome? (Source.name? captures r) := by
  have horder : Source.order =
      [Source.route] ++ ([Source.realIp] ++ ([Source.remote] ++ [Source.peer])) := rfl
  rw [Request.origin, resolveIdentity_eq_or, map_remoteText captures, horder]
  simp only [List.findSome?_append, List.findSome?_singleton]
  rfl

theorem Names.ne_empty {source : Source} (h : Names captures r source id) : id ≠ "" := by
  cases h with
  | route _ _ _ hne => exact hne
  | realIp _ hne => exact hne
  | remote => exact Address.text_ne_empty _
  | peer => exact Address.text_ne_empty _

theorem identity_eq_some_iff :
    (r.origin (Service.routeIp? captures)).identity = some id ↔
      ∃ before source after, Source.order = before ++ source :: after ∧
        Names captures r source id ∧ ∀ higher ∈ before, ∀ other, ¬Names captures r higher other := by
  rw [identity_eq_findSome?, List.findSome?_eq_some_iff]
  simp only [names_iff, ← Option.eq_none_iff_forall_ne_some]

theorem identity_of_first {before after : List Source} {source : Source}
    (horder : Source.order = before ++ source :: after)
    (h : (before ++ [source]).findSome? (Source.name? captures r) = some id) :
    (r.origin (Service.routeIp? captures)).identity = some id := by
  rw [identity_eq_findSome?, horder, List.append_cons, List.findSome?_append, h]
  rfl

theorem name?_eq_of_agree {captures' : List (String × List Char)} {r' : Request} {source : Source}
    (h : ∀ id, Names captures r source id ↔ Names captures' r' source id) :
    source.name? captures' r' = source.name? captures r := by
  refine Option.ext fun id => ?_
  rw [← names_iff, ← names_iff, h id]

/-- What comes after a source that gives a name has no part in the identity. -/
theorem identity_of_agree {captures' : List (String × List Char)} {r' : Request}
    {before after : List Source} {source : Source}
    (horder : Source.order = before ++ source :: after) (hid : Names captures r source id)
    (hagree : ∀ s ∈ before ++ [source], ∀ id, Names captures r s id ↔ Names captures' r' s id) :
    (r'.origin (Service.routeIp? captures')).identity =
      (r.origin (Service.routeIp? captures)).identity := by
  have hsome : ((before ++ [source]).findSome? (Source.name? captures r)).isSome := by
    rw [List.findSome?_isSome_iff]
    exact ⟨source, by simp, Option.isSome_iff_exists.2 ⟨id, (names_iff source).1 hid⟩⟩
  obtain ⟨first, hfirst⟩ := Option.isSome_iff_exists.1 hsome
  have hfirst' : (before ++ [source]).findSome? (Source.name? captures' r') = some first := by
    obtain ⟨l, s, l', hl, hs, hnone⟩ := List.findSome?_eq_some_iff.1 hfirst
    refine List.findSome?_eq_some_iff.2 ⟨l, s, l', hl, ?_, fun x hx => ?_⟩
    · rw [name?_eq_of_agree (hagree s (by simp [hl])), hs]
    · rw [name?_eq_of_agree (hagree x (by simp [hl, hx])), hnone x hx]
  rw [identity_of_first horder hfirst, identity_of_first horder hfirst']

/-- The identity is the name that the first source gives which gives one, never the empty text; and
two requests on which a source that gives a name and all before it agree have the same identity. -/
theorem identity_of_first_source (captures : List (String × List Char)) (r : Request) :
    (∀ id, (r.origin (Service.routeIp? captures)).identity = some id ↔
      ∃ before source after, Source.order = before ++ source :: after ∧
        Names captures r source id ∧
        ∀ higher ∈ before, ∀ other, ¬Names captures r higher other) ∧
    (r.origin (Service.routeIp? captures)).identity ≠ some "" ∧
    ∀ captures' r' before source after, Source.order = before ++ source :: after →
      (∃ id, Names captures r source id) →
      (∀ s ∈ before ++ [source], ∀ id, Names captures r s id ↔ Names captures' r' s id) →
      (r'.origin (Service.routeIp? captures')).identity =
        (r.origin (Service.routeIp? captures)).identity := by
  refine ⟨fun _ => identity_eq_some_iff, ?_, ?_⟩
  · intro h
    obtain ⟨_, _, _, -, hname, -⟩ := identity_eq_some_iff.1 h
    exact hname.ne_empty rfl
  · intro captures' r' before source after horder ⟨id, hid⟩ hagree
    exact identity_of_agree horder hid hagree

/-- An empty parameter leaves the decision to the first header of the name; neither a second one nor
the remote address, the peer, the method or the target has a part in it. -/
theorem identity_of_first_source_proxied :
    let captures : List (String × List Char) := [("ip", []), ("name", ['l', 'b'])]
    let r : Request := ⟨⟨"/probe//lb", none⟩, "GET",
      [("x-real-ip", "10.0.0.8"), ("x-real-ip", "10.0.0.9")], some "garbage", none⟩
    let r' : Request := ⟨⟨"/status.txt", some "deployer"⟩, "HEAD",
      [("host", "lb"), ("x-real-ip", "10.0.0.8")], none, some (.v4 ⟨10, 0, 0, 7⟩ 80)⟩
    Source.order = [Source.route] ++ Source.realIp :: [Source.remote, Source.peer] ∧
      (∃ id, Names captures r .realIp id) ∧
      (∀ s ∈ [Source.route] ++ [.realIp], ∀ id, Names captures r s id ↔ Names [] r' s id) ∧
      (r.origin (Service.routeIp? captures)).identity = some "10.0.0.8" ∧
      (r'.origin (Service.routeIp? [])).identity =
        (r.origin (Service.routeIp? captures)).identity := by
  intro captures r r'
  have hname : Names captures r .realIp "10.0.0.8" :=
    .realIp rfl (by decide) (isPlainText_iff.1 (by decide +kernel))
  have hnames : ∀ s ∈ [Source.route] ++ [.realIp], s.name? captures r = s.name? [] r' := by
    decide +kernel
  have hagree : ∀ s ∈ [Source.route] ++ [.realIp], ∀ id,
      Names captures r s id ↔ Names [] r' s id := by
    intro s hs id
    rw [names_iff, names_iff, hnames s hs]
  obtain ⟨hfirst, -, hsame⟩ := identity_of_first_source captures r
  refine ⟨rfl, ⟨_, hname⟩, hagree,
    (hfirst _).2 ⟨[.route], .realIp, [.remote, .peer], rfl, hname, ?_⟩,
    hsame [] r' [.route] .realIp [.remote, .peer] rfl ⟨_, hname⟩ hagree⟩
  intro higher hhigher other hother
  obtain rfl := List.mem_singleton.1 hhigher
  rw [names_iff, hnames .route (by simp)] at hother
  cases hother

theorem resolveIdentity_remote (text : String) :
    resolveIdentity none none (some text) = (hostOf text).map Address.text := rfl

theorem resolveIdentity_remote_eq_some_iff {text : String} :
    resolveIdentity none none (some text) = some id ↔ ∃ a, Denotes text a ∧ a.text = id := by
  simp only [resolveIdentity_remote, Option.map_eq_some_iff, hostOf_eq_some_iff]

/-- A remote address is resolved exactly when it denotes an address, to the canonical text of that
address; two remote addresses have the same identity exactly when they denote the same address; and
an identity is its own identity. -/
theorem remote_identity_canonical (remote other : String) :
    ((resolveIdentity none none (some remote)).isSome ↔ ∃ a, Denotes remote a) ∧
    (∀ a, Denotes remote a → a.Canonical a.text.toList ∧
      resolveIdentity none none (some remote) = some a.text) ∧
    ((∃ id, resolveIdentity none none (some remote) = some id ∧
        resolveIdentity none none (some other) = some id) ↔
      ∃ a, Denotes remote a ∧ Denotes other a) ∧
    (resolveIdentity none none (some remote)).bind (fun id => resolveIdentity none none (some id)) =
      resolveIdentity none none (some remote) := by
  refine ⟨?_, fun a ha => ⟨a.text_canonical, ?_⟩, ?_, ?_⟩
  · simp only [Option.isSome_iff_exists, resolveIdentity_remote_eq_some_iff]
    exact ⟨fun ⟨_, a, ha, _⟩ => ⟨a, ha⟩, fun ⟨a, ha⟩ => ⟨_, a, ha, rfl⟩⟩
  · exact resolveIdentity_remote_eq_some_iff.2 ⟨a, ha, rfl⟩
  · simp only [resolveIdentity_remote_eq_some_iff]
    constructor
    · rintro ⟨_, ⟨a, ha, rfl⟩, b, hb, hab⟩
      obtain rfl := Address.text_injective hab
      exact ⟨b, ha, hb⟩
    · rintro ⟨a, ha, hb⟩
      exact ⟨_, ⟨a, ha, rfl⟩, a, hb, rfl⟩
  · cases h : resolveIdentity none none (some remote) with
    | none => rfl
    | some id =>
      obtain ⟨a, -, rfl⟩ := resolveIdentity_remote_eq_some_iff.1 h
      exact resolveIdentity_remote_eq_some_iff.2 ⟨a, a.denotes_text, rfl⟩

/-- Two spellings of a mapped address are one client; the address that is mapped is another. -/
theorem remote_identity_canonical_mapped :
    let ip : Address := .v6 ⟨[0, 0, 0, 0, 0, 0xFFFF, 0x0102, 0x0304], rfl⟩
    Denotes "[0:0::FFFF:1.2.3.4%7]:0080" ip ∧ Denotes "::0000:ffff:102:304" ip ∧
      resolveIdentity none none (some "[0:0::FFFF:1.2.3.4%7]:0080") = some "::ffff:1.2.3.4" ∧
      resolveIdentity none none (some "::0000:ffff:102:304") = some "::ffff:1.2.3.4" ∧
      ¬∃ id, resolveIdentity none none (some "[0:0::FFFF:1.2.3.4%7]:0080") = some id ∧
        resolveIdentity none none (some "1.2.3.4:80") = some id := by
  intro ip
  have hfirst : Denotes "[0:0::FFFF:1.2.3.4%7]:0080" ip :=
    hostOf_eq_some_iff.1 (by decide +kernel)
  have hsecond : Denotes "::0000:ffff:102:304" ip := hostOf_eq_some_iff.1 (by decide +kernel)
  have htext : ip.text = "::ffff:1.2.3.4" := by decide +kernel
  obtain ⟨-, hid, hsame, -⟩ :=
    remote_identity_canonical "[0:0::FFFF:1.2.3.4%7]:0080" "1.2.3.4:80"
  obtain ⟨-, hid', -⟩ := remote_identity_canonical "::0000:ffff:102:304" ""
  refine ⟨hfirst, hsecond, ?_, ?_, fun h => ?_⟩
  · rw [(hid ip hfirst).2, htext]
  · rw [(hid' ip hsecond).2, htext]
  · obtain ⟨a, ha, ha'⟩ := hsame.1 h
    have hinner : Denotes "1.2.3.4:80" (.v4 ⟨1, 2, 3, 4⟩) :=
      hostOf_eq_some_iff.1 (by decide +kernel)
    exact Address.noConfusion ((hfirst.unique ha).trans (ha'.unique hinner))

/-- Without another name for the client, its end of the connection names it: the way through the
text of the socket address loses neither the peer nor its address. -/
theorem peer_identified (captures : List (String × List Char)) (r : Request) (s : SocketAddress)
    (hroute : ∀ id, ¬Names captures r .route id) (hrealIp : ∀ id, ¬Names captures r .realIp id)
    (hremote : r.remote = none) (hpeer : r.peer = some s) :
    (r.origin (Service.routeIp? captures)).identity = some s.address.text ∧
      s.address.Canonical s.address.text.toList ∧ hostOf s.text = some s.address := by
  refine ⟨?_, s.address.text_canonical, s.hostOf_text⟩
  refine identity_eq_some_iff.2
    ⟨[.route, .realIp, .remote], .peer, [], rfl, .peer hremote hpeer, ?_⟩
  simp only [List.mem_cons, List.not_mem_nil, or_false]
  rintro _ (rfl | rfl | rfl) id h
  · exact hroute id h
  · exact hrealIp id h
  · cases h with | remote htext
    rw [hremote] at htext
    cases htext

/-- A mapped address with a scope, behind an empty header. -/
theorem peer_identified_mapped :
    let ip : Ipv6 := ⟨[0, 0, 0, 0, 0, 0xFFFF, 0x0A00, 0x0005], rfl⟩
    let s : SocketAddress := .v6 ip 4000 7
    let r : Request := ⟨⟨"/status.txt", none⟩, "GET", [("x-real-ip", "")], none, some s⟩
    (∀ id, ¬Names [] r .route id) ∧ (∀ id, ¬Names [] r .realIp id) ∧ r.remote = none ∧
      r.peer = some s ∧ s.text = "[::ffff:10.0.0.5%7]:4000" ∧
      (r.origin (Service.routeIp? [])).identity = some "::ffff:10.0.0.5" := by
  intro ip s r
  have hroute (id : String) : ¬Names [] r .route id := by
    rw [names_iff]
    exact nofun
  have hrealIp (id : String) : ¬Names [] r .realIp id := by
    rw [names_iff]
    exact nofun
  have htext : s.text = "[::ffff:10.0.0.5%7]:4000" := by decide +kernel
  have hip : s.address.text = "::ffff:10.0.0.5" := by decide +kernel
  refine ⟨hroute, hrealIp, rfl, rfl, htext, ?_⟩
  rw [← hip]
  exact (peer_identified [] r s hroute hrealIp rfl rfl).1

end GracefulDrain.Http
