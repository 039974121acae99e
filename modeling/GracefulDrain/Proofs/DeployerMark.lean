import Mathlib
import GracefulDrain.Http.Request
import GracefulDrain.Proofs.PercentDecoding

/-! A request carries the mark when some segment of its query has the key that marks it. The query
and its segments are described by where they stand in the target; how the target is parsed, and that
the segments are cut out of its bytes, has no part in it. -/
namespace GracefulDrain.Text

section
variable {α : Type} {a sep : α} {front piece text : List α}

/-- What stands before the first such item; the whole text where there is none. -/
def UpTo (a : α) (front text : List α) : Prop :=
  a ∉ front ∧ (text = front ∨ ∃ rest, text = front ++ a :: rest)

/-- What stands between two separators that follow each other, or up to an end of the text. -/
def Piece (sep : α) (piece text : List α) : Prop :=
  ∃ front rest, text = front ++ rest ∧ (front = [] ∨ ∃ before, front = before ++ [sep]) ∧
    UpTo sep piece rest

variable [DecidableEq α]

theorem upTo_iff : UpTo a front text ↔ text.takeWhile (· ≠ a) = front := by
  constructor
  · rintro ⟨hno, rfl | ⟨rest, rfl⟩⟩
    · exact List.takeWhile_eq_self_iff.2 (all_ne_of_not_mem hno)
    · exact takeWhile_append_cons hno rest
  · rintro rfl
    by_cases h : a ∈ text
    · obtain ⟨front, rest, rfl, hno⟩ := List.eq_append_cons_of_mem h
      rw [takeWhile_append_cons hno]
      exact ⟨hno, .inr ⟨rest, rfl⟩⟩
    · rw [List.takeWhile_eq_self_iff.2 (all_ne_of_not_mem h)]
      exact ⟨h, .inl rfl⟩

theorem piece_of_mem_splitOn {text : List α} (h : piece ∈ splitOn sep text) :
    Piece sep piece text := by
  by_cases hsep : sep ∈ text
  · obtain ⟨front, rest, rfl, hno⟩ := List.eq_append_cons_of_mem hsep
    rw [splitOn_append_cons, splitOn_of_not_mem hno] at h
    obtain rfl | h := List.mem_cons.1 h
    · exact ⟨[], _, rfl, .inl rfl, hno, .inr ⟨rest, rfl⟩⟩
    · obtain ⟨before, rest, rfl, hbefore, hpiece⟩ := piece_of_mem_splitOn h
      refine ⟨front ++ sep :: before, rest, by simp, .inr ?_, hpiece⟩
      obtain rfl | ⟨before, rfl⟩ := hbefore
      · exact ⟨front, rfl⟩
      · exact ⟨front ++ sep :: before, by simp⟩
  · rw [splitOn_of_not_mem hsep, List.mem_singleton] at h
    subst h
    exact ⟨[], _, rfl, .inl rfl, hsep, .inl rfl⟩
termination_by text.length

theorem mem_splitOn_iff : piece ∈ splitOn sep text ↔ Piece sep piece text := by
  refine ⟨piece_of_mem_splitOn, ?_⟩
  rintro ⟨front, rest, rfl, hfront, hno, hrest⟩
  have hmem : piece ∈ splitOn sep rest := by
    obtain rfl | ⟨rest, rfl⟩ := hrest
    · simp [splitOn_of_not_mem hno]
    · simp [splitOn_append_cons, splitOn_of_not_mem hno]
  obtain rfl | ⟨before, rfl⟩ := hfront
  · exact hmem
  · rw [List.append_assoc, List.singleton_append, splitOn_append_cons]
    exact List.mem_append_right _ hmem

end

variable {c : Char}

theorem ofNat_toNat_not_mem {d : Char} (hc : c.toNat < 128) (hd : d ≠ c) :
    UInt8.ofNat c.toNat ∉ String.utf8EncodeChar d := by
  rwa [mem_utf8EncodeChar_iff hc]

theorem splitOn_flatMap (hc : c.toNat < 128) (cs : List Char) :
    splitOn (UInt8.ofNat c.toNat) (cs.flatMap String.utf8EncodeChar) =
      (splitOn c cs).map (List.flatMap String.utf8EncodeChar) := by
  induction cs with
  | nil => rfl
  | cons d cs ih =>
    rw [List.flatMap_cons, splitOn]
    by_cases hd : d = c
    · subst hd
      rw [utf8EncodeChar_of_lt hc, List.singleton_append, splitOn, if_pos rfl, if_pos rfl, ih]
      rfl
    · rw [if_neg hd]
      cases hpieces : splitOn c cs with
      | nil => exact absurd hpieces (splitOn_ne_nil c cs)
      | cons piece pieces =>
        rw [hpieces] at ih
        rw [splitOn_append_of_not_mem (ofNat_toNat_not_mem hc hd) ih]
        rfl

theorem takeWhile_flatMap (hc : c.toNat < 128) (cs : List Char) :
    (cs.flatMap String.utf8EncodeChar).takeWhile (· ≠ UInt8.ofNat c.toNat) =
      (cs.takeWhile (· ≠ c)).flatMap String.utf8EncodeChar := by
  induction cs with
  | nil => rfl
  | cons d cs ih =>
    rw [List.flatMap_cons, List.takeWhile_cons]
    by_cases hd : d = c
    · subst hd
      rw [utf8EncodeChar_of_lt hc]
      simp
    · rw [List.takeWhile_append_of_pos (all_ne_of_not_mem (ofNat_toNat_not_mem hc hd)), ih]
      rw [if_pos (decide_eq_true hd), List.flatMap_cons]

theorem map_flatMap {e : Char} (hc : c.toNat < 128) (he : e.toNat < 128) (cs : List Char) :
    (cs.flatMap String.utf8EncodeChar).map
        (fun b => if b = UInt8.ofNat c.toNat then UInt8.ofNat e.toNat else b) =
      (cs.map fun d => if d = c then e else d).flatMap String.utf8EncodeChar := by
  rw [List.map_flatMap, List.flatMap_map]
  refine congrArg (cs.flatMap ·) (funext fun d => ?_)
  by_cases hd : d = c
  · subst hd
    rw [utf8EncodeChar_of_lt hc, if_pos rfl, utf8EncodeChar_of_lt he]
    simp
  · rw [if_neg hd]
    refine (List.map_congr_left fun b hb => if_neg ?_).trans (List.map_id _)
    exact ne_of_mem_of_not_mem hb (ofNat_toNat_not_mem hc hd)

end GracefulDrain.Text

namespace GracefulDrain.Http
open Text

/-- Of what stands before the fragment, the query is what follows the first question mark. -/
def QueryOf (query target : List Char) : Prop :=
  ∃ path, '?' ∉ path ∧ UpTo '#' (path ++ '?' :: query) target

/-- A key stands before the first equals sign of its segment, as it is written. -/
def KeyOf (key target : List Char) : Prop :=
  ∃ query segment, QueryOf query target ∧ Piece '&' segment query ∧ UpTo '=' key segment

/-- Reading plus signs as spaces and then decoding its escapes, the key is the marking one. -/
def MarkingKey (key : List Char) : Prop :=
  PercentDecoded (utf8Bytes (String.ofList (key.map fun c => if c = '+' then ' ' else c)))
    (utf8Bytes "deployer")

variable {query target key front cs : List Char}

theorem queryOf_iff :
    QueryOf query target ↔ (target.takeWhile (· ≠ '#')).dropWhile (· ≠ '?') = '?' :: query := by
  simp only [QueryOf, upTo_iff]
  constructor
  · rintro ⟨path, hpath, h⟩
    rw [h, dropWhile_append_cons hpath]
  · intro h
    refine ⟨(target.takeWhile (· ≠ '#')).takeWhile (· ≠ '?'), ?_, ?_⟩
    · exact (upTo_iff.2 rfl).1
    · rw [← h, List.takeWhile_append_dropWhile]

theorem QueryOf.unique {query' : List Char} (h : QueryOf query target)
    (h' : QueryOf query' target) : query = query' := by
  rw [queryOf_iff] at h h'
  exact List.cons_inj_right _ |>.1 (h.symm.trans h')

theorem keyOf_iff (h : QueryOf query target) :
    KeyOf key target ↔ ∃ segment ∈ splitOn '&' query, segment.takeWhile (· ≠ '=') = key := by
  simp only [mem_splitOn_iff, ← upTo_iff]
  constructor
  · rintro ⟨query', segment, hquery', hsegment, hkey⟩
    rw [← h.unique hquery'] at hsegment
    exact ⟨segment, hsegment, hkey⟩
  · rintro ⟨segment, hsegment, hkey⟩
    exact ⟨query, segment, h, hsegment, hkey⟩

theorem queryOf_append (hquestion : '?' ∉ front) (hhash : '#' ∉ front) :
    QueryOf query (front ++ cs) ↔ QueryOf query cs := by
  rw [queryOf_iff, queryOf_iff, List.takeWhile_append_of_pos (all_ne_of_not_mem hhash),
    List.dropWhile_append_of_pos (all_ne_of_not_mem hquestion)]

theorem queryOf_dropWhile {p : Char → Bool} (hquestion : p '?' = false) (hhash : p '#' = false) :
    QueryOf query (cs.dropWhile p) ↔ QueryOf query cs := by
  have hnot {c : Char} (hc : p c = false) : c ∉ cs.takeWhile p :=
    fun hmem => absurd (List.mem_takeWhile_imp hmem) (by simp [hc])
  rw [← queryOf_append (hnot hquestion) (hnot hhash), List.takeWhile_append_dropWhile]

theorem not_queryOf (h : '?' ∉ target) : ¬QueryOf query target := by
  rintro ⟨path, -, -, rfl | ⟨rest, rfl⟩⟩ <;> simp at h

theorem queryOf_question : QueryOf query ('?' :: cs) ↔ cs.takeWhile (· ≠ '#') = query := by
  rw [queryOf_iff, List.takeWhile_cons_of_pos (by decide), List.dropWhile_cons_of_neg (by simp),
    List.cons_inj_right]

theorem not_queryOf_hash : ¬QueryOf query ('#' :: cs) := by
  rw [queryOf_iff, List.takeWhile_cons_of_neg (by simp)]
  exact nofun

namespace Uri

theorem takeWhile_isQueryChar {rest : List Char}
    (h : rest.dropWhile isQueryChar = [] ∨ ∃ t, rest.dropWhile isQueryChar = '#' :: t) :
    rest.takeWhile (· ≠ '#') = rest.takeWhile isQueryChar := by
  have hrest := List.takeWhile_append_dropWhile (p := isQueryChar) (l := rest)
  refine upTo_iff.1 ⟨fun hc => absurd (List.mem_takeWhile_imp hc) (by decide), ?_⟩
  obtain h | ⟨t, h⟩ := h
  · rw [h, List.append_nil] at hrest
    exact .inl hrest.symm
  · rw [h] at hrest
    exact .inr ⟨t, hrest.symm⟩

theorem query_of_parsePathAndQuery {path : List Char} {parsed : Option (List Char)}
    (h : parsePathAndQuery cs = some (path, parsed)) : parsed = some query ↔ QueryOf query cs := by
  rw [← queryOf_dropWhile (p := isPathChar) rfl rfl]
  simp only [parsePathAndQuery] at h
  split at h
  · next hrest =>
    cases h
    rw [hrest]
    exact iff_of_false nofun (not_queryOf (by simp))
  · next hrest =>
    cases h
    rw [hrest]
    exact iff_of_false nofun not_queryOf_hash
  · next rest hrest =>
    rw [hrest, queryOf_question]
    split at h
    · next hend =>
      cases h
      rw [takeWhile_isQueryChar (.inl hend), Option.some_inj]
    · next t hend =>
      cases h
      rw [takeWhile_isQueryChar (.inr ⟨t, hend⟩), Option.some_inj]
    · cases h
  · cases h

theorem query_ofParts {path : List Char} {parsed : Option (List Char)} :
    (ofParts path parsed).query = some (String.ofList query) ↔ parsed = some query := by
  simp only [ofParts, Option.map_eq_some_iff, String.ofList_inj, exists_eq_right]

theorem query_of_parseAbsolute {u : Uri} (h : parseAbsolute cs = some u) :
    u.query = some (String.ofList query) ↔ QueryOf query cs := by
  simp only [parseAbsolute, Option.bind_eq_bind, Option.bind_eq_some_iff] at h
  obtain ⟨-, -, ⟨path, parsed⟩, hparsed, h⟩ := h
  obtain rfl := Option.some.inj h
  rw [query_ofParts, query_of_parsePathAndQuery hparsed, queryOf_dropWhile rfl rfl]

theorem question_not_mem_of_isAuthority (h : isAuthority cs = true) : '?' ∉ cs := by
  intro hmem
  obtain ⟨front, rest, rfl⟩ := List.append_of_mem hmem
  have hstep (s : AuthorityState) : s.step? '?' = none := by
    simp [AuthorityState.step?, isAuthorityChar]
  simp [isAuthority, List.foldlM_append, hstep] at h

theorem queryOf_of_splitScheme {scheme rest : List Char}
    (h : splitScheme cs = some (scheme, rest)) : QueryOf query rest ↔ QueryOf query cs := by
  simp only [splitScheme] at h
  split at h
  · next hrest =>
    cases h
    have hscheme : QueryOf query (cs.dropWhile isSchemeChar) ↔ QueryOf query cs :=
      queryOf_dropWhile (by simp [isSchemeChar]) (by simp [isSchemeChar])
    rw [hrest] at hscheme
    have hmarks : QueryOf query ([':', '/', '/'] ++ rest) ↔ QueryOf query rest :=
      queryOf_append (by simp) (by simp)
    exact hmarks.symm.trans hscheme
  · cases h

theorem query_of_parse {u : Uri} (h : parse cs = some u) :
    u.query = some (String.ofList query) ↔ QueryOf query cs := by
  unfold parse at h
  split at h
  · cases h
  · cases h
    exact iff_of_false nofun (not_queryOf (by decide))
  · obtain ⟨⟨path, parsed⟩, hparsed, rfl⟩ := Option.map_eq_some_iff.1 h
    exact query_ofParts.trans (query_of_parsePathAndQuery hparsed)
  · split at h
    · next scheme rest hsplit =>
      split at h
      · cases h
      · rw [query_of_parseAbsolute h, queryOf_of_splitScheme hsplit]
    · split at h
      · next hauthority =>
        cases h
        exact iff_of_false nofun (not_queryOf (question_not_mem_of_isAuthority hauthority))
      · cases h

theorem query_of_parse? {target : String} {u : Uri} (h : parse? target = some u) :
    u.query = some (String.ofList query) ↔ QueryOf query target.toList := by
  rw [parse?] at h
  split at h
  · cases h
  · exact query_of_parse h

end Uri

namespace Query

theorem keyOf_flatMap (segment : List Char) :
    keyOf (segment.flatMap String.utf8EncodeChar) =
      percentDecode (utf8Bytes (String.ofList
        ((segment.takeWhile (· ≠ '=')).map fun c => if c = '+' then ' ' else c))) := by
  have hequals := takeWhile_flatMap (c := '=') (by decide) segment
  have hplus := map_flatMap (c := '+') (e := ' ') (by decide) (by decide)
    (segment.takeWhile (· ≠ '='))
  rw [utf8Bytes_ofList, ← hplus, ← hequals]
  rfl

theorem marksDeployer_iff :
    marksDeployer (String.ofList query) = true ↔
      ∃ segment key, Piece '&' segment query ∧ UpTo '=' key segment ∧ MarkingKey key := by
  have hsplit : splitOn 0x26 (utf8Bytes (String.ofList query)) =
      (splitOn '&' query).map (List.flatMap String.utf8EncodeChar) := by
    rw [utf8Bytes_ofList]
    exact splitOn_flatMap (c := '&') (by decide) query
  simp only [marksDeployer, hsplit, List.any_map, List.any_eq_true, mem_splitOn_iff,
    Function.comp_apply, decide_eq_true_eq, keyOf_flatMap, upTo_iff, MarkingKey,
    percentDecoded_iff]
  constructor
  · rintro ⟨segment, hsegment, hkey⟩
    exact ⟨segment, _, hsegment, rfl, hkey⟩
  · rintro ⟨segment, _, hsegment, rfl, hkey⟩
    exact ⟨segment, hsegment, hkey⟩

theorem marksDeployer_append (q₁ q₂ : List Char) :
    marksDeployer (String.ofList (q₁ ++ '&' :: q₂)) =
      (marksDeployer (String.ofList q₁) || marksDeployer (String.ofList q₂)) := by
  simp only [marksDeployer, utf8Bytes_ofList, List.flatMap_append, List.flatMap_cons]
  rw [utf8EncodeChar_of_lt (by decide), List.singleton_append, ← List.any_append]
  exact congrArg (List.any · _) (splitOn_append_cons _ _ _)

end Query

variable {r : Request}

theorem isDeployer_of_queryOf {target : String} (h : Uri.parse? target = some r.uri)
    (hquery : QueryOf query target.toList) :
    r.isDeployer = Query.marksDeployer (String.ofList query) := by
  rw [Request.isDeployer, (Uri.query_of_parse? h).2 hquery]
  rfl

theorem isDeployer_iff {target : String} (h : Uri.parse? target = some r.uri) :
    r.isDeployer = true ↔ ∃ key, KeyOf key target.toList ∧ MarkingKey key := by
  constructor
  · intro hr
    cases hq : r.uri.query with
    | none => simp [Request.isDeployer, hq] at hr
    | some q =>
      have hquery : QueryOf q.toList target.toList :=
        (Uri.query_of_parse? h).1 (by rw [hq, String.ofList_toList])
      rw [isDeployer_of_queryOf h hquery] at hr
      obtain ⟨segment, key, hsegment, hkey, hmarks⟩ := Query.marksDeployer_iff.1 hr
      exact ⟨key, ⟨_, segment, hquery, hsegment, hkey⟩, hmarks⟩
  · rintro ⟨key, ⟨query, segment, hquery, hsegment, hkey⟩, hmarks⟩
    rw [isDeployer_of_queryOf h hquery]
    exact Query.marksDeployer_iff.2 ⟨segment, key, hsegment, hkey, hmarks⟩

/-- A request is marked exactly when its target has a marking key; a query of two parts marks it
exactly when one of the parts would; and nothing but the keys has a part in it. -/
theorem deployer_marked_by_key (target : String) (r : Request)
    (h : Uri.parse? target = some r.uri) :
    (r.isDeployer = true ↔ ∃ key, KeyOf key target.toList ∧ MarkingKey key) ∧
    (∀ q₁ q₂ target₁ target₂, ∀ r₁ r₂ : Request, Uri.parse? target₁ = some r₁.uri →
      Uri.parse? target₂ = some r₂.uri → QueryOf (q₁ ++ '&' :: q₂) target.toList →
      QueryOf q₁ target₁.toList → QueryOf q₂ target₂.toList →
      r.isDeployer = (r₁.isDeployer || r₂.isDeployer)) ∧
    ∀ target', ∀ r' : Request, Uri.parse? target' = some r'.uri →
      (∀ key, KeyOf key target.toList ↔ KeyOf key target'.toList) →
      r'.isDeployer = r.isDeployer := by
  refine ⟨isDeployer_iff h, ?_, ?_⟩
  · intro q₁ q₂ target₁ target₂ r₁ r₂ h₁ h₂ hquery hquery₁ hquery₂
    rw [isDeployer_of_queryOf h hquery, isDeployer_of_queryOf h₁ hquery₁,
      isDeployer_of_queryOf h₂ hquery₂, Query.marksDeployer_append]
  · intro target' r' h' hkeys
    rw [Bool.eq_iff_iff, isDeployer_iff h, isDeployer_iff h']
    simp only [hkeys]

/-- An escaped key behind another, with a value and a fragment; the two parts on their own; and the
same keys the other way round, without values. -/
theorem deployer_marked_by_key_escaped :
    let request (path query : String) : Request := ⟨⟨path, some query⟩, "GET", [], none, none⟩
    let r := request "/status.txt" "x=1&%64eployer=0"
    let r₁ := request "/a" "x=1"
    let r₂ := request "/b" "%64eployer=0"
    let r' := request "/" "%64eployer&x"
    Uri.parse? "/status.txt?x=1&%64eployer=0#end" = some r.uri ∧
      Uri.parse? "/a?x=1" = some r₁.uri ∧ Uri.parse? "/b?%64eployer=0" = some r₂.uri ∧
      Uri.parse? "/?%64eployer&x" = some r'.uri ∧
      r.isDeployer = true ∧ (r₁.isDeployer || r₂.isDeployer) = true ∧ r'.isDeployer = true := by
  intro request r r₁ r₂ r'
  have hparse : Uri.parse? "/status.txt?x=1&%64eployer=0#end" = some r.uri := by decide +kernel
  have hparse₁ : Uri.parse? "/a?x=1" = some r₁.uri := by decide +kernel
  have hparse₂ : Uri.parse? "/b?%64eployer=0" = some r₂.uri := by decide +kernel
  have hparse' : Uri.parse? "/?%64eployer&x" = some r'.uri := by decide +kernel
  have hquery : QueryOf "x=1&%64eployer=0".toList
      "/status.txt?x=1&%64eployer=0#end".toList := queryOf_iff.2 (by decide +kernel)
  have hquery₁ : QueryOf "x=1".toList "/a?x=1".toList := queryOf_iff.2 (by decide +kernel)
  have hquery₂ : QueryOf "%64eployer=0".toList "/b?%64eployer=0".toList :=
    queryOf_iff.2 (by decide +kernel)
  have hquery' : QueryOf "%64eployer&x".toList "/?%64eployer&x".toList :=
    queryOf_iff.2 (by decide +kernel)
  have hsegments : splitOn '&' "x=1&%64eployer=0".toList =
      ["x=1".toList, "%64eployer=0".toList] := by decide +kernel
  have hsegments' : splitOn '&' "%64eployer&x".toList =
      ["%64eployer".toList, "x".toList] := by decide +kernel
  have hkeys (key : List Char) : KeyOf key "/status.txt?x=1&%64eployer=0#end".toList ↔
      KeyOf key "/?%64eployer&x".toList := by
    rw [keyOf_iff hquery, keyOf_iff hquery', hsegments, hsegments']
    simp [or_comm]
  obtain ⟨hmarked, hparts, hsame⟩ := deployer_marked_by_key _ r hparse
  have hr : r.isDeployer = true := hmarked.2 ⟨"%64eployer".toList, (keyOf_iff hquery).2
    ⟨"%64eployer=0".toList, by decide +kernel, by decide +kernel⟩,
    percentDecoded_iff.2 (by decide +kernel)⟩
  refine ⟨hparse, hparse₁, hparse₂, hparse', hr, ?_, ?_⟩
  · rw [← hr, hparts _ _ _ _ r₁ r₂ hparse₁ hparse₂ hquery hquery₁ hquery₂]
  · rw [← hr, hsame _ r' hparse' hkeys]

end GracefulDrain.Http
