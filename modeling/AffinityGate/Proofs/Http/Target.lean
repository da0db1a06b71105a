import AffinityGate.Http.Uri
import AffinityGate.Proofs.Text.Utf8
import AffinityGate.Text.Blank
import AffinityGate.Text.Pieces

/-!
# Reading and writing request targets

`IsTarget` says which bytes are a path and query, and `IsAuthority` which are an authority.  An
origin form is read as its path and query (`parse_origin_iff`), an absolute form with a web scheme
as its authority and what follows it (`parse_web_iff`); the path and query of whatever is read can
be used again (`isTarget_pathAndQuery`), and writing gives back what was read (`text_of_slash`).
-/

namespace AffinityGate.Http.Uri

open Utf8 (continues decode?)

/-! ## Paths and queries -/

/-- A path and query: path bytes up to the first question mark, query bytes after it, and UTF-8
throughout. -/
structure IsTarget (t : Bytes) : Prop where
  path : ∀ b ∈ pathPart t, isPathByte b = true
  query : ∀ b ∈ (queryPart t).drop 1, isQueryByte b = true
  utf8 : (decode? t).isSome = true

theorem pathPart_append_queryPart (t : Bytes) : pathPart t ++ queryPart t = t :=
  List.takeWhile_append_dropWhile

/-- A query starts with its question mark. -/
theorem queryPart_cases (t : Bytes) : queryPart t = [] ∨ ∃ q, queryPart t = 0x3F :: q := by
  cases h : queryPart t with
  | nil => exact Or.inl rfl
  | cons b q =>
    have hb : b ∈ (t.dropWhile (· != 0x3F)).head? := by
      rw [show t.dropWhile (· != 0x3F) = b :: q from h]
      rfl
    have := head?_dropWhile_false hb
    exact Or.inr ⟨q, by simp_all⟩

theorem not_mem_of_pathByte {bs : Bytes} {b : UInt8} (hb : isPathByte b = false)
    (h : ∀ c ∈ bs, isPathByte c = true) : b ∉ bs := by
  intro hmem
  rw [h b hmem] at hb
  cases hb

/-- A path and query has no fragment. -/
theorem IsTarget.no_fragment {t : Bytes} (h : IsTarget t) : 0x23 ∉ t := by
  intro hmem
  rw [← pathPart_append_queryPart t] at hmem
  rcases List.mem_append.mp hmem with hpath | hquery
  · exact not_mem_of_pathByte (by decide) h.path hpath
  · rcases queryPart_cases t with hnil | ⟨q, hq⟩
    · rw [hnil] at hquery
      cases hquery
    · have hbytes := h.query
      rw [hq] at hquery hbytes
      rcases List.mem_cons.mp hquery with heq | hmem
      · cases heq
      · have := hbytes 0x23 hmem
        revert this
        decide

theorem checkTarget_eq_ok_iff {bs t : Bytes} :
    checkTarget bs = .ok t ↔ t = bs.takeWhile (· != 0x23) ∧ IsTarget t := by
  unfold checkTarget
  simp only
  split
  · rename_i hcheck
    simp only [Bool.and_eq_true, List.all_eq_true] at hcheck
    constructor
    · rintro h
      cases h
      exact ⟨rfl, hcheck.1.1, hcheck.1.2, hcheck.2⟩
    · rintro ⟨rfl, -⟩
      rfl
  · rename_i hcheck
    refine iff_of_false (fun h => by cases h) ?_
    rintro ⟨rfl, hpath, hquery, hutf8⟩
    simp only [Bool.and_eq_true, List.all_eq_true] at hcheck
    exact hcheck ⟨⟨hpath, hquery⟩, hutf8⟩

/-- What is a path and query is kept as it is. -/
theorem IsTarget.checkTarget {t : Bytes} (h : IsTarget t) : checkTarget t = .ok t :=
  checkTarget_eq_ok_iff.mpr ⟨(takeWhile_of_not_mem h.no_fragment).symm, h⟩

theorem pathPart_append {path : Bytes} (h : 0x3F ∉ path) (t : Bytes) :
    pathPart (path ++ t) = path ++ pathPart t :=
  List.takeWhile_append_of_pos fun _ hb => bne_iff_ne.mpr fun heq => h (heq ▸ hb)

theorem queryPart_append {path : Bytes} (h : 0x3F ∉ path) (t : Bytes) :
    queryPart (path ++ t) = queryPart t :=
  List.dropWhile_append_of_pos fun _ hb => bne_iff_ne.mpr fun heq => h (heq ▸ hb)

/-- A path in front of a path and query. -/
theorem isTarget_append_iff {path : Bytes} (hpath : 0x3F ∉ path)
    (hutf8 : (decode? path).isSome = true) {y : UInt8} (hy : continues y = false) (ys : Bytes) :
    IsTarget (path ++ y :: ys) ↔ (∀ b ∈ path, isPathByte b = true) ∧ IsTarget (y :: ys) := by
  constructor
  · intro h
    have hbytes := h.path
    have hquery := h.query
    rw [pathPart_append hpath] at hbytes
    rw [queryPart_append hpath] at hquery
    exact ⟨fun b hb => hbytes b (List.mem_append_left _ hb),
      fun b hb => hbytes b (List.mem_append_right _ hb), hquery,
      ((Utf8.decode?_append_isSome_iff path hy ys).mp h.utf8).2⟩
  · rintro ⟨hbytes, h⟩
    refine ⟨?_, ?_, (Utf8.decode?_append_isSome_iff path hy ys).mpr ⟨hutf8, h.utf8⟩⟩
    · rw [pathPart_append hpath]
      intro b hb
      rcases List.mem_append.mp hb with hb | hb
      · exact hbytes b hb
      · exact h.path b hb
    · rw [queryPart_append hpath]
      exact h.query

/-- A slash in front of a path and query. -/
theorem IsTarget.cons_slash {t : Bytes} (h : IsTarget t) : IsTarget (0x2F :: t) where
  path := by
    have hpart : pathPart (0x2F :: t) = 0x2F :: pathPart t := rfl
    rw [hpart]
    intro b hb
    rcases List.mem_cons.mp hb with rfl | hb
    · decide
    · exact h.path b hb
  query := h.query
  utf8 := (Utf8.decode?_cons_isSome_iff (by decide) t).mpr h.utf8

/-- ASCII path bytes, with ASCII query bytes behind a question mark. -/
theorem isTarget_of_ascii {path query : Bytes}
    (hpath : ∀ b ∈ path, isPathByte b = true ∧ b < 0x80)
    (hquery : ∀ b ∈ query, isQueryByte b = true ∧ b < 0x80) :
    IsTarget path ∧ IsTarget (path ++ 0x3F :: query) := by
  have hbytes : ∀ b ∈ path, isPathByte b = true := fun b hb => (hpath b hb).1
  have hplain : 0x3F ∉ path := not_mem_of_pathByte (by decide) hbytes
  have hutf8 : (decode? path).isSome = true :=
    Utf8.decode?_isSome_of_ascii fun b hb => (hpath b hb).2
  have htail : IsTarget (0x3F :: query) := by
    refine ⟨by simp [pathPart], fun b hb => (hquery b hb).1, ?_⟩
    refine Utf8.decode?_isSome_of_ascii fun b hb => ?_
    rcases List.mem_cons.mp hb with rfl | hb
    · decide
    · exact (hquery b hb).2
  constructor
  · have hpart := pathPart_append hplain []
    have hnone := queryPart_append hplain []
    rw [List.append_nil] at hpart hnone
    refine ⟨?_, ?_, hutf8⟩
    · rw [hpart]
      simpa [pathPart] using hbytes
    · rw [hnone]
      simp [queryPart]
  · exact (isTarget_append_iff hplain hutf8 (by decide) query).mpr ⟨hbytes, htail⟩

theorem isTarget_singleton {b : UInt8} (h : isPathByte b = true ∧ b < 0x80) : IsTarget [b] :=
  (isTarget_of_ascii (List.forall_mem_singleton.mpr h) (List.forall_mem_nil _)).1

theorem isTarget_slash : IsTarget [0x2F] :=
  isTarget_singleton (by decide)

/-! ## Lengths -/

/-- Whatever is read is within the length limit. -/
theorem length_le_of_parse {bs : Bytes} {u : Uri} (h : parse bs = .ok u) :
    bs.length ≤ maxLength := by
  unfold parse at h
  split at h
  · cases h
  · rename_i hlen
    exact Nat.not_lt.mp hlen

/-! ## Origin forms -/

/-- An origin form is read as its path and query. -/
theorem parse_origin_iff {bs : Bytes} {u : Uri} :
    parse (0x2F :: bs) = .ok u ↔ (0x2F :: bs).length ≤ maxLength ∧
      ∃ t, checkTarget (0x2F :: bs) = .ok t ∧ u = ⟨none, [], t⟩ := by
  unfold parse
  by_cases hlong : maxLength < (0x2F :: bs).length
  · rw [if_pos hlong]
    exact iff_of_false (fun h => by cases h) fun h => absurd h.1 (Nat.not_le.mpr hlong)
  · rw [if_neg hlong, and_iff_right (Nat.not_lt.mp hlong)]
    cases bs with
    | nil =>
      rw [isTarget_slash.checkTarget]
      simp [eq_comm]
    | cons b bs =>
      simp only
      cases checkTarget (0x2F :: b :: bs) with
      | error e => simp [Except.map]
      | ok t => simp [Except.map, eq_comm]

/-- A path and query that starts with a slash is an origin form. -/
theorem IsTarget.parse {bs : Bytes} (h : IsTarget (0x2F :: bs))
    (hlen : (0x2F :: bs).length ≤ maxLength) :
    parse (0x2F :: bs) = .ok ⟨none, [], 0x2F :: bs⟩ :=
  parse_origin_iff.mpr ⟨hlen, _, h.checkTarget, rfl⟩

/-- An origin form without a fragment is kept as it is. -/
theorem eq_of_parse_origin {bs : Bytes} {u : Uri} (h : parse (0x2F :: bs) = .ok u)
    (hno : 0x23 ∉ 0x2F :: bs) : u = ⟨none, [], 0x2F :: bs⟩ := by
  obtain ⟨-, t, htarget, rfl⟩ := parse_origin_iff.mp h
  rw [(checkTarget_eq_ok_iff.mp htarget).1, takeWhile_of_not_mem hno]

/-! ## Absolute forms -/

/-- The start of what is seen of an authority. -/
def unseen : Seen := ⟨0, false, false, false, false⟩

/-- An authority: not empty, of authority bytes, with its brackets and colons in place. -/
structure IsAuthority (bs : Bytes) : Prop where
  nonempty : bs ≠ []
  complete : ∃ seen, bs.foldlM Seen.step unseen = .ok seen ∧ seen.isComplete = true

/-- An authority ends at the first delimiter. -/
theorem cutAuthority_append_iff {authority tail : Bytes}
    (hopen : ∀ b ∈ authority, isDelimiter b = false)
    (hend : ∀ b ∈ tail.head?, isDelimiter b = true) {r : Bytes × Bytes} :
    cutAuthority (authority ++ tail) = .ok r ↔
      (∃ seen, authority.foldlM Seen.step unseen = .ok seen ∧ seen.isComplete = true) ∧
        r = (authority, tail) := by
  have hnot : ∀ b ∈ authority, (!isDelimiter b) = true := fun b hb => by rw [hopen b hb]; rfl
  have hstop : ∀ b ∈ tail.head?, (!isDelimiter b) = false := fun b hb => by rw [hend b hb]; rfl
  have htake : (authority ++ tail).takeWhile (!isDelimiter ·) = authority :=
    takeWhile_append_stop hnot hstop
  have hdrop : (authority ++ tail).dropWhile (!isDelimiter ·) = tail :=
    dropWhile_append_stop hnot hstop
  unfold cutAuthority
  simp only [htake, hdrop]
  rw [← unseen]
  cases authority.foldlM Seen.step unseen with
  | error e => exact iff_of_false (fun h => by cases h) fun ⟨⟨_, h, _⟩, _⟩ => by cases h
  | ok seen =>
    simp only
    split
    · rename_i hcomplete
      constructor
      · rintro h
        cases h
        exact ⟨⟨seen, rfl, hcomplete⟩, rfl⟩
      · rintro ⟨-, rfl⟩
        rfl
    · rename_i hopened
      refine iff_of_false (fun h => by cases h) ?_
      rintro ⟨⟨_, hseen, hcomplete⟩, -⟩
      cases hseen
      exact hopened hcomplete

/-- A target that is neither short nor an origin form. -/
theorem parseFull_eq_ok_iff {bs : Bytes} {u : Uri} :
    parseFull bs = .ok u ↔ ∃ scheme rest authority tail, cutScheme bs = .ok (scheme, rest) ∧
      cutAuthority rest = .ok (authority, tail) ∧
      ((scheme = none ∧ tail = [] ∧ u = ⟨none, authority, []⟩) ∨
        ∃ s t, scheme = some s ∧ authority ≠ [] ∧ checkTarget tail = .ok t ∧
          u = ⟨some s, authority, t⟩) := by
  unfold parseFull
  constructor
  · intro h
    cases hscheme : cutScheme bs with
    | error e =>
      rw [hscheme] at h
      cases h
    | ok cut =>
      obtain ⟨scheme, rest⟩ := cut
      cases hcut : cutAuthority rest with
      | error e =>
        simp only [hscheme, bind, Except.bind, hcut] at h
        cases h
      | ok found =>
        obtain ⟨authority, tail⟩ := found
        simp only [hscheme, bind, Except.bind, hcut] at h
        refine ⟨scheme, rest, authority, tail, rfl, hcut, ?_⟩
        cases scheme with
        | none =>
          cases tail with
          | nil =>
            cases h
            exact Or.inl ⟨rfl, rfl, rfl⟩
          | cons b tail => cases h
        | some s =>
          cases authority with
          | nil => cases h
          | cons a authority =>
            cases htarget : checkTarget tail with
            | error e =>
              simp only [htarget] at h
              cases h
            | ok t =>
              simp only [htarget] at h
              cases h
              exact Or.inr ⟨s, t, rfl, by simp, rfl, rfl⟩
  · rintro ⟨scheme, rest, authority, tail, hscheme, hcut, hrest⟩
    simp only [hscheme, bind, Except.bind, hcut]
    rcases hrest with ⟨rfl, rfl, rfl⟩ | ⟨s, t, rfl, hne, htarget, rfl⟩
    · rfl
    · cases authority with
      | nil => exact absurd rfl hne
      | cons a authority =>
        simp only [htarget]
        rfl

/-! ## Web schemes -/

/-- The schemes of base URLs. -/
def webSchemes : List String :=
  ["http", "https"]

/-- A base URL's scheme, its colon and its slashes, in front of what follows. -/
def afterScheme (scheme : String) (rest : Bytes) : Bytes :=
  Utf8.ofText scheme ++ 0x3A :: 0x2F :: 0x2F :: rest

theorem ofText_http : Utf8.ofText "http" = [0x68, 0x74, 0x74, 0x70] := by
  decide +kernel

theorem ofText_https : Utf8.ofText "https" = [0x68, 0x74, 0x74, 0x70, 0x73] := by
  decide +kernel

theorem ofText_scheme {scheme : String} (hs : scheme ∈ webSchemes) :
    Utf8.ofText scheme = [0x68, 0x74, 0x74, 0x70] ∨
      Utf8.ofText scheme = [0x68, 0x74, 0x74, 0x70, 0x73] := by
  simp only [webSchemes, List.mem_cons, List.not_mem_nil, or_false] at hs
  rcases hs with rfl | rfl
  · exact Or.inl ofText_http
  · exact Or.inr ofText_https

theorem cutScheme_afterScheme {scheme : String} (hs : scheme ∈ webSchemes) (rest : Bytes) :
    cutScheme (afterScheme scheme rest) = .ok (some (Utf8.ofText scheme), rest) := by
  unfold cutScheme afterScheme
  rw [ofText_http, ofText_https]
  rcases ofText_scheme hs with h | h
  · rw [h]
    rfl
  · rw [h]
    rfl

theorem parse_eq_parseFull {b c : UInt8} (hb : b ≠ 0x2F) {bs : Bytes}
    (hlen : (b :: c :: bs).length ≤ maxLength) :
    parse (b :: c :: bs) = parseFull (b :: c :: bs) := by
  unfold parse
  rw [if_neg (Nat.not_lt.mpr hlen)]
  split
  · rename_i h
    cases h
  · rename_i h
    cases h
  · rename_i h
    cases h
  · rename_i h
    cases h
  · rename_i h
    cases h
    exact absurd rfl hb
  · rfl

/-- An absolute form with a web scheme is read as its authority, if it is one, and what follows. -/
theorem parse_web_iff {scheme : String} (hs : scheme ∈ webSchemes) {authority tail : Bytes}
    (hopen : ∀ b ∈ authority, isDelimiter b = false)
    (hend : ∀ b ∈ tail.head?, isDelimiter b = true)
    (hlen : (afterScheme scheme (authority ++ tail)).length ≤ maxLength) {u : Uri} :
    parse (afterScheme scheme (authority ++ tail)) = .ok u ↔ IsAuthority authority ∧
      ∃ t, checkTarget tail = .ok t ∧ u = ⟨some (Utf8.ofText scheme), authority, t⟩ := by
  have hfull : parse (afterScheme scheme (authority ++ tail)) =
      parseFull (afterScheme scheme (authority ++ tail)) := by
    unfold afterScheme at hlen ⊢
    rcases ofText_scheme hs with h | h
    · rw [h] at hlen ⊢
      exact parse_eq_parseFull (by decide) hlen
    · rw [h] at hlen ⊢
      exact parse_eq_parseFull (by decide) hlen
  rw [hfull, parseFull_eq_ok_iff]
  constructor
  · rintro ⟨cut, rest, front, back, hscheme, hcut, hrest⟩
    rw [cutScheme_afterScheme hs] at hscheme
    cases hscheme
    obtain ⟨hcomplete, hparts⟩ := (cutAuthority_append_iff hopen hend).mp hcut
    cases hparts
    rcases hrest with ⟨hnone, -⟩ | ⟨s, t, hsome, hne, htarget, rfl⟩
    · cases hnone
    · cases hsome
      exact ⟨⟨hne, hcomplete⟩, t, htarget, rfl⟩
  · rintro ⟨⟨hne, hcomplete⟩, t, htarget, rfl⟩
    refine ⟨_, _, authority, tail, cutScheme_afterScheme hs _, ?_, Or.inr ⟨_, t, rfl, hne, htarget,
      rfl⟩⟩
    exact (cutAuthority_append_iff hopen hend).mpr ⟨hcomplete, rfl⟩

/-! ## Writing what was read -/

/-- A target whose path starts with a slash is written as it stands. -/
theorem text_of_slash {scheme : Bytes} {authority target : Bytes}
    (h : target.head? = some 0x2F) :
    (Uri.mk (some scheme) authority target).text =
      scheme ++ Utf8.ofText "://" ++ authority ++ target := by
  obtain ⟨rest, rfl⟩ : ∃ rest, target = 0x2F :: rest := by
    cases target with
    | nil => cases h
    | cons b rest =>
      cases h
      exact ⟨rest, rfl⟩
  have hsplit := pathPart_append_queryPart (0x2F :: rest)
  have hpath : (Uri.mk (some scheme) authority (0x2F :: rest)).path = pathPart (0x2F :: rest) := rfl
  unfold text query?
  rcases queryPart_cases (0x2F :: rest) with h | ⟨q, h⟩
  · rw [h, List.append_nil] at hsplit
    simp only [hpath, h, hsplit, List.append_nil]
  · rw [h] at hsplit
    simp only [hpath, h]
    rw [List.append_assoc, hsplit]

/-! ## What can be passed on -/

theorem isTarget_nil : IsTarget [] where
  path := by simp [pathPart]
  query := by simp [queryPart]
  utf8 := Utf8.decode?_isSome_of_ascii (by simp)

/-- Whatever is read, its path and query is one. -/
theorem isTarget_of_parse {bs : Bytes} {u : Uri} (h : parse bs = .ok u) : IsTarget u.target := by
  unfold parse at h
  split at h
  · cases h
  · split at h
    · cases h
    · cases h
      exact isTarget_slash
    · cases h
      exact isTarget_singleton (by decide)
    · split at h
      · cases h
      · split at h
        · cases h
          exact isTarget_nil
        · cases h
    · rename_i tail _ _
      cases htarget : checkTarget (0x2F :: tail) with
      | error e =>
        rw [htarget] at h
        cases h
      | ok t =>
        rw [htarget] at h
        cases h
        exact (checkTarget_eq_ok_iff.mp htarget).2
    · obtain ⟨scheme, rest, authority, tail, -, -, hrest⟩ := parseFull_eq_ok_iff.mp h
      rcases hrest with ⟨-, -, rfl⟩ | ⟨s, t, -, -, htarget, rfl⟩
      · exact isTarget_nil
      · exact (checkTarget_eq_ok_iff.mp htarget).2

/-- What is passed on of a target that was read is a path and query. -/
theorem isTarget_pathAndQuery {bs : Bytes} {u : Uri} (h : parse bs = .ok u) :
    IsTarget (u.pathAndQuery?.getD [0x2F]) := by
  unfold pathAndQuery?
  split
  · split
    · exact isTarget_slash
    · exact isTarget_of_parse h
  · exact isTarget_slash

end AffinityGate.Http.Uri
