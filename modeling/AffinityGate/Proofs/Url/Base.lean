import AffinityGate.Host.Url
import AffinityGate.Proofs.Url.Authority

/-!
# Base URLs with blanks and slashes around them

Two readers look at the URL of a host: one at the text as it is configured, one at the text less
its surrounding blanks and its final slashes.  `isBase_stored` says that the second accepts what
the first accepts, as soon as the stripped text starts with a scheme and two slashes.
-/

namespace AffinityGate.Url

open Unicode

/-! ## Cleaning from both ends -/

/-- Characters that are disregarded at the ends of a URL. -/
def isEdge (c : Char) : Bool :=
  c.toNat ≤ 0x20

/-- Characters that are disregarded anywhere in a URL. -/
def isBreak (c : Char) : Bool :=
  c == '\t' || c == '\n' || c == '\r'

/-- Edges removed from the end. -/
def cutEnd (cs : List Char) : List Char :=
  (cs.reverse.dropWhile isEdge).reverse

/-- What is left of the end of a URL. -/
def cleanedEnd (cs : List Char) : List Char :=
  (cutEnd cs).filter fun c => !isBreak c

theorem cleaned_eq (cs : List Char) : cleaned cs = cleanedEnd (cs.dropWhile isEdge) := rfl

theorem splitEnd {α : Type} (p : α → Bool) (cs : List α) :
    cs = (cs.reverse.dropWhile p).reverse ++ (cs.reverse.takeWhile p).reverse := by
  rw [← List.reverse_append, List.takeWhile_append_dropWhile, List.reverse_reverse]

/-- The end is cut behind what is no edge. -/
theorem cutEnd_append_cons {c : Char} (hc : isEdge c = false) (cs more : List Char) :
    cutEnd (cs ++ c :: more) = cs ++ c :: cutEnd more := by
  unfold cutEnd
  rw [List.reverse_append, List.reverse_cons, List.append_assoc, List.dropWhile_append]
  split
  · rename_i h
    rw [List.isEmpty_iff.mp h]
    simp [hc]
  · simp

theorem isBreak_of_not_edge {c : Char} (hc : isEdge c = false) : isBreak c = false := by
  cases h : isBreak c with
  | false => rfl
  | true =>
    simp only [isBreak, Bool.or_eq_true, beq_iff_eq] at h
    rcases h with (rfl | rfl) | rfl <;> cases hc

theorem cleanedEnd_cons {c : Char} (hc : isEdge c = false) (cs : List Char) :
    cleanedEnd (c :: cs) = c :: cleanedEnd cs := by
  have hcut : cutEnd (c :: cs) = c :: cutEnd cs := cutEnd_append_cons hc [] cs
  unfold cleanedEnd
  rw [hcut, List.filter_cons_of_pos (by simp [isBreak_of_not_edge hc])]

theorem cleanedEnd_append {front : List Char} (hf : ∀ c ∈ front, isEdge c = false)
    (cs : List Char) : cleanedEnd (front ++ cs) = front ++ cleanedEnd cs := by
  induction front with
  | nil => rfl
  | cons c front ih =>
    rw [List.cons_append, cleanedEnd_cons (hf c (by simp)), ih fun d hd => hf d (by simp [hd]),
      List.cons_append]

/-- What is left of a text's end begins with what is left of it without an ending; what is added is
of the ending, or an edge. -/
theorem cleanedEnd_ending (cs ending : List Char) :
    ∃ added, cleanedEnd (cs ++ ending) = cleanedEnd cs ++ added ∧
      ∀ c ∈ added, isEdge c = true ∨ c ∈ ending := by
  unfold cleanedEnd cutEnd
  rw [List.reverse_append, List.dropWhile_append]
  split
  · exact ⟨[], by simp, by simp⟩
  · let edges := (cs.reverse.takeWhile isEdge).reverse
    have hsplit : cs = (cs.reverse.dropWhile isEdge).reverse ++ edges := splitEnd isEdge cs
    refine ⟨(edges ++ (ending.reverse.dropWhile isEdge).reverse).filter (!isBreak ·), ?_, ?_⟩
    · rw [List.reverse_append, List.reverse_reverse, ← List.filter_append, ← List.append_assoc,
        ← hsplit]
    · intro c hc
      rcases List.mem_append.mp (List.mem_filter.mp hc).1 with h | h
      · refine Or.inl (List.all_eq_true.mp List.all_takeWhile c (List.mem_reverse.mp h))
      · exact Or.inr (List.mem_reverse.mp ((List.dropWhile_sublist _).mem (List.mem_reverse.mp h)))

/-! ## Queries and fragments -/

theorem cutAt_eq_none_iff {sep : Char} {cs : List Char} : cutAt sep cs = none ↔ sep ∉ cs := by
  induction cs with
  | nil => simp [cutAt]
  | cons c cs ih =>
    rw [cutAt]
    by_cases h : c = sep
    · simp [h]
    · simp [h, ih, Ne.symm h]

/-- Characters with neither a query nor a fragment. -/
def Plain (cs : List Char) : Prop :=
  '#' ∉ cs ∧ '?' ∉ cs

theorem tail_eq_none_iff {cs : List Char} :
    (tail cs).2.1 = none ∧ (tail cs).2.2 = none ↔ Plain cs := by
  unfold tail Plain
  rw [← cutAt_eq_none_iff, ← cutAt_eq_none_iff]
  cases hnumber : cutAt '#' cs with
  | none =>
    simp only
    cases cutAt '?' cs <;> simp
  | some fg =>
    simp only
    cases cutAt '?' fg.1 <;> simp

/-! ## Base URLs -/

/-- A text is read as a URL with a host and without query and fragment. -/
def IsBase (cs : List Char) : Prop :=
  ∃ u, parse cs = .ok u ∧ u.host.isSome ∧ u.query = none ∧ u.fragment = none

/-- The starts of base URLs. -/
def webStarts : List (List Char) :=
  ["https://".toList, "http://".toList]

/-- What follows the two slashes of a base URL, once it is cleaned. -/
def IsBaseRest (cs : List Char) : Prop :=
  ∃ host port rest, authority .web (cs.dropWhile (isSlash .web)) = .ok (host, port, rest) ∧
    Plain rest

theorem scheme?_start {start : List Char} (hs : start ∈ webStarts) : ∃ scheme,
    kind scheme = .web ∧ ∀ cs, scheme? (start ++ cs) = some (scheme, '/' :: '/' :: cs) := by
  simp only [webStarts, List.mem_cons, List.not_mem_nil, or_false] at hs
  rcases hs with rfl | rfl
  · exact ⟨"https", by decide, fun _ => rfl⟩
  · exact ⟨"http", by decide, fun _ => rfl⟩

theorem isEdge_start {start : List Char} (hs : start ∈ webStarts) :
    ∀ c ∈ start, isEdge c = false := by
  have hall : start.all (fun c => !isEdge c) = true := by
    simp only [webStarts, List.mem_cons, List.not_mem_nil, or_false] at hs
    rcases hs with rfl | rfl
    · rfl
    · rfl
  intro c hc
  simpa using List.all_eq_true.mp hall c hc

/-- After a well-known scheme a URL is read as its authority, its path, and what follows. -/
theorem afterScheme_web_eq_ok_iff {scheme : String} (hs : kind scheme = .web) {cs : List Char}
    {u : Url} :
    afterScheme scheme ('/' :: '/' :: cs) = .ok u ↔ ∃ host port rest,
      authority .web (cs.dropWhile (isSlash .web)) = .ok (host, port, rest) ∧
      u = ⟨scheme, host, if port = defaultPort scheme then none else port,
        normalPath .web (tail rest).1, (tail rest).2.1, (tail rest).2.2⟩ := by
  have hslashes : ('/' :: '/' :: cs).dropWhile (isSlash .web) = cs.dropWhile (isSlash .web) := rfl
  unfold afterScheme
  rw [hs]
  simp only [hslashes]
  cases hread : authority .web (cs.dropWhile (isSlash .web)) with
  | error e =>
    refine iff_of_false nofun ?_
    rintro ⟨host, port, rest, h, -⟩
    cases h
  | ok found =>
    obtain ⟨host, port, rest⟩ := found
    constructor
    · intro h
      cases h
      exact ⟨host, port, rest, rfl, rfl⟩
    · rintro ⟨host', port', rest', h, rfl⟩
      cases h
      rfl

/-- Whether what follows a well-known scheme makes a base URL. -/
theorem afterScheme_isBase_iff {scheme : String} (hs : kind scheme = .web) (cs : List Char) :
    (∃ u, afterScheme scheme ('/' :: '/' :: cs) = .ok u ∧ u.host.isSome ∧ u.query = none ∧
      u.fragment = none) ↔ IsBaseRest cs := by
  simp only [afterScheme_web_eq_ok_iff hs]
  constructor
  · rintro ⟨u, ⟨host, port, rest, hread, rfl⟩, -, hquery, hfragment⟩
    exact ⟨host, port, rest, hread, tail_eq_none_iff.mp ⟨hquery, hfragment⟩⟩
  · rintro ⟨host, port, rest, hread, hplain⟩
    obtain ⟨-, -, ⟨h, -, rfl⟩, -⟩ := authority_web_eq_ok_iff.mp hread
    obtain ⟨hquery, hfragment⟩ := tail_eq_none_iff.mpr hplain
    exact ⟨_, ⟨_, port, rest, hread, rfl⟩, rfl, hquery, hfragment⟩

/-- A text with a well-known start is read as its scheme and what follows it. -/
theorem parse_start {start : List Char} (hs : start ∈ webStarts) : ∃ scheme,
    kind scheme = .web ∧ ∀ lead cs, (∀ c ∈ lead, isEdge c = true) →
      parse (lead ++ (start ++ cs)) = afterScheme scheme ('/' :: '/' :: cleanedEnd cs) := by
  obtain ⟨scheme, hkind, hscheme⟩ := scheme?_start hs
  have hedge := isEdge_start hs
  refine ⟨scheme, hkind, fun lead cs hlead => ?_⟩
  have hhead : (start ++ cs).dropWhile isEdge = start ++ cs := by
    refine dropWhile_eq_self_of_head fun c hc => ?_
    cases start with
    | nil => simp [webStarts] at hs
    | cons d start =>
      cases hc
      exact hedge _ (by simp)
  rw [parse, cleaned_eq, List.dropWhile_append_of_pos hlead, hhead, cleanedEnd_append hedge,
    hscheme]

/-- Whether a text with a well-known start is a base URL depends on what follows that start. -/
theorem isBase_start_iff {start lead : List Char} (hs : start ∈ webStarts)
    (hl : ∀ c ∈ lead, isEdge c = true) (cs : List Char) :
    IsBase (lead ++ (start ++ cs)) ↔ IsBaseRest (cleanedEnd cs) := by
  obtain ⟨scheme, hkind, hparse⟩ := parse_start hs
  rw [IsBase, hparse lead cs hl]
  exact afterScheme_isBase_iff hkind _

theorem isAlpha_of_blank {c : Char} (h : isBlank c = true) : c.isAlpha = false := by
  cases halpha : c.isAlpha with
  | false => rfl
  | true =>
    have hrange : 0x41 ≤ c.toNat ∧ c.toNat ≤ 0x5A ∨ 0x61 ≤ c.toNat ∧ c.toNat ≤ 0x7A := by
      rcases (Bool.or_eq_true _ _).mp halpha with hupper | hlower
      · exact .inl (of_decide_eq_true hupper)
      · obtain ⟨hlo, hhi⟩ := (Bool.and_eq_true _ _).mp hlower
        exact .inr ⟨of_decide_eq_true hlo, of_decide_eq_true hhi⟩
    simp only [isBlank, Bool.or_eq_true, Bool.and_eq_true, decide_eq_true_eq, beq_iff_eq] at h
    omega

/-- Blanks that are no edges are not disregarded in front of a URL. -/
theorem edges_of_isBase {lead cs : List Char} (hl : ∀ c ∈ lead, isBlank c = true)
    (h : IsBase (lead ++ cs)) : ∀ c ∈ lead, isEdge c = true := by
  cases hd : lead.dropWhile isEdge with
  | nil => exact List.all_eq_true.mp (dropWhile_eq_nil_iff_all.mp hd)
  | cons c more =>
    have hc : isBlank c = true := hl c ((List.dropWhile_sublist _).mem (hd ▸ List.mem_cons_self))
    have hhead : c ∈ (lead.dropWhile isEdge).head? := by
      rw [hd]
      rfl
    have hedge : isEdge c = false := head?_dropWhile_false hhead
    have hdrop : (lead ++ cs).dropWhile isEdge = c :: (more ++ cs) := by
      rw [List.dropWhile_append, hd]
      rfl
    obtain ⟨u, hu, -⟩ := h
    rw [parse, cleaned_eq, hdrop, cleanedEnd_cons hedge, scheme?, if_neg (by
      simp [isAlpha_of_blank hc])] at hu
    cases hu

/-! ## What comes after a base URL -/

/-- Characters that are stripped off behind a base URL. -/
def isTrailing (c : Char) : Bool :=
  isGap c || c == '/'

/-- What follows the slashes of a base URL is read without the gaps and slashes behind it if it is
read with them. -/
theorem isBaseRest_of_trailing {cs added : List Char} (ha : ∀ c ∈ added, isTrailing c = true)
    (h : IsBaseRest (cs ++ added)) : IsBaseRest cs := by
  obtain ⟨host, port, left, hread, hplain⟩ := h
  obtain ⟨more, hmore, hsub⟩ : ∃ more, (cs ++ added).dropWhile (isSlash .web) =
      cs.dropWhile (isSlash .web) ++ more ∧ ∀ c ∈ more, c ∈ added := by
    rw [List.dropWhile_append]
    split
    · rename_i hnil
      rw [List.isEmpty_iff.mp hnil]
      exact ⟨_, rfl, fun c hc => (List.dropWhile_sublist _).mem hc⟩
    · exact ⟨added, rfl, fun c hc => hc⟩
  obtain ⟨gaps, after, rfl, hopen, hafter⟩ := exists_authority more
  have hgaps : ∀ c ∈ gaps, isGap c = true := by
    intro c hc
    rcases Bool.or_eq_true_iff.mp (ha c (hsub c (List.mem_append_left after hc))) with h | h
    · exact h
    · have hend := hopen c hc
      rw [beq_iff_eq.mp h] at hend
      cases hend
  rw [hmore] at hread
  obtain ⟨rest, hrest, rfl⟩ := exists_authority_of_gaps hgaps hafter hread
  exact ⟨host, port, rest, hrest, fun h => hplain.1 (List.mem_append_left _ h),
    fun h => hplain.2 (List.mem_append_left _ h)⟩

/-! ## The stored form -/

/-- A configured text is its stored form between blanks, with slashes before those at its end. -/
theorem exists_stored (cs : List Char) :
    ∃ lead added, cs = lead ++ (HostUrl.stored cs ++ added) ∧ (∀ c ∈ lead, isBlank c = true) ∧
      ∀ c ∈ added, isTrailing c = true := by
  let inner := cs.dropWhile isBlank
  let trimmed := trim cs
  let blanks := (inner.reverse.takeWhile isBlank).reverse
  let slashes := (trimmed.reverse.takeWhile (· == '/')).reverse
  have hinner : inner = trimmed ++ blanks := splitEnd isBlank inner
  have htrimmed : trimmed = HostUrl.stored cs ++ slashes := splitEnd (· == '/') trimmed
  refine ⟨cs.takeWhile isBlank, slashes ++ blanks, ?_, fun c hc => ?_, fun c hc => ?_⟩
  · calc cs = cs.takeWhile isBlank ++ inner := List.takeWhile_append_dropWhile.symm
      _ = cs.takeWhile isBlank ++ (HostUrl.stored cs ++ slashes ++ blanks) := by
        rw [hinner, ← htrimmed]
      _ = cs.takeWhile isBlank ++ (HostUrl.stored cs ++ (slashes ++ blanks)) := by
        rw [List.append_assoc]
  · exact List.all_eq_true.mp List.all_takeWhile c hc
  · rcases List.mem_append.mp hc with h | h
    · have := List.all_eq_true.mp List.all_takeWhile c (List.mem_reverse.mp h)
      simp [isTrailing, this]
    · have := List.all_eq_true.mp List.all_takeWhile c (List.mem_reverse.mp h)
      simp [isTrailing, isGap, this]

/-- **The stored form of a base URL is one**, if it starts as base URLs do. -/
theorem isBase_stored {cs : List Char} (h : IsBase cs) {start rest : List Char}
    (hs : start ∈ webStarts) (hstored : HostUrl.stored cs = start ++ rest) :
    IsBase (HostUrl.stored cs) := by
  obtain ⟨lead, added, hcs, hlead, hadded⟩ := exists_stored cs
  rw [hstored, List.append_assoc] at hcs
  rw [hcs] at h
  have hedges := edges_of_isBase hlead h
  rw [isBase_start_iff hs hedges] at h
  obtain ⟨more, hmore, hsub⟩ := cleanedEnd_ending rest added
  rw [hmore] at h
  have htrailing : ∀ c ∈ more, isTrailing c = true := by
    intro c hc
    rcases hsub c hc with hedge | hmem
    · have : c.toNat ≤ 0x20 := by simpa [isEdge] using hedge
      simp [isTrailing, isGap, this]
    · exact hadded c hmem
  have hnone : ∀ c ∈ ([] : List Char), isEdge c = true := by simp
  have hbase := isBase_start_iff hs hnone rest
  rw [hstored]
  exact hbase.mpr (isBaseRest_of_trailing htrailing h)

end AffinityGate.Url
