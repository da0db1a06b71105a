import AffinityGate.Proofs.Url.Base

/-!
# URLs below a base URL

What is appended to a base URL behind a slash can change its path, its query and its fragment, but
not its scheme, its host or its port: the slash ends the authority, and what is disregarded at the
end of the base URL but not in front of the slash is refused by the reader.
-/

namespace AffinityGate.Url

open Unicode

/-- Two URLs have one scheme, one host and one port. -/
structure SameOrigin (u v : Url) : Prop where
  scheme : u.scheme = v.scheme
  host : u.host = v.host
  port : u.port = v.port

/-! ## Cleaning in front of a slash -/

/-- What is left of a text's end in front of a slash begins with what is left of it by itself; the
edges that were its end are gaps now. -/
theorem cleanedEnd_slash (cs more : List Char) : ∃ gaps,
    cleanedEnd (cs ++ '/' :: more) = cleanedEnd cs ++ (gaps ++ '/' :: cleanedEnd more) ∧
      ∀ c ∈ gaps, isEdge c = true := by
  let edges := (cs.reverse.takeWhile isEdge).reverse
  have hsplit : cs = cutEnd cs ++ edges := splitEnd isEdge cs
  refine ⟨edges.filter (!isBreak ·), ?_, fun c hc => ?_⟩
  · have hkept : cs.filter (!isBreak ·) = cleanedEnd cs ++ edges.filter (!isBreak ·) := by
      rw [cleanedEnd, ← List.filter_append, ← hsplit]
    rw [cleanedEnd, cutEnd_append_cons (by decide), List.filter_append,
      List.filter_cons_of_pos (by decide), hkept, List.append_assoc]
    rfl
  · have hmem := (List.mem_filter.mp hc).1
    exact List.all_eq_true.mp List.all_takeWhile c (List.mem_reverse.mp hmem)

/-! ## Authorities -/

/-- An authority that is read is not empty. -/
theorem ne_nil_of_authority {cs : List Char} {r : Option Host × Option Nat × List Char}
    (h : authority .web cs = .ok r) : cs ≠ [] := by
  rintro rfl
  cases h

/-- **What is appended to a base URL behind a slash keeps its origin**, whatever it is, if the whole
is read at all. -/
theorem sameOrigin_of_below {start tail more : List Char} (hs : start ∈ webStarts) {base u : Url}
    (hbase : parse (start ++ tail) = .ok base)
    (hu : parse (start ++ (tail ++ '/' :: more)) = .ok u) : u.SameOrigin base := by
  obtain ⟨scheme, hkind, hparse⟩ := parse_start hs
  have hplain (cs : List Char) :
      parse (start ++ cs) = afterScheme scheme ('/' :: '/' :: cleanedEnd cs) :=
    hparse [] cs (List.forall_mem_nil _)
  obtain ⟨gaps, hcleaned, hedges⟩ := cleanedEnd_slash tail more
  have hgaps : ∀ c ∈ gaps, isGap c = true := fun c hc => by
    have hedge : c.toNat ≤ 0x20 := by simpa [isEdge] using hedges c hc
    simp [isGap, hedge]
  rw [hplain] at hbase hu
  obtain ⟨host, port, rest, hread, rfl⟩ := (afterScheme_web_eq_ok_iff hkind).mp hbase
  obtain ⟨host', port', left, hread', rfl⟩ := (afterScheme_web_eq_ok_iff hkind).mp hu
  -- The slashes in front of the authority are the same ones.
  have hslashes : (cleanedEnd (tail ++ '/' :: more)).dropWhile (isSlash .web) =
      (cleanedEnd tail).dropWhile (isSlash .web) ++ (gaps ++ '/' :: cleanedEnd more) := by
    have hne := ne_nil_of_authority hread
    rw [hcleaned, List.dropWhile_append, if_neg (by simpa using hne)]
  have hafter : AtEnd ('/' :: cleanedEnd more) := by
    intro c hc
    cases hc
    decide
  rw [hslashes] at hread'
  obtain ⟨rest', hrest', -⟩ := exists_authority_of_gaps hgaps hafter hread'
  rw [hread] at hrest'
  cases hrest'
  exact ⟨rfl, rfl, rfl⟩

end AffinityGate.Url
