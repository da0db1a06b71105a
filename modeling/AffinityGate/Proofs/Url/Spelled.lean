import AffinityGate.Proofs.Text.WellFormed
import AffinityGate.Proofs.Url.Authority

/-!
# How web authorities are spelled

Behind its user information a web authority that is read is the spelling of a host, with a colon and
the digits of a port behind it if a port is written (`exists_spelling`).  A host is spelled in
brackets or without a colon, so the colon of the port can be told from those of an address.
-/

namespace AffinityGate

/-- A byte that is neither a percent sign nor a hexadecimal digit is in no escape. -/
theorem Percent.mem_decode {b : UInt8} (hb : nibble? b = none) (hne : b ≠ 0x25) {bs : Bytes}
    (h : b ∈ bs) : b ∈ decode bs := by
  fun_induction decode bs with
  | case1 => exact h
  | case2 a => exact h
  | case3 a c => exact h
  | case4 high low rest v hv ih =>
    rw [List.mem_cons, List.mem_cons, List.mem_cons] at h
    rcases h with rfl | rfl | rfl | hrest
    · exact absurd rfl hne
    · rw [escape?_eq_none (.inl hb)] at hv
      cases hv
    · rw [escape?_eq_none (.inr hb)] at hv
      cases hv
    · exact List.mem_cons_of_mem _ (ih hrest)
  | case5 high low rest hv ih =>
    exact (List.mem_cons.mp h).elim (fun heq => heq ▸ List.mem_cons_self) fun hrest =>
      List.mem_cons_of_mem _ (ih hrest)
  | case6 a high low rest ha ih =>
    exact (List.mem_cons.mp h).elim (fun heq => heq ▸ List.mem_cons_self) fun hrest =>
      List.mem_cons_of_mem _ (ih hrest)

namespace Url

/-! ## Hosts -/

/-- A name with a colon is mapped, if at all, to one with a colon. -/
theorem colon_mem_of_map? {cs mapped : List Char} (h : ':' ∈ cs)
    (hmapped : Domain.map? cs = some mapped) : ':' ∈ mapped := by
  obtain ⟨targets, htargets, rfl⟩ := Option.map_eq_some_iff.mp hmapped
  obtain ⟨front, rest, rfl⟩ := List.append_of_mem h
  have hcolon : Domain.target? ':' = some [':'] := by decide
  simp only [List.mapM_append, List.mapM_cons, hcolon, Option.bind_eq_bind, Option.bind_some,
    Option.pure_def, Option.bind_eq_some_iff, Option.some.injEq] at htargets
  obtain ⟨before, -, more, ⟨after, -, rfl⟩, rfl⟩ := htargets
  simp

/-- No domain name has a colon. -/
theorem domain_of_colon {cs : List Char} (h : ':' ∈ cs) :
    Domain.read? (Percent.decode (Utf8.encode cs)) = none := by
  have hbyte : 0x3A ∈ Percent.decode (Utf8.encode cs) :=
    Percent.mem_decode (by decide) (by decide) (List.mem_flatMap.mpr ⟨':', h, by decide⟩)
  unfold Domain.read?
  cases hname : Utf8.decode? (Percent.decode (Utf8.encode cs)) with
  | none => rfl
  | some name =>
    rw [Utf8.decode?_eq_some_iff_encode.mp hname] at hbyte
    have hcolon : ':' ∈ name := Utf8.mem_of_mem_encode (by decide) hbyte
    cases hmapped : Domain.map? name with
    | none => simp [hmapped]
    | some mapped =>
      have hforbidden : mapped.any Domain.isForbidden = true :=
        List.any_eq_true.mpr ⟨':', colon_mem_of_map? hcolon hmapped, by decide⟩
      simp [hmapped, hforbidden]

/-- The spelling of a host: brackets around an address, or no colon and no bracket in front. -/
def IsSpelling (name : List Char) : Prop :=
  (∃ address, name = '[' :: (address ++ [']'])) ∨ ':' ∉ name ∧ name.head? ≠ some '['

theorem isSpelling_of_parse {name : List Char} {host : Host} (h : Host.parse name = .ok host) :
    IsSpelling name := by
  unfold Host.parse at h
  split at h
  · rename_i rest
    split at h
    · rename_i hlast
      obtain ⟨address, rfl⟩ := List.getLast?_eq_some_iff.mp hlast
      exact .inl ⟨address, rfl⟩
    · cases h
  · rename_i hopen
    refine .inr ⟨fun hcolon => ?_, fun hhead => ?_⟩
    · rw [domain_of_colon hcolon] at h
      cases h
    · obtain ⟨rest, rfl⟩ := List.head?_eq_some_iff.mp hhead
      exact hopen rest rfl

/-! ## Authorities -/

/-- What stands behind the user information is what stands behind the last at sign. -/
theorem afterUser_eq (cs : List Char) :
    afterUser cs = (cs.reverse.takeWhile (· != '@')).reverse := by
  unfold afterUser
  split
  · rfl
  · rename_i hnone
    have hno : '@' ∉ cs.reverse := fun hmem =>
      hnone (List.contains_iff_mem.mpr (List.mem_reverse.mp hmem))
    rw [takeWhile_of_not_mem hno, List.reverse_reverse]

theorem takeHost_fst_append_snd (bracket : Bool) (cs : List Char) :
    (takeHost .web bracket cs).1 ++ (takeHost .web bracket cs).2 = cs := by
  induction cs generalizing bracket with
  | nil => rfl
  | cons c cs ih =>
    rw [takeHost]
    split
    · rfl
    · exact congrArg (c :: ·) (ih _)

/-- A port with its colon, if one is written. -/
def IsPortText (port : List Char) : Prop :=
  port = [] ∨ ∃ digits, port = ':' :: digits ∧ ∀ c ∈ digits, c.isDigit = true

theorem isPortText_of_portAndRest {cs : List Char} (hopen : Unended cs) (bracket : Bool)
    {port : Option Nat}
    (h : portAndRest (takeHost .web bracket cs).2 = .ok (port, [])) :
    IsPortText (takeHost .web bracket cs).2 := by
  rcases takeHost_snd hopen bracket with hnil | ⟨digits, hcolon, hdigits⟩
  · exact .inl hnil
  · rw [hcolon, portAndRest_colon, ← List.append_nil digits] at h
    exact .inr ⟨digits, hcolon, ((takePort_append_iff hdigits atEnd_nil).mp h).1⟩

/-- Behind its user information an authority that is read is a host, with a port behind it if one is
written. -/
theorem exists_spelling {cs : List Char} (hopen : Unended cs) {host : Option Host}
    {port : Option Nat} (h : authority .web cs = .ok (host, port, [])) :
    ∃ name port, afterUser cs = name ++ port ∧ name ≠ [] ∧ IsSpelling name ∧ IsPortText port := by
  have hcut := cutUserinfo_snd hopen atEnd_nil
  rw [List.append_nil, List.append_nil] at hcut
  obtain ⟨-, hne, ⟨found, hparse, -⟩, hport⟩ := authority_web_eq_ok_iff.mp h
  rw [hcut] at hne hparse hport
  exact ⟨_, _, (takeHost_fst_append_snd false _).symm, hne, isSpelling_of_parse hparse,
    isPortText_of_portAndRest (unended_afterUser hopen) false hport⟩

end Url
end AffinityGate
