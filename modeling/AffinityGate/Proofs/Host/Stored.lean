import AffinityGate.Proofs.Host.Construction
import AffinityGate.Proofs.Text.Ends
import AffinityGate.Proofs.Url.Below

/-!
# Stored forms of configured texts

A text is stored less the blanks around it and then less the slashes at its end, each stripped once.
`core` is what is left when blanks and slashes are stripped from the end in whatever order they
stand there.  The stored form is the core exactly if the slashes stand in front of the blanks
(`stored_eq_core_iff`); otherwise it ends in a blank, and storing it again strips more of it.
`normal_iff_endsTidily` says what follows for the base URLs that are accepted and for pools.
-/

namespace AffinityGate

open Url

namespace HostUrl

/-! ## The core of a text -/

/-- Blanks and slashes. -/
def isOuter (c : Char) : Bool :=
  isBlank c || c == '/'

/-- A text less the blanks in front of it and the blanks and slashes behind it. -/
def core (cs : List Char) : List Char :=
  (cs.dropWhile isBlank).rdropWhile isOuter

/-- Behind its core a text has slashes first and blanks last. -/
def EndsTidily (cs : List Char) : Prop :=
  ∃ slashes blanks, cs.dropWhile isBlank = core cs ++ slashes ++ blanks ∧
    (∀ c ∈ slashes, c = '/') ∧ ∀ c ∈ blanks, isBlank c = true

theorem stored_eq (cs : List Char) :
    stored cs = ((cs.dropWhile isBlank).rdropWhile isBlank).rdropWhile (· == '/') := rfl

theorem stored_isPrefix (cs : List Char) : stored cs <+: cs.dropWhile isBlank :=
  (List.rdropWhile_prefix _ _).trans (List.rdropWhile_prefix _ _)

theorem head?_stored {cs : List Char} {c : Char} (h : c ∈ (stored cs).head?) :
    isBlank c = false := by
  obtain ⟨more, hmore⟩ := stored_isPrefix cs
  have hhead : c ∈ (cs.dropWhile isBlank).head? := by
    rw [← hmore, List.head?_append, Option.mem_def.mp h]
    rfl
  exact head?_dropWhile_false hhead

theorem dropWhile_stored (cs : List Char) : (stored cs).dropWhile isBlank = stored cs :=
  dropWhile_eq_self_of_head fun _ => head?_stored

theorem rdropWhile_stored (cs : List Char) : (stored cs).rdropWhile isOuter = core cs := by
  rw [stored_eq, rdropWhile_rdropWhile_of_imp (by simp +contextual [isOuter]),
    rdropWhile_rdropWhile_of_imp (by simp +contextual [isOuter]), core]

/-! ## When the stored form is the core -/

/-- The stored form ends in no slash, so that it is the core unless it ends in a blank. -/
theorem stored_eq_core_iff_getLast? {cs : List Char} :
    stored cs = core cs ↔ ∀ c ∈ (stored cs).getLast?, isBlank c = false := by
  rw [← rdropWhile_stored, eq_comm, rdropWhile_eq_self_iff_getLast?]
  refine forall₂_congr fun c hc => ?_
  have hslash : (c == '/') = false := getLast?_rdropWhile (p := (· == '/')) hc
  rw [isOuter, hslash, Bool.or_false]

theorem stored_eq_core_iff {cs : List Char} : stored cs = core cs ↔ EndsTidily cs := by
  constructor
  · intro h
    have htrimmed : stored cs ++ (trim cs).rtakeWhile (· == '/') = trim cs :=
      List.rdropWhile_append_rtakeWhile
    have hinner : trim cs ++ (cs.dropWhile isBlank).rtakeWhile isBlank = cs.dropWhile isBlank :=
      List.rdropWhile_append_rtakeWhile
    refine ⟨(trim cs).rtakeWhile (· == '/'), (cs.dropWhile isBlank).rtakeWhile isBlank, ?_, ?_, ?_⟩
    · rw [← h, htrimmed, hinner]
    · exact fun c hc => beq_iff_eq.mp (List.mem_rtakeWhile_imp (p := (· == '/')) hc)
    · exact fun c hc => List.mem_rtakeWhile_imp hc
  · rintro ⟨slashes, blanks, hcs, hslashes, hblanks⟩
    have hlast : ∀ c ∈ (core cs).getLast?, isOuter c = false := fun c hc => getLast?_rdropWhile hc
    -- Neither the slashes nor the core ends in a blank.
    have hfront : (core cs ++ slashes).rdropWhile isBlank = core cs ++ slashes := by
      refine rdropWhile_eq_self_iff_getLast?.mpr fun c hc => ?_
      rw [List.getLast?_append] at hc
      cases hs : slashes.getLast? with
      | some d =>
        rw [hs, Option.some_or, Option.mem_some_iff] at hc
        rw [← hc, hslashes d (List.mem_of_getLast? hs)]
        decide
      | none =>
        rw [hs, Option.none_or] at hc
        exact (Bool.or_eq_false_iff.mp (hlast c hc)).1
    have hcore : (core cs).rdropWhile (· == '/') = core cs :=
      rdropWhile_eq_self_iff_getLast?.mpr fun c hc => (Bool.or_eq_false_iff.mp (hlast c hc)).2
    rw [stored_eq, hcs, rdropWhile_append_of_pos hblanks, hfront,
      rdropWhile_append_of_pos fun c hc => beq_iff_eq.mpr (hslashes c hc), hcore]

/-- Storing a stored form again changes it exactly if it ends in a blank. -/
theorem stored_stored_iff {cs : List Char} : stored (stored cs) = stored cs ↔ EndsTidily cs := by
  rw [← stored_eq_core_iff, stored_eq_core_iff_getLast?, ← rdropWhile_eq_self_iff_getLast?,
    stored_eq (stored cs), dropWhile_stored]
  constructor
  · intro h
    have hlength := List.IsPrefix.length_le
      (List.rdropWhile_prefix (· == '/') ((stored cs).rdropWhile isBlank))
    rw [h] at hlength
    exact (List.rdropWhile_prefix isBlank (stored cs)).eq_of_length_le hlength
  · intro h
    rw [h, stored_eq, List.rdropWhile_idempotent]

/-! ## Stored forms are accepted -/

/-- A stored form is its own stored form and what is stripped from its end. -/
theorem exists_stored_stored (cs : List Char) : ∃ added,
    stored cs = stored (stored cs) ++ added ∧ ∀ c ∈ added, isTrailing c = true := by
  obtain ⟨lead, added, hcs, hlead, hadded⟩ := exists_stored (stored cs)
  cases lead with
  | nil => exact ⟨added, hcs, hadded⟩
  | cons c lead =>
    have hhead : c ∈ (stored cs).head? := by
      rw [hcs]
      rfl
    have hblank := head?_stored hhead
    rw [hlead c List.mem_cons_self] at hblank
    cases hblank

/-- Nothing but blanks and slashes is no base URL. -/
theorem not_isBase_of_trailing {start rest : List Char} (hs : start ∈ webStarts)
    (h : ∀ c ∈ rest, isTrailing c = true) : ¬IsBase (start ++ rest) := by
  intro hbase
  have hrest := (isBase_start_iff hs (List.forall_mem_nil _) rest).mp hbase
  have hsub : ∀ c ∈ cleanedEnd rest, isTrailing c = true := fun c hc => by
    refine h c ((List.rdropWhile_prefix isEdge rest).sublist.mem ?_)
    exact (List.mem_filter.mp hc).1
  rw [← List.nil_append (cleanedEnd rest)] at hrest
  obtain ⟨_, _, _, hread, -⟩ := isBaseRest_of_trailing hsub hrest
  exact ne_nil_of_authority hread rfl

/-- What is stripped from the end of an accepted form is not part of its start. -/
theorem exists_start_stored {cs start rest : List Char} (hs : start ∈ webStarts)
    (hcs : stored cs = start ++ rest) (hbase : IsBase (stored cs)) :
    start <+: stored (stored cs) := by
  obtain ⟨added, hsplit, hadded⟩ := exists_stored_stored cs
  have hboth : start ++ rest = stored (stored cs) ++ added := hcs.symm.trans hsplit
  rcases List.append_eq_append_iff.mp hboth with ⟨more, hmore, -⟩ | ⟨more, -, hmore⟩
  · exact ⟨more, hmore.symm⟩
  · refine absurd (hcs ▸ hbase) (not_isBase_of_trailing hs fun c hc => hadded c ?_)
    rw [hmore]
    exact List.mem_append_right more hc

theorem exists_parse_stored {raw : String} {u : HostUrl} (h : parse raw = .ok u) :
    ∃ v, parse u.text = .ok v := by
  obtain ⟨⟨start, hs, rest, hrest⟩, hbase, rfl⟩ := parse_eq_ok_iff.mp h
  have hstart := exists_start_stored hs hrest.symm hbase
  obtain ⟨more, hmore⟩ := hstart
  refine exists_parse_iff.mpr ?_
  rw [StartsAsBase, ofRaw, String.toList_ofList]
  exact ⟨⟨start, hs, more, hmore⟩, isBase_stored hbase hs hmore.symm⟩

/-! ## One host in a pool -/

/-- **Which stored forms are normal.**  The stored form of an accepted text starts with no blank,
ends in no slash and is accepted.  It ends in no blank, and is its own stored form, exactly if
behind the core of the text all slashes stand in front of all blanks.  Of two texts with one core,
the first of which ends so, a pool recognises the second as the same host exactly if it ends so
too. -/
theorem normal_iff_endsTidily {raw : String} {u : HostUrl} (h : parse raw = .ok u) :
    (∀ c ∈ u.text.toList.head?, isBlank c = false) ∧
    (∀ c ∈ u.text.toList.getLast?, c ≠ '/') ∧
    (∃ v, parse u.text = .ok v) ∧
    ((∀ c ∈ u.text.toList.getLast?, isBlank c = false) ↔ EndsTidily raw.toList) ∧
    (parse u.text = .ok u ↔ EndsTidily raw.toList) ∧
    ∀ raw' u', parse raw' = .ok u' → core raw'.toList = core raw.toList →
      EndsTidily raw.toList →
      (HostPool.parse [raw, raw'] = .error (.duplicate u.text) ↔ EndsTidily raw'.toList) ∧
      (EndsTidily raw'.toList → ∀ (raws : List String) (i j : Nat), i ≠ j →
        raws[i]? = some raw → raws[j]? = some raw' → ∃ e, HostPool.parse raws = .error e) := by
  have htext : u.text.toList = stored raw.toList := by
    rw [text_of_parse h, String.toList_ofList]
  have hself : parse u.text = .ok u ↔ EndsTidily raw.toList := by
    obtain ⟨v, hv⟩ := exists_parse_stored h
    rw [← stored_stored_iff, hv, Except.ok.injEq, parse_eq_iff hv h, htext]
  refine ⟨?_, ?_, exists_parse_stored h, ?_, hself, fun raw' u' h' hcore htidy => ?_⟩
  · rw [htext]
    exact fun c hc => head?_stored hc
  · rw [htext]
    exact fun c hc => beq_eq_false_iff_ne.mp (getLast?_rdropWhile (p := (· == '/')) hc)
  · rw [htext, ← stored_eq_core_iff_getLast?, stored_eq_core_iff]
  · have hsame : stored raw.toList = stored raw'.toList ↔ EndsTidily raw'.toList := by
      rw [← stored_eq_core_iff, hcore, stored_eq_core_iff.mpr htidy, eq_comm]
    refine ⟨?_, fun htidy' raws i j hij hi hj => ?_⟩
    · rw [HostPool.parse_pair_eq_error_iff h h', parse_eq_iff h h', hsame]
    · exact HostPool.exists_error_of_repeated hij hi hj (hsame.mpr htidy')

/-- Slashes in front of blanks: both texts are stored as their core, and no pool has both. -/
theorem slashes_before_blanks_recognised :
    let raw := " http://b/base// "
    let raw' := "http://b/base"
    parse raw = .ok ⟨raw', false⟩ ∧ EndsTidily raw.toList ∧ parse raw' = .ok ⟨raw', false⟩ ∧
      HostPool.parse [raw, raw'] = .error (.duplicate raw') ∧
      ∃ e, HostPool.parse [raw, "http://a", raw'] = .error e := by
  intro raw raw'
  have h : parse raw = .ok ⟨raw', false⟩ := by decide +kernel
  have htidy : EndsTidily raw.toList :=
    ⟨['/', '/'], [' '], by decide +kernel, by simp, List.forall_mem_singleton.mpr (by decide)⟩
  have htidy' : EndsTidily raw'.toList :=
    ⟨[], [], by decide +kernel, List.forall_mem_nil _, List.forall_mem_nil _⟩
  obtain ⟨-, -, -, -, hself, hpool⟩ := normal_iff_endsTidily h
  have h' : parse raw' = .ok ⟨raw', false⟩ := hself.mpr htidy
  obtain ⟨hpair, hall⟩ := hpool raw' _ h' (by decide) htidy
  exact ⟨h, htidy, h', hpair.mpr htidy',
    hall htidy' [raw, "http://a", raw'] 0 2 (by decide) rfl rfl⟩

/-- A blank in front of the last slash is kept: neither are all stored forms normal, nor are texts
that differ only by blanks and slashes at their ends always recognised as one host. -/
theorem blank_before_slash_kept :
    (¬∀ raw u, parse raw = .ok u →
      (∀ c ∈ u.text.toList.getLast?, isBlank c = false) ∧ parse u.text = .ok u) ∧
    ¬∀ raw raw' u u', parse raw = .ok u → parse raw' = .ok u' →
      core raw'.toList = core raw.toList → ∀ pool, HostPool.parse [raw, raw'] ≠ .ok pool := by
  have h : parse "http://a" = .ok ⟨"http://a", false⟩ := by decide +kernel
  have h' : parse "http://a /" = .ok ⟨"http://a ", false⟩ := by decide +kernel
  constructor
  · intro hall
    have hblank := (hall _ _ h').1 ' ' (by decide)
    cases hblank
  · intro hall
    have hpool : (HostPool.parse ["http://a", "http://a /"]).isOk = true := by decide +kernel
    cases hparse : HostPool.parse ["http://a", "http://a /"] with
    | error e =>
      rw [hparse] at hpool
      cases hpool
    | ok pool => exact hall _ _ _ _ h h' (by decide) pool hparse

end HostUrl
end AffinityGate
