import AffinityGate.Proofs.Process.Precedence
import AffinityGate.Proofs.Process.Segment

/-!
# Carried bytes and named processes

`QueryCarries` and `PathCarries` say which bytes stand, encoded, where an id is looked for, and
`TrimsTo` what bytes are without the blanks around them.  `id_is_what_was_carried` says that well
formed bytes name the process of the trimmed bytes and no other, and what becomes of all other
bytes: from a path they name no process, from a query they name one that they do not stand for.
-/

namespace AffinityGate

/-! ## Blanks around bytes -/

/-- The first bytes are those of a text, and the second those of the same text less the blanks at
its ends. -/
def TrimsTo (bs trimmed : Bytes) : Prop :=
  ∃ lead core trail, bs = Utf8.encode (lead ++ core ++ trail) ∧ trimmed = Utf8.encode core ∧
    (∀ c ∈ lead, isBlank c = true) ∧ (∀ c ∈ trail, isBlank c = true) ∧
    (∀ c ∈ core.head?, isBlank c = false) ∧ ∀ c ∈ core.getLast?, isBlank c = false

theorem trimsTo_iff {bs trimmed : Bytes} :
    TrimsTo bs trimmed ↔ ∃ cs, bs = Utf8.encode cs ∧ trimmed = Utf8.encode (trim cs) := by
  constructor
  · rintro ⟨lead, core, trail, rfl, rfl, hcore⟩
    exact ⟨_, rfl, by rw [trimmedTo_iff.mp ⟨lead, trail, rfl, hcore⟩]⟩
  · rintro ⟨cs, rfl, rfl⟩
    obtain ⟨lead, trail, hcs, hcore⟩ := trimmedTo_iff.mpr (Eq.refl (trim cs))
    exact ⟨lead, trim cs, trail, by rw [← hcs], rfl, hcore⟩

theorem trimsTo_encode_iff {cs : List Char} {trimmed : Bytes} :
    TrimsTo (Utf8.encode cs) trimmed ↔ trimmed = Utf8.encode (trim cs) := by
  rw [trimsTo_iff]
  constructor
  · rintro ⟨ds, hds, rfl⟩
    rw [Utf8.encode_injective hds]
  · exact fun h => ⟨cs, rfl, h⟩

theorem TrimsTo.wellFormed {bs trimmed : Bytes} (h : TrimsTo bs trimmed) : Utf8.WellFormed bs := by
  obtain ⟨cs, hcs, -⟩ := trimsTo_iff.mp h
  exact ⟨cs, hcs⟩

theorem TrimsTo.unique {bs trimmed other : Bytes} (h : TrimsTo bs trimmed)
    (h' : TrimsTo bs other) : trimmed = other := by
  obtain ⟨cs, rfl, rfl⟩ := trimsTo_iff.mp h
  exact (trimsTo_encode_iff.mp h').symm

namespace ProcessId

theorem ofText_ne_nil (p : ProcessId) : Utf8.ofText p.text ≠ [] := by
  refine Utf8.encode_ne_nil fun hnil => p.inhabited ?_
  rw [← String.ofList_toList (s := p.text), hnil]

/-- A text names the process of its trimmed bytes. -/
theorem namedBy_iff_trimsTo {p : ProcessId} {text : List Char} :
    p.NamedBy text ↔ TrimsTo (Utf8.encode text) (Utf8.ofText p.text) := by
  rw [trimsTo_encode_iff]
  constructor
  · exact fun h => congrArg Utf8.encode h.trimmed
  · intro h
    have htrimmed : p.text.toList = trim text := Utf8.encode_injective h
    have hne : trim text ≠ [] := fun hnil => p.ofText_ne_nil (by rw [h, hnil]; rfl)
    rw [ne_eq, trim_eq_nil_iff, List.all_eq_true] at hne
    exact ⟨by simpa using hne, htrimmed⟩

theorem exists_of_trimsTo {bs trimmed : Bytes} (h : TrimsTo bs trimmed) (hne : trimmed ≠ []) :
    ∃ p : ProcessId, Utf8.ofText p.text = trimmed := by
  obtain ⟨cs, rfl, rfl⟩ := trimsTo_iff.mp h
  have hblank : ∃ c ∈ cs, isBlank c = false := by
    by_contra hall
    have hnil : trim cs = [] := trim_eq_nil_iff.mpr (by simpa using hall)
    exact hne (by rw [hnil]; rfl)
  obtain ⟨p, hp⟩ := exists_namedBy hblank
  exact ⟨p, congrArg Utf8.encode hp.trimmed⟩

theorem ext_ofText {p q : ProcessId} (h : Utf8.ofText p.text = Utf8.ofText q.text) : p = q := by
  obtain ⟨text, _, _⟩ := p
  obtain ⟨other, _, _⟩ := q
  have htext : text = other := String.toList_injective (Utf8.encode_injective h)
  subst htext
  rfl

end ProcessId

namespace Extracted

/-! ## What is carried -/

/-- The bytes that a raw value of a query stands for. -/
def valueBytes (raw : Bytes) : Bytes :=
  Percent.decode (raw.map fun b => if b = 0x2B then 0x20 else b)

/-- The first pair with the key has a value that stands for the bytes. -/
def QueryCarries (query bs : Bytes) : Prop :=
  ∃ before piece after,
    (pieces (0x26 : UInt8) query).filter (!·.isEmpty) = before ++ piece :: after ∧
    (∀ other ∈ before, (Form.pair other).1 ≠ queryKey.toList) ∧
    (Form.pair piece).1 = queryKey.toList ∧
    valueBytes ((piece.dropWhile (· != 0x3D)).drop 1) = bs

/-- The first segment that is not empty is a head, and the next one stands for the bytes. -/
def PathCarries (heads : List String) (path bs : Bytes) : Prop :=
  ∃ head ∈ heads, ∃ segment rest,
    (pieces (0x2F : UInt8) path).filter (!·.isEmpty) = Utf8.ofText head :: segment :: rest ∧
    Percent.decode segment = bs

/-- The bytes that decide: those in the query unless they are blank, else those in the path. -/
inductive Carries (unit : UnitKind) (uri : Http.Uri) (bs : Bytes) : Prop
  | query {q : Bytes} : uri.query? = some q → QueryCarries q bs → ¬TrimsTo bs [] →
    Carries unit uri bs
  | path : QuerySilent uri → PathCarries unit.pathHeads uri.path bs → Carries unit uri bs

variable {unit : UnitKind} {uri : Http.Uri} {q bs trimmed : Bytes} {p : ProcessId}

/-! ## The query -/

/-- The query is read leniently. -/
theorem QueryCarries.ofQuery? (h : QueryCarries q bs) :
    ofQuery? q = ProcessId.ofText? (String.ofList (Utf8.lossy bs)) := by
  obtain ⟨before, piece, after, hpieces, hbefore, hkey, rfl⟩ := h
  have hpair : Form.pair piece = (queryKey.toList,
      Utf8.lossy (valueBytes ((piece.dropWhile (· != 0x3D)).drop 1))) := Prod.ext hkey rfl
  rw [Extracted.ofQuery?, Form.first?_of_pieces hpieces hbefore hpair, Option.bind_some]

theorem exists_queryCarries (h : ofQuery? q = some p) : ∃ bs, QueryCarries q bs := by
  obtain ⟨before, value, after, hpairs, hbefore, -⟩ := ofQuery?_eq_some_iff.mp h
  obtain ⟨front, back, hpieces, rfl, hback⟩ := List.map_eq_append_iff.mp hpairs
  obtain ⟨piece, rest, rfl, hpiece, -⟩ := List.map_eq_cons_iff.mp hback
  refine ⟨_, front, piece, rest, hpieces, fun other hother => ?_, congrArg Prod.fst hpiece, rfl⟩
  exact hbefore _ (List.mem_map_of_mem hother)

theorem QueryCarries.ofQuery?_eq_some_iff (h : QueryCarries q bs) (hbs : Utf8.WellFormed bs) :
    Extracted.ofQuery? q = some p ↔ TrimsTo bs (Utf8.ofText p.text) := by
  obtain ⟨cs, rfl⟩ := hbs
  rw [h.ofQuery?, Utf8.lossy_encode, ProcessId.ofText?_eq_some_iff, ProcessId.namedBy_iff_trimsTo]

/-- Bytes that are not well formed name a process all the same, by what is put in their place. -/
theorem QueryCarries.exists_replaced (h : QueryCarries q bs) (hbs : ¬Utf8.WellFormed bs) :
    ∃ p, Extracted.ofQuery? q = some p ∧ '\uFFFD' ∈ p.text.toList := by
  have hmem := Utf8.replacement_mem_lossy hbs
  obtain ⟨p, hp⟩ := ProcessId.exists_namedBy ⟨_, hmem, by decide⟩
  refine ⟨p, h.ofQuery?.trans (ProcessId.ofText?_eq_some_iff.mpr hp), ?_⟩
  rw [hp.trimmed]
  exact mem_trim hmem (by decide)

/-- Bytes that are not blank always name a process, but one that they stand for only if they are
well formed. -/
theorem QueryCarries.exists_named (h : QueryCarries q bs) (hblank : ¬TrimsTo bs []) :
    ∃ p, Extracted.ofQuery? q = some p ∧
      (TrimsTo bs (Utf8.ofText p.text) ↔ Utf8.WellFormed bs) ∧
      (¬Utf8.WellFormed bs → '\uFFFD' ∈ p.text.toList) := by
  by_cases hbs : Utf8.WellFormed bs
  · obtain ⟨cs, hcs⟩ := hbs
    have ht : TrimsTo bs (Utf8.encode (trim cs)) := trimsTo_iff.mpr ⟨cs, hcs, rfl⟩
    obtain ⟨p, hp⟩ := ProcessId.exists_of_trimsTo ht fun hnil => hblank (hnil ▸ ht)
    rw [← hp] at ht
    exact ⟨p, (h.ofQuery?_eq_some_iff ⟨cs, hcs⟩).mpr ht, iff_of_true ht ⟨cs, hcs⟩,
      fun hill => absurd ⟨cs, hcs⟩ hill⟩
  · obtain ⟨p, hp, hmem⟩ := h.exists_replaced hbs
    exact ⟨p, hp, iff_of_false (fun ht => hbs ht.wellFormed) hbs, fun _ => hmem⟩

theorem QueryCarries.not_blank (h : QueryCarries q bs) (hp : Extracted.ofQuery? q = some p) :
    ¬TrimsTo bs [] := by
  intro hblank
  have htrimmed := (h.ofQuery?_eq_some_iff hblank.wellFormed).mp hp
  exact p.ofText_ne_nil (htrimmed.unique hblank)

/-! ## The path -/

/-- The path is read strictly. -/
theorem PathCarries.ofPath?_eq_some_iff {heads : List String} {path : Bytes}
    (h : PathCarries heads path bs) :
    ofPath? heads path = some p ↔ TrimsTo bs (Utf8.ofText p.text) := by
  obtain ⟨head, hhead, segment, rest, hsegments, rfl⟩ := h
  rw [Extracted.ofPath?_eq_some_iff]
  constructor
  · rintro ⟨known, hknown, other, more, text, hother, htext, hp⟩
    rw [hsegments] at hother
    obtain ⟨rfl, -⟩ := List.cons.inj (List.cons.inj hother).2
    rw [htext]
    exact ProcessId.namedBy_iff_trimsTo.mp hp
  · intro hp
    obtain ⟨text, htext⟩ := hp.wellFormed
    rw [htext] at hp
    exact ⟨head, hhead, segment, rest, text, hsegments, htext,
      ProcessId.namedBy_iff_trimsTo.mpr hp⟩

theorem exists_pathCarries {heads : List String} {path : Bytes} (h : ofPath? heads path = some p) :
    ∃ bs, PathCarries heads path bs := by
  obtain ⟨head, hhead, segment, rest, -, hsegments, -, -⟩ := Extracted.ofPath?_eq_some_iff.mp h
  exact ⟨_, head, hhead, segment, rest, hsegments, rfl⟩

/-! ## The request -/

/-- Without a body, a request whose query is silent says what its path says. -/
theorem ofRequest?_path_eq_some_iff (hquery : QuerySilent uri) {e : Extracted} :
    ofRequest? unit uri [] = some e ↔
      e.spawnOwner = none ∧ ofPath? unit.pathHeads uri.path = some e.processId := by
  cases hpath : ofPath? unit.pathHeads uri.path with
  | some p =>
    simp only [ofRequest?, querySilent_iff.mp hquery, hpath, Option.some.injEq]
    constructor
    · rintro rfl
      exact ⟨rfl, rfl⟩
    · rintro ⟨howner, rfl⟩
      rw [← howner]
  | none =>
    have hnone : ofRequest? unit uri [] = none := by
      rw [ofRequest?_of_silent hquery (forall_not_pathNames_iff.mpr hpath), ofBody?_nil, ite_self]
    simp [hnone]

/-- What is found without a body was carried. -/
theorem exists_carries {e : Extracted} (h : ofRequest? unit uri [] = some e) :
    ∃ bs, Carries unit uri bs := by
  cases hquery : uri.query?.bind ofQuery? with
  | some p =>
    obtain ⟨q, hq, hp⟩ := Option.bind_eq_some_iff.mp hquery
    obtain ⟨bs, hbs⟩ := exists_queryCarries hp
    exact ⟨bs, .query hq hbs (hbs.not_blank hp)⟩
  | none =>
    have hsilent := querySilent_iff.mpr hquery
    obtain ⟨bs, hbs⟩ := exists_pathCarries ((ofRequest?_path_eq_some_iff hsilent).mp h).2
    exact ⟨bs, .path hsilent hbs⟩

/-- The process that well formed bytes name has the trimmed bytes. -/
theorem Carries.trimmed_eq (h : Carries unit uri bs) (ht : TrimsTo bs trimmed) {e : Extracted}
    (he : ofRequest? unit uri [] = some e) : Utf8.ofText e.processId.text = trimmed := by
  cases h with
  | query hq hbs hblank =>
    obtain ⟨p, hp, hwell, -⟩ := hbs.exists_named hblank
    rw [ofRequest?_of_query hq (ofQuery?_eq_some_iff.mp hp)] at he
    cases he
    exact (hwell.mpr ht.wellFormed).unique ht
  | path hquery hbs =>
    have hp := ((ofRequest?_path_eq_some_iff hquery).mp he).2
    exact (hbs.ofPath?_eq_some_iff.mp hp).unique ht

/-! ## Encoded bytes are carried -/

theorem pathCarries_encode {head : String} (hhead : head ∈ unit.pathHeads) (hne : bs ≠ []) :
    PathCarries unit.pathHeads (inPath head (Percent.encode bs)) bs := by
  have hsegment : Percent.encode bs ≠ [] := fun hnil => by
    rw [← Percent.decode_encode bs, hnil] at hne
    exact hne rfl
  refine ⟨head, hhead, Percent.encode bs, [], ?_, Percent.decode_encode bs⟩
  rw [segments_inPath hhead (isSegment_encode bs),
    List.filter_cons_of_pos (by simpa using hsegment), List.filter_nil]

theorem queryCarries_encode (bs : Bytes) :
    QueryCarries (Utf8.ofText queryKey ++ 0x3D :: Percent.encode bs) bs := by
  have hs := isSegment_encode bs
  have hkey : ∀ b ∈ Utf8.ofText queryKey, (b != 0x3D) = true := fun b hb =>
    bne_iff_ne.mpr fun heq => not_mem_queryKey (by decide) (heq ▸ hb)
  have hraw : (Utf8.ofText queryKey ++ 0x3D :: Percent.encode bs).dropWhile (· != 0x3D) =
      0x3D :: Percent.encode bs := by
    rw [List.dropWhile_append_of_pos hkey, List.dropWhile_cons_of_neg (by simp)]
  refine ⟨[], _, [], pieces_query hs, List.forall_mem_nil _, by rw [pair_query], ?_⟩
  rw [hraw, List.drop_one, List.tail_cons, valueBytes, spaces_segment hs, Percent.decode_encode]

/-- A request that carries the bytes, encoded, in its path, and nothing in its query. -/
theorem exists_inPath_encode {head : String} (hhead : head ∈ unit.pathHeads) (hne : bs ≠ [])
    (hlen : (inPath head (Percent.encode bs)).length ≤ Http.Uri.maxLength) :
    ∃ uri, Http.Uri.parse (inPath head (Percent.encode bs)) = .ok uri ∧ QuerySilent uri ∧
      PathCarries unit.pathHeads uri.path bs := by
  obtain ⟨hpath, hquery⟩ := parts_inPath hhead (isSegment_encode bs)
  refine ⟨_, parse_inPath_encode hhead hlen, fun q p hq => ?_, ?_⟩
  · rw [hquery] at hq
    cases hq
  · rw [hpath]
    exact pathCarries_encode hhead hne

/-- A request that carries the bytes, encoded, in its query. -/
theorem exists_inQuery_encode
    (hlen : (inQuery (Percent.encode bs)).length ≤ Http.Uri.maxLength) :
    ∃ uri q, Http.Uri.parse (inQuery (Percent.encode bs)) = .ok uri ∧ uri.query? = some q ∧
      QueryCarries q bs :=
  ⟨_, _, parse_inQuery_encode hlen, (parts_inQuery _).2, queryCarries_encode bs⟩

/-! ## Ids and carried bytes -/

/-- **An id is what was carried.**  Bytes in the query that are not blank always name a process, but
one with these bytes, trimmed, exactly if they are well formed; otherwise the id has a replacement
in it.  Bytes in the path name the process with these bytes, trimmed, and none if they are blank or
not well formed.  Without a body there is no id but from carried bytes, and two requests that carry
well formed bytes share a process exactly if the trimmed bytes are the same.  Encoded, all bytes can
be carried, in the path and in the query. -/
theorem id_is_what_was_carried (unit : UnitKind) (bs : Bytes) :
    (∀ uri q, uri.query? = some q → QueryCarries q bs → ¬TrimsTo bs [] →
      ∃ p, (∀ body, ofRequest? unit uri body = some ⟨p, none⟩) ∧
        (TrimsTo bs (Utf8.ofText p.text) ↔ Utf8.WellFormed bs) ∧
        (¬Utf8.WellFormed bs → '\uFFFD' ∈ p.text.toList)) ∧
    (∀ uri, QuerySilent uri → PathCarries unit.pathHeads uri.path bs → ∀ e,
      (ofRequest? unit uri [] = some e ↔
        e.spawnOwner = none ∧ TrimsTo bs (Utf8.ofText e.processId.text))) ∧
    (∀ uri e, ofRequest? unit uri [] = some e → ∃ carried, Carries unit uri carried) ∧
    (∀ uri trimmed e unit' uri' bs' trimmed' e',
      Carries unit uri bs → TrimsTo bs trimmed → ofRequest? unit uri [] = some e →
      Carries unit' uri' bs' → TrimsTo bs' trimmed' → ofRequest? unit' uri' [] = some e' →
        (e.processId = e'.processId ↔ trimmed = trimmed')) ∧
    (∀ head ∈ unit.pathHeads, bs ≠ [] →
      (inPath head (Percent.encode bs)).length ≤ Http.Uri.maxLength →
        ∃ uri, Http.Uri.parse (inPath head (Percent.encode bs)) = .ok uri ∧ QuerySilent uri ∧
          PathCarries unit.pathHeads uri.path bs) ∧
    ((inQuery (Percent.encode bs)).length ≤ Http.Uri.maxLength →
      ∃ uri q, Http.Uri.parse (inQuery (Percent.encode bs)) = .ok uri ∧ uri.query? = some q ∧
        QueryCarries q bs) := by
  refine ⟨?_, ?_, fun uri e h => exists_carries h, ?_,
    fun head hhead hne hlen => exists_inPath_encode hhead hne hlen, exists_inQuery_encode⟩
  · intro uri q hq hbs hblank
    obtain ⟨p, hp, hnamed⟩ := hbs.exists_named hblank
    exact ⟨p, fun body => ofRequest?_of_query hq (ofQuery?_eq_some_iff.mp hp), hnamed⟩
  · intro uri hquery hbs e
    rw [ofRequest?_path_eq_some_iff hquery, hbs.ofPath?_eq_some_iff]
  · intro uri trimmed e unit' uri' bs' trimmed' e' h ht he h' ht' he'
    have hid := h.trimmed_eq ht he
    have hid' := h'.trimmed_eq ht' he'
    constructor
    · intro hsame
      rw [← hid, ← hid', hsame]
    · intro hsame
      refine ProcessId.ext_ofText ?_
      rw [hid, hid', hsame]

/-- One id with a blank before it in a path and with one behind it in a query, and a byte that is
well formed nowhere in both places. -/
theorem one_id_between_blanks :
    TrimsTo (Utf8.ofText " é") (Utf8.ofText "é") ∧ TrimsTo (Utf8.ofText "é ") (Utf8.ofText "é") ∧
      ¬Utf8.WellFormed [0xFF] ∧
      (∃ byPath byQuery e e',
        Http.Uri.parse (inPath "monitor" (Percent.encode (Utf8.ofText " é"))) = .ok byPath ∧
        Http.Uri.parse (inQuery (Percent.encode (Utf8.ofText "é "))) = .ok byQuery ∧
        Carries .messenger byPath (Utf8.ofText " é") ∧ Carries .compute byQuery (Utf8.ofText "é ") ∧
        ofRequest? .messenger byPath [] = some e ∧ ofRequest? .compute byQuery [] = some e' ∧
        e.processId = e'.processId) ∧
      ∃ byPath byQuery p, Http.Uri.parse (inPath "state" (Percent.encode [0xFF])) = .ok byPath ∧
        Http.Uri.parse (inQuery (Percent.encode [0xFF])) = .ok byQuery ∧
        ofRequest? .compute byPath [] = none ∧
        '\uFFFD' ∈ p.text.toList ∧ ofRequest? .compute byQuery [] = some ⟨p, none⟩ := by
  have hleft : TrimsTo (Utf8.ofText " é") (Utf8.ofText "é") :=
    trimsTo_encode_iff.mpr (by decide +kernel)
  have hright : TrimsTo (Utf8.ofText "é ") (Utf8.ofText "é") :=
    trimsTo_encode_iff.mpr (by decide +kernel)
  have hill : ¬Utf8.WellFormed [0xFF] := Utf8.decode?_eq_none_iff.mp (by decide +kernel)
  have hne : Utf8.ofText "é" ≠ [] := by decide +kernel
  refine ⟨hleft, hright, hill, ?_, ?_⟩
  · let p : ProcessId := ⟨"é", by decide, by decide⟩
    obtain ⟨-, hstrict, -, hshared, hinPath, -⟩ :=
      id_is_what_was_carried .messenger (Utf8.ofText " é")
    obtain ⟨hlenient, -, -, -, -, hinQuery⟩ := id_is_what_was_carried .compute (Utf8.ofText "é ")
    obtain ⟨byPath, hpath, hsilent, hcarriesPath⟩ :=
      hinPath "monitor" (by decide) (by decide +kernel) (by decide +kernel)
    obtain ⟨byQuery, q, hquery, hq, hcarriesQuery⟩ := hinQuery (by decide +kernel)
    have hblank : ¬TrimsTo (Utf8.ofText "é ") [] := fun h => hne (hright.unique h)
    have hcarried : Carries .messenger byPath (Utf8.ofText " é") := .path hsilent hcarriesPath
    have hcarried' : Carries .compute byQuery (Utf8.ofText "é ") := .query hq hcarriesQuery hblank
    have hnamed := (hstrict byPath hsilent hcarriesPath ⟨p, none⟩).mpr ⟨rfl, hleft⟩
    obtain ⟨p', hnamed', -⟩ := hlenient byQuery q hq hcarriesQuery hblank
    exact ⟨byPath, byQuery, _, _, hpath, hquery, hcarried, hcarried', hnamed, hnamed' [],
      (hshared _ _ _ _ _ _ _ _ hcarried hleft hnamed hcarried' hright (hnamed' [])).mpr rfl⟩
  · obtain ⟨hlenient, hstrict, -, -, hinPath, hinQuery⟩ := id_is_what_was_carried .compute [0xFF]
    obtain ⟨byPath, hpath, hsilent, hcarriesPath⟩ :=
      hinPath "state" (by decide) (by decide) (by decide +kernel)
    obtain ⟨byQuery, q, hquery, hq, hcarriesQuery⟩ := hinQuery (by decide +kernel)
    have hnone : ofRequest? .compute byPath [] = none := by
      rw [Option.eq_none_iff_forall_ne_some]
      exact fun e he => hill ((hstrict byPath hsilent hcarriesPath e).mp he).2.wellFormed
    obtain ⟨p, hnamed, -, hreplaced⟩ :=
      hlenient byQuery q hq hcarriesQuery fun hblank => hill hblank.wellFormed
    exact ⟨byPath, byQuery, p, hpath, hquery, hnone, hreplaced hill, hnamed []⟩

/-- Two bytes that are well formed nowhere name one process, from the query, behind both kinds of
unit. -/
theorem replaced_bytes_share_process :
    inQuery (Percent.encode [0xFF]) = Utf8.ofText "/x?process-id=%FF" ∧
      inQuery (Percent.encode [0xFE]) = Utf8.ofText "/x?process-id=%FE" ∧
      ¬Utf8.WellFormed [0xFF] ∧ ¬Utf8.WellFormed [0xFE] ∧
      ∃ p : ProcessId, p.text = "\uFFFD" ∧ ∀ unit : UnitKind, ∀ bs ∈ [[0xFF], [0xFE]],
        ∃ uri, Http.Uri.parse (inQuery (Percent.encode bs)) = .ok uri ∧
          ofRequest? unit uri [] = some ⟨p, none⟩ := by
  let p : ProcessId := ⟨"\uFFFD", by decide, by decide⟩
  have hrequest : ∀ unit : UnitKind, ∀ bs ∈ [[0xFF], [0xFE]],
      ofRequest? unit ⟨none, [], inQuery (Percent.encode bs)⟩ [] = some ⟨p, none⟩ := by
    intro unit
    cases unit
    · decide +kernel
    · decide +kernel
  have hlength : ∀ bs ∈ [[0xFF], [0xFE]],
      (inQuery (Percent.encode bs)).length ≤ Http.Uri.maxLength := by decide +kernel
  exact ⟨by decide +kernel, by decide +kernel, Utf8.decode?_eq_none_iff.mp (by decide +kernel),
    Utf8.decode?_eq_none_iff.mp (by decide +kernel), p, rfl, fun unit bs hbs =>
      ⟨_, parse_inQuery_encode (hlength bs hbs), hrequest unit bs hbs⟩⟩

end Extracted
end AffinityGate
