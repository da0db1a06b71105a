import AffinityGate.Proofs.Http.Target
import AffinityGate.Proofs.Process.Carrier

/-!
# One segment, two carriers

A process id can stand in the path, behind a head, or in the query.  The path is decoded strictly
and the query leniently, and each is cut at separators of its own; `path_and_query_name_one_process`
says that a segment without separators that stands for well-formed bytes names one process in both
places, and that every process id has such a segment.
-/

namespace AffinityGate

/-! ## Encoded bytes -/

namespace Percent

/-- Bytes of an encoded text. -/
def isEncoded (b : UInt8) : Bool :=
  isUnreserved b || b == 0x25

theorem isEncoded_digit : ∀ n < 16, isEncoded (digit n) = true := by
  decide

theorem isEncoded_of_mem_encode {bs : Bytes} {b : UInt8} (h : b ∈ encode bs) :
    isEncoded b = true := by
  obtain ⟨c, -, hmem⟩ := List.mem_flatMap.mp h
  have hc : c.toNat < 256 := c.toNat_lt
  split at hmem
  · rename_i hplain
    rw [List.mem_singleton.mp hmem, isEncoded, hplain, Bool.true_or]
  · simp only [escape, List.mem_cons, List.not_mem_nil, or_false] at hmem
    rcases hmem with rfl | rfl | rfl
    · decide
    · exact isEncoded_digit _ (by omega)
    · exact isEncoded_digit _ (by omega)

end Percent

namespace Extracted

/-! ## Segments -/

/-- Bytes that end a segment in the path or in the query, or that the two read differently. -/
def isSeparator (b : UInt8) : Bool :=
  b == 0x2F || b == 0x3F || b == 0x23 || b == 0x26 || b == 0x2B

/-- A segment without separators. -/
def IsSegment (segment : Bytes) : Prop :=
  ∀ b ∈ segment, isSeparator b = false

instance (segment : Bytes) : Decidable (IsSegment segment) :=
  decidable_of_iff (segment.all (fun b => !isSeparator b) = true) (by simp [IsSegment])

theorem IsSegment.not_mem {segment : Bytes} (h : IsSegment segment) {b : UInt8}
    (hb : isSeparator b = true) : b ∉ segment := by
  intro hmem
  rw [h b hmem] at hb
  cases hb

/-- A target with a segment in its path, behind a head. -/
def inPath (head : String) (segment : Bytes) : Bytes :=
  0x2F :: (Utf8.ofText head ++ 0x2F :: segment)

/-- A target with a segment as the value of its only query pair. -/
def inQuery (segment : Bytes) : Bytes :=
  Utf8.ofText "/x" ++ 0x3F :: (Utf8.ofText queryKey ++ 0x3D :: segment)

/-- What an id says, if there is one: the process and no owner. -/
def ofId? (id? : Option ProcessId) : Option Extracted :=
  id?.map fun p => ⟨p, none⟩

/-- The heads are encoded as they are. -/
theorem isEncoded_head {unit : UnitKind} {head : String} (h : head ∈ unit.pathHeads) :
    head ≠ "" ∧ ∀ b ∈ Utf8.ofText head, Percent.isEncoded b = true := by
  have hall : ∀ u ∈ [UnitKind.compute, .messenger], ∀ head ∈ u.pathHeads, head ≠ "" ∧
      (Utf8.ofText head).all Percent.isEncoded = true := by decide +kernel
  have hhead := hall unit (by cases unit <;> simp) head h
  exact ⟨hhead.1, List.all_eq_true.mp hhead.2⟩

/-- The key is encoded as it is. -/
theorem isEncoded_queryKey : ∀ b ∈ Utf8.ofText queryKey, Percent.isEncoded b = true :=
  List.all_eq_true.mp (by decide)

theorem not_mem_queryKey {b : UInt8} (hb : Percent.isEncoded b = false) :
    b ∉ Utf8.ofText queryKey := by
  intro hmem
  rw [isEncoded_queryKey b hmem] at hb
  cases hb

/-- A byte that stands in paths and in queries and separates nothing. -/
structure IsCarried (b : UInt8) : Prop where
  path : Http.Uri.isPathByte b = true
  query : Http.Uri.isQueryByte b = true
  ascii : b < 0x80
  apart : isSeparator b = false

theorem isCarried_of_isEncoded {b : UInt8} (h : Percent.isEncoded b = true) : IsCarried b := by
  have hall : ∀ b, Percent.isEncoded b = true → Http.Uri.isPathByte b = true ∧
      Http.Uri.isQueryByte b = true ∧ b < 0x80 ∧ isSeparator b = false :=
    forall_byte (by decide +kernel)
  obtain ⟨hpath, hquery, hascii, hapart⟩ := hall b h
  exact ⟨hpath, hquery, hascii, hapart⟩

theorem not_mem_head {unit : UnitKind} {head : String} (h : head ∈ unit.pathHeads) {b : UInt8}
    (hb : isSeparator b = true) : b ∉ Utf8.ofText head := by
  intro hmem
  rw [(isCarried_of_isEncoded ((isEncoded_head h).2 b hmem)).apart] at hb
  cases hb

/-! ## The path -/

theorem ofSegment?_nil : ofSegment? [] = none := by
  have hread : Utf8.decode? [] = some [] := Utf8.decode?_encode []
  rw [ofSegment?, Percent.decode, Utf8.text?, hread]
  rfl

theorem ofBody?_nil : ofBody? [] = none := rfl

/-- The segments of a path with a head; an empty one is none. -/
theorem segments_inPath {unit : UnitKind} {head : String} (hhead : head ∈ unit.pathHeads)
    {segment : Bytes} (hs : IsSegment segment) :
    (pieces (0x2F : UInt8) (inPath head segment)).filter (!·.isEmpty) =
      Utf8.ofText head :: [segment].filter (!·.isEmpty) := by
  have hne : Utf8.ofText head ≠ [] := by
    refine Utf8.encode_ne_nil fun hnil => (isEncoded_head hhead).1 ?_
    rw [← String.ofList_toList (s := head), hnil]
  rw [inPath, pieces_pair (not_mem_head hhead (by decide)) (hs.not_mem (by decide)),
    List.filter_cons_of_neg (by simp), List.filter_cons_of_pos (by simpa using hne)]

theorem ofPath?_inPath {unit : UnitKind} {head : String} (hhead : head ∈ unit.pathHeads)
    {segment : Bytes} (hs : IsSegment segment) :
    ofPath? unit.pathHeads (inPath head segment) = ofSegment? segment := by
  have hknown : (unit.pathHeads.map Utf8.ofText).contains (Utf8.ofText head) = true :=
    List.contains_iff_mem.mpr (List.mem_map_of_mem hhead)
  rw [ofPath?, segments_inPath hhead hs]
  cases segment with
  | nil => exact ofSegment?_nil.symm
  | cons b segment =>
    rw [List.filter_cons_of_pos (by simp)]
    simp only [hknown, if_true]

/-- Such a target is a path without a query. -/
theorem parts_inPath {unit : UnitKind} {head : String} (hhead : head ∈ unit.pathHeads)
    {segment : Bytes} (hs : IsSegment segment) :
    (Http.Uri.mk none [] (inPath head segment)).path = inPath head segment ∧
      (Http.Uri.mk none [] (inPath head segment)).query? = none := by
  have hplain : ∀ b ∈ inPath head segment, (b != 0x3F) = true := by
    intro b hb
    rw [bne_iff_ne]
    rintro rfl
    simp only [inPath, List.mem_cons, List.mem_append] at hb
    rcases hb with hb | hb | hb | hb
    · cases hb
    · exact not_mem_head hhead (by decide) hb
    · cases hb
    · exact hs.not_mem (by decide) hb
  exact Http.Uri.path_of_no_query (by simp [inPath]) hplain

/-- What a path with a head says is what its segment says. -/
theorem ofRequest?_inPath {unit : UnitKind} {head : String} (hhead : head ∈ unit.pathHeads)
    {segment : Bytes} (hs : IsSegment segment) :
    ofRequest? unit ⟨none, [], inPath head segment⟩ [] = ofId? (ofSegment? segment) := by
  obtain ⟨hpath, hquery⟩ := parts_inPath hhead hs
  simp only [ofRequest?, hquery, Option.bind_none, hpath, ofPath?_inPath hhead hs, ofId?]
  cases ofSegment? segment with
  | some p => rfl
  | none => cases unit <;> simp [ofBody?_nil]

/-! ## The query -/

/-- A segment has no plus signs to be read as spaces. -/
theorem spaces_segment {segment : Bytes} (hs : IsSegment segment) :
    (segment.map fun b => if b = 0x2B then 0x20 else b) = segment := by
  refine (List.map_congr_left fun b hb => ?_).trans (List.map_id segment)
  exact if_neg fun heq => hs.not_mem (by decide) (heq ▸ hb)

theorem component_segment {segment : Bytes} (hs : IsSegment segment) :
    Form.component segment = Utf8.lossy (Percent.decode segment) := by
  rw [Form.component, spaces_segment hs]

/-- The query is one pair. -/
theorem pieces_query {segment : Bytes} (hs : IsSegment segment) :
    (pieces (0x26 : UInt8) (Utf8.ofText queryKey ++ 0x3D :: segment)).filter (!·.isEmpty) =
      [Utf8.ofText queryKey ++ 0x3D :: segment] := by
  have hpiece : (0x26 : UInt8) ∉ Utf8.ofText queryKey ++ 0x3D :: segment := by
    simp only [List.mem_append, List.mem_cons, not_or]
    exact ⟨not_mem_queryKey (by decide), by decide, hs.not_mem (by decide)⟩
  rw [pieces_of_not_mem hpiece, List.filter_cons_of_pos (by simp)]
  rfl

theorem pair_query (segment : Bytes) :
    Form.pair (Utf8.ofText queryKey ++ 0x3D :: segment) =
      (queryKey.toList, Form.component segment) := by
  have hkey : ∀ b ∈ Utf8.ofText queryKey, b ≠ 0x3D := fun b hb heq =>
    not_mem_queryKey (by decide) (heq ▸ hb)
  rw [Form.pair_of_key hkey, component_queryKey]

/-- The lenient reader of the query finds what the strict reader of the path finds. -/
theorem ofQuery?_segment {segment : Bytes} (hs : IsSegment segment)
    (hutf8 : (Utf8.text? (Percent.decode segment)).isSome = true) :
    ofQuery? (Utf8.ofText queryKey ++ 0x3D :: segment) = ofSegment? segment := by
  have hfirst : Form.first? queryKey.toList (Utf8.ofText queryKey ++ 0x3D :: segment) =
      some (Form.component segment) :=
    Form.first?_of_pieces (pieces_query hs) (List.forall_mem_nil _) (pair_query segment)
  obtain ⟨text, htext⟩ := Option.isSome_iff_exists.mp hutf8
  obtain ⟨cs, hcs, rfl⟩ := Option.map_eq_some_iff.mp htext
  -- Without plus signs the value is decoded as a path is.
  rw [ofQuery?, hfirst, ofSegment?, htext, component_segment hs, Utf8.lossy_of_decode? hcs]
  rfl

theorem ofText_front : Utf8.ofText "/x" = [0x2F, 0x78] := by
  decide

theorem parts_inQuery (segment : Bytes) :
    (Http.Uri.mk none [] (inQuery segment)).path = Utf8.ofText "/x" ∧
      (Http.Uri.mk none [] (inQuery segment)).query? =
        some (Utf8.ofText queryKey ++ 0x3D :: segment) := by
  have hfront : (0x3F : UInt8) ∉ Utf8.ofText "/x" := by
    rw [ofText_front]
    decide
  have hpath : Http.Uri.pathPart (inQuery segment) = Utf8.ofText "/x" := by
    rw [inQuery, Http.Uri.pathPart_append hfront]
    simp [Http.Uri.pathPart]
  have hquery : Http.Uri.queryPart (inQuery segment) =
      0x3F :: (Utf8.ofText queryKey ++ 0x3D :: segment) := by
    rw [inQuery, Http.Uri.queryPart_append hfront]
    simp [Http.Uri.queryPart]
  have hne : Utf8.ofText "/x" ≠ [] := by
    rw [ofText_front]
    exact List.cons_ne_nil _ _
  have htarget : inQuery segment ≠ [] := by simp [inQuery]
  exact ⟨by simp [Http.Uri.path, hpath, hne, htarget], by simp only [Http.Uri.query?, hquery]⟩

theorem ofRequest?_inQuery (unit : UnitKind) {segment : Bytes} (hs : IsSegment segment)
    (hutf8 : (Utf8.text? (Percent.decode segment)).isSome = true) :
    ofRequest? unit ⟨none, [], inQuery segment⟩ [] = ofId? (ofSegment? segment) := by
  obtain ⟨hpath, hquery⟩ := parts_inQuery segment
  have helse : ofPath? unit.pathHeads (Utf8.ofText "/x") = none := by
    cases unit
    · decide +kernel
    · decide +kernel
  simp only [ofRequest?, hquery, Option.bind_some, ofQuery?_segment hs hutf8, hpath, helse, ofId?]
  cases ofSegment? segment with
  | some p => rfl
  | none => cases unit <;> simp [ofBody?_nil]

/-! ## As targets -/

theorem parse_inPath {unit : UnitKind} {head : String} (hhead : head ∈ unit.pathHeads)
    {segment : Bytes} (hs : IsSegment segment) {uri : Http.Uri}
    (h : Http.Uri.parse (inPath head segment) = .ok uri) :
    uri = ⟨none, [], inPath head segment⟩ := by
  refine Http.Uri.eq_of_parse_origin h ?_
  simp only [List.mem_cons, List.mem_append, not_or]
  exact ⟨by decide, not_mem_head hhead (by decide), by decide, hs.not_mem (by decide)⟩

theorem inQuery_eq (segment : Bytes) :
    inQuery segment = 0x2F :: 0x78 :: 0x3F :: (Utf8.ofText queryKey ++ 0x3D :: segment) := by
  rw [inQuery, ofText_front]
  rfl

theorem parse_inQuery {segment : Bytes} (hs : IsSegment segment) {uri : Http.Uri}
    (h : Http.Uri.parse (inQuery segment) = .ok uri) : uri = ⟨none, [], inQuery segment⟩ := by
  rw [inQuery_eq] at h ⊢
  refine Http.Uri.eq_of_parse_origin h ?_
  simp only [List.mem_cons, List.mem_append, not_or]
  exact ⟨by decide, by decide, by decide, not_mem_queryKey (by decide), by decide,
    hs.not_mem (by decide)⟩

theorem isSegment_encode (bs : Bytes) : IsSegment (Percent.encode bs) :=
  fun _ hb => (isCarried_of_isEncoded (Percent.isEncoded_of_mem_encode hb)).apart

/-- Any bytes can stand, encoded, in a path behind a head. -/
theorem parse_inPath_encode {unit : UnitKind} {head : String} (hhead : head ∈ unit.pathHeads)
    {bs : Bytes} (hlen : (inPath head (Percent.encode bs)).length ≤ Http.Uri.maxLength) :
    Http.Uri.parse (inPath head (Percent.encode bs)) =
      .ok ⟨none, [], inPath head (Percent.encode bs)⟩ := by
  have hbytes : ∀ b ∈ inPath head (Percent.encode bs),
      Http.Uri.isPathByte b = true ∧ b < 0x80 := by
    intro b hb
    simp only [inPath, List.mem_cons, List.mem_append] at hb
    rcases hb with rfl | hb | rfl | hb
    · decide
    · have hcarried := isCarried_of_isEncoded ((isEncoded_head hhead).2 b hb)
      exact ⟨hcarried.path, hcarried.ascii⟩
    · decide
    · have hcarried := isCarried_of_isEncoded (Percent.isEncoded_of_mem_encode hb)
      exact ⟨hcarried.path, hcarried.ascii⟩
  exact (Http.Uri.isTarget_of_ascii hbytes (List.forall_mem_nil _)).1.parse hlen

/-- Any bytes can stand, encoded, in a query. -/
theorem parse_inQuery_encode {bs : Bytes}
    (hlen : (inQuery (Percent.encode bs)).length ≤ Http.Uri.maxLength) :
    Http.Uri.parse (inQuery (Percent.encode bs)) =
      .ok ⟨none, [], inQuery (Percent.encode bs)⟩ := by
  have hfront : ∀ b ∈ ([0x2F, 0x78] : Bytes), Http.Uri.isPathByte b = true ∧ b < 0x80 := by
    intro b hb
    simp only [List.mem_cons, List.not_mem_nil, or_false] at hb
    rcases hb with rfl | rfl
    · decide
    · decide
  have hbytes : ∀ b ∈ Utf8.ofText queryKey ++ 0x3D :: Percent.encode bs,
      Http.Uri.isQueryByte b = true ∧ b < 0x80 := by
    intro b hb
    simp only [List.mem_cons, List.mem_append] at hb
    rcases hb with hb | rfl | hb
    · have hcarried := isCarried_of_isEncoded (isEncoded_queryKey b hb)
      exact ⟨hcarried.query, hcarried.ascii⟩
    · decide
    · have hcarried := isCarried_of_isEncoded (Percent.isEncoded_of_mem_encode hb)
      exact ⟨hcarried.query, hcarried.ascii⟩
  rw [inQuery_eq] at hlen ⊢
  exact (Http.Uri.isTarget_of_ascii hfront hbytes).2.parse hlen

/-- The segment that stands for a process id. -/
def segmentOf (p : ProcessId) : Bytes :=
  Percent.encode (Utf8.ofText p.text)

theorem text?_segmentOf (p : ProcessId) :
    Utf8.text? (Percent.decode (segmentOf p)) = some p.text := by
  rw [segmentOf, Percent.decode_encode, Utf8.text?, Utf8.ofText, Utf8.decode?_encode,
    Option.map_some, String.ofList_toList]

theorem ofSegment?_segmentOf (p : ProcessId) : ofSegment? (segmentOf p) = some p := by
  rw [ofSegment?, text?_segmentOf, Option.bind_some, ProcessId.ofText?_text]

/-! ## Both carriers -/

/-- What is found without a body is found with any. -/
theorem ofRequest?_of_no_body {unit : UnitKind} {uri : Http.Uri} {e : Extracted}
    (h : ofRequest? unit uri [] = some e) (body : Bytes) : ofRequest? unit uri body = some e := by
  unfold ofRequest? at h ⊢
  split at h
  · exact h
  · split at h
    · exact h
    · cases unit
      · cases h
      · rw [ofBody?_nil] at h
        cases h

/-- A segment names one process in both carriers, or none in both, and brings no owner along.  The
segment that stands for a process id names it in both, whatever the body. -/
theorem path_and_query_name_one_process (unit : UnitKind) {head : String}
    (hhead : head ∈ unit.pathHeads) :
    (∀ segment, IsSegment segment → (Utf8.text? (Percent.decode segment)).isSome = true →
      ∀ byPath byQuery, Http.Uri.parse (inPath head segment) = .ok byPath →
        Http.Uri.parse (inQuery segment) = .ok byQuery →
        ofRequest? unit byPath [] = ofRequest? unit byQuery [] ∧
          ∀ e, ofRequest? unit byPath [] = some e → e.spawnOwner = none) ∧
    ∀ p : ProcessId, ∀ target ∈ [inPath head (segmentOf p), inQuery (segmentOf p)],
      target.length ≤ Http.Uri.maxLength →
        ∃ uri, Http.Uri.parse target = .ok uri ∧
          ∀ body, ofRequest? unit uri body = some ⟨p, none⟩ := by
  constructor
  · intro segment hs hutf8 byPath byQuery hpath hquery
    rw [parse_inPath hhead hs hpath, parse_inQuery hs hquery, ofRequest?_inPath hhead hs,
      ofRequest?_inQuery unit hs hutf8]
    refine ⟨rfl, fun e he => ?_⟩
    obtain ⟨p, -, rfl⟩ := Option.map_eq_some_iff.mp he
    rfl
  · intro p target htarget hlen
    have hs : IsSegment (segmentOf p) := isSegment_encode _
    have hutf8 : (Utf8.text? (Percent.decode (segmentOf p))).isSome = true := by
      rw [text?_segmentOf, Option.isSome_some]
    have hnamed : ofId? (ofSegment? (segmentOf p)) = some ⟨p, none⟩ := by
      rw [ofSegment?_segmentOf]
      rfl
    simp only [List.mem_cons, List.not_mem_nil, or_false] at htarget
    rcases htarget with rfl | rfl
    · exact ⟨_, parse_inPath_encode hhead hlen,
        ofRequest?_of_no_body ((ofRequest?_inPath hhead hs).trans hnamed)⟩
    · exact ⟨_, parse_inQuery_encode hlen,
        ofRequest?_of_no_body ((ofRequest?_inQuery unit hs hutf8).trans hnamed)⟩

/-- Blanks around the id, letters with and without escapes, an equals sign and an escape that is
none. -/
def mixedSegment : Bytes :=
  Utf8.ofText "%20é%C3%A9=%zz%20"

/-- Both readers undo the escapes there are, keep the one that is none, and trim the blanks. -/
theorem mixed_segment_names_one_process :
    "monitor" ∈ UnitKind.messenger.pathHeads ∧ IsSegment mixedSegment ∧
      ∃ byPath byQuery, Http.Uri.parse (inPath "monitor" mixedSegment) = .ok byPath ∧
        Http.Uri.parse (inQuery mixedSegment) = .ok byQuery ∧
        ofRequest? .messenger byPath [] = ofRequest? .messenger byQuery [] ∧
        (ofRequest? .messenger byQuery []).map (·.processId.text) = some "éé=%zz" := by
  have hhead : "monitor" ∈ UnitKind.messenger.pathHeads := by decide
  have hs : IsSegment mixedSegment := by decide +kernel
  have hutf8 : (Utf8.text? (Percent.decode mixedSegment)).isSome = true := by decide +kernel
  have hpath : Http.Uri.parse (inPath "monitor" mixedSegment) =
      .ok ⟨none, [], inPath "monitor" mixedSegment⟩ :=
    Http.Uri.IsTarget.parse ⟨by decide +kernel, by decide +kernel, by decide +kernel⟩
      (by decide +kernel)
  have hquery : Http.Uri.parse (inQuery mixedSegment) =
      .ok ⟨none, [], inQuery mixedSegment⟩ := by
    rw [inQuery_eq]
    exact Http.Uri.IsTarget.parse ⟨by decide +kernel, by decide +kernel, by decide +kernel⟩
      (by decide +kernel)
  have hsame := (path_and_query_name_one_process .messenger hhead).1 mixedSegment hs hutf8
    _ _ hpath hquery
  exact ⟨hhead, hs, _, _, hpath, hquery, hsame.1, by decide +kernel⟩

end Extracted
end AffinityGate
