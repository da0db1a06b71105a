import AffinityGate.Proofs.Process.Carrier
import AffinityGate.Proofs.Process.DataItem
import AffinityGate.Proofs.Text.Ends
import AffinityGate.Proofs.Text.WellFormed

/-!
# The first carrier that names a process decides

`QueryNames`, `PathNames` and `BodyNames` say, without the readers, what a query, a path and a body
name.  The three readers are exact for them (`ofQuery?_eq_some_iff`, `ofPath?_eq_some_iff`,
`ofBody?_eq_some_iff`), and `first_carrier_decides` says in which order they are asked and what an
answer contains.
-/

namespace AffinityGate

/-! ## Ids and texts -/

namespace ProcessId

/-- A text that is not blank names the process whose id is the text less the blanks around it. -/
structure NamedBy (p : ProcessId) (text : List Char) : Prop where
  notBlank : ∃ c ∈ text, isBlank c = false
  trimmed : p.text.toList = trim text

theorem ofText?_eq_some_iff {text : List Char} {p : ProcessId} :
    ofText? (String.ofList text) = some p ↔ p.NamedBy text := by
  have hblank : trimText (String.ofList text) = "" ↔ ∀ c ∈ text, isBlank c = true := by
    rw [trimText_eq_empty_iff, String.toList_ofList]
  constructor
  · intro h
    have htext := text_of_ofText? h
    rw [ofText?] at h
    split at h
    · cases h
    · rename_i hne
      rw [hblank] at hne
      refine ⟨by simpa using hne, ?_⟩
      rw [htext, trimText, String.toList_ofList, String.toList_ofList]
  · rintro ⟨⟨c, hc, hcblank⟩, htrimmed⟩
    have hne : ¬trimText (String.ofList text) = "" := fun h => by
      rw [hblank.mp h c hc] at hcblank
      cases hcblank
    have htext : trimText (String.ofList text) = p.text := by
      rw [trimText, String.toList_ofList, ← htrimmed, String.ofList_toList]
    rw [ofText?, dif_neg hne]
    obtain ⟨id, _, _⟩ := p
    subst htext
    rfl

/-- Every text that is not blank names a process. -/
theorem exists_namedBy {text : List Char} (h : ∃ c ∈ text, isBlank c = false) :
    ∃ p : ProcessId, p.NamedBy text := by
  obtain ⟨c, hc, hblank⟩ := h
  have htrimmed : trimText (String.ofList (trim text)) = String.ofList (trim text) := by
    rw [trimText, String.toList_ofList, trim_trim]
  have hne : String.ofList (trim text) ≠ "" := fun hempty =>
    List.ne_nil_of_mem (mem_trim hc hblank) (String.ofList_eq_empty_iff.mp hempty)
  exact ⟨⟨_, htrimmed, hne⟩, ⟨c, hc, hblank⟩, String.toList_ofList⟩

/-- A text of no blanks names the process with this id. -/
theorem namedBy_of_no_blank {p : ProcessId} {text : List Char} (hne : text ≠ [])
    (h : ∀ c ∈ text, isBlank c = false) : p.NamedBy text ↔ p.text.toList = text := by
  constructor
  · exact fun hp => hp.trimmed.trans (trim_of_no_blank h)
  · intro hp
    obtain ⟨c, hc⟩ := List.exists_mem_of_ne_nil text hne
    exact ⟨⟨c, hc, h c hc⟩, hp.trans (trim_of_no_blank h).symm⟩

/-- What is named is not empty and has a blank at neither end. -/
theorem NamedBy.ends {p : ProcessId} {text : List Char} (h : p.NamedBy text) :
    p.text.toList ≠ [] ∧ (∀ c ∈ p.text.toList.head?, isBlank c = false) ∧
      ∀ c ∈ p.text.toList.getLast?, isBlank c = false := by
  obtain ⟨⟨c, hc, hblank⟩, htrimmed⟩ := h
  rw [htrimmed]
  exact ⟨List.ne_nil_of_mem (mem_trim hc hblank), fun _ => head?_trim, fun _ => getLast?_trim⟩

end ProcessId

namespace Extracted

/-! ## What the three carriers name -/

/-- The first pair with the key has a value that names the process. -/
def QueryNames (query : Bytes) (p : ProcessId) : Prop :=
  ∃ before value after, Form.pairs query = before ++ (queryKey.toList, value) :: after ∧
    (∀ pair ∈ before, pair.1 ≠ queryKey.toList) ∧ p.NamedBy value

/-- The first segment that is not empty is a head, and the next one stands for well-formed bytes of
a text that names the process. -/
def PathNames (heads : List String) (path : Bytes) (p : ProcessId) : Prop :=
  ∃ head ∈ heads, ∃ segment rest text,
    (pieces (0x2F : UInt8) path).filter (!·.isEmpty) = Utf8.ofText head :: segment :: rest ∧
    Percent.decode segment = Utf8.encode text ∧ p.NamedBy text

/-- A data item names its target or, if it has none, the process of its signature, which its signer
owns then. -/
inductive BodyNames (body : Bytes) : Extracted → Prop
  | message {item : DataItem} {target : Bytes} {p : ProcessId} :
    DataItem.read? body = some item → item.target = some target →
    p.text.toList = Base64.encode target → BodyNames body ⟨p, none⟩
  | spawn {item : DataItem} {p : ProcessId} :
    DataItem.read? body = some item → item.target = none →
    p.text.toList = Base64.encode (Digest.sha256 item.signature) →
    BodyNames body ⟨p, some (String.ofList (Base64.encode (Digest.sha256 item.owner)))⟩

theorem ofQuery?_eq_some_iff {query : Bytes} {p : ProcessId} :
    ofQuery? query = some p ↔ QueryNames query p := by
  rw [ofQuery?, Option.bind_eq_some_iff]
  simp only [Form.first?_eq_some_iff, ProcessId.ofText?_eq_some_iff]
  constructor
  · rintro ⟨value, ⟨before, after, hpairs, hbefore⟩, hp⟩
    exact ⟨before, value, after, hpairs, hbefore, hp⟩
  · rintro ⟨before, value, after, hpairs, hbefore, hp⟩
    exact ⟨value, ⟨before, after, hpairs, hbefore⟩, hp⟩

theorem bind_ofQuery?_eq_some_iff {uri : Http.Uri} {p : ProcessId} :
    uri.query?.bind ofQuery? = some p ↔ ∃ q, uri.query? = some q ∧ QueryNames q p := by
  simp only [Option.bind_eq_some_iff, ofQuery?_eq_some_iff]

theorem ofSegment?_eq_some_iff {segment : Bytes} {p : ProcessId} :
    ofSegment? segment = some p ↔
      ∃ text, Percent.decode segment = Utf8.encode text ∧ p.NamedBy text := by
  rw [ofSegment?, Utf8.text?, Option.bind_eq_some_iff]
  simp only [Option.map_eq_some_iff, Utf8.decode?_eq_some_iff_encode]
  constructor
  · rintro ⟨_, ⟨text, htext, rfl⟩, hp⟩
    exact ⟨text, htext, ProcessId.ofText?_eq_some_iff.mp hp⟩
  · rintro ⟨text, htext, hp⟩
    exact ⟨_, ⟨text, htext, rfl⟩, ProcessId.ofText?_eq_some_iff.mpr hp⟩

theorem ofPath?_eq_some_iff {heads : List String} {path : Bytes} {p : ProcessId} :
    ofPath? heads path = some p ↔ PathNames heads path p := by
  rw [ofPath?]
  constructor
  · intro h
    split at h
    · rename_i found segment rest hsegments
      split at h
      · rename_i hfound
        obtain ⟨head, hhead, rfl⟩ := List.mem_map.mp (List.contains_iff_mem.mp hfound)
        obtain ⟨text, htext, hp⟩ := ofSegment?_eq_some_iff.mp h
        exact ⟨head, hhead, segment, rest, text, hsegments, htext, hp⟩
      · cases h
    · cases h
  · rintro ⟨head, hhead, segment, rest, text, hsegments, htext, hp⟩
    have hknown : (heads.map Utf8.ofText).contains (Utf8.ofText head) = true :=
      List.contains_iff_mem.mpr (List.mem_map_of_mem hhead)
    rw [hsegments]
    simp only [hknown, if_true]
    exact ofSegment?_eq_some_iff.mpr ⟨text, htext, hp⟩

theorem forall_not_pathNames_iff {heads : List String} {path : Bytes} :
    (∀ p, ¬PathNames heads path p) ↔ ofPath? heads path = none := by
  rw [Option.eq_none_iff_forall_ne_some]
  simp only [ne_eq, ofPath?_eq_some_iff]

/-! ## Data items -/

/-- The URL-safe text of some bytes is an id. -/
theorem ofText?_encode_eq_some_iff {bs : Bytes} (hne : bs ≠ []) {p : ProcessId} :
    ProcessId.ofText? (String.ofList (Base64.encode bs)) = some p ↔
      p.text.toList = Base64.encode bs := by
  rw [ProcessId.ofText?_eq_some_iff, ProcessId.namedBy_of_no_blank (Base64.encode_ne_nil hne)]
  exact fun c hc => (Base64.inert_of_urlSafe (Base64.mem_encode hc)).1

theorem exists_ofText?_encode {bs : Bytes} (hne : bs ≠ []) :
    ∃ p, ProcessId.ofText? (String.ofList (Base64.encode bs)) = some p := by
  obtain ⟨c, hc⟩ := List.exists_mem_of_ne_nil _ (Base64.encode_ne_nil hne)
  obtain ⟨p, hp⟩ := ProcessId.exists_namedBy
    ⟨c, hc, (Base64.inert_of_urlSafe (Base64.mem_encode hc)).1⟩
  exact ⟨p, ProcessId.ofText?_eq_some_iff.mpr hp⟩

theorem target_ne_nil {item : DataItem} {body target : Bytes}
    (hread : DataItem.read? body = some item) (htarget : item.target = some target) :
    target ≠ [] := by
  rintro rfl
  have hlength := (DataItem.read?_eq_some_iff.mp hread).1.target [] htarget
  cases hlength

theorem ofBody?_eq_some_iff {body : Bytes} {e : Extracted} :
    ofBody? body = some e ↔ BodyNames body e := by
  constructor
  · intro h
    rw [ofBody?] at h
    split at h
    · cases h
    · rename_i item hread
      obtain ⟨p, hp, rfl⟩ := Option.map_eq_some_iff.mp h
      rw [DataItem.processId?] at hp
      cases htarget : item.target with
      | some target =>
        rw [htarget] at hp
        have hid := (ofText?_encode_eq_some_iff (target_ne_nil hread htarget)).mp hp
        simp only [DataItem.isSpawn, htarget, Option.isNone_some, Bool.false_eq_true, if_false]
        exact .message hread htarget hid
      | none =>
        rw [htarget] at hp
        have hid := (ofText?_encode_eq_some_iff (sha256_ne_nil item.signature)).mp hp
        simp only [DataItem.isSpawn, htarget, Option.isNone_none, if_true]
        exact .spawn hread htarget hid
  · intro h
    cases h with
    | message hread htarget hid =>
      have hp := (ofText?_encode_eq_some_iff (target_ne_nil hread htarget)).mpr hid
      simp only [ofBody?, hread, DataItem.processId?, htarget, hp, DataItem.isSpawn]
      rfl
    | @spawn item p hread htarget hid =>
      have hp := (ofText?_encode_eq_some_iff (sha256_ne_nil item.signature)).mpr hid
      simp only [ofBody?, hread, DataItem.processId?, htarget, DataItem.id, DataItem.digestText, hp,
        DataItem.isSpawn]
      rfl

/-- Every item that is read names a process. -/
theorem exists_bodyNames {body : Bytes} {item : DataItem}
    (hread : DataItem.read? body = some item) : ∃ e, BodyNames body e := by
  cases htarget : item.target with
  | some target =>
    have hne := target_ne_nil hread htarget
    obtain ⟨p, hp⟩ := exists_ofText?_encode hne
    exact ⟨_, .message hread htarget ((ofText?_encode_eq_some_iff hne).mp hp)⟩
  | none =>
    have hne := sha256_ne_nil item.signature
    obtain ⟨p, hp⟩ := exists_ofText?_encode hne
    exact ⟨_, .spawn hread htarget ((ofText?_encode_eq_some_iff hne).mp hp)⟩

/-! ## The order of the carriers -/

variable {unit : UnitKind} {uri : Http.Uri} {body : Bytes}

theorem ofRequest?_of_query {q : Bytes} {p : ProcessId} (hq : uri.query? = some q)
    (h : QueryNames q p) : ofRequest? unit uri body = some ⟨p, none⟩ := by
  have hquery := bind_ofQuery?_eq_some_iff.mpr ⟨q, hq, h⟩
  simp only [ofRequest?, hquery]

/-- The query names no process. -/
def QuerySilent (uri : Http.Uri) : Prop :=
  ∀ q p, uri.query? = some q → ¬QueryNames q p

theorem querySilent_iff : QuerySilent uri ↔ uri.query?.bind ofQuery? = none := by
  rw [Option.eq_none_iff_forall_ne_some]
  simp only [ne_eq, bind_ofQuery?_eq_some_iff, not_exists, not_and]
  exact ⟨fun h p q => h q p, fun h q p => h p q⟩

theorem ofRequest?_of_path {p : ProcessId} (hquery : QuerySilent uri)
    (h : PathNames unit.pathHeads uri.path p) : ofRequest? unit uri body = some ⟨p, none⟩ := by
  simp only [ofRequest?, querySilent_iff.mp hquery, ofPath?_eq_some_iff.mpr h]

/-- Behind query and path that name nothing, the body decides. -/
theorem ofRequest?_of_silent (hquery : QuerySilent uri)
    (hpath : ∀ p, ¬PathNames unit.pathHeads uri.path p) :
    ofRequest? unit uri body = if unit = .messenger then ofBody? body else none := by
  have hnone := forall_not_pathNames_iff.mp hpath
  cases unit <;> simp only [ofRequest?, querySilent_iff.mp hquery, hnone] <;> rfl

/-- **The first carrier that names a process decides.**  A query that names a process is followed
whatever path and body are, and then a path whatever the body is; neither brings an owner along.
Behind a compute unit nothing else names a process; behind a messenger unit a data item does,
always, and only one that starts its process brings an owner along, its signer. -/
theorem first_carrier_decides (unit : UnitKind) (uri : Http.Uri) (body : Bytes) :
    (∀ q p, uri.query? = some q → QueryNames q p →
      ofRequest? unit uri body = some ⟨p, none⟩) ∧
    (QuerySilent uri →
      (∀ p, PathNames unit.pathHeads uri.path p → ofRequest? unit uri body = some ⟨p, none⟩) ∧
      ((∀ p, ¬PathNames unit.pathHeads uri.path p) →
        (unit = .compute → ofRequest? unit uri body = none) ∧
        (unit = .messenger → ∀ e, ofRequest? unit uri body = some e ↔ BodyNames body e))) ∧
    (∀ item, DataItem.read? body = some item → ∃ e, BodyNames body e) ∧
    ∀ e, ofRequest? unit uri body = some e → e.processId.text.toList ≠ [] ∧
      (∀ c ∈ e.processId.text.toList.head?, isBlank c = false) ∧
      ∀ c ∈ e.processId.text.toList.getLast?, isBlank c = false := by
  refine ⟨fun q p hq h => ofRequest?_of_query hq h, fun hquery => ⟨fun p h => ?_, fun hpath => ?_⟩,
    fun item hread => exists_bodyNames hread, fun e _ => ?_⟩
  · exact ofRequest?_of_path hquery h
  · have hbody : ofRequest? unit uri body = _ := ofRequest?_of_silent hquery hpath
    refine ⟨?_, ?_⟩
    · rintro rfl
      exact hbody
    · rintro rfl e
      rw [hbody]
      exact ofBody?_eq_some_iff
  · have hself : e.processId.NamedBy e.processId.text.toList := by
      rw [← ProcessId.ofText?_eq_some_iff, String.ofList_toList]
      exact ProcessId.ofText?_text e.processId
    exact hself.ends

/-- A key with an escape, a blank value in front of another one, doubled slashes, and a segment that
stands for no text: each leaves the decision to the next carrier.  The body is a spawn, or the same
item with a target. -/
theorem each_carrier_in_turn :
    let spawn : DataItem := ⟨2, List.replicate 64 7, List.replicate 32 1, none⟩
    let message : DataItem := { spawn with target := some (List.replicate 32 9) }
    let byQuery : Http.Uri := ⟨none, [], Utf8.ofText "/monitor/a?x&process%2Did=+b+&process-id=c"⟩
    let byPath : Http.Uri := ⟨none, [], Utf8.ofText "//monitor//%20a?process-id=+&process-id=c"⟩
    let byBody : Http.Uri := ⟨none, [], Utf8.ofText "/monitor/%FF?process-id="⟩
    (∃ q p, byQuery.query? = some q ∧ QueryNames q p ∧ p.text = "b" ∧
      ofRequest? .messenger byQuery spawn.write = some ⟨p, none⟩) ∧
    (∃ p, QuerySilent byPath ∧ PathNames UnitKind.messenger.pathHeads byPath.path p ∧ p.text = "a" ∧
      ofRequest? .messenger byPath spawn.write = some ⟨p, none⟩) ∧
    QuerySilent byBody ∧ (∀ unit : UnitKind, ∀ p, ¬PathNames unit.pathHeads byBody.path p) ∧
    ofRequest? .compute byBody spawn.write = none ∧
    (∃ p, ofRequest? .messenger byBody spawn.write = some ⟨p, some spawn.ownerAddress⟩) ∧
    ∃ p, ofRequest? .messenger byBody message.write = some ⟨p, none⟩ := by
  intro spawn message byQuery byPath byBody
  have hspawn : DataItem.read? spawn.write = some spawn := by
    simpa using DataItem.read?_write_append (d := spawn) ⟨by decide, by decide⟩ []
  have hmessage : DataItem.read? message.write = some message := by
    simpa using DataItem.read?_write_append (d := message) ⟨by decide, by decide⟩ []
  let a : ProcessId := ⟨"a", by decide, by decide⟩
  let b : ProcessId := ⟨"b", by decide, by decide⟩
  have hb : QueryNames (Utf8.ofText "x&process%2Did=+b+&process-id=c") b :=
    ofQuery?_eq_some_iff.mp (by decide +kernel)
  have ha : PathNames UnitKind.messenger.pathHeads byPath.path a :=
    ofPath?_eq_some_iff.mp (by decide +kernel)
  have hquery : byQuery.query? = some (Utf8.ofText "x&process%2Did=+b+&process-id=c") := by
    decide +kernel
  have hblank : QuerySilent byPath := querySilent_iff.mpr (by decide +kernel)
  have hempty : QuerySilent byBody := querySilent_iff.mpr (by decide +kernel)
  have hpath : ∀ unit : UnitKind, ∀ p, ¬PathNames unit.pathHeads byBody.path p := by
    intro unit
    refine forall_not_pathNames_iff.mpr ?_
    cases unit <;> decide +kernel
  obtain ⟨hfirst, -⟩ := first_carrier_decides .messenger byQuery spawn.write
  obtain ⟨-, hsecond, -⟩ := first_carrier_decides .messenger byPath spawn.write
  obtain ⟨-, hcompute, -⟩ := first_carrier_decides .compute byBody spawn.write
  obtain ⟨-, hthird, hitem, -⟩ := first_carrier_decides .messenger byBody spawn.write
  obtain ⟨-, hthird', hitem', -⟩ := first_carrier_decides .messenger byBody message.write
  refine ⟨⟨_, b, hquery, hb, rfl, hfirst _ b hquery hb⟩,
    ⟨a, hblank, ha, rfl, (hsecond hblank).1 a ha⟩, hempty, hpath,
    ((hcompute hempty).2 (hpath .compute)).1 rfl, ?_, ?_⟩
  · obtain ⟨e, he⟩ := hitem spawn hspawn
    have hresult := (((hthird hempty).2 (hpath .messenger)).2 rfl e).mpr he
    cases he with
    | message hread htarget =>
      rw [hspawn] at hread
      cases hread
      cases htarget
    | spawn hread =>
      rw [hspawn] at hread
      cases hread
      exact ⟨_, hresult⟩
  · obtain ⟨e, he⟩ := hitem' message hmessage
    have hresult := (((hthird' hempty).2 (hpath .messenger)).2 rfl e).mpr he
    cases he with
    | message => exact ⟨_, hresult⟩
    | spawn hread htarget =>
      rw [hmessage] at hread
      cases hread
      cases htarget

end Extracted
end AffinityGate
