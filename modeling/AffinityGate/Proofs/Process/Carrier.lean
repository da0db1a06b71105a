import AffinityGate.Process.Carrier
import AffinityGate.Proofs.Text.Base64
import AffinityGate.Proofs.Text.Pieces

/-!
# The process of a signature

A spawn becomes the process that is named by the digest of its signature.  `Extracted.Spawn` says
when a request is taken for a spawn, and `Extracted.Names` in which three ways a request can name
the process of a signature.  `ofRequest?_eq_spawn_iff` says that nothing but a spawn brings an owner
along, and `Names.ofRequest?` that each of the three ways leads to the one process.
-/

namespace AffinityGate

open Digest (sha256)

/-- A target without a question mark is a path. -/
theorem Http.Uri.path_of_no_query {target : Bytes} (hne : target ≠ [])
    (h : ∀ b ∈ target, (b != 0x3F) = true) :
    (Uri.mk none [] target).path = target ∧ (Uri.mk none [] target).query? = none := by
  have hpath : pathPart target = target := by
    have : (target ++ []).takeWhile (· != 0x3F) = target ++ [] := List.takeWhile_append_of_pos h
    simpa [pathPart] using this
  have hquery : queryPart target = [] := dropWhile_eq_nil_iff_all.mpr (List.all_eq_true.mpr h)
  constructor
  · simp [path, hpath, hne]
  · simp [query?, hquery]

theorem length_sha256 (message : Bytes) : (sha256 message).length = 32 :=
  Digest.Sha256.length_digest message

theorem sha256_ne_nil (message : Bytes) : sha256 message ≠ [] := by
  intro h
  have hlength := length_sha256 message
  rw [h] at hlength
  cases hlength

namespace DataItem

theorem digestText_trimmed (bs : Bytes) : trimText (digestText bs) = digestText bs := by
  rw [trimText, digestText, String.toList_ofList, Base64.trim_encode]

theorem encode_sha256_ne_nil (bs : Bytes) : Base64.encode (sha256 bs) ≠ [] :=
  Base64.encode_ne_nil (sha256_ne_nil bs)

theorem digestText_ne_empty (bs : Bytes) : digestText bs ≠ "" := by
  intro h
  have := congrArg String.toList h
  rw [digestText, String.toList_ofList] at this
  exact encode_sha256_ne_nil bs this

theorem ofText_digestText (bs : Bytes) :
    Utf8.ofText (digestText bs) = Utf8.encode (Base64.encode (sha256 bs)) :=
  congrArg Utf8.encode String.toList_ofList

/-- The process of a signature. -/
def processOf (signature : Bytes) : ProcessId :=
  ⟨digestText signature, digestText_trimmed signature, digestText_ne_empty signature⟩

theorem ofText?_digestText (signature : Bytes) :
    ProcessId.ofText? (digestText signature) = some (processOf signature) :=
  ProcessId.ofText?_text (processOf signature)

/-- Signatures of one process have one digest. -/
theorem sha256_eq_of_processOf {s t : Bytes} (h : processOf s = processOf t) :
    sha256 s = sha256 t := by
  have htext : digestText s = digestText t := congrArg ProcessId.text h
  exact Base64.encode_injective (String.ofList_injective htext)

end DataItem

namespace Form

theorem pair_of_key {key value : Bytes} (h : ∀ b ∈ key, b ≠ 0x3D) :
    pair (key ++ 0x3D :: value) = (component key, component value) := by
  have hkey : ∀ b ∈ key, (b != 0x3D) = true := fun b hb => bne_iff_ne.mpr (h b hb)
  simp [pair, List.takeWhile_append_of_pos hkey, List.dropWhile_append_of_pos hkey]

/-- The value of the first pair with a key. -/
theorem first?_eq_some_iff {key value : List Char} {query : Bytes} :
    first? key query = some value ↔ ∃ before after, pairs query = before ++ (key, value) :: after ∧
      ∀ pair ∈ before, pair.1 ≠ key := by
  rw [first?, Option.map_eq_some_iff]
  constructor
  · rintro ⟨⟨k, v⟩, hfind, rfl⟩
    obtain ⟨hkey, before, after, hpairs, hbefore⟩ := List.find?_eq_some_iff_append.mp hfind
    obtain rfl : k = key := by simpa using hkey
    exact ⟨before, after, hpairs, fun pair hpair => by simpa using hbefore pair hpair⟩
  · rintro ⟨before, after, hpairs, hbefore⟩
    have hother : ∀ pair ∈ before, (!pair.1 == key) = true := fun pair hpair => by
      simpa using hbefore pair hpair
    exact ⟨(key, value),
      List.find?_eq_some_iff_append.mpr ⟨by simp, before, after, hpairs, hother⟩, rfl⟩

/-- The value of a piece with the key, if no piece before it has the key. -/
theorem first?_of_pieces {key value : List Char} {query piece : Bytes} {before after : List Bytes}
    (hpieces : (pieces (0x26 : UInt8) query).filter (!·.isEmpty) = before ++ piece :: after)
    (hbefore : ∀ p ∈ before, (pair p).1 ≠ key) (hpair : pair piece = (key, value)) :
    first? key query = some value := by
  refine first?_eq_some_iff.mpr
    ⟨before.map pair, after.map pair, ?_, List.forall_mem_map.mpr hbefore⟩
  rw [pairs, hpieces, List.map_append, List.map_cons, hpair]

end Form

namespace Extracted

open DataItem (digestText processOf)

/-! ## Spawns -/

/-- A request, behind messenger units, that is taken for a spawn: query and path name no process,
and the body begins with an item without a target. -/
structure Spawn (uri : Http.Uri) (body : Bytes) (item : DataItem) : Prop where
  query : uri.query?.bind ofQuery? = none
  path : ofPath? UnitKind.messenger.pathHeads uri.path = none
  read : DataItem.read? body = some item
  untargeted : item.target = none

variable {uri : Http.Uri} {body : Bytes} {item : DataItem}

theorem Spawn.ofRequest? (h : Spawn uri body item) :
    ofRequest? .messenger uri body = some ⟨processOf item.signature, some item.ownerAddress⟩ := by
  simp only [Extracted.ofRequest?, h.query, h.path, ofBody?, h.read, DataItem.processId?,
    h.untargeted, DataItem.id, DataItem.ofText?_digestText, DataItem.isSpawn]
  rfl

/-- Only a spawn brings an owner along: its signer, for the process of its signature. -/
theorem ofRequest?_eq_spawn_iff {p : ProcessId} {owner : String} :
    ofRequest? .messenger uri body = some ⟨p, some owner⟩ ↔
      ∃ item, Spawn uri body item ∧ p = processOf item.signature ∧ owner = item.ownerAddress := by
  constructor
  · intro h
    have hspawn : ∃ item, Spawn uri body item := by
      unfold Extracted.ofRequest? at h
      split at h
      · cases h
      · rename_i hquery
        split at h
        · cases h
        · rename_i hpath
          simp only [ofBody?] at h
          split at h
          · cases h
          · rename_i item hread
            obtain ⟨q, -, heq⟩ := Option.map_eq_some_iff.mp h
            cases htarget : item.target with
            | some t => simp [DataItem.isSpawn, htarget] at heq
            | none => exact ⟨item, hquery, hpath, hread, htarget⟩
    obtain ⟨item, hspawn⟩ := hspawn
    rw [hspawn.ofRequest?] at h
    cases h
    exact ⟨item, hspawn, rfl, rfl⟩
  · rintro ⟨item, h, rfl, rfl⟩
    exact h.ofRequest?

/-! ## Requests that name a process -/

/-- A request, behind messenger units, that names the process of a signature: as the target of a
message, if query and path name none; in the path, if the query names none; or in the query. -/
inductive Names (signature : Bytes) (uri : Http.Uri) (body : Bytes) : Prop
  | message {item : DataItem} :
    uri.query?.bind ofQuery? = none → ofPath? UnitKind.messenger.pathHeads uri.path = none →
    DataItem.read? body = some item → item.target = some (sha256 signature) →
    Names signature uri body
  | path {rest : List Bytes} :
    uri.query?.bind ofQuery? = none →
    (pieces (0x2F : UInt8) uri.path).filter (!·.isEmpty) =
      Utf8.ofText "monitor" :: Utf8.ofText (digestText signature) :: rest →
    Names signature uri body
  | query {q : Bytes} {before after : List Bytes} :
    uri.query? = some q →
    (pieces (0x26 : UInt8) q).filter (!·.isEmpty) =
      before ++ (Utf8.ofText queryKey ++ 0x3D :: Utf8.ofText (digestText signature)) :: after →
    (∀ piece ∈ before, (Form.pair piece).1 ≠ queryKey.toList) →
    Names signature uri body

variable {signature : Bytes}

theorem ofSegment?_digestText (signature : Bytes) :
    ofSegment? (Utf8.ofText (digestText signature)) = some (processOf signature) := by
  have htext : Utf8.text? (Percent.decode (Utf8.ofText (digestText signature))) =
      some (digestText signature) := by
    rw [DataItem.ofText_digestText, Base64.percentDecode_encode, Utf8.text?, Utf8.decode?_encode,
      Option.map_some, digestText]
  rw [ofSegment?, htext, Option.bind_some, DataItem.ofText?_digestText]

theorem component_queryKey : Form.component (Utf8.ofText queryKey) = queryKey.toList := by
  decide +kernel

theorem pair_queryKey (signature : Bytes) :
    Form.pair (Utf8.ofText queryKey ++ 0x3D :: Utf8.ofText (digestText signature)) =
      (queryKey.toList, (digestText signature).toList) := by
  rw [Form.pair_of_key (by decide +kernel), component_queryKey, DataItem.ofText_digestText,
    Base64.component_encode, digestText, String.toList_ofList]

/-- A path of the head and the process names it. -/
theorem Names.of_path (hquery : uri.query?.bind ofQuery? = none)
    (hpath : uri.path = Utf8.ofText "/monitor/" ++ Utf8.ofText (digestText signature)) :
    Names signature uri body := by
  let id := Utf8.encode (Base64.encode (sha256 signature))
  have hid : (0x2F : UInt8) ∉ id := fun hmem =>
    absurd (Base64.isInert_of_mem hmem) (by decide)
  have hnonempty : id ≠ [] := Utf8.encode_ne_nil (DataItem.encode_sha256_ne_nil signature)
  have hhead : Utf8.ofText "/monitor/" = 0x2F :: (Utf8.ofText "monitor" ++ [0x2F]) := by
    decide +kernel
  have hpieces : pieces (0x2F : UInt8) uri.path = [[], Utf8.ofText "monitor", id] := by
    rw [hpath, hhead, DataItem.ofText_digestText, List.cons_append, List.append_assoc,
      List.singleton_append, pieces_pair (by decide +kernel) hid]
  have hsegments : (pieces (0x2F : UInt8) uri.path).filter (!·.isEmpty) =
      [Utf8.ofText "monitor", Utf8.ofText (digestText signature)] := by
    rw [hpieces, DataItem.ofText_digestText, List.filter_cons_of_neg (by simp),
      List.filter_cons_of_pos (by decide +kernel),
      List.filter_cons_of_pos (by simpa using hnonempty), List.filter_nil]
  exact .path hquery hsegments

/-- Each of the three ways leads to the process of the signature, and none brings an owner along. -/
theorem Names.ofRequest? (h : Names signature uri body) :
    ofRequest? .messenger uri body = some ⟨processOf signature, none⟩ := by
  cases h with
  | @message item hquery hpath hread htarget =>
    have hid : item.processId? = some (processOf signature) := by
      rw [DataItem.processId?, htarget]
      exact DataItem.ofText?_digestText signature
    have hnot : item.isSpawn = false := by rw [DataItem.isSpawn, htarget, Option.isNone_some]
    simp only [Extracted.ofRequest?, hquery, hpath, ofBody?, hread, hid, hnot]
    rfl
  | @path rest hquery hsegments =>
    have hpath : ofPath? UnitKind.messenger.pathHeads uri.path = some (processOf signature) := by
      rw [ofPath?, hsegments]
      exact ofSegment?_digestText signature
    simp only [Extracted.ofRequest?, hquery, hpath]
  | @query q before after hq hpieces hbefore =>
    have hquery : uri.query?.bind ofQuery? = some (processOf signature) := by
      rw [hq, Option.bind_some, ofQuery?,
        Form.first?_of_pieces hpieces hbefore (pair_queryKey signature), Option.bind_some,
        String.ofList_toList]
      exact DataItem.ofText?_digestText signature
    simp only [Extracted.ofRequest?, hquery]

end Extracted
end AffinityGate
