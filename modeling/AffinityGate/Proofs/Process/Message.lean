import AffinityGate.Proofs.Process.Precedence

/-!
# The process of a message

A message is a request behind messenger units that names no process in query or path and brings a
data item with a target.  `TargetId` says what the id of a target looks like: it is the target
written in 43 URL-safe digits, which blanks around an id have no part in and from which the target
is read back.  `message_ids_eq_iff` says that a message names the process with this id, so that two
messages name one process exactly if they have one target.
-/

namespace AffinityGate

/-- A process is the one of a target: its id is the text of the target, which is left as it is where
ids are trimmed, has 43 characters, all of them URL-safe digits, and stands for the target. -/
structure ProcessId.TargetId (p : ProcessId) (target : Bytes) : Prop where
  written : p.text = String.ofList (Base64.encode target)
  untrimmed : trimText (String.ofList (Base64.encode target)) =
    String.ofList (Base64.encode target)
  length : p.text.length = 43
  digits : ∀ c ∈ p.text.toList, c ∈ Base64.urlSafe
  decoded : Base64.decode? p.text.toList = some target

namespace ProcessId

variable {p q : ProcessId} {target other : Bytes}

theorem targetId_of_text (hlength : target.length = DataItem.targetLength)
    (htext : p.text.toList = Base64.encode target) : p.TargetId target where
  written := by rw [← htext, String.ofList_toList]
  untrimmed := by rw [trimText, String.toList_ofList, Base64.trim_encode]
  length := by rw [← String.length_toList, htext, Base64.length_encode, hlength]; rfl
  digits := fun _ hc => Base64.mem_encode (htext ▸ hc)
  decoded := by rw [htext, Base64.decode?_encode]

/-- Ids are read back, so they are the same exactly if the targets are. -/
theorem TargetId.eq_iff (hp : p.TargetId target) (hq : q.TargetId other) :
    p = q ↔ target = other := by
  constructor
  · rintro rfl
    exact Option.some.inj (hp.decoded.symm.trans hq.decoded)
  · rintro rfl
    have htext : p.text = q.text := hp.written.trans hq.written.symm
    cases p
    cases q
    cases htext
    rfl

end ProcessId

namespace Extracted

/-- A request, behind messenger units, that is a message to a target: query and path name no
process, and the body begins with an item that has the target. -/
structure Message (uri : Http.Uri) (body target : Bytes) : Prop where
  query : QuerySilent uri
  path : ∀ p, ¬PathNames UnitKind.messenger.pathHeads uri.path p
  item : ∃ item, DataItem.read? body = some item ∧ item.target = some target

variable {uri uri' : Http.Uri} {body body' target target' : Bytes}

theorem Message.length_target (h : Message uri body target) :
    target.length = DataItem.targetLength := by
  obtain ⟨item, hread, htarget⟩ := h.item
  exact (DataItem.read?_eq_some_iff.mp hread).1.target target htarget

/-- A message names the process of its target, and no owner. -/
theorem Message.exists_ofRequest? (h : Message uri body target) :
    ∃ p : ProcessId, ofRequest? .messenger uri body = some ⟨p, none⟩ ∧ p.TargetId target := by
  obtain ⟨item, hread, htarget⟩ := h.item
  have hne := target_ne_nil hread htarget
  obtain ⟨p, hp⟩ := exists_ofText?_encode hne
  have htext := (ofText?_encode_eq_some_iff hne).mp hp
  refine ⟨p, ?_, ProcessId.targetId_of_text h.length_target htext⟩
  rw [ofRequest?_of_silent h.query h.path, if_pos rfl]
  exact ofBody?_eq_some_iff.mpr (.message hread htarget htext)

/-- **Message ids do not collide.**  Any two messages name a process, and it is the same process
exactly if their targets, which have 32 bytes, are the same, whatever else is in their items and
behind them.  Each process has the id of its target. -/
theorem message_ids_eq_iff (h : Message uri body target) (h' : Message uri' body' target') :
    ∃ p p' : ProcessId, ofRequest? .messenger uri body = some ⟨p, none⟩ ∧
      ofRequest? .messenger uri' body' = some ⟨p', none⟩ ∧
      target.length = 32 ∧ target'.length = 32 ∧ (p = p' ↔ target = target') ∧
      p.TargetId target ∧ p'.TargetId target' := by
  obtain ⟨p, hp, hid⟩ := h.exists_ofRequest?
  obtain ⟨p', hp', hid'⟩ := h'.exists_ofRequest?
  exact ⟨p, p', hp, hp', h.length_target, h'.length_target, hid.eq_iff hid', hid, hid'⟩

/-- Two messages of different types to one target, and a third one, with the signature and the
signer of the second, to another. -/
theorem messages_of_two_types :
    let nines : Bytes := List.replicate 32 9
    let nearly : Bytes := List.replicate 31 9 ++ [8]
    let first : DataItem := ⟨4, List.replicate 64 7, List.replicate 32 1, some nines⟩
    let second : DataItem := ⟨3, List.replicate 65 5, List.replicate 65 2, some nines⟩
    let third : DataItem := { second with target := some nearly }
    let uri : Http.Uri := ⟨none, [], Utf8.ofText "/"⟩
    let blank : Http.Uri := ⟨none, [], Utf8.ofText "/monitor/%20?process-id=+"⟩
    ∃ p p' : ProcessId, p.text = "CQkJCQkJCQkJCQkJCQkJCQkJCQkJCQkJCQkJCQkJCQk" ∧ p ≠ p' ∧
      Message uri (first.write ++ [0, 0]) nines ∧ Message blank second.write nines ∧
      Message blank third.write nearly ∧
      ofRequest? .messenger uri (first.write ++ [0, 0]) = some ⟨p, none⟩ ∧
      ofRequest? .messenger blank second.write = some ⟨p, none⟩ ∧
      ofRequest? .messenger blank third.write = some ⟨p', none⟩ := by
  intro nines nearly first second third uri blank
  have hread {d : DataItem} (hd : d.Fits) : DataItem.read? d.write = some d := by
    simpa using DataItem.read?_write_append hd []
  have hblank : QuerySilent blank := querySilent_iff.mpr (by decide +kernel)
  have hnone : ∀ p, ¬PathNames UnitKind.messenger.pathHeads blank.path p :=
    forall_not_pathNames_iff.mpr (by decide +kernel)
  have hfirst : Message uri (first.write ++ [0, 0]) nines :=
    ⟨querySilent_iff.mpr (by decide +kernel), forall_not_pathNames_iff.mpr (by decide +kernel),
      first, DataItem.read?_write_append ⟨by decide, by decide⟩ _, rfl⟩
  have hsecond : Message blank second.write nines :=
    ⟨hblank, hnone, second, hread ⟨by decide, by decide⟩, rfl⟩
  have hthird : Message blank third.write nearly :=
    ⟨hblank, hnone, third, hread ⟨by decide, by decide⟩, rfl⟩
  obtain ⟨p, q, hp, hq, -, -, hsame, hid, -⟩ := message_ids_eq_iff hfirst hsecond
  obtain ⟨r, p', hr, hp', -, -, hother, -⟩ := message_ids_eq_iff hsecond hthird
  obtain rfl := hsame.mpr rfl
  rw [hq] at hr
  cases hr
  exact ⟨p, p', hid.written.trans (by decide +kernel), mt hother.mp (by decide), hfirst, hsecond,
    hthird, hp, hq, hp'⟩

end Extracted
end AffinityGate
