import Mathlib.Data.List.Forall2
import Mathlib.Data.List.Nodup
import Mathlib.Data.List.Perm.Subperm
import AffinityGate.Registry.Answer

/-!
# The shape of registry answers

`Response` says, without the readers, which forms are answers: records are objects that have none
of their fields twice and keys that are texts, or the values of the fields in order; data may be
missing or null, and errors may be missing.  `ofForm?_eq_some_iff` says that exactly these are read,
with the owners of the edges in order and the messages of the errors.
-/

namespace AffinityGate.Registry

/-! ## Lists -/

theorem nodup_eraseDups {α : Type} [BEq α] [LawfulBEq α] (l : List α) : l.eraseDups.Nodup := by
  match l with
  | [] => simp
  | a :: l =>
    rw [List.eraseDups_cons, List.nodup_cons, List.mem_eraseDups]
    exact ⟨by simp, nodup_eraseDups _⟩
termination_by l.length
decreasing_by exact Nat.lt_succ_of_le (List.length_filter_le _ _)

/-- Erasing duplicates makes a list shorter unless it has none. -/
theorem length_eraseDups_eq_iff {α : Type} [BEq α] [LawfulBEq α] {l : List α} :
    l.eraseDups.length = l.length ↔ l.Nodup := by
  have hnodup := nodup_eraseDups l
  constructor
  · intro h
    have hsub : l.eraseDups.Subperm l :=
      List.subperm_of_subset hnodup fun a => List.mem_eraseDups.mp
    exact (hsub.perm_of_length_le (Nat.le_of_eq h.symm)).nodup_iff.mp hnodup
  · intro h
    exact ((List.perm_ext_iff_of_nodup hnodup h).mpr fun a => List.mem_eraseDups).length_eq

theorem mapM_eq_some_iff {α β : Type} {f : α → Option β} {l : List α} {read : List β} :
    l.mapM f = some read ↔ List.Forall₂ (fun a b => f a = some b) l read := by
  induction l generalizing read with
  | nil =>
    rw [List.mapM_nil, List.forall₂_nil_left_iff]
    exact Option.some_inj.trans eq_comm
  | cons a l ih =>
    rw [List.mapM_cons, List.forall₂_cons_left_iff]
    simp only [Option.bind_eq_bind, Option.bind_eq_some_iff, Option.pure_def, Option.some.injEq, ih]
    constructor
    · rintro ⟨b, hb, bs, hbs, rfl⟩
      exact ⟨b, bs, hb, hbs, rfl⟩
    · rintro ⟨b, bs, hb, hbs, rfl⟩
      exact ⟨b, hb, bs, hbs, rfl⟩

namespace Answer

/-! ## Records -/

/-- The values of the members of an object that have a name. -/
def valuesOf (members : List (Bytes × Form)) (name : String) : List Form :=
  (members.filter fun m => Form.text? m.1 == some name).map Prod.snd

/-- The form is a record whose fields have these values; a field may be missing from an object, and
from an array beyond the first `needed` ones. -/
inductive Record (fields : List String) (needed : Nat) : Form → List (Option Form) → Prop
  | object {members : List (Bytes × Form)} {values : List (Option Form)} :
    (∀ m ∈ members, ∃ key, Form.text? m.1 = some key) →
    List.Forall₂ (fun field value => valuesOf members field = value.toList) fields values →
    Record fields needed (.object members) values
  | array {items : List Form} : needed ≤ items.length → items.length ≤ fields.length →
    Record fields needed (.array items)
      (items.map some ++ List.replicate (fields.length - items.length) none)

/-- Each of these lists has at most one element, and this is it. -/
theorem forall₂_toList_iff {α β : Type} {g : α → List β} {l : List α} {values : List (Option β)} :
    List.Forall₂ (fun a value => g a = value.toList) l values ↔
      (∀ a ∈ l, (g a).length ≤ 1) ∧ values = l.map fun a => (g a).head? := by
  have hone (bs : List β) (value : Option β) :
      bs = value.toList ↔ bs.length ≤ 1 ∧ value = bs.head? := by
    rcases bs with _ | ⟨b, _ | ⟨c, bs⟩⟩ <;> cases value <;> simp [eq_comm]
  induction l generalizing values with
  | nil => simp
  | cons a l ih =>
    rw [List.forall₂_cons_left_iff, List.forall_mem_cons, List.map_cons]
    constructor
    · rintro ⟨value, values, hvalue, hvalues, rfl⟩
      obtain ⟨ha, rfl⟩ := (hone _ _).mp hvalue
      obtain ⟨hl, rfl⟩ := ih.mp hvalues
      exact ⟨⟨ha, hl⟩, rfl⟩
    · rintro ⟨⟨ha, hl⟩, rfl⟩
      exact ⟨_, _, (hone _ _).mpr ⟨ha, rfl⟩, ih.mpr ⟨hl, rfl⟩, rfl⟩

/-- Members with their keys as texts. -/
def Named (members : List (Bytes × Form)) (named : List (String × Form)) : Prop :=
  List.Forall₂ (fun m n => (Form.text? m.1).map (fun key => (key, m.2)) = some n) members named

theorem Named.valuesOf_eq {members : List (Bytes × Form)} {named : List (String × Form)}
    (h : Named members named) (name : String) :
    valuesOf members name = (named.filter (·.1 == name)).map Prod.snd := by
  induction h with
  | nil => rfl
  | cons hm _ ih =>
    obtain ⟨key, hkey, rfl⟩ := Option.map_eq_some_iff.mp hm
    unfold valuesOf at ih ⊢
    by_cases hname : key = name
    · simp [hkey, hname, ih]
    · simp [hkey, hname, ih]

theorem exists_named_iff {members : List (Bytes × Form)} :
    (∃ named, Named members named) ↔ ∀ m ∈ members, ∃ key, Form.text? m.1 = some key := by
  induction members with
  | nil => simp [Named]
  | cons m members ih =>
    rw [List.forall_mem_cons, ← ih]
    simp only [Named, List.forall₂_cons_left_iff, Option.map_eq_some_iff]
    constructor
    · rintro ⟨_, n, named, ⟨key, hkey, -⟩, hnamed, -⟩
      exact ⟨⟨key, hkey⟩, named, hnamed⟩
    · rintro ⟨⟨key, hkey⟩, named, hnamed⟩
      exact ⟨_, _, named, ⟨key, hkey, rfl⟩, hnamed, rfl⟩

/-- No field occurs twice among names exactly if none has two values. -/
theorem nodup_known_iff {fields : List String} {named : List (String × Form)} :
    ((named.map Prod.fst).filter fields.contains).Nodup ↔
      ∀ field ∈ fields, ((named.filter (·.1 == field)).map Prod.snd).length ≤ 1 := by
  have hcount (name : String) : ((named.filter (·.1 == name)).map Prod.snd).length =
      (named.map Prod.fst).count name := by
    rw [List.length_map, List.count, List.countP_map, List.countP_eq_length_filter]
    rfl
  rw [List.nodup_iff_count_le_one]
  constructor
  · intro h field hfield
    rw [hcount, ← List.count_filter (List.contains_iff_mem.mpr hfield)]
    exact h field
  · intro h name
    by_cases hname : name ∈ fields
    · rw [List.count_filter (List.contains_iff_mem.mpr hname), ← hcount]
      exact h name hname
    · rw [List.count_eq_zero.mpr fun hmem => hname (by simpa using (List.mem_filter.mp hmem).2)]
      exact Nat.zero_le 1

theorem members?_object_eq_some_iff {fields : List String} {needed : Nat}
    {members : List (Bytes × Form)} {values : List (Option Form)} :
    members? fields needed (.object members) = some values ↔
      (∀ m ∈ members, ∃ key, Form.text? m.1 = some key) ∧
      List.Forall₂ (fun field value => valuesOf members field = value.toList) fields values := by
  rw [← exists_named_iff, members?]
  cases hread : members.mapM fun m => (Form.text? m.1).map fun k => (k, m.2) with
  | none =>
    refine iff_of_false (fun h => by cases h) ?_
    rintro ⟨⟨named, hnamed⟩, -⟩
    rw [mapM_eq_some_iff.mpr hnamed] at hread
    cases hread
  | some named =>
    have hnamed : Named members named := mapM_eq_some_iff.mp hread
    have hfind (field : String) :
        (named.find? (·.1 == field)).map Prod.snd = (valuesOf members field).head? := by
      rw [hnamed.valuesOf_eq, List.head?_map, List.head?_filter]
    rw [and_iff_right ⟨named, hnamed⟩, forall₂_toList_iff]
    simp only [length_eraseDups_eq_iff, nodup_known_iff, hfind, ← hnamed.valuesOf_eq]
    rw [Option.ite_none_right_eq_some, Option.some.injEq, eq_comm]

/-- Items by their positions, up to a bound that is not too small. -/
theorem map_getElem?_range {items : List Form} {n : Nat} (h : items.length ≤ n) :
    (List.range n).map (fun i => items[i]?) =
      items.map some ++ List.replicate (n - items.length) none := by
  refine List.ext_getElem (by simp; omega) fun i _ _ => ?_
  rw [List.getElem_map, List.getElem_range, List.getElem_append]
  split
  · rename_i hi
    rw [List.length_map] at hi
    simp [hi]
  · rename_i hi
    simpa using hi

theorem members?_eq_some_iff {fields : List String} {needed : Nat} {f : Form}
    {values : List (Option Form)} :
    members? fields needed f = some values ↔ Record fields needed f values := by
  constructor
  · intro h
    cases f with
    | object members =>
      obtain ⟨hkeys, hvalues⟩ := members?_object_eq_some_iff.mp h
      exact .object hkeys hvalues
    | array items =>
      rw [members?, Option.ite_none_right_eq_some] at h
      obtain ⟨⟨hneeded, hlength⟩, hvalues⟩ := h
      rw [map_getElem?_range hlength] at hvalues
      cases hvalues
      exact .array hneeded hlength
    | _ => cases h
  · intro h
    cases h with
    | object hkeys hvalues => exact members?_object_eq_some_iff.mpr ⟨hkeys, hvalues⟩
    | array hneeded hlength => rw [members?, if_pos ⟨hneeded, hlength⟩, map_getElem?_range hlength]

/-! ## Answers -/

/-- The form is a record whose only field has this value. -/
def Holds (field : String) (f v : Form) : Prop :=
  Record [field] 1 f [some v]

theorem only?_eq_some_iff {field : String} {f v : Form} :
    only? field f = some v ↔ Holds field f v := by
  rw [Holds, ← members?_eq_some_iff, only?]
  split
  · rename_i w hread
    simp [hread]
  · rename_i hother
    refine iff_of_false (fun h => by cases h) fun h => hother v h

/-- The form is a string that stands for this text. -/
def IsText (f : Form) (text : String) : Prop :=
  ∃ raw, f = .string raw ∧ Form.text? raw = some text

theorem text?_eq_some_iff {f : Form} {text : String} : text? f = some text ↔ IsText f text := by
  cases f <;> simp [text?, IsText]

/-- The form is an edge to a node with an owner of this address. -/
def Edge (f : Form) (address : String) : Prop :=
  ∃ node owner held, Holds "node" f node ∧ Holds "owner" node owner ∧ Holds "address" owner held ∧
    IsText held address

theorem edge?_eq_some_iff {f : Form} {address : String} :
    edge? f = some address ↔ Edge f address := by
  simp only [edge?, Option.bind_eq_some_iff, only?_eq_some_iff, text?_eq_some_iff, Edge]
  constructor
  · rintro ⟨held, ⟨owner, ⟨node, hnode, howner⟩, haddress⟩, htext⟩
    exact ⟨node, owner, held, hnode, howner, haddress, htext⟩
  · rintro ⟨node, owner, held, hnode, howner, haddress, htext⟩
    exact ⟨held, ⟨owner, ⟨node, hnode, howner⟩, haddress⟩, htext⟩

theorem list?_eq_some_iff {α : Type} {read : Form → Option α} {f : Form} {values : List α} :
    list? read f = some values ↔
      ∃ items, f = .array items ∧ List.Forall₂ (fun item a => read item = some a) items values := by
  cases f <;> simp [list?, mapM_eq_some_iff]

/-- The form is data with edges to owners of these addresses, in this order. -/
def Data (f : Form) (addresses : List String) : Prop :=
  ∃ transactions edges, Holds "transactions" f transactions ∧
    Holds "edges" transactions (.array edges) ∧ List.Forall₂ Edge edges addresses

theorem data?_eq_some_iff {f : Form} {addresses : List String} :
    data? f = some addresses ↔ Data f addresses := by
  simp only [data?, Option.bind_eq_some_iff, only?_eq_some_iff, list?_eq_some_iff,
    edge?_eq_some_iff, Data]
  constructor
  · rintro ⟨_, ⟨transactions, htransactions, hedges⟩, edges, rfl, hall⟩
    exact ⟨transactions, edges, htransactions, hedges, hall⟩
  · rintro ⟨transactions, edges, htransactions, hedges, hall⟩
    exact ⟨_, ⟨transactions, htransactions, hedges⟩, edges, rfl, hall⟩

/-- The form is a list of errors with these messages. -/
def Errors (f : Form) (messages : List String) : Prop :=
  ∃ items, f = .array items ∧
    List.Forall₂ (fun item message => ∃ held, Holds "message" item held ∧ IsText held message) items
      messages

theorem errors?_eq_some_iff {f : Form} {messages : List String} :
    list? (fun m => (only? "message" m).bind text?) f = some messages ↔ Errors f messages := by
  simp only [list?_eq_some_iff, Option.bind_eq_some_iff, only?_eq_some_iff, text?_eq_some_iff,
    Errors]

/-- The data of an answer: it may be missing or null. -/
inductive OptionalData : Option Form → Option (List String) → Prop
  | missing : OptionalData none none
  | null : OptionalData (some .null) none
  | present {f : Form} {addresses : List String} : Data f addresses →
    OptionalData (some f) (some addresses)

/-- The errors of an answer: none are meant if they are missing. -/
inductive OptionalErrors : Option Form → List String → Prop
  | missing : OptionalErrors none []
  | present {f : Form} {messages : List String} : Errors f messages →
    OptionalErrors (some f) messages

/-- The form is an answer with these owners, if it has data, and these messages of errors. -/
def Response (f : Form) (owners : Option (List String)) (messages : List String) : Prop :=
  ∃ data errors, Record ["data", "errors"] 1 f [data, errors] ∧ OptionalData data owners ∧
    OptionalErrors errors messages

/-- A null is no data. -/
theorem not_data_null {addresses : List String} : ¬Data .null addresses := by
  rintro ⟨_, _, hheld, -⟩
  cases hheld

theorem optionalData_iff {data : Option Form} {owners : Option (List String)} :
    (match data with
      | none | some .null => some none
      | some d => (data? d).map some) = some owners ↔ OptionalData data owners := by
  constructor
  · intro h
    split at h
    · cases h
      exact .missing
    · cases h
      exact .null
    · obtain ⟨addresses, hread, rfl⟩ := Option.map_eq_some_iff.mp h
      exact .present (data?_eq_some_iff.mp hread)
  · intro h
    cases h with
    | missing => rfl
    | null => rfl
    | present hdata =>
      split
      · rename_i hnone
        cases hnone
      · rename_i hnull
        cases hnull
        exact absurd hdata not_data_null
      · rename_i hsome
        cases hsome
        rw [data?_eq_some_iff.mpr hdata]
        rfl

theorem optionalErrors_iff {errors : Option Form} {messages : List String} :
    (match errors with
      | none => some []
      | some e => list? (fun m => (only? "message" m).bind text?) e) = some messages ↔
      OptionalErrors errors messages := by
  constructor
  · intro h
    split at h
    · cases h
      exact .missing
    · exact .present (errors?_eq_some_iff.mp h)
  · intro h
    cases h with
    | missing => rfl
    | present herrors => exact errors?_eq_some_iff.mpr herrors

/-- **Exactly the answers are read**, with their owners and messages. -/
theorem ofForm?_eq_some_iff {f : Form} {a : Answer} :
    ofForm? f = some a ↔ Response f a.owners a.errors := by
  constructor
  · intro h
    unfold ofForm? at h
    split at h
    · rename_i data errors hread
      dsimp only at h
      split at h
      · rename_i owners messages howners hmessages
        cases h
        exact ⟨data, errors, members?_eq_some_iff.mp hread, optionalData_iff.mp howners,
          optionalErrors_iff.mp hmessages⟩
      · cases h
    · cases h
  · rintro ⟨data, errors, hread, hdata, herrors⟩
    have howners := optionalData_iff.mpr hdata
    have hmessages := optionalErrors_iff.mpr herrors
    unfold ofForm?
    rw [members?_eq_some_iff.mpr hread]
    dsimp only
    split
    · rename_i owners messages howners' hmessages'
      cases howners.symm.trans howners'
      cases hmessages.symm.trans hmessages'
      rfl
    · rename_i hnot
      exact absurd hmessages (hnot _ _ howners)

end Answer
end AffinityGate.Registry
