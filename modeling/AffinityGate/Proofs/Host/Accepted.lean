import AffinityGate.Proofs.Url.Base

/-!
# Accepted base URLs

A base URL is accepted if its stored form starts with a web scheme in small letters and is read as
a URL with a host and neither query nor fragment (`parse_eq_ok_iff`).  The stored form of an
accepted one has no question mark and no number sign (`text_of_accepted`).
-/

namespace AffinityGate

open Url

theorem stripStart?_isSome_iff {start cs : List Char} :
    (stripStart? start cs).isSome = true ↔ start <+: cs := by
  induction start generalizing cs with
  | nil => simp [stripStart?]
  | cons c start ih =>
    cases cs with
    | nil => simp [stripStart?]
    | cons d cs =>
      rw [stripStart?]
      by_cases h : c = d
      · rw [if_pos h, ih, h, List.cons_prefix_cons]
        simp
      · rw [if_neg h, List.cons_prefix_cons]
        simp [h]

namespace HostUrl

/-- The stored form of a configured text starts as base URLs do. -/
def StartsAsBase (raw : String) : Prop :=
  ∃ start ∈ webStarts, start <+: stored raw.toList

/-- The base URL with the stored form of a configured text. -/
def ofRaw (raw : String) : HostUrl :=
  ⟨String.ofList (stored raw.toList), (stripStart? "https://".toList (stored raw.toList)).isSome⟩

theorem ofRaw_eq_iff {raw raw' : String} :
    ofRaw raw = ofRaw raw' ↔ stored raw.toList = stored raw'.toList := by
  constructor
  · intro h
    exact String.ofList_injective (congrArg HostUrl.text h)
  · intro h
    rw [ofRaw, ofRaw, h]

theorem startsAsBase_iff {raw : String} :
    StartsAsBase raw ↔ ¬((stripStart? "https://".toList (stored raw.toList)).isNone = true ∧
      (stripStart? "http://".toList (stored raw.toList)).isNone = true) := by
  rw [← Option.not_isSome, ← Option.not_isSome]
  simp only [StartsAsBase, webStarts, List.mem_cons, List.not_mem_nil, or_false, exists_eq_or_imp,
    exists_eq_left, ← stripStart?_isSome_iff]
  grind

theorem fault?_eq_none_iff {raw : String} :
    fault? (stored raw.toList) = none ↔ StartsAsBase raw ∧ IsBase (stored raw.toList) := by
  rw [startsAsBase_iff, fault?]
  by_cases hstart : (stripStart? "https://".toList (stored raw.toList)).isNone = true ∧
      (stripStart? "http://".toList (stored raw.toList)).isNone = true
  · rw [if_pos hstart]
    exact iff_of_false (fun h => by cases h) fun h => h.1 hstart
  · rw [if_neg hstart, and_iff_right hstart, IsBase]
    cases Url.parse (stored raw.toList) with
    | error e => simp
    | ok u =>
      simp only [Except.ok.injEq, exists_eq_left']
      cases u.host <;> cases u.query <;> cases u.fragment <;> simp

theorem parse_eq_ok_iff {raw : String} {u : HostUrl} :
    parse raw = .ok u ↔ StartsAsBase raw ∧ IsBase (stored raw.toList) ∧ u = ofRaw raw := by
  rw [← and_assoc, ← fault?_eq_none_iff, parse]
  cases hfault : fault? (stored raw.toList) with
  | some f => simp
  | none => simp [ofRaw, eq_comm]

theorem parse_of_no_fault {raw : String} (h : fault? (stored raw.toList) = none) :
    parse raw = .ok (ofRaw raw) :=
  parse_eq_ok_iff.mpr ⟨(fault?_eq_none_iff.mp h).1, (fault?_eq_none_iff.mp h).2, rfl⟩

end HostUrl

/-! ## What accepted base URLs lack -/

namespace Url

/-- The characters in front of a fragment and of a query. -/
def isMark (c : Char) : Bool :=
  c == '#' || c == '?'

theorem plain_iff {cs : List Char} : Plain cs ↔ ∀ c ∈ cs, isMark c = false := by
  constructor
  · rintro ⟨hnumber, hquestion⟩ c hc
    rw [isMark, Bool.or_eq_false_iff, beq_eq_false_iff_ne, beq_eq_false_iff_ne]
    exact ⟨fun h => hnumber (h ▸ hc), fun h => hquestion (h ▸ hc)⟩
  · intro h
    exact ⟨fun hc => Bool.noConfusion (h _ hc), fun hc => Bool.noConfusion (h _ hc)⟩

/-- Neither mark is a slash, stands in an authority, or is disregarded. -/
theorem of_isMark {c : Char} (h : isMark c = true) :
    isSlash .web c = false ∧ endsAuthority .web c = true ∧ isEdge c = false := by
  simp only [isMark, Bool.or_eq_true, beq_iff_eq] at h
  rcases h with rfl | rfl <;> decide

theorem plain_of_isBaseRest {cs : List Char} (h : IsBaseRest cs) : Plain cs := by
  obtain ⟨host, port, left, hread, hplain⟩ := h
  obtain ⟨front, rest, hsplit, hfront, hrest⟩ := exists_authority (cs.dropWhile (isSlash .web))
  rw [hsplit] at hread
  obtain ⟨rfl, -⟩ := (authority_append_iff hfront hrest).mp hread
  have hcs : cs = cs.takeWhile (isSlash .web) ++ (front ++ left) := by
    rw [← hsplit, List.takeWhile_append_dropWhile]
  refine plain_iff.mpr fun c hc => Bool.eq_false_iff.mpr fun hmark => ?_
  obtain ⟨hslash, hend, -⟩ := of_isMark hmark
  rw [hcs, List.mem_append, List.mem_append] at hc
  rcases hc with hc | hc | hc
  · rw [List.all_eq_true.mp List.all_takeWhile c hc] at hslash
    cases hslash
  · rw [hfront c hc] at hend
    cases hend
  · rw [plain_iff.mp hplain c hc] at hmark
    cases hmark

/-- Cleaning removes neither mark. -/
theorem plain_of_cleanedEnd {cs : List Char} (h : Plain (cleanedEnd cs)) : Plain cs := by
  refine plain_iff.mpr fun c hc => Bool.eq_false_iff.mpr fun hmark => ?_
  obtain ⟨-, -, hedge⟩ := of_isMark hmark
  rw [splitEnd isEdge cs, List.mem_append] at hc
  rcases hc with hc | hc
  · have hkept : c ∈ cleanedEnd cs := List.mem_filter.mpr ⟨hc, by simp [isBreak_of_not_edge hedge]⟩
    rw [plain_iff.mp h c hkept] at hmark
    cases hmark
  · rw [List.all_eq_true.mp List.all_takeWhile c (List.mem_reverse.mp hc)] at hedge
    cases hedge

/-- A base URL that starts as base URLs do has neither mark. -/
theorem plain_of_isBase {start rest : List Char} (hs : start ∈ webStarts)
    (h : IsBase (start ++ rest)) : Plain (start ++ rest) := by
  have hall : webStarts.all (fun start => start.all fun c => !isMark c) = true := rfl
  have hstart : ∀ c ∈ start, isMark c = false := by
    simpa using List.all_eq_true.mp hall start hs
  have hrest := plain_of_isBaseRest ((isBase_start_iff hs (List.forall_mem_nil _) rest).mp h)
  exact plain_iff.mpr
    (List.forall_mem_append.mpr ⟨hstart, plain_iff.mp (plain_of_cleanedEnd hrest)⟩)

end Url

/-- The text of an accepted base URL starts as base URLs do and has neither mark. -/
theorem HostUrl.text_of_accepted {raw : String} {h : HostUrl} (hraw : parse raw = .ok h) :
    ∃ start ∈ webStarts, ∃ rest, h.text.toList = start ++ rest ∧ Plain rest := by
  obtain ⟨⟨start, hs, rest, hstored⟩, hbase, rfl⟩ := parse_eq_ok_iff.mp hraw
  rw [← hstored] at hbase
  refine ⟨start, hs, rest, by rw [ofRaw, ← hstored, String.toList_ofList], ?_⟩
  have hplain := plain_iff.mp (plain_of_isBase hs hbase)
  exact plain_iff.mpr fun c hc => hplain c (List.mem_append_right _ hc)

end AffinityGate
