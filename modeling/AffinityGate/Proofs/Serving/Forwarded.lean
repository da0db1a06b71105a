import AffinityGate.Proofs.Http.FieldList
import AffinityGate.Proofs.Net.Address
import AffinityGate.Proofs.Serving.Faithful

/-!
# The forwarding chain

The forwarding chain of a request is the list of entries of its forwarding lines.  What reaches a
host is the chain of the first line alone, and only if that line is visible, with the client at its
end (`entries_forwardedFor`).  So the chain gets no entry that was not there, the client apart, but
it loses what stands in further lines.  `chain_extended_iff` says when it loses nothing.
-/

namespace AffinityGate

variable {σ : Type}

namespace Handler

open Http (Headers HeaderName)
open Http.FieldList

/-! ## One request -/

/-- What of the lines of a chain is read: the first line, if it is visible. -/
def told : List Bytes → List Bytes
  | [] => []
  | first :: _ => if first.all isVisible then entries first else []

/-- The text of a client is one entry. -/
theorem entries_client {client : Net.Ip} (h : client.Complete) :
    entries (Utf8.ofText client.text) = [Utf8.ofText client.text] := by
  refine entries_of_token (Utf8.encode_ne_nil fun hnil => ?_) fun b hb => ?_
  · exact h.text_ne_empty (String.toList_eq_nil_iff.mp hnil)
  · have hforeign {c : Char} (hc : c.toNat < 0x80) (hnot : Net.isAddressChar c = false) :
        UInt8.ofNat c.toNat ≠ b := by
      rintro rfl
      have := Net.isAddressChar_text client c (Utf8.mem_of_mem_encode hc hb)
      rw [hnot] at this
      cases this
    have hcomma := hforeign (c := ',') (by decide) (by decide)
    have hspace := hforeign (c := ' ') (by decide) (by decide)
    have htab := hforeign (c := '\t') (by decide) (by decide)
    exact ⟨hcomma.symm, by simpa [isSpace] using ⟨hspace.symm, htab.symm⟩⟩

/-- The chain that a request is marked with is what is read of the one it has, and the client. -/
theorem entries_forwardedFor (headers : Headers) {client : Net.Ip} (h : client.Complete) :
    entries (forwardedFor headers client) =
      told (headers.values .forwardedFor) ++ [Utf8.ofText client.text] := by
  have hclient := entries_client h
  unfold forwardedFor Headers.get?
  cases headers.values .forwardedFor with
  | nil => exact hclient
  | cons first rest =>
    simp only [List.head?_cons, Option.bind_some, visibleText?_eq, told]
    by_cases hall : first.all isVisible = true
    · have hvisible := List.all_eq_true.mp hall
      rw [if_pos hall, if_pos hall]
      simp only [trimText_textOf hvisible]
      rw [← entries_strip first]
      split
      · rename_i hempty
        rw [textOf_eq_empty_iff.mp hempty, hclient]
        rfl
      · have hfirst := ofText_textOf fun b hb =>
          hvisible b (mem_of_mem_strip hb)
        have hcomma : Utf8.ofText ", " = [separator, 0x20] := by decide +kernel
        rw [Utf8.ofText_append, Utf8.ofText_append, hfirst, hcomma, List.append_assoc,
          List.cons_append, entries_append, List.singleton_append,
          entries_cons (by decide), hclient]
    · rw [if_neg hall, if_neg hall]
      exact hclient

/-- What reaches a host is the chain that the request is marked with. -/
theorem values_copy (headers : Headers) (client : Net.Ip) (secure : Bool) :
    Headers.values ((addForwarded headers (some client) secure).filter
      fun h => !Buffered.dropped.contains h.1) .forwardedFor = [forwardedFor headers client] := by
  have hkept : (!Buffered.dropped.contains HeaderName.forwardedFor) = true := by decide
  rw [Headers.values_filter _ fun n => !Buffered.dropped.contains n, if_pos hkept,
    values_addForwarded_for]
  exact Headers.values_put_self _ _ _

/-! ## Chains -/

/-- The lines of a chain break nothing off: there are none, or the first is visible and those behind
it have no entries. -/
def Unbroken (lines : List Bytes) : Prop :=
  ∀ first rest, lines = first :: rest →
    (∀ b ∈ first, isVisible b = true) ∧ entriesOf rest = []

theorem told_isPrefix (lines : List Bytes) : told lines <+: entriesOf lines := by
  cases lines with
  | nil => exact List.nil_prefix
  | cons first rest =>
    rw [told]
    split
    · exact List.prefix_append _ _
    · exact List.nil_prefix

theorem told_eq_iff {lines : List Bytes} : told lines = entriesOf lines ↔ Unbroken lines := by
  cases lines with
  | nil => exact iff_of_true rfl nofun
  | cons first rest =>
    have hunbroken : Unbroken (first :: rest) ↔
        (∀ b ∈ first, isVisible b = true) ∧ entriesOf rest = [] := by
      constructor
      · exact fun h => h first rest rfl
      · rintro h _ _ ⟨⟩
        exact h
    have hlines : entriesOf (first :: rest) = entries first ++ entriesOf rest := List.flatMap_cons
    rw [hunbroken, hlines, told, ← List.all_eq_true]
    by_cases hvisible : first.all isVisible = true
    · rw [if_pos hvisible, List.self_eq_append_right]
      exact (and_iff_right hvisible).symm
    · rw [if_neg hvisible]
      refine iff_of_false (fun h => hvisible (List.all_eq_true.mpr fun b hb => ?_))
        fun h => hvisible h.1
      -- A line without entries is visible, since it is made of commas and space.
      have hnone := (List.append_eq_nil_iff.mp h.symm).1
      rcases entries_eq_nil_iff.mp hnone b hb with rfl | hspace
      · decide
      · exact isVisible_of_isSpace hspace

/-- **When the forwarding chain is extended.**  The chain that reaches a host ends in the client,
and what is in front of it are the first entries of the chain that came in.  These are all entries
exactly if the lines that came in break nothing off. -/
theorem chain_extended_iff (h : Handler) (out : Outside σ) (timestamp : String) {client : Net.Ip}
    (hclient : client.Complete) (request : Http.Arrival) (s : Situation σ) :
    let lines := request.headers.values .forwardedFor
    ∀ r ∈ Effect.requests (h.handle out timestamp (some client) request s).effects,
      let chain := entriesOf (r.headers.values .forwardedFor)
      (∃ kept, kept <+: entriesOf lines ∧ chain = kept ++ [Utf8.ofText client.text]) ∧
        (chain = entriesOf lines ++ [Utf8.ofText client.text] ↔ Unbroken lines) := by
  intro lines r hr chain
  obtain ⟨body, uri, -, rfl⟩ := h.copy_of_sent out timestamp (some client) request s hr
  have hchain : chain = told lines ++ [Utf8.ofText client.text] := by
    simp only [chain, values_copy, entriesOf, List.flatMap_singleton]
    exact entries_forwardedFor request.headers hclient
  refine ⟨⟨told lines, told_isPrefix lines, hchain⟩, ?_⟩
  rw [hchain, List.append_left_inj, told_eq_iff]

/-- A gateway in front of two hosts, whose listener speaks TLS. -/
def pair : Handler := ⟨Visit.byPath.dispatcher, true⟩

/-- A client. -/
def visitor : Net.Ip := .v4 [192, 0, 2, 1]

/-- A request with the lines of a chain. -/
def via (lines : List String) : Http.Arrival where
  method := .get
  uri := ⟨none, [], Utf8.ofText "/state/p"⟩
  headers := lines.map fun line => (.forwardedFor, Utf8.ofText line)
  body := ⟨[], none⟩

/-- A chain with space, tabs and blank entries, and a blank line behind it, reaches the host that
refuses it and the one that answers, with the client at its end. -/
theorem padded_chain_extended :
    let lines := [" 203.0.113.9 ,, 198.51.100.7\t", " , "]
    let sent := Effect.requests
      (pair.handle Failover.oneDown "now" (some visitor) (via lines) ⟨0, .forgetful, ()⟩).effects
    visitor.Complete ∧
      sent.map (·.uri.text) = [Utf8.ofText "http://b/state/p", Utf8.ofText "http://a/state/p"] ∧
      ∀ r ∈ sent, entriesOf (r.headers.values .forwardedFor) =
        [Utf8.ofText "203.0.113.9", Utf8.ofText "198.51.100.7", Utf8.ofText "192.0.2.1"] := by
  intro lines sent
  have hunbroken : Unbroken ((via lines).headers.values .forwardedFor) :=
    told_eq_iff.mp (by decide +kernel)
  have hvisitor : visitor.Complete := by decide
  refine ⟨hvisitor, by decide +kernel, fun r hr => ?_⟩
  obtain ⟨-, hchain⟩ := chain_extended_iff pair Failover.oneDown "now" hvisitor (via lines)
    ⟨0, .forgetful, ()⟩ r hr
  exact (hchain.mpr hunbroken).trans (by decide +kernel)

/-- Of a chain in two lines the second is lost. -/
theorem second_line_lost :
    ¬∀ (h : Handler) (out : Outside Unit) (timestamp : String) (client : Net.Ip)
      (request : Http.Arrival) (s : Situation Unit), client.Complete →
      ∀ r ∈ Effect.requests (h.handle out timestamp (some client) request s).effects,
        entriesOf (r.headers.values .forwardedFor) =
          entriesOf (request.headers.values .forwardedFor) ++ [Utf8.ofText client.text] := by
  intro hall
  have hextended := hall pair Failover.oneDown "now" visitor
    (via ["203.0.113.9", "198.51.100.7"]) ⟨0, .forgetful, ()⟩ (by decide)
  revert hextended
  decide +kernel

end Handler
end AffinityGate
