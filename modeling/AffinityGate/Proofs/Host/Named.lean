import AffinityGate.Host.Client
import AffinityGate.Proofs.Failover.Location
import AffinityGate.Proofs.Url.Spelled

/-!
# The host that a request names

A request is sent with the authority of its target as its `Host`.  For accepted base URLs that is
the host of the target and, if one is written, its port, with whatever user information the base URL
has in front of them: `host_named_iff_no_user` says that only base URLs without a user are named as
they should be, and that every other header stays.
-/

namespace AffinityGate

/-! ## Bytes as characters -/

/-- The character with the number of a byte. -/
def letter (b : UInt8) : Char :=
  Char.ofNat b.toNat

theorem letter_inj {b c : UInt8} : letter b = letter c ↔ b = c := by
  have hvalid (b : UInt8) : b.toNat.isValidChar := .inl (Nat.lt_trans b.toNat_lt (by decide))
  refine ⟨fun h => UInt8.toNat_inj.mp ?_, congrArg letter⟩
  rw [← Utf8.toNat_ofNat (hvalid b), ← Utf8.toNat_ofNat (hvalid c)]
  exact congrArg (·.val.toNat) h

theorem map_letter_eq_cons {bs : Bytes} {b : UInt8} {cs : List Char}
    (h : bs.map letter = letter b :: cs) : ∃ more, bs = b :: more ∧ more.map letter = cs := by
  obtain ⟨c, more, rfl, hc, hmore⟩ := List.map_eq_cons_iff.mp h
  exact ⟨more, congrArg (· :: more) (letter_inj.mp hc), hmore⟩

theorem exists_of_decode?_append {cs : List Char} {bs more : Bytes} (hbs : ∀ b ∈ bs, b < 0x80)
    (h : Utf8.decode? (bs ++ more) = some cs) :
    ∃ ds, cs = bs.map letter ++ ds ∧ Utf8.decode? more = some ds := by
  rw [← Utf8.encode_ascii hbs, Utf8.decode?_encode_append] at h
  obtain ⟨ds, hds, rfl⟩ := Option.map_eq_some_iff.mp h
  exact ⟨ds, rfl, hds⟩

namespace Http.Uri

/-! ## Authorities in parts -/

/-- The parts of a target's authority: a user with the at sign behind it, if one is written, the
host, and a port with the colon in front of it, if one is written. -/
structure Spelled (u : Uri) (user port : Bytes) : Prop where
  written : u.authority = user ++ (u.host ++ port)
  user : user = [] ∨ ∃ name, user = name ++ [0x40]
  host : u.host ≠ [] ∧ 0x40 ∉ u.host
  port : port = [] ∨ ∃ digits, port = 0x3A :: digits ∧ ∀ b ∈ digits, 0x30 ≤ b ∧ b ≤ 0x39

/-- There is no user exactly if there is no at sign. -/
theorem Spelled.user_eq_nil_iff {u : Uri} {user port : Bytes} (h : u.Spelled user port) :
    user = [] ↔ 0x40 ∉ u.authority := by
  rw [h.written, List.mem_append, List.mem_append, not_or, not_or]
  constructor
  · rintro rfl
    refine ⟨List.not_mem_nil, h.host.2, fun hmem => ?_⟩
    rcases h.port with rfl | ⟨digits, rfl, hdigits⟩
    · cases hmem
    · rcases List.mem_cons.mp hmem with heq | hmem
      · cases heq
      · exact absurd (hdigits _ hmem).2 (by decide)
  · rintro ⟨huser, -⟩
    rcases h.user with hnil | ⟨name, rfl⟩
    · exact hnil
    · exact absurd (List.mem_append_right name List.mem_cons_self) huser

/-- The user in front of the host and port of an authority. -/
theorem exists_user (u : Uri) :
    ∃ user, u.authority = user ++ u.hostAndPort ∧ (user = [] ∨ ∃ name, user = name ++ [0x40]) ∧
      0x40 ∉ u.hostAndPort := by
  refine ⟨_, Url.splitEnd (· != 0x40) u.authority, ?_, fun hmem => ?_⟩
  · cases huser : u.authority.reverse.dropWhile (· != 0x40) with
    | nil => exact .inl rfl
    | cons b name =>
      have hb : b ∈ (u.authority.reverse.dropWhile (· != 0x40)).head? := by
        rw [huser]
        rfl
      obtain rfl : b = 0x40 := by simpa using head?_dropWhile_false hb
      exact .inr ⟨name.reverse, List.reverse_cons⟩
  · have hne := List.all_eq_true.mp List.all_takeWhile _ (List.mem_reverse.mp hmem)
    exact absurd hne (by decide)

/-! ## Brackets -/

/-- A bracket is closed once it is seen to be, and is not closed again. -/
theorem Seen.closed_of_step {s s' : Seen} {b : UInt8} (h : s.step b = .ok s') :
    s'.closed = (s.closed || b == 0x5D) ∧ (b = 0x5D → s.closed = false) := by
  unfold Seen.step at h
  repeat' split at h
  all_goals cases h
  all_goals simp_all

theorem not_mem_of_closed {bs : Bytes} {s s' : Seen} (h : bs.foldlM Seen.step s = .ok s')
    (hs : s.closed = true) : 0x5D ∉ bs := by
  induction bs generalizing s with
  | nil => exact List.not_mem_nil
  | cons b bs ih =>
    rw [List.foldlM_cons] at h
    obtain ⟨s₁, hstep, hrest⟩ := bind_eq_ok_iff.mp h
    obtain ⟨hclosed, hopen⟩ := Seen.closed_of_step hstep
    rw [List.mem_cons, not_or]
    refine ⟨fun heq => ?_, ih hrest (by rw [hclosed, hs, Bool.true_or])⟩
    rw [hopen heq.symm] at hs
    cases hs

/-- An authority closes a bracket once at most. -/
theorem IsAuthority.closed_once {front back : Bytes} (h : IsAuthority (front ++ 0x5D :: back)) :
    0x5D ∉ back := by
  obtain ⟨seen, hseen, -⟩ := h.complete
  rw [List.foldlM_append] at hseen
  obtain ⟨s, -, hback⟩ := bind_eq_ok_iff.mp hseen
  rw [List.foldlM_cons] at hback
  obtain ⟨s', hstep, hrest⟩ := bind_eq_ok_iff.mp hback
  refine not_mem_of_closed hrest ?_
  rw [(Seen.closed_of_step hstep).1, beq_self_eq_true, Bool.or_true]

/-! ## Hosts and ports -/

/-- Bytes that are spelled as a port are one. -/
theorem exists_port {port : Bytes} (h : Url.IsPortText (port.map letter)) :
    port = [] ∨ ∃ digits, port = 0x3A :: digits ∧ ∀ b ∈ digits, 0x30 ≤ b ∧ b ≤ 0x39 := by
  have hdigit : ∀ b, (letter b).isDigit = true → 0x30 ≤ b ∧ b ≤ 0x39 :=
    forall_byte (by decide +kernel)
  rcases h with hnil | ⟨digits, hcolon, hdigits⟩
  · exact .inl (List.map_eq_nil_iff.mp hnil)
  · obtain ⟨digits, rfl, rfl⟩ := map_letter_eq_cons (b := 0x3A) hcolon
    exact .inr ⟨digits, rfl, fun b hb => hdigit b (hdigits _ (List.mem_map_of_mem hb))⟩

/-- A host in brackets ends at the first closing one. -/
theorem host_of_brackets {u : Uri} {address after : Bytes}
    (h : u.hostAndPort = 0x5B :: (address ++ 0x5D :: after)) (hno : 0x5D ∉ address) :
    u.host = 0x5B :: (address ++ [0x5D]) := by
  have hall : ∀ b ∈ address, (b != 0x5D) = true := fun b hb =>
    bne_iff_ne.mpr fun heq => hno (heq ▸ hb)
  rw [host, h]
  simp [List.takeWhile_append_of_pos hall]

/-- Any other host ends at the first colon. -/
theorem host_of_no_colon {u : Uri} {name port : Bytes} (h : u.hostAndPort = name ++ port)
    (hne : name ≠ []) (hopen : name.head? ≠ some 0x5B) (hcolon : 0x3A ∉ name)
    (hport : ∀ b ∈ port.head?, b = 0x3A) : u.host = name := by
  have hall : ∀ b ∈ name, (b != 0x3A) = true := fun b hb =>
    bne_iff_ne.mpr fun heq => hcolon (heq ▸ hb)
  have hstop : ∀ b ∈ port.head?, (b != 0x3A) = false := fun b hb => by rw [hport b hb]; rfl
  obtain ⟨b, more, rfl⟩ := List.exists_cons_of_ne_nil hne
  unfold host
  split
  · rename_i rest hstart
    rw [h] at hstart
    exact absurd (congrArg some (List.cons.inj hstart).1) hopen
  · rw [h]
    exact takeWhile_append_stop hall hstop

/-- The host of a target whose authority is spelled as a host with a port behind it. -/
theorem host_of_spelling {u : Uri} {name port : Bytes} (hsplit : u.hostAndPort = name ++ port)
    (hne : name ≠ []) (hclosed : ∀ front back, u.hostAndPort = front ++ 0x5D :: back → 0x5D ∉ back)
    (hname : Url.IsSpelling (name.map letter)) (hport : ∀ b ∈ port.head?, b = 0x3A) :
    u.host = name := by
  rcases hname with ⟨address, hbrackets⟩ | ⟨hcolon, hopen⟩
  · obtain ⟨inner, rfl, hinner⟩ := map_letter_eq_cons (b := 0x5B) hbrackets
    obtain ⟨address, closing, rfl, -, hclosing⟩ := List.map_eq_append_iff.mp hinner
    obtain ⟨more, rfl, hmore⟩ := map_letter_eq_cons (b := 0x5D) hclosing
    obtain rfl := List.map_eq_nil_iff.mp hmore
    have hwhole : u.hostAndPort = 0x5B :: (address ++ 0x5D :: port) := by
      rw [hsplit]
      simp
    refine host_of_brackets hwhole fun hmem => ?_
    -- The bracket behind the address is the only one that the authority closes.
    obtain ⟨front, back, rfl⟩ := List.append_of_mem hmem
    refine hclosed (0x5B :: front) (back ++ 0x5D :: port) ?_ (by simp)
    rw [hwhole]
    simp
  · refine host_of_no_colon hsplit hne (fun hhead => hopen ?_) (fun hmem => ?_) hport
    · rw [List.head?_map, hhead]
      rfl
    · exact hcolon (List.mem_map.mpr ⟨0x3A, hmem, rfl⟩)

end Http.Uri

/-! ## Accepted base URLs -/

namespace HostUrl

open Http.Uri (IsAuthority isAuthorityByte isDelimiter afterScheme webSchemes)
open Url (AtEnd IsBaseRest Unended cleanedEnd endsAuthority isEdge webStarts)

variable {h : HostUrl} {raw scheme : String} {authority path : Bytes}

theorem start_of_scheme : ∀ scheme ∈ webSchemes, ∃ start ∈ webStarts,
    Utf8.encode start = afterScheme scheme [] := by
  decide +kernel

/-- Bytes of authorities stand for characters of authorities. -/
theorem letter_of_authority : ∀ b, isAuthorityByte b = true ∨ b = 0x25 → isDelimiter b = false →
    b < 0x80 ∧ isEdge (letter b) = false ∧ endsAuthority .web (letter b) = false :=
  forall_byte (by decide +kernel)

/-- The characters of a base URL behind its start. -/
theorem Parts.exists_text (hp : h.Parts scheme authority path) :
    ∃ start ∈ webStarts, ∃ rest, h.text.toList = start ++ rest ∧
      Utf8.decode? (authority ++ path) = some rest := by
  obtain ⟨start, hs, hstart⟩ := start_of_scheme scheme hp.web
  have hsplit : afterScheme scheme (authority ++ path) =
      Utf8.encode start ++ (authority ++ path) := by
    rw [hstart]
    simp [afterScheme]
  have hread : Utf8.decode? (Utf8.ofText h.text) = some h.text.toList := Utf8.decode?_encode _
  rw [hp.written, hsplit, Utf8.decode?_encode_append] at hread
  obtain ⟨rest, hrest, htext⟩ := Option.map_eq_some_iff.mp hread
  exact ⟨start, hs, rest, htext.symm, hrest⟩

theorem isBaseRest_of_accepted (hraw : parse raw = .ok h) {start rest : List Char}
    (hs : start ∈ webStarts) (htext : h.text.toList = start ++ rest) :
    IsBaseRest (cleanedEnd rest) := by
  obtain ⟨-, hbase, rfl⟩ := parse_eq_ok_iff.mp hraw
  rw [ofRaw, String.toList_ofList] at htext
  rw [htext] at hbase
  exact (Url.isBase_start_iff hs (List.forall_mem_nil _) rest).mp hbase

/-- What stands behind the authority of a base URL ends it for the reader of URLs too. -/
theorem Parts.atEnd (hp : h.Parts scheme authority path) {rest : List Char}
    (hrest : Utf8.decode? path = some rest) : AtEnd (cleanedEnd rest) := by
  cases path with
  | nil =>
    obtain rfl : [] = rest := by simpa [Utf8.decode?, Utf8.scan] using hrest
    exact Url.atEnd_nil
  | cons b path =>
    cases hp.slash b rfl
    have hascii : ∀ b ∈ [(0x2F : UInt8)], b < 0x80 := List.forall_mem_singleton.mpr (by decide)
    obtain ⟨more, rfl, -⟩ := exists_of_decode?_append hascii hrest
    rw [List.map_singleton, List.singleton_append, Url.cleanedEnd_cons (by decide +kernel)]
    rintro c ⟨⟩
    decide +kernel

/-- An authority of request targets is read as one by the reader of URLs, if the base URL is. -/
theorem Parts.authority_read (hraw : parse raw = .ok h) (hp : h.Parts scheme authority path)
    (ha : IsAuthority authority) :
    Unended (authority.map letter) ∧
      ∃ host port, Url.authority .web (authority.map letter) = .ok (host, port, []) := by
  have hbytes : ∀ b ∈ authority, _ := fun b hb =>
    letter_of_authority b (ha.byte b hb) (hp.undelimited b hb)
  have hopen : Unended (authority.map letter) :=
    List.forall_mem_map.mpr fun b hb => (hbytes b hb).2.2
  have hedge : ∀ c ∈ authority.map letter, isEdge c = false :=
    List.forall_mem_map.mpr fun b hb => (hbytes b hb).2.1
  obtain ⟨start, hs, rest, htext, hrest⟩ := hp.exists_text
  obtain ⟨tail, rfl, htail⟩ := exists_of_decode?_append (fun b hb => (hbytes b hb).1) hrest
  obtain ⟨host, port, left, hread, -⟩ := isBaseRest_of_accepted hraw hs htext
  -- A reader of URLs skips slashes in front of an authority, and there are none.
  have hfirst : ∀ c ∈ (authority.map letter ++ cleanedEnd tail).head?,
      Url.isSlash .web c = false := by
    obtain ⟨b, more, hmore⟩ := List.exists_cons_of_ne_nil ha.nonempty
    intro c hc
    have hend := hopen c (by rw [hmore] at hc ⊢; cases hc; simp)
    simp only [endsAuthority, Bool.or_eq_false_iff] at hend
    exact hend.1.1
  rw [Url.cleanedEnd_append hedge, dropWhile_eq_self_of_head hfirst] at hread
  exact ⟨hopen, host, port, ((Url.authority_append_iff hopen (hp.atEnd htail)).mp hread).2⟩

/-- Both readers take what stands behind the last at sign. -/
theorem afterUser_map_letter (bs : Bytes) :
    Url.afterUser (bs.map letter) = (bs.reverse.takeWhile (· != 0x40)).reverse.map letter := by
  have hat : ((· != '@') ∘ letter) = fun b => b != 0x40 := by
    funext b
    have hletter : letter 0x40 = '@' := rfl
    rw [Bool.eq_iff_iff, Function.comp, bne_iff_ne, bne_iff_ne, ← hletter, Ne, letter_inj]
  rw [Url.afterUser_eq, ← List.map_reverse, List.takeWhile_map, hat, List.map_reverse]

/-- The authority of a target at an accepted base URL has a host, and a port if one is written. -/
theorem Parts.exists_spelled (hraw : parse raw = .ok h) (hp : h.Parts scheme authority path)
    {u : Http.Uri} (hu : u.authority = authority) (ha : IsAuthority authority) :
    ∃ user port, u.Spelled user port := by
  obtain ⟨user, hwritten, huser, hat⟩ := u.exists_user
  obtain ⟨hopen, _, _, hread⟩ := hp.authority_read hraw ha
  obtain ⟨_, _, hafter, hne, hname, hport⟩ := Url.exists_spelling hopen hread
  rw [afterUser_map_letter, ← hu] at hafter
  obtain ⟨name, port, hsplit, rfl, rfl⟩ := List.map_eq_append_iff.mp hafter
  have hclosed : ∀ front back, u.hostAndPort = front ++ 0x5D :: back → 0x5D ∉ back := by
    intro front back hcut
    rw [← hu, hwritten, hcut, ← List.append_assoc] at ha
    exact ha.closed_once
  have hcolon := Http.Uri.exists_port hport
  have hhost : u.host = name := by
    refine Http.Uri.host_of_spelling hsplit (by simpa using hne) hclosed hname ?_
    rcases hcolon with rfl | ⟨digits, rfl, -⟩
    · simp
    · simp
  rw [show u.hostAndPort = name ++ port from hsplit] at hwritten hat
  exact ⟨user, port, hhost ▸ hwritten, huser,
    hhost ▸ ⟨by simpa using hne, fun hmem => hat (List.mem_append_left _ hmem)⟩, hcolon⟩

end HostUrl

/-! ## Prepared requests -/

namespace Client

/-- What becomes of the headers of a request to an authority. -/
theorem exists_prepare {r : Http.Request} (h : r.uri.authority ≠ []) :
    ∃ headers : Http.Headers, prepare r = .ok { r with headers := headers } ∧
      headers.values .host = [r.uri.authority] ∧
      headers.values .userAgent =
        if r.headers.values .userAgent = [] then [Utf8.ofText userAgent]
        else r.headers.values .userAgent := by
  refine ⟨_, if_neg (by simpa using h), ?_, ?_⟩
  · rw [Http.Headers.values_putIfAbsent, if_neg (fun hn => nomatch hn.1),
      Http.Headers.values_put_self]
  · have hagent : Http.HeaderName.userAgent ≠ .host := by decide
    rw [Http.Headers.values_putIfAbsent, Http.Headers.values_put_of_ne _ _ hagent]
    simp

/-- **The target host is named exactly if the base URL has no user.**  A request that can be
addressed at an accepted host, whatever it is, is prepared without an error.  It gets one `Host`,
which is the authority of the base URL and can stand in a header.  That is the host of the target
and, if one is written, its port, with the user of the base URL in front of them if it has one; so
it names what it should exactly if the authority has no at sign.  The name of the client is added
where there is none, every other header keeps its values in order, and nothing else changes. -/
theorem host_named_iff_no_user {raw : String} {host : Host}
    (hraw : HostUrl.parse raw = .ok host.url) :
    ∃ scheme authority base, host.url.Parts scheme authority base ∧
      ∀ (request : Buffered) (outgoing : Http.Request), request.addressed host = .ok outgoing →
        ∃ (user port : Bytes) (headers : Http.Headers), outgoing.uri.authority = authority ∧
          outgoing.uri.Spelled user port ∧
          prepare outgoing = .ok { outgoing with headers := headers } ∧
          Http.isHeaderValue authority = true ∧
          headers.values .host = [user ++ (outgoing.uri.host ++ port)] ∧
          (headers.values .host = [outgoing.uri.host ++ port] ↔ 0x40 ∉ authority) ∧
          headers.values .userAgent =
            (if request.headers.values .userAgent = [] then [Utf8.ofText userAgent]
              else request.headers.values .userAgent) ∧
          ∀ n, n ≠ .host → n ≠ .userAgent → headers.values n = request.headers.values n := by
  obtain ⟨scheme, authority, base, hparts, -⟩ := HostUrl.exists_parts hraw
  refine ⟨scheme, authority, base, hparts, fun request outgoing hout => ?_⟩
  obtain ⟨uri, huri, rfl⟩ := Buffered.addressed_eq_ok_iff.mp hout
  obtain ⟨more, hjoin⟩ := host.url.exists_join_slash request.pathAndQuery
  rw [hjoin] at huri
  obtain ⟨hauthority, target, -, hread⟩ := hparts.of_parse huri
  have hsame : uri.authority = authority := congrArg Http.Uri.authority hread
  obtain ⟨user, port, hspelled⟩ := hparts.exists_spelled hraw hsame hauthority
  have hne : uri.authority ≠ [] := hsame ▸ hauthority.nonempty
  obtain ⟨headers, hprepared, hhost, hagent⟩ :=
    @exists_prepare ⟨request.method, uri, request.headers, request.body⟩ hne
  have hwritten : headers.values .host = [user ++ (uri.host ++ port)] :=
    hhost.trans (congrArg (fun authority => [authority]) hspelled.written)
  refine ⟨user, port, headers, hsame, hspelled, hprepared, hauthority.isHeaderValue, hwritten, ?_,
    hagent, fun n hhost hagent => values_of_prepare hprepared hhost hagent⟩
  rw [← hsame, ← hspelled.user_eq_nil_iff, hwritten]
  simp

/-- A base URL with an address, a port and a path. -/
def loopback : String :=
  "http://[::1]:1984/cu/"

/-- An address is named in its brackets, with the port and without the path. -/
theorem address_and_port_named :
    ∃ host outgoing headers, HostUrl.parse loopback = .ok host.url ∧
      (Buffered.asking "/state/p").addressed host = .ok outgoing ∧
      prepare outgoing = .ok { outgoing with headers := headers } ∧
      headers.values .host = [Utf8.ofText "[::1]:1984"] ∧
      outgoing.uri.host = Utf8.ofText "[::1]" ∧
      headers.values .userAgent = [Utf8.ofText userAgent] := by
  have hraw : HostUrl.parse loopback = .ok (HostUrl.ofRaw loopback) :=
    HostUrl.parse_of_no_fault (by decide +kernel)
  let outgoing : Http.Request := ⟨.get, ⟨some (Utf8.ofText "http"), Utf8.ofText "[::1]:1984",
    Utf8.ofText "/cu/state/p"⟩, [], []⟩
  have hout : (Buffered.asking "/state/p").addressed ⟨none, HostUrl.ofRaw loopback⟩ =
      .ok outgoing := by decide +kernel
  obtain ⟨scheme, authority, base, -, hnamed⟩ :=
    @host_named_iff_no_user loopback ⟨none, HostUrl.ofRaw loopback⟩ hraw
  obtain ⟨user, port, headers, hsame, hspelled, hprepared, -, -, hiff, hagent, -⟩ :=
    hnamed _ outgoing hout
  have hno : 0x40 ∉ outgoing.uri.authority := by decide +kernel
  have hhost := hiff.mpr (hsame ▸ hno)
  have hwritten := hspelled.written
  rw [hspelled.user_eq_nil_iff.mpr hno, List.nil_append] at hwritten
  rw [← hwritten] at hhost
  exact ⟨_, outgoing, headers, hraw, hout, hprepared, hhost, by decide +kernel, hagent⟩

/-- A base URL with a user. -/
def baseWithUser : String :=
  "http://user:secret@a"

/-- The base URL is accepted, and its user is named together with its host. -/
theorem user_named_in_host :
    ¬∀ (raw : String) (host : Host) (request : Buffered) (outgoing : Http.Request),
      HostUrl.parse raw = .ok host.url → request.addressed host = .ok outgoing →
      ∃ (user port : Bytes) (headers : Http.Headers), outgoing.uri.Spelled user port ∧
        prepare outgoing = .ok { outgoing with headers := headers } ∧
        headers.values .host = [outgoing.uri.host ++ port] := by
  intro h
  have hraw : HostUrl.parse baseWithUser = .ok (HostUrl.ofRaw baseWithUser) :=
    HostUrl.parse_of_no_fault (by decide +kernel)
  let outgoing : Http.Request := ⟨.get, ⟨some (Utf8.ofText "http"), Utf8.ofText "user:secret@a",
    Utf8.ofText "/state/p"⟩, [], []⟩
  have hout : (Buffered.asking "/state/p").addressed ⟨none, HostUrl.ofRaw baseWithUser⟩ =
      .ok outgoing := by decide +kernel
  obtain ⟨user, port, headers, hspelled, hprepared, hhost⟩ :=
    h baseWithUser ⟨none, HostUrl.ofRaw baseWithUser⟩ _ outgoing hraw hout
  have hne : outgoing.uri.authority ≠ [] := by decide +kernel
  obtain ⟨headers', hprepared', hhost', -⟩ := exists_prepare hne
  have hheaders : headers = headers' :=
    congrArg Http.Request.headers (Except.ok.inj (hprepared.symm.trans hprepared'))
  rw [hheaders, hhost', List.cons.injEq, hspelled.written] at hhost
  have hnil : user = [] := by simpa using hhost.1
  exact absurd (hspelled.user_eq_nil_iff.mp hnil) (by decide +kernel)

end Client
end AffinityGate
