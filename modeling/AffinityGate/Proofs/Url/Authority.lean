import AffinityGate.Proofs.Text.Utf8
import AffinityGate.Proofs.Unicode.Gap
import AffinityGate.Url.Parse

/-!
# Authorities of web URLs

An authority is read up to the slash, question mark or number sign that ends it, whatever comes
after that (`authority_append`), and none ends in a gap (`authority_concat_gap`).
-/

namespace AffinityGate.Url

open Unicode

/-! ## What an authority is read from -/

/-- The port after a host, if there is one, and the rest. -/
def portAndRest : List Char → Except Error (Option Nat × List Char)
  | ':' :: r => takePort r
  | r => .ok (none, r)

theorem portAndRest_colon (r : List Char) : portAndRest (':' :: r) = takePort r := rfl

theorem portAndRest_of_ne {r : List Char} (h : ∀ r', r ≠ ':' :: r') :
    portAndRest r = .ok (none, r) := by
  unfold portAndRest
  split
  · exact absurd rfl (h _)
  · rfl

/-- A web authority that is read: its host is not empty and valid, and its port is one. -/
theorem authority_web_eq_ok_iff {cs : List Char} {host : Option Host} {port : Option Nat}
    {rest : List Char} :
    authority .web cs = .ok (host, port, rest) ↔
      ¬((cutUserinfo .web cs).1 = some [] ∧
        (cutUserinfo .web cs).2.head?.any (endsAuthority .web) = true) ∧
      (takeHost .web false (cutUserinfo .web cs).2).1 ≠ [] ∧
      (∃ h, Host.parse (takeHost .web false (cutUserinfo .web cs).2).1 = .ok h ∧ host = some h) ∧
      portAndRest (takeHost .web false (cutUserinfo .web cs).2).2 = .ok (port, rest) := by
  unfold authority
  generalize cutUserinfo .web cs = cut
  obtain ⟨user, after⟩ := cut
  simp only
  generalize takeHost .web false after = taken
  obtain ⟨name, left⟩ := taken
  by_cases hempty : user = some [] ∧ after.head?.any (endsAuthority .web) = true
  · rw [if_pos hempty]
    exact iff_of_false (fun h => by cases h) fun h => h.1 hempty
  · rw [if_neg hempty]
    cases name with
    | nil => exact iff_of_false (fun h => by cases h) fun h => h.2.1 rfl
    | cons c cs =>
      simp only [List.isEmpty_cons, Bool.false_eq_true, false_and, if_false, if_true]
      cases hparse : Host.parse (c :: cs) with
      | error e =>
        exact iff_of_false (fun h => by cases h) fun ⟨_, _, ⟨h, hh, _⟩, _⟩ => by cases hh
      | ok found =>
        split
        · rename_i r
          rw [portAndRest_colon]
          cases takePort r with
          | error e => exact iff_of_false (fun h => by cases h) fun h => by cases h.2.2.2
          | ok p =>
            constructor
            · rintro h
              cases h
              exact ⟨hempty, by simp, ⟨_, rfl, rfl⟩, rfl⟩
            · rintro ⟨-, -, ⟨h, hh, rfl⟩, hp⟩
              cases hh
              cases hp
              rfl
        · rename_i hne
          rw [portAndRest_of_ne hne]
          constructor
          · rintro h
            cases h
            exact ⟨hempty, by simp, ⟨_, rfl, rfl⟩, rfl⟩
          · rintro ⟨-, -, ⟨h, hh, rfl⟩, hp⟩
            cases hh
            cases hp
            rfl

/-! ## Where an authority ends -/

/-- Characters none of which ends a web authority. -/
def Unended (cs : List Char) : Prop :=
  ∀ c ∈ cs, endsAuthority .web c = false

/-- What may follow an authority: nothing, or what starts with a character that ends it. -/
def AtEnd (cs : List Char) : Prop :=
  ∀ c ∈ cs.head?, endsAuthority .web c = true

theorem atEnd_nil : AtEnd [] := by
  simp [AtEnd]

theorem ne_colon_of_atEnd {cs : List Char} (h : AtEnd cs) : ∀ r, cs ≠ ':' :: r := by
  rintro r rfl
  have := h ':' rfl
  revert this
  decide

theorem exists_authority (cs : List Char) :
    ∃ front rest, cs = front ++ rest ∧ Unended front ∧ AtEnd rest := by
  refine ⟨cs.takeWhile (!endsAuthority .web ·), cs.dropWhile (!endsAuthority .web ·),
    List.takeWhile_append_dropWhile.symm, fun c hc => ?_, fun c hc => ?_⟩
  · simpa using List.all_eq_true.mp List.all_takeWhile c hc
  · simpa using head?_dropWhile_false hc

variable {front rest : List Char}

theorem takeWhile_unended (hf : Unended front) (hr : AtEnd rest) :
    (front ++ rest).takeWhile (!endsAuthority .web ·) = front :=
  takeWhile_append_stop (fun c hc => by simp [hf c hc]) fun c hc => by simp [hr c hc]

theorem dropWhile_unended (hf : Unended front) (hr : AtEnd rest) :
    (front ++ rest).dropWhile (!endsAuthority .web ·) = rest :=
  dropWhile_append_stop (fun c hc => by simp [hf c hc]) fun c hc => by simp [hr c hc]

/-- The part of an authority behind its user information. -/
def afterUser (cs : List Char) : List Char :=
  if cs.contains '@' then (cs.reverse.takeWhile (· != '@')).reverse else cs

theorem cutUserinfo_snd (hf : Unended front) (hr : AtEnd rest) :
    (cutUserinfo .web (front ++ rest)).2 = afterUser front ++ rest := by
  unfold cutUserinfo afterUser
  simp only [takeWhile_unended hf hr, dropWhile_unended hf hr]
  split
  · rfl
  · rfl

theorem mem_of_mem_afterUser {cs : List Char} {c : Char} (h : c ∈ afterUser cs) : c ∈ cs := by
  unfold afterUser at h
  split at h
  · rw [List.mem_reverse] at h
    exact List.mem_reverse.mp ((List.takeWhile_sublist _).mem h)
  · exact h

theorem afterUser_concat (cs : List Char) {g : Char} (hg : g ≠ '@') :
    ∃ ds, afterUser (cs ++ [g]) = ds ++ [g] := by
  unfold afterUser
  split
  · simp [hg]
  · exact ⟨cs, rfl⟩

theorem unended_afterUser (hf : Unended front) : Unended (afterUser front) :=
  fun c hc => hf c (mem_of_mem_afterUser hc)

theorem takeHost_append (hf : Unended front) (hr : AtEnd rest) (bracket : Bool) :
    takeHost .web bracket (front ++ rest) =
      ((takeHost .web bracket front).1, (takeHost .web bracket front).2 ++ rest) := by
  induction front generalizing bracket with
  | nil =>
    cases rest with
    | nil => rfl
    | cons c rest =>
      have hc : endsAuthority .web c = true := hr c rfl
      simp [takeHost, hc]
  | cons c front ih =>
    have hc := hf c (by simp)
    have hf' : Unended front := fun d hd => hf d (by simp [hd])
    rw [List.cons_append, takeHost, takeHost]
    split
    · rfl
    · simp only [ih hf']

theorem takeHost_snd (hf : Unended front) (bracket : Bool) :
    (takeHost .web bracket front).2 = [] ∨ ∃ r, (takeHost .web bracket front).2 = ':' :: r ∧
      Unended r := by
  induction front generalizing bracket with
  | nil => exact Or.inl rfl
  | cons c front ih =>
    have hc := hf c (by simp)
    have hf' : Unended front := fun d hd => hf d (by simp [hd])
    rw [takeHost]
    split
    · rename_i h
      have hcolon : c = ':' := by
        rw [hc, Bool.or_false, Bool.and_eq_true, beq_iff_eq] at h
        exact h.1
      exact Or.inr ⟨front, by rw [hcolon], hf'⟩
    · exact ih hf' _

theorem isDigit_of_endsAuthority {c : Char} (h : endsAuthority .web c = true) :
    c.isDigit = false := by
  simp only [endsAuthority, isSlash, Bool.or_eq_true, Bool.and_eq_true, beq_iff_eq] at h
  rcases h with ((rfl | ⟨rfl, -⟩) | rfl) | rfl <;> decide

/-- A port that is read: digits that are not too large, up to the end of the authority. -/
theorem takePort_eq_ok_iff {cs r : List Char} {port : Option Nat} :
    takePort cs = .ok (port, r) ↔
      port = Net.number? Net.decimal? 10 (cs.takeWhile Char.isDigit) ∧
      ¬port.any (65535 < ·) = true ∧ r = cs.dropWhile Char.isDigit ∧ AtEnd r := by
  unfold takePort
  simp only
  split
  · rename_i hlarge
    refine iff_of_false (fun h => by cases h) ?_
    rintro ⟨rfl, hport, -⟩
    exact hport hlarge
  · rename_i hsmall
    split
    · rename_i c after hafter
      rw [hafter]
      split
      · rename_i hc
        constructor
        · intro h
          cases h
          exact ⟨rfl, hsmall, rfl, by simpa [AtEnd] using hc⟩
        · rintro ⟨rfl, -, rfl, -⟩
          rfl
      · rename_i hc
        refine iff_of_false (fun h => by cases h) ?_
        rintro ⟨-, -, rfl, hend⟩
        exact hc (hend c rfl)
    · rename_i hafter
      rw [hafter]
      constructor
      · intro h
        cases h
        exact ⟨rfl, hsmall, rfl, atEnd_nil⟩
      · rintro ⟨rfl, -, rfl, -⟩
        rfl

/-- A port is all of what stands before the end of the authority. -/
theorem takePort_append_iff (hf : Unended front) (hr : AtEnd rest) {port : Option Nat}
    {r : List Char} :
    takePort (front ++ rest) = .ok (port, r) ↔
      (∀ c ∈ front, c.isDigit = true) ∧ r = rest ∧
      port = Net.number? Net.decimal? 10 front ∧ ¬port.any (65535 < ·) = true := by
  have hrest : rest.takeWhile Char.isDigit = [] ∧ rest.dropWhile Char.isDigit = rest := by
    cases rest with
    | nil => exact ⟨rfl, rfl⟩
    | cons c rest => simp [isDigit_of_endsAuthority (hr c rfl)]
  rw [takePort_eq_ok_iff]
  by_cases hdigits : ∀ c ∈ front, c.isDigit = true
  · rw [List.takeWhile_append_of_pos hdigits, List.dropWhile_append_of_pos hdigits, hrest.1,
      hrest.2, List.append_nil]
    constructor
    · rintro ⟨hport, hsmall, hr', -⟩
      exact ⟨hdigits, hr', hport, hsmall⟩
    · rintro ⟨-, hr', hport, hsmall⟩
      exact ⟨hport, hsmall, hr', hr' ▸ hr⟩
  · refine iff_of_false ?_ fun h => hdigits h.1
    rintro ⟨-, -, hafter, hend⟩
    cases hd : front.dropWhile Char.isDigit with
    | nil => exact hdigits (List.all_eq_true.mp (dropWhile_eq_nil_iff_all.mp hd))
    | cons c after =>
      -- What follows the digits would be in the authority and end it.
      rw [List.dropWhile_append, hd, List.isEmpty_cons, if_neg (by simp)] at hafter
      have hc : c ∈ front := (List.dropWhile_sublist _).mem (hd ▸ List.mem_cons_self)
      have := hend c (by rw [hafter]; rfl)
      rw [hf c hc] at this
      cases this

theorem portAndRest_append_iff (hopen : Unended front) (hr : AtEnd rest) (bracket : Bool)
    {port : Option Nat} {r : List Char} :
    portAndRest ((takeHost .web bracket front).2 ++ rest) = .ok (port, r) ↔
      r = rest ∧ portAndRest (takeHost .web bracket front).2 = .ok (port, []) := by
  rcases takeHost_snd hopen bracket with hnil | ⟨q, hq, hqopen⟩
  · rw [hnil, List.nil_append, portAndRest_of_ne (ne_colon_of_atEnd hr),
      portAndRest_of_ne (ne_colon_of_atEnd atEnd_nil)]
    simp [eq_comm, and_comm]
  · have hself := @takePort_append_iff q [] hqopen atEnd_nil port []
    rw [List.append_nil] at hself
    rw [hq, List.cons_append, portAndRest_colon, portAndRest_colon,
      takePort_append_iff hqopen hr, hself]
    simp [and_left_comm]

/-- What a web authority is read as does not depend on what follows its end. -/
theorem authority_append_iff (hf : Unended front) (hr : AtEnd rest) {host : Option Host}
    {port : Option Nat} {r : List Char} :
    authority .web (front ++ rest) = .ok (host, port, r) ↔
      r = rest ∧ authority .web front = .ok (host, port, []) := by
  have hopen := unended_afterUser hf
  have hself := cutUserinfo_snd hf atEnd_nil
  rw [List.append_nil, List.append_nil] at hself
  have hstart : ¬(afterUser front).head?.any (endsAuthority .web) = true := by
    cases hafter : afterUser front with
    | nil => simp
    | cons c cs => simp [hopen c (by simp [hafter])]
  rw [authority_web_eq_ok_iff, authority_web_eq_ok_iff, hself, cutUserinfo_snd hf hr,
    takeHost_append hopen hr, portAndRest_append_iff hopen hr]
  constructor
  · rintro ⟨-, hname, hhost, hrest, hport⟩
    exact ⟨hrest, fun h => hstart h.2, hname, hhost, hport⟩
  · rintro ⟨hrest, -, hname, hhost, hport⟩
    refine ⟨fun h => ?_, hname, hhost, hrest, hport⟩
    cases hafter : afterUser front with
    | nil => exact hname (by rw [hafter]; rfl)
    | cons c cs =>
      rw [hafter] at h hstart
      exact hstart h.2

/-! ## Gaps at the end -/

theorem isPlain_of_gap {g : Char} (hg : isGap g = true) {b : UInt8}
    (hb : b ∈ String.utf8EncodeChar g) : Percent.isPlain b := by
  have hlow : ∀ n ≤ 0x20, Percent.isPlain (UInt8.ofNat n) := by decide
  by_cases h : g.toNat ≤ 0x20
  · have hone : g.val.toNat ≤ 0x7F := Nat.le_trans h (by decide)
    simp only [String.utf8EncodeChar, if_pos hone, List.mem_singleton] at hb
    rw [hb]
    exact hlow _ h
  · refine Percent.isPlain_of_mem_encodeChar ?_ hb
    have hblank : isBlank g = true := by simpa [isGap, h] using hg
    simp only [isBlank, Bool.or_eq_true, Bool.and_eq_true, decide_eq_true_eq, beq_iff_eq] at hblank
    omega

/-- The characters of a text that ends in a gap end in it, if its escapes stand for characters. -/
theorem decode?_concat_gap (cs : List Char) {g : Char} (hg : isGap g = true) :
    Utf8.decode? (Percent.decode (Utf8.encode (cs ++ [g]))) =
      (Utf8.decode? (Percent.decode (Utf8.encode cs))).map (· ++ [g]) := by
  obtain ⟨y, ys, hcons, hy⟩ := Utf8.encodeChar_eq_cons g
  have hencode : Utf8.encode (cs ++ [g]) = Utf8.encode cs ++ String.utf8EncodeChar g := by
    simp [Utf8.encode]
  have hscan := Utf8.scan_encodeChar_append g []
  have hnil : Utf8.scan [] = [] := by rw [Utf8.scan]
  rw [List.append_nil, hcons, hnil] at hscan
  rw [hencode, Percent.decode_append _ fun b => isPlain_of_gap hg, hcons, Utf8.decode?,
    Utf8.scan_append _ hy, hscan, Utf8.decode?, List.mapM_append]
  cases (Utf8.scan (Percent.decode (Utf8.encode cs))).mapM id with
  | none => rfl
  | some name => simp

/-- No domain name ends in a gap. -/
theorem domain_concat_gap (cs : List Char) {g : Char} (hg : isGap g = true) :
    Domain.read? (Percent.decode (Utf8.encode (cs ++ [g]))) = none := by
  unfold Domain.read?
  rw [decode?_concat_gap cs hg]
  cases Utf8.decode? (Percent.decode (Utf8.encode cs)) with
  | none => rfl
  | some name =>
    have hmap : Domain.map? (name ++ [g]) = none ∨
        ∃ mapped, Domain.map? (name ++ [g]) = some mapped ∧
          mapped.any Domain.isForbidden = true := by
      unfold Domain.map?
      rw [List.mapM_append]
      cases name.mapM Domain.target? with
      | none => exact Or.inl rfl
      | some front =>
        cases htarget : Domain.target? g with
        | none => exact Or.inl (by simp [htarget])
        | some cs =>
          refine Or.inr ⟨(front ++ [cs]).flatten, by simp [htarget], ?_⟩
          rw [List.flatten_concat, List.any_append, any_isForbidden_of_gap hg htarget, Bool.or_true]
    simp only [Option.map_some, Option.bind_some]
    rcases hmap with hnone | ⟨mapped, hsome, hforbidden⟩
    · rw [hnone]
    · rw [hsome]
      simp only [hforbidden, if_true]

theorem ne_of_gap {g : Char} (hg : isGap g = true) :
    g ≠ ']' ∧ g ≠ '@' ∧ g ≠ ':' ∧ g.isDigit = false := by
  refine ⟨?_, ?_, ?_, ?_⟩
  · rintro rfl
    revert hg
    decide
  · rintro rfl
    revert hg
    decide
  · rintro rfl
    revert hg
    decide
  · cases hdigit : g.isDigit with
    | false => rfl
    | true =>
      have hrange : 0x30 ≤ g.toNat ∧ g.toNat ≤ 0x39 := by
        simpa [Char.isDigit, UInt32.le_iff_toNat_le] using hdigit
      simp only [isGap, isBlank, Bool.or_eq_true, Bool.and_eq_true, decide_eq_true_eq,
        beq_iff_eq] at hg
      omega

/-- No web host ends in a gap. -/
theorem host_concat_gap (cs : List Char) {g : Char} (hg : isGap g = true) (h : Host) :
    Host.parse (cs ++ [g]) ≠ .ok h := by
  intro hparse
  unfold Host.parse at hparse
  split at hparse
  · rename_i rest heq
    have hlast : (('[' :: rest).getLast?) = some g := by
      rw [← heq]
      simp
    split at hparse
    · rename_i hclosed
      rw [List.getLast?_cons, hclosed] at hlast
      exact (ne_of_gap hg).1 (by simpa using hlast.symm)
    · cases hparse
  · rw [domain_concat_gap cs hg] at hparse
    cases hparse

theorem takeHost_concat {cs : List Char} {g : Char} (hg : g ≠ ':') (hf : Unended (cs ++ [g]))
    (bracket : Bool) :
    takeHost .web bracket (cs ++ [g]) = (cs ++ [g], []) ∨
      ∃ name q, takeHost .web bracket (cs ++ [g]) = (name, ':' :: (q ++ [g])) := by
  induction cs generalizing bracket with
  | nil =>
    have hend := hf g (by simp)
    refine Or.inl ?_
    simp [takeHost, hg, hend]
  | cons c cs ih =>
    have hc := hf c (by simp)
    have hf' : Unended (cs ++ [g]) := fun d hd => hf d (by simp_all)
    rw [List.cons_append, takeHost]
    split
    · rename_i h
      have hcolon : c = ':' := by
        rw [hc, Bool.or_false, Bool.and_eq_true, beq_iff_eq] at h
        exact h.1
      exact Or.inr ⟨[], cs, by rw [hcolon]⟩
    · rcases ih hf' (if c == '[' then true else if c == ']' then false else bracket) with
        h | ⟨name, q, h⟩
      · exact Or.inl (by rw [h])
      · exact Or.inr ⟨c :: name, q, by rw [h]⟩

/-- No web authority ends in a gap. -/
theorem authority_concat_gap {cs : List Char} {g : Char} (hg : isGap g = true)
    (hf : Unended (cs ++ [g])) {r : Option Host × Option Nat × List Char} :
    authority .web (cs ++ [g]) ≠ .ok r := by
  obtain ⟨host, port, rest⟩ := r
  intro h
  obtain ⟨hbracket, hat, hcolon, hdigit⟩ := ne_of_gap hg
  obtain ⟨ds, hds⟩ := afterUser_concat cs hat
  have hopen := unended_afterUser hf
  have hcut := cutUserinfo_snd hf atEnd_nil
  rw [List.append_nil, List.append_nil, hds] at hcut
  rw [hds] at hopen
  obtain ⟨-, -, ⟨found, hfound, -⟩, hport⟩ := authority_web_eq_ok_iff.mp h
  rw [hcut] at hfound hport
  rcases takeHost_concat hcolon hopen false with htaken | ⟨name, q, htaken⟩
  · rw [htaken] at hfound
    exact host_concat_gap ds hg found hfound
  · rw [htaken, portAndRest_colon] at hport
    have hq : Unended (q ++ [g]) := by
      rcases takeHost_snd hopen false with hnil | ⟨r, hr, hropen⟩
      · rw [htaken] at hnil
        cases hnil
      · rw [htaken] at hr
        cases hr
        exact hropen
    rw [← List.append_nil (q ++ [g]), takePort_append_iff hq atEnd_nil] at hport
    have := hport.1 g (by simp)
    rw [hdigit] at this
    cases this

theorem endsAuthority_of_gap {c : Char} (hc : isGap c = true) : endsAuthority .web c = false := by
  refine Bool.eq_false_iff.mpr fun hend => ?_
  simp only [endsAuthority, isSlash, Bool.or_eq_true, Bool.and_eq_true, beq_iff_eq] at hend
  rcases hend with ((rfl | ⟨rfl, -⟩) | rfl) | rfl <;> exact absurd hc (by decide)

/-- Gaps and what follows them are no part of an authority that is read in front of them: they are
left behind it, with what it leaves by itself. -/
theorem exists_authority_of_gaps {cs gaps after : List Char} (hgaps : ∀ c ∈ gaps, isGap c = true)
    (hafter : AtEnd after) {host : Option Host} {port : Option Nat} {left : List Char}
    (h : authority .web (cs ++ (gaps ++ after)) = .ok (host, port, left)) :
    ∃ rest, authority .web cs = .ok (host, port, rest) ∧ left = rest ++ (gaps ++ after) := by
  obtain ⟨front, rest, rfl, hfront, hrest⟩ := exists_authority cs
  cases rest with
  | nil =>
    -- The authority reaches up to the gaps, and none ends in one.
    rw [List.append_nil, ← List.append_assoc] at h
    have hopen : Unended (front ++ gaps) := fun c hc =>
      (List.mem_append.mp hc).elim (hfront c) fun hc => endsAuthority_of_gap (hgaps c hc)
    obtain ⟨rfl, hread⟩ := (authority_append_iff hopen hafter).mp h
    rcases List.eq_nil_or_concat gaps with rfl | ⟨gaps, g, rfl⟩
    · exact ⟨[], by rw [List.append_nil] at hread ⊢; exact hread, rfl⟩
    · rw [List.concat_eq_append, ← List.append_assoc] at hread hopen
      have hg : isGap g = true := hgaps g (by simp)
      exact absurd hread (authority_concat_gap hg hopen)
  | cons c rest =>
    have hend : AtEnd (c :: rest ++ (gaps ++ after)) := hrest
    rw [List.append_assoc] at h
    obtain ⟨rfl, hread⟩ := (authority_append_iff hfront hend).mp h
    exact ⟨c :: rest, (authority_append_iff hfront hrest).mpr ⟨rfl, hread⟩, rfl⟩

end AffinityGate.Url
