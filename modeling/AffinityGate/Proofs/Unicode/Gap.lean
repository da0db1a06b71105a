import AffinityGate.Text.Blank
import AffinityGate.Url.Domain

/-!
# Gaps in domain names

A gap is a control, a space or any other blank.  No domain name holds one: a blank beyond ASCII is
disallowed or stands for a space, and a space is forbidden as the controls are.
-/

namespace AffinityGate.Unicode

open Url

/-- Controls, spaces and other blanks. -/
def isGap (c : Char) : Bool :=
  c.toNat ≤ 0x20 || isBlank c

/-! ## The tables at blanks -/

/-- The code points and targets of words, from a position on. -/
def entries : Nat → List (List Char) → List (Nat × List Nat)
  | _, [] => []
  | p, w :: ws =>
    match pieces ':' w with
    | [gap, ts] =>
      let n := p + hexNumber gap
      (n, (pieces '+' ts).map hexNumber) :: entries (n + 1) ws
    | _ => entries p ws

theorem targets_eq (lines : List String) : targets lines = entries 0 (words lines) := by
  unfold targets
  suffices ∀ (ws : List (List Char)) (s : Nat × List (Nat × List Nat)), (ws.foldl
      (fun (s : Nat × List (Nat × List Nat)) w =>
        match pieces ':' w with
        | [gap, ts] =>
          let n := s.1 + hexNumber gap
          (n + 1, (n, (pieces '+' ts).map hexNumber) :: s.2)
        | _ => s)
      s).2.reverse = s.2.reverse ++ entries s.1 ws by
    exact this (words lines) (0, [])
  intro ws
  induction ws with
  | nil => intro s; simp [entries]
  | cons w ws ih =>
    intro s
    rw [List.foldl_cons, ih]
    rw [entries]
    split
    · simp
    · rfl

/-- A list in groups of five. -/
def fives : List Nat → List (List Nat)
  | a :: b :: c :: d :: e :: rest => [a, b, c, d, e] :: fives rest
  | [] => []
  | xs => [xs]

theorem groups_eq : ∀ xs : List Nat, groups 5 xs = fives xs
  | [] => rfl
  | [_] => by simp [groups, fives, List.range_succ]
  | [_, _] => by simp [groups, fives, List.range_succ]
  | [_, _, _] => by simp [groups, fives, List.range_succ]
  | [_, _, _, _] => by simp [groups, fives, List.range_succ]
  | a :: b :: c :: d :: e :: rest => by
    have hcount : ((a :: b :: c :: d :: e :: rest).length + 5 - 1) / 5 =
        (rest.length + 5 - 1) / 5 + 1 := by
      simp only [List.length_cons]
      omega
    rw [groups, hcount, List.range_succ_eq_map, List.map_cons, List.map_map, fives,
      ← groups_eq rest, groups]
    refine congrArg _ (List.map_congr_left fun k _ => ?_)
    have hdrop : (k + 1) * 5 = k * 5 + 5 := by omega
    simp only [Function.comp, Nat.succ_eq_add_one, hdrop]
    rw [Nat.add_comm, ← List.drop_drop]
    rfl

theorem disallowed_blanks :
    [0x85, 0x1680, 0x2028, 0x2029].all fun n => disallowedChars.contains (Char.ofNat n) := by
  unfold disallowedChars CharSet.ofLines hexNumbers words
  simp only [List.flatMap_cons, List.flatMap_nil]
  repeat rw [String.toList_ofList]
  decide +kernel

/-- The blanks that stand for a space and are mapped in a run. -/
def runSpaces : List Nat := (List.range 11).map (0x2000 + ·)

/-- The other blanks that stand for a space. -/
def singleSpaces : List Nat := [0xA0, 0x202F, 0x205F, 0x3000]

theorem not_ignored_spaces :
    (runSpaces ++ singleSpaces).all fun n => !ignoredChars.contains (Char.ofNat n) := by
  unfold ignoredChars CharSet.ofLines hexNumbers words
  simp only [List.flatMap_cons, List.flatMap_nil]
  repeat rw [String.toList_ofList]
  decide +kernel

theorem mappedRuns_spaces :
    (runSpaces.all fun n => mappedRuns.findSome? (runTarget? n) == some 0x20) ∧
    singleSpaces.all fun n => (mappedRuns.findSome? (runTarget? n)).isNone := by
  unfold mappedRuns hexNumbers words
  simp only [List.flatMap_cons, List.flatMap_nil, groups_eq]
  repeat rw [String.toList_ofList]
  decide +kernel

theorem mappedSingly_spaces :
    singleSpaces.all fun n => (mappedSingly.find? (·.1 == n)).any fun t => t.2.contains 0x20 := by
  unfold mappedSingly
  rw [targets_eq]
  unfold words
  -- The lines up to U+3000 are taken apart; the others stay as they are and are not read.
  iterate 71 rw [List.flatMap_cons]
  iterate 71 rw [String.toList_ofList]
  decide +kernel

/-! ## Gaps are not mapped to anything that a domain may hold -/

theorem blank_cases {c : Char} (h : isBlank c = true) (hc : 0x20 < c.toNat) :
    c.toNat ∈ [0x85, 0x1680, 0x2028, 0x2029] ∨ c.toNat ∈ runSpaces ∨ c.toNat ∈ singleSpaces := by
  have hrun : 0x2000 ≤ c.toNat → c.toNat ≤ 0x200A → c.toNat ∈ runSpaces := fun h₁ h₂ =>
    List.mem_map.mpr ⟨c.toNat - 0x2000, List.mem_range.mpr (by omega), by omega⟩
  simp only [isBlank, Bool.or_eq_true, Bool.and_eq_true, decide_eq_true_eq, beq_iff_eq] at h
  simp only [singleSpaces, List.mem_cons, List.not_mem_nil, or_false]
  by_cases hin : 0x2000 ≤ c.toNat ∧ c.toNat ≤ 0x200A
  · exact Or.inr (Or.inl (hrun hin.1 hin.2))
  · omega

/-- A blank beyond ASCII is disallowed, or stands for a space. -/
theorem status_of_blank {c : Char} (h : isBlank c = true) (hc : 0x20 < c.toNat) :
    DomainStatus.of c = .disallowed ∨ ∃ cs, DomainStatus.of c = .mapped cs ∧ ' ' ∈ cs := by
  have hwide : ¬c.toNat < 0x80 := by
    simp only [isBlank, Bool.or_eq_true, Bool.and_eq_true, decide_eq_true_eq, beq_iff_eq] at h
    omega
  have hof : Char.ofNat c.toNat = c := Char.ofNat_toNat c
  unfold DomainStatus.of
  rw [if_neg hwide]
  by_cases hdisallowed : disallowedChars.contains c = true
  · exact Or.inl (if_pos hdisallowed)
  · rw [if_neg hdisallowed]
    have hspace : c.toNat ∈ runSpaces ∨ c.toNat ∈ singleSpaces := by
      refine (blank_cases h hc).resolve_left fun hmem => hdisallowed ?_
      rw [← hof]
      exact List.all_eq_true.mp disallowed_blanks _ hmem
    have hignored : ignoredChars.contains c = false := by
      have := List.all_eq_true.mp not_ignored_spaces _ (List.mem_append.mpr hspace)
      simpa [hof] using this
    rw [if_neg (by simp [hignored])]
    refine Or.inr ?_
    rcases hspace with hmem | hmem
    · have hrun := List.all_eq_true.mp mappedRuns_spaces.1 _ hmem
      rw [beq_iff_eq] at hrun
      rw [hrun]
      exact ⟨_, rfl, by decide⟩
    · have hrun := List.all_eq_true.mp mappedRuns_spaces.2 _ hmem
      rw [Option.isNone_iff_eq_none] at hrun
      rw [hrun]
      have hsingle := List.all_eq_true.mp mappedSingly_spaces _ hmem
      cases hfind : mappedSingly.find? (·.1 == c.toNat) with
      | none =>
        rw [hfind] at hsingle
        cases hsingle
      | some t =>
        rw [hfind] at hsingle
        exact ⟨_, rfl, List.mem_map.mpr ⟨0x20, by simpa using hsingle, rfl⟩⟩

/-- What a gap is mapped to, if to anything, holds a forbidden character. -/
theorem any_isForbidden_of_gap {c : Char} (h : isGap c = true) {cs : List Char}
    (hcs : Domain.target? c = some cs) : cs.any Domain.isForbidden = true := by
  unfold isGap at h
  by_cases hc : c.toNat ≤ 0x20
  · have hupper : c.isUpper = false := by
      have hlow : ¬65 ≤ c.toNat := by omega
      exact decide_eq_false fun h => hlow h.1
    have hstatus : DomainStatus.of c = .valid := by
      rw [DomainStatus.of, if_pos (by omega), hupper]
      rfl
    rw [Domain.target?, hstatus] at hcs
    cases hcs
    simp [Domain.isForbidden, hc]
  · have hblank : isBlank c = true := by simpa [hc] using h
    rcases status_of_blank hblank (by omega) with hstatus | ⟨ds, hstatus, hspace⟩
    · rw [Domain.target?, hstatus] at hcs
      cases hcs
    · rw [Domain.target?, hstatus] at hcs
      cases hcs
      exact List.any_eq_true.mpr ⟨' ', hspace, by decide⟩

end AffinityGate.Unicode
