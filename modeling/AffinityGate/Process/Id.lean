import AffinityGate.Text.Blank
import AffinityGate.Text.Utf8

/-!
# Process ids

A process id is a non-empty text without surrounding blanks.
-/

namespace AffinityGate

/-- An opaque name of a process: non-empty, without surrounding blanks. -/
structure ProcessId where
  text : String
  trimmed : trimText text = text
  inhabited : text ≠ ""
  deriving DecidableEq

namespace ProcessId

/-- Trims a raw token; a blank one names no process. -/
def ofText? (raw : String) : Option ProcessId :=
  if h : trimText raw = "" then none else some ⟨trimText raw, trimText_trimText raw, h⟩

theorem ofText?_text (p : ProcessId) : ofText? p.text = some p := by
  have h : trimText p.text ≠ "" := by rw [p.trimmed]; exact p.inhabited
  simp [ofText?, h]
  cases p
  simpa using ‹_›

theorem text_of_ofText? {raw : String} {p : ProcessId} (h : ofText? raw = some p) :
    p.text = trimText raw := by
  unfold ofText? at h
  split at h
  · cases h
  · cases h
    rfl

end ProcessId
end AffinityGate
