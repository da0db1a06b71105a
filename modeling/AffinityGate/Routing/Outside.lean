import AffinityGate.Process.Id
import AffinityGate.Routing.Observation
import AffinityGate.Time.Duration

/-!
# Hosts, registry and sink as the gateway meets them

Outside parties are arbitrary: a state of unknown type, and for each call a reaction, which comes
after some milliseconds or never, and a new state.  Statements about the gateway hold for all of
them.
-/

namespace AffinityGate

/-- How a party reacts to a call. -/
inductive Reaction (α : Type)
  | never
  | after (millis : Nat) (answer : α)
  deriving Repr

/-- Waits at most `limit` milliseconds; an answer at the limit still counts.  Returns the answer,
if it came, and the time waited. -/
def Reaction.within {α : Type} (limit : Nat) : Reaction α → Option α × Nat
  | .never => (none, limit)
  | .after millis a => if millis ≤ limit then (some a, millis) else (none, limit)

theorem Reaction.within_snd_le {α : Type} (limit : Nat) (r : Reaction α) :
    (r.within limit).2 ≤ limit := by
  cases r with
  | never => exact Nat.le_refl _
  | after millis a =>
    by_cases h : millis ≤ limit
    · simp [within, h]
    · simp [within, h]

/-- Why a host was not reached.  A host that answers was reached, whatever it answers. -/
inductive ClientError
  | connection (text : String)
  | timeout (limit : Duration)
  | invalidRequest (text : String)
  deriving DecidableEq, Repr

namespace ClientError

/-- The wording of an error. -/
def message : ClientError → String
  | .connection t => "Connection error: " ++ t
  | .timeout d => "Timeout error after " ++ d.text
  | .invalidRequest t => "Invalid request: " ++ t

/-- Whether a host took too long. -/
def isTimeout : ClientError → Bool
  | .timeout _ => true
  | _ => false

end ClientError

/-- Why a registry did not answer. -/
inductive RegistryError
  | request (text : String)
  | status (code : Nat)
  | malformed (text : String)
  deriving DecidableEq, Repr

/-- The wording of an error. -/
def RegistryError.message : RegistryError → String
  | .request t => "Registry request failed: " ++ t
  | .status n => "Registry returned status " ++ toString n
  | .malformed t => "Malformed registry response: " ++ t

/-- The parties around a gateway: hosts, owner registry and outcome sink. -/
structure Outside (σ : Type) where
  serve : Http.Request → σ → Reaction (Except ClientError Http.Response) × σ
  owner : ProcessId → σ → Reaction (Except RegistryError (Option String)) × σ
  accepts : Outcome → Bool

end AffinityGate
