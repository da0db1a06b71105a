import AffinityGate.Config.Model
import AffinityGate.Storage.Files
import AffinityGate.Text.Pem
import AffinityGate.Text.Quoted

/-!
# Server credentials

A gateway that terminates TLS has a certificate chain and a private key, each from a PEM file.  The
certificate file is read first, then the key, and an empty chain is noticed last.
-/

namespace AffinityGate

/-- Why there are no credentials. -/
inductive CredentialsError
  | directory
  | pem (fault : Pem.Fault)
  | noKey
  | noCertificate
  deriving DecidableEq, Repr

/-- Bytes as text, for a message. -/
def CredentialsError.shown (bs : Bytes) : String :=
  Quoted.text (String.ofList (Utf8.lossy bs))

/-- The wording of an error. -/
def CredentialsError.message : CredentialsError → String
  | .directory => "Is a directory (os error 21)"
  | .pem (.opening line) => "illegal section start: " ++ shown line
  | .pem (.unclosed label) => "section end " ++ shown label ++ " missing"
  | .pem (.character b) => "InvalidCharacter(" ++ toString b.toNat ++ ")"
  | .pem .earlyPadding => "PrematurePadding"
  | .pem .padding => "InvalidPadding"
  | .noKey => "No PKCS#8 private key found in key file"
  | .noCertificate => "peer sent no certificates"

/-- A certificate chain, the server's own certificate first, and the key of that one. -/
structure Credentials where
  chain : List Bytes
  key : Bytes
  deriving DecidableEq, Repr

namespace Credentials

/-- The contents of a configured file. -/
def contents (files : Files) (path : String) : Except CredentialsError Bytes :=
  match files.contents? path with
  | some bs => .ok bs
  | none => .error .directory

/-- Reads the configured files. -/
def read (files : Files) (tls : Config.Tls) : Except CredentialsError Credentials := do
  let chain ← (Pem.all Pem.certificate (← contents files tls.certPath)).mapError .pem
  match ← (Pem.first Pem.privateKey (← contents files tls.keyPath)).mapError .pem with
  | none => .error .noKey
  | some key => if chain.isEmpty then .error .noCertificate else return ⟨chain, key⟩

end Credentials
end AffinityGate
