import CloudAuth.Error
import CloudAuth.Platform
import CloudAuth.Trace

/-!
# Credentials

A credential is an RSA key with the certificate of its public half. It comes out of a bundle: the key
is the first one there, and the certificate is the first one that carries its public key. The password
of a bundle is encoded before the bundle is opened, and a password that cannot be encoded is an error of
another kind than a bundle that cannot be opened.
-/

namespace CloudAuth

/-- A key with its certificate, in their written forms. -/
structure Credential where
  /-- The RSA key. -/
  privateKey : Bytes
  /-- The certificate. -/
  certificate : Bytes
  deriving DecidableEq, Repr

/-- A path as it is given: as a text, or in normal form already. -/
inductive GivenPath where
  /-- A text. -/
  | text (t : Text)
  /-- A path in normal form. -/
  | path (p : Path)
  deriving DecidableEq, Repr

/-- The normal form of a path that is given. -/
def GivenPath.normal : GivenPath → Path
  | text t => Path.ofText t
  | path p => p

namespace Credential

/-- What messages call a bundle that was not read from a file. -/
def unnamedSource : Text := "<bytes>"

/-- The first certificate that carries a public key. -/
def leaf? (key : PublicKey) (certificates : List Certificate) : Option Certificate :=
  certificates.find? fun certificate => certificate.publicKey == some key

/-- The credential in the contents of a bundle, which messages call `source`. A missing key is reported
before a missing certificate, and that before a key of another kind. -/
def ofContents (source : Text) (contents : BundleContents) : Except DecodeError Credential :=
  match contents.key with
  | none => .error (.noKey source)
  | some key =>
    match leaf? key.publicKey contents.certificates with
    | none => .error (.noCertificate source)
    | some certificate =>
      match key with
      | .rsa key => .ok ⟨key.bytes, certificate.bytes⟩
      | key => .error (.unsupportedKey key.kindName source)

/-- The secret of a password. An empty password is none. -/
def secretOf : Option Text → Except EncodeError (Option Bytes)
  | none => .ok none
  | some password => if password.isEmpty then .ok none else password.encode.map some

/-- The credential in a bundle that is opened with a password. -/
def decode (openBundle : BundleReader) (data : Bytes) (password : Option Text) (source : Text) :
    Except Error Credential :=
  match secretOf password with
  | .error e => .error (.fault (.unencodable e))
  | .ok secret =>
    match openBundle data secret with
    | none => .error (.decode (.corrupt source))
    | some contents => (ofContents source contents).mapError Error.decode

/-- The record that a bundle is opened. -/
def decodingRecord (path : Path) : LogRecord :=
  ⟨.debug, "graphauth.certificate", "Decoding pkcs12 store " ++ path.text⟩

/-- The credential in the bundle at a path. A path that names no file is not even tried. -/
def load (platform : Platform) (given : GivenPath) (password : Option Text) :
    Except Error Credential × Trace :=
  let path := given.normal
  match path.fileName with
  | .error problem => (.error (.fault problem.fault), [])
  | .ok name =>
    match platform.readFile name with
    | .error failure => (.error (.decode (.unreadable path failure)), [.fileRead path])
    | .ok data =>
      (decode platform.openBundle data password path.text, [.fileRead path, .log (decodingRecord path)])

end Credential

end CloudAuth
