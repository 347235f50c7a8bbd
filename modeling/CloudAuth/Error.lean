import CloudAuth.FileSystem
import CloudAuth.Json.Display
import CloudAuth.Number.Literal

/-!
# Errors

What can go wrong, by cause, and the message of each cause. Errors of configuration, of bundles and of
token requests are the library's own. A fault is an error that none of these stands for: a value of
the wrong type, a number that is none, key material that cannot be used.
-/

namespace CloudAuth

/-- The ways to authenticate, in order of preference. -/
inductive AuthMethod where
  /-- An assertion signed with the key of a certificate. -/
  | clientCertificate
  /-- A secret shared with the directory. -/
  | clientSecret
  /-- The session of the command line. -/
  | commandLine
  deriving DecidableEq, Repr

/-- The name of a method. -/
def AuthMethod.name : AuthMethod → String
  | clientCertificate => "client_certificate"
  | clientSecret => "client_secret"
  | commandLine => "azure_cli"

/-- Why no source of tokens could be set up. -/
inductive SetupError where
  /-- No cloud has this name. -/
  | unknownCloud (name : Text)
  /-- A key or a certificate is missing. -/
  | missingMaterial
  /-- The secret is missing. -/
  | missingSecret
  /-- The command line takes no such tenant. -/
  | invalidTenant (tenant : Text)
  deriving DecidableEq, Repr

/-- Why a bundle gave no credential. -/
inductive DecodeError where
  /-- The file could not be read. -/
  | unreadable (path : Path) (failure : ReadFailure)
  /-- The bundle could not be opened. -/
  | corrupt (source : Text)
  /-- The bundle holds no key. -/
  | noKey (source : Text)
  /-- The bundle holds no certificate of its key. -/
  | noCertificate (source : Text)
  /-- The key is no RSA key. -/
  | unsupportedKey (kind : String) (source : Text)
  deriving DecidableEq, Repr

/-- Why a selected method failed. -/
inductive MethodError where
  /-- The source could not be set up. -/
  | setup (e : SetupError)
  /-- The bundle gave no credential. -/
  | decode (e : DecodeError)
  deriving DecidableEq, Repr

/-- An error of the configuration. -/
inductive ConfigurationError where
  /-- A source could not be set up. -/
  | setup (e : SetupError)
  /-- No method is usable. -/
  | noMethod
  /-- The selected method failed. -/
  | methodFailed (method : AuthMethod) (cause : MethodError)
  deriving DecidableEq, Repr

/-- Why no token was obtained. -/
inductive TokenError where
  /-- The request failed on the way, for a reason of this kind. -/
  | unreachable (url : Text) (kind : String) (message : Text)
  /-- The response has an error status. -/
  | rejected (url : Text) (status : Int) (detail : Json)
  /-- The response holds no token. -/
  | noToken (url : Text)
  /-- The command line gave no token, for a reason of this kind. -/
  | commandLine (scopes : List Text) (kind : String) (message : Text)
  deriving Repr

/-- Any other error. -/
inductive Fault where
  /-- A value that names no API. -/
  | unknownApi (v : Json)
  /-- A value used where only a member of a fixed choice has a value of its own. -/
  | noValue (v : Json)
  /-- A payload that is no object. -/
  | notAnObject (v : Json)
  /-- A value that is no number. -/
  | notANumber (v : Json)
  /-- A text that is no integer. -/
  | badLiteral (t : Text) (e : LiteralError)
  /-- An integer of too many digits. -/
  | tooManyDigits (digits : Nat)
  /-- An infinity where an integer is needed. -/
  | infiniteNumber
  /-- A number that is none where an integer is needed. -/
  | undefinedNumber
  /-- A text that has no encoded form. -/
  | unencodable (e : EncodeError)
  /-- A path with the character zero. -/
  | nulInPath
  /-- A key or certificate that is missing. -/
  | missingMaterial
  /-- A key that is encrypted. -/
  | encryptedKey
  /-- Bytes that are no key or no certificate. -/
  | malformedMaterial
  /-- A key that is no RSA key. -/
  | foreignKey
  /-- A key that is too short to sign with. -/
  | shortKey
  /-- An operation that the source does not offer. -/
  | notOffered (operation : String)
  /-- An error of this kind from outside, passed on as it came. -/
  | foreign (kind : String) (message : Text)
  deriving Repr

/-- The fault of a path that names no file. -/
def NameProblem.fault : NameProblem → Fault
  | unencodable e => .unencodable e
  | nul => .nulInPath

/-- What can go wrong. -/
inductive Error where
  /-- An error of the configuration. -/
  | configuration (e : ConfigurationError)
  /-- An error of a bundle. -/
  | decode (e : DecodeError)
  /-- An error of a token request. -/
  | token (e : TokenError)
  /-- Any other error. -/
  | fault (e : Fault)
  deriving Repr

/-- The names of the known clouds, in the order of the alphabet. -/
def cloudNames : String := "canary, china, germany, global, usgovernmentl4, usgovernmentl5"

namespace SetupError

/-- What the command line says about a tenant that it does not take. -/
def tenantAdvice : String :=
  "Invalid tenant ID provided. You can locate your tenant ID by following the instructions here: " ++
    "https://learn.microsoft.com/partner-center/find-ids-and-domain-names"

/-- The message of the error. -/
def message : SetupError → String
  | unknownCloud name => "Unknown environment " ++ Text.quoted name ++ "; expected one of: " ++ cloudNames
  | missingMaterial => "assertion authentication requires a private key and certificate"
  | missingSecret => "secret authentication requires a client secret"
  | invalidTenant tenant => "invalid Azure CLI tenant " ++ Text.quoted tenant ++ ": " ++ tenantAdvice

end SetupError

namespace DecodeError

/-- The message of the error. -/
def message : DecodeError → String
  | unreadable path failure =>
    "could not read pkcs12 store at " ++ Text.quoted path.text ++ ": " ++ failure.message path.text
  | corrupt source =>
    "could not decode pkcs12 credential store " ++ Text.quoted source ++
      ": invalid password or corrupt bundle"
  | noKey source => "no private key found in pkcs12 store " ++ Text.quoted source
  | noCertificate source => "no certificate found in pkcs12 store " ++ Text.quoted source
  | unsupportedKey kind source =>
    "unsupported non-rsa key (" ++ kind ++ ") was found in pkcs12 store " ++ Text.quoted source

/-- The name of the error's kind. -/
def kindName : DecodeError → String
  | unsupportedKey _ _ => "UnsupportedKeyError"
  | _ => "DecodeError"

/-- The kind of the error that this one was raised from, if there is one. -/
def cause? : DecodeError → Option String
  | unreadable _ failure => some failure.kindName
  | corrupt _ => some "ValueError"
  | _ => none

end DecodeError

namespace MethodError

/-- The message of the error. -/
def message : MethodError → String
  | setup e => e.message
  | decode e => e.message

/-- The name of the error's kind. -/
def kindName : MethodError → String
  | setup _ => "ConfigurationError"
  | decode e => e.kindName

end MethodError

namespace ConfigurationError

/-- The message of the error. -/
def message : ConfigurationError → String
  | setup e => e.message
  | noMethod => "no Authorizer could be configured, please check your configuration"
  | methodFailed method cause =>
    "could not configure " ++ method.name ++ " Authorizer: " ++ cause.message

/-- The kind of the error that this one was raised from, if there is one. -/
def cause? : ConfigurationError → Option String
  | setup (.invalidTenant _) => some "ValueError"
  | methodFailed _ cause => some cause.kindName
  | _ => none

end ConfigurationError

namespace TokenError

/-- What the command line says when it fails without a message. -/
def emptyReply : String := "Operation returned an invalid status 'None'"

/-- The message of the error. -/
def message : TokenError → Text
  | unreachable url _ message => "token request to " ++ url ++ " failed: " ++ message
  | rejected url status detail =>
    "token request to " ++ url ++ " failed with HTTP " ++ Decimal.intText status ++ ": " ++ detail.display
  | noToken url => "token response from " ++ url ++ " did not contain an access_token"
  | commandLine scopes _ message =>
    "could not obtain a token from Azure CLI for " ++ List.intercalate ", " scopes ++ ": " ++
      if message.isEmpty then Text.ofString emptyReply else message

/-- The kind of the error that this one was raised from, if there is one. -/
def cause? : TokenError → Option String
  | unreachable _ kind _ => some kind
  | commandLine _ kind _ => some kind
  | _ => none

end TokenError

namespace Fault

/-- The message that an object of some kind has no such part. -/
def noPart (kind part : String) : String := "'" ++ kind ++ "' object has no attribute '" ++ part ++ "'"

/-- The message of the fault. Faults of key material have none. -/
def message? : Fault → Option Text
  | unknownApi v => some ("Unknown API: " ++ String.ofList v.notationChars : String)
  | noValue v => some (noPart v.kindName "value")
  | notAnObject v => some (noPart v.kindName "get")
  | notANumber v =>
    some ("int() argument must be a string, a bytes-like object or a real number, not '" ++ v.kindName ++
      "'" : String)
  | badLiteral t e => some (e.message t)
  | tooManyDigits digits => some ((LiteralError.tooLong digits).message [])
  | infiniteNumber => some "cannot convert float infinity to integer"
  | undefinedNumber => some "cannot convert float NaN to integer"
  | unencodable e => some e.message
  | nulInPath => some "embedded null byte"
  | notOffered operation => some (noPart "AzureCliTokenSource" operation)
  | foreign _ message => some message
  | missingMaterial | encryptedKey | malformedMaterial | foreignKey | shortKey => none

/-- The name of the fault's kind. -/
def kindName : Fault → String
  | unknownApi _ | badLiteral _ _ | tooManyDigits _ | undefinedNumber | nulInPath | malformedMaterial
  | shortKey => "ValueError"
  | noValue _ | notAnObject _ | notOffered _ => "AttributeError"
  | notANumber _ | missingMaterial | encryptedKey | foreignKey => "TypeError"
  | infiniteNumber => "OverflowError"
  | unencodable _ => "UnicodeEncodeError"
  | foreign kind _ => kind

end Fault

namespace Error

/-- The message of the error, if it has one. -/
def message? : Error → Option Text
  | configuration e => some e.message
  | decode e => some e.message
  | token e => some e.message
  | fault e => e.message?

/-- The name of the error's kind. -/
def kindName : Error → String
  | configuration _ => "ConfigurationError"
  | decode e => e.kindName
  | token _ => "TokenError"
  | fault e => e.kindName

/-- The kind of the error that this one was raised from, if there is one. -/
def cause? : Error → Option String
  | configuration e => e.cause?
  | decode e => e.cause?
  | token e => e.cause?
  | fault _ => none

end Error

end CloudAuth
