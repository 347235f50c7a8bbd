import CloudAuth.FileTree
import CloudAuth.Selection
import CloudAuth.Proofs.Issuance
import CloudAuth.Proofs.TokenCall
import CloudAuth.Proofs.Run
import CloudAuth.Proofs.TokenReuse
import CloudAuth.Proofs.Usage
import CloudAuth.Proofs.FailedCall
import CloudAuth.Proofs.Construction
import CloudAuth.Proofs.RequestForm
import CloudAuth.Proofs.BigEndian
import CloudAuth.Proofs.ElementEncoding
import CloudAuth.Proofs.KeyReload
import CloudAuth.Proofs.BundleContents
import CloudAuth.Proofs.BagOrder
import CloudAuth.Proofs.SigningRoom
import CloudAuth.Proofs.TokenFailure
import CloudAuth.Proofs.Resolution
import CloudAuth.Proofs.ResolutionFailure
import CloudAuth.Proofs.Preference
import CloudAuth.Proofs.Masking
import CloudAuth.Proofs.SecretIndependence
import CloudAuth.Proofs.Base64Reading
import CloudAuth.Proofs.AssertionReading
import CloudAuth.Proofs.BundleSigning
import CloudAuth.Proofs.AssertionCheck
import CloudAuth.Proofs.SettingsReading
import CloudAuth.Proofs.AssertionFreshness
import CloudAuth.Proofs.Lifetime
import CloudAuth.Proofs.ReuseWindow
import CloudAuth.Proofs.BearerToken
import CloudAuth.Proofs.TenantNormalization
import CloudAuth.Proofs.Pairing
import CloudAuth.Proofs.BundleRefusal
import CloudAuth.Proofs.Decoding
import CloudAuth.Proofs.PathNormalization
import CloudAuth.Proofs.IntegerSpelling
import CloudAuth.Proofs.PathSpelling
import CloudAuth.Proofs.TokenAddress
import CloudAuth.Proofs.LowerCase
import CloudAuth.Proofs.CloudNames
import CloudAuth.Proofs.MessageText
import CloudAuth.Proofs.TextSettings
import CloudAuth.Proofs.Base64Bits
import CloudAuth.Proofs.ThumbprintReading
import CloudAuth.Proofs.HeaderFrame
import CloudAuth.Proofs.RequestHook
import CloudAuth.Proofs.TextEncoding
