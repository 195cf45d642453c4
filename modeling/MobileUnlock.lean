import MobileUnlock.Lib.BufferProg
import MobileUnlock.Lib.Bytes
import MobileUnlock.Lib.Dart
import MobileUnlock.Lib.DartConvert
import MobileUnlock.Lib.DartEncode
import MobileUnlock.Lib.FixedWindow
import MobileUnlock.Lib.Framing
import MobileUnlock.Lib.Keyed
import MobileUnlock.Lib.LinkedHashMap
import MobileUnlock.Lib.Machine
import MobileUnlock.Lib.Matching
import MobileUnlock.Lib.Since
import MobileUnlock.Lib.SlotTable
import MobileUnlock.Lib.Win32
import MobileUnlock.Protocol.Types
import MobileUnlock.Protocol.SignedMessage
import MobileUnlock.Ipc.SecureIPC
import MobileUnlock.Configuration.ConfigurationManager
import MobileUnlock.Configuration.SettingsStore
import MobileUnlock.Crypto.CryptoManager
import MobileUnlock.Crypto.SpkiReader
import MobileUnlock.Network.MdnsResponder
import MobileUnlock.Network.NetworkEngine
import MobileUnlock.Network.RateLimit
import MobileUnlock.Network.SessionCleanup
import MobileUnlock.Network.TlsContext
import MobileUnlock.Network.TlsSession
import MobileUnlock.Pairing.DeviceIdentity
import MobileUnlock.Pairing.DeviceRegistry
import MobileUnlock.Pairing.PairingManager
import MobileUnlock.Pairing.SasPin
import MobileUnlock.Authentication.AuthenticationManager
import MobileUnlock.Lsa.LsaPackage
import MobileUnlock.Lsa.LogonUser
import MobileUnlock.CredentialProvider.MobileUnlockCredential
import MobileUnlock.CredentialProvider.ProductionIpcFactory
import MobileUnlock.CredentialProvider.ComServer
import MobileUnlock.Service.MobileUnlockService
import MobileUnlock.Service.ServiceMachine
import MobileUnlock.Service.SharedRegistry
import MobileUnlock.Service.UserSessionAgent
import MobileUnlock.Service.UnlockSystem
import MobileUnlock.Android.CanonicalSignedMessage
import MobileUnlock.Android.AuthenticationService
import MobileUnlock.Android.WiFiTransport
import MobileUnlock.Android.WiFiConnection
import MobileUnlock.Android.PairingService
import MobileUnlock.Service.PhoneExchange
import MobileUnlock.Android.WiFiCallback
import MobileUnlock.Android.MdnsDiscovery
import MobileUnlock.Android.PairingModels
import MobileUnlock.Android.DerToP1363Converter
import MobileUnlock.Network.DiscoveryNetwork
import MobileUnlock.Proofs.Codec
import MobileUnlock.Proofs.StreamFraming
import MobileUnlock.Proofs.TlsStream
import MobileUnlock.Proofs.DeviceIdentity
import MobileUnlock.Proofs.DeviceRegistry
import MobileUnlock.Proofs.Authentication
import MobileUnlock.Proofs.ChallengeUse
import MobileUnlock.Proofs.Lockout
import MobileUnlock.Proofs.Pairing
import MobileUnlock.Proofs.PinSoundness
import MobileUnlock.Proofs.DeviceLimit
import MobileUnlock.Proofs.ActivePairing
import MobileUnlock.Proofs.LsaLogon
import MobileUnlock.Proofs.LockAuthorization
import MobileUnlock.Proofs.LockExchange
import MobileUnlock.Proofs.LockRouting
import MobileUnlock.Proofs.LockReport
import MobileUnlock.Proofs.Revocation
import MobileUnlock.Proofs.RegistryFrame
import MobileUnlock.Proofs.DeviceSeparation
import MobileUnlock.Proofs.LogonName
import MobileUnlock.Proofs.PairingFlow
import MobileUnlock.Proofs.PairingIdentity
import MobileUnlock.Proofs.PhoneMessage
import MobileUnlock.Proofs.PhoneFraming
import MobileUnlock.Proofs.PhoneChallenge
import MobileUnlock.Proofs.PendingChallenge
import MobileUnlock.Proofs.ResponseAcceptance
import MobileUnlock.Proofs.ResponseContext
import MobileUnlock.Proofs.HonestExchange
import MobileUnlock.Proofs.RecordWrite
import MobileUnlock.Proofs.SessionStore
import MobileUnlock.Proofs.PairingRateLimit
import MobileUnlock.Proofs.ConnectionLimit
import MobileUnlock.Proofs.SessionCleanup
import MobileUnlock.Proofs.SpkiReader
import MobileUnlock.Proofs.SpkiBounds
import MobileUnlock.Proofs.PublicKeyFormats
import MobileUnlock.Proofs.SignatureEncoding
import MobileUnlock.Proofs.PairRequest
import MobileUnlock.Proofs.UuidText
import MobileUnlock.Proofs.Reconnect
import MobileUnlock.Proofs.PhonePairing
import MobileUnlock.Proofs.Configuration
import MobileUnlock.Proofs.Discovery
import MobileUnlock.Proofs.RandomMaterial
import MobileUnlock.Proofs.DeviceEnumeration
import MobileUnlock.Proofs.ServiceReply
import MobileUnlock.Proofs.LogonOutputs
import MobileUnlock.Proofs.DeviceResolution
import MobileUnlock.Proofs.MalformedStream
import MobileUnlock.Proofs.QuietDisconnect
import MobileUnlock.Proofs.UnAdvise
import MobileUnlock.Proofs.DeviceIdText
import MobileUnlock.Proofs.HexDecoding
import MobileUnlock.Proofs.SavedSettings
import MobileUnlock.Proofs.DiscoveredEndpoints
import MobileUnlock.Proofs.DiscoveryExchange
import MobileUnlock.Proofs.PipeDelivery
import MobileUnlock.Proofs.CredentialChannel
import MobileUnlock.Proofs.AgentConnection
import MobileUnlock.Proofs.TlsSession
import MobileUnlock.Proofs.ServiceAnswers
import MobileUnlock.Proofs.PairingAttempt
import MobileUnlock.Android.AndroidKeystoreManager
import MobileUnlock.Android.BiometricManager
import MobileUnlock.Proofs.AppPairing
import MobileUnlock.Proofs.PhoneSigning
import MobileUnlock.Proofs.ComReferences
import MobileUnlock.Proofs.SignedLogon
