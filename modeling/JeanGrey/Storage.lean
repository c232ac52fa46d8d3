/-
The files of `storage.rs`.

`identity.json` and `config.json` are replaced as a whole, under a temporary
name first; `history.jsonl` is only ever appended to.  The functions are
programs on the data directory, whose names are those of the files in it.
-/

import JeanGrey.Crypto
import JeanGrey.Library.Files

namespace JeanGrey

open Crates Files

variable [Crates]

def identityFile : String := "identity.json"

def configFile : String := "config.json"

def historyFile : String := "history.jsonl"

structure IdentityFile where
  v : UInt32
  userIdHex : String
  userName : String
  deviceUuidHex : String
  mldsaSeedB64 : String
  transportKeypairB64 : String
  peerIdB58 : String
  deriving DecidableEq

structure NodeConfig where
  listenPort : UInt16
  deriving DecidableEq

def NodeConfig.default : NodeConfig := { listenPort := 9000 }

/-- What the storage uses of `serde_json` and of the transport keys. -/
class StorageCrates [Crates] where
  /-- `serde_json::to_string_pretty` -/
  identityToJson : IdentityFile → Option String
  /-- `serde_json::from_str` -/
  identityFromJson : String → Option IdentityFile
  configToJson : NodeConfig → Option String
  configFromJson : String → Option NodeConfig
  /-- `Keypair::to_protobuf_encoding`, which does not fail for a key pair in
  memory. -/
  keypairToProtobuf : Keypair → Bytes
  /-- `Keypair::from_protobuf_encoding` -/
  keypairFromProtobuf : Bytes → Option Keypair

inductive StorageError where
  | io
  | corrupt
  deriving DecidableEq

abbrev StorageM (α : Type) := ExceptT StorageError (Program String UInt8) α

/-- `Path::with_extension`, for a file name. -/
def withExtension (name extension : String) : String :=
  match name.toList.reverse.dropWhile (fun char => char ≠ '.') with
  | [] | [_] => name ++ "." ++ extension
  | _ :: stem => String.ofList stem.reverse ++ "." ++ extension

def orCorrupt {α : Type} : Option α → StorageM α
  | none => throw .corrupt
  | some value => pure value

namespace Storage

open StorageCrates

/-- `path.exists()` -/
def fileExists (name : String) : StorageM Bool := ExceptT.lift (.present name .done)

/-- What `fs::read_to_string` makes of the bytes it reads, if any. -/
def textRead (answer : Option Bytes) : Except StorageError String :=
  match answer.bind utf8Text with
  | none => .error .io
  | some text => .ok text

def readToString (name : String) : StorageM String :=
  ExceptT.mk (.read name fun answer => .done (textRead answer))

def ensure : StorageM Unit := attempt .makeDir .io

def writeAtomic (name : String) (bytes : Bytes) : StorageM Unit :=
  replace (withExtension name "tmp") name bytes .io

section Files

variable [StorageCrates]

def encodeKeypair (keypair : Keypair) : String := base64Encode (keypairToProtobuf keypair)

def decodeKeypair (encoded : String) : Option Keypair :=
  (base64Decode encoded).bind keypairFromProtobuf

def identityOut (identity : DeviceIdentity) : IdentityFile :=
  { v := 1
    userIdHex := hexEncode identity.user.userId.toList
    userName := identity.user.userName
    deviceUuidHex := hexEncode identity.deviceUuid.toList
    mldsaSeedB64 := base64Encode identity.secretKey.seed.toList
    transportKeypairB64 := encodeKeypair identity.transportKeypair
    peerIdB58 := peerIdToBase58 identity.peerId }

/-- The identity in `identity.json`, checked against the Peer ID stored with it. -/
def identityIn (file : IdentityFile) : Option DeviceIdentity := do
  let seedBytes ← base64Decode file.mldsaSeedB64
  let seed ← Octets.ofBytes? Mldsa.seedLen seedBytes
  let uuidBytes ← hexDecode file.deviceUuidHex
  let deviceUuid ← Octets.ofBytes? 16 uuidBytes
  let userIdBytes ← hexDecode file.userIdHex
  let userId ← Octets.ofBytes? 16 userIdBytes
  let transportKeypair ← decodeKeypair file.transportKeypairB64
  let identity :=
    DeviceIdentity.fromSeed userId file.userName seed deviceUuid transportKeypair
  guard (peerIdToBase58 identity.peerId = file.peerIdB58)
  return identity

def loadIdentity : StorageM (Option DeviceIdentity) := do
  if ← fileExists identityFile then
    let text ← readToString identityFile
    let file ← orCorrupt (identityFromJson text)
    let identity ← orCorrupt (identityIn file)
    return some identity
  else return none

def saveIdentity (identity : DeviceIdentity) : StorageM Unit := do
  ensure
  let json ← orCorrupt (identityToJson (identityOut identity))
  writeAtomic identityFile (utf8Bytes json)

def loadConfig : StorageM NodeConfig := do
  if ← fileExists configFile then
    let text ← readToString configFile
    orCorrupt (configFromJson text)
  else return NodeConfig.default

def saveConfig (config : NodeConfig) : StorageM Unit := do
  ensure
  let json ← orCorrupt (configToJson config)
  writeAtomic configFile (utf8Bytes json)

end Files

def appendLine (line : String) : StorageM Unit := do
  ensure
  attempt (.append historyFile (utf8Bytes line ++ [0x0A])) .io

/-! ### Reading back what was written -/

/-- What the storage relies on: `serde_json` and the encodings read back what they
write, and a signing key is determined by its seed. -/
structure Laws [StorageCrates] : Prop where
  identityJson : ∀ file json, identityToJson file = some json → identityFromJson json = some file
  configJson : ∀ config json, configToJson config = some json → configFromJson json = some config
  keypair : ∀ keypair, keypairFromProtobuf (keypairToProtobuf keypair) = some keypair
  seed : ∀ key, signingKeyFromSeed (signingKeyToSeed key) = key
  base64 : Base64RoundTrip
  hex : HexRoundTrip

section ReadBack

variable [StorageCrates]

/-- What `load_identity` accepts: every field decodes to a part of the identity, and
the Peer ID is that of the seed. -/
structure Decodes (file : IdentityFile) (seed : Octets Mldsa.seedLen) (identity : DeviceIdentity) :
    Prop where
  seedRead : base64Decode file.mldsaSeedB64 = some seed.toList
  deviceUuid : hexDecode file.deviceUuidHex = some identity.deviceUuid.toList
  userId : hexDecode file.userIdHex = some identity.user.userId.toList
  transportKeypair : decodeKeypair file.transportKeypairB64 = some identity.transportKeypair
  userName : file.userName = identity.user.userName
  secretKey : identity.secretKey = SecretKey.fromSeed seed
  peerId : file.peerIdB58 = peerIdToBase58 identity.peerId

theorem identityIn_eq_some_iff {file : IdentityFile} {identity : DeviceIdentity} :
    identityIn file = some identity ↔ ∃ seed, Decodes file seed identity := by
  unfold identityIn
  constructor
  · intro accepted
    obtain ⟨seedBytes, seedRead, accepted⟩ := Option.bind_eq_some_iff.mp accepted
    obtain ⟨seed, seedSized, accepted⟩ := Option.bind_eq_some_iff.mp accepted
    obtain ⟨uuidBytes, uuidRead, accepted⟩ := Option.bind_eq_some_iff.mp accepted
    obtain ⟨deviceUuid, uuidSized, accepted⟩ := Option.bind_eq_some_iff.mp accepted
    obtain ⟨userIdBytes, userIdRead, accepted⟩ := Option.bind_eq_some_iff.mp accepted
    obtain ⟨userId, userIdSized, accepted⟩ := Option.bind_eq_some_iff.mp accepted
    obtain ⟨transportKeypair, keypairRead, accepted⟩ := Option.bind_eq_some_iff.mp accepted
    obtain ⟨_, checked, same⟩ := Option.bind_eq_some_iff.mp accepted
    have peerId := (Option.guard_eq_some' _).mp checked
    cases same
    rw [← Octets.ofBytes?_eq_some_iff.mp seedSized] at seedRead
    rw [← Octets.ofBytes?_eq_some_iff.mp uuidSized] at uuidRead
    rw [← Octets.ofBytes?_eq_some_iff.mp userIdSized] at userIdRead
    exact ⟨seed, seedRead, uuidRead, userIdRead, keypairRead, rfl, rfl, peerId.symm⟩
  · rintro ⟨seed, decodes⟩
    have same : DeviceIdentity.fromSeed identity.user.userId file.userName seed
        identity.deviceUuid identity.transportKeypair = identity := by
      rw [decodes.userName, DeviceIdentity.fromSeed, ← decodes.secretKey]
      exact identity.eq_assemble.symm
    simp only [Option.bind_eq_bind, decodes.seedRead, decodes.deviceUuid, decodes.userId,
      decodes.transportKeypair, Option.bind_some, Octets.ofBytes?_toList, same, decodes.peerId,
      guard_true, Option.pure_def]

/-- What is written for an identity is read back as this identity. -/
theorem identityIn_identityOut (laws : Laws) (identity : DeviceIdentity) :
    identityIn (identityOut identity) = some identity := by
  refine identityIn_eq_some_iff.mpr ⟨identity.secretKey.seed, ?_⟩
  exact
    { seedRead := laws.base64 _
      deviceUuid := laws.hex _
      userId := laws.hex _
      transportKeypair := by
        rw [decodeKeypair, identityOut, encodeKeypair, laws.base64, Option.bind_some]
        exact laws.keypair _
      userName := rfl
      secretKey := congrArg SecretKey.mk (laws.seed _).symm
      peerId := rfl }

end ReadBack

end Storage

end JeanGrey
