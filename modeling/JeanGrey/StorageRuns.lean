/-
Runs over a data directory.

Programs of the storage run one after the other, each until it returns or is
killed, and in between the power can be lost.  Whatever happens, an identity or
a configuration that is loaded is one that was saved, never half of one, and
what a save has acknowledged is what is loaded from then on.
-/

import JeanGrey.Storage
import JeanGrey.RecordsAcceptance
import JeanGrey.Library.Runs

namespace JeanGrey

open Crates Files Runs

abbrev DataDir := Disk String UInt8

namespace Storage

open StorageCrates

/-! ### Documents -/

structure Document (α : Type) where
  name : String
  encode : α → Option String
  parse : String → Option α

namespace Document

variable {α : Type}

def temporary (document : Document α) : String := withExtension document.name "tmp"

/-- A file with this content was made by a save of the value. -/
def Encodes (document : Document α) (value : α) (content : Option Bytes) : Prop :=
  ∃ text, document.encode value = some text ∧ content = some (utf8Bytes text)

/-- The file is missing, or was made by a save of one of the values. -/
def Made (document : Document α) (values : List α) (content : Option Bytes) : Prop :=
  content = none ∨ ∃ value ∈ values, document.Encodes value content

def Lawful (document : Document α) : Prop :=
  ∀ value text, document.encode value = some text → document.parse text = some value

def save (document : Document α) (value : α) : StorageM Unit := do
  ensure
  let json ← orCorrupt (document.encode value)
  writeAtomic document.name (utf8Bytes json)

def load {β : Type} (document : Document α) (found : α → β) (missing : β) : StorageM β := do
  if ← fileExists document.name then
    let text ← readToString document.name
    let value ← orCorrupt (document.parse text)
    return found value
  else return missing

end Document

section Documents

variable [Crates] [StorageCrates]

def identityDocument : Document DeviceIdentity :=
  { name := identityFile
    encode := fun identity => identityToJson (identityOut identity)
    parse := fun text => (identityFromJson text).bind identityIn }

def configDocument : Document NodeConfig :=
  { name := configFile
    encode := configToJson
    parse := configFromJson }

theorem identityDocument_apart : identityDocument.name ≠ identityDocument.temporary :=
  show identityFile ≠ withExtension identityFile "tmp" by decide

theorem configDocument_apart : configDocument.name ≠ configDocument.temporary :=
  show configFile ≠ withExtension configFile "tmp" by decide

theorem saveIdentity_eq (identity : DeviceIdentity) :
    saveIdentity identity = identityDocument.save identity := rfl

theorem saveConfig_eq (config : NodeConfig) : saveConfig config = configDocument.save config := rfl

theorem loadIdentity_eq : loadIdentity = identityDocument.load some none := by
  unfold loadIdentity Document.load
  refine congrArg _ (funext fun answer => ?_)
  cases answer with
  | false => rfl
  | true =>
      rw [if_pos rfl, if_pos rfl]
      refine congrArg (fun rest => readToString identityFile >>= rest) (funext fun text => ?_)
      change orCorrupt (identityFromJson text) >>= _ =
        orCorrupt ((identityFromJson text).bind identityIn) >>= _
      cases identityFromJson text with
      | none => rfl
      | some file => rfl

theorem loadConfig_eq : loadConfig = configDocument.load id NodeConfig.default := by
  unfold loadConfig Document.load
  refine congrArg _ (funext fun answer => ?_)
  cases answer with
  | false => rfl
  | true =>
      rw [if_pos rfl, if_pos rfl]
      refine congrArg (fun rest => readToString configFile >>= rest) (funext fun text => ?_)
      change orCorrupt (configFromJson text) = orCorrupt (configFromJson text) >>= _
      cases configFromJson text with
      | none => rfl
      | some config => rfl

theorem identityDocument_lawful (laws : Laws) : identityDocument.Lawful := by
  intro identity json encoded
  change (identityFromJson json).bind identityIn = some identity
  rw [laws.identityJson _ _ encoded, Option.bind_some]
  exact identityIn_identityOut laws identity

theorem configDocument_lawful (laws : Laws) : configDocument.Lawful := laws.configJson

end Documents

/-! ### Loading -/

section Loading

variable {α β : Type}

/-- The result of a load: the file is not read, is missing, does not parse, or holds the
value. -/
inductive Loaded (blind : Prop) (disk : DataDir) (document : Document α) (found : α → β)
    (missing : β) : Except StorageError β → Prop
  | unread : Loaded blind disk document found missing (.error .io)
  | absent (none : disk.live document.name = none ∨ blind) :
      Loaded blind disk document found missing (.ok missing)
  | malformed {text : String} (there : disk.live document.name = some (utf8Bytes text))
      (corrupt : document.parse text = none) :
      Loaded blind disk document found missing (.error .corrupt)
  | parsed {text : String} {value : α} (there : disk.live document.name = some (utf8Bytes text))
      (parses : document.parse text = some value) :
      Loaded blind disk document found missing (.ok (found value))

theorem triple_load (blind : Prop) (disk : DataDir) (document : Document α) (found : α → β)
    (missing : β) :
    Triple blind (fun before => before = disk) (document.load found missing).run
      (fun result final => final = disk ∧ Loaded blind disk document found missing result)
      (fun final => final = disk) := by
  refine Triple.present (fun _ same => same) ?_
  intro answer
  cases answer with
  | false =>
      refine Triple.done ?_ (fun _ holds => holds.1)
      rintro _ ⟨rfl, honest⟩
      refine ⟨rfl, .absent ?_⟩
      rcases honest with missing | ⟨overlooked, -⟩
      · exact .inl (Option.isNone_iff_eq_none.mp (Option.isSome_eq_false_iff.mp missing.symm))
      · exact .inr overlooked
  | true =>
      refine Triple.read (fun _ holds => holds.1) ?_
      intro content
      cases decoded : content.bind utf8Text with
      | none =>
          change Triple blind _ (Program.bind (.done (textRead content)) _) _ _
          rw [textRead, decoded]
          exact Triple.done (fun _ holds => ⟨holds.1.1, .unread⟩) (fun _ holds => holds.1.1)
      | some text =>
          change Triple blind _ (Program.bind (.done (textRead content)) _) _ _
          rw [textRead, decoded]
          obtain ⟨bytes, rfl, valid⟩ := Option.bind_eq_some_iff.mp decoded
          have same := utf8Bytes_of_utf8Text valid
          subst same
          have there (before : DataDir) (same : before = disk)
              (honest : some (utf8Bytes text) = before.live document.name ∨
                some (utf8Bytes text) = none) :
              disk.live document.name = some (utf8Bytes text) := by
            rcases honest with found | impossible
            · rw [← same, found]
            · cases impossible
          cases parses : document.parse text with
          | none =>
              change Triple blind _ (orCorrupt (document.parse text) >>= _ : StorageM β).run _ _
              rw [parses]
              exact Triple.done (fun before holds =>
                ⟨holds.1.1, .malformed (there before holds.1.1 holds.2) parses⟩)
                (fun _ holds => holds.1.1)
          | some value =>
              change Triple blind _ (orCorrupt (document.parse text) >>= _ : StorageM β).run _ _
              rw [parses]
              exact Triple.done (fun before holds =>
                ⟨holds.1.1, .parsed (there before holds.1.1 holds.2) parses⟩)
                (fun _ holds => holds.1.1)

end Loading

/-! ### Saving -/

section Saving

variable {α : Type} {document : Document α} {value : α} {possible : Option Bytes → Prop}

theorem triple_ensure (blind : Prop) {pre kept : DataDir → Prop}
    (start : ∀ disk, pre disk → kept disk) :
    Triple blind pre ensure.run (ending (fun _ => kept) fun _ => kept) kept := by
  refine Triple.attempt start ?_ ?_
  · intro disk next holds part
    cases part
    exact ⟨start disk holds, start disk holds⟩
  · intro disk next holds did
    cases did
    exact ⟨start disk holds, start disk holds⟩

/-- A save leaves the old file or the new one, and the new one if it returns. -/
theorem triple_save (blind : Prop) (origin : DataDir)
    (different : document.name ≠ document.temporary)
    (held : origin.Holds document.name possible)
    (new : ∀ content, document.Encodes value content → possible content) :
    Triple blind (fun before => before = origin) (document.save value).run
      (ending
        (fun _ final => origin.Guarded document.temporary document.name possible final ∧
          document.Encodes value (final.live document.name))
        fun _ final => origin.Guarded document.temporary document.name possible final)
      (origin.Guarded document.temporary document.name possible) := by
  have start (disk : DataDir) (same : disk = origin) :
      origin.Guarded document.temporary document.name possible disk := by
    subst same
    exact ⟨held, fun name _ _ => .refl disk name⟩
  refine Triple.andThen (triple_ensure blind start) ?_ (fun _ _ guarded => guarded)
  intro _
  cases encoded : document.encode value with
  | none => exact Triple.done (fun _ guarded => guarded) (fun _ guarded => guarded)
  | some text =>
      have written : document.Encodes value (some (utf8Bytes text)) := ⟨text, encoded, rfl⟩
      refine Triple.conseq (Triple.replace origin StorageError.io different (new _ written))
        (fun _ guarded => guarded) (fun result final => ?_) (fun _ guarded => guarded)
      cases result with
      | ok _ =>
          rintro ⟨guarded, live⟩
          refine ⟨guarded, ?_⟩
          rw [live]
          exact written
      | error _ => exact fun refused => refused.2

theorem triple_appendLine (blind : Prop) (origin : DataDir) (line : String) :
    Triple blind (fun before => before = origin) (appendLine line).run
      (fun _ final => ∀ name, name ≠ historyFile → origin.Spared final name)
      (fun final => ∀ name, name ≠ historyFile → origin.Spared final name) := by
  have apart (name : String) (other : name ≠ historyFile) :
      name ∉ (Call.append historyFile (utf8Bytes line ++ [0x0A])).names := by
    rw [Call.names, List.mem_singleton]
    exact other
  have appended : Triple blind (fun before => before = origin) (appendLine line).run
      (ending (fun _ final => ∀ name, name ≠ historyFile → origin.Spared final name)
        fun _ final => ∀ name, name ≠ historyFile → origin.Spared final name)
      (fun final => ∀ name, name ≠ historyFile → origin.Spared final name) := by
    have start (disk : DataDir) (same : disk = origin) (name : String) (_ : name ≠ historyFile) :
        origin.Spared disk name := by
      subst same
      exact .refl disk name
    refine Triple.andThen (triple_ensure blind start) ?_ (fun _ _ spared => spared)
    intro _
    refine Triple.attempt (fun _ spared => spared) ?_ ?_
    · intro disk next spared part
      have after (name : String) (other : name ≠ historyFile) : origin.Spared next name :=
        (spared name other).trans (part.spared (apart name other))
      exact ⟨after, after⟩
    · intro disk next spared did
      have after (name : String) (other : name ≠ historyFile) : origin.Spared next name :=
        (spared name other).trans (did.spared (apart name other))
      exact ⟨after, after⟩
  refine appended.conseq (fun _ same => same) (fun result final => ?_) (fun _ spared => spared)
  cases result with
  | ok _ => exact fun spared => spared
  | error _ => exact fun spared => spared

end Saving

/-! ### What programs leave in the directory -/

section Left

variable {blind : Prop} {disk next : DataDir} {α β : Type} {document : Document α} {value : α}
  {values : List α} {found : α → β} {missing : β}

theorem spared_of_save {result : Option (Except StorageError Unit)} {name : String}
    (different : document.name ≠ document.temporary)
    (ends : Ends blind (document.save value).run disk result next)
    (apart : name ∉ [document.name, document.temporary]) : disk.Spared next name := by
  simp only [List.mem_cons, List.not_mem_nil, or_false, not_or] at apart
  have held : disk.Holds document.name fun _ => True := ⟨trivial, fun _ _ => trivial⟩
  have outcome := (triple_save blind disk different held (fun _ _ => trivial)).outcome ends
  cases result with
  | none => exact outcome.others name apart.1 apart.2
  | some answer =>
      cases answer with
      | ok _ => exact outcome.1.others name apart.1 apart.2
      | error _ => exact outcome.others name apart.1 apart.2

theorem eq_of_load {result : Option (Except StorageError β)}
    (ends : Ends blind (document.load found missing).run disk result next) : next = disk := by
  have outcome := Triple.outcome (triple_load blind disk document found missing) ends
  cases result with
  | none => exact outcome
  | some answer => exact outcome.1

theorem made_of_save {result : Option (Except StorageError Unit)}
    (different : document.name ≠ document.temporary)
    (held : disk.Holds document.name (document.Made values))
    (ends : Ends blind (document.save value).run disk result next) :
    next.Holds document.name (document.Made (values ++ [value])) ∧
      (result = some (.ok ()) → document.Encodes value (next.live document.name)) := by
  have wider : disk.Holds document.name (document.Made (values ++ [value])) := by
    refine held.mono ?_
    rintro content (missing | ⟨earlier, member, encodes⟩)
    · exact .inl missing
    · exact .inr ⟨earlier, List.mem_append_left _ member, encodes⟩
  have outcome := (triple_save blind disk different wider
    (fun content encodes =>
      .inr ⟨value, List.mem_append_right _ List.mem_cons_self, encodes⟩)).outcome
    ends
  cases result with
  | none =>
      refine ⟨outcome.held, ?_⟩
      intro returned
      cases returned
  | some answer =>
      cases answer with
      | ok _ => exact ⟨outcome.1.held, fun _ => outcome.2⟩
      | error _ =>
          refine ⟨outcome.held, ?_⟩
          intro returned
          cases returned

/-- What a load returns, by what is in the file. -/
theorem load_of_made {result : Except StorageError β} (lawful : document.Lawful)
    (made : document.Made values (disk.live document.name))
    (ends : Ends blind (document.load found missing).run disk (some result) next) :
    result = .error .io ∨ result = .ok missing ∨ ∃ value ∈ values, result = .ok (found value) := by
  have outcome := (triple_load blind disk document found missing).outcome ends
  have readBack {text : String} (there : disk.live document.name = some (utf8Bytes text)) :
      ∃ value ∈ values, document.parse text = some value := by
    rw [there] at made
    rcases made with impossible | ⟨value, member, written, encoded, same⟩
    · cases impossible
    · have sameText : text = written := utf8Bytes_injective (Option.some.inj same)
      exact ⟨value, member, by rw [sameText]; exact lawful value written encoded⟩
  cases outcome.2 with
  | unread => exact .inl rfl
  | absent _ => exact .inr (.inl rfl)
  | malformed there corrupt =>
      obtain ⟨value, -, parses⟩ := readBack there
      rw [corrupt] at parses
      cases parses
  | parsed there parses =>
      obtain ⟨value, member, again⟩ := readBack there
      rw [parses] at again
      cases again
      exact .inr (.inr ⟨_, member, rfl⟩)

/-- A load returns what the file was made of, unless the file cannot be read or is
overlooked. -/
theorem load_of_encodes {result : Except StorageError β} (lawful : document.Lawful)
    (encodes : document.Encodes value (disk.live document.name))
    (ends : Ends blind (document.load found missing).run disk (some result) next) :
    result = .error .io ∨ result = .ok (found value) ∨ blind ∧ result = .ok missing := by
  have outcome := (triple_load blind disk document found missing).outcome ends
  obtain ⟨written, encoded, there⟩ := encodes
  cases outcome.2 with
  | unread => exact .inl rfl
  | absent none =>
      rcases none with none | overlooked
      · rw [none] at there
        cases there
      · exact .inr (.inr ⟨overlooked, rfl⟩)
  | malformed found corrupt =>
      have sameText := utf8Bytes_injective (Option.some.inj (found.symm.trans there))
      rw [sameText, lawful value written encoded] at corrupt
      cases corrupt
  | parsed found parses =>
      have sameText := utf8Bytes_injective (Option.some.inj (found.symm.trans there))
      rw [sameText, lawful value written encoded] at parses
      cases parses
      exact .inr (.inl rfl)

theorem ends_save (blind : Prop) (disk : DataDir) {text : String}
    (encoded : document.encode value = some text) :
    ∃ next, Ends blind (document.save value).run disk (some (.ok ())) next := by
  have replaces : ∃ next, Ends blind
      (replace document.temporary document.name (utf8Bytes text) StorageError.io).run disk
      (some (.ok ())) next := ends_replace blind disk StorageError.io
  obtain ⟨next, replaced⟩ := replaces
  refine ⟨next, .call .makeDir ?_⟩
  change Ends blind (orCorrupt (document.encode value) >>= _ : StorageM Unit).run _ _ _
  rw [encoded]
  exact replaced

theorem ends_load (blind : Prop) (lawful : document.Lawful)
    (encodes : document.Encodes value (disk.live document.name)) :
    Ends blind (document.load found missing).run disk (some (.ok (found value))) disk := by
  obtain ⟨text, encoded, there⟩ := encodes
  refine .present true (.inl ?_) (.read (some (utf8Bytes text)) (.inl there.symm) ?_)
  · rw [there]
    rfl
  · change Ends blind (Program.bind (.done (textRead (some (utf8Bytes text)))) _) _ _ _
    rw [textRead, Option.bind_some, utf8Text_utf8Bytes]
    change Ends blind (orCorrupt (document.parse text) >>= _ : StorageM β).run _ _ _
    rw [lawful value text encoded]
    exact .done _ _

theorem ends_load_missing (blind : Prop) (missed : disk.live document.name = none) :
    Ends blind (document.load found missing).run disk (some (.ok missing)) disk := by
  refine .present false (.inl ?_) (.done _ _)
  rw [missed]
  rfl

end Left

/-! ### A sample directory -/

section Sample

open Symbolic

def jsonChar (char : Char) : List Char :=
  if char = '\"' ∨ char = '\\' then ['\\', char]
  else if char = '\x08' then "\\b".toList
  else if char = '\t' then "\\t".toList
  else if char = '\n' then "\\n".toList
  else if char = '\x0c' then "\\f".toList
  else if char = '\r' then "\\r".toList
  else if char.toNat < 0x20 then "\\u00".toList ++ hexChars [UInt8.ofNat char.toNat]
  else [char]

def jsonText (text : String) : String :=
  "\"" ++ String.ofList (text.toList.flatMap jsonChar) ++ "\""

def jsonObject (members : List (String × String)) : String :=
  "\x7b\n" ++ String.intercalate ",\n" (members.map fun member =>
    "  " ++ jsonText member.1 ++ ": " ++ member.2) ++ "\n\x7d"

def jsonIdentity (file : IdentityFile) : String :=
  jsonObject
    [ ("v", toString file.v.toNat)
    , ("user_id_hex", jsonText file.userIdHex)
    , ("user_name", jsonText file.userName)
    , ("device_uuid_hex", jsonText file.deviceUuidHex)
    , ("mldsa_seed_b64", jsonText file.mldsaSeedB64)
    , ("transport_keypair_b64", jsonText file.transportKeypairB64)
    , ("peer_id_b58", jsonText file.peerIdB58) ]

def jsonConfig (config : NodeConfig) : String :=
  jsonObject [("listen_port", toString config.listenPort.toNat)]

noncomputable def sampleFile : IdentityFile :=
  letI := hexCrates
  { v := 1
    userIdHex := hexEncode hexDevice.user.userId.toList
    userName := hexDevice.user.userName
    deviceUuidHex := hexEncode hexDevice.deviceUuid.toList
    mldsaSeedB64 := base64Encode hexDevice.secretKey.seed.toList
    transportKeypairB64 := base64Encode hexDevice.transportKeypair
    peerIdB58 := peerIdToBase58 hexDevice.peerId }

@[reducible] noncomputable def sampleStorage : @StorageCrates hexCrates :=
  letI := hexCrates
  StorageCrates.mk
    (fun file => if file = sampleFile then some (jsonIdentity file) else none)
    (fun text => if text = jsonIdentity sampleFile then some sampleFile else none)
    (fun config => if config = .default then some (jsonConfig config) else none)
    (fun text => if text = jsonConfig .default then some .default else none) id some

theorem identityOut_sample : @identityOut hexCrates sampleStorage hexDevice = sampleFile := rfl

theorem identityToJson_sample :
    @identityToJson hexCrates sampleStorage sampleFile = some (jsonIdentity sampleFile) :=
  if_pos rfl

theorem configToJson_sample :
    @configToJson hexCrates sampleStorage .default = some (jsonConfig .default) := if_pos rfl

theorem encode_sample :
    letI := hexCrates
    letI := sampleStorage
    identityDocument.encode hexDevice = some (jsonIdentity sampleFile) := by
  let _ := hexCrates
  let _ := sampleStorage
  change identityToJson (identityOut hexDevice) = _
  exact (congrArg identityToJson identityOut_sample).trans identityToJson_sample

theorem sampleStorage_laws : @Laws hexCrates sampleStorage := by
  refine @Laws.mk hexCrates sampleStorage ?_ ?_ ?_ ?_ ?_ ?_
  · intro file json written
    change (if file = sampleFile then some (jsonIdentity file) else none) = some json at written
    split at written
    · rename_i same
      cases written
      rw [same]
      exact if_pos rfl
    · cases written
  · intro config json written
    change (if config = .default then some (jsonConfig config) else none) = some json at written
    split at written
    · rename_i same
      cases written
      rw [same]
      exact if_pos rfl
    · cases written
  · exact fun _ => rfl
  · exact fun _ => rfl
  · exact @RecordLaws.base64 hexCrates hexCrates_recordLaws
  · exact @RecordLaws.hex hexCrates hexCrates_recordLaws

end Sample

/-! ### Runs -/

section Runs

open Symbolic

variable [Crates] [StorageCrates]

/-- What happens to a data directory; the result is missing where the process was
killed. -/
inductive Event where
  | ensure (result : Option (Except StorageError Unit))
  | saveIdentity (identity : DeviceIdentity) (result : Option (Except StorageError Unit))
  | saveConfig (config : NodeConfig) (result : Option (Except StorageError Unit))
  | appendLine (line : String) (result : Option (Except StorageError Unit))
  | loadIdentity (result : Option (Except StorageError (Option DeviceIdentity)))
  | loadConfig (result : Option (Except StorageError NodeConfig))
  | powerLoss

inductive Step (blind : Prop) : DataDir → Event → DataDir → Prop
  | ensure {disk next : DataDir} {result : Option (Except StorageError Unit)}
      (ends : Ends blind Storage.ensure.run disk result next) :
      Step blind disk (.ensure result) next
  | saveIdentity {disk next : DataDir} {identity : DeviceIdentity}
      {result : Option (Except StorageError Unit)}
      (ends : Ends blind (Storage.saveIdentity identity).run disk result next) :
      Step blind disk (.saveIdentity identity result) next
  | saveConfig {disk next : DataDir} {config : NodeConfig}
      {result : Option (Except StorageError Unit)}
      (ends : Ends blind (Storage.saveConfig config).run disk result next) :
      Step blind disk (.saveConfig config result) next
  | appendLine {disk next : DataDir} {line : String} {result : Option (Except StorageError Unit)}
      (ends : Ends blind (Storage.appendLine line).run disk result next) :
      Step blind disk (.appendLine line result) next
  | loadIdentity {disk next : DataDir}
      {result : Option (Except StorageError (Option DeviceIdentity))}
      (ends : Ends blind Storage.loadIdentity.run disk result next) :
      Step blind disk (.loadIdentity result) next
  | loadConfig {disk next : DataDir} {result : Option (Except StorageError NodeConfig)}
      (ends : Ends blind Storage.loadConfig.run disk result next) :
      Step blind disk (.loadConfig result) next
  | powerLoss {disk next : DataDir} (loss : disk.PowerLoss next) : Step blind disk .powerLoss next

def Event.touches : Event → List String
  | saveIdentity _ _ => [identityFile, withExtension identityFile "tmp"]
  | saveConfig _ _ => [configFile, withExtension configFile "tmp"]
  | appendLine _ _ => [historyFile]
  | ensure _ | loadIdentity _ | loadConfig _ | powerLoss => []

variable {blind : Prop} {disk next final : DataDir} {event : Event}

theorem Step.spared {name : String} (step : Step blind disk event next)
    (powered : event ≠ .powerLoss) (apart : name ∉ event.touches) : disk.Spared next name := by
  cases step with
  | ensure ends =>
      have triple : Triple blind (fun before => before = disk) Storage.ensure.run
          (ending (fun _ after => disk.Spared after name) fun _ after => disk.Spared after name)
          (fun after => disk.Spared after name) := by
        refine triple_ensure blind ?_
        rintro _ rfl
        exact .refl _ name
      have outcome := triple.outcome ends
      rename_i result
      cases result with
      | none => exact outcome
      | some answer => cases answer <;> exact outcome
  | saveIdentity ends =>
      rw [saveIdentity_eq] at ends
      exact spared_of_save identityDocument_apart ends apart
  | saveConfig ends =>
      rw [saveConfig_eq] at ends
      exact spared_of_save configDocument_apart ends apart
  | appendLine ends =>
      have other : name ≠ historyFile := by
        rw [Event.touches, List.mem_singleton] at apart
        exact apart
      have outcome := Triple.outcome (triple_appendLine blind disk _) ends
      rename_i result
      cases result with
      | none => exact outcome name other
      | some _ => exact outcome name other
  | loadIdentity ends =>
      rw [loadIdentity_eq] at ends
      rw [eq_of_load ends]
      exact .refl disk name
  | loadConfig ends =>
      rw [loadConfig_eq] at ends
      rw [eq_of_load ends]
      exact .refl disk name
  | powerLoss _ => exact absurd rfl powered

def Event.identity? : Event → Option DeviceIdentity
  | saveIdentity identity _ => some identity
  | _ => none

def Event.config? : Event → Option NodeConfig
  | saveConfig config _ => some config
  | _ => none

/-- Both documents are made of what was saved. -/
structure Intact (events : List Event) (disk : DataDir) : Prop where
  identity : disk.Holds identityFile (identityDocument.Made (events.filterMap Event.identity?))
  config : disk.Holds configFile (configDocument.Made (events.filterMap Event.config?))

theorem intact_empty : Intact [] .empty :=
  ⟨Disk.holds_empty identityFile (.inl rfl), Disk.holds_empty configFile (.inl rfl)⟩

theorem Intact.step {events : List Event} (intact : Intact events disk)
    (step : Step blind disk event next) : Intact (events ++ [event]) next := by
  have identitySpared (powered : event ≠ .powerLoss) (apart : identityFile ∉ event.touches)
      (silent : event.identity? = none) : next.Holds identityFile
        (identityDocument.Made ((events ++ [event]).filterMap Event.identity?)) := by
    rw [List.filterMap_append, List.filterMap_cons_none silent, List.filterMap_nil, List.append_nil]
    exact intact.identity.spared (step.spared powered apart)
  have configSpared (powered : event ≠ .powerLoss) (apart : configFile ∉ event.touches)
      (silent : event.config? = none) : next.Holds configFile
        (configDocument.Made ((events ++ [event]).filterMap Event.config?)) := by
    rw [List.filterMap_append, List.filterMap_cons_none silent, List.filterMap_nil, List.append_nil]
    exact intact.config.spared (step.spared powered apart)
  cases step with
  | ensure ends =>
      exact ⟨identitySpared nofun List.not_mem_nil rfl, configSpared nofun List.not_mem_nil rfl⟩
  | loadIdentity ends =>
      exact ⟨identitySpared nofun List.not_mem_nil rfl, configSpared nofun List.not_mem_nil rfl⟩
  | loadConfig ends =>
      exact ⟨identitySpared nofun List.not_mem_nil rfl, configSpared nofun List.not_mem_nil rfl⟩
  | appendLine ends =>
      exact
        ⟨identitySpared nofun (show identityFile ∉ [historyFile] by decide) rfl,
          configSpared nofun (show configFile ∉ [historyFile] by decide) rfl⟩
  | saveIdentity ends =>
      rename_i identity result
      refine ⟨?_, configSpared nofun
        (show configFile ∉ [identityFile, withExtension identityFile "tmp"] by decide) rfl⟩
      have saved := (made_of_save identityDocument_apart intact.identity ends).1
      rw [List.filterMap_append]
      exact saved
  | saveConfig ends =>
      rename_i config result
      refine ⟨identitySpared nofun
        (show identityFile ∉ [configFile, withExtension configFile "tmp"] by decide) rfl, ?_⟩
      have saved := (made_of_save configDocument_apart intact.config ends).1
      rw [List.filterMap_append]
      exact saved
  | powerLoss loss =>
      refine ⟨?_, ?_⟩
      · rw [List.filterMap_append, List.filterMap_cons_none rfl, List.filterMap_nil,
          List.append_nil]
        exact intact.identity.powerLoss loss
      · rw [List.filterMap_append, List.filterMap_cons_none rfl, List.filterMap_nil,
          List.append_nil]
        exact intact.config.powerLoss loss

theorem intact_of_trace {events : List Event} (trace : Trace (Step blind) .empty events disk) :
    Intact events disk := by
  have holds : Intact ([] ++ events) disk :=
    trace.invariant (fun before state label next intact step => intact.step step) intact_empty
  rwa [List.nil_append] at holds

/-- Whatever was interrupted or lost before, an identity that is loaded is one that was
saved, and so is a configuration; a file is never corrupt. -/
theorem loads_what_was_saved (laws : Laws) {events : List Event}
    (trace : Trace (Step blind) .empty events disk) :
    (∀ result, Step blind disk (.loadIdentity (some result)) next →
      result = .error .io ∨ result = .ok none ∨
        ∃ identity saved, .saveIdentity identity saved ∈ events ∧ result = .ok (some identity)) ∧
    (∀ result, Step blind disk (.loadConfig (some result)) next →
      result = .error .io ∨ result = .ok NodeConfig.default ∨
        ∃ config saved, .saveConfig config saved ∈ events ∧ result = .ok config) := by
  have intact := intact_of_trace trace
  constructor
  · intro result step
    cases step with
    | loadIdentity ends =>
        rw [loadIdentity_eq] at ends
        rcases load_of_made (identityDocument_lawful laws) intact.identity.live ends with
          unread | absent | ⟨identity, member, loaded⟩
        · exact .inl unread
        · exact .inr (.inl absent)
        · obtain ⟨event, among, same⟩ := List.mem_filterMap.mp member
          cases event with
          | saveIdentity other saved =>
              cases same
              exact .inr (.inr ⟨identity, saved, among, loaded⟩)
          | _ => cases same
  · intro result step
    cases step with
    | loadConfig ends =>
        rw [loadConfig_eq] at ends
        rcases load_of_made (configDocument_lawful laws) intact.config.live ends with
          unread | absent | ⟨config, member, loaded⟩
        · exact .inl unread
        · exact .inr (.inl absent)
        · obtain ⟨event, among, same⟩ := List.mem_filterMap.mp member
          cases event with
          | saveConfig other saved =>
              cases same
              exact .inr (.inr ⟨config, saved, among, loaded⟩)
          | _ => cases same

omit [Crates] [StorageCrates] in
theorem exists_saved_sample :
    letI := hexCrates
    letI := sampleStorage
    ∃ disk, Trace (Step False) .empty [.saveIdentity hexDevice (some (.ok ()))] disk ∧
      Step False disk (.loadIdentity (some (.ok (some hexDevice)))) disk := by
  let _ := hexCrates
  let _ := sampleStorage
  obtain ⟨disk, saves⟩ := ends_save False Disk.empty encode_sample
  have made := (made_of_save identityDocument_apart intact_empty.identity saves).2 rfl
  have loads : Ends False (identityDocument.load some none).run disk
      (some (.ok (some hexDevice))) disk :=
    ends_load False (identityDocument_lawful sampleStorage_laws) made
  rw [← loadIdentity_eq] at loads
  exact ⟨disk, .single (.saveIdentity saves), .loadIdentity loads⟩

omit [Crates] [StorageCrates] in
theorem loads_what_was_saved_sample :
    letI := hexCrates
    letI := sampleStorage
    ∃ disk, Step False disk (.loadIdentity (some (.ok (some hexDevice)))) disk ∧
      ∀ result next, Step False disk (.loadIdentity (some result)) next →
        result = .error .io ∨ result = .ok none ∨ ∃ identity saved,
          .saveIdentity identity saved ∈ [Event.saveIdentity hexDevice (some (.ok ()))] ∧
            result = .ok (some identity) := by
  let _ := hexCrates
  let _ := sampleStorage
  obtain ⟨disk, trace, loads⟩ := exists_saved_sample
  exact ⟨disk, loads, fun result next step =>
    (loads_what_was_saved sampleStorage_laws trace).1 result step⟩

/-- A file stays as it is as long as no event works on it and the power is not lost. -/
theorem live_of_quiet {name : String} {events : List Event}
    (trace : Trace (Step blind) disk events final)
    (quiet : ∀ event ∈ events, event ≠ .powerLoss ∧ name ∉ event.touches) :
    final.live name = disk.live name := by
  induction trace with
  | nil state => rfl
  | cons first _ ih =>
      obtain ⟨powered, apart⟩ := quiet _ List.mem_cons_self
      exact (ih fun event member => quiet event (List.mem_cons_of_mem _ member)).trans
        (first.spared powered apart).live

/-- A save that has returned successfully is what is loaded, until another save works on the
file or the power is lost. -/
theorem acknowledged_saves_are_loaded (laws : Laws) {before after : List Event} :
    (∀ identity result, Trace (Step blind) .empty
        (before ++ .saveIdentity identity (some (.ok ())) :: after) disk →
      (∀ event ∈ after, event ≠ .powerLoss ∧ identityFile ∉ event.touches) →
      Step blind disk (.loadIdentity (some result)) next →
      result = .error .io ∨ result = .ok (some identity) ∨ blind ∧ result = .ok none) ∧
    (∀ config result, Trace (Step blind) .empty
        (before ++ .saveConfig config (some (.ok ())) :: after) disk →
      (∀ event ∈ after, event ≠ .powerLoss ∧ configFile ∉ event.touches) →
      Step blind disk (.loadConfig (some result)) next →
      result = .error .io ∨ result = .ok config ∨ blind ∧ result = .ok NodeConfig.default) := by
  constructor
  · intro identity result trace quiet step
    obtain ⟨middle, first, rest⟩ := trace.split
    cases rest with
    | cons saves rest =>
        cases saves with
        | saveIdentity saved =>
            have encodes := (made_of_save identityDocument_apart
              (intact_of_trace first).identity saved).2 rfl
            have live : disk.live identityFile = _ := live_of_quiet rest quiet
            cases step with
            | loadIdentity ends =>
                rw [loadIdentity_eq] at ends
                refine load_of_encodes (identityDocument_lawful laws) ?_ ends
                change identityDocument.Encodes identity (disk.live identityFile)
                rw [live]
                exact encodes
  · intro config result trace quiet step
    obtain ⟨middle, first, rest⟩ := trace.split
    cases rest with
    | cons saves rest =>
        cases saves with
        | saveConfig saved =>
            have encodes := (made_of_save configDocument_apart
              (intact_of_trace first).config saved).2 rfl
            have live : disk.live configFile = _ := live_of_quiet rest quiet
            cases step with
            | loadConfig ends =>
                rw [loadConfig_eq] at ends
                refine load_of_encodes (configDocument_lawful laws) ?_ ends
                change configDocument.Encodes config (disk.live configFile)
                rw [live]
                exact encodes

omit [Crates] [StorageCrates] in
theorem acknowledged_saves_are_loaded_sample :
    letI := hexCrates
    letI := sampleStorage
    ∃ disk, Step False disk (.loadIdentity (some (.ok (some hexDevice)))) disk ∧
      ∀ result next, Step False disk (.loadIdentity (some result)) next →
        result = .error .io ∨ result = .ok (some hexDevice) ∨ False ∧ result = .ok none := by
  let _ := hexCrates
  let _ := sampleStorage
  obtain ⟨disk, trace, loads⟩ := exists_saved_sample
  have whole :
      Trace (Step False) .empty ([] ++ .saveIdentity hexDevice (some (.ok ())) :: []) disk :=
    trace
  refine ⟨disk, loads, ?_⟩
  intro result next step
  exact (acknowledged_saves_are_loaded sampleStorage_laws).1 hexDevice result whole nofun step

end Runs

end Storage

end JeanGrey
