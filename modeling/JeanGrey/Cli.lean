/-
The commands of `cli.rs` on the data directory.

`init` makes the identity and the configuration, and every other command starts
a node from them.  A data directory has one identity: once a command has found
or made it, no later command makes another.
-/

import JeanGrey.Node
import JeanGrey.StorageRuns

namespace JeanGrey

open Crates Files Runs

variable [Crates]

/-- `BootstrapPeer::parse`; a `PeerId` that was parsed is written out in a text that can be
parsed. -/
def BootstrapPeer.parse (roundTrip : PeerIdTextRoundTrip) (text : String) :
    Except String BootstrapPeer :=
  match text.toList.span (fun char => char ≠ '@') with
  | (_, []) => .error "expected PEERID@MULTIADDR (e.g. Qm...@/ip4/10.0.0.5/tcp/9000)"
  | (front, _ :: rest) =>
      match peerIdFromStr (String.ofList front) with
      | none => .error ("invalid peer id: " ++ String.ofList front)
      | some peerId =>
          match multiaddrFromStr (String.ofList rest) with
          | none => .error ("invalid multiaddr: " ++ String.ofList rest)
          | some addr => .ok
              { text := peerIdToBase58 peerId
                peerId := peerId
                addrs := [multiaddrToString addr]
                valid := roundTrip peerId }

namespace Cli

def defaultPort : UInt16 := 9000

/-- The options shared by the commands; the data directory is the one the programs work on. -/
structure Common where
  listenPort : Option UInt16
  bootstrap : List String
  relay : List String
  relayServer : Bool

inductive CliError where
  | emptyName
  | nameTooLong
  | identityExists
  | noIdentity
  | peer (message : String)
  | listen
  | storage (error : StorageError)

abbrev CliM (α : Type) := ExceptT CliError (Program String UInt8) α

/-- The `?` on a result of the storage. -/
def storage {α : Type} (program : StorageM α) : CliM α := reporting CliError.storage program

/-- What `DeviceIdentity::generate` draws. -/
structure Draw where
  seed : Octets Mldsa.seedLen
  deviceUuid : Octets 16
  userId : Octets 16
  transportKeypair : Keypair

def Draw.identity (draw : Draw) (name : String) : DeviceIdentity :=
  DeviceIdentity.generate name draw.seed draw.deviceUuid draw.userId draw.transportKeypair

section Commands

variable [StorageCrates]

def buildOptions (roundTrip : PeerIdTextRoundTrip) (common : Common) : CliM NodeOptions := do
  let config ← storage Storage.loadConfig
  let listenPort := (common.listenPort.or (some config.listenPort)).getD defaultPort
  match common.bootstrap.mapM (BootstrapPeer.parse roundTrip) with
  | .error message => throw (.peer message)
  | .ok bootstrap =>
      match common.relay.mapM (BootstrapPeer.parse roundTrip) with
      | .error message => throw (.peer message)
      -- The last relay given is the one that is used.
      | .ok relays =>
          return { listenPort := listenPort
                   bootstrap := bootstrap
                   externalIps := []
                   relay := relays.getLast?
                   relayServer := common.relayServer }

def loadIdentity : CliM DeviceIdentity := do
  match ← storage Storage.loadIdentity with
  | none => throw .noIdentity
  | some identity => return identity

/-- `listens` tells whether the swarm can listen on the port. -/
def newNode (roundTrip : PeerIdTextRoundTrip) (common : Common) (listens : Bool)
    (reading : Surroundings) : CliM Node := do
  let options ← buildOptions roundTrip common
  storage Storage.ensure
  let identity ← loadIdentity
  if listens then return Node.new identity options reading else throw .listen

/-- The identity is what is printed at the end. -/
def cmdInit (listenPort : Option UInt16) (name : String) (draw : Draw) : CliM DeviceIdentity := do
  if name.isEmpty then throw .emptyName
  else if (utf8Bytes name).length > maxUserName then throw .nameTooLong
  else
    match ← storage Storage.loadIdentity with
    | some _ => throw .identityExists
    | none =>
        let identity := draw.identity name
        storage (Storage.saveIdentity identity)
        storage (Storage.saveConfig { listenPort := listenPort.getD defaultPort })
        return identity

end Commands

/-! ### Runs -/

section Runs

variable [StorageCrates]

/-- What happens to a data directory: commands, the lines a running node appends to the
history, and losses of power.  The result is missing where the process was killed. -/
inductive Event where
  | init (listenPort : Option UInt16) (name : String) (draw : Draw)
      (result : Option (Except CliError DeviceIdentity))
  | start (common : Common) (listens : Bool) (reading : Surroundings)
      (result : Option (Except CliError Node))
  | history (line : String) (result : Option (Except StorageError Unit))
  | powerLoss

inductive Step (roundTrip : PeerIdTextRoundTrip) (blind : Prop) : DataDir → Event → DataDir → Prop
  | init {disk next : DataDir} {listenPort : Option UInt16} {name : String} {draw : Draw}
      {result : Option (Except CliError DeviceIdentity)}
      (ends : Ends blind (cmdInit listenPort name draw).run disk result next) :
      Step roundTrip blind disk (.init listenPort name draw result) next
  | start {disk next : DataDir} {common : Common} {listens : Bool} {reading : Surroundings}
      {result : Option (Except CliError Node)}
      (ends : Ends blind (newNode roundTrip common listens reading).run disk result next) :
      Step roundTrip blind disk (.start common listens reading result) next
  | history {disk next : DataDir} {line : String} {result : Option (Except StorageError Unit)}
      (ends : Ends blind (Storage.appendLine line).run disk result next) :
      Step roundTrip blind disk (.history line result) next
  | powerLoss {disk next : DataDir} (loss : disk.PowerLoss next) :
      Step roundTrip blind disk .powerLoss next

def Named (name : String) : Prop := name ≠ "" ∧ (utf8Bytes name).length ≤ maxUserName

def Reads : Storage.Event → Prop
  | .ensure _ | .loadIdentity _ | .loadConfig _ => True
  | _ => False

inductive Performs : Event → List Storage.Event → Prop
  /-- `init` writes nothing unless it finds no identity. -/
  | refused {listenPort : Option UInt16} {name : String} {draw : Draw}
      {result : Option (Except CliError DeviceIdentity)} {events : List Storage.Event}
      (reads : ∀ event ∈ events, Reads event) (failed : ∀ identity, result ≠ some (.ok identity)) :
      Performs (.init listenPort name draw result) events
  | saving {listenPort : Option UInt16} {name : String} {draw : Draw}
      {result : Option (Except CliError DeviceIdentity)}
      {saved : Option (Except StorageError Unit)} (named : Named name)
      (failed : ∀ identity, result ≠ some (.ok identity)) :
      Performs (.init listenPort name draw result)
        [.loadIdentity (some (.ok none)), .saveIdentity (draw.identity name) saved]
  | configuring {listenPort : Option UInt16} {name : String} {draw : Draw}
      {result : Option (Except CliError DeviceIdentity)}
      {saved : Option (Except StorageError Unit)} (named : Named name)
      (returned : ∀ identity, result = some (.ok identity) → identity = draw.identity name) :
      Performs (.init listenPort name draw result)
        [.loadIdentity (some (.ok none)), .saveIdentity (draw.identity name) (some (.ok ())),
          .saveConfig { listenPort := listenPort.getD defaultPort } saved]
  | stopped {common : Common} {listens : Bool} {reading : Surroundings}
      {result : Option (Except CliError Node)} {events : List Storage.Event}
      (reads : ∀ event ∈ events, Reads event) (failed : ∀ node, result ≠ some (.ok node)) :
      Performs (.start common listens reading result) events
  | started {common : Common} {reading : Surroundings} {config : NodeConfig} {options : NodeOptions}
      {identity : DeviceIdentity}
      (port : options.listenPort =
        (common.listenPort.or (some config.listenPort)).getD defaultPort) :
      Performs (.start common true reading (some (.ok (Node.new identity options reading))))
        [.loadConfig (some (.ok config)), .ensure (some (.ok ())),
          .loadIdentity (some (.ok (some identity)))]
  | history (line : String) (result : Option (Except StorageError Unit)) :
      Performs (.history line result) [.appendLine line result]
  | powerLoss : Performs .powerLoss [.powerLoss]

variable {roundTrip : PeerIdTextRoundTrip} {blind : Prop} {disk next final : DataDir}

theorem performs_init {listenPort : Option UInt16} {name : String} {draw : Draw}
    {result : Option (Except CliError DeviceIdentity)}
    (ends : Ends blind (cmdInit listenPort name draw).run disk result next) :
    ∃ events, Trace (Storage.Step blind) disk events next ∧
      Performs (.init listenPort name draw result) events := by
  have nothing {error : CliError}
      (ends : Ends blind (Program.done (Except.error error)) disk result next) :
      ∃ events, Trace (Storage.Step blind) disk events next ∧
        Performs (.init listenPort name draw result) events := by
    cases ends with
    | done => exact ⟨[], .nil disk, .refused nofun nofun⟩
    | killed => exact ⟨[], .nil disk, .refused nofun nofun⟩
  unfold cmdInit at ends
  by_cases empty : name.isEmpty
  · rw [if_pos empty] at ends
    exact nothing ends
  rw [if_neg empty] at ends
  by_cases long : (utf8Bytes name).length > maxUserName
  · rw [if_pos long] at ends
    exact nothing ends
  rw [if_neg long] at ends
  have named : Named name := by
    refine ⟨?_, Nat.le_of_not_lt long⟩
    rintro rfl
    exact empty rfl
  rcases ends_reporting ends with ⟨rfl, answer, loads⟩ | ⟨error, rfl, loads⟩ |
    ⟨found, middle, loads, ends⟩
  · exact ⟨[.loadIdentity answer], .single (.loadIdentity loads), .refused (by simp [Reads]) nofun⟩
  · exact ⟨[.loadIdentity _], .single (.loadIdentity loads), .refused (by simp [Reads]) nofun⟩
  cases found with
  | some identity =>
      have checked : Trace (Storage.Step blind) disk [_] middle := .single (.loadIdentity loads)
      cases ends with
      | done => exact ⟨_, checked, .refused (by simp [Reads]) nofun⟩
      | killed => exact ⟨_, checked, .refused (by simp [Reads]) nofun⟩
  | none =>
      rcases ends_reporting ends with ⟨rfl, answer, saves⟩ | ⟨error, rfl, saves⟩ |
        ⟨_, written, saves, ends⟩
      · exact ⟨_, .cons (.loadIdentity loads) (.single (.saveIdentity saves)), .saving named nofun⟩
      · exact ⟨_, .cons (.loadIdentity loads) (.single (.saveIdentity saves)), .saving named nofun⟩
      rcases ends_reporting ends with ⟨rfl, answer, saves'⟩ | ⟨error, rfl, saves'⟩ |
        ⟨_, configured, saves', ends⟩
      · exact ⟨_, .cons (.loadIdentity loads) (.cons (.saveIdentity saves)
          (.single (.saveConfig saves'))), .configuring named nofun⟩
      · exact ⟨_, .cons (.loadIdentity loads) (.cons (.saveIdentity saves)
          (.single (.saveConfig saves'))), .configuring named nofun⟩
      have all : Trace (Storage.Step blind) disk [_, _, _] configured :=
        .cons (.loadIdentity loads) (.cons (.saveIdentity saves) (.single (.saveConfig saves')))
      cases ends with
      | done =>
          refine ⟨_, all, .configuring named ?_⟩
          intro identity same
          cases same
          rfl
      | killed => exact ⟨_, all, .configuring named nofun⟩

theorem ends_buildOptions {common : Common} {result : Option (Except CliError NodeOptions)}
    (ends : Ends blind (buildOptions roundTrip common).run disk result next) :
    ∃ answer, Ends blind Storage.loadConfig.run disk answer next ∧
      ∀ options, result = some (.ok options) → ∃ config, answer = some (.ok config) ∧
        options.listenPort = (common.listenPort.or (some config.listenPort)).getD defaultPort := by
  unfold buildOptions at ends
  rcases ends_reporting ends with ⟨rfl, answer, loads⟩ | ⟨error, rfl, loads⟩ |
    ⟨config, middle, loads, ends⟩
  · exact ⟨answer, loads, nofun⟩
  · exact ⟨_, loads, nofun⟩
  cases bootstrapped : common.bootstrap.mapM (BootstrapPeer.parse roundTrip) with
  | error message =>
      simp only [bootstrapped] at ends
      cases ends with
      | done => exact ⟨_, loads, nofun⟩
      | killed => exact ⟨_, loads, nofun⟩
  | ok bootstrap =>
      cases relayed : common.relay.mapM (BootstrapPeer.parse roundTrip) with
      | error message =>
          simp only [bootstrapped, relayed] at ends
          cases ends with
          | done => exact ⟨_, loads, nofun⟩
          | killed => exact ⟨_, loads, nofun⟩
      | ok relays =>
          simp only [bootstrapped, relayed] at ends
          cases ends with
          | done =>
              refine ⟨_, loads, ?_⟩
              rintro options same
              cases same
              exact ⟨config, rfl, rfl⟩
          | killed => exact ⟨_, loads, nofun⟩

theorem performs_start {common : Common} {listens : Bool} {reading : Surroundings}
    {result : Option (Except CliError Node)}
    (ends : Ends blind (newNode roundTrip common listens reading).run disk result next) :
    ∃ events, Trace (Storage.Step blind) disk events next ∧
      Performs (.start common listens reading result) events := by
  have refused (error : CliError) (node : Node) :
      (some (.error error) : Option (Except CliError Node)) ≠ some (.ok node) := by
    intro same
    cases same
  have killed (node : Node) : (none : Option (Except CliError Node)) ≠ some (.ok node) := by
    intro same
    cases same
  unfold newNode at ends
  rcases ends_andThen ends with ⟨rfl, answer, builds⟩ | ⟨error, rfl, builds⟩ |
    ⟨options, configured, builds, ends⟩
  · obtain ⟨_, loads, -⟩ := ends_buildOptions builds
    exact ⟨_, .single (.loadConfig loads), .stopped (by simp [Reads]) killed⟩
  · obtain ⟨_, loads, -⟩ := ends_buildOptions builds
    exact ⟨_, .single (.loadConfig loads), .stopped (by simp [Reads]) (refused _)⟩
  obtain ⟨_, loads, configures⟩ := ends_buildOptions builds
  obtain ⟨config, rfl, port⟩ := configures options rfl
  rcases ends_reporting ends with ⟨rfl, answer, ensures⟩ | ⟨error, rfl, ensures⟩ |
    ⟨_, ensured, ensures, ends⟩
  · exact ⟨_, .cons (.loadConfig loads) (.single (.ensure ensures)),
      .stopped (by simp [Reads]) killed⟩
  · exact ⟨_, .cons (.loadConfig loads) (.single (.ensure ensures)),
      .stopped (by simp [Reads]) (refused _)⟩
  have reads {answer : Option (Except StorageError (Option DeviceIdentity))} {final : DataDir}
      (identified : Ends blind Storage.loadIdentity.run ensured answer final) :
      Trace (Storage.Step blind) disk
        [.loadConfig (some (.ok config)), .ensure (some (.ok ())), .loadIdentity answer] final :=
    .cons (.loadConfig loads) (.cons (.ensure ensures) (.single (.loadIdentity identified)))
  have stopped {answer : Option (Except StorageError (Option DeviceIdentity))}
      (identified : Ends blind Storage.loadIdentity.run ensured answer next)
      (failed : ∀ node, result ≠ some (.ok node)) :
      ∃ events, Trace (Storage.Step blind) disk events next ∧
        Performs (.start common listens reading result) events :=
    ⟨_, reads identified, .stopped (by simp [Reads]) failed⟩
  unfold loadIdentity at ends
  rcases ends_andThen ends with ⟨rfl, answer, identifies⟩ | ⟨error, rfl, identifies⟩ |
    ⟨identity, identified, identifies, ends⟩
  · rcases ends_reporting identifies with ⟨-, _, inner⟩ | ⟨_, -, inner⟩ | ⟨found, _, inner, after⟩
    · exact stopped inner killed
    · exact stopped inner killed
    · cases found with
      | none => cases after <;> exact stopped inner killed
      | some identity => cases after <;> exact stopped inner killed
  · rcases ends_reporting identifies with ⟨impossible, -⟩ | ⟨_, -, inner⟩ | ⟨found, _, inner, after⟩
    · cases impossible
    · exact stopped inner (refused _)
    · cases found with
      | none =>
          cases after
          exact stopped inner (refused _)
      | some identity => cases after
  · rcases ends_reporting identifies with ⟨impossible, -⟩ | ⟨_, impossible, -⟩ |
      ⟨found, _, inner, after⟩
    · cases impossible
    · cases impossible
    · cases found with
      | none => cases after
      | some identity =>
          cases after
          cases listens with
          | false =>
              cases ends with
              | done => exact stopped inner (refused _)
              | killed => exact stopped inner killed
          | true =>
              cases ends with
              | done => exact ⟨_, reads inner, .started port⟩
              | killed => exact stopped inner killed

/-- Every command is a run of the storage. -/
theorem Step.performs {event : Event} (step : Step roundTrip blind disk event next) :
    ∃ events, Trace (Storage.Step blind) disk events next ∧ Performs event events := by
  cases step with
  | init ends => exact performs_init ends
  | start ends => exact performs_start ends
  | history ends => exact ⟨_, .single (.appendLine ends), .history _ _⟩
  | powerLoss loss => exact ⟨_, .single (.powerLoss loss), .powerLoss⟩

theorem storage_trace {events : List Event}
    (trace : Trace (Step roundTrip blind) disk events final) :
    ∃ groups, List.Forall₂ Performs events groups ∧
      Trace (Storage.Step blind) disk groups.flatten final := by
  induction trace with
  | nil state => exact ⟨[], .nil, .nil state⟩
  | cons first _ ih =>
      obtain ⟨group, here, performs⟩ := first.performs
      obtain ⟨groups, all, later⟩ := ih
      exact ⟨group :: groups, .cons performs all, here.append later⟩

/-! ### Where the identity comes from -/

omit [StorageCrates] in
/-- Only `init` saves, and only under an accepted name. -/
theorem Performs.saves {event : Event} {group : List Storage.Event}
    (performs : Performs event group) :
    (∀ identity saved, .saveIdentity identity saved ∈ group → ∃ listenPort name draw result,
      event = .init listenPort name draw result ∧ Named name ∧ identity = draw.identity name) ∧
    ∀ config saved, .saveConfig config saved ∈ group → ∃ listenPort name draw result,
      event = .init listenPort name draw result ∧
      config.listenPort = listenPort.getD defaultPort := by
  have silent {events : List Storage.Event} (reads : ∀ event ∈ events, Reads event) :
      (∀ identity saved, .saveIdentity identity saved ∉ events) ∧
        ∀ config saved, .saveConfig config saved ∉ events :=
    ⟨fun _ _ member => reads _ member, fun _ _ member => reads _ member⟩
  cases performs with
  | refused reads _ =>
      exact ⟨fun _ _ member => absurd member ((silent reads).1 _ _),
        fun _ _ member => absurd member ((silent reads).2 _ _)⟩
  | stopped reads _ =>
      exact ⟨fun _ _ member => absurd member ((silent reads).1 _ _),
        fun _ _ member => absurd member ((silent reads).2 _ _)⟩
  | saving named _ =>
      refine ⟨?_, by simp⟩
      intro identity saved member
      simp only [List.mem_cons, List.not_mem_nil, or_false, reduceCtorEq, false_or] at member
      cases member
      exact ⟨_, _, _, _, rfl, named, rfl⟩
  | configuring named _ =>
      constructor
      · intro identity saved member
        simp only [List.mem_cons, List.not_mem_nil, or_false, reduceCtorEq, false_or] at member
        cases member
        exact ⟨_, _, _, _, rfl, named, rfl⟩
      · intro config saved member
        simp only [List.mem_cons, List.not_mem_nil, or_false, reduceCtorEq, false_or] at member
        cases member
        exact ⟨_, _, _, _, rfl, rfl⟩
  | started _ => exact ⟨by simp, by simp⟩
  | history _ _ => exact ⟨by simp, by simp⟩
  | powerLoss => exact ⟨by simp, by simp⟩

omit [StorageCrates] in
theorem exists_performs {events : List Event} {groups : List (List Storage.Event)}
    (all : List.Forall₂ Performs events groups) {event : Storage.Event}
    (member : event ∈ groups.flatten) :
    ∃ command ∈ events, ∃ group, Performs command group ∧ event ∈ group := by
  induction all with
  | nil => cases member
  | cons performs _ ih =>
      rw [List.flatten_cons, List.mem_append] at member
      rcases member with here | later
      · exact ⟨_, List.mem_cons_self, _, performs, here⟩
      · obtain ⟨command, among, found⟩ := ih later
        exact ⟨command, List.mem_cons_of_mem _ among, found⟩

/-- A node that starts has an identity that some `init` made, under an accepted name, and
listens on the port it is given, or else on the one of some `init` or the default port. -/
theorem started_from_init (laws : Storage.Laws) {events : List Event} {common : Common}
    {listens : Bool} {reading : Surroundings} {node : Node}
    (trace : Trace (Step roundTrip blind) .empty events disk)
    (step : Step roundTrip blind disk (.start common listens reading (some (.ok node))) next) :
    (∃ listenPort name draw result, .init listenPort name draw result ∈ events ∧ Named name ∧
      node.identity = draw.identity name) ∧
    ∃ port, node.listenPort = common.listenPort.getD port ∧ (port = defaultPort ∨
      ∃ listenPort name draw result, .init listenPort name draw result ∈ events ∧
        port = listenPort.getD defaultPort) := by
  obtain ⟨groups, all, before⟩ := storage_trace trace
  obtain ⟨group, here, performs⟩ := step.performs
  cases performs with
  | stopped _ failed => exact absurd rfl (failed node)
  | started port =>
      rename_i config options identity
      cases here with
      | cons configures here =>
          cases here with
          | cons ensures here =>
              cases here with
              | cons identifies _ =>
                  have earlier := before.append (.cons configures (.single ensures))
                  constructor
                  · rcases (Storage.loads_what_was_saved laws earlier).1 _ identifies with
                      unread | absent | ⟨saved, result, member, same⟩
                    · cases unread
                    · cases absent
                    · cases same
                      rw [List.mem_append] at member
                      rcases member with among | impossible
                      · obtain ⟨command, inRun, group, made, inGroup⟩ := exists_performs all among
                        obtain ⟨listenPort, name, draw, outcome, rfl, named, same⟩ :=
                          made.saves.1 _ _ inGroup
                        exact ⟨listenPort, name, draw, outcome, inRun, named, same⟩
                      · simp at impossible
                  · have given : options.listenPort = common.listenPort.getD config.listenPort := by
                      rw [port]
                      cases common.listenPort <;> rfl
                    refine ⟨config.listenPort, given, ?_⟩
                    rcases (Storage.loads_what_was_saved laws before).2 _ configures with
                      unread | absent | ⟨saved, result, member, same⟩
                    · cases unread
                    · cases absent
                      exact .inl rfl
                    · cases same
                      obtain ⟨command, inRun, group, made, inGroup⟩ := exists_performs all member
                      obtain ⟨listenPort, name, draw, outcome, rfl, same⟩ :=
                        made.saves.2 _ _ inGroup
                      exact .inr ⟨listenPort, name, draw, outcome, inRun, same⟩

/-! ### One identity -/

def Event.identity? : Event → Option DeviceIdentity
  | init _ _ _ (some (.ok identity)) => some identity
  | start _ _ _ (some (.ok node)) => some node.identity
  | _ => none

omit [StorageCrates] in
theorem result_of_init {listenPort : Option UInt16} {name : String} {draw : Draw}
    {result : Option (Except CliError DeviceIdentity)} {identity : DeviceIdentity}
    (found : (Event.init listenPort name draw result).identity? = some identity) :
    result = some (.ok identity) := by
  cases result with
  | none => cases found
  | some answer =>
      cases answer with
      | error _ => cases found
      | ok made =>
          cases found
          rfl

omit [StorageCrates] in
theorem result_of_start {common : Common} {listens : Bool} {reading : Surroundings}
    {result : Option (Except CliError Node)} {identity : DeviceIdentity}
    (found : (Event.start common listens reading result).identity? = some identity) :
    ∃ node, result = some (.ok node) ∧ node.identity = identity := by
  cases result with
  | none => cases found
  | some answer =>
      cases answer with
      | error _ => cases found
      | ok node => exact ⟨node, rfl, Option.some.inj found⟩

/-- The identity is in the data directory. -/
def Settled (identity : DeviceIdentity) (disk : DataDir) : Prop :=
  Storage.identityDocument.Encodes identity (disk.live identityFile)

theorem Settled.of_live {identity : DeviceIdentity} (settled : Settled identity disk)
    (live : next.live identityFile = disk.live identityFile) : Settled identity next := by
  unfold Settled
  rw [live]
  exact settled

theorem Settled.loads (laws : Storage.Laws) {identity : DeviceIdentity}
    {found : Option DeviceIdentity} (settled : Settled identity disk)
    (step : Storage.Step False disk (.loadIdentity (some (.ok found))) next) :
    found = some identity := by
  cases step with
  | loadIdentity ends =>
      rw [Storage.loadIdentity_eq] at ends
      rcases Storage.load_of_encodes (Storage.identityDocument_lawful laws) settled ends with
        unread | same | ⟨impossible, -⟩
      · cases unread
      · exact Except.ok.inj same
      · exact impossible.elim

theorem settled_of_reads {identity : DeviceIdentity} {events : List Storage.Event}
    (settled : Settled identity disk) (reads : ∀ event ∈ events, Reads event)
    (trace : Trace (Storage.Step blind) disk events final) : Settled identity final := by
  refine settled.of_live (Storage.live_of_quiet trace ?_)
  intro event member
  have only := reads event member
  cases event with
  | ensure result => exact ⟨nofun, List.not_mem_nil⟩
  | loadIdentity result => exact ⟨nofun, List.not_mem_nil⟩
  | loadConfig result => exact ⟨nofun, List.not_mem_nil⟩
  | saveIdentity identity result => exact only.elim
  | saveConfig config result => exact only.elim
  | appendLine line result => exact only.elim
  | powerLoss => exact only.elim

theorem Settled.step (laws : Storage.Laws) {identity : DeviceIdentity} {event : Event}
    (settled : Settled identity disk) (step : Step roundTrip False disk event next)
    (powered : event ≠ .powerLoss) : Settled identity next := by
  obtain ⟨group, trace, performs⟩ := step.performs
  cases performs with
  | refused reads _ => exact settled_of_reads settled reads trace
  | stopped reads _ => exact settled_of_reads settled reads trace
  | started _ => exact settled_of_reads settled (by simp [Reads]) trace
  | saving _ _ =>
      cases trace with
      | cons loads _ => cases settled.loads laws loads
  | configuring _ _ =>
      cases trace with
      | cons loads _ => cases settled.loads laws loads
  | history line result =>
      refine settled.of_live (Storage.live_of_quiet trace ?_)
      intro event member
      rw [List.mem_singleton] at member
      subst member
      exact ⟨nofun, show identityFile ∉ [historyFile] by decide⟩
  | powerLoss => exact absurd rfl powered

theorem Settled.run (laws : Storage.Laws) {identity : DeviceIdentity} {events : List Event}
    (settled : Settled identity disk) (trace : Trace (Step roundTrip False) disk events final)
    (powered : ∀ event ∈ events, event ≠ .powerLoss) : Settled identity final := by
  induction trace with
  | nil _ => exact settled
  | cons step _ ih =>
      exact ih (settled.step laws step (powered _ List.mem_cons_self))
        fun event member => powered event (List.mem_cons_of_mem _ member)

/-- The identity a command has made or found is in the data directory afterwards. -/
theorem settled_of_step (laws : Storage.Laws) {events : List Storage.Event} {event : Event}
    {identity : DeviceIdentity} (earlier : Storage.Intact events disk)
    (step : Step roundTrip blind disk event next) (found : event.identity? = some identity) :
    Settled identity next := by
  obtain ⟨group, trace, performs⟩ := step.performs
  cases performs with
  | refused _ failed => exact absurd (result_of_init found) (failed identity)
  | saving _ failed => exact absurd (result_of_init found) (failed identity)
  | stopped _ failed =>
      obtain ⟨node, returned, -⟩ := result_of_start found
      exact absurd returned (failed node)
  | configuring _ returned =>
      cases returned identity (result_of_init found)
      cases trace with
      | cons loads rest =>
          cases rest with
          | cons saves rest =>
              have intact := earlier.step loads
              cases saves with
              | saveIdentity ends =>
                  have written := (Storage.made_of_save Storage.identityDocument_apart
                    intact.identity ends).2 rfl
                  refine Settled.of_live written (Storage.live_of_quiet rest ?_)
                  intro event member
                  rw [List.mem_singleton] at member
                  subst member
                  exact ⟨nofun,
                    show identityFile ∉ [configFile, withExtension configFile "tmp"] by decide⟩
  | started _ =>
      cases found
      cases trace with
      | cons configures rest =>
          cases rest with
          | cons ensures rest =>
              cases rest with
              | cons identifies rest =>
                  have intact := (earlier.step configures).step ensures
                  cases rest with
                  | nil =>
                      cases identifies with
                      | loadIdentity ends =>
                          rw [Storage.loadIdentity_eq] at ends
                          have same := Storage.eq_of_load ends
                          subst same
                          have loaded := ((Storage.triple_load blind _ _ _ _).outcome ends).2
                          rcases intact.identity.live with missing | ⟨saved, -, encodes⟩
                          · cases loaded with
                            | parsed there parses =>
                                rw [show Storage.identityDocument.name = identityFile from rfl,
                                  missing] at there
                                cases there
                          · rcases Storage.load_of_encodes (Storage.identityDocument_lawful laws)
                              encodes ends with unread | loadsSaved | ⟨-, absent⟩
                            · cases unread
                            · cases loadsSaved
                              exact encodes
                            · cases absent
  | history _ _ => cases found
  | powerLoss => cases found

/-- A data directory has one identity: what a command has made or found is what every later
command finds, and no later `init` succeeds, as long as the power is not lost. -/
theorem one_identity (laws : Storage.Laws) {before between : List Event} {first second : Event}
    {identity other : DeviceIdentity}
    (trace : Trace (Step roundTrip False) .empty (before ++ first :: (between ++ [second])) disk)
    (powered : ∀ event ∈ between, event ≠ .powerLoss) (found : first.identity? = some identity)
    (again : second.identity? = some other) :
    other = identity ∧ ∃ common listens reading result,
      second = .start common listens reading result := by
  obtain ⟨start, earlier, rest⟩ := trace.split
  obtain ⟨groups, -, stored⟩ := storage_trace earlier
  cases rest with
  | cons finds rest =>
      have settled := settled_of_step laws (Storage.intact_of_trace stored) finds found
      obtain ⟨later, kept, last⟩ := rest.split
      have still := settled.run laws kept powered
      cases last with
      | cons step _ =>
          obtain ⟨group, performed, performs⟩ := step.performs
          cases performs with
          | refused _ failed => exact absurd (result_of_init again) (failed other)
          | saving _ _ =>
              cases performed with
              | cons loads _ => cases still.loads laws loads
          | configuring _ _ =>
              cases performed with
              | cons loads _ => cases still.loads laws loads
          | stopped _ failed =>
              obtain ⟨node, returned, -⟩ := result_of_start again
              exact absurd returned (failed node)
          | started _ =>
              cases again
              refine ⟨?_, _, _, _, _, rfl⟩
              cases performed with
              | cons configures performed =>
                  cases performed with
                  | cons ensures performed =>
                      have unchanged := settled_of_reads still (by simp [Reads])
                        (.cons configures (.single ensures))
                      cases performed with
                      | cons identifies _ =>
                          exact Option.some.inj (unchanged.loads laws identifies)
          | history _ _ => cases again
          | powerLoss => cases again

end Runs

section Sample

open Symbolic

omit [Crates]

noncomputable def sampleDraw : @Draw hexCrates :=
  @Draw.mk hexCrates (fit 32 [5]) (.zero 16) (.zero 16) [5]

def sampleCommon : Common :=
  { listenPort := none
    bootstrap := []
    relay := []
    relayServer := false }

theorem exists_started_sample (roundTrip : @PeerIdTextRoundTrip hexCrates)
    (reading : @Surroundings hexCrates) :
    letI := hexCrates
    letI := Storage.sampleStorage
    ∃ made disk options, options.listenPort = 9000 ∧
      Step roundTrip False .empty (.init none "ada" sampleDraw (some (.ok hexDevice))) made ∧
      Step roundTrip False made
        (.start sampleCommon true reading (some (.ok (Node.new hexDevice options reading))))
        disk := by
  let _ := hexCrates
  let _ := Storage.sampleStorage
  have configEncoded : Storage.configDocument.encode NodeConfig.default =
      some (Storage.jsonConfig NodeConfig.default) := Storage.configToJson_sample
  obtain ⟨saved, saves⟩ := Storage.ends_save False Disk.empty Storage.encode_sample
  obtain ⟨made, configures⟩ := Storage.ends_save False saved configEncoded
  have intact := Storage.intact_empty.step (.saveIdentity saves)
  have identified := (Storage.made_of_save Storage.identityDocument_apart
    Storage.intact_empty.identity saves).2 rfl
  have configured :=
    (Storage.made_of_save Storage.configDocument_apart intact.config configures).2 rfl
  have spared : saved.Spared made identityFile := Storage.spared_of_save
    Storage.configDocument_apart configures
      (show identityFile ∉ [configFile, withExtension configFile "tmp"] by decide)
  have settled : Settled hexDevice made := Settled.of_live identified spared.live
  have missing : Ends False Storage.loadIdentity.run Disk.empty (some (.ok none)) Disk.empty := by
    rw [Storage.loadIdentity_eq]
    exact Storage.ends_load_missing False rfl
  have loadsConfig :
      Ends False Storage.loadConfig.run made (some (.ok NodeConfig.default)) made := by
    rw [Storage.loadConfig_eq]
    exact Storage.ends_load False (Storage.configDocument_lawful Storage.sampleStorage_laws)
      configured
  have loads : Ends False Storage.loadIdentity.run made (some (.ok (some hexDevice))) made := by
    rw [Storage.loadIdentity_eq]
    exact Storage.ends_load False (Storage.identityDocument_lawful Storage.sampleStorage_laws)
      settled
  have ensures : Ends False Storage.ensure.run made (some (.ok ())) made :=
    .call .makeDir (.done _ _)
  let options : NodeOptions :=
    { listenPort := 9000
      bootstrap := []
      externalIps := []
      relay := none
      relayServer := false }
  refine ⟨made, made, options, rfl, .init ?_, .start ?_⟩
  · exact Ends.andThen (Ends.reporting missing) (Ends.andThen (Ends.reporting saves)
      (Ends.andThen (Ends.reporting configures) (.done _ _)))
  · exact Ends.andThen (Ends.andThen (Ends.reporting loadsConfig) (.done _ _))
      (Ends.andThen (Ends.reporting ensures)
        (Ends.andThen (Ends.andThen (Ends.reporting loads) (.done _ _)) (.done _ _)))

theorem sampleRoundTrip : @PeerIdTextRoundTrip hexCrates :=
  @RecordLaws.peerIdText hexCrates hexCrates_recordLaws

noncomputable def sampleReading : @Surroundings hexCrates :=
  letI := hexCrates
  { instant := 1000000
    nowMs := fun _ => 1700000000000
    msgIds := fun draw => UInt64.ofNat draw
    random := [7]
    unixSecs := 1700000000
    localIps := none
    listeners := []
    connectedPeers := 0
    queryIds := id }

theorem started_from_init_sample :
    letI := hexCrates
    ∃ node : Node, node.identity = hexDevice ∧
      ((∃ listenPort name draw result,
        .init listenPort name draw result ∈
          [Event.init none "ada" sampleDraw (some (.ok hexDevice))] ∧
          Named name ∧ node.identity = draw.identity name) ∧
      ∃ port, node.listenPort = sampleCommon.listenPort.getD port ∧ (port = defaultPort ∨
        ∃ listenPort name draw result,
          .init listenPort name draw result ∈
            [Event.init none "ada" sampleDraw (some (.ok hexDevice))] ∧
            port = listenPort.getD defaultPort)) := by
  let _ := hexCrates
  let _ := Storage.sampleStorage
  obtain ⟨made, disk, options, -, inits, starts⟩ :=
    exists_started_sample sampleRoundTrip sampleReading
  exact ⟨_, rfl, started_from_init Storage.sampleStorage_laws (.single inits) starts⟩

theorem one_identity_sample :
    letI := hexCrates
    letI := Storage.sampleStorage
    ∃ disk second other, Trace (Step sampleRoundTrip False) .empty
        [.init none "ada" sampleDraw (some (.ok hexDevice)), second] disk ∧
      second.identity? = some other ∧ other = hexDevice ∧
        ∃ common listens reading result, second = .start common listens reading result := by
  let _ := hexCrates
  let _ := Storage.sampleStorage
  obtain ⟨made, disk, options, -, inits, starts⟩ :=
    exists_started_sample sampleRoundTrip sampleReading
  have trace : Trace (Step sampleRoundTrip False) .empty ([] ++
      .init none "ada" sampleDraw (some (.ok hexDevice)) :: ([] ++
        [.start sampleCommon true sampleReading
          (some (.ok (Node.new hexDevice options sampleReading)))])) disk :=
    .cons inits (.single starts)
  have powered (event : Event) (member : event ∈ []) : event ≠ .powerLoss := nomatch member
  have found : (Event.init none "ada" sampleDraw (some (.ok hexDevice))).identity? =
      some hexDevice := rfl
  have again : (Event.start sampleCommon true sampleReading
      (some (.ok (Node.new hexDevice options sampleReading)))).identity? = some hexDevice := rfl
  exact ⟨disk, _, _, trace, again,
    one_identity Storage.sampleStorage_laws trace powered found again⟩

end Sample

end Cli

end JeanGrey
