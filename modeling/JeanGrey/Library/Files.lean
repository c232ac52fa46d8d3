/-
Programs that work on files.

A program makes file-system calls one after the other and looks at their
results.  A call can fail with part of its work done, and the process can be
killed at any call.  When the power is lost, a file that was not synced holds
anything, and a rename has taken place or not.

`Triple` is the program logic: a precondition, a postcondition, and a condition
that holds wherever the process is killed.
-/

import Mathlib.Data.List.Basic
import Mathlib.Logic.Function.Basic

namespace Files

variable {Name Byte α β ε : Type}

/-- `live` is what a process reads, `kept` what it can read after a loss of
power. -/
structure Disk (Name Byte : Type) where
  live : Name → Option (List Byte)
  kept : Name → Option (List Byte) → Prop

namespace Disk

def empty : Disk Name Byte :=
  { live := fun _ => none
    kept := fun _ content => content = none }

/-- Each name is found with something that was kept under it. -/
structure PowerLoss (disk next : Disk Name Byte) : Prop where
  found : ∀ name, disk.kept name (next.live name)
  settled : ∀ name content, next.kept name content → content = next.live name

end Disk

/-! ### What is found under a name -/

/-- Whatever is found under the name, now or after a loss of power, is possible. -/
structure Disk.Holds (disk : Disk Name Byte) (name : Name)
    (possible : Option (List Byte) → Prop) : Prop where
  live : possible (disk.live name)
  kept : ∀ content, disk.kept name content → possible content

structure Disk.Spared (disk next : Disk Name Byte) (name : Name) : Prop where
  live : next.live name = disk.live name
  kept : next.kept name = disk.kept name

namespace Disk

variable {disk next : Disk Name Byte} {name : Name}
  {possible : Option (List Byte) → Prop}

theorem Holds.mono {allowed : Option (List Byte) → Prop} (holds : disk.Holds name possible)
    (wider : ∀ content, possible content → allowed content) : disk.Holds name allowed :=
  ⟨wider _ holds.live, fun content kept => wider content (holds.kept content kept)⟩

theorem Holds.spared (holds : disk.Holds name possible) (spared : disk.Spared next name) :
    next.Holds name possible := by
  refine ⟨?_, ?_⟩
  · rw [spared.live]
    exact holds.live
  · rw [spared.kept]
    exact holds.kept

theorem Holds.powerLoss (holds : disk.Holds name possible) (loss : PowerLoss disk next) :
    next.Holds name possible := by
  have found := holds.kept _ (loss.found name)
  refine ⟨found, ?_⟩
  intro content kept
  rw [loss.settled name content kept]
  exact found

theorem holds_empty (name : Name) (absent : possible none) :
    (empty : Disk Name Byte).Holds name possible :=
  ⟨absent, fun _ missing => missing.symm ▸ absent⟩

theorem Spared.refl (disk : Disk Name Byte) (name : Name) : disk.Spared disk name := ⟨rfl, rfl⟩

theorem Spared.trans {final : Disk Name Byte} (first : disk.Spared next name)
    (second : next.Spared final name) : disk.Spared final name :=
  ⟨second.live.trans first.live, second.kept.trans first.kept⟩

end Disk

/-! ### Programs -/

inductive Call (Name Byte : Type) where
  | makeDir
  /-- Open for writing, truncated. -/
  | create (name : Name)
  /-- Write at the end, which makes the file if there is none. -/
  | append (name : Name) (bytes : List Byte)
  | sync (name : Name)
  | rename (source target : Name)

/-- The result of a call is whether it succeeded; a file that is not read is
`none`. -/
inductive Program (Name Byte α : Type) where
  | done (value : α)
  | present (name : Name) (next : Bool → Program Name Byte α)
  | read (name : Name) (next : Option (List Byte) → Program Name Byte α)
  | call (call : Call Name Byte) (next : Bool → Program Name Byte α)

namespace Program

def bind : Program Name Byte α → (α → Program Name Byte β) → Program Name Byte β
  | done value, later => later value
  | present name next, later => present name fun answer => (next answer).bind later
  | read name next, later => read name fun answer => (next answer).bind later
  | call change next, later => call change fun answer => (next answer).bind later

instance : Monad (Program Name Byte) where
  pure := done
  bind := bind

end Program

/-! ### What the calls do -/

namespace Disk

variable [DecidableEq Name]

def create (disk : Disk Name Byte) (name : Name) : Disk Name Byte :=
  { live := Function.update disk.live name (some [])
    kept := Function.update disk.kept name fun _ => True }

def append (disk : Disk Name Byte) (name : Name) (bytes : List Byte) : Disk Name Byte :=
  { live := Function.update disk.live name (some ((disk.live name).getD [] ++ bytes))
    kept := Function.update disk.kept name fun _ => True }

/-- The content is safe; the name itself need not be. -/
def sync (disk : Disk Name Byte) (name : Name) : Disk Name Byte :=
  { disk with
    kept := Function.update disk.kept name fun content =>
      content = disk.live name ∨ content = none }

def rename (disk : Disk Name Byte) (source target : Name) (content : List Byte) : Disk Name Byte :=
  { live := Function.update (Function.update disk.live target (some content)) source none
    kept := Function.update
      (Function.update disk.kept target fun content =>
        disk.kept target content ∨ content ≠ none ∧ disk.kept source content)
      source fun content => content = none ∨ disk.kept source content }

end Disk

variable [DecidableEq Name]

/-- What a call can have done when it fails or is interrupted. -/
inductive Partly (disk : Disk Name Byte) : Call Name Byte → Disk Name Byte → Prop
  | untouched (call : Call Name Byte) : Partly disk call disk
  | created (name : Name) : Partly disk (.create name) (disk.create name)
  | shortened (name : Name) {front bytes : List Byte} (starts : front <+: bytes) :
      Partly disk (.append name bytes) (disk.append name front)

inductive Does (disk : Disk Name Byte) : Call Name Byte → Bool → Disk Name Byte → Prop
  | makeDir : Does disk .makeDir true disk
  | create (name : Name) : Does disk (.create name) true (disk.create name)
  | append (name : Name) (bytes : List Byte) :
      Does disk (.append name bytes) true (disk.append name bytes)
  | sync (name : Name) : Does disk (.sync name) true (disk.sync name)
  | rename {source : Name} (target : Name) {content : List Byte}
      (found : disk.live source = some content) :
      Does disk (.rename source target) true (disk.rename source target content)
  | fails {call : Call Name Byte} {next : Disk Name Byte} (part : Partly disk call next) :
      Does disk call false next

/-- Where a program can end, and with which value: none if it was killed.
`blind` allows that a file which is there is reported as missing. -/
inductive Ends (blind : Prop) :
    Program Name Byte α → Disk Name Byte → Option α → Disk Name Byte → Prop
  | done (value : α) (disk : Disk Name Byte) : Ends blind (.done value) disk (some value) disk
  | killed (program : Program Name Byte α) (disk : Disk Name Byte) :
      Ends blind program disk none disk
  | present {name : Name} {next : Bool → Program Name Byte α} {disk final : Disk Name Byte}
      {outcome : Option α} (answer : Bool)
      (honest : answer = (disk.live name).isSome ∨ blind ∧ answer = false)
      (rest : Ends blind (next answer) disk outcome final) :
      Ends blind (.present name next) disk outcome final
  | read {name : Name} {next : Option (List Byte) → Program Name Byte α}
      {disk final : Disk Name Byte} {outcome : Option α} (answer : Option (List Byte))
      (honest : answer = disk.live name ∨ answer = none)
      (rest : Ends blind (next answer) disk outcome final) :
      Ends blind (.read name next) disk outcome final
  | call {change : Call Name Byte} {next : Bool → Program Name Byte α}
      {disk middle final : Disk Name Byte} {outcome : Option α} {answer : Bool}
      (does : Does disk change answer middle)
      (rest : Ends blind (next answer) middle outcome final) :
      Ends blind (.call change next) disk outcome final
  | interrupted {change : Call Name Byte} {next : Bool → Program Name Byte α}
      {disk middle : Disk Name Byte} (part : Partly disk change middle) :
      Ends blind (.call change next) disk none middle

/-! ### The program logic -/

/-- From `pre`, the program returns in `post` or is killed in `killed`. -/
structure Triple (blind : Prop) (pre : Disk Name Byte → Prop) (program : Program Name Byte α)
    (post : α → Disk Name Byte → Prop) (killed : Disk Name Byte → Prop) : Prop where
  returns : ∀ disk value final, pre disk → Ends blind program disk (some value) final →
    post value final
  stops : ∀ disk final, pre disk → Ends blind program disk none final → killed final

namespace Triple

variable {blind : Prop} {pre killed : Disk Name Byte → Prop} {program : Program Name Byte α}
  {post : α → Disk Name Byte → Prop}

theorem outcome {disk final : Disk Name Byte} {outcome : Option α}
    (triple : Triple blind (fun before => before = disk) program post killed)
    (ends : Ends blind program disk outcome final) : match outcome with
      | none => killed final
      | some value => post value final := by
  cases outcome with
  | none => exact triple.stops disk final rfl ends
  | some value => exact triple.returns disk value final rfl ends

theorem done {value : α} (returns : ∀ disk, pre disk → post value disk)
    (stops : ∀ disk, pre disk → killed disk) :
    Triple blind pre (.done value : Program Name Byte α) post killed := by
  constructor
  · intro disk result final holds ends
    cases ends with
    | done => exact returns disk holds
  · intro disk final holds ends
    cases ends with
    | killed => exact stops disk holds

theorem present {name : Name} {next : Bool → Program Name Byte α}
    (stops : ∀ disk, pre disk → killed disk)
    (rest : ∀ answer, Triple blind
      (fun disk => pre disk ∧ (answer = (disk.live name).isSome ∨ blind ∧ answer = false))
      (next answer) post killed) :
    Triple blind pre (.present name next) post killed := by
  constructor
  · intro disk value final holds ends
    cases ends with
    | present answer honest ends =>
        exact (rest answer).returns disk value final ⟨holds, honest⟩ ends
  · intro disk final holds ends
    cases ends with
    | killed => exact stops disk holds
    | present answer honest ends => exact (rest answer).stops disk final ⟨holds, honest⟩ ends

theorem read {name : Name} {next : Option (List Byte) → Program Name Byte α}
    (stops : ∀ disk, pre disk → killed disk)
    (rest : ∀ answer, Triple blind
      (fun disk => pre disk ∧ (answer = disk.live name ∨ answer = none))
      (next answer) post killed) :
    Triple blind pre (.read name next) post killed := by
  constructor
  · intro disk value final holds ends
    cases ends with
    | read answer honest ends => exact (rest answer).returns disk value final ⟨holds, honest⟩ ends
  · intro disk final holds ends
    cases ends with
    | killed => exact stops disk holds
    | read answer honest ends => exact (rest answer).stops disk final ⟨holds, honest⟩ ends

theorem call {change : Call Name Byte} {next : Bool → Program Name Byte α}
    (middle : Bool → Disk Name Byte → Prop) (stops : ∀ disk, pre disk → killed disk)
    (parts : ∀ disk after, pre disk → Partly disk change after → killed after)
    (does : ∀ disk answer after, pre disk → Does disk change answer after → middle answer after)
    (rest : ∀ answer, Triple blind (middle answer) (next answer) post killed) :
    Triple blind pre (.call change next) post killed := by
  constructor
  · intro disk value final holds ends
    cases ends with
    | call did ends => exact (rest _).returns _ value final (does disk _ _ holds did) ends
  · intro disk final holds ends
    cases ends with
    | killed => exact stops disk holds
    | call did ends => exact (rest _).stops _ final (does disk _ _ holds did) ends
    | interrupted part => exact parts disk final holds part

theorem conseq {pre' killed' : Disk Name Byte → Prop} {post' : α → Disk Name Byte → Prop}
    (triple : Triple blind pre' program post' killed') (before : ∀ disk, pre disk → pre' disk)
    (after : ∀ value disk, post' value disk → post value disk)
    (stopped : ∀ disk, killed' disk → killed disk) : Triple blind pre program post killed := by
  constructor
  · intro disk value final holds ends
    exact after value final (triple.returns disk value final (before disk holds) ends)
  · intro disk final holds ends
    exact stopped final (triple.stops disk final (before disk holds) ends)

theorem ends_bind {later : α → Program Name Byte β} {disk final : Disk Name Byte}
    {outcome : Option β} (ends : Ends blind (program.bind later) disk outcome final) :
    (outcome = none ∧ Ends blind program disk none final) ∨
      ∃ value middle, Ends blind program disk (some value) middle ∧
        Ends blind (later value) middle outcome final := by
  induction program generalizing disk with
  | done value => exact .inr ⟨value, disk, .done value disk, ends⟩
  | present name next ih =>
      cases ends with
      | killed => exact .inl ⟨rfl, .killed _ _⟩
      | present answer honest ends =>
          rcases ih answer ends with ⟨none, first⟩ | ⟨value, middle, first, second⟩
          · exact .inl ⟨none, .present answer honest first⟩
          · exact .inr ⟨value, middle, .present answer honest first, second⟩
  | read name next ih =>
      cases ends with
      | killed => exact .inl ⟨rfl, .killed _ _⟩
      | read answer honest ends =>
          rcases ih answer ends with ⟨none, first⟩ | ⟨value, middle, first, second⟩
          · exact .inl ⟨none, .read answer honest first⟩
          · exact .inr ⟨value, middle, .read answer honest first, second⟩
  | call change next ih =>
      cases ends with
      | killed => exact .inl ⟨rfl, .killed _ _⟩
      | call did ends =>
          rcases ih _ ends with ⟨none, first⟩ | ⟨value, middle, first, second⟩
          · exact .inl ⟨none, .call did first⟩
          · exact .inr ⟨value, middle, .call did first, second⟩
      | interrupted part => exact .inl ⟨rfl, .interrupted part⟩

theorem bind {mid : α → Disk Name Byte → Prop} {post : β → Disk Name Byte → Prop}
    {later : α → Program Name Byte β} (first : Triple blind pre program mid killed)
    (rest : ∀ value, Triple blind (mid value) (later value) post killed) :
    Triple blind pre (program >>= later) post killed := by
  constructor
  · intro disk value final holds ends
    rcases ends_bind ends with ⟨none, -⟩ | ⟨result, middle, before, after⟩
    · cases none
    · exact (rest result).returns middle value final
        (first.returns disk result middle holds before) after
  · intro disk final holds ends
    rcases ends_bind ends with ⟨-, before⟩ | ⟨result, middle, before, after⟩
    · exact first.stops disk final holds before
    · exact (rest result).stops middle final (first.returns disk result middle holds before) after

end Triple

/-- A program that returns goes on with the part that follows. -/
theorem Ends.bind {blind : Prop} {program : Program Name Byte α} {later : α → Program Name Byte β}
    {disk middle final : Disk Name Byte} {value : α} {outcome : Option β}
    (first : Ends blind program disk (some value) middle)
    (rest : Ends blind (later value) middle outcome final) :
    Ends blind (program >>= later) disk outcome final := by
  induction program generalizing disk with
  | done _ =>
      cases first
      exact rest
  | present name next ih =>
      cases first with
      | present answer honest first => exact .present answer honest (ih answer first)
  | read name next ih =>
      cases first with
      | read answer honest first => exact .read answer honest (ih answer first)
  | call change next ih =>
      cases first with
      | call did first => exact .call did (ih _ first)

/-! ### Programs that can return an error -/

/-- The postcondition of a fallible program. -/
def ending (returned : α → Disk Name Byte → Prop) (refused : ε → Disk Name Byte → Prop) :
    Except ε α → Disk Name Byte → Prop
  | .ok value => returned value
  | .error error => refused error

namespace Triple

variable {blind : Prop} {pre killed : Disk Name Byte → Prop}
  {program : ExceptT ε (Program Name Byte) α} {refused : ε → Disk Name Byte → Prop}

theorem andThen {mid : α → Disk Name Byte → Prop} {post : β → Disk Name Byte → Prop}
    {later : α → ExceptT ε (Program Name Byte) β}
    (first : Triple blind pre program.run (ending mid refused) killed)
    (rest : ∀ value, Triple blind (mid value) (later value).run (ending post refused) killed)
    (stops : ∀ error disk, refused error disk → killed disk) :
    Triple blind pre (program >>= later).run (ending post refused) killed := by
  refine Triple.bind first ?_
  intro result
  cases result with
  | ok value => exact rest value
  | error error => exact Triple.done (fun _ holds => holds) (stops error)

end Triple

def reporting {δ : Type} (report : δ → ε) (program : ExceptT δ (Program Name Byte) α) :
    ExceptT ε (Program Name Byte) α :=
  ExceptT.mk (program.run >>= fun result => .done (match result with
    | .ok value => .ok value
    | .error error => .error (report error)))

/-- A fallible program ends in its first part, which is killed or returns an error, or in the
part that follows. -/
theorem ends_andThen {blind : Prop} {program : ExceptT ε (Program Name Byte) α}
    {later : α → ExceptT ε (Program Name Byte) β} {disk final : Disk Name Byte}
    {outcome : Option (Except ε β)} (ends : Ends blind (program >>= later).run disk outcome final) :
    (outcome = none ∧ ∃ result, Ends blind program.run disk result final) ∨
      (∃ error, outcome = some (.error error) ∧
        Ends blind program.run disk (some (.error error)) final) ∨
      ∃ value middle, Ends blind program.run disk (some (.ok value)) middle ∧
        Ends blind (later value).run middle outcome final := by
  rcases Triple.ends_bind ends with ⟨killed, first⟩ | ⟨result, middle, first, rest⟩
  · exact .inl ⟨killed, none, first⟩
  · cases result with
    | ok value => exact .inr (.inr ⟨value, middle, first, rest⟩)
    | error error =>
        cases rest with
        | done => exact .inr (.inl ⟨error, rfl, first⟩)
        | killed => exact .inl ⟨rfl, some (.error error), first⟩

theorem Ends.andThen {blind : Prop} {program : ExceptT ε (Program Name Byte) α}
    {later : α → ExceptT ε (Program Name Byte) β} {disk middle final : Disk Name Byte} {value : α}
    {outcome : Option (Except ε β)} (first : Ends blind program.run disk (some (.ok value)) middle)
    (rest : Ends blind (later value).run middle outcome final) :
    Ends blind (program >>= later).run disk outcome final :=
  Ends.bind first rest

theorem Ends.reporting {blind : Prop} {δ : Type} {report : δ → ε}
    {program : ExceptT δ (Program Name Byte) α} {disk final : Disk Name Byte} {value : α}
    (ends : Ends blind program.run disk (some (.ok value)) final) :
    Ends blind (Files.reporting report program).run disk (some (.ok value)) final :=
  Ends.bind ends (.done _ _)

theorem ends_reporting {blind : Prop} {δ : Type} {report : δ → ε}
    {program : ExceptT δ (Program Name Byte) α} {later : α → ExceptT ε (Program Name Byte) β}
    {disk final : Disk Name Byte} {outcome : Option (Except ε β)}
    (ends : Ends blind (reporting report program >>= later).run disk outcome final) :
    (outcome = none ∧ ∃ result, Ends blind program.run disk result final) ∨
      (∃ error, outcome = some (.error (report error)) ∧
        Ends blind program.run disk (some (.error error)) final) ∨
      ∃ value middle, Ends blind program.run disk (some (.ok value)) middle ∧
        Ends blind (later value).run middle outcome final := by
  rcases ends_andThen ends with ⟨killed, _, first⟩ | ⟨error, failed, first⟩ |
    ⟨value, middle, first, rest⟩
  · rcases Triple.ends_bind first with ⟨-, inner⟩ | ⟨result, _, inner, after⟩
    · exact .inl ⟨killed, none, inner⟩
    · cases after with
      | done => exact .inl ⟨killed, some result, inner⟩
      | killed => exact .inl ⟨killed, some result, inner⟩
  · rcases Triple.ends_bind first with ⟨impossible, -⟩ | ⟨result, _, inner, after⟩
    · cases impossible
    · cases result with
      | ok value => cases after
      | error error =>
          cases after
          exact .inr (.inl ⟨error, failed, inner⟩)
  · rcases Triple.ends_bind first with ⟨impossible, -⟩ | ⟨result, _, inner, after⟩
    · cases impossible
    · cases result with
      | error error => cases after
      | ok value =>
          cases after
          exact .inr (.inr ⟨value, _, inner, rest⟩)

def attempt (change : Call Name Byte) (error : ε) : ExceptT ε (Program Name Byte) Unit :=
  ExceptT.mk (.call change fun done => .done (if done then .ok () else .error error))

theorem Triple.attempt {blind : Prop} {pre killed : Disk Name Byte → Prop}
    {change : Call Name Byte} {error : ε} {post : Unit → Disk Name Byte → Prop}
    {refused : ε → Disk Name Byte → Prop} (stops : ∀ disk, pre disk → killed disk)
    (parts : ∀ disk after, pre disk → Partly disk change after → killed after ∧ refused error after)
    (does : ∀ disk after, pre disk → Does disk change true after → post () after ∧ killed after) :
    Triple blind pre (Files.attempt change error).run (ending post refused) killed := by
  refine Triple.call (fun done disk =>
    ending post refused (if done then .ok () else .error error) disk ∧ killed disk) stops
    (fun disk after holds part => (parts disk after holds part).1) ?_ ?_
  · intro disk answer after holds did
    cases answer with
    | true => exact does disk after holds did
    | false =>
        cases did with
        | fails part => exact (parts disk after holds part).symm
  · intro answer
    exact Triple.done (fun disk holds => holds.1) (fun disk holds => holds.2)

/-! ### What a call leaves alone -/

def Call.names : Call Name Byte → List Name
  | makeDir => []
  | create name | append name _ | sync name => [name]
  | rename source target => [source, target]

theorem Partly.spared {disk next : Disk Name Byte} {change : Call Name Byte} {name : Name}
    (part : Partly disk change next) (apart : name ∉ change.names) : disk.Spared next name := by
  cases part with
  | untouched => exact .refl disk name
  | created other =>
      have different : name ≠ other := by simpa only [Call.names, List.mem_singleton] using apart
      exact ⟨Function.update_of_ne different _ _, Function.update_of_ne different _ _⟩
  | shortened other starts =>
      have different : name ≠ other := by simpa only [Call.names, List.mem_singleton] using apart
      exact ⟨Function.update_of_ne different _ _, Function.update_of_ne different _ _⟩

theorem Does.spared {disk next : Disk Name Byte} {change : Call Name Byte} {answer : Bool}
    {name : Name} (did : Does disk change answer next) (apart : name ∉ change.names) :
    disk.Spared next name := by
  cases did with
  | makeDir => exact .refl disk name
  | create other =>
      have different : name ≠ other := by simpa only [Call.names, List.mem_singleton] using apart
      exact ⟨Function.update_of_ne different _ _, Function.update_of_ne different _ _⟩
  | append other bytes =>
      have different : name ≠ other := by simpa only [Call.names, List.mem_singleton] using apart
      exact ⟨Function.update_of_ne different _ _, Function.update_of_ne different _ _⟩
  | sync other =>
      have different : name ≠ other := by simpa only [Call.names, List.mem_singleton] using apart
      exact ⟨rfl, Function.update_of_ne different _ _⟩
  | rename target found =>
      simp only [Call.names, List.mem_cons, List.not_mem_nil, or_false, not_or] at apart
      refine ⟨?_, ?_⟩
      · exact (Function.update_of_ne apart.1 _ _).trans (Function.update_of_ne apart.2 _ _)
      · exact (Function.update_of_ne apart.1 _ _).trans (Function.update_of_ne apart.2 _ _)
  | fails part => exact part.spared apart

/-! ### Replacing a file -/

/-- Write the new content under another name, and rename it. -/
def replace (temporary target : Name) (bytes : List Byte) (error : ε) :
    ExceptT ε (Program Name Byte) Unit := do
  attempt (.create temporary) error
  attempt (.append temporary bytes) error
  attempt (.sync temporary) error
  attempt (.rename temporary target) error

section Replace

variable {temporary target : Name} {bytes : List Byte} {blind : Prop}

/-- The new content is under the temporary name, and safe there. -/
structure Disk.Prepared (disk : Disk Name Byte) (temporary : Name) (bytes : List Byte) : Prop where
  live : disk.live temporary = some bytes
  kept : ∀ content, disk.kept temporary content → content = some bytes ∨ content = none

theorem Disk.prepared_sync {disk : Disk Name Byte} (written : disk.live temporary = some bytes) :
    (disk.sync temporary).Prepared temporary bytes := by
  refine ⟨written, ?_⟩
  intro content kept
  have after : (disk.sync temporary).kept temporary = fun content =>
      content = disk.live temporary ∨ content = none := Function.update_self _ _ _
  rw [after, written] at kept
  exact kept

/-- The renamed file is found with its old content or with the new one. -/
theorem Disk.holds_rename {disk : Disk Name Byte} {possible : Option (List Byte) → Prop}
    (different : target ≠ temporary) (holds : disk.Holds target possible)
    (prepared : disk.Prepared temporary bytes) (new : possible (some bytes)) {content : List Byte}
    (found : disk.live temporary = some content) :
    (disk.rename temporary target content).Holds target possible := by
  have isNew : content = bytes := Option.some.inj (found.symm.trans prepared.live)
  subst isNew
  refine ⟨?_, ?_⟩
  · have after : (disk.rename temporary target content).live target = some content :=
      (Function.update_of_ne different _ _).trans (Function.update_self _ _ _)
    rw [after]
    exact new
  · intro other kept
    have among : disk.kept target other ∨ other ≠ none ∧ disk.kept temporary other := by
      have after : (disk.rename temporary target content).kept target = fun content =>
          disk.kept target content ∨ content ≠ none ∧ disk.kept temporary content :=
        (Function.update_of_ne different _ _).trans (Function.update_self _ _ _)
      rw [after] at kept
      exact kept
    rcases among with old | ⟨present, moved⟩
    · exact holds.kept other old
    · rcases prepared.kept other moved with rfl | rfl
      · exact new
      · exact absurd rfl present

/-- The target holds something possible, and no other file but the temporary one has
been touched. -/
structure Disk.Guarded (origin : Disk Name Byte) (temporary target : Name)
    (possible : Option (List Byte) → Prop) (disk : Disk Name Byte) : Prop where
  held : disk.Holds target possible
  others : ∀ name, name ≠ target → name ≠ temporary → origin.Spared disk name

omit [DecidableEq Name] in
theorem Disk.Guarded.spared {origin disk next : Disk Name Byte}
    {possible : Option (List Byte) → Prop} (guarded : origin.Guarded temporary target possible disk)
    (spared : ∀ name, name ≠ temporary → disk.Spared next name) (different : target ≠ temporary) :
    origin.Guarded temporary target possible next := by
  refine ⟨guarded.held.spared (spared target different), ?_⟩
  intro name other another
  exact (guarded.others name other another).trans (spared name another)

theorem Triple.attempt_temporary (blind : Prop) (origin : Disk Name Byte)
    (possible : Option (List Byte) → Prop)
    (error : ε) (change : Call Name Byte) (before after : Disk Name Byte → Prop)
    (different : target ≠ temporary) (only : change.names = [temporary])
    (does : ∀ disk next, before disk → Does disk change true next → after next) :
    Triple blind (fun disk => origin.Guarded temporary target possible disk ∧ before disk)
      (Files.attempt change error).run
      (ending (fun _ disk => origin.Guarded temporary target possible disk ∧ after disk)
        fun other disk => other = error ∧ origin.Guarded temporary target possible disk)
      (origin.Guarded temporary target possible) := by
  have apart (name : Name) (another : name ≠ temporary) : name ∉ change.names := by
    rw [only, List.mem_singleton]
    exact another
  refine Triple.attempt (fun disk holds => holds.1) ?_ ?_
  · intro disk next holds part
    have guarded := holds.1.spared (fun name another => part.spared (apart name another)) different
    exact ⟨guarded, rfl, guarded⟩
  · intro disk next holds did
    have guarded := holds.1.spared (fun name another => did.spared (apart name another)) different
    exact ⟨⟨guarded, does disk next holds.2 did⟩, guarded⟩

/-- Wherever it is interrupted, the target holds what it held or the new content, and
no other file but the temporary one is touched. -/
theorem Triple.replace (origin : Disk Name Byte) (error : ε)
    {possible : Option (List Byte) → Prop} (different : target ≠ temporary)
    (new : possible (some bytes)) :
    Triple blind (origin.Guarded temporary target possible)
      (Files.replace temporary target bytes error).run
      (ending
        (fun _ disk => origin.Guarded temporary target possible disk ∧
          disk.live target = some bytes)
        fun other disk => other = error ∧ origin.Guarded temporary target possible disk)
      (origin.Guarded temporary target possible) := by
  have stops (other : ε) (disk : Disk Name Byte)
      (refused : other = error ∧ origin.Guarded temporary target possible disk) :
      origin.Guarded temporary target possible disk := refused.2
  have created := Triple.attempt_temporary blind origin possible error (.create temporary)
    (fun _ => True) (fun disk => disk.live temporary = some []) different rfl
    (by
      intro disk next _ did
      cases did
      exact Function.update_self _ _ _)
  have appended := Triple.attempt_temporary blind origin possible error (.append temporary bytes)
    (fun disk => disk.live temporary = some []) (fun disk => disk.live temporary = some bytes)
    different rfl
    (by
      intro disk next opened did
      cases did
      refine (Function.update_self _ _ _).trans ?_
      rw [opened]
      rfl)
  have synced := Triple.attempt_temporary blind origin possible error (.sync temporary)
    (fun disk => disk.live temporary = some bytes) (fun disk => disk.Prepared temporary bytes)
    different rfl
    (by
      intro disk next written did
      cases did
      exact Disk.prepared_sync written)
  refine Triple.andThen (created.conseq (fun _ holds => ⟨holds, trivial⟩) (fun _ _ h => h)
    fun _ h => h) ?_ stops
  intro _
  refine Triple.andThen appended ?_ stops
  intro _
  refine Triple.andThen synced ?_ stops
  intro _
  refine Triple.attempt (fun disk holds => holds.1) ?_ ?_
  · intro disk next holds part
    cases part
    exact ⟨holds.1, rfl, holds.1⟩
  · rintro disk next ⟨guarded, prepared⟩ did
    cases did with
    | rename _ found =>
        rename_i content
        have replaced : origin.Guarded temporary target possible
            (disk.rename temporary target content) := by
          refine ⟨Disk.holds_rename different guarded.held prepared new found, ?_⟩
          intro name other another
          have spared : disk.Spared (disk.rename temporary target content) name :=
            (Does.rename target found).spared (by
              simp only [Call.names, List.mem_cons, List.not_mem_nil, or_false, not_or]
              exact ⟨another, other⟩)
          exact (guarded.others name other another).trans spared
        have isNew : content = bytes := Option.some.inj (found.symm.trans prepared.live)
        refine ⟨⟨replaced, ?_⟩, replaced⟩
        rw [← isNew]
        exact (Function.update_of_ne different _ _).trans (Function.update_self _ _ _)

theorem ends_replace (blind : Prop) (disk : Disk Name Byte) (error : ε) :
    ∃ final, Ends blind (Files.replace temporary target bytes error).run disk (some (.ok ()))
      final := by
  have written : ((disk.create temporary).append temporary bytes).live temporary = some bytes := by
    refine (Function.update_self _ _ _).trans ?_
    have opened : (disk.create temporary).live temporary = some [] := Function.update_self _ _ _
    rw [opened]
    rfl
  exact ⟨_, .call (.create temporary) (.call (.append temporary bytes)
    (.call (.sync temporary) (.call (.rename target written) (.done _ _))))⟩

end Replace

end Files
