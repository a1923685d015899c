import Tinkerbell.Library.TextFields
import Tinkerbell.Library.UrlPath

/-!
Owns: the volumes of an action in the containerd runtime: how one is read, what becomes of
its options, and the bind mounts that are made of all of them.

The host is any state that answers when a path is looked at and when a directory is made.
-/

namespace Tinkerbell.Agent.Containerd

open TextFields (trimSpace)
open ByteText (Bytes)
open UrlPath (bytesOf slash dot)

structure Mount where
  (type source destination : Bytes)
  options : List Bytes
deriving DecidableEq

def colon : UInt8 := 58

def comma : UInt8 := 44

def rbind : Bytes := bytesOf "rbind"

def roOption : Bytes := bytesOf "ro"

def rwOption : Bytes := bytesOf "rw"

/-- `strings.SplitN`, by the number of cuts. -/
def splitN (separator : UInt8) : Nat → Bytes → List Bytes
  | 0, text => [text]
  | cuts + 1, text =>
    match text.dropWhile (· ≠ separator) with
    | [] => [text]
    | _ :: rest => text.takeWhile (· ≠ separator) :: splitN separator cuts rest

def isAbs (path : Bytes) : Bool := path.head? = some slash

structure OptionsRead where
  options : List Bytes
  rwMode : Bytes

def readOption (sofar : OptionsRead) (opt : Bytes) : OptionsRead :=
  let trimmed := trimSpace opt
  if trimmed = roOption then { sofar with rwMode := roOption }
  else if trimmed = rwOption then { sofar with rwMode := rwOption }
  else if trimmed ≠ [] then { sofar with options := sofar.options ++ [trimmed] }
  else sofar

def parseOptions (text : Bytes) : List Bytes :=
  let read := (text.splitOn comma).foldl readOption ⟨[rbind], []⟩
  read.options ++ [if read.rwMode = [] then rwOption else read.rwMode]

def parseVolume (volume : Bytes) : Option Mount :=
  match splitN colon 2 volume with
  | source :: destination :: rest =>
    if destination = [] || !isAbs destination then none
    -- Named volumes are not supported.
    else if !isAbs source && source.head? ≠ some dot then none
    else
      some
        { type := bytesOf "bind"
          source
          destination
          options :=
            match rest with
            | [] => [rbind, rwOption]
            | text :: _ => parseOptions text }
  | _ => none

inductive StatError where
  | notExist
  | other (err : String)

structure Host (σ : Type) where
  getwd : Except String Bytes
  stat : σ → Bytes → Option StatError
  mkdirAll : σ → Bytes → σ × Option String

inductive SourceError where
  | resolve (source : Bytes) (err : String)
  | create (source : Bytes) (err : String)
  | stat (source : Bytes) (err : String)

variable {σ : Type} (host : Host σ) (state : σ)

def absolute (source : Bytes) : Except SourceError Bytes :=
  if isAbs source then .ok source
  else
    match host.getwd with
    | .error err => .error (.resolve source err)
    | .ok directory => .ok (UrlPath.join [directory, source])

def ensureBindMountSource (source : Bytes) : Except SourceError Bytes × σ :=
  match absolute host source with
  | .error err => (.error err, state)
  | .ok source =>
    match host.stat state source with
    | none => (.ok source, state)
    | some .notExist =>
      match host.mkdirAll state source with
      | (next, none) => (.ok source, next)
      | (next, some err) => (.error (.create source err), next)
    | some (.other err) => (.error (.stat source err), state)

def mountVolume (volume : Bytes) : Option Mount × σ :=
  match parseVolume volume with
  | none => (none, state)
  | some mount =>
    match ensureBindMountSource host state mount.source with
    | (.error _, next) => (none, next)
    | (.ok resolved, next) => (some { mount with source := resolved }, next)

def parseVolumes (volumes : List Bytes) : List Mount × σ :=
  volumes.foldl
    (fun sofar volume =>
      let turn := mountVolume host sofar.2 volume
      (sofar.1 ++ turn.1.toList, turn.2))
    ([], state)

theorem splitN_succ (separator : UInt8) (cuts : Nat) (text : Bytes) :
    (separator ∉ text ∧ splitN separator (cuts + 1) text = [text]) ∨
      ∃ first rest, separator ∉ first ∧ text = first ++ separator :: rest ∧
        splitN separator (cuts + 1) text = first :: splitN separator cuts rest := by
  have before : separator ∉ text.takeWhile (· ≠ separator) := by
    intro member
    simpa using List.mem_takeWhile_imp member
  have whole : text.takeWhile (· ≠ separator) ++ text.dropWhile (· ≠ separator) = text :=
    List.takeWhile_append_dropWhile
  rw [splitN]
  split
  · next isEmpty =>
    rw [isEmpty, List.append_nil] at whole
    rw [whole] at before
    exact Or.inl ⟨before, rfl⟩
  · next byte rest isRest =>
    have stopped := List.head?_dropWhile_not (fun byte => decide (byte ≠ separator)) text
    rw [isRest] at stopped whole
    have isSeparator : byte = separator := by simpa using stopped
    rw [isSeparator] at whole
    exact Or.inr ⟨_, rest, before, whole.symm, rfl⟩

def volumeText (source destination : Bytes) : Option Bytes → Bytes
  | none => source ++ colon :: destination
  | some options => source ++ colon :: (destination ++ colon :: options)

private theorem splitN_volume {volume source destination : Bytes} {rest : List Bytes}
    (isSplit : splitN colon 2 volume = source :: destination :: rest) :
    ∃ options : Option Bytes, rest = options.toList ∧ colon ∉ source ∧ colon ∉ destination ∧
      volume = volumeText source destination options := by
  rcases splitN_succ colon 1 volume with ⟨_, single⟩ | ⟨first, behind, inFirst, isText, isCut⟩
  · rw [single] at isSplit
    cases isSplit
  · rw [isCut] at isSplit
    rcases splitN_succ colon 0 behind with
      ⟨inSecond, single⟩ | ⟨second, text, inSecond, isBehind, isCut⟩
    · rw [single] at isSplit
      cases isSplit
      exact ⟨none, rfl, inFirst, inSecond, isText⟩
    · rw [isCut] at isSplit
      cases isSplit
      rw [isBehind] at isText
      exact ⟨some text, rfl, inFirst, inSecond, isText⟩

def isMode (opt : Bytes) : Bool := opt = roOption || opt = rwOption

def isOther (opt : Bytes) : Bool := opt ≠ [] && !isMode opt

def optionsGiven : Option Bytes → List Bytes
  | none => []
  | some text => (text.splitOn comma).map trimSpace

def lastMode (given : List Bytes) (otherwise : Bytes) : Bytes :=
  (given.filter isMode).getLast?.getD otherwise

private theorem readOption_mode {opt : Bytes} (mode : isMode (trimSpace opt) = true)
    (sofar : OptionsRead) : readOption sofar opt = { sofar with rwMode := trimSpace opt } := by
  simp only [isMode, Bool.or_eq_true, decide_eq_true_eq] at mode
  unfold readOption
  dsimp only
  split
  · next isRo => rw [isRo]
  · next notRo =>
    have isRw := mode.resolve_left notRo
    rw [if_pos isRw, isRw]

private theorem readOption_other {opt : Bytes} (notMode : isMode (trimSpace opt) = false)
    (sofar : OptionsRead) :
    readOption sofar opt =
      { sofar with options := sofar.options ++ [trimSpace opt].filter isOther } := by
  simp only [isMode, Bool.or_eq_false_iff, decide_eq_false_iff_not] at notMode
  unfold readOption
  rw [if_neg notMode.1, if_neg notMode.2]
  by_cases isBlank : trimSpace opt = []
  · simp [isOther, isBlank]
  · simp [isOther, isMode, isBlank, notMode]

private theorem foldl_readOption (opts : List Bytes) (sofar : OptionsRead) :
    opts.foldl readOption sofar =
      ⟨sofar.options ++ (opts.map trimSpace).filter isOther,
        lastMode (opts.map trimSpace) sofar.rwMode⟩ := by
  induction opts generalizing sofar with
  | nil => simp [lastMode]
  | cons opt rest ih =>
    rw [List.foldl_cons, ih, List.map_cons]
    unfold lastMode
    cases isKind : isMode (trimSpace opt) with
    | true =>
      have notOther : isOther (trimSpace opt) = false := by simp [isOther, isKind]
      rw [readOption_mode isKind, List.filter_cons_of_pos isKind, List.getLast?_cons,
        List.filter_cons_of_neg (by simp [notOther])]
      rfl
    | false =>
      have noMode : (trimSpace opt :: rest.map trimSpace).filter isMode =
          (rest.map trimSpace).filter isMode := List.filter_cons_of_neg (by simp [isKind])
      rw [readOption_other isKind, noMode, List.append_assoc, ← List.filter_append,
        List.singleton_append]

/-- The options of a mount: `rbind`, the options given that are no access mode, and the access
mode that was given last. -/
def normalOptions (given : List Bytes) : List Bytes :=
  rbind :: (given.filter isOther ++ [lastMode given rwOption])

theorem lastMode_cases (given : List Bytes) :
    (∀ otherwise, lastMode given otherwise = otherwise) ∨
      ∃ mode, isMode mode = true ∧ ∀ otherwise, lastMode given otherwise = mode := by
  unfold lastMode
  cases isLast : (given.filter isMode).getLast? with
  | none => exact Or.inl fun _ => rfl
  | some mode =>
    have member := List.mem_of_getLast? isLast
    exact Or.inr ⟨mode, (List.mem_filter.mp member).2, fun _ => rfl⟩

private theorem parseOptions_eq (text : Bytes) :
    parseOptions text = normalOptions (optionsGiven (some text)) := by
  unfold parseOptions
  rw [foldl_readOption]
  dsimp only
  have mode : (if lastMode ((text.splitOn comma).map trimSpace) [] = [] then rwOption
      else lastMode ((text.splitOn comma).map trimSpace) []) =
      lastMode ((text.splitOn comma).map trimSpace) rwOption := by
    rcases lastMode_cases ((text.splitOn comma).map trimSpace) with none | ⟨mode, isKind, given⟩
    · rw [none, none, if_pos rfl]
    · have notEmpty : mode ≠ [] := by
        rintro rfl
        cases isKind
      rw [given, given, if_neg notEmpty]
  rw [mode]
  rfl

private theorem filter_isMode_normalOptions (given : List Bytes) :
    (normalOptions given).filter isMode = [lastMode given rwOption] := by
  have isKind : isMode (lastMode given rwOption) = true := by
    rcases lastMode_cases given with none | ⟨mode, isKind, isLast⟩
    · rw [none]
      rfl
    · rw [isLast]
      exact isKind
  have notOther : (given.filter isOther).filter isMode = [] := by
    refine List.filter_eq_nil_iff.mpr fun opt member => ?_
    have other := (List.mem_filter.mp member).2
    simp only [isOther, Bool.and_eq_true, Bool.not_eq_true'] at other
    rw [other.2]
    exact Bool.false_ne_true
  rw [normalOptions, List.filter_cons_of_neg (by decide), List.filter_append, notOther,
    List.nil_append, List.filter_cons_of_pos isKind, List.filter_nil]

/-- What is read of a volume: the text before the first colon, the one up to the second or to the
end, and the options behind it. -/
structure Normalised (volume : Bytes) (mount : Mount) (options : Option Bytes) : Prop where
  isText : volume = volumeText mount.source mount.destination options
  inSource : colon ∉ mount.source
  inDestination : colon ∉ mount.destination
  isOptions : mount.options = normalOptions (optionsGiven options)
  oneMode : mount.options.filter isMode = [lastMode (optionsGiven options) rwOption]

private theorem parseVolume_normalised {volume : Bytes} {mount : Mount}
    (isMount : parseVolume volume = some mount) : ∃ options, Normalised volume mount options := by
  unfold parseVolume at isMount
  split at isMount
  · next _ _ _ isSplit =>
    obtain ⟨options, rfl, inSource, inDestination, isText⟩ := splitN_volume isSplit
    split at isMount
    · cases isMount
    split at isMount
    · cases isMount
    cases isMount
    have isOptions : (match options.toList with
        | [] => [rbind, rwOption]
        | text :: _ => parseOptions text) = normalOptions (optionsGiven options) := by
      cases options with
      | none => rfl
      | some text => exact parseOptions_eq text
    refine ⟨options, isText, inSource, inDestination, isOptions, ?_⟩
    rw [isOptions]
    exact filter_isMode_normalOptions _
  · cases isMount

def accepted : σ → List Bytes → List (Bytes × Mount)
  | _, [] => []
  | state, volume :: rest =>
    let turn := mountVolume host state volume
    (turn.1.map (volume, ·)).toList ++ accepted turn.2 rest

private theorem foldl_mountVolume (volumes : List Bytes) (mounts : List Mount) :
    (volumes.foldl
      (fun sofar volume =>
        let turn := mountVolume host sofar.2 volume
        (sofar.1 ++ turn.1.toList, turn.2))
      (mounts, state)).1 = mounts ++ (accepted host state volumes).map Prod.snd := by
  induction volumes generalizing mounts state with
  | nil => simp [accepted]
  | cons volume _ ih =>
    rw [List.foldl_cons, ih, accepted]
    cases (mountVolume host state volume).1 with
    | none | some => simp

private theorem accepted_sublist (volumes : List Bytes) :
    ((accepted host state volumes).map Prod.fst).Sublist volumes := by
  induction volumes generalizing state with
  | nil => exact List.Sublist.slnil
  | cons volume _ ih =>
    rw [accepted]
    cases (mountVolume host state volume).1 with
    | none => exact (ih _).cons volume
    | some => exact (ih _).cons_cons volume

private theorem mountVolume_of_mem_accepted {volumes : List Bytes} {pair : Bytes × Mount}
    (member : pair ∈ accepted host state volumes) :
    ∃ before, (mountVolume host before pair.1).1 = some pair.2 := by
  induction volumes generalizing state with
  | nil => cases member
  | cons _ _ ih =>
    rcases List.mem_append.mp member with isFirst | later
    · obtain ⟨_, isMount, rfl⟩ := Option.map_eq_some_iff.mp (Option.mem_toList.mp isFirst)
      exact ⟨state, isMount⟩
    · exact ih _ later

private theorem ensureBindMountSource_ok_iff {source resolved : Bytes} :
    (ensureBindMountSource host state source).1 = .ok resolved ↔
      absolute host source = .ok resolved ∧ (host.stat state resolved = none ∨
        host.stat state resolved = some .notExist ∧
          (host.mkdirAll state resolved).2 = none) := by
  unfold ensureBindMountSource
  cases absolute host source with
  | error => simp
  | ok =>
    rw [Except.ok.injEq]
    dsimp only
    split
    · next isThere =>
      constructor
      · rintro ⟨⟩
        exact ⟨rfl, .inl isThere⟩
      · rintro ⟨rfl, -⟩
        rfl
    · next isMissing =>
      split
      · next _ isMade =>
        constructor
        · rintro ⟨⟩
          exact ⟨rfl, .inr ⟨isMissing, by rw [isMade]⟩⟩
        · rintro ⟨rfl, -⟩
          rfl
      · next _ _ isMade =>
        refine ⟨nofun, ?_⟩
        rintro ⟨rfl, isThere | ⟨-, made⟩⟩
        · exact absurd (isMissing.symm.trans isThere) nofun
        · rw [isMade] at made
          exact absurd made nofun
    · next _ isOther =>
      refine ⟨nofun, ?_⟩
      rintro ⟨rfl, isThere | ⟨isMissing, -⟩⟩
      · exact absurd (isOther.symm.trans isThere) nofun
      · exact absurd (isOther.symm.trans isMissing) nofun

/-- A volume is mounted if it is read and its source is there or can be made, with the source as
an absolute path. -/
theorem mountVolume_eq_some_iff {volume : Bytes} {mount : Mount} :
    (mountVolume host state volume).1 = some mount ↔
      ∃ read resolved, parseVolume volume = some read ∧
        (ensureBindMountSource host state read.source).1 = .ok resolved ∧
        mount = { read with source := resolved } := by
  unfold mountVolume
  cases parseVolume volume with
  | none => simp
  | some read =>
    rcases isResolved : ensureBindMountSource host state read.source with ⟨err | resolved, next⟩
    · simp [isResolved]
    · simp [isResolved, eq_comm]

/-- Every volume that is read has its options in normal form, and the mounts come in the order of
the volumes that are accepted: those that are read and whose source, as an absolute path, is
there or can be made. -/
theorem volumes_are_normalised {σ : Type} (host : Host σ) (state : σ) (volumes : List Bytes) :
    (∀ volume mount, parseVolume volume = some mount →
      ∃ options, Normalised volume mount options) ∧
    ((accepted host state volumes).map Prod.fst).Sublist volumes ∧
    (∀ pair ∈ accepted host state volumes, ∃ before,
      (mountVolume host before pair.1).1 = some pair.2) ∧
    (∀ before volume mount, (mountVolume host before volume).1 = some mount ↔
      ∃ read resolved, parseVolume volume = some read ∧
        (absolute host read.source = .ok resolved ∧ (host.stat before resolved = none ∨
          host.stat before resolved = some .notExist ∧
            (host.mkdirAll before resolved).2 = none)) ∧
        mount = { read with source := resolved }) ∧
    (parseVolumes host state volumes).1 = (accepted host state volumes).map Prod.snd := by
  refine ⟨fun _ _ => parseVolume_normalised, accepted_sublist host state volumes, ?_, ?_, ?_⟩
  · intro pair member
    exact mountVolume_of_mem_accepted host state member
  · intro before volume mount
    simp only [mountVolume_eq_some_iff, ensureBindMountSource_ok_iff]
  · exact foldl_mountVolume host state volumes []

/-- A host on which only `/a` is there and nothing can be made in `/proc`. -/
def sampleHost : Host Unit where
  getwd := .ok (bytesOf "/work")
  stat _ path := if path = bytesOf "/a" then none else some .notExist
  mkdirAll state path := (state, if bytesOf "/proc" <+: path then some "read-only" else none)

/-- A named volume and one below `/proc` are left out, and a relative source is resolved. -/
theorem volumes_are_normalised_lastMode :
    let volumes := [bytesOf "/a:/b:rw, nosuid,ro,", bytesOf "named:/c", bytesOf "/proc/x:/d",
      bytesOf "./e:/f"]
    let first : Mount :=
      ⟨bytesOf "bind", bytesOf "/a", bytesOf "/b", [rbind, bytesOf "nosuid", roOption]⟩
    (∃ options, Normalised (bytesOf "/a:/b:rw, nosuid,ro,") first options) ∧
      (parseVolumes sampleHost () volumes).1 =
        [first, ⟨bytesOf "bind", bytesOf "/work/e", bytesOf "/f", [rbind, rwOption]⟩] := by
  intro volumes first
  obtain ⟨normalised, -, -, -, isParsed⟩ := volumes_are_normalised sampleHost () volumes
  refine ⟨normalised _ _ (by decide +kernel), isParsed.trans ?_⟩
  decide +kernel

end Tinkerbell.Agent.Containerd
