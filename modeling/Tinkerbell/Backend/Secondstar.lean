import Tinkerbell.Api.Bmc
import Tinkerbell.Backend.Filter

/-!
Owns: looking up the BMC machine of an SSH user, over the three objects that lead
to it, and exactly when the answer is a usable machine or an error.

Every list and get of the client may fail. A nil pointer that is followed ends the
call in a panic, which is an outcome of its own.
-/

namespace Tinkerbell.Backend.Secondstar

open Api

structure IPMITOOLOptions where
  port : Int := 0
  cipherSuite : String := ""

structure ProviderOptions where
  ipmitool : Option IPMITOOLOptions := none

structure SecretReference where
  (name «namespace» : String := "")

structure Connection extends Bmc.Connection where
  authSecretRef : SecretReference := {}
  providerOptions : Option ProviderOptions := none

structure Machine where
  name : String
  connection : Connection := {}

/-- The data of a secret. -/
abbrev Secret := KeyedMap String (List UInt8)

structure BMCMachine where
  host : String := ""
  (user pass : List UInt8 := [])
  port : Int := 0
  cipherSuite : String := ""
  sshPublicKeys : List String := []
deriving DecidableEq

/-- What the client answers; an error is given by its text. -/
structure Client where
  hardware : Except String (List Hardware)
  machines : Except String (List Machine)
  secret : SecretReference → Except String Secret

inductive Outcome (α : Type) where
  | returned (result : Except String α)
  | panicked
deriving DecidableEq

def defaultIPMIPort : Int := 623

def defaultIPMICipherSuite : String := "17"

def FilterError.text : FilterError → String
  | .notFound text => text
  | .multipleFound text => text

section Lookup

variable (quote : String → String) (client : Client)

def filterHardware (opts : HardwareFilter) : Except String Hardware :=
  match client.hardware with
  | .error err => .error ("failed to list hardware " ++ filterQueryDesc quote opts ++ ": " ++ err)
  | .ok hardware => (Kube.filterHardware quote hardware opts).mapError FilterError.text

def filterMachine (name : String) : Except String Machine :=
  if name = "" then .error "BMC Machine name is required"
  else
    match client.machines with
    | .error err => .error ("failed listing bmc machine for (" ++ name ++ "): " ++ err)
    | .ok machines =>
      match machines.filter (·.name = name) with
      | [] => .error ("bmc machine not found: " ++ name)
      | [machine] => .ok machine
      | items =>
        .error ("got " ++ toString items.length ++ " bmc machine objects for name: " ++ name ++
          ", expected only 1")

def readAuthSecret (ref : SecretReference) : Except String (List UInt8 × List UInt8) :=
  let place := ref.namespace ++ "/" ++ ref.name
  match client.secret ref with
  | .error err => .error ("failed to get secret " ++ place ++ ": " ++ err)
  | .ok secret =>
    match secret.get "username" with
    | none => .error ("'username' required in Machine secret " ++ place)
    | some username =>
      match secret.get "password" with
      | none => .error ("'password' required in Machine secret " ++ place)
      | some password => .ok (username, password)

def Machine.ipmitool (machine : Machine) : Option IPMITOOLOptions :=
  machine.connection.providerOptions.bind (·.ipmitool)

def BMCMachine.withOptions (response : BMCMachine) : Option IPMITOOLOptions → BMCMachine
  | none => response
  | some options =>
    { response with
      port := if options.port = 0 then defaultIPMIPort else options.port
      cipherSuite :=
        if options.cipherSuite = "" then defaultIPMICipherSuite else options.cipherSuite }

/-- The authorized keys of the instance, none where there is no instance. -/
def sshKeysOf (hw : Hardware) : List String :=
  ((hw.spec.metadata.bind HardwareMetadata.instance).map MetadataInstance.sshKeys).getD []

def filterBMCMachine (opts : HardwareFilter) : Outcome BMCMachine :=
  match filterHardware quote client opts with
  | .error err => .returned (.error ("failed to filter hardware: " ++ err))
  | .ok hw =>
    let response : BMCMachine := { sshPublicKeys := sshKeysOf hw }
    match hw.spec.bmcRef with
    -- the reference is followed without a check
    | none => .panicked
    | some bmcRef =>
      match filterMachine client bmcRef with
      | .error err => .returned (.error err)
      | .ok bmcMachine =>
        let response := { response with host := bmcMachine.connection.host }
        let response := response.withOptions bmcMachine.ipmitool
        match readAuthSecret client bmcMachine.connection.authSecretRef with
        | .error err => .returned (.error err)
        | .ok (username, password) =>
          .returned (.ok { response with user := username, pass := password })

/-- The machine that the session of a user starts with; a user without one is not let in. The
authorized keys that can be parsed are compared with the client's. -/
def pubkeyAuth {κ : Type} [DecidableEq κ] (parseAuthorizedKey : String → Option κ)
    (user : String) (key : κ) : Outcome (Option BMCMachine) :=
  match filterBMCMachine quote client { byName := user } with
  | .panicked => .panicked
  | .returned (.error _) => .returned (.ok none)
  | .returned (.ok hw) =>
    if hw.sshPublicKeys.any fun text => parseAuthorizedKey text = some key then
      .returned (.ok (some hw))
    else .returned (.ok none)

end Lookup

def Machine.expectedPort (machine : Machine) : Int :=
  ((machine.ipmitool.map (·.port)).filter (· ≠ 0)).getD 623

def Machine.expectedCipherSuite (machine : Machine) : String :=
  ((machine.ipmitool.map (·.cipherSuite)).filter (· ≠ "")).getD "17"

structure UsableFor (client : Client) (machine : Machine) (answer : BMCMachine) : Prop where
  port : answer.port = machine.expectedPort
  cipherSuite : answer.cipherSuite = machine.expectedCipherSuite
  credentials : ∃ secret, client.secret machine.connection.authSecretRef = .ok secret ∧
    secret.get "username" = some answer.user ∧ secret.get "password" = some answer.pass

def UsableOrError (quote : String → String) (client : Client) (opts : HardwareFilter) :
    Outcome BMCMachine → Prop
  | .panicked => False
  | .returned (.error _) => True
  | .returned (.ok answer) =>
    ∃ hw bmcRef machine, filterHardware quote client opts = .ok hw ∧
      hw.spec.bmcRef = some bmcRef ∧ filterMachine client bmcRef = .ok machine ∧
      UsableFor client machine answer

/-- The Hardware of the user has a reference, and the machine behind it has options for
ipmitool, unless its secret cannot be read. -/
def Complete (quote : String → String) (client : Client) (opts : HardwareFilter) : Prop :=
  ∀ hw, filterHardware quote client opts = .ok hw →
    ∃ bmcRef, hw.spec.bmcRef = some bmcRef ∧
      ∀ machine, filterMachine client bmcRef = .ok machine →
        machine.ipmitool ≠ none ∨
          ∃ err, readAuthSecret client machine.connection.authSecretRef = .error err

theorem readAuthSecret_ok {client : Client} {ref : SecretReference}
    {username password : List UInt8}
    (isRead : readAuthSecret client ref = .ok (username, password)) :
    ∃ secret, client.secret ref = .ok secret ∧ secret.get "username" = some username ∧
      secret.get "password" = some password := by
  unfold readAuthSecret at isRead
  cases isSecret : client.secret ref with
  | error =>
    rw [isSecret] at isRead
    cases isRead
  | ok secret =>
    simp only [isSecret] at isRead
    cases isUser : secret.get "username" with
    | none =>
      rw [isUser] at isRead
      cases isRead
    | some =>
      simp only [isUser] at isRead
      cases isPass : secret.get "password" with
      | none =>
        rw [isPass] at isRead
        cases isRead
      | some =>
        rw [isPass] at isRead
        cases isRead
        exact ⟨secret, rfl, isUser, isPass⟩

theorem withOptions_expected_iff (machine : Machine) {response : BMCMachine}
    (isFresh : response.port = 0) :
    (response.withOptions machine.ipmitool).port = machine.expectedPort ∧
        (response.withOptions machine.ipmitool).cipherSuite = machine.expectedCipherSuite ↔
      machine.ipmitool ≠ none := by
  unfold Machine.expectedPort Machine.expectedCipherSuite
  cases machine.ipmitool with
  | none =>
    refine iff_of_false ?_ (not_not.mpr rfl)
    rintro ⟨isDefault, -⟩
    rw [BMCMachine.withOptions, isFresh] at isDefault
    exact absurd isDefault (by decide)
  | some options =>
    refine iff_of_true ⟨?_, ?_⟩ (Option.some_ne_none options)
    · rw [BMCMachine.withOptions]
      by_cases isZero : options.port = 0
      · simp [Option.filter, isZero, defaultIPMIPort]
      · simp [Option.filter, isZero]
    · rw [BMCMachine.withOptions]
      by_cases isEmpty : options.cipherSuite = ""
      · simp [Option.filter, isEmpty, defaultIPMICipherSuite]
      · simp [Option.filter, isEmpty]

variable {opts : HardwareFilter} {hw : Hardware} {bmcRef : String} {machine : Machine}

theorem filterBMCMachine_found {quote : String → String} {client : Client}
    (isHardware : filterHardware quote client opts = .ok hw)
    (isRef : hw.spec.bmcRef = some bmcRef) (isMachine : filterMachine client bmcRef = .ok machine) :
    filterBMCMachine quote client opts =
      .returned ((readAuthSecret client machine.connection.authSecretRef).map fun credentials =>
        { BMCMachine.withOptions
            { sshPublicKeys := sshKeysOf hw, host := machine.connection.host } machine.ipmitool with
          user := credentials.1, pass := credentials.2 }) := by
  simp only [filterBMCMachine, isHardware, isRef, isMachine]
  cases readAuthSecret client machine.connection.authSecretRef with
  | error err | ok credentials => rfl

theorem usableOrError_found_iff {quote : String → String} {client : Client}
    (isHardware : filterHardware quote client opts = .ok hw)
    (isRef : hw.spec.bmcRef = some bmcRef) (isMachine : filterMachine client bmcRef = .ok machine) :
    UsableOrError quote client opts (filterBMCMachine quote client opts) ↔
      machine.ipmitool ≠ none ∨
        ∃ err, readAuthSecret client machine.connection.authSecretRef = .error err := by
  rw [filterBMCMachine_found isHardware isRef isMachine]
  cases isRead : readAuthSecret client machine.connection.authSecretRef with
  | error err => exact iff_of_true trivial (Or.inr ⟨err, rfl⟩)
  | ok credentials =>
    obtain ⟨username, password⟩ := credentials
    have noError : ¬ ∃ err, Except.ok (username, password) =
        (Except.error err : Except String (List UInt8 × List UInt8)) := by
      rintro ⟨err, isError⟩
      cases isError
    have expected := @withOptions_expected_iff machine
      { sshPublicKeys := sshKeysOf hw, host := machine.connection.host } rfl
    rw [or_iff_left noError, ← expected]
    constructor
    · rintro ⟨otherHardware, otherRef, other, isOtherHardware, isOtherRef, isOther, usable⟩
      cases isHardware.symm.trans isOtherHardware
      cases isRef.symm.trans isOtherRef
      cases isMachine.symm.trans isOther
      exact ⟨usable.port, usable.cipherSuite⟩
    · rintro ⟨port, cipherSuite⟩
      exact ⟨hw, bmcRef, machine, isHardware, isRef, isMachine, port, cipherSuite,
        readAuthSecret_ok isRead⟩

/-- A login attempt gets a usable machine or an error exactly if the objects are complete. -/
theorem login_gets_usable_machine_iff (quote : String → String) (client : Client)
    (opts : HardwareFilter) :
    UsableOrError quote client opts (filterBMCMachine quote client opts) ↔
      Complete quote client opts := by
  unfold Complete
  cases isHardware : filterHardware quote client opts with
  | error =>
    rw [filterBMCMachine, isHardware]
    refine iff_of_true trivial ?_
    intro hw isOk
    cases isOk
  | ok hw =>
    cases isRef : hw.spec.bmcRef with
    | none =>
      rw [filterBMCMachine, isHardware]
      dsimp only
      rw [isRef]
      refine iff_of_false id ?_
      intro complete
      obtain ⟨bmcRef, isSome, -⟩ := complete hw rfl
      cases isRef.symm.trans isSome
    | some bmcRef =>
      cases isMachine : filterMachine client bmcRef with
      | error =>
        simp only [filterBMCMachine, isHardware, isRef, isMachine]
        refine iff_of_true trivial ?_
        intro other isOther
        cases isOther
        refine ⟨bmcRef, isRef, ?_⟩
        intro machine isOk
        cases isMachine.symm.trans isOk
      | ok machine =>
        rw [usableOrError_found_iff isHardware isRef isMachine]
        constructor
        · intro settled other isOther
          cases isOther
          refine ⟨bmcRef, isRef, ?_⟩
          intro found isFound
          cases isMachine.symm.trans isFound
          exact settled
        · intro complete
          obtain ⟨_, isOtherRef, settled⟩ := complete hw rfl
          cases isRef.symm.trans isOtherRef
          exact settled machine isMachine

/-- A user whose Hardware has no BMC reference ends the lookup in a panic, before any key is
compared; one whose machine has no provider options gets port 0 and no cipher suite. -/
theorem incomplete_objects_break_login :
    let secret : Secret := (KeyedMap.empty.set "username" [97]).set "password" [98]
    let bare : Client :=
      ⟨.ok [{ name := "node", «namespace» := "tink" }], .ok [], fun _ => .ok secret⟩
    let plain : Client :=
      ⟨.ok [{ name := "node", «namespace» := "tink", spec := { bmcRef := some "bmc" } }],
        .ok [⟨"bmc", { host := "10.0.0.1" }⟩], fun _ => .ok secret⟩
    pubkeyAuth id bare (fun text => some text) "node" "key" = .panicked ∧
      ¬ UsableOrError id bare { byName := "node" }
        (filterBMCMachine id bare { byName := "node" }) ∧
      filterBMCMachine id plain { byName := "node" } =
        .returned (.ok ⟨"10.0.0.1", [97], [98], 0, "", []⟩) := by
  intro secret bare plain
  have isPanic : filterBMCMachine id bare { byName := "node" } = .panicked := by
    decide +kernel
  refine ⟨by decide +kernel, ?_, by decide +kernel⟩
  rw [isPanic]
  exact id

end Tinkerbell.Backend.Secondstar
