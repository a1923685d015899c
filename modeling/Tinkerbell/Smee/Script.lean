import Tinkerbell.Library.UrlPath
import Tinkerbell.Smee.DhcpHandlers

/-!
Owns: the server of iPXE scripts: which answer a request for `auto.ipxe` gets,
given what the backend's lookups answered.

A script is the data its template is filled with. The client's address is given as the
server prints it.
-/

namespace Tinkerbell.Smee.Script

open ByteText NetAddress UrlPath
open Smee.Dhcp (Urls LookupError convertByMac convertByIP)

structure Info (URL : Type) where
  allowNetboot : Bool
  macAddress : List UInt8
  (arch vlanID agentID facility ipxeScript : String)
  ipxeScriptURL : Option URL
  osie : Dhcp.OSIE URL

structure Settings where
  osieURL : String
  extraKernelParams : List String
  publicSyslogFQDN : String
  (tinkServerTLS tinkServerInsecureTLS : Bool)
  tinkServerGRPCAddr : String
  (ipxeScriptRetries ipxeScriptRetryDelay : Int)
  staticIPXEEnabled : Bool
  (kernelName initrdName : String)

structure Hook where
  (arch downloadURL : String := "")
  extraKernelParams : List String := []
  (facility hwAddr syslogHost : String := "")
  (tinkerbellTLS tinkerbellInsecureTLS : Bool := false)
  (tinkGRPCAuthority traceID vlanID workerID : String := "")
  (retries retryDelay : Int := 0)
  (kernelName initrdName : String := "")

inductive BootScript (URL : Type) where
  | static (hook : Hook)
  | hook (hook : Hook)
  | chain (url : URL)
  | custom (contents : String)

inductive Response (URL : Type) where
  | status (code : Nat)
  | script (content : BootScript URL)

def statusNotFound : Nat := 404
def statusInternalServerError : Nat := 500

structure Request where
  path : Bytes
  remote : Option String
  traceID : String := ""

def getMAC (urlPath : Bytes) : Option (List UInt8) :=
  parseMAC (asciiText (base (dir urlPath)))

section Serve

variable {URL : Type} (urls : Urls URL) (settings : Settings)

def infoOf (hardware : Dhcp.Hardware URL) : Info URL :=
  { allowNetboot := hardware.netboot.allowNetboot
    macAddress := hardware.dhcp.macAddress
    arch := hardware.dhcp.arch
    vlanID := hardware.dhcp.vlanID
    agentID := hardware.agentID
    facility := hardware.netboot.facility
    ipxeScript := hardware.netboot.ipxeScript
    ipxeScriptURL := hardware.netboot.ipxeScriptURL
    osie := hardware.netboot.osie }

def getByMac (mac : List UInt8) (lookup : Except LookupError Api.Hardware) :
    Option (Info URL) :=
  match lookup with
  | .error _ => none
  | .ok hardware => ((convertByMac urls mac hardware).toOption).map infoOf

def getByIP (ip : String) (lookup : Except LookupError Api.Hardware) : Option (Info URL) :=
  match lookup with
  | .error _ => none
  | .ok hardware => ((convertByIP urls ip hardware).toOption).map infoOf

def staticHook : Hook :=
  { downloadURL := settings.osieURL
    extraKernelParams := settings.extraKernelParams
    syslogHost := settings.publicSyslogFQDN
    tinkerbellTLS := settings.tinkServerTLS
    tinkGRPCAuthority := settings.tinkServerGRPCAddr
    retries := settings.ipxeScriptRetries
    retryDelay := settings.ipxeScriptRetryDelay
    kernelName := settings.kernelName
    initrdName := settings.initrdName }

def fileName (ofRecord global arch : String) : String :=
  if ofRecord ≠ "" then ofRecord
  else if global ≠ "" then global ++ "-" ++ arch
  else ""

def defaultScript (traceID : String) (info : Info URL) : Hook :=
  let arch := if info.arch = "" then "x86_64" else info.arch
  let baseURL := (info.osie.baseURL.map urls.text).getD ""
  { arch
    downloadURL := if baseURL = "" then settings.osieURL else baseURL
    extraKernelParams := settings.extraKernelParams ++ info.osie.kernelParams
    facility := info.facility
    hwAddr := macString info.macAddress
    syslogHost := settings.publicSyslogFQDN
    tinkerbellTLS := settings.tinkServerTLS
    tinkerbellInsecureTLS := settings.tinkServerInsecureTLS
    tinkGRPCAuthority := settings.tinkServerGRPCAddr
    traceID
    vlanID := info.vlanID
    workerID := if info.agentID = "" then macString info.macAddress else info.agentID
    retries := settings.ipxeScriptRetries
    retryDelay := settings.ipxeScriptRetryDelay
    kernelName := fileName info.osie.kernel settings.kernelName arch
    initrdName := fileName info.osie.initrd settings.initrdName arch }

def customScript (info : Info URL) : Option (BootScript URL) :=
  match info.ipxeScriptURL.filter fun url => urls.text url ≠ "" with
  | some url =>
    if urls.scheme url = "http" ∨ urls.scheme url = "https" then some (.chain url) else none
  | none => if info.ipxeScript ≠ "" then some (.custom info.ipxeScript) else none

def serveBootScript (traceID : String) (info : Info URL) : Response URL :=
  if info.ipxeScriptURL.isSome ∨ info.ipxeScript ≠ "" then
    match customScript urls info with
    | some script => .script script
    | none => .status statusInternalServerError
  else .script (.hook (defaultScript urls settings traceID info))

def serveRecord (traceID : String) : Option (Info URL) → Response URL
  | none =>
    if settings.staticIPXEEnabled then .script (.static (staticHook settings))
    else .status statusNotFound
  | some info =>
    if info.allowNetboot then serveBootScript urls settings traceID info
    else .status statusNotFound

def handlerFunc (lookupMac : List UInt8 → Except LookupError Api.Hardware)
    (lookupIP : String → Except LookupError Api.Hardware) (request : Request) :
    Response URL :=
  if base request.path ≠ bytesOf "auto.ipxe" then .status statusNotFound
  else
    match getMAC request.path, request.remote with
    | some mac, _ =>
      serveRecord urls settings request.traceID (getByMac urls mac (lookupMac mac))
    | none, some ip =>
      serveRecord urls settings request.traceID (getByIP urls ip (lookupIP ip))
    | none, none => .status statusNotFound

end Serve

end Tinkerbell.Smee.Script
