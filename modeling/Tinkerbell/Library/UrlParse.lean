import Tinkerbell.Library.NetAddress
import Tinkerbell.Library.UrlPath

/-!
Owns: reading a URL from a text, as far as its scheme and its host: the scheme,
the opaque form, the authority with its user and its host, the brackets around
an internet address of the long form, and the percent-encoding of every part.

A URL without a scheme is read as one with a path only; a text is read whole or
refused.
-/

namespace UrlParse

open ByteText
open UrlPath (bytesOf asciiText isAlphanumeric percent shouldEscapeHost slash unescape)

def colon : UInt8 := 58

def cut (separator : UInt8) (text : Bytes) : Bytes × Option Bytes :=
  (text.takeWhile (· ≠ separator), (text.dropWhile (· ≠ separator)).tail?)

def isControl (byte : UInt8) : Bool := byte < 32 || byte = 127

def isLetter (byte : UInt8) : Bool := (97 ≤ byte && byte ≤ 122) || (65 ≤ byte && byte ≤ 90)

def toLower (byte : UInt8) : UInt8 := if 65 ≤ byte ∧ byte ≤ 90 then byte + 32 else byte

def isSchemeByte (byte : UInt8) : Bool :=
  isAlphanumeric byte || (bytesOf "+-.").contains byte

def getScheme (text : Bytes) : Option (Bytes × Bytes) :=
  match text with
  | [] => some ([], [])
  | first :: _ =>
    if first = colon then none
    else if !isLetter first then some ([], text)
    else
      match text.dropWhile isSchemeByte with
      | [] => some ([], text)
      | byte :: rest =>
        if byte = colon then some (text.takeWhile isSchemeByte, rest) else some ([], text)

def validOptionalPort (port : Bytes) : Bool :=
  match port with
  | [] => true
  | first :: digits => first = colon && digits.all isDigit

def validUserinfo (user : Bytes) : Bool :=
  user.all fun byte => isAlphanumeric byte || (bytesOf "-._:~!$&'()*+,;=%@").contains byte

/-- Undo percent-encoding where only some bytes may be encoded, and where only bytes beyond ASCII
and those of a host stand plain. -/
def unescapeWith (mayEncode : UInt8 → Bool) : Bytes → Option Bytes
  | [] => some []
  | byte :: rest =>
    if byte = percent then
      match rest with
      | first :: second :: rest => do
          let decoded := UInt8.ofNat ((← unhex first) * 16 + (← unhex second))
          if !mayEncode decoded then none
          else (unescapeWith mayEncode rest).map (decoded :: ·)
      | _ => none
    else if byte < 128 && shouldEscapeHost byte then none
    else (unescapeWith mayEncode rest).map (byte :: ·)

def unescapeHost : Bytes → Option Bytes :=
  unescapeWith fun decoded => 128 ≤ decoded || decoded = percent

def unescapeZone : Bytes → Option Bytes :=
  unescapeWith fun decoded => decoded = percent || decoded = 32 || !shouldEscapeHost decoded

def cutZone : Bytes → Bytes × Option Bytes
  | [] => ([], none)
  | byte :: rest =>
    if byte = percent ∧ rest.take 2 = bytesOf "25" then ([], some (byte :: rest))
    else
      let (before, zone) := cutZone rest
      (byte :: before, zone)

def unescapeBracketed (inner : Bytes) : Option Bytes :=
  match cutZone inner with
  | (before, some zone) => do some ((← unescapeHost before) ++ (← unescapeZone zone))
  | (_, none) => unescapeHost inner

def isLongAddress (text : Bytes) : Bool :=
  match NetAddress.parseAddr (asciiText text) with
  | some (.v6 _ _) => true
  | _ => false

def parseHost (host : Bytes) : Option Bytes :=
  match cutLast 91 host with
  | some (before, afterOpen) =>
    -- The opening bracket has to be the first byte.
    if before ≠ [] then none
    else do
      let (inner, port) ← cutLast 93 afterOpen
      if !validOptionalPort port then none
      else do
        let address ← unescapeBracketed inner
        if !isLongAddress address then none
        else some ((91 :: address) ++ (93 :: (← unescapeHost port)))
  | none =>
    -- Everything from the first colon on has to be a port.
    if !validOptionalPort (host.dropWhile (· ≠ colon)) then none else unescapeHost host

def parseAuthority (authority : Bytes) : Option Bytes :=
  match cutLast 64 authority with
  | none => parseHost authority
  | some (user, host) => do
      let host ← parseHost host
      if !validUserinfo user then none
      else do
        let (name, password) := cut colon user
        let _ ← unescape name
        let _ ← unescape (password.getD [])
        some host

structure Url where
  (scheme host : Bytes)
deriving DecidableEq

def parseRest (scheme rest : Bytes) : Option Url :=
  if rest.head? ≠ some slash ∧ scheme ≠ [] then some { scheme, host := [] }
  else if rest.head? ≠ some slash ∧ (rest.takeWhile (· ≠ slash)).contains colon then none
  else if rest.take 2 = [slash, slash] ∧ (scheme ≠ [] ∨ rest.take 3 ≠ [slash, slash, slash]) then do
    let authority := (rest.drop 2).takeWhile (· ≠ slash)
    let host ← parseAuthority authority
    let _ ← unescape ((rest.drop 2).dropWhile (· ≠ slash))
    some { scheme, host }
  else do
    let _ ← unescape rest
    some { scheme, host := [] }

def parse (text : Bytes) : Option Url := do
  let (url, fragment) := cut 35 text
  let _ ← unescape (fragment.getD [])
  if url.any isControl then none
  else if url = bytesOf "*" then some { scheme := [], host := [] }
  else do
    let (scheme, rest) ← getScheme url
    parseRest (scheme.map toLower) (cut 63 rest).1

def Url.hostname (url : Url) : Bytes :=
  let host :=
    match cutLast colon url.host with
    | some (before, port) => if port.all isDigit then before else url.host
    | none => url.host
  if host.head? = some 91 ∧ host.getLast? = some 93 then (host.drop 1).dropLast else host

example : parse (bytesOf "HTTPS://user@[fe80::1%25en0]:6443/api") =
    some { scheme := bytesOf "https", host := bytesOf "[fe80::1%en0]:6443" } := by decide +kernel

example :
    (parse (bytesOf "https://10.0.0.1:6443")).map Url.hostname = some (bytesOf "10.0.0.1") := by
  decide +kernel

end UrlParse
