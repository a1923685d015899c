import Tinkerbell.Library.ByteText

/-!
Owns: `makeValidName`, which turns an agent ID into the name of the Hardware or
Workflow object created for it.

The stages work on the characters of the name. After the replacement of
invalid characters only ASCII is left, so that the truncation to 63 bytes is
one to 63 characters.
-/

namespace Tinkerbell.Server

open ByteText (trim)

def isSpace (c : Char) : Bool :=
  let code := c.toNat
  (9 ≤ code && code ≤ 13) || code = 32 || code = 0x85 || code = 0xa0 ||
    code = 0x1680 || (0x2000 ≤ code && code ≤ 0x200a) || code = 0x2028 ||
    code = 0x2029 || code = 0x202f || code = 0x205f || code = 0x3000

def trimSpace (name : List Char) : List Char :=
  trim isSpace name

def isLowerOrDigit (c : Char) : Bool :=
  ('a' ≤ c && c ≤ 'z') || ('0' ≤ c && c ≤ '9')

def isAlphanumeric (c : Char) : Bool :=
  isLowerOrDigit c || ('A' ≤ c && c ≤ 'Z')

def padEnds (name : List Char) : List Char :=
  let started := if name.head?.any isAlphanumeric then name else 'e' :: name
  if started.getLast?.any isAlphanumeric then started else started ++ ['e']

def replaceInvalid (name : List Char) : List Char :=
  name.map fun c => if isAlphanumeric c || c = '-' then c else '-'

def collapseHyphens : List Char → List Char
  | [] => []
  | c :: rest =>
    if c = '-' ∧ rest.head? = some '-' then collapseHyphens rest
    else c :: collapseHyphens rest

def consecutiveHyphens : List Char → Bool
  | [] => false
  | c :: rest => (c = '-' ∧ rest.head? = some '-') || consecutiveHyphens rest

def isValid (name : List Char) : Option String :=
  if name = [] then some "name cannot be empty"
  else if 63 < name.length then
    some "name exceeds maximum length of 63 characters"
  else if name.head? = some '-' ∨ name.getLast? = some '-' then
    some "name cannot start or end with hyphen"
  else if consecutiveHyphens name then
    some "name contains consecutive hyphens"
  else if name.any fun c => !(isLowerOrDigit c || c = '-') then
    some "name contains invalid characters"
  else none

def makeValidName (name : String) (leading : String) : Except String String :=
  let trimmed := trimSpace name.toList
  if trimmed = [] then .error "name cannot be empty"
  else
    let padded := padEnds (leading.toList ++ trimmed)
    let cleaned := trim (· = '-') (collapseHyphens (replaceInvalid padded))
    let result := (cleaned.map Char.toLower).take 63
    match isValid result with
    | some err => .error err
    | none => .ok (String.ofList result)

example :
    makeValidName (String.ofList (List.replicate 52 'a' ++ ['-', 'a'])) "discovery-" =
      .error "name cannot start or end with hyphen" ∧
    (makeValidName (String.ofList (List.replicate 52 'a' ++ ['-', 'a'])) "enrollment-").isOk := by
  decide +kernel

end Tinkerbell.Server
