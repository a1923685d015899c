import Tinkerbell.Library.HostPort
import Tinkerbell.Library.NetAddress
import Tinkerbell.Server.Names

/-!
Owns: the remote address that HTTP handlers see behind the `X-Forwarded-For`
middleware, and when it is what all header lines together say.

Addresses, header lines and their entries are texts; entries are lists of
characters. A trusted proxy is given by the text of its prefix.

Does not own: the rest of the middleware, which does not touch the address.
-/

variable {r : Request} {port : List Char}

namespace Tinkerbell.Http

open NetAddress HostPort
open Server (trimSpace)

structure Request where
  remoteAddr : String
  forwardedFor : List String

def isIP (text : List Char) : Bool := (parseIP (String.ofList text)).isSome

def entries (ipList : String) : List (List Char) :=
  (splitAtChar ',' ipList.toList).map trimSpace

def scan (allowed : List Char → Bool) : List (List Char) → List Char → List Char
  | [], lastIP => lastIP
  | ip :: rest, lastIP =>
    if isIP ip = false then lastIP
    else if allowed ip = false then ip
    else scan allowed rest ip

def parse (ipList : String) (allowed : List Char → Bool) : List Char :=
  match entries ipList with
  | [] => []
  | [ip] => if isIP ip then ip else []
  | ips => scan allowed ips.reverse []

def headerGet (lines : List String) : String := lines.headD ""

def getRemoteAddrIfAllowed (r : Request) (allowed : List Char → Bool) : String :=
  let xffh := headerGet r.forwardedFor
  if xffh = "" then r.remoteAddr
  else
    match splitHostPort r.remoteAddr.toList with
    | .error _ => r.remoteAddr
    | .ok (sip, sport) =>
      if sip = [] ∨ allowed sip = false then r.remoteAddr
      else
        let xip := parse xffh allowed
        if xip = [] then r.remoteAddr else String.ofList (joinHostPort xip sport)

def toMasks : List String → Except String (List Network)
  | [] => .ok []
  | cidr :: rest =>
    match parseCIDR cidr with
    | none => .error ("invalid CIDR address: " ++ cidr)
    | some (addr, bits) => (toMasks rest).map (networkOf addr bits :: ·)

structure Xff where
  allowAll : Bool
  allowedMasks : List Network

def newXFF (allowedSubnets : List String) : Except String Xff :=
  (toMasks allowedSubnets).map fun masks => ⟨allowedSubnets = [], masks⟩

def ipInMasks (ip : Addr) (masks : List Network) : Bool :=
  masks.any fun mask => mask.contains ip

def Xff.allowed (xff : Xff) (sip : List Char) : Bool :=
  xff.allowAll || (parseIP (String.ofList sip)).any fun ip => ipInMasks ip xff.allowedMasks

/-- The address behind the middleware of `addMiddleware`, which leaves it out when there
are no proxies, or the error of building it. -/
def effectiveAddr (proxies : List String) (r : Request) : Except String String :=
  if proxies = [] then .ok r.remoteAddr
  else
    match newXFF proxies with
    | .error err => .error ("failed to create XFF middleware: " ++ err)
    | .ok xff => .ok (getRemoteAddrIfAllowed r xff.allowed)

/-- The text is an address in the network of one of the proxies. -/
def Trusted (proxies : List String) (text : List Char) : Prop :=
  ∃ ip, parseIP (String.ofList text) = some ip ∧
    ∃ cidr ∈ proxies, ∃ addr bits, parseCIDR cidr = some (addr, bits) ∧
      (networkOf addr bits).contains ip = true

/-- The peer is a trusted proxy, on the given port. -/
def TrustedPeer (proxies : List String) (r : Request) (port : List Char) : Prop :=
  ∃ host, splitHostPort r.remoteAddr.toList = .ok (host, port) ∧ Trusted proxies host

def RightmostUntrusted (proxies : List String) (list : List (List Char)) (entry : List Char) :
    Prop :=
  ∃ left right, list = left ++ entry :: right ∧ isIP entry = true ∧ ¬Trusted proxies entry ∧
    ∀ later ∈ right, Trusted proxies later

def joinedEntries (r : Request) : List (List Char) :=
  entries (String.intercalate "," r.forwardedFor)

/-- The effective address is the peer's, or what trusted proxies forwarded. -/
structure Respected (proxies : List String) (r : Request) (effective : String) : Prop where
  peer : (∀ port, ¬TrustedPeer proxies r port) → effective = r.remoteAddr
  forwarded : ∀ port entry, TrustedPeer proxies r port →
    RightmostUntrusted proxies (joinedEntries r) entry →
      effective = String.ofList (joinHostPort entry port)

variable {text : List Char}

theorem ne_nil_of_isIP (isAddress : isIP text = true) : text ≠ [] := by
  intro isEmpty
  rw [isEmpty] at isAddress
  exact absurd isAddress (by decide)

theorem isIP_of_trusted {proxies : List String} (trusted : Trusted proxies text) :
    isIP text = true := by
  obtain ⟨_, isRead, _⟩ := trusted
  unfold isIP
  rw [isRead]
  rfl

private theorem ipInMasks_iff {proxies : List String} {masks : List Network}
    (built : toMasks proxies = .ok masks) (ip : Addr) :
    ipInMasks ip masks = true ↔ ∃ cidr ∈ proxies, ∃ addr bits,
      parseCIDR cidr = some (addr, bits) ∧ (networkOf addr bits).contains ip = true := by
  induction proxies generalizing masks with
  | nil =>
    cases built
    simp [ipInMasks]
  | cons cidr rest ih =>
    unfold toMasks at built
    split at built
    · cases built
    · next addr bits isRead =>
      cases later : toMasks rest with
      | error =>
        rw [later] at built
        cases built
      | ok =>
        rw [later] at built
        cases built
        have isFirst : (∃ first length, parseCIDR cidr = some (first, length) ∧
            (networkOf first length).contains ip = true) ↔
              (networkOf addr bits).contains ip = true := by
          simp [isRead]
        rw [List.exists_mem_cons_iff, isFirst, ← ih later]
        simp [ipInMasks]

theorem allowed_iff {proxies : List String} {xff : Xff} (built : newXFF proxies = .ok xff)
    (given : proxies ≠ []) (text : List Char) :
    xff.allowed text = true ↔ Trusted proxies text := by
  unfold newXFF at built
  cases isMasks : toMasks proxies with
  | error =>
    rw [isMasks] at built
    cases built
  | ok =>
    rw [isMasks] at built
    cases built
    simp only [Xff.allowed, given, decide_false, Bool.false_or, Option.any_eq_true, Trusted,
      ipInMasks_iff isMasks]

section Scan

variable {proxies : List String} {allowed : List Char → Bool}

theorem parse_eq_scan (ipList : String) :
    parse ipList allowed = scan allowed (entries ipList).reverse [] := by
  unfold parse
  split
  · next none => rw [none]; rfl
  · next ip isOne =>
    rw [isOne]
    simp only [List.reverse_singleton, scan]
    by_cases isAddress : isIP ip = true <;> simp [isAddress]
  · rfl

private theorem scan_isIP (reversed : List (List Char)) (lastIP : List Char) :
    scan allowed reversed lastIP = lastIP ∨ isIP (scan allowed reversed lastIP) = true := by
  induction reversed generalizing lastIP with
  | nil => exact Or.inl rfl
  | cons ip _ ih =>
    unfold scan
    split
    · exact Or.inl rfl
    · next isAddress =>
      have isAddress : isIP ip = true := by simpa using isAddress
      split
      · exact Or.inr isAddress
      · rcases ih ip with same | found
        · rw [same]
          exact Or.inr isAddress
        · exact Or.inr found

variable (isAllowed : ∀ text, allowed text = true ↔ Trusted proxies text)

include isAllowed

variable {entry : List Char}

private theorem scan_of_rightmost {list : List (List Char)}
    (rightmost : RightmostUntrusted proxies list entry) (lastIP : List Char) :
    scan allowed list.reverse lastIP = entry := by
  obtain ⟨left, right, rfl, isAddress, untrusted, trusted⟩ := rightmost
  have refused : allowed entry = false := by
    rw [← Bool.not_eq_true, isAllowed]
    exact untrusted
  have reversed : (left ++ entry :: right).reverse = right.reverse ++ entry :: left.reverse := by
    simp
  rw [reversed]
  have trusted : ∀ later ∈ right.reverse, Trusted proxies later := by
    intro later member
    exact trusted later (List.mem_reverse.mp member)
  -- The entries to the right are trusted, and the scan passes over them.
  generalize right.reverse = passed at trusted
  induction passed generalizing lastIP with
  | nil => simp [scan, isAddress, refused]
  | cons ip _ ih =>
    have isTrusted := trusted ip (by simp)
    rw [List.cons_append, scan, isIP_of_trusted isTrusted, (isAllowed ip).mpr isTrusted]
    exact ih ip fun later member => trusted later (by simp [member])

private theorem rightmost_of_scan {reversed : List (List Char)} {lastIP : List Char}
    (found : scan allowed reversed lastIP = entry) (untrusted : ¬Trusted proxies entry)
    (new : entry ≠ lastIP) : RightmostUntrusted proxies reversed.reverse entry := by
  induction reversed generalizing lastIP with
  | nil => exact absurd found.symm new
  | cons ip rest ih =>
    unfold scan at found
    split at found
    · exact absurd found.symm new
    · next isAddress =>
      rw [List.reverse_cons]
      split at found
      · subst found
        exact ⟨rest.reverse, [], rfl, by simpa using isAddress, untrusted, by simp⟩
      · next allows =>
        have isTrusted : Trusted proxies ip := (isAllowed ip).mp (by simpa using allows)
        have different : entry ≠ ip := fun same => untrusted (same ▸ isTrusted)
        obtain ⟨left, right, split, isIP, _, trusted⟩ :=
          ih found different
        refine ⟨left, right ++ [ip], by rw [split]; simp, isIP, untrusted, ?_⟩
        intro later member
        rcases List.mem_append.mp member with inRight | isLast
        · exact trusted later inRight
        · rw [List.mem_singleton.mp isLast]
          exact isTrusted

theorem parse_eq_iff {ipList : String} (isAddress : isIP entry = true)
    (untrusted : ¬Trusted proxies entry) :
    parse ipList allowed = entry ↔ RightmostUntrusted proxies (entries ipList) entry := by
  rw [parse_eq_scan]
  constructor
  · intro found
    have rightmost := rightmost_of_scan isAllowed found untrusted (ne_nil_of_isIP isAddress)
    rwa [List.reverse_reverse] at rightmost
  · intro rightmost
    exact scan_of_rightmost isAllowed rightmost []

theorem getRemoteAddr_of_trustedPeer (peer : TrustedPeer proxies r port) :
    getRemoteAddrIfAllowed r allowed =
      if parse (headerGet r.forwardedFor) allowed = [] then r.remoteAddr
      else String.ofList (joinHostPort (parse (headerGet r.forwardedFor) allowed) port) := by
  obtain ⟨host, splits, trusted⟩ := peer
  have notEmpty := ne_nil_of_isIP (isIP_of_trusted trusted)
  unfold getRemoteAddrIfAllowed
  dsimp only
  split
  · next noHeader =>
    rw [noHeader]
    rfl
  · rw [splits]
    simp [notEmpty, (isAllowed host).mpr trusted]

theorem getRemoteAddr_of_untrusted (noPeer : ∀ port, ¬TrustedPeer proxies r port) :
    getRemoteAddrIfAllowed r allowed = r.remoteAddr := by
  unfold getRemoteAddrIfAllowed
  dsimp only
  split
  · rfl
  · split
    · rfl
    · next host port splits =>
      split
      · rfl
      · next passes =>
        have allows : allowed host = true := by simpa using (not_or.mp passes).2
        exact absurd ⟨host, splits, (isAllowed host).mp allows⟩ (noPeer port)

end Scan

theorem noBrackets_of_isIP (isAddress : isIP text = true) : '[' ∉ text ∧ ']' ∉ text := by
  obtain ⟨_, isRead⟩ := Option.isSome_iff_exists.mp isAddress
  have plain := isPlain_of_parseIP isRead
  rw [String.toList_ofList] at plain
  constructor
  · intro member
    exact absurd (plain _ member) (by unfold IsPlain; decide)
  · intro member
    exact absurd (plain _ member) (by unfold IsPlain; decide)

private theorem remoteAddr_ne_join {proxies : List String} {entry : List Char}
    (peer : TrustedPeer proxies r port) (isAddress : isIP entry = true)
    (untrusted : ¬Trusted proxies entry) :
    r.remoteAddr ≠ String.ofList (joinHostPort entry port) := by
  intro same
  obtain ⟨_, splits, trusted⟩ := peer
  have isPort := isPort_of_split splits
  obtain ⟨opening, closing⟩ := noBrackets_of_isIP isAddress
  rw [same, String.toList_ofList, splitHostPort_joinHostPort opening closing isPort] at splits
  cases splits
  exact untrusted trusted

private theorem exists_allowed {proxies : List String} {effective : String}
    (served : effectiveAddr proxies r = .ok effective) :
    ∃ allowed : List Char → Bool, (∀ text, allowed text = true ↔ Trusted proxies text) ∧
      effective = getRemoteAddrIfAllowed r allowed := by
  unfold effectiveAddr at served
  split at served
  · next none =>
    -- Without proxies nothing is trusted, and the address stays.
    cases served
    have nobody : ∀ text, (fun _ : List Char => false) text = true ↔ Trusted proxies text := by
      simp [Trusted, none]
    have noPeer : ∀ port, ¬TrustedPeer proxies r port := by
      simp [TrustedPeer, Trusted, none]
    exact ⟨fun _ => false, nobody, (getRemoteAddr_of_untrusted nobody noPeer).symm⟩
  · next given =>
    split at served
    · cases served
    · next xff built =>
      cases served
      exact ⟨xff.allowed, allowed_iff built given, rfl⟩

/-- The effective address is what the peer and all header lines together say exactly when
the peer is not trusted, or the right-most untrusted entry of all lines, where it is an
address, is the right-most untrusted entry of the first line as well. -/
theorem forwarded_for_respected_iff (proxies : List String) (r : Request) (effective : String)
    (served : effectiveAddr proxies r = .ok effective) :
    Respected proxies r effective ↔
      (∀ port, ¬TrustedPeer proxies r port) ∨
      ∀ entry, RightmostUntrusted proxies (joinedEntries r) entry →
        RightmostUntrusted proxies (entries (headerGet r.forwardedFor)) entry := by
  obtain ⟨allowed, isAllowed, rfl⟩ := exists_allowed served
  by_cases noPeer : ∀ port, ¬TrustedPeer proxies r port
  · refine iff_of_true ⟨fun _ => getRemoteAddr_of_untrusted isAllowed noPeer, ?_⟩ (Or.inl noPeer)
    intro port entry peer
    exact absurd peer (noPeer port)
  · rw [or_iff_right noPeer]
    obtain ⟨port, peer⟩ := not_forall_not.mp noPeer
    constructor
    · intro respected entry rightmost
      have said := respected.forwarded port entry peer rightmost
      obtain ⟨_, _, _, isAddress, untrusted, _⟩ := rightmost
      rw [getRemoteAddr_of_trustedPeer isAllowed peer] at said
      split at said
      · exact absurd said (remoteAddr_ne_join peer isAddress untrusted)
      · next found =>
        apply (parse_eq_iff isAllowed isAddress untrusted).mp
        obtain ⟨_, splits, _⟩ := peer
        have isParsed : isIP (parse (headerGet r.forwardedFor) allowed) = true := by
          rw [parse_eq_scan] at found ⊢
          exact (scan_isIP _ _).resolve_left found
        exact joinHostPort_injective (isPort_of_split splits) (noBrackets_of_isIP isParsed)
          (noBrackets_of_isIP isAddress) (String.ofList_injective said)
    · intro agrees
      refine ⟨fun none => absurd peer (none port), ?_⟩
      intro port entry peer rightmost
      have ⟨_, _, _, isAddress, untrusted, _⟩ := rightmost
      have found := (parse_eq_iff isAllowed isAddress untrusted).mpr (agrees entry rightmost)
      rw [getRemoteAddr_of_trustedPeer isAllowed peer, found, if_neg (ne_nil_of_isIP isAddress)]

def proxied (lines : List String) : Request := ⟨"10.0.0.1:4000", lines⟩

theorem forwarded_for_respected_oneLine :
    Respected ["10.0.0.0/8"] (proxied ["9.9.9.9, 1.2.3.4, 10.0.0.2"]) "1.2.3.4:4000" :=
  (forwarded_for_respected_iff ["10.0.0.0/8"] (proxied ["9.9.9.9, 1.2.3.4, 10.0.0.2"])
    "1.2.3.4:4000" (by rfl)).mpr (Or.inr fun _ rightmost => rightmost)

/-- A client that sends a header line of its own, to which the proxy adds another, chooses
the address it is seen under. -/
theorem first_line_forged :
    effectiveAddr ["10.0.0.0/8"] (proxied ["1.2.3.4", "5.6.7.8"]) = .ok "1.2.3.4:4000" ∧
    ¬Respected ["10.0.0.0/8"] (proxied ["1.2.3.4", "5.6.7.8"]) "1.2.3.4:4000" := by
  refine ⟨by rfl, ?_⟩
  intro respected
  have trusts := @allowed_iff ["10.0.0.0/8"] ⟨false, [⟨[10, 0, 0, 0], [255, 0, 0, 0]⟩]⟩
    (by rfl) (by decide)
  have peer : TrustedPeer ["10.0.0.0/8"] (proxied ["1.2.3.4", "5.6.7.8"]) "4000".toList :=
    ⟨"10.0.0.1".toList, by rfl, (trusts _).mp (by decide)⟩
  have rightmost : RightmostUntrusted ["10.0.0.0/8"]
      (joinedEntries (proxied ["1.2.3.4", "5.6.7.8"])) "5.6.7.8".toList := by
    refine ⟨["1.2.3.4".toList], [], by rfl, by decide, ?_, by simp⟩
    rw [← trusts]
    decide
  exact absurd (respected.forwarded _ _ peer rightmost) (by decide)

end Tinkerbell.Http
