import SiftKit.Json.NumberText

/-! # Public addresses

`web-search/url-safety.ts`: which addresses may be asked for.  The URL parser is the platform's; a host it returns is a
lower-case name that is no number, four octets, or the compressed text of an IPv6 address.
-/

namespace SiftKit.WebSearch

open SiftKit.Json
open SiftKit.Json.Schema (isWhiteSpace trim)

abbrev ErrorMessage := JsString

/-! ## Parsed addresses -/

def dot : CodeUnit := 0x2E

/-- What a parsed domain is written with: no upper-case letter, no white space and nothing that ends or splits a host. -/
def isDomainUnit (unit : CodeUnit) : Bool :=
  0x21 ≤ unit.toNat && unit.toNat < 0x7F && !(0x41 ≤ unit.toNat && unit.toNat ≤ 0x5A) &&
    !(utf16 "#%/:<>?@[\\]^|").contains unit

def isHexNumber : JsString → Bool
  | 0x30 :: 0x78 :: digits => digits.all fun digit => (hexValue digit).isSome
  | _ => false

/-- Whether the last label is a number, a final dot apart: such a host is an IPv4 address or none. -/
def endsInNumber (name : JsString) : Bool :=
  let labels := name.splitOn dot
  let last := if labels.getLast? = some [] && 1 < labels.length then labels.dropLast.getLast? else labels.getLast?
  last.any fun label => (!label.isEmpty && label.all isDigit) || isHexNumber label

structure Domain where
  name : JsString
  present : name ≠ []
  written : ∀ unit ∈ name, isDomainUnit unit = true
  notNumber : endsInNumber name = false

structure Ipv6Address where
  compressed : JsString
  written : ∀ unit ∈ compressed, unit ∈ utf16 "0123456789abcdef:"

inductive UrlHost where
  | domain (named : Domain)
  | ipv4 (first second third fourth : UInt8)
  | ipv6 (address : Ipv6Address)
  /-- What a URL of another scheme has for a host. -/
  | other (text : JsString)

/-- `url.hostname`. -/
def UrlHost.hostname : UrlHost → JsString
  | .domain named => named.name
  | .ipv4 first second third fourth =>
    [dot].intercalate ([first, second, third, fourth].map fun octet => decimalText octet.toNat)
  | .ipv6 address => utf16 "[" ++ address.compressed ++ utf16 "]"
  | .other text => text

def isHttpProtocol (protocol : JsString) : Bool := protocol == utf16 "http:" || protocol == utf16 "https:"

structure WebUrl where
  protocol : JsString
  host : UrlHost
  /-- `url.toString()`. -/
  href : JsString
  network : isHttpProtocol protocol = true → ∀ text, host ≠ .other text

def asciiLowerCase (unit : CodeUnit) : CodeUnit :=
  if 0x41 ≤ unit.toNat && unit.toNat ≤ 0x5A then unit + 0x20 else unit

/-- What the platform knows of addresses, of Unicode and of pages. -/
structure WebPlatform where
  /-- `new URL(text)`, none where it throws. -/
  parseUrl : JsString → Option WebUrl
  /-- `new URL(location, base)`, none where it throws. -/
  resolveUrl : JsString → WebUrl → Option WebUrl
  toLowerCase : JsString → JsString
  toLowerCase_ascii : ∀ text : JsString, (∀ unit ∈ text, unit.toNat < 0x80) → toLowerCase text = text.map asciiLowerCase
  /-- `htmlToMarkdown`, the title and the text of a page, or what the conversion throws. -/
  htmlToMarkdown : JsString → JsString → Except ErrorMessage (JsString × JsString)

/-! ## The check -/

def PRIVATE_HOST_SUFFIXES : List JsString := [utf16 ".local", utf16 ".internal"]

/-- An integer from 0 to 255. -/
def isOctet (part : ℚ) : Bool := part.den == 1 && !decide (part < 0) && !decide (255 < part)

def isPrivateIpv4 (hostname : JsString) : Bool :=
  match (hostname.splitOn dot).map numberOfText with
  | [some a, some b, some c, some d] =>
    if !([a, b, c, d].all isOctet) then false
    else
      a == 10 || a == 127 || (a == 172 && 16 ≤ b && b ≤ 31) || (a == 192 && b == 168) || (a == 169 && b == 254)
  | _ => false

def isBlockedHostname (platform : WebPlatform) (hostname : JsString) : Bool :=
  let normalized := platform.toLowerCase (trim hostname)
  if normalized.isEmpty || normalized == utf16 "localhost" then true
  else if normalized == utf16 "::1" || (utf16 "[").isPrefixOf normalized then true
  else if isPrivateIpv4 normalized then true
  else PRIVATE_HOST_SUFFIXES.any fun suffix => suffix.isSuffixOf normalized

def assertHttpUrl (platform : WebPlatform) (value : JsString) : Except ErrorMessage WebUrl :=
  match platform.parseUrl (trim value) with
  | none => .error (utf16 "Expected a valid URL.")
  | some url => if isHttpProtocol url.protocol then .ok url else .error (utf16 "Expected an http or https URL.")

def assertPublicHttpUrl (platform : WebPlatform) (value : JsString) : Except ErrorMessage WebUrl :=
  match assertHttpUrl platform value with
  | .error message => .error message
  | .ok url =>
    if isBlockedHostname platform url.host.hostname then
      .error (utf16 "Blocked private, internal, or local URL host.")
    else .ok url

/-- Whether the check lets a parsed address through. -/
def isAccepted (platform : WebPlatform) (url : WebUrl) : Bool :=
  isHttpProtocol url.protocol && !isBlockedHostname platform url.host.hostname

theorem assertPublicHttpUrl_eq_ok {platform : WebPlatform} {value : JsString} {url : WebUrl} :
    assertPublicHttpUrl platform value = .ok url ↔
      platform.parseUrl (trim value) = some url ∧ isAccepted platform url = true := by
  cases parsed : platform.parseUrl (trim value) with
  | none => simp [assertPublicHttpUrl, assertHttpUrl, parsed]
  | some found =>
    by_cases isHttp : isHttpProtocol found.protocol = true
    · by_cases isBlocked : isBlockedHostname platform found.host.hostname = true
      · have apart : found = url → isAccepted platform url = false := by
          rintro rfl
          simp [isAccepted, isBlocked]
        simp only [assertPublicHttpUrl, assertHttpUrl, parsed, isHttp, isBlocked, if_true, Option.some.injEq]
        constructor
        · intro refused
          cases refused
        · rintro ⟨same, accepted⟩
          simp [apart same] at accepted
      · have same : found = url → isAccepted platform url = true := by
          rintro rfl
          simp [isAccepted, isHttp, isBlocked]
        simp only [assertPublicHttpUrl, assertHttpUrl, parsed, isHttp, if_true, isBlocked, Bool.false_eq_true, if_false,
          Except.ok.injEq, Option.some.injEq]
        exact ⟨fun found => ⟨found, same found⟩, fun both => both.1⟩
    · have apart : found = url → isAccepted platform url = false := by
        rintro rfl
        simp [isAccepted, isHttp]
      simp only [assertPublicHttpUrl, assertHttpUrl, parsed, isHttp, Bool.false_eq_true, if_false, Option.some.injEq]
      constructor
      · intro refused
        cases refused
      · rintro ⟨same, accepted⟩
        simp [apart same] at accepted

/-! ## Normal forms

A host comes out of the parser in the form that the check brings it to. -/

theorem trim_of_solid {text : JsString} (solid : ∀ unit ∈ text, isWhiteSpace unit = false) : trim text = text := by
  have start : text.dropWhile isWhiteSpace = text := by
    cases text with
    | nil => rfl
    | cons first rest => rw [List.dropWhile_cons_of_neg (by simp [solid first (by simp)])]
  rw [trim, start]
  cases isLast : text.getLast? with
  | none => rw [List.getLast?_eq_none_iff.mp isLast]; rfl
  | some last =>
    obtain ⟨early, rfl⟩ := List.getLast?_eq_some_iff.mp isLast
    exact List.rdropWhile_concat_neg _ _ _ (by simp [solid last (by simp)])

/-- A unit that is neither white space nor an upper-case letter, and is ASCII. -/
def isSettled (unit : CodeUnit) : Bool :=
  0x21 ≤ unit.toNat && unit.toNat < 0x7F && !(0x41 ≤ unit.toNat && unit.toNat ≤ 0x5A)

theorem normalized_of_settled {platform : WebPlatform} {text : JsString}
    (settled : ∀ unit ∈ text, isSettled unit = true) : platform.toLowerCase (trim text) = text := by
  have solid : ∀ unit ∈ text, isWhiteSpace unit = false := by
    intro unit member
    have bounds := settled unit member
    simp only [isSettled, Bool.and_eq_true, decide_eq_true_eq] at bounds
    simp only [isWhiteSpace, Bool.or_eq_false_iff, Bool.and_eq_false_iff, decide_eq_false_iff_not, beq_eq_false_iff_ne]
    omega
  have ascii : ∀ unit ∈ text, unit.toNat < 0x80 := by
    intro unit member
    have bounds := settled unit member
    simp only [isSettled, Bool.and_eq_true, decide_eq_true_eq] at bounds
    omega
  rw [trim_of_solid solid, platform.toLowerCase_ascii text ascii]
  conv_rhs => rw [← List.map_id text]
  apply List.map_congr_left
  intro unit member
  have bounds := settled unit member
  simp only [isSettled, Bool.and_eq_true, Bool.not_eq_true'] at bounds
  simp only [asciiLowerCase, bounds.2, Bool.false_eq_true, if_false, id_eq]

theorem settled_domain (domain : Domain) : ∀ unit ∈ domain.name, isSettled unit = true := by
  intro unit member
  have written := domain.written unit member
  simp only [isDomainUnit, Bool.and_eq_true] at written
  simp [isSettled, written.1]

theorem digit_or_dot {first second third fourth : UInt8} {unit : CodeUnit}
    (member : unit ∈ (UrlHost.ipv4 first second third fourth).hostname) : isDigit unit = true ∨ unit = dot := by
  simp only [UrlHost.hostname, List.intercalate, List.map_cons, List.map_nil, List.intersperse, List.flatten_cons,
    List.flatten_nil, List.mem_append, List.mem_singleton, List.append_nil] at member
  rcases member with member | member | member | member | member | member | member
  all_goals first | exact .inl (isDigit_decimalText member) | exact .inr member

theorem settled_ipv4 (first second third fourth : UInt8) :
    ∀ unit ∈ (UrlHost.ipv4 first second third fourth).hostname, isSettled unit = true := by
  intro unit member
  cases digit_or_dot member with
  | inl digit =>
    simp only [isDigit, Bool.and_eq_true, decide_eq_true_eq] at digit
    simp only [isSettled, Bool.and_eq_true, decide_eq_true_eq, Bool.not_eq_true', Bool.and_eq_false_iff,
      decide_eq_false_iff_not]
    omega
  | inr isDot =>
    subst isDot
    decide

theorem settled_ipv6 (address : Ipv6Address) : ∀ unit ∈ (UrlHost.ipv6 address).hostname, isSettled unit = true := by
  intro unit member
  simp only [UrlHost.hostname, List.mem_append] at member
  have plain : (utf16 "0123456789abcdef:" ++ utf16 "[]").all isSettled = true := by decide
  apply List.all_eq_true.mp plain
  rcases member with (member | member) | member
  · exact List.mem_append_right _ (by simp_all [utf16, utf16Character])
  · exact List.mem_append_left _ (address.written unit member)
  · exact List.mem_append_right _ (by simp_all [utf16, utf16Character])

/-! ## Local hosts -/

/-- A name that is looked up on this machine or on its network. -/
def isLocalName (name : JsString) : Bool :=
  name == utf16 "localhost" || (utf16 ".local").isSuffixOf name || (utf16 ".internal").isSuffixOf name

/-- A name without the dot that may end it: both are looked up alike. -/
def withoutFinalDot (name : JsString) : JsString := if name.getLast? = some dot then name.dropLast else name

/-- Loopback, link-local and private addresses. -/
def isPrivateOctets (first second : Nat) : Bool :=
  first == 10 || first == 127 || (first == 172 && 16 ≤ second && second ≤ 31) || (first == 192 && second == 168) ||
    (first == 169 && second == 254)

def isUnspecified (first second third fourth : UInt8) : Bool := first == 0 && second == 0 && third == 0 && fourth == 0

/-- Whether a host is of this machine or of its network. -/
def UrlHost.isLocal : UrlHost → Bool
  | .domain named => isLocalName (withoutFinalDot named.name)
  | .ipv4 first second third fourth =>
    isPrivateOctets first.toNat second.toNat || isUnspecified first second third fourth
  | .ipv6 _ => true
  | .other _ => false

/-- A local host that the check lets through: the unspecified address, and a local name with a final dot. -/
def UrlHost.escapes : UrlHost → Bool
  | .domain named => named.name.getLast? = some dot && isLocalName named.name.dropLast
  | .ipv4 first second third fourth => isUnspecified first second third fourth
  | _ => false

theorem isPrefixOf_eq_false {start text : JsString} {unit : CodeUnit} (inside : unit ∈ start) (outside : unit ∉ text) :
    start.isPrefixOf text = false := by
  rw [Bool.eq_false_iff]
  intro isStart
  exact outside ((List.isPrefixOf_iff_prefix.mp isStart).subset inside)

theorem isSuffixOf_eq_false {ending text : JsString} {unit : CodeUnit} (inside : unit ∈ ending) (outside : unit ∉ text) :
    ending.isSuffixOf text = false := by
  rw [Bool.eq_false_iff]
  intro isEnd
  exact outside ((List.isSuffixOf_iff_suffix.mp isEnd).subset inside)

theorem ne_of_unit {known text : JsString} {unit : CodeUnit} (inside : unit ∈ known) (outside : unit ∉ text) :
    (text == known) = false := by
  rw [beq_eq_false_iff_ne]
  rintro rfl
  exact outside inside

theorem isPrivateIpv4_eq_false {hostname label : JsString} (member : label ∈ hostname.splitOn dot)
    (notNumber : numberOfText label = none) : isPrivateIpv4 hostname = false := by
  have inside : none ∈ (hostname.splitOn dot).map numberOfText := List.mem_map.mpr ⟨label, member, notNumber⟩
  unfold isPrivateIpv4
  split
  next a b c d labels =>
    rw [labels] at inside
    simp at inside
  next => rfl

theorem isPrivateIpv4_hostname (first second third fourth : UInt8) :
    isPrivateIpv4 (UrlHost.ipv4 first second third fourth).hostname = isPrivateOctets first.toNat second.toNat := by
  have labels : ((UrlHost.ipv4 first second third fourth).hostname.splitOn dot).map numberOfText =
      [first, second, third, fourth].map fun octet => some (octet.toNat : ℚ) := by
    rw [UrlHost.hostname, List.splitOn_intercalate]
    · rw [List.map_map]
      apply List.map_congr_left
      intro octet _
      exact numberOfText_decimalText octet.toNat octet.toNat_lt
    · intro label member
      obtain ⟨octet, _, rfl⟩ := List.mem_map.mp member
      intro isDot
      exact absurd (isDigit_decimalText isDot) (by decide)
    · simp
  have isOctets : [first, second, third, fourth].all (fun octet => isOctet (octet.toNat : ℚ)) = true := by
    apply List.all_eq_true.mpr
    intro octet _
    have small := octet.toNat_lt
    have bound : ¬(255 : ℚ) < octet.toNat := by
      have : (octet.toNat : ℚ) ≤ 255 := by exact_mod_cast (by omega : octet.toNat ≤ 255)
      exact not_lt.mpr this
    simp [isOctet, bound]
  have shown : ([(first.toNat : ℚ), second.toNat, third.toNat, fourth.toNat].all isOctet) = true := by
    simpa using isOctets
  have literal : ∀ number known : Nat, ((number : ℚ) == (known : ℚ)) = (number == known) := by
    intro number known
    rw [Bool.eq_iff_iff, beq_iff_eq, beq_iff_eq, Nat.cast_inj]
  simp only [isPrivateIpv4, labels, List.map_cons, List.map_nil, shown, Bool.not_true, Bool.false_eq_true, if_false,
    isPrivateOctets]
  have tenth := literal first.toNat 10
  have loopback := literal first.toNat 127
  have middle := literal first.toNat 172
  have home := literal first.toNat 192
  have homeSecond := literal second.toNat 168
  have linkLocal := literal first.toNat 169
  have linkSecond := literal second.toNat 254
  have least : decide ((16 : ℚ) ≤ second.toNat) = decide (16 ≤ second.toNat) := by simp
  have most : decide ((second.toNat : ℚ) ≤ 31) = decide (second.toNat ≤ 31) := by simp
  simp only [Nat.cast_ofNat] at tenth loopback middle home homeSecond linkLocal linkSecond
  rw [tenth, loopback, middle, home, homeSecond, linkLocal, linkSecond, least, most]

section

variable {platform : WebPlatform}

theorem isBlockedHostname_of_settled {hostname : JsString} (settled : ∀ unit ∈ hostname, isSettled unit = true) :
    isBlockedHostname platform hostname =
      (hostname.isEmpty || hostname == utf16 "localhost" || (hostname == utf16 "::1" || (utf16 "[").isPrefixOf hostname) ||
        isPrivateIpv4 hostname || PRIVATE_HOST_SUFFIXES.any fun suffix => suffix.isSuffixOf hostname) := by
  rw [isBlockedHostname, normalized_of_settled settled]
  simp only [Bool.if_true_left, Bool.or_assoc, Bool.decide_eq_true]

theorem isBlockedHostname_domain (named : Domain) :
    isBlockedHostname platform named.name = (isPrivateIpv4 named.name || isLocalName named.name) := by
  have noEmpty : named.name.isEmpty = false := by simp [named.present]
  have noColon : (0x3A : CodeUnit) ∉ named.name := fun member => absurd (named.written _ member) (by decide)
  have noBracket : (0x5B : CodeUnit) ∉ named.name := fun member => absurd (named.written _ member) (by decide)
  rw [isBlockedHostname_of_settled (settled_domain named), noEmpty,
    @ne_of_unit (utf16 "::1") _ _ (by decide) noColon, isPrefixOf_eq_false (by decide) noBracket]
  simp only [PRIVATE_HOST_SUFFIXES, List.any_cons, List.any_nil, isLocalName, Bool.or_false, Bool.false_or]
  cases isPrivateIpv4 named.name <;> simp [Bool.or_assoc]

theorem isBlockedHostname_ipv4 (first second third fourth : UInt8) :
    isBlockedHostname platform (UrlHost.ipv4 first second third fourth).hostname =
      isPrivateOctets first.toNat second.toNat := by
  have outside : ∀ unit : CodeUnit, ¬(isDigit unit = true ∨ unit = dot) →
      unit ∉ (UrlHost.ipv4 first second third fourth).hostname :=
    fun _ other member => other (digit_or_dot member)
  have noLetter := outside 0x6C (by decide)
  have noColon := outside 0x3A (by decide)
  have noBracket := outside 0x5B (by decide)
  have noEmpty : (UrlHost.ipv4 first second third fourth).hostname.isEmpty = false := by
    simp [UrlHost.hostname, List.intercalate, List.intersperse]
  rw [isBlockedHostname_of_settled (settled_ipv4 first second third fourth), noEmpty,
    @ne_of_unit (utf16 "localhost") _ _ (by decide) noLetter, @ne_of_unit (utf16 "::1") _ _ (by decide) noColon,
    isPrefixOf_eq_false (by decide) noBracket, isPrivateIpv4_hostname]
  simp only [PRIVATE_HOST_SUFFIXES, List.any_cons, List.any_nil,
    @isSuffixOf_eq_false (utf16 ".local") _ _ (by decide) noLetter,
    @isSuffixOf_eq_false (utf16 ".internal") _ _ (by decide) noLetter, Bool.or_false, Bool.false_or]

theorem isBlockedHostname_ipv6 (address : Ipv6Address) :
    isBlockedHostname platform (UrlHost.ipv6 address).hostname = true := by
  have bracket : (utf16 "[").isPrefixOf (UrlHost.ipv6 address).hostname = true := by
    rw [UrlHost.hostname, List.append_assoc]
    exact List.isPrefixOf_iff_prefix.mpr (List.prefix_append _ _)
  rw [isBlockedHostname_of_settled (settled_ipv6 address), bracket]
  simp

theorem not_blocked_of_finalDot {named : Domain} (final : named.name.getLast? = some dot)
    (isLocal : isLocalName named.name.dropLast = true) : isBlockedHostname platform named.name = false := by
  obtain ⟨base, isName⟩ := List.getLast?_eq_some_iff.mp final
  rw [isName, List.dropLast_concat] at isLocal
  have notLocal : isLocalName (base ++ [dot]) = false := by
    have endsApart : ∀ ending : JsString, ending.getLast? ≠ some dot → ending ≠ [] →
        ending.isSuffixOf (base ++ [dot]) = false := by
      intro ending apart present
      rw [Bool.eq_false_iff]
      intro isEnd
      obtain ⟨start, joined⟩ := List.isSuffixOf_iff_suffix.mp isEnd
      have last := congrArg List.getLast? joined
      rw [List.getLast?_append_of_ne_nil _ present, List.getLast?_concat] at last
      exact apart last
    have notLocalhost : (base ++ [dot] == utf16 "localhost") = false := by
      rw [beq_eq_false_iff_ne]
      intro same
      have last := congrArg List.getLast? same
      rw [List.getLast?_concat] at last
      exact absurd last (by decide)
    rw [isLocalName, notLocalhost, endsApart _ (by decide) (by decide), endsApart _ (by decide) (by decide)]
    rfl
  have notNumber : isPrivateIpv4 (base ++ [dot]) = false := by
    have ofEnding : ∀ label early : JsString, base = early ++ dot :: label →
        label ∈ (label ++ [dot]).splitOn dot → numberOfText label = none → isPrivateIpv4 (base ++ [dot]) = false := by
      intro label early isBase member isNumber
      apply @isPrivateIpv4_eq_false _ label _ isNumber
      rw [isBase, List.append_assoc, List.cons_append, List.splitOn_append_cons_self]
      exact List.mem_append_right _ member
    simp only [isLocalName, Bool.or_eq_true, beq_iff_eq] at isLocal
    rcases isLocal with (isLocalhost | isUnder) | isUnder
    · rw [isLocalhost]
      exact @isPrivateIpv4_eq_false _ (utf16 "localhost") (by decide +kernel) (by decide +kernel)
    · obtain ⟨early, joined⟩ := List.isSuffixOf_iff_suffix.mp isUnder
      exact ofEnding (utf16 "local") early joined.symm (by decide +kernel) (by decide +kernel)
    · obtain ⟨early, joined⟩ := List.isSuffixOf_iff_suffix.mp isUnder
      exact ofEnding (utf16 "internal") early joined.symm (by decide +kernel) (by decide +kernel)
  rw [isBlockedHostname_domain, isName, notNumber, notLocal]
  rfl

/-- What the check lets through is public, the hosts that escape it apart. -/
theorem local_iff_escapes {url : WebUrl} (accepted : isAccepted platform url = true) :
    url.host.isLocal = true ↔ url.host.escapes = true := by
  simp only [isAccepted, Bool.and_eq_true, Bool.not_eq_true'] at accepted
  obtain ⟨isHttp, notBlocked⟩ := accepted
  cases isHost : url.host with
  | domain named =>
    rw [isHost, UrlHost.hostname, isBlockedHostname_domain, Bool.or_eq_false_iff] at notBlocked
    by_cases final : named.name.getLast? = some dot
    · simp [UrlHost.isLocal, UrlHost.escapes, withoutFinalDot, final]
    · simp [UrlHost.isLocal, UrlHost.escapes, withoutFinalDot, final, notBlocked.2]
  | ipv4 first second third fourth =>
    rw [isHost, isBlockedHostname_ipv4] at notBlocked
    simp [UrlHost.isLocal, UrlHost.escapes, notBlocked]
  | ipv6 address =>
    rw [isHost, isBlockedHostname_ipv6] at notBlocked
    cases notBlocked
  | other text => exact absurd isHost (url.network isHttp text)

/-- A host that escapes is let through. -/
theorem accepted_of_escapes {url : WebUrl} (isHttp : isHttpProtocol url.protocol = true)
    (escapes : url.host.escapes = true) : isAccepted platform url = true := by
  have notBlocked : isBlockedHostname platform url.host.hostname = false := by
    cases isHost : url.host with
    | domain named =>
      simp only [isHost, UrlHost.escapes, Bool.and_eq_true, decide_eq_true_eq] at escapes
      exact not_blocked_of_finalDot escapes.1 escapes.2
    | ipv4 first second third fourth =>
      simp only [isHost, UrlHost.escapes, isUnspecified, Bool.and_eq_true, beq_iff_eq] at escapes
      obtain ⟨⟨⟨isFirst, isSecond⟩, _⟩, _⟩ := escapes
      rw [isBlockedHostname_ipv4, isFirst, isSecond]
      decide
    | ipv6 address => simp [isHost, UrlHost.escapes] at escapes
    | other text => simp [isHost, UrlHost.escapes] at escapes
  simp [isAccepted, isHttp, notBlocked]

end

end SiftKit.WebSearch
