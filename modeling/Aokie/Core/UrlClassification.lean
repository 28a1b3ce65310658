import Aokie.Lib.IpText

/-! Where a base URL points: this machine, the local network, a metadata service, or the public internet. -/

namespace Aokie.Core

open Aokie.Lib

inductive Host where
  | domain (name : List Char)
  | ipv4 (ip : Ipv4Addr)
  | ipv6 (ip : Ipv6Addr)
  deriving DecidableEq

def http : List Char := ['h', 't', 't', 'p']

def https : List Char := ['h', 't', 't', 'p', 's']

/-- What the `url` crate reports of a parsed URL. The fields below the port are what it documents of hosts. -/
structure Url where
  scheme : List Char
  username : List Char
  password : Option (List Char)
  host : Option Host
  hostStr : Option (List Char)
  portOrKnownDefault : Option UInt16
  hostStr_ipv4 : ∀ ip, host = some (.ipv4 ip) → hostStr = some ip.toText
  hostStr_ipv6 : ∀ ip, host = some (.ipv6 ip) → ∃ text, hostStr = some ('[' :: (text ++ [']']))
  domain_http : scheme = http ∨ scheme = https → ∀ name, host = some (.domain name) →
    parseIpv4Addr name = none ∧ parseIpv6Addr name = none ∧ '[' ∉ name

/-- `Url::domain`. -/
def Url.domain (url : Url) : Option (List Char) :=
  match url.host with
  | some (.domain name) => some name
  | _ => none

def splitOnce (pattern : List Char) : List Char → Option (List Char × List Char)
  | [] => none
  | c :: text =>
    if pattern.isPrefixOf (c :: text) then some ([], (c :: text).drop pattern.length)
    else (splitOnce pattern text).map fun parts => (c :: parts.1, parts.2)

def rsplitOnce (separator : Char) (text : List Char) : Option (List Char × List Char) :=
  if separator ∈ text then
    some ((text.rdropWhile (· ≠ separator)).dropLast, text.rtakeWhile (· ≠ separator))
  else none

structure ParsedBaseUrl where
  url : Url
  canonicalOrigin : List Char

def rawHost (raw : List Char) : List Char :=
  let rest := match splitOnce [':', '/', '/'] raw with
    | some (_, rest) => rest
    | none => raw
  let authority := rest.takeWhile fun c => c ≠ '/' ∧ c ≠ '?' ∧ c ≠ '#'
  match rsplitOnce ':' authority with
  | some (candidate, port) => if port.all Char.isDigit then candidate else authority
  | none => authority

def noncanonicalIpv4 (raw : List Char) : Host → Bool
  | .ipv4 ip => rawHost raw != ip.toText
  | _ => false

def hostToken : Host → List Char
  | .domain name => name.map Char.toLower
  | .ipv4 ip => ip.toText
  | .ipv6 ip => '[' :: (ip.toText ++ [']'])

def portText (port : UInt16) : List Char := Nat.toDigits 10 port.toNat

def canonicalOrigin (scheme : List Char) (host : Host) (port : UInt16) : List Char :=
  scheme ++ ([':', '/', '/'] ++ (hostToken host ++ ':' :: portText port))

inductive BaseUrlClassification where
  | empty
  | loopback
  | metadata
  | linkLocal
  | privateNet
  | publicNet
  | invalid
  deriving DecidableEq

/-! The one verdict on a globally routable unicast address. -/

def ipv4IsGlobalUnicast (v4 : Ipv4Addr) : Bool :=
  !(v4.isLoopback || v4.isPrivate || v4.isLinkLocal || v4.isMulticast || v4.isBroadcast || v4.isUnspecified ||
    v4.isDocumentation || v4.a == 0 || (v4.a == 100 && v4.b &&& 0xc0 == 64) ||
      (v4.a == 192 && v4.b == 0 && v4.c == 0) ||
    (v4.a == 198 && v4.b &&& 0xfe == 18) || 240 ≤ v4.a)

def embeddedIpv4 (v6 : Ipv6Addr) : Option Ipv4Addr :=
  match v6.toIpv4Mapped with
  | some mapped => some mapped
  | none =>
    if v6.segments.take 6 = [0x0064, 0xff9b, 0, 0, 0, 0] then some (Ipv6Addr.ipv4OfGroups v6.s6 v6.s7)
    else if v6.s0 = 0x2002 then some (Ipv6Addr.ipv4OfGroups v6.s1 v6.s2)
    else none

def ipv6IsGlobalUnicast (v6 : Ipv6Addr) : Bool :=
  match embeddedIpv4 v6 with
  | some embedded => ipv4IsGlobalUnicast embedded
  | none =>
    if v6.s0 = 0x0064 ∧ v6.s1 = 0xff9b ∧ v6.s2 = 0x0001 then false
    else if v6.s0 = 0x2001 ∧ (v6.s1 = 0x0000 ∨ v6.s1 = 0x0db8 ∨ (v6.s1 = 0x0002 ∧ v6.s2 = 0) ∨
      (0x0010 ≤ v6.s1 ∧ v6.s1 ≤ 0x002f)) then
      false
    else if v6.s0 = 0x3fff ∧ v6.s1 &&& 0xf000 = 0 then false
    else if v6.s0 = 0x0100 ∧ v6.s1 = 0 ∧ v6.s2 = 0 ∧ v6.s3 = 0 then false
    else if v6.segments.take 6 = [0, 0, 0, 0, 0, 0] ∧ !v6.isLoopback ∧ !v6.isUnspecified then false
    else !(v6.isLoopback || v6.isUnspecified || v6.isMulticast || v6.s0 &&& 0xfe00 == 0xfc00 ||
      v6.s0 &&& 0xffc0 == 0xfe80)

def ipIsGlobalUnicast : IpAddr → Bool
  | .v4 v4 => ipv4IsGlobalUnicast v4
  | .v6 v6 => ipv6IsGlobalUnicast v6

/-! The classification. -/

def classifyIpv4Octets (v4 : Ipv4Addr) : BaseUrlClassification :=
  if v4.a = 127 then .loopback
  else if v4.a = 0 ∧ v4.b = 0 ∧ v4.c = 0 ∧ v4.d = 0 then .loopback
  else if v4.a = 169 ∧ v4.b = 254 then if v4.c = 169 ∧ v4.d = 254 then .metadata else .linkLocal
  else if v4.a = 10 then .privateNet
  else if v4.a = 192 ∧ v4.b = 168 then .privateNet
  else if v4.a = 172 ∧ 16 ≤ v4.b ∧ v4.b ≤ 31 then .privateNet
  else if !ipv4IsGlobalUnicast v4 then .privateNet
  else .publicNet

/-- The IPv6 branch of `classify_host`. -/
def classifyIpv6 (addr : Ipv6Addr) : BaseUrlClassification :=
  if addr.isLoopback then .loopback
  else
    match embeddedIpv4 addr with
    | some embedded => classifyIpv4Octets embedded
    | none =>
      let firstByte := (addr.s0 >>> 8).toUInt8
      let secondByte := (addr.s0 &&& 0x00ff).toUInt8
      if firstByte = 0xfe ∧ secondByte &&& 0xc0 = 0x80 then .linkLocal
      else if firstByte &&& 0xfe = 0xfc then .privateNet
      else if !ipv6IsGlobalUnicast addr then .privateNet
      else .publicNet

/-- `parse_ipv4`: four decimal numbers, none with a leading zero. -/
def parseIpv4 (s : List Char) : Option Ipv4Addr :=
  let parts := s.splitOn '.'
  if parts.length ≠ 4 then none
  else if parts.any fun p => p.isEmpty || 3 < p.length || !p.all Char.isDigit ||
    (1 < p.length && p.head? == some '0') then none
  else parseIpv4Addr s

def localhost : List Char := ['l', 'o', 'c', 'a', 'l', 'h', 'o', 's', 't']

def metadataHost : List Char := "metadata.google.internal".toList

def classifyHost (host : List Char) : BaseUrlClassification :=
  if host = localhost then .loopback
  else if host = metadataHost then .metadata
  else
    match parseIpv4 host with
    | some octets => classifyIpv4Octets octets
    | none =>
      match parseIpv6Addr host with
      | some addr => classifyIpv6 addr
      | none => .publicNet

section Endpoint

-- `Url::parse`.
variable (parse : List Char → Except String Url)

/-- The checks of `parse_base_url` on a URL that parsed. -/
def checkBaseUrl (raw : List Char) (url : Url) : Except String ParsedBaseUrl :=
  if url.scheme ≠ http ∧ url.scheme ≠ https then .error "endpoint scheme must be http or https"
  else if url.username ≠ [] ∨ url.password ≠ none then .error "endpoint URL must not contain a username or password"
  else
    match url.host with
    | none => .error "endpoint URL has no host"
    | some host =>
      if noncanonicalIpv4 raw host then .error "endpoint uses a non-canonical IPv4 literal"
      else
        match url.portOrKnownDefault with
        | none => .error "endpoint URL has no valid port"
        | some port => .ok ⟨url, canonicalOrigin url.scheme host port⟩

def parseBaseUrl (raw : List Char) : Except String ParsedBaseUrl :=
  if trim raw = [] then .error "endpoint is empty"
  else
    match parse (trim raw) with
    | .error e => .error ("invalid endpoint URL: " ++ e)
    | .ok url => checkBaseUrl (trim raw) url

def classifyBaseUrl (raw : List Char) : BaseUrlClassification :=
  if trim raw = [] then .empty
  else
    match parseBaseUrl parse (trim raw) with
    | .error _ => .invalid
    | .ok parsed =>
      match parsed.url.host with
      | some (.domain host) => classifyHost host
      | some (.ipv4 ip) => classifyHost ip.toText
      | some (.ipv6 ip) => classifyHost ip.toText
      | none => .invalid

end Endpoint

/-! What the classes mean of an address. -/

lemma classifyIpv4Octets_eq_loopback {v4 : Ipv4Addr} :
    classifyIpv4Octets v4 = .loopback ↔ v4.isLoopback = true ∨ v4.isUnspecified = true := by
  simp only [classifyIpv4Octets, Ipv4Addr.isLoopback, Ipv4Addr.isUnspecified, Ipv4Addr.octets, beq_iff_eq,
    List.cons.injEq, and_true]
  split_ifs <;> simp_all

lemma classifyIpv4Octets_eq_publicNet {v4 : Ipv4Addr} : classifyIpv4Octets v4 = .publicNet ↔
    ipv4IsGlobalUnicast v4 = true := by
  have hloopback : v4.a = 127 → ipv4IsGlobalUnicast v4 = false := by
    intro h
    simp [ipv4IsGlobalUnicast, Ipv4Addr.isLoopback, h]
  have hzero : v4.a = 0 → ipv4IsGlobalUnicast v4 = false := by
    intro h
    simp [ipv4IsGlobalUnicast, h]
  have hlink : v4.a = 169 ∧ v4.b = 254 → ipv4IsGlobalUnicast v4 = false := by
    intro h
    simp [ipv4IsGlobalUnicast, Ipv4Addr.isLinkLocal, h]
  have hten : v4.a = 10 → ipv4IsGlobalUnicast v4 = false := by
    intro h
    simp [ipv4IsGlobalUnicast, Ipv4Addr.isPrivate, h]
  have hhome : v4.a = 192 ∧ v4.b = 168 → ipv4IsGlobalUnicast v4 = false := by
    intro h
    simp [ipv4IsGlobalUnicast, Ipv4Addr.isPrivate, h]
  have hoffice : v4.a = 172 ∧ 16 ≤ v4.b ∧ v4.b ≤ 31 → ipv4IsGlobalUnicast v4 = false := by
    intro h
    simp [ipv4IsGlobalUnicast, Ipv4Addr.isPrivate, h]
  rw [classifyIpv4Octets]
  split_ifs <;> simp_all

lemma and_eq_of_bytes (s mask : UInt16) :
    s &&& mask = (s.toUInt8.toUInt16 &&& mask) ||| (((s >>> 8).toUInt8.toUInt16 <<< 8) &&& mask) := by
  have hsplit := congrArg (· &&& mask) (fromLeBytes_toLeBytes s).symm
  simp only [fromLeBytes] at hsplit
  rw [hsplit]
  apply UInt16.toBitVec_inj.mp
  simp only [UInt16.toBitVec_and, UInt16.toBitVec_or]
  exact BitVec.and_or_distrib_right

lemma linkLocal_mask {s : UInt16} (h : (s >>> 8).toUInt8 = 0xfe ∧ (s &&& 0x00ff).toUInt8 &&& 0xc0 = 0x80) :
    s &&& 0xffc0 = 0xfe80 := by
  have hlow : ∀ low : UInt8, low &&& 0xff &&& 0xc0 = 0x80 → low.toUInt16 &&& 0xffc0 = 0x80 := by
    apply byte_forall
    decide
  rw [UInt16.toUInt8_and] at h
  rw [and_eq_of_bytes, h.1, hlow _ h.2]
  decide

lemma uniqueLocal_mask {s : UInt16} (h : (s >>> 8).toUInt8 &&& 0xfe = 0xfc) : s &&& 0xfe00 = 0xfc00 := by
  have hlow : ∀ low : UInt8, low.toUInt16 &&& 0xfe00 = 0 := by
    apply byte_forall
    decide
  have hhigh : ∀ high : UInt8, high &&& 0xfe = 0xfc → (high.toUInt16 <<< 8) &&& 0xfe00 = 0xfc00 := by
    apply byte_forall
    decide
  rw [and_eq_of_bytes, hlow, hhigh _ h]
  decide

lemma eq_of_isLoopback {v6 : Ipv6Addr} (h : v6.isLoopback = true) : v6 = ⟨0, 0, 0, 0, 0, 0, 0, 1⟩ := by
  obtain ⟨s0, s1, s2, s3, s4, s5, s6, s7⟩ := v6
  simpa [Ipv6Addr.isLoopback, Ipv6Addr.segments] using h

lemma classifyIpv6_eq_publicNet {v6 : Ipv6Addr} : classifyIpv6 v6 = .publicNet ↔ ipv6IsGlobalUnicast v6 = true := by
  by_cases hloopback : v6.isLoopback = true
  · obtain rfl := eq_of_isLoopback hloopback
    decide
  · rw [classifyIpv6, if_neg hloopback]
    cases hembedded : embeddedIpv4 v6 with
    | some embedded =>
      simp only [ipv6IsGlobalUnicast, hembedded]
      exact classifyIpv4Octets_eq_publicNet
    | none =>
      have hlink : (v6.s0 >>> 8).toUInt8 = 0xfe ∧ (v6.s0 &&& 0x00ff).toUInt8 &&& 0xc0 = 0x80 →
          ipv6IsGlobalUnicast v6 = false := by
        intro h
        simp [ipv6IsGlobalUnicast, hembedded, linkLocal_mask h]
      have hlocal : (v6.s0 >>> 8).toUInt8 &&& 0xfe = 0xfc → ipv6IsGlobalUnicast v6 = false := by
        intro h
        simp [ipv6IsGlobalUnicast, hembedded, uniqueLocal_mask h]
      simp only
      split_ifs <;> simp_all

lemma classifyIpv6_eq_loopback {v6 : Ipv6Addr} :
    classifyIpv6 v6 = .loopback ↔
      v6.isLoopback = true ∨ ∃ v4, embeddedIpv4 v6 = some v4 ∧ (v4.isLoopback = true ∨ v4.isUnspecified = true) := by
  by_cases hloopback : v6.isLoopback = true
  · simp [classifyIpv6, hloopback]
  · rw [classifyIpv6, if_neg hloopback]
    cases hembedded : embeddedIpv4 v6 with
    | some embedded => simp [hloopback, classifyIpv4Octets_eq_loopback]
    | none =>
      simp only
      split_ifs <;> simp [hloopback]

/-! The texts of hosts. -/

lemma splitOn_toText (ip : Ipv4Addr) : ip.toText.splitOn '.' = ip.octets.map octetText := by
  apply List.splitOn_intercalate
  · intro part hpart hdot
    obtain ⟨octet, -, rfl⟩ := List.mem_map.mp hpart
    exact absurd (isDigit_octetText hdot) (by decide)
  · simp [Ipv4Addr.octets]

lemma parseIpv4_toText (ip : Ipv4Addr) : parseIpv4 ip.toText = some ip := by
  have hlength : (ip.octets.map octetText).length = 4 := rfl
  have hparts : ((ip.octets.map octetText).any fun p =>
      p.isEmpty || 3 < p.length || !p.all Char.isDigit || (1 < p.length && p.head? == some '0')) = false := by
    apply List.any_eq_false.mpr
    intro part hpart
    obtain ⟨octet, -, rfl⟩ := List.mem_map.mp hpart
    obtain ⟨hlen, hzero⟩ := octetText_bounds octet
    have hdigits : (octetText octet).all Char.isDigit = true := List.all_eq_true.mpr fun c hc => isDigit_octetText hc
    have hne : (octetText octet).isEmpty = false := by simpa using octetText_ne_nil octet
    simp only [Bool.not_false, Bool.true_and] at hzero
    simp only [hne, hdigits, Nat.not_lt.mpr hlen, Bool.and_comm (decide (1 < _)), hzero]
    decide
  simp [parseIpv4, splitOn_toText, hlength, hparts, parseIpv4Addr_toText]

lemma mem_intercalate {c separator : Char} (hne : c ≠ separator) (parts : List (List Char)) :
    c ∈ [separator].intercalate parts → ∃ part ∈ parts, c ∈ part := by
  induction parts with
  | nil => simp
  | cons part parts ih =>
    intro h
    cases parts with
    | nil => exact ⟨part, List.mem_cons_self, by simpa using h⟩
    | cons next rest =>
      rw [List.intercalate_cons_cons, List.mem_append, List.mem_append, List.mem_singleton] at h
      obtain (h | h) | h := h
      · exact ⟨part, List.mem_cons_self, h⟩
      · exact absurd h hne
      · obtain ⟨later, hlater, hc⟩ := ih h
        exact ⟨later, List.mem_cons_of_mem _ hlater, hc⟩

lemma parseIpv4_of_colon {s : List Char} (h : ':' ∈ s) : parseIpv4 s = none := by
  have hmem : ':' ∈ ['.'].intercalate (s.splitOn '.') := by
    rw [List.intercalate_splitOn]
    exact h
  obtain ⟨part, hpart, hcolon⟩ := mem_intercalate (by decide) _ hmem
  have hall : part.all Char.isDigit = false := by
    apply List.all_eq_false.mpr
    exact ⟨':', hcolon, by decide⟩
  have hbad : ((s.splitOn '.').any fun p =>
      p.isEmpty || 3 < p.length || !p.all Char.isDigit || (1 < p.length && p.head? == some '0')) = true := by
    apply List.any_eq_true.mpr
    exact ⟨part, hpart, by simp [hall]⟩
  simp only [parseIpv4, hbad]
  simp

lemma classifyHost_ipv4 (ip : Ipv4Addr) : classifyHost ip.toText = classifyIpv4Octets ip := by
  have hparse := parseIpv4_toText ip
  have hlocal : ip.toText ≠ localhost := by
    intro h
    have hnone : parseIpv4 localhost = none := by decide
    simp [← h, hparse] at hnone
  have hmetadata : ip.toText ≠ metadataHost := by
    intro h
    have hnone : parseIpv4 metadataHost = none := by decide
    simp [← h, hparse] at hnone
  simp [classifyHost, hlocal, hmetadata, hparse]

lemma classifyHost_ipv6 (ip : Ipv6Addr) : classifyHost ip.toText = classifyIpv6 ip := by
  have hcolon := colon_mem_toText ip
  have hlocal : ip.toText ≠ localhost := by
    intro h
    rw [h] at hcolon
    exact absurd hcolon (by decide)
  have hmetadata : ip.toText ≠ metadataHost := by
    intro h
    rw [h] at hcolon
    exact absurd hcolon (by decide)
  simp [classifyHost, hlocal, hmetadata, parseIpv4_of_colon hcolon, parseIpv6Addr_toText]

lemma classifyHost_domain {name : List Char} (hipv4 : parseIpv4Addr name = none) (hipv6 : parseIpv6Addr name = none) :
    classifyHost name = .loopback ↔ name = localhost := by
  have hparse : parseIpv4 name = none := by
    simp only [parseIpv4, hipv4]
    split_ifs <;> rfl
  simp only [classifyHost, hparse, hipv6]
  split_ifs <;> simp_all

/-! The text of an endpoint. -/

lemma dropWhile_rdropWhile_dropWhile {p : Char → Bool} (text : List Char) :
    ((text.dropWhile p).rdropWhile p).dropWhile p = (text.dropWhile p).rdropWhile p := by
  cases hstart : text.dropWhile p with
  | nil => rfl
  | cons c rest =>
    have hc : p c = false := by
      have hhead := List.head_dropWhile_not p (l := text) (by simp [hstart])
      simpa [hstart] using hhead
    obtain ⟨back, hback⟩ := List.rdropWhile_prefix p (l := c :: rest)
    cases hkept : (c :: rest).rdropWhile p with
    | nil => rfl
    | cons d kept =>
      rw [hkept, List.cons_append] at hback
      obtain ⟨rfl, -⟩ := List.cons.inj hback
      exact List.dropWhile_cons_of_neg (by simp [hc])

@[simp] lemma trim_trim (text : List Char) : trim (trim text) = trim text := by
  rw [trim, trim, dropWhile_rdropWhile_dropWhile, List.rdropWhile_idempotent]

section Endpoint

variable {parse : List Char → Except String Url} {raw : List Char} {parsed : ParsedBaseUrl}

lemma parseBaseUrl_trim : parseBaseUrl parse (trim raw) = parseBaseUrl parse raw := by
  simp [parseBaseUrl]

lemma parseBaseUrl_ok (h : parseBaseUrl parse raw = .ok parsed) :
    trim raw ≠ [] ∧ parse (trim raw) = .ok parsed.url ∧ (parsed.url.scheme = http ∨ parsed.url.scheme = https) ∧
      ∃ host port, parsed.url.host = some host ∧ parsed.canonicalOrigin =
        canonicalOrigin parsed.url.scheme host port := by
  simp only [parseBaseUrl] at h
  split_ifs at h with hempty
  split at h
  · simp at h
  · rename_i url hparse
    simp only [checkBaseUrl] at h
    split_ifs at h with hscheme huser
    split at h
    · simp at h
    · rename_i host hhost
      split_ifs at h
      · split at h
        · simp at h
        · rename_i port hport
          obtain rfl := Except.ok.inj h
          exact ⟨hempty, hparse, by tauto, host, port, hhost, rfl⟩

def Host.ip : Host → Option IpAddr
  | .domain _ => none
  | .ipv4 ip => some (.v4 ip)
  | .ipv6 ip => some (.v6 ip)

def classifyIp : IpAddr → BaseUrlClassification
  | .v4 ip => classifyIpv4Octets ip
  | .v6 ip => classifyIpv6 ip

lemma classifyBaseUrl_of_error {e : String} (h : parseBaseUrl parse raw = .error e) :
    classifyBaseUrl parse raw = .empty ∨ classifyBaseUrl parse raw = .invalid := by
  simp only [classifyBaseUrl, parseBaseUrl_trim, h]
  split_ifs <;> simp

lemma classifyBaseUrl_of_ip (h : parseBaseUrl parse raw = .ok parsed) {ip : IpAddr}
    (hip : parsed.url.host.bind Host.ip = some ip) :
    classifyBaseUrl parse raw = classifyIp ip := by
  obtain ⟨hne, -, -, host, port, hhost, -⟩ := parseBaseUrl_ok h
  rw [hhost] at hip
  simp only [classifyBaseUrl, if_neg hne, parseBaseUrl_trim, h, hhost]
  cases host with
  | domain name => simp [Host.ip] at hip
  | ipv4 ip =>
    obtain rfl := Option.some.inj hip
    exact classifyHost_ipv4 ip
  | ipv6 ip =>
    obtain rfl := Option.some.inj hip
    exact classifyHost_ipv6 ip

lemma classifyBaseUrl_of_domain (h : parseBaseUrl parse raw = .ok parsed) {name : List Char}
    (hname : parsed.url.host = some (.domain name)) :
    classifyBaseUrl parse raw = .loopback ↔ name = localhost := by
  obtain ⟨hne, -, hscheme, -⟩ := parseBaseUrl_ok h
  obtain ⟨hipv4, hipv6, -⟩ := parsed.url.domain_http hscheme name hname
  simp only [classifyBaseUrl, if_neg hne, parseBaseUrl_trim, h, hname]
  exact classifyHost_domain hipv4 hipv6

end Endpoint

/-! An origin names its host. -/

lemma colon_notMem_scheme {scheme : List Char} (h : scheme = http ∨ scheme = https) : ':' ∉ scheme := by
  rcases h with rfl | rfl <;> decide

lemma colon_notMem_portText (port : UInt16) : ':' ∉ portText port := by
  intro h
  have hdigit := Nat.isDigit_of_mem_toDigits (by decide) le_rfl h
  exact absurd hdigit (by decide)

lemma append_cons_inj {c : Char} {front front' back back' : List Char} (hfront : c ∉ front) (hfront' : c ∉ front')
    (h : front ++ c :: back = front' ++ c :: back') : front = front' ∧ back = back' := by
  have htake : ∀ {l : List Char} (more : List Char), c ∉ l → (l ++ c :: more).takeWhile (· ≠ c) = l := by
    intro l more hl
    rw [List.takeWhile_append_of_pos]
    · simp
    · intro d hd
      simpa using ne_of_mem_of_not_mem hd hl
  have heq : front = front' := by
    rw [← htake back hfront, h, htake back' hfront']
  subst heq
  exact ⟨rfl, (List.cons.inj (List.append_cancel_left h)).2⟩

lemma hostToken_eq {scheme other : List Char} {host host' : Host} {port port' : UInt16}
    (hscheme : scheme = http ∨ scheme = https)
    (hother : other = http ∨ other = https) (h : canonicalOrigin scheme host port = canonicalOrigin other host' port') :
    hostToken host = hostToken host' := by
  obtain ⟨-, hrest⟩ := append_cons_inj (colon_notMem_scheme hscheme) (colon_notMem_scheme hother) h
  have htail : hostToken host ++ ':' :: portText port = hostToken host' ++ ':' :: portText port' := by
    simpa using hrest
  have hreverse := congrArg List.reverse htail
  simp only [List.reverse_append, List.reverse_cons, List.append_assoc, List.singleton_append] at hreverse
  have hport : ∀ port, ':' ∉ (portText port).reverse := by
    intro port
    rw [List.mem_reverse]
    exact colon_notMem_portText port
  exact List.reverse_injective (append_cons_inj (hport port) (hport port') hreverse).2

lemma toLower_eq_self {c : Char} (h : c.toLower.isLower = false) : c.toLower = c := by
  unfold Char.toLower at h ⊢
  split_ifs at h ⊢ with hupper
  · obtain ⟨hlow, hhigh⟩ := hupper
    simp only [ge_iff_le, UInt32.le_iff_toNat_le] at hlow hhigh
    simp [Char.isLower, UInt32.le_iff_toNat_le, UInt32.toNat_add] at h hlow hhigh
    omega
  · rfl

lemma isLower_of_isDigit {c : Char} (h : c.isDigit = true) : c.isLower = false := by
  simp only [Char.isDigit, Char.isLower, ge_iff_le, Bool.and_eq_true, decide_eq_true_eq, Bool.and_eq_false_iff,
    decide_eq_false_iff_not, UInt32.le_iff_toNat_le] at h ⊢
  simp at h ⊢
  omega

lemma map_toLower_eq {name text : List Char} (htext : ∀ c ∈ text, c.isLower = false)
    (h : name.map Char.toLower = text) : name = text := by
  subst h
  apply List.ext_getElem (by simp)
  intro i hi hi'
  rw [List.getElem_map]
  exact (toLower_eq_self (htext _ (List.mem_map_of_mem (List.getElem_mem hi)))).symm

lemma host_eq_of_hostToken {url : Url} (hscheme : url.scheme = http ∨ url.scheme = https) {host literal : Host}
    (hhost : url.host = some host) (hliteral : literal.ip ≠ none) (h : hostToken host = hostToken literal) :
      host = literal := by
  have hdigits : ∀ {c : Char} (ip : Ipv4Addr), c ∈ ip.toText → c ≠ '[' := by
    rintro c ip hc rfl
    exact absurd (mem_toText hc) (by decide)
  cases host with
  | domain name =>
    obtain ⟨hipv4, -, hbracket⟩ := url.domain_http hscheme name hhost
    cases literal with
    | domain other => exact absurd rfl hliteral
    | ipv4 ip =>
      have hname : name = ip.toText := by
        apply map_toLower_eq _ h
        intro c hc
        obtain hdigit | rfl := mem_toText hc
        · exact isLower_of_isDigit hdigit
        · decide
      rw [hname, parseIpv4Addr_toText] at hipv4
      simp at hipv4
    | ipv6 ip =>
      simp only [hostToken] at h
      cases name with
      | nil => simp at h
      | cons c name =>
        have hc : c.toLower = '[' := (List.cons.inj h).1
        have hself := toLower_eq_self (c := c) (by rw [hc]; decide)
        have hhead : c = '[' := hself.symm.trans hc
        exact absurd List.mem_cons_self (hhead ▸ hbracket)
  | ipv4 ip =>
    cases literal with
    | domain name => exact absurd rfl hliteral
    | ipv4 other => rw [Ipv4Addr.toText_injective h]
    | ipv6 other =>
      simp only [hostToken] at h
      exact absurd rfl (hdigits (c := '[') ip (by rw [h]; simp))
  | ipv6 ip =>
    cases literal with
    | domain name => exact absurd rfl hliteral
    | ipv4 other =>
      simp only [hostToken] at h
      exact absurd rfl (hdigits (c := '[') other (by rw [← h]; simp))
    | ipv6 other =>
      simp only [hostToken, List.cons.injEq, List.append_cancel_right_eq, true_and] at h
      rw [Ipv6Addr.toText_injective h]

end Aokie.Core
