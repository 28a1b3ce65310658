import Aokie.Lib.Keyed
import Aokie.Core.UrlClassification

/-! The client for an operator's endpoint, and the agreement of its gate with the one of the settings. -/

namespace Aokie.Plugin.EndpointHttp

open Aokie.Lib Aokie.Core

structure CacheKey where
  origin : List Char
  timeoutMillis : ℕ
  connectMillis : ℕ
  deriving DecidableEq

structure CachedClient (Client : Type) where
  client : Client
  resolvedAt : Instant

abbrev Cache (Client : Type) := Keyed CacheKey (CachedClient Client)

def clientTtl : Duration := 300 * 1000000000

/-- What `reqwest` is told of a client. Redirects are off in each. -/
structure ClientBuilder where
  timeout : Duration
  connectTimeout : Option Duration
  resolve : Option (List Char × IpAddr)

/-- What a call meets outside: the clock, the resolver and the TLS backend. -/
structure World (Client : Type) where
  now : Instant
  toSocketAddrs : List Char → UInt16 → Except String (List IpAddr)
  build : ClientBuilder → Except String Client

/-- `Duration::as_millis`, cut to 64 bits. -/
def asMillis (d : Duration) : ℕ := d / 1000000 % 2 ^ 64

def ipText : IpAddr → String
  | .v4 ip => String.ofList ip.toText
  | .v6 ip => String.ofList ip.toText

/-- `IpAddr::is_loopback`. -/
def isLoopback : IpAddr → Bool
  | .v4 ip => ip.isLoopback
  | .v6 ip => ip.isLoopback

def ipIsPublicUnicast (ip : IpAddr) : Bool := ipIsGlobalUnicast ip

section Calls

variable {Client : Type} (w : World Client)

def checkLiteral (url : Url) : Except String Unit :=
  match url.hostStr with
  | none => .error "endpoint URL has no host"
  | some host =>
    match parseIpAddr host with
    | some ip =>
      if !isLoopback ip && !ipIsPublicUnicast ip then
        .error ("endpoint IP " ++ ipText ip ++ " is private, link-local, metadata, or otherwise non-public")
      else .ok ()
    | none => .ok ()

/-- A hostname is resolved, each address checked, and the first one pinned. -/
def pinDomain (url : Url) (builder : ClientBuilder) : Except String ClientBuilder :=
  match url.domain.filter fun host => host.map Char.toLower ≠ localhost with
  | none => .ok builder
  | some host =>
    match w.toSocketAddrs host (url.portOrKnownDefault.getD 443) with
    | .error e => .error ("endpoint host '" ++ String.ofList host ++ "' did not resolve: " ++ e)
    | .ok addrs =>
      match addrs.head?, addrs.find? fun ip => !ipIsPublicUnicast ip with
      | none, _ => .error ("endpoint host '" ++ String.ofList host ++ "' resolved to no addresses")
      | some _, some bad =>
        .error ("endpoint host '" ++ String.ofList host ++ "' resolves to non-public address " ++ ipText bad ++
          " — refusing to send caller data (possible DNS rebinding / SSRF)")
      | some first, none => .ok { builder with resolve := some (host, first) }

def isFresh (cached : CachedClient Client) : Bool := saturatingDurationSince w.now cached.resolvedAt < clientTtl

def remember (cache : Cache Client) (key : CacheKey) (client : Client) : Cache Client :=
  let kept :=
    if 32 < cache.size then
      let live := cache.retain fun _ cached => isFresh w cached
      if 32 < live.size then Keyed.empty else live
    else cache
  kept.insert key ⟨client, w.now⟩

def buildClient (url : Url) (builder : ClientBuilder) : Except String Client := do
  checkLiteral url
  let builder ← pinDomain w url builder
  match w.build builder with
  | .error e => .error ("could not build HTTP client: " ++ e)
  | .ok client => .ok client

def clientFor (parse : List Char → Except String Url) (cache : Cache Client) (endpoint : List Char) (timeout : Duration)
    (connectTimeout : Option Duration) : Except String Client × Cache Client :=
  match parseBaseUrl parse endpoint with
  | .error e => (.error e, cache)
  | .ok parsed =>
    let key : CacheKey := ⟨parsed.canonicalOrigin, asMillis timeout, (connectTimeout.map asMillis).getD 0⟩
    match (cache.get key).filter (isFresh w) with
    | some cached => (.ok cached.client, cache)
    | none =>
      let cache := cache.erase key
      match buildClient w parsed.url ⟨timeout, connectTimeout, none⟩ with
      | .error e => (.error e, cache)
      | .ok client => (.ok client, remember w cache key client)

end Calls

inductive Reached {Client : Type} (parse : List Char → Except String Url) : Cache Client → Prop where
  | start : Reached parse Keyed.empty
  | call {cache} (h : Reached parse cache) (w : World Client) (endpoint : List Char) (timeout : Duration)
      (connectTimeout : Option Duration) : Reached parse (clientFor w parse cache endpoint timeout connectTimeout).2

section Gate

variable {url : Url}

lemma checkLiteral_ipv4 {ip : Ipv4Addr} (h : url.host = some (.ipv4 ip)) :
    checkLiteral url = .ok () ↔ ip.isLoopback = true ∨ ipv4IsGlobalUnicast ip = true := by
  simp only [checkLiteral, url.hostStr_ipv4 ip h, parseIpAddr_toText, isLoopback, ipIsPublicUnicast, ipIsGlobalUnicast]
  rcases Bool.eq_false_or_eq_true ip.isLoopback with hloop | hloop <;>
    rcases Bool.eq_false_or_eq_true (ipv4IsGlobalUnicast ip) with hglobal | hglobal <;> simp [hloop, hglobal]

lemma checkLiteral_ipv6 {ip : Ipv6Addr} (h : url.host = some (.ipv6 ip)) : checkLiteral url = .ok () := by
  obtain ⟨text, htext⟩ := url.hostStr_ipv6 ip h
  simp only [checkLiteral, htext, parseIpAddr_bracket]

end Gate

section Cached

variable {Client : Type} {parse : List Char → Except String Url} {cache : Cache Client} {w : World Client}
  {endpoint : List Char} {timeout : Duration} {connectTimeout : Option Duration} {parsed : ParsedBaseUrl}

def Vetted (parse : List Char → Except String Url) (cache : Cache Client) : Prop :=
  ∀ key cached, cache.get key = some cached →
    ∃ endpoint parsed, parseBaseUrl parse endpoint = .ok parsed ∧ parsed.canonicalOrigin = key.origin ∧
      checkLiteral parsed.url = .ok ()

lemma Vetted.sub {other : Cache Client} (h : Vetted parse cache) (hsub : ∀ key cached, other.get key = some cached →
    cache.get key = some cached) :
    Vetted parse other := by
  intro key cached hget
  exact h key cached (hsub key cached hget)

lemma Vetted.erase (h : Vetted parse cache) (key : CacheKey) : Vetted parse (cache.erase key) := by
  apply h.sub
  intro key' cached hget
  rw [Keyed.get_erase] at hget
  split_ifs at hget
  exact hget

lemma Vetted.remember (h : Vetted parse cache) {key : CacheKey} (client : Client)
    (hparse : parseBaseUrl parse endpoint = .ok parsed)
    (horigin : parsed.canonicalOrigin = key.origin) (hcheck : checkLiteral parsed.url = .ok ()) :
    Vetted parse (remember w cache key client) := by
  intro key' cached hget
  simp only [EndpointHttp.remember, Keyed.get_insert] at hget
  by_cases hkey : key' = key
  · exact ⟨endpoint, parsed, hparse, hkey ▸ horigin, hcheck⟩
  · rw [if_neg hkey] at hget
    apply h key' cached
    split_ifs at hget
    · simp at hget
    · rw [Keyed.get_retain, Option.filter_eq_some_iff] at hget
      exact hget.1
    · exact hget

lemma checkLiteral_of_buildClient {url : Url} {builder : ClientBuilder} {client : Client}
    (h : buildClient w url builder = .ok client) :
    checkLiteral url = .ok () := by
  simp only [buildClient, bind_eq_ok_iff] at h
  obtain ⟨⟨⟩, hcheck, -⟩ := h
  exact hcheck

lemma Vetted.clientFor (h : Vetted parse cache) :
    Vetted parse (clientFor w parse cache endpoint timeout connectTimeout).2 := by
  simp only [EndpointHttp.clientFor]
  split
  · exact h
  · rename_i parsed hparse
    split
    · exact h
    · split
      · exact h.erase _
      · rename_i client hclient
        exact (h.erase _).remember client hparse rfl (checkLiteral_of_buildClient hclient)

lemma Reached.vetted (h : Reached parse cache) : Vetted parse cache := by
  induction h with
  | start =>
    intro key cached hget
    simp at hget
  | call h w endpoint timeout connectTimeout ih => exact ih.clientFor

lemma checkLiteral_of_origin {other : List Char} {parsed' : ParsedBaseUrl}
    (hparse : parseBaseUrl parse endpoint = .ok parsed)
    (hother : parseBaseUrl parse other = .ok parsed') (horigin : parsed'.canonicalOrigin = parsed.canonicalOrigin)
      {ip : IpAddr}
    (hip : parsed.url.host.bind Host.ip = some ip) (hcheck : checkLiteral parsed'.url = .ok ()) :
      checkLiteral parsed.url = .ok () := by
  obtain ⟨-, -, hscheme, host, port, hhost, hcanonical⟩ := parseBaseUrl_ok hparse
  obtain ⟨-, -, hscheme', host', port', hhost', hcanonical'⟩ := parseBaseUrl_ok hother
  rw [hcanonical, hcanonical'] at horigin
  have htoken := hostToken_eq hscheme' hscheme horigin
  have hliteral : host.ip ≠ none := by
    rw [hhost] at hip
    simpa using Option.ne_none_iff_exists'.mpr ⟨ip, hip⟩
  obtain rfl := host_eq_of_hostToken hscheme' hhost' hliteral htoken
  cases host' with
  | domain name => exact absurd rfl hliteral
  | ipv4 ip => exact (checkLiteral_ipv4 hhost).mpr ((checkLiteral_ipv4 hhost').mp hcheck)
  | ipv6 ip => exact checkLiteral_ipv6 hhost

lemma domain_of_ip {url : Url} {ip : IpAddr} (hip : url.host.bind Host.ip = some ip) : url.domain = none := by
  simp only [Url.domain]
  split
  · rename_i name hname
    simp [hname, Host.ip] at hip
  · rfl

lemma buildClient_of_ip {url : Url} (builder : ClientBuilder) {ip : IpAddr}
    (hbuild : ∀ b, ∃ client, w.build b = .ok client)
    (hip : url.host.bind Host.ip = some ip) : (∃ client, buildClient w url builder = .ok client) ↔
      checkLiteral url = .ok () := by
  constructor
  · rintro ⟨client, hclient⟩
    exact checkLiteral_of_buildClient hclient
  · intro hcheck
    obtain ⟨client, hclient⟩ := hbuild builder
    refine ⟨client, ?_⟩
    simp [buildClient, hcheck, pinDomain, domain_of_ip hip, hclient, bind, Except.bind]

lemma Vetted.clientFor_iff (h : Vetted parse cache) (timeout : Duration) (connectTimeout : Option Duration)
    (hbuild : ∀ b, ∃ client, w.build b = .ok client)
    (hparse : parseBaseUrl parse endpoint = .ok parsed) {ip : IpAddr} (hip : parsed.url.host.bind Host.ip = some ip) :
    (∃ client, (EndpointHttp.clientFor w parse cache endpoint timeout connectTimeout).1 = .ok client) ↔
      checkLiteral parsed.url = .ok () := by
  simp only [EndpointHttp.clientFor, hparse]
  split
  · rename_i cached hcached
    obtain ⟨other, parsed', hother, horigin, hcheck⟩ := h _ _ (Option.filter_eq_some_iff.mp hcached).1
    simp [checkLiteral_of_origin hparse hother horigin hip hcheck]
  · rw [← buildClient_of_ip ⟨timeout, connectTimeout, none⟩ hbuild hip]
    split
    · rename_i e he
      simp [he]
    · rename_i client hclient
      simp [hclient]

end Cached

/-! The two policies. -/

/-- `127.0.0.0/8`, `0.0.0.0`, `::1` and the mapped forms. -/
def ReachesThisMachine : IpAddr → Prop
  | .v4 ip => ip.isLoopback = true ∨ ip.isUnspecified = true
  | .v6 ip => ip.isLoopback = true ∨ ∃ v4, ip.toIpv4Mapped = some v4 ∧ (v4.isLoopback = true ∨ v4.isUnspecified = true)

/-- The addresses on which the gates do not differ and no exemption is too wide. -/
def Consistent : IpAddr → Prop
  | .v4 ip => ip.isUnspecified = false
  | .v6 ip => ipv6IsGlobalUnicast ip = true ∨ ReachesThisMachine (.v6 ip)

section Policies

variable {Client : Type} (parse : List Char → Except String Url) (w : World Client) (cache : Cache Client)
  (endpoint : List Char) (timeout : Duration) (connectTimeout : Option Duration)

def hostOf : Option Host :=
  match parse (trim endpoint) with
  | .ok url => url.host
  | .error _ => none

def Refuses : Prop := ∃ e, (clientFor w parse cache endpoint timeout connectTimeout).1 = .error e

structure PoliciesAgree : Prop where
  literal : ∀ ip, (hostOf parse endpoint).bind Host.ip = some ip →
    (Refuses parse w cache endpoint timeout connectTimeout ↔
      classifyBaseUrl parse endpoint ≠ .loopback ∧ classifyBaseUrl parse endpoint ≠ .publicNet)
  loopback : classifyBaseUrl parse endpoint = .loopback →
    hostOf parse endpoint = some (.domain localhost) ∨
      ∃ ip, (hostOf parse endpoint).bind Host.ip = some ip ∧ ReachesThisMachine ip
  publicNet : ∀ ip, (hostOf parse endpoint).bind Host.ip = some ip → classifyBaseUrl parse endpoint = .publicNet →
    ipIsGlobalUnicast ip = true

end Policies

lemma classifyIp_eq_publicNet {ip : IpAddr} : classifyIp ip = .publicNet ↔ ipIsGlobalUnicast ip = true := by
  cases ip with
  | v4 ip => exact classifyIpv4Octets_eq_publicNet
  | v6 ip => exact classifyIpv6_eq_publicNet

lemma classifyIp_of_reaches {ip : IpAddr} (h : ReachesThisMachine ip) : classifyIp ip = .loopback := by
  cases ip with
  | v4 ip => exact classifyIpv4Octets_eq_loopback.mpr h
  | v6 ip =>
    apply classifyIpv6_eq_loopback.mpr
    refine h.imp_right ?_
    rintro ⟨v4, hmapped, hv4⟩
    exact ⟨v4, by simp [embeddedIpv4, hmapped], hv4⟩

lemma consistent_iff {url : Url} {ip : IpAddr} (hip : url.host.bind Host.ip = some ip) :
    Consistent ip ↔ (checkLiteral url = .ok () ↔ classifyIp ip = .loopback ∨ classifyIp ip = .publicNet) ∧
      (classifyIp ip = .loopback → ReachesThisMachine ip) := by
  obtain ⟨host, hhost, hip⟩ := Option.bind_eq_some_iff.mp hip
  cases host with
  | domain name => simp [Host.ip] at hip
  | ipv4 v4 =>
    obtain rfl := Option.some.inj hip
    simp only [checkLiteral_ipv4 hhost, classifyIp, classifyIpv4Octets_eq_loopback,
      classifyIpv4Octets_eq_publicNet, Consistent,
      ReachesThisMachine]
    constructor
    · intro h
      simp [h]
    · rintro ⟨h, -⟩
      by_contra hzero
      rw [Bool.not_eq_false] at hzero
      rcases h.mpr (Or.inl (Or.inr hzero)) with hbad | hbad
      · simp_all [Ipv4Addr.isUnspecified, Ipv4Addr.isLoopback, Ipv4Addr.octets]
      · simp [ipv4IsGlobalUnicast, hzero] at hbad
  | ipv6 v6 =>
    obtain rfl := Option.some.inj hip
    simp only [checkLiteral_ipv6 hhost, true_iff, Consistent]
    rw [← classifyIpv6_eq_publicNet]
    constructor
    · rintro (h | h)
      · exact ⟨Or.inr h, fun hloop => by simp [classifyIp, h] at hloop⟩
      · exact ⟨Or.inl (classifyIp_of_reaches h), fun _ => h⟩
    · rintro ⟨h | h, hreaches⟩
      · exact Or.inr (hreaches h)
      · exact Or.inl h

section Agreement

variable {Client : Type} {parse : List Char → Except String Url} {w : World Client} {cache : Cache Client}
  {endpoint : List Char} {timeout : Duration} {connectTimeout : Option Duration}

lemma refuses_iff : Refuses parse w cache endpoint timeout connectTimeout ↔
    ¬ ∃ client, (clientFor w parse cache endpoint timeout connectTimeout).1 = .ok client := by
  rw [Refuses]
  cases (clientFor w parse cache endpoint timeout connectTimeout).1 <;> simp

lemma agree_of_error {e : String} (h : parseBaseUrl parse endpoint = .error e) :
    PoliciesAgree parse w cache endpoint timeout connectTimeout := by
  have hclass := classifyBaseUrl_of_error h
  have hrefuses : Refuses parse w cache endpoint timeout connectTimeout := ⟨e, by simp [clientFor, h]⟩
  constructor
  · intro ip hip
    rcases hclass with hclass | hclass <;> simp [hclass, hrefuses]
  · intro hloop
    rcases hclass with hclass | hclass <;> simp [hclass] at hloop
  · intro ip hip hpublic
    rcases hclass with hclass | hclass <;> simp [hclass] at hpublic

lemma agree_of_domain {parsed : ParsedBaseUrl} (h : parseBaseUrl parse endpoint = .ok parsed) {name : List Char}
    (hname : parsed.url.host = some (.domain name)) : PoliciesAgree parse w cache endpoint timeout connectTimeout := by
  obtain ⟨-, hparse, -⟩ := parseBaseUrl_ok h
  have hhost : hostOf parse endpoint = some (.domain name) := by simp [hostOf, hparse, hname]
  constructor
  · intro ip hip
    simp [hhost, Host.ip] at hip
  · intro hloop
    rw [hhost, (classifyBaseUrl_of_domain h hname).mp hloop]
    exact Or.inl rfl
  · intro ip hip
    simp [hhost, Host.ip] at hip

lemma agree_iff_of_ip (hcache : Reached parse cache) (hbuild : ∀ b, ∃ client, w.build b = .ok client)
    {parsed : ParsedBaseUrl}
    (h : parseBaseUrl parse endpoint = .ok parsed) {ip : IpAddr} (hip : parsed.url.host.bind Host.ip = some ip) :
    PoliciesAgree parse w cache endpoint timeout connectTimeout ↔ Consistent ip := by
  obtain ⟨-, hparse, -⟩ := parseBaseUrl_ok h
  have hhost : hostOf parse endpoint = parsed.url.host := by simp [hostOf, hparse]
  have hclass := classifyBaseUrl_of_ip h hip
  have hgate := hcache.vetted.clientFor_iff timeout connectTimeout hbuild h hip
  have hdomain : parsed.url.host ≠ some (.domain localhost) := by
    intro hlocal
    simp [hlocal, Host.ip] at hip
  have hflip : (checkLiteral parsed.url = .ok () ↔ classifyIp ip = .loopback ∨ classifyIp ip = .publicNet) ↔
      (Refuses parse w cache endpoint timeout connectTimeout ↔ classifyIp ip ≠ .loopback ∧
        classifyIp ip ≠ .publicNet) := by
    rw [refuses_iff, hgate, ← not_or, not_iff_not]
  rw [consistent_iff hip, hflip]
  constructor
  · intro hagree
    refine ⟨?_, ?_⟩
    · have hliteral := hagree.literal ip (by rw [hhost, hip])
      rwa [hclass] at hliteral
    · intro hloop
      obtain hlocal | ⟨other, hother, hreaches⟩ := hagree.loopback (by rw [hclass, hloop])
      · exact absurd (hhost ▸ hlocal) hdomain
      · rw [hhost, hip] at hother
        obtain rfl := Option.some.inj hother
        exact hreaches
  · rintro ⟨hliteral, hreaches⟩
    constructor
    · intro other hother
      rw [hclass]
      exact hliteral
    · intro hloop
      rw [hclass] at hloop
      exact Or.inr ⟨ip, by rw [hhost, hip], hreaches hloop⟩
    · intro other hother hpublic
      rw [hhost, hip] at hother
      obtain rfl := Option.some.inj hother
      rw [hclass] at hpublic
      exact classifyIp_eq_publicNet.mp hpublic

/-- The two gates agree on a text, and exempt no address beyond this machine, exactly when its host is no address or
one on which they are consistent. -/
theorem policies_agree_iff (hcache : Reached parse cache) (hbuild : ∀ b, ∃ client, w.build b = .ok client) :
    PoliciesAgree parse w cache endpoint timeout connectTimeout ↔
      ∀ parsed ip, parseBaseUrl parse endpoint = .ok parsed → parsed.url.host.bind Host.ip = some ip →
        Consistent ip := by
  cases hparse : parseBaseUrl parse endpoint with
  | error e =>
    constructor
    · intro _ parsed ip hparsed
      simp at hparsed
    · intro _
      exact agree_of_error hparse
  | ok parsed =>
    obtain ⟨-, -, -, host, -, hhost, -⟩ := parseBaseUrl_ok hparse
    cases hip : parsed.url.host.bind Host.ip with
    | none =>
      constructor
      · rintro _ parsed' ip hparsed hip'
        obtain rfl := Except.ok.inj hparsed
        simp [hip] at hip'
      · intro _
        cases host with
        | domain name => exact agree_of_domain hparse hhost
        | ipv4 ip => simp [hhost, Host.ip] at hip
        | ipv6 ip => simp [hhost, Host.ip] at hip
    | some ip =>
      rw [agree_iff_of_ip hcache hbuild hparse hip]
      constructor
      · rintro h parsed' ip' hparsed hip'
        obtain rfl := Except.ok.inj hparsed
        rw [hip] at hip'
        obtain rfl := Option.some.inj hip'
        exact h
      · intro h
        exact h parsed ip rfl hip

end Agreement

/-! A unique-local address in brackets passes the gate that is there to refuse it. -/

def uniqueLocal : Ipv6Addr := ⟨0xfc00, 0, 0, 0, 0, 0, 0, 1⟩

def dns : Ipv4Addr := ⟨8, 8, 8, 8⟩

def parseSample (text : List Char) : Except String Url :=
  if text = "http://[fc00::1]/v1".toList then
    .ok {
      scheme := http, username := [], password := none, host := some (.ipv6 uniqueLocal),
      hostStr := some ('[' :: (uniqueLocal.toText ++ [']'])), portOrKnownDefault := some 80,
      hostStr_ipv4 := by simp, hostStr_ipv6 := by simp, domain_http := by simp }
  else if text = "http://8.8.8.8/v1".toList then
    .ok {
      scheme := http, username := [], password := none, host := some (.ipv4 dns), hostStr := some dns.toText,
      portOrKnownDefault := some 80, hostStr_ipv4 := by simp, hostStr_ipv6 := by simp, domain_http := by simp }
  else .error "relative URL without a base"

def sampleWorld : World Unit where
  now := 0
  toSocketAddrs _ _ := .error "no resolver"
  build _ := .ok ()

theorem policies_agree_on_dns :
    PoliciesAgree parseSample sampleWorld Keyed.empty "http://8.8.8.8/v1".toList 1000000000 none := by
  apply (policies_agree_iff Reached.start (fun _ => ⟨(), rfl⟩)).mpr
  intro parsed ip hparsed hip
  obtain ⟨-, hparse, -⟩ := parseBaseUrl_ok hparsed
  have hhost : hostOf parseSample "http://8.8.8.8/v1".toList = some (.ipv4 dns) := by
    rfl
  simp only [hostOf, hparse] at hhost
  rw [hhost] at hip
  obtain rfl := Option.some.inj hip
  rfl

theorem uniqueLocal_is_not_refused :
    ¬ ∀ (parse : List Char → Except String Url) (w : World Unit) (cache : Cache Unit) (endpoint : List Char)
        (timeout : Duration) (connectTimeout : Option Duration), Reached parse cache →
          (∀ b, ∃ client, w.build b = .ok client) →
      PoliciesAgree parse w cache endpoint timeout connectTimeout := by
  intro h
  have hagree := h parseSample sampleWorld Keyed.empty "http://[fc00::1]/v1".toList 1000000000 none Reached.start
      (fun _ => ⟨(), rfl⟩)
  have hclass : classifyBaseUrl parseSample "http://[fc00::1]/v1".toList = .privateNet := by
    decide
  have hclient : (clientFor sampleWorld parseSample Keyed.empty "http://[fc00::1]/v1".toList 1000000000 none).1 = .ok
      () := by
    rfl
  have hliteral := hagree.literal (.v6 uniqueLocal) rfl
  rw [hclass, Refuses, hclient] at hliteral
  simp at hliteral

end Aokie.Plugin.EndpointHttp
