import Aokie.Lib.Rust

/-! Internet addresses and their texts, as `std::net` prints and reads them. -/

namespace Aokie.Lib

structure Ipv4Addr where
  a : UInt8
  b : UInt8
  c : UInt8
  d : UInt8
  deriving DecidableEq

structure Ipv6Addr where
  s0 : UInt16
  s1 : UInt16
  s2 : UInt16
  s3 : UInt16
  s4 : UInt16
  s5 : UInt16
  s6 : UInt16
  s7 : UInt16
  deriving DecidableEq

inductive IpAddr where
  | v4 (ip : Ipv4Addr)
  | v6 (ip : Ipv6Addr)
  deriving DecidableEq

namespace Ipv4Addr

def octets (ip : Ipv4Addr) : List UInt8 := [ip.a, ip.b, ip.c, ip.d]

def isLoopback (ip : Ipv4Addr) : Bool := ip.a == 127

def isUnspecified (ip : Ipv4Addr) : Bool := ip.octets == [0, 0, 0, 0]

def isPrivate (ip : Ipv4Addr) : Bool :=
  ip.a == 10 || (ip.a == 172 && 16 ≤ ip.b && ip.b ≤ 31) || (ip.a == 192 && ip.b == 168)

def isLinkLocal (ip : Ipv4Addr) : Bool := ip.a == 169 && ip.b == 254

def isMulticast (ip : Ipv4Addr) : Bool := 224 ≤ ip.a && ip.a ≤ 239

def isBroadcast (ip : Ipv4Addr) : Bool := ip.octets == [255, 255, 255, 255]

def isDocumentation (ip : Ipv4Addr) : Bool :=
  (ip.a == 192 && ip.b == 0 && ip.c == 2) || (ip.a == 198 && ip.b == 51 && ip.c == 100) ||
    (ip.a == 203 && ip.b == 0 && ip.c == 113)

end Ipv4Addr

namespace Ipv6Addr

def segments (ip : Ipv6Addr) : List UInt16 := [ip.s0, ip.s1, ip.s2, ip.s3, ip.s4, ip.s5, ip.s6, ip.s7]

def ofSegments (groups : List UInt16) : Ipv6Addr where
  s0 := groups.getD 0 0
  s1 := groups.getD 1 0
  s2 := groups.getD 2 0
  s3 := groups.getD 3 0
  s4 := groups.getD 4 0
  s5 := groups.getD 5 0
  s6 := groups.getD 6 0
  s7 := groups.getD 7 0

lemma ofSegments_segments (ip : Ipv6Addr) : ofSegments ip.segments = ip := rfl

@[simp] lemma length_segments (ip : Ipv6Addr) : ip.segments.length = 8 := rfl

def isLoopback (ip : Ipv6Addr) : Bool := ip.segments == [0, 0, 0, 0, 0, 0, 0, 1]

def isUnspecified (ip : Ipv6Addr) : Bool := ip.segments == [0, 0, 0, 0, 0, 0, 0, 0]

def isMulticast (ip : Ipv6Addr) : Bool := ip.s0 &&& 0xff00 == 0xff00

def ipv4OfGroups (high low : UInt16) : Ipv4Addr :=
  ⟨(high >>> 8).toUInt8, high.toUInt8, (low >>> 8).toUInt8, low.toUInt8⟩

def toIpv4Mapped (ip : Ipv6Addr) : Option Ipv4Addr :=
  if ip.segments.take 6 = [0, 0, 0, 0, 0, 0xffff] then some (ipv4OfGroups ip.s6 ip.s7) else none

end Ipv6Addr

/-! The texts. -/

def octetText (octet : UInt8) : List Char := Nat.toDigits 10 octet.toNat

def groupText (segment : UInt16) : List Char := Nat.toDigits 16 segment.toNat

def Ipv4Addr.toText (ip : Ipv4Addr) : List Char := ['.'].intercalate (ip.octets.map octetText)

/-- The groups of an address after the first one of a run, each behind its colon. -/
def colonText (segments : List UInt16) : List Char := segments.flatMap fun segment => ':' :: groupText segment

def fmtSubslice : List UInt16 → List Char
  | [] => []
  | first :: tail => groupText first ++ colonText tail

structure Span where
  start : ℕ
  len : ℕ
  deriving DecidableEq

/-- The loop that finds the first of the longest runs of zeros, with the longest run and the current one so far. -/
def zeroSpan : ℕ → Span → Span → List UInt16 → Span
  | _, longest, _, [] => longest
  | i, longest, current, segment :: rest =>
    if segment = 0 then
      let current : Span := ⟨if current.len = 0 then i else current.start, current.len + 1⟩
      zeroSpan (i + 1) (if longest.len < current.len then current else longest) current rest
    else zeroSpan (i + 1) longest ⟨0, 0⟩ rest

def mappedPrefix : List Char := [':', ':', 'f', 'f', 'f', 'f', ':']

def Ipv6Addr.toText (ip : Ipv6Addr) : List Char :=
  match ip.toIpv4Mapped with
  | some ipv4 => mappedPrefix ++ ipv4.toText
  | none =>
    let zeroes := zeroSpan 0 ⟨0, 0⟩ ⟨0, 0⟩ ip.segments
    if 1 < zeroes.len then
      fmtSubslice (ip.segments.take zeroes.start) ++ ':' :: ':' :: fmtSubslice
        (ip.segments.drop (zeroes.start + zeroes.len))
    else fmtSubslice ip.segments

/-! The readers. Each takes what it understands off the front of the text, or fails and leaves the text alone. -/

def toDigit (radix : ℕ) (c : Char) : Option ℕ :=
  let digit :=
    if '0' ≤ c ∧ c ≤ '9' then c.toNat - '0'.toNat
    else if 'a' ≤ c ∧ c ≤ 'z' then c.toNat - 'a'.toNat + 10
    else if 'A' ≤ c ∧ c ≤ 'Z' then c.toNat - 'A'.toNat + 10
    else 36
  if digit < radix then some digit else none

def readGivenChar (target : Char) : List Char → Option (List Char)
  | c :: text => if c = target then some text else none
  | [] => none

def readSeparator {α : Type} (separator : Char) (index : ℕ) (inner : List Char → Option (α × List Char))
    (text : List Char) :
    Option (α × List Char) :=
  if 0 < index then (readGivenChar separator text).bind inner else inner text

/-- The digits of a number: its value, how many there are, and the text behind them. -/
def readDigits (radix maxDigits : ℕ) : ℕ → ℕ → List Char → Option (ℕ × ℕ × List Char)
  | result, count, [] => some (result, count, [])
  | result, count, c :: text =>
    match toDigit radix c with
    | some digit => if maxDigits < count + 1 then none else readDigits radix maxDigits (result * radix + digit)
        (count + 1) text
    | none => some (result, count, c :: text)

def readNumber (radix maxDigits : ℕ) (allowZeroPrefix : Bool) (bound : ℕ) (text : List Char) : Option (ℕ × List Char) :=
  match readDigits radix maxDigits 0 0 text with
  | none => none
  | some (result, count, rest) =>
    if count = 0 then none
    else if !allowZeroPrefix && text.head? == some '0' && 1 < count then none
    else if result < bound then some (result, rest)
    else none

def readOctet (text : List Char) : Option (UInt8 × List Char) :=
  (readNumber 10 3 false 256 text).map fun r => (UInt8.ofNat r.1, r.2)

def readGroup (text : List Char) : Option (UInt16 × List Char) :=
  (readNumber 16 4 true 65536 text).map fun r => (UInt16.ofNat r.1, r.2)

def readIpv4Addr (text : List Char) : Option (Ipv4Addr × List Char) := do
  let (a, text) ← readSeparator '.' 0 readOctet text
  let (b, text) ← readSeparator '.' 1 readOctet text
  let (c, text) ← readSeparator '.' 2 readOctet text
  let (d, text) ← readSeparator '.' 3 readOctet text
  pure (⟨a, b, c, d⟩, text)

/-- `u16::from_be_bytes`. -/
def groupOfOctets (high low : UInt8) : UInt16 := fromLeBytes low high

/-- Up to `left` groups from the `index`th on, the last two perhaps as an IPv4 address. -/
def readGroups : ℕ → ℕ → List Char → List UInt16 × Bool × List Char
  | 0, _, text => ([], false, text)
  | left + 1, index, text =>
    match if 0 < left then readSeparator ':' index readIpv4Addr text else none with
    | some (ipv4, rest) => ([groupOfOctets ipv4.a ipv4.b, groupOfOctets ipv4.c ipv4.d], true, rest)
    | none =>
      match readSeparator ':' index readGroup text with
      | some (group, rest) =>
        let (groups, ipv4, rest) := readGroups left (index + 1) rest
        (group :: groups, ipv4, rest)
      | none => ([], false, text)

def readIpv6Addr (text : List Char) : Option (Ipv6Addr × List Char) :=
  match readGroups 8 0 text with
  | (head, headIpv4, text) =>
    if head.length = 8 then some (.ofSegments head, text)
    else if headIpv4 then none
    else do
      let text ← readGivenChar ':' text
      let text ← readGivenChar ':' text
      let (tail, _, text) := readGroups (8 - (head.length + 1)) 0 text
      pure (.ofSegments (head ++ List.replicate (8 - head.length - tail.length) 0 ++ tail), text)

def readIpAddr (text : List Char) : Option (IpAddr × List Char) :=
  match readIpv4Addr text with
  | some (ip, rest) => some (.v4 ip, rest)
  | none => (readIpv6Addr text).map fun r => (.v6 r.1, r.2)

def parseWith {α : Type} (inner : List Char → Option (α × List Char)) (text : List Char) : Option α :=
  match inner text with
  | some (a, []) => some a
  | _ => none

def parseIpv4Addr (text : List Char) : Option Ipv4Addr := parseWith readIpv4Addr text

def parseIpv6Addr (text : List Char) : Option Ipv6Addr := parseWith readIpv6Addr text

def parseIpAddr (text : List Char) : Option IpAddr := parseWith readIpAddr text

/-! What is printed is read back. -/

lemma toDigit_digitChar : ∀ n < 16, toDigit 16 (Nat.digitChar n) = some n := by decide

lemma toDigit_digitChar_ten : ∀ n < 10, toDigit 10 (Nat.digitChar n) = some n := by decide

lemma readDigits_cons {radix maxDigits result count digit : ℕ} {c : Char} {text : List Char}
    (h : toDigit radix c = some digit)
    (hcount : count + 1 ≤ maxDigits) :
    readDigits radix maxDigits result count (c :: text) =
      readDigits radix maxDigits (result * radix + digit) (count + 1) text := by
  simp [readDigits, h, Nat.not_lt.mpr hcount]

lemma readDigits_toDigits {radix maxDigits : ℕ} (hradix : 1 < radix)
    (hread : ∀ d < radix, toDigit radix (Nat.digitChar d) = some d)
    (n : ℕ) : ∀ text, (Nat.toDigits radix n).length ≤ maxDigits →
      readDigits radix maxDigits 0 0 (Nat.toDigits radix n ++ text) =
        readDigits radix maxDigits n (Nat.toDigits radix n).length text := by
  induction n using Nat.strongRecOn with
  | ind n ih =>
    intro text hlen
    by_cases hn : n < radix
    · rw [Nat.toDigits_of_lt_base hn] at hlen ⊢
      have hone : readDigits radix maxDigits 0 0 (n.digitChar :: text) = readDigits radix maxDigits
          (0 * radix + n) 1 text :=
        readDigits_cons (hread n hn) hlen
      simpa using hone
    · have hdigits := Nat.toDigits_of_base_le hradix (Nat.not_lt.mp hn)
      rw [hdigits] at hlen ⊢
      rw [List.length_append, List.length_singleton] at hlen ⊢
      have hmod : n % radix < radix := Nat.mod_lt n (by omega)
      have hdiv : n / radix < n := Nat.div_lt_self (by omega) hradix
      rw [List.append_assoc, ih (n / radix) hdiv _ (by omega), List.singleton_append,
        readDigits_cons (hread _ hmod) hlen,
        Nat.div_add_mod']

lemma readDigits_of_stop {radix maxDigits result count : ℕ} {rest : List Char}
    (hrest : rest.head?.bind (toDigit radix) = none) :
    readDigits radix maxDigits result count rest = some (result, count, rest) := by
  cases rest with
  | nil => rfl
  | cons c rest =>
    have hc : toDigit radix c = none := by simpa using hrest
    simp [readDigits, hc]

lemma octetText_bounds : ∀ octet : UInt8, (octetText octet).length ≤ 3 ∧
    (!false && (octetText octet).head? == some '0' && 1 < (octetText octet).length : Bool) = false := by
  apply byte_forall
  decide

lemma octetText_ne_nil (octet : UInt8) : octetText octet ≠ [] := Nat.toDigits_ne_nil

lemma groupText_ne_nil (segment : UInt16) : groupText segment ≠ [] := Nat.toDigits_ne_nil

lemma readOctet_octetText (octet : UInt8) {rest : List Char} (hrest : rest.head?.bind (toDigit 10) = none) :
    readOctet (octetText octet ++ rest) = some (octet, rest) := by
  obtain ⟨hlen, hzero⟩ := octetText_bounds octet
  have hpos : (octetText octet).length ≠ 0 := by simpa using octetText_ne_nil octet
  have hhead : (octetText octet ++ rest).head? = (octetText octet).head? := by
    simp [List.head?_append_of_ne_nil _ (octetText_ne_nil octet)]
  have hread := readDigits_toDigits (by decide) toDigit_digitChar_ten octet.toNat rest hlen
  rw [readDigits_of_stop hrest] at hread
  have hnumber : readNumber 10 3 false 256 (octetText octet ++ rest) = some (octet.toNat, rest) := by
    rw [readNumber, hhead]
    simp only [octetText] at hpos hzero hread ⊢
    simp only [hread, hpos, octet.toNat_lt, if_true, if_false]
    exact if_neg (ne_true_of_eq_false hzero)
  simp [readOctet, hnumber]

lemma readGroup_groupText (segment : UInt16) {rest : List Char} (hrest : rest.head?.bind (toDigit 16) = none) :
    readGroup (groupText segment ++ rest) = some (segment, rest) := by
  have hlen : (groupText segment).length ≤ 4 :=
    (Nat.length_toDigits_le_iff (by decide) (by decide)).mpr segment.toNat_lt
  have hpos : (groupText segment).length ≠ 0 := by simpa using groupText_ne_nil segment
  have hread := readDigits_toDigits (by decide) toDigit_digitChar segment.toNat rest hlen
  rw [readDigits_of_stop hrest] at hread
  have hnumber : readNumber 16 4 true 65536 (groupText segment ++ rest) = some (segment.toNat, rest) := by
    rw [readNumber]
    simp only [groupText] at hpos hread ⊢
    have hlt : segment.toNat < 65536 := segment.toNat_lt
    simp [hread, hpos, hlt]
  simp [readGroup, hnumber]

lemma Ipv4Addr.toText_eq (ip : Ipv4Addr) :
    ip.toText = octetText ip.a ++ '.' :: (octetText ip.b ++ '.' :: (octetText ip.c ++ '.' :: octetText ip.d)) := by
  simp [Ipv4Addr.toText, Ipv4Addr.octets, List.intercalate]

lemma readIpv4Addr_toText (ip : Ipv4Addr) {rest : List Char} (hrest : rest.head?.bind (toDigit 10) = none) :
    readIpv4Addr (ip.toText ++ rest) = some (ip, rest) := by
  have hdot : ∀ (octet : UInt8) (text : List Char), readOctet (octetText octet ++ '.' :: text) =
      some (octet, '.' :: text) := by
    intro octet text
    exact readOctet_octetText octet rfl
  have hlast := readOctet_octetText ip.d hrest
  simp only [Ipv4Addr.toText_eq, List.append_assoc, List.cons_append]
  simp [readIpv4Addr, readSeparator, readGivenChar, hdot, hlast]

lemma parseIpv4Addr_toText (ip : Ipv4Addr) : parseIpv4Addr ip.toText = some ip := by
  have hread : readIpv4Addr (ip.toText ++ []) = some (ip, []) := readIpv4Addr_toText ip rfl
  simp only [List.append_nil] at hread
  simp [parseIpv4Addr, parseWith, hread]

lemma parseIpAddr_toText (ip : Ipv4Addr) : parseIpAddr ip.toText = some (.v4 ip) := by
  have hread : readIpv4Addr (ip.toText ++ []) = some (ip, []) := readIpv4Addr_toText ip rfl
  simp only [List.append_nil] at hread
  simp [parseIpAddr, parseWith, readIpAddr, hread]

/-- Nothing is left of a text, or its next character is the colon of a further group. -/
def AtColon (rest : List Char) : Prop := ∀ c ∈ rest.head?, c = ':'

lemma AtColon.stops {rest : List Char} (h : AtColon rest) {radix : ℕ} (hradix : radix ≤ 36) :
    rest.head?.bind (toDigit radix) = none := by
  cases rest with
  | nil => rfl
  | cons c rest =>
    obtain rfl := h c rfl
    have hcolon : toDigit radix ':' = none := by
      simp [toDigit, Nat.not_lt.mpr hradix]
    simpa using hcolon

lemma atColon_colonText (segments : List UInt16) {rest : List Char} (h : AtColon rest) :
    AtColon (colonText segments ++ rest) := by
  cases segments with
  | nil => exact h
  | cons segment segments => simp [AtColon, colonText]

lemma mem_toDigits {radix : ℕ} (hradix : 1 < radix) {c : Char} (n : ℕ) :
    c ∈ Nat.toDigits radix n → ∃ d < radix, c = Nat.digitChar d := by
  induction n using Nat.strongRecOn with
  | ind n ih =>
    intro hc
    rw [Nat.toDigits_eq_if hradix] at hc
    split_ifs at hc with hn
    · exact ⟨n, hn, List.mem_singleton.mp hc⟩
    · rw [List.mem_append, List.mem_singleton] at hc
      obtain hc | rfl := hc
      · exact ih (n / radix) (Nat.div_lt_self (by omega) hradix) hc
      · exact ⟨n % radix, Nat.mod_lt n (by omega), rfl⟩

lemma mem_groupText {segment : UInt16} {c : Char} (h : c ∈ groupText segment) : c ≠ '.' ∧ c ≠ ':' := by
  have hdigit : ∀ n < 16, Nat.digitChar n ≠ '.' ∧ Nat.digitChar n ≠ ':' := by decide
  obtain ⟨n, hn, rfl⟩ := mem_toDigits (by decide) segment.toNat h
  exact hdigit n hn

lemma head_of_readDigits {digits rest : List Char} (hdigits : ∀ c ∈ digits, c ≠ '.') (hrest : AtColon rest)
    {radix maxDigits : ℕ}
    (hradix : radix ≤ 36) :
    ∀ {result count}, ∀ r ∈ readDigits radix maxDigits result count (digits ++ rest), r.2.2.head? ≠ some '.' := by
  induction digits with
  | nil =>
    intro result count r hr
    rw [List.nil_append, readDigits_of_stop (hrest.stops hradix)] at hr
    obtain rfl := Option.mem_some.mp hr
    intro hdot
    exact absurd (hrest '.' hdot) (by decide)
  | cons c digits ih =>
    intro result count r hr
    simp only [List.cons_append, readDigits] at hr
    split at hr
    · split_ifs at hr with hcount
      · simp at hr
      · exact ih (fun c hc => hdigits c (List.mem_cons_of_mem _ hc)) r hr
    · obtain rfl := Option.mem_some.mp hr
      simpa using hdigits c List.mem_cons_self

lemma readIpv4Addr_groupText (segment : UInt16) {rest : List Char} (hrest : AtColon rest) :
    readIpv4Addr (groupText segment ++ rest) = none := by
  have hdigits : ∀ c ∈ groupText segment, c ≠ '.' := fun c hc => (mem_groupText hc).1
  cases hoctet : readOctet (groupText segment ++ rest) with
  | none => simp [readIpv4Addr, readSeparator, hoctet]
  | some r =>
    obtain ⟨octet, left⟩ := r
    have hdot : left.head? ≠ some '.' := by
      simp only [readOctet, readNumber, Option.map_eq_some_iff] at hoctet
      obtain ⟨number, hnumber, hleft⟩ := hoctet
      split at hnumber
      · simp at hnumber
      · rename_i result count text hread
        have hhead := head_of_readDigits hdigits hrest (by decide) _ hread
        split_ifs at hnumber
        obtain rfl := Option.some.inj hnumber
        obtain ⟨_, rfl⟩ := Prod.mk.inj hleft
        exact hhead
    have hgiven : readGivenChar '.' left = none := by
      cases left with
      | nil => rfl
      | cons c left => simpa [readGivenChar] using hdot
    simp [readIpv4Addr, readSeparator, hoctet, hgiven]

/-- Where a run of groups ends: at the end of the text or at a double colon. -/
inductive AtEnd : List Char → Prop where
  | nil : AtEnd []
  | colons (text : List Char) : AtEnd (':' :: ':' :: text)

lemma AtEnd.atColon {rest : List Char} (h : AtEnd rest) : AtColon rest := by
  cases h <;> simp [AtColon]

lemma readGroups_of_end {rest : List Char} (h : AtEnd rest) (left index : ℕ) :
    readGroups left index rest = ([], false, rest) := by
  cases left with
  | zero => rfl
  | succ left =>
    have hipv4 : readSeparator ':' index readIpv4Addr rest = none := by
      cases h <;> by_cases hindex : 0 < index <;> simp [readSeparator, readGivenChar, hindex] <;> rfl
    have hgroup : readSeparator ':' index readGroup rest = none := by
      cases h <;> by_cases hindex : 0 < index <;> simp [readSeparator, readGivenChar, hindex] <;> rfl
    simp [readGroups, hipv4, hgroup]

lemma readGroups_colonText {rest : List Char} (hrest : AtEnd rest) (segments : List UInt16) :
    ∀ left index, 0 < index → segments.length ≤ left →
      readGroups left index (colonText segments ++ rest) = (segments, false, rest) := by
  induction segments with
  | nil =>
    intro left index hindex hleft
    exact readGroups_of_end hrest left index
  | cons segment segments ih =>
    intro left index hindex hleft
    obtain ⟨left, rfl⟩ : ∃ n, left = n + 1 := Nat.exists_eq_succ_of_ne_zero (by simp at hleft; omega)
    have hcolon := atColon_colonText segments hrest.atColon
    have htext : colonText (segment :: segments) ++ rest = ':' ::
        (groupText segment ++ (colonText segments ++ rest)) := by
      simp [colonText]
    have hipv4 : readSeparator ':' index readIpv4Addr (colonText (segment :: segments) ++ rest) = none := by
      simp [htext, readSeparator, readGivenChar, hindex, readIpv4Addr_groupText segment hcolon]
    have hgroup : readSeparator ':' index readGroup (colonText (segment :: segments) ++ rest) =
        some (segment, colonText segments ++ rest) := by
      simp [htext, readSeparator, readGivenChar, hindex, readGroup_groupText segment (hcolon.stops (by decide))]
    have hnext := ih left (index + 1) (by omega) (by simpa using hleft)
    simp [readGroups, hipv4, hgroup, hnext]

lemma readGroups_fmtSubslice {rest : List Char} (hrest : AtEnd rest) (segments : List UInt16) (left : ℕ)
    (hleft : segments.length ≤ left) : readGroups left 0 (fmtSubslice segments ++ rest) = (segments, false, rest) := by
  cases segments with
  | nil => exact readGroups_of_end hrest left 0
  | cons segment segments =>
    obtain ⟨left, rfl⟩ : ∃ n, left = n + 1 := Nat.exists_eq_succ_of_ne_zero (by simp at hleft; omega)
    have hcolon := atColon_colonText segments hrest.atColon
    have htext : fmtSubslice (segment :: segments) ++ rest = groupText segment ++ (colonText segments ++ rest) := by
      simp [fmtSubslice]
    have hipv4 := readIpv4Addr_groupText segment hcolon
    have hgroup := readGroup_groupText segment (hcolon.stops (by decide))
    have hnext := readGroups_colonText hrest segments left 1 (by decide) (by simpa using hleft)
    rw [htext]
    simp [readGroups, readSeparator, hipv4, hgroup, hnext]

/-! The run of zeros that is left out. -/

def Span.Zeros (span : Span) (segments : List UInt16) : Prop :=
  (segments.drop span.start).take span.len = List.replicate span.len 0

lemma zeroSpan_zeros {all : List UInt16} (segments : List UInt16) : ∀ i longest current, all.drop i = segments →
    longest.Zeros all → current.Zeros all → (current.len ≠ 0 → current.start + current.len = i) →
    (zeroSpan i longest current segments).Zeros all := by
  induction segments with
  | nil =>
    intro i longest current hdrop hlongest hcurrent hend
    exact hlongest
  | cons segment rest ih =>
    intro i longest current hdrop hlongest hcurrent hend
    have hrest : all.drop (i + 1) = rest := by
      rw [← List.drop_drop, hdrop, List.drop_one, List.tail_cons]
    by_cases hzero : segment = 0
    · rw [zeroSpan, if_pos hzero]
      have hstart : (if current.len = 0 then i else current.start) + current.len = i := by
        split_ifs with hlen
        · omega
        · exact hend hlen
      have hsofar : (all.drop (if current.len = 0 then i else current.start)).take current.len =
          List.replicate current.len 0 := by
        split_ifs with hlen
        · simp [hlen]
        · exact hcurrent
      generalize (if current.len = 0 then i else current.start) = start at hstart hsofar ⊢
      have hgrown : Span.Zeros ⟨start, current.len + 1⟩ all := by
        rw [Span.Zeros, List.take_add, List.drop_drop, hstart, hdrop, hsofar, hzero, List.replicate_succ']
        rfl
      refine ih (i + 1) _ _ hrest ?_ hgrown (fun _ => by simp only; omega)
      split_ifs
      · exact hgrown
      · exact hlongest
    · rw [zeroSpan, if_neg hzero]
      exact ih (i + 1) longest ⟨0, 0⟩ hrest hlongest rfl (by simp)

lemma Span.Zeros.eq {span : Span} {segments : List UInt16} (h : span.Zeros segments) :
    segments = segments.take span.start ++ (List.replicate span.len 0 ++ segments.drop (span.start + span.len)) := by
  rw [Span.Zeros] at h
  rw [← h, ← List.drop_drop, List.take_append_drop, List.take_append_drop]

lemma Span.Zeros.le_length {span : Span} {segments : List UInt16} (h : span.Zeros segments) (hlen : span.len ≠ 0) :
    span.start + span.len ≤ segments.length := by
  have hlength := congrArg List.length h
  simp only [List.length_take, List.length_drop, List.length_replicate] at hlength
  omega

/-! Version 6 addresses. -/

lemma groupOfOctets_toUInt8 (segment : UInt16) : groupOfOctets (segment >>> 8).toUInt8 segment.toUInt8 = segment :=
  fromLeBytes_toLeBytes segment

lemma readIpv6Addr_compressed {head tail : List UInt16} (hlen : head.length + tail.length < 8) :
    readIpv6Addr (fmtSubslice head ++ ':' :: ':' :: fmtSubslice tail) =
      some (.ofSegments (head ++ List.replicate (8 - head.length - tail.length) 0 ++ tail), []) := by
  have hhead := readGroups_fmtSubslice (.colons (fmtSubslice tail)) head 8 (by omega)
  have htail := readGroups_fmtSubslice .nil tail (8 - (head.length + 1)) (by omega)
  rw [List.append_nil] at htail
  have hne : head.length ≠ 8 := by omega
  simp only [readIpv6Addr, hhead, if_neg hne, readGivenChar, if_true, Option.bind_eq_bind, Option.bind_some, htail]
  rfl

lemma readIpv6Addr_full {segments : List UInt16} (hlen : segments.length = 8) :
    readIpv6Addr (fmtSubslice segments) = some (.ofSegments segments, []) := by
  have hhead := readGroups_fmtSubslice .nil segments 8 (by omega)
  rw [List.append_nil] at hhead
  simp [readIpv6Addr, hhead, hlen]

lemma readIpv6Addr_mapped (ipv4 : Ipv4Addr) :
    readIpv6Addr (mappedPrefix ++ ipv4.toText) =
      some (.ofSegments [0, 0, 0, 0, 0, 0xffff, groupOfOctets ipv4.a ipv4.b, groupOfOctets ipv4.c ipv4.d], []) := by
  have hhead := readGroups_of_end (.colons (groupText 0xffff ++ ':' :: ipv4.toText)) 8 0
  have hfirst : readIpv4Addr (groupText 0xffff ++ ':' :: ipv4.toText) = none :=
      readIpv4Addr_groupText 0xffff (by simp [AtColon])
  have hgroup : readGroup (groupText 0xffff ++ ':' :: ipv4.toText) = some (0xffff, ':' :: ipv4.toText) :=
      readGroup_groupText 0xffff rfl
  have hipv4 : readIpv4Addr (ipv4.toText ++ []) = some (ipv4, []) := readIpv4Addr_toText ipv4 rfl
  rw [List.append_nil] at hipv4
  have htail : readGroups 7 0 (groupText 0xffff ++ ':' :: ipv4.toText) =
      ([0xffff, groupOfOctets ipv4.a ipv4.b, groupOfOctets ipv4.c ipv4.d], true, []) := by
    simp [readGroups, readSeparator, readGivenChar, hfirst, hgroup, hipv4]
  have htext : mappedPrefix ++ ipv4.toText = ':' :: ':' :: (groupText 0xffff ++ ':' :: ipv4.toText) := rfl
  rw [htext]
  simp [readIpv6Addr, hhead, readGivenChar, htail]

lemma parseIpv6Addr_toText (ip : Ipv6Addr) : parseIpv6Addr ip.toText = some ip := by
  have hread : readIpv6Addr ip.toText = some (ip, []) := by
    cases hmapped : ip.toIpv4Mapped with
    | some ipv4 =>
      simp only [Ipv6Addr.toText, hmapped]
      simp only [Ipv6Addr.toIpv4Mapped, Option.ite_none_right_eq_some, Option.some.injEq] at hmapped
      obtain ⟨hsame, rfl⟩ := hmapped
      rw [readIpv6Addr_mapped]
      simp only [Ipv6Addr.ipv4OfGroups, groupOfOctets_toUInt8]
      have hsegments : ip.segments = [0, 0, 0, 0, 0, 0xffff, ip.s6, ip.s7] := by
        rw [← List.take_append_drop 6 ip.segments, hsame]
        rfl
      rw [← hsegments, Ipv6Addr.ofSegments_segments]
    | none =>
      have hzeros : (zeroSpan 0 ⟨0, 0⟩ ⟨0, 0⟩ ip.segments).Zeros ip.segments :=
        zeroSpan_zeros ip.segments 0 ⟨0, 0⟩ ⟨0, 0⟩ rfl rfl rfl (by simp)
      simp only [Ipv6Addr.toText, hmapped]
      generalize hspan : zeroSpan 0 ⟨0, 0⟩ ⟨0, 0⟩ ip.segments = zeroes at hzeros ⊢
      split_ifs with hlen
      · have hle := hzeros.le_length (by omega)
        rw [Ipv6Addr.length_segments] at hle
        have hcount : 8 - (ip.segments.take zeroes.start).length -
            (ip.segments.drop (zeroes.start + zeroes.len)).length =
            zeroes.len := by
          simp
          omega
        rw [readIpv6Addr_compressed (by simp; omega), hcount, List.append_assoc, ← hzeros.eq,
          Ipv6Addr.ofSegments_segments]
      · exact readIpv6Addr_full (Ipv6Addr.length_segments ip)
  simp [parseIpv6Addr, parseWith, hread]

lemma Ipv4Addr.toText_injective {ip other : Ipv4Addr} (h : ip.toText = other.toText) : ip = other := by
  have hread := parseIpv4Addr_toText ip
  rw [h, parseIpv4Addr_toText other] at hread
  exact (Option.some.inj hread).symm

lemma Ipv6Addr.toText_injective {ip other : Ipv6Addr} (h : ip.toText = other.toText) : ip = other := by
  have hread := parseIpv6Addr_toText ip
  rw [h, parseIpv6Addr_toText other] at hread
  exact (Option.some.inj hread).symm

lemma colon_mem_toText (ip : Ipv6Addr) : ':' ∈ ip.toText := by
  cases hmapped : ip.toIpv4Mapped with
  | some ipv4 => simp [Ipv6Addr.toText, hmapped, mappedPrefix]
  | none =>
    simp only [Ipv6Addr.toText, hmapped]
    split_ifs
    · simp
    · simp [Ipv6Addr.segments, fmtSubslice, colonText]

lemma isDigit_octetText {octet : UInt8} {c : Char} (h : c ∈ octetText octet) : c.isDigit = true :=
  Nat.isDigit_of_mem_toDigits (by decide) le_rfl h

lemma mem_toText {ip : Ipv4Addr} {c : Char} (h : c ∈ ip.toText) : c.isDigit = true ∨ c = '.' := by
  simp only [Ipv4Addr.toText_eq, List.mem_append, List.mem_cons] at h
  rcases h with h | rfl | h | rfl | h | rfl | h
  any_goals exact Or.inr rfl
  all_goals exact Or.inl (isDigit_octetText h)

lemma parseIpAddr_bracket (text : List Char) : parseIpAddr ('[' :: text) = none := by
  have hgroups : readGroups 8 0 ('[' :: text) = ([], false, '[' :: text) := rfl
  have hipv6 : readIpv6Addr ('[' :: text) = none := by
    simp [readIpv6Addr, hgroups, readGivenChar]
  have hipv4 : readIpv4Addr ('[' :: text) = none := rfl
  simp [parseIpAddr, parseWith, readIpAddr, hipv4, hipv6]

end Aokie.Lib
