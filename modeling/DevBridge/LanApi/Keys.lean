import DevBridge.LanCert.Issuer

/-!
# The keys of the tills

Every till has a key of its own for the LAN API, and the bridge key of Odoo is none of them.
The bridge keeps the SHA-256 digests of the keys and compares them with the digest of the token
that a call brings; `sha256` stands for the digest, and that two different texts have different
digests is asked of the texts at hand only.
-/

namespace DevBridge

namespace LanApi

/-! ### The configuration -/

/-- `[[client.pokladna.kasy]]`. -/
structure KasaConfig where
  id : ℤ
  lanKey : Option String
deriving DecidableEq, Repr

/-- `[client.pokladna.lan_api]`. -/
structure LanApiConfig where
  enabled : Bool
  port : ℕ
  hostname : String
  acme : Bool
deriving DecidableEq, Repr

/-- `[client.pokladna]`. -/
structure PokladnaConfig where
  /-- The bridge key of Odoo. -/
  apiKey : String
  kasy : List KasaConfig
  lanApi : LanApiConfig
deriving DecidableEq, Repr

/-- `[client]`. -/
structure ClientConfig where
  clientId : Option String
  dashboardPort : ℕ
  pokladna : PokladnaConfig
deriving DecidableEq, Repr

/-- The longest DNS name. -/
def MAX_DNS_NAME : ℕ := 253

/-- A lower-case DNS name of two labels or more, whose last label has a letter. -/
def validDnsName (name : String) : Bool :=
  let labels := name.toList.splitOn '.'
  name.utf8ByteSize ≤ MAX_DNS_NAME && decide (2 ≤ labels.length) &&
    labels.all (fun label => Certificates.validDnsLabel (String.ofList label)) &&
    (labels.getLastD []).any Char.isLower

/-- A key of a till: 32 to 256 printable ASCII characters, no space, quote or backslash. -/
def lanKeyOk (key : String) : Bool :=
  decide (32 ≤ (utf8 key).length ∧ (utf8 key).length ≤ 256) &&
    (utf8 key).all fun b => 0x21 ≤ b && b ≤ 0x7e && b != 0x22 && b != 0x5c

/-- The keys of the tills that have one. -/
def PokladnaConfig.lanKeys (p : PokladnaConfig) : List (ℤ × String) :=
  p.kasy.filterMap fun k => k.lanKey.map fun key => (k.id, key)

/-- What is wrong with the keys; `before` are those of the tills listed before. -/
def keyProblems (apiKey : String) : List String → List (ℤ × String) → List String
  | _, [] => []
  | before, (id, key) :: rest =>
    (if !lanKeyOk key then
      [s!"kasy: id = {id}: lan_key must be 32-256 printable characters without spaces, quotes or backslashes"]
    else []) ++
    (if key = apiKey then [s!"kasy: id = {id}: lan_key must not be the Odoo bridge key"]
    else []) ++
    (if key ∈ before then
      [s!"kasy: id = {id}: lan_key is the same as another till's (a key belongs to one till)"]
    else []) ++ keyProblems apiKey (key :: before) rest

/-- `lan_api_problems`: what is wrong with an enabled LAN API. -/
def lanApiProblems (config : ClientConfig) : List String :=
  let p := config.pokladna
  let lan := p.lanApi
  if !lan.enabled then []
  else
    (if lan.port = 0 ∨ lan.port = config.dashboardPort then
      [s!"lan_api.port = {lan.port} must be a free port other than the dashboard's ({config.dashboardPort})"]
    else []) ++
    (if !validDnsName lan.hostname then
      [s!"lan_api.hostname \"{lan.hostname}\" must be the PC's lower-case DNS name (<client_id>.<zone>)"]
    else []) ++
    (if lan.acme then
      if (config.clientId.any fun id =>
          startsWith lan.hostname (Certificates.toAsciiLowercase id ++ ".")) then []
      else
        ["lan_api.hostname must be <client_id>.<zone> with [client] client_id set - the only name pz-server issues a certificate for"]
    else []) ++
    (if p.lanKeys.isEmpty then
      ["no [[client.pokladna.kasy]] has a lan_key - no till could call the LAN API"]
    else []) ++
    keyProblems p.apiKey [] p.lanKeys

/-- The configurations that the start accepts for a LAN API. -/
structure ClientConfig.Accepted (config : ClientConfig) : Prop where
  enabled : config.pokladna.lanApi.enabled = true
  problems : lanApiProblems config = []

/-! ### Digests and tokens -/

/-- A SHA-256 digest. -/
abbrev KeyDigest := Vector UInt8 32

/-- Equality of digests, comparing every byte. -/
def ctEq (a b : KeyDigest) : Bool :=
  (a.toList.zip b.toList).foldl (fun acc xy => acc ||| (xy.1 ^^^ xy.2)) 0 == 0

/-- The token of an `Authorization: Bearer` header. -/
def bearerToken (header : Option String) : Option String :=
  header.bind fun header =>
    (splitOnce [' '] header.toList).bind fun (scheme, rest) =>
      let token := trim (String.ofList rest)
      if Certificates.toAsciiLowercase (String.ofList scheme) = "bearer" ∧ token ≠ "" then
        some token
      else none

/-- The digests of the tills' keys, and the one of the bridge key. -/
structure KeyTable where
  keys : List (ℤ × KeyDigest)
  bridge : Option KeyDigest

variable (sha256 : List UInt8 → KeyDigest)

def digest (key : String) : KeyDigest := sha256 (utf8 key)

/-- `KeyTable::new`. -/
def KeyTable.new (kasy : List KasaConfig) (bridgeKey : String) : KeyTable where
  keys := kasy.filterMap fun k =>
    k.lanKey.bind fun key =>
      if trim key ≠ "" then some (k.id, digest sha256 (trim key)) else none
  bridge := if trim bridgeKey ≠ "" then some (digest sha256 (trim bridgeKey)) else none

/-- The till a token belongs to; none for an unknown one and for the bridge key. -/
def KeyTable.tillOf (t : KeyTable) (token : Option String) : Option ℤ :=
  token.bind fun token =>
    let presented := digest sha256 token
    let till := t.keys.foldl (fun till key => if ctEq key.2 presented then some key.1 else till)
      none
    till.filter fun _ => !t.bridge.any fun b => ctEq b presented

/-- The key table that the LAN API runs with. -/
def ClientConfig.keyTable (config : ClientConfig) : KeyTable :=
  KeyTable.new sha256 config.pokladna.kasy config.pokladna.apiKey

/-! ### Whose token it is -/

/-- The token is the key of a till. -/
def ClientConfig.KeyOf (config : ClientConfig) (till : ℤ) (token : String) : Prop :=
  ∃ kasa ∈ config.pokladna.kasy, kasa.id = till ∧ kasa.lanKey = some token

/-- The token has the digest of a till's key, and is another text. -/
def ClientConfig.Collides (config : ClientConfig) (token : String) : Prop :=
  ∃ till key, config.KeyOf till key ∧ digest sha256 key = digest sha256 token ∧ key ≠ token

variable {sha256} {config : ClientConfig} {till : ℤ} {token key : String}

lemma ctEq_iff {a b : KeyDigest} : ctEq a b = true ↔ a = b := by
  have hfold : ∀ (pairs : List (UInt8 × UInt8)) acc,
      pairs.foldl (fun acc xy => acc ||| (xy.1 ^^^ xy.2)) acc = 0 ↔
        acc = 0 ∧ ∀ xy ∈ pairs, xy.1 = xy.2 := by
    intro pairs
    induction pairs with
    | nil => simp
    | cons xy pairs ih =>
      intro acc
      rw [List.foldl_cons, ih, UInt8.or_eq_zero_iff, UInt8.xor_eq_zero_iff, List.forall_mem_cons,
        and_assoc]
  have hlength : a.toList.length = b.toList.length := by simp
  rw [ctEq, beq_iff_eq, hfold]
  constructor
  · rintro ⟨-, hsame⟩
    refine Vector.toList_inj.mp (List.ext_getElem hlength fun n ha hb => ?_)
    have hn : n < (a.toList.zip b.toList).length := by
      rw [List.length_zip]
      omega
    have hpair := hsame _ (List.getElem_mem hn)
    rwa [List.getElem_zip] at hpair
  · rintro rfl
    refine ⟨rfl, fun xy hxy => ?_⟩
    obtain ⟨n, hn, rfl⟩ := List.mem_iff_getElem.mp hxy
    rw [List.getElem_zip]

lemma mem_lanKeys : (till, key) ∈ config.pokladna.lanKeys ↔ config.KeyOf till key := by
  simp only [PokladnaConfig.lanKeys, List.mem_filterMap, Option.map_eq_some_iff, Prod.mk.injEq,
    ClientConfig.KeyOf]
  constructor
  · rintro ⟨kasa, hkasa, key', hkey, rfl, rfl⟩
    exact ⟨kasa, hkasa, rfl, hkey⟩
  · rintro ⟨kasa, hkasa, rfl, hkey⟩
    exact ⟨kasa, hkasa, key, hkey, rfl, rfl⟩

/-- Keys without problems are well-formed, and all different. -/
lemma keyProblems_eq_nil {apiKey : String} {keys : List (ℤ × String)} :
    ∀ {before : List String}, keyProblems apiKey before keys = [] →
      (∀ key ∈ keys, lanKeyOk key.2 = true ∧ key.2 ∉ before) ∧
        keys.Pairwise fun a b => a.2 ≠ b.2 := by
  induction keys with
  | nil => exact fun _ => ⟨fun _ h => (nomatch h), List.Pairwise.nil⟩
  | cons head rest ih =>
    obtain ⟨id, key⟩ := head
    intro before h
    simp only [keyProblems, List.append_eq_nil_iff, ite_eq_right_iff, List.cons_ne_self,
      imp_false] at h
    obtain ⟨⟨⟨hok, -⟩, hbefore⟩, hrest⟩ := h
    obtain ⟨hkeys, hpair⟩ := ih hrest
    refine ⟨fun k hk => ?_, List.Pairwise.cons (fun k hk heq => ?_) hpair⟩
    · rcases List.mem_cons.mp hk with rfl | hk
      · exact ⟨by simpa using hok, hbefore⟩
      · exact ⟨(hkeys k hk).1, fun hmem => (hkeys k hk).2 (List.mem_cons_of_mem _ hmem)⟩
    · exact (hkeys k hk).2 (heq ▸ List.mem_cons_self)

/-- A well-formed key has no white space. -/
lemma trim_of_lanKeyOk (h : lanKeyOk key = true) : trim key = key ∧ key ≠ "" := by
  simp only [lanKeyOk, Bool.and_eq_true, decide_eq_true_eq, List.all_eq_true, bne_iff_ne] at h
  obtain ⟨⟨hlength, -⟩, hbytes⟩ := h
  have hascii : ∀ c ∈ key.toList, c.toNat < 128 := ascii_of_utf8 fun b hb => by
    have hle := UInt8.le_iff_toNat_le.mp (hbytes b hb).1.1.2
    exact UInt8.lt_iff_toNat_lt.mpr (lt_of_le_of_lt hle (by decide))
  have hwhite : ∀ c ∈ key.toList, isWhitespace c = false := by
    intro c hc
    have hlt := hascii c hc
    have hmem : UInt8.ofNat c.toNat ∈ utf8 key := by
      rw [utf8_of_ascii hascii]
      exact List.mem_map_of_mem hc
    have hlow : (0x21 : UInt8).toNat ≤ (UInt8.ofNat c.toNat).toNat :=
      UInt8.le_iff_toNat_le.mp (hbytes _ hmem).1.1.1
    have hhigh : (UInt8.ofNat c.toNat).toNat ≤ (0x7e : UInt8).toNat :=
      UInt8.le_iff_toNat_le.mp (hbytes _ hmem).1.1.2
    rw [UInt8.toNat_ofNat', Nat.mod_eq_of_lt (by omega)] at hlow hhigh
    have hlow : 33 ≤ c.toNat := hlow
    have hhigh : c.toNat ≤ 126 := hhigh
    simp only [isWhitespace, Bool.or_eq_false_iff, Bool.and_eq_false_iff, beq_eq_false_iff_ne,
      decide_eq_false_iff_not]
    omega
  constructor
  · unfold trim
    have hdrop : key.toList.dropWhile isWhitespace = key.toList :=
      List.dropWhile_eq_self_iff.mpr fun hpos => by
        simpa using hwhite _ (List.getElem_mem hpos)
    have hrdrop : key.toList.rdropWhile isWhitespace = key.toList :=
      List.rdropWhile_eq_self_iff.mpr fun hne => by
        simpa using hwhite _ (List.getLast_mem hne)
    rw [hdrop, hrdrop, String.ofList_toList]
  · rintro rfl
    exact absurd hlength (by decide)

lemma ClientConfig.Accepted.keys (h : config.Accepted) :
    (∀ till key, config.KeyOf till key → lanKeyOk key = true) ∧
      config.pokladna.lanKeys.Pairwise fun a b => a.2 ≠ b.2 := by
  have hproblems := h.problems
  simp only [lanApiProblems, h.enabled, Bool.not_true, Bool.false_eq_true, if_false,
    List.append_eq_nil_iff] at hproblems
  obtain ⟨hkeys, hpair⟩ := keyProblems_eq_nil hproblems.2
  exact ⟨fun till key hkey => (hkeys _ (mem_lanKeys.mpr hkey)).1, hpair⟩

/-- A key is the key of one till. -/
lemma ClientConfig.Accepted.unique {till' : ℤ} (h : config.Accepted) (hkey : config.KeyOf till key)
    (hkey' : config.KeyOf till' key) : till = till' := by
  obtain ⟨n, hn, hget⟩ := List.mem_iff_getElem.mp (mem_lanKeys.mpr hkey)
  obtain ⟨m, hm, hget'⟩ := List.mem_iff_getElem.mp (mem_lanKeys.mpr hkey')
  have hpair := List.pairwise_iff_getElem.mp h.keys.2
  rcases lt_trichotomy n m with hlt | rfl | hlt
  · exact absurd (by rw [hget, hget']) (hpair n m hn hm hlt)
  · exact congrArg Prod.fst (hget.symm.trans hget')
  · exact absurd (by rw [hget, hget']) (hpair m n hm hn hlt)

/-- The fold finds a till whose digest is the presented one. -/
lemma foldl_till {keys : List (ℤ × KeyDigest)} {presented : KeyDigest} {acc : Option ℤ}
    (h : keys.foldl (fun till key => if ctEq key.2 presented then some key.1 else till) acc =
      some till) : acc = some till ∨ (till, presented) ∈ keys := by
  induction keys generalizing acc with
  | nil => exact Or.inl h
  | cons head rest ih =>
    rw [List.foldl_cons] at h
    rcases ih h with hacc | hmem
    · split at hacc
      next heq =>
        obtain rfl := Option.some.inj hacc
        exact Or.inr (ctEq_iff.mp heq ▸ List.mem_cons_self)
      next => exact Or.inl hacc
    · exact Or.inr (List.mem_cons_of_mem _ hmem)

variable (sha256) in
/-- The till of a key table's answer is the one whose key the token is, and the token is not the
bridge key. -/
lemma keyOf_of_tillOf (h : config.Accepted) (hno : ¬ config.Collides sha256 token)
    (htill : (config.keyTable sha256).tillOf sha256 (some token) = some till) :
    config.KeyOf till token ∧ trim config.pokladna.apiKey ≠ token := by
  simp only [ClientConfig.keyTable, KeyTable.tillOf, Option.bind_some,
    Option.filter_eq_some_iff] at htill
  obtain ⟨hfold, hbridge⟩ := htill
  have hkey : config.KeyOf till token := by
    rcases foldl_till hfold with hnone | hmem
    · cases hnone
    · simp only [KeyTable.new, List.mem_filterMap, Option.bind_eq_some_iff] at hmem
      obtain ⟨kasa, hkasa, key, hlan, hpair⟩ := hmem
      split at hpair
      next hne =>
        obtain ⟨rfl, hdigest⟩ := Prod.mk.inj (Option.some.inj hpair)
        have hof : config.KeyOf kasa.id key := ⟨kasa, hkasa, rfl, hlan⟩
        rw [(trim_of_lanKeyOk (h.keys.1 _ _ hof)).1] at hdigest
        by_cases heq : key = token
        · exact heq ▸ hof
        · exact absurd ⟨kasa.id, key, hof, hdigest, heq⟩ hno
      next => cases hpair
  refine ⟨hkey, fun htoken => ?_⟩
  have hne : trim config.pokladna.apiKey ≠ "" :=
    htoken ▸ (trim_of_lanKeyOk (h.keys.1 _ _ hkey)).2
  rw [KeyTable.new, if_pos hne, htoken] at hbridge
  simp [ctEq_iff.mpr] at hbridge

end LanApi

end DevBridge
