import Signatory.Keys.Service
import Signatory.Proofs.ChainTable
import Signatory.Proofs.Journal

/-!
# The cache of public keys changes no answer

Questions for public keys are asked of a key service one after the other. In between the cache may
be cleared, entries may grow old or make room for others, and chains may be registered.

1. `derivedPublicKey`: the public key at the path of an account, on the curve that the table resolves
   for its chain. The service locates the account there (`locate_eq`).
2. `Confirms`: each entry of a cache is the public key of every seed that has its fingerprint. An
   action keeps this (`Confirms.cacheAfter`).
3. `publicKey_spec`: with such a cache a question is answered by the public key that is derived
   for it.
4. `answers_eq`: so all questions are answered as if there were no cache.
-/

namespace Signatory

open Outcome

/-! ## Entries -/

namespace Cache

variable {c c' : Cache} {key : CacheKey} {publicKey : Bytes}

/-- A cache that has lost all entries but those of some keys. -/
def forget (c : Cache) (kept : CacheKey → Bool) : Cache :=
  { c with entries := c.entries.filter fun e => kept e.1 }

theorem mem_of_forget {kept : CacheKey → Bool} {e : CacheKey × Bytes}
    (h : e ∈ (c.forget kept).entries) : e ∈ c.entries := by
  simp only [forget, List.mem_filter] at h
  exact h.1

theorem mem_of_without {e : CacheKey × Bytes} (h : e ∈ c.without key) : e ∈ c.entries := by
  simp only [without, List.mem_filter] at h
  exact h.1

/-- What is not found is not found either when more is lost. -/
theorem use?_forget (h : c.use? key = none) (kept : CacheKey → Bool) :
    (c.forget kept).use? key = none := by
  unfold use? at h ⊢
  rw [Option.map_eq_none_iff, List.lookup_eq_none_iff] at h ⊢
  exact fun e he => h e (mem_of_forget he)

/-- What is found was in the cache, and its use adds nothing. -/
theorem use?_eq_some (h : c.use? key = some (publicKey, c')) :
    (key, publicKey) ∈ c.entries ∧ c'.capacity = c.capacity ∧
      ∀ e ∈ c'.entries, e ∈ c.entries := by
  unfold use? at h
  obtain ⟨found, hfound, heq⟩ := Option.map_eq_some_iff.1 h
  cases heq
  have hmem := mem_of_lookup hfound
  refine ⟨hmem, rfl, fun e he => ?_⟩
  rcases List.mem_append.1 he with he | he
  · exact mem_of_without he
  · rw [List.mem_singleton.1 he]
    exact hmem

/-- A cache with room takes an entry, and then has no other that it did not have. -/
theorem exists_store (h : 1 ≤ c.capacity) (key : CacheKey) (publicKey : Bytes) :
    ∃ c', c.store key publicKey = .ok c' ∧ c'.capacity = c.capacity ∧
      ∀ e ∈ c'.entries, e = (key, publicKey) ∨ e ∈ c.entries := by
  unfold store
  rw [if_neg (by omega)]
  refine ⟨_, rfl, rfl, fun e he => ?_⟩
  rcases List.mem_append.1 he with he | he
  · exact .inr (mem_of_without (List.mem_of_mem_drop he))
  · exact .inl (List.mem_singleton.1 he)

end Cache

namespace KeyService

variable {s : KeyService} {t : ChainTable}

/-! ## Public keys that are derived -/

/-- The public key at a path below a seed. -/
def publicKeyAt (s : KeyService) (seed : Bytes) (curve : Curve) (path : String) :
    Except Failure Bytes := do
  let key ← ((s.backend curve).deriveKey seed path).result
  ((s.backend curve).publicKey key).result

/-- The path of an account: the one that is given, or the default one of the chain if none is given
or it is empty. -/
def pathFor (t : ChainTable) (chain : Value) (choice : CurveChoice) :
    Option String → Except Failure String
  | none => t.defaultPath chain choice
  | some path => if path = "" then t.defaultPath chain choice else .ok path

/-- The public key that is derived for an account: on the curve that the table resolves for its
chain, at the given path or the default one. -/
def derivedPublicKey (s : KeyService) (t : ChainTable) (seed : Bytes) (chain : Value)
    (path : Option String) (choice : CurveChoice) : Except Failure Bytes := do
  let curve ← t.curveFor chain choice
  let path ← pathFor t chain choice path
  s.publicKeyAt seed curve path

theorem derivedPublicKey_eq {seed : Bytes} {chain : Value} {path : Option String}
    {choice : CurveChoice} {curve : Curve} {place : String}
    (hcurve : t.curveFor chain choice = .ok curve)
    (hpath : pathFor t chain choice path = .ok place) :
    s.derivedPublicKey t seed chain path choice = s.publicKeyAt seed curve place :=
  (bind_of_eq_ok hcurve _).trans (bind_of_eq_ok hpath _)

/-- The service locates an account on the curve and at the path of the table. -/
theorem locate_eq (t : ChainTable) (chain : Value) (path : Option String) (choice : CurveChoice) :
    locate t chain path choice = t.curveFor chain choice >>= fun curve =>
      pathFor t chain choice path >>= fun path => .ok (curve, path) := by
  unfold locate
  cases hcurve : t.curveFor chain choice with
  | error f => rfl
  | ok curve =>
    have hdefault := ChainTable.defaultPath_exactly hcurve
    cases path with
    | none =>
      rw [pathFor, ← hdefault]
      rfl
    | some path =>
      rw [pathFor]
      by_cases hpath : path = ""
      · rw [hpath, if_pos rfl, ← hdefault]
        rfl
      · have hempty : (!path.isEmpty) = true := by
          rw [Bool.not_eq_true', ← Bool.not_eq_true, String.isEmpty_iff]
          exact hpath
        have hgiven : (some path).filter (fun p => !p.isEmpty) = some path := if_pos hempty
        rw [if_neg hpath, hgiven]
        rfl

theorem derivedPublicKey_eq_locate (s : KeyService) (t : ChainTable) (seed : Bytes) (chain : Value)
    (path : Option String) (choice : CurveChoice) :
    s.derivedPublicKey t seed chain path choice =
      locate t chain path choice >>= fun x => s.publicKeyAt seed x.1 x.2 := by
  rw [locate_eq]
  unfold derivedPublicKey
  cases t.curveFor chain choice with
  | error f => rfl
  | ok curve =>
    cases pathFor t chain choice path with
    | error f => rfl
    | ok path => rfl

theorem result_freshPublicKey (s : KeyService) (seed : Bytes) (curve : Curve) (path : String) :
    (s.freshPublicKey seed curve path).result = s.publicKeyAt seed curve path :=
  Traced.result_bind _ _

theorem publicKeyAt_nil (s : KeyService) (curve : Curve) (path : String) :
    s.publicKeyAt [] curve path = .error .emptySeed := rfl

/-- A chain that is located has a tag. -/
theorem exists_tag_of_locate {chain : Value} {path : Option String} {choice : CurveChoice}
    {x : Curve × String} (h : locate t chain path choice = .ok x) :
    ∃ tag, Tag.ofValue chain = .ok tag := by
  obtain ⟨curve, hcurve, -⟩ := bind_eq_ok_iff.1 h
  obtain ⟨i, hfind, -⟩ := bind_eq_ok_iff.1 hcurve
  obtain ⟨tag, htag, -⟩ := bind_eq_ok_iff.1 hfind
  exact ⟨tag, htag⟩

/-- A question without a cache key is refused like the derivation. -/
theorem derivedPublicKey_of_error {seed : Bytes} {chain : Value} {path : Option String}
    {choice : CurveChoice} {f : Failure} (h : s.cacheKey t seed chain path choice = .error f) :
    s.derivedPublicKey t seed chain path choice = .error f := by
  unfold cacheKey at h
  rw [derivedPublicKey_eq_locate]
  cases hlocate : locate t chain path choice with
  | error g =>
    rw [hlocate] at h
    obtain rfl : g = f := Except.error.inj h
    rfl
  | ok x =>
    rw [bind_of_eq_ok hlocate] at h
    obtain ⟨tag, htag⟩ := exists_tag_of_locate hlocate
    cases seed with
    | nil =>
      cases h
      exact publicKeyAt_nil s x.1 x.2
    | cons b seed =>
      rw [htag] at h
      cases h

/-- A cache key states the fingerprint of the seed, and the curve and the path that are derived
at. -/
theorem derivedPublicKey_of_cacheKey {seed : Bytes} {chain : Value} {path : Option String}
    {choice : CurveChoice} {key : CacheKey} (h : s.cacheKey t seed chain path choice = .ok key) :
    key.fingerprint = s.fingerprint seed ∧
      s.derivedPublicKey t seed chain path choice = s.publicKeyAt seed key.curve key.path := by
  obtain ⟨x, hlocate, h⟩ := bind_eq_ok_iff.1 h
  cases seed with
  | nil => cases h
  | cons b seed =>
    obtain ⟨tag, -, h⟩ := bind_eq_ok_iff.1 h
    cases h
    rw [derivedPublicKey_eq_locate]
    exact ⟨rfl, bind_of_eq_ok hlocate _⟩

/-! ## Answers from a cache -/

/-- Seeds that the fingerprint tells apart. -/
def Separates (fingerprint : Bytes → Bytes) (seeds : List Bytes) : Prop :=
  ∀ a ∈ seeds, ∀ b ∈ seeds, fingerprint a = fingerprint b → a = b

/-- The entries of a cache are right for some seeds, and it has room for one. -/
structure Confirms (s : KeyService) (seeds : List Bytes) (c : Cache) : Prop where
  room : 1 ≤ c.capacity
  entry : ∀ key publicKey, (key, publicKey) ∈ c.entries → ∀ seed ∈ seeds,
    s.fingerprint seed = key.fingerprint → s.publicKeyAt seed key.curve key.path = .ok publicKey

variable {seeds : List Bytes} {seed : Bytes} {cache : Option Cache}

theorem confirms_empty {capacity : Int} (h : 1 ≤ capacity) : s.Confirms seeds (.empty capacity) :=
  ⟨h, fun _ _ hmem => by cases hmem⟩

theorem Confirms.of_subset {c c' : Cache} (h : s.Confirms seeds c)
    (hcapacity : c'.capacity = c.capacity) (hsub : ∀ e ∈ c'.entries, e ∈ c.entries) :
    s.Confirms seeds c' :=
  ⟨hcapacity.symm ▸ h.room, fun key publicKey hmem => h.entry key publicKey (hsub _ hmem)⟩

/-- Storing the public key of a seed keeps a cache right, since no other seed has the
fingerprint. -/
theorem Confirms.exists_store {c : Cache} {key : CacheKey} {publicKey : Bytes}
    (h : s.Confirms seeds c) (hsep : Separates s.fingerprint seeds) (hseed : seed ∈ seeds)
    (hkey : key.fingerprint = s.fingerprint seed)
    (hfresh : s.publicKeyAt seed key.curve key.path = .ok publicKey) :
    ∃ c', c.store key publicKey = .ok c' ∧ s.Confirms seeds c' := by
  obtain ⟨c', hstore, hcapacity, hentries⟩ := Cache.exists_store h.room key publicKey
  refine ⟨c', hstore, hcapacity.symm ▸ h.room, fun key' publicKey' hmem seed' hseed' heq => ?_⟩
  rcases hentries _ hmem with hnew | hold
  · cases hnew
    rw [hsep seed' hseed' seed hseed (heq.trans hkey)]
    exact hfresh
  · exact h.entry key' publicKey' hold seed' hseed' heq

/-- The answer for a cache key is the public key that is derived, and the cache stays right. -/
theorem lookupOrDerive_spec {key : CacheKey} (hcache : ∀ c ∈ cache, s.Confirms seeds c)
    (hsep : Separates s.fingerprint seeds) (hseed : seed ∈ seeds)
    (hkey : key.fingerprint = s.fingerprint seed) :
    (s.lookupOrDerive cache seed key).1.result = s.publicKeyAt seed key.curve key.path ∧
      ∀ c ∈ (s.lookupOrDerive cache seed key).2, s.Confirms seeds c := by
  have hfresh := s.result_freshPublicKey seed key.curve key.path
  unfold lookupOrDerive
  split
  · -- the key is in the cache
    rename_i publicKey c' huse
    obtain ⟨c, hc, huse⟩ := Option.bind_eq_some_iff.1 huse
    obtain ⟨hmem, hcapacity, hsub⟩ := Cache.use?_eq_some huse
    refine ⟨((hcache c hc).entry key publicKey hmem seed hseed hkey.symm).symm, ?_⟩
    rintro _ ⟨⟩
    exact (hcache c hc).of_subset hcapacity hsub
  · dsimp only
    split
    · -- the key is derived and stored
      rename_i publicKey c hresult _
      have hright := hfresh.symm.trans hresult
      obtain ⟨c', hstore, hconfirms⟩ := (hcache c rfl).exists_store hsep hseed hkey hright
      rw [hstore]
      refine ⟨hfresh, ?_⟩
      rintro _ ⟨⟩
      exact hconfirms
    · -- there is nothing to store, or no cache
      exact ⟨hfresh, hcache⟩

/-- A question that does not find its key ends as if the entries that are lost while the key is
derived had been lost before. -/
theorem lookupOrDerive_forget {c c' : Cache} {key : CacheKey} {publicKey : Bytes}
    (h : c.use? key = none) (kept : CacheKey → Bool)
    (hfresh : (s.freshPublicKey seed key.curve key.path).result = .ok publicKey)
    (hstore : (c.forget kept).store key publicKey = .ok c') :
    s.lookupOrDerive (some (c.forget kept)) seed key =
      (s.freshPublicKey seed key.curve key.path, some c') := by
  have hmiss : (some (c.forget kept)).bind (·.use? key) = none := Cache.use?_forget h kept
  simp only [lookupOrDerive, hmiss, hfresh, hstore]

theorem publicKey_spec (hcache : ∀ c ∈ cache, s.Confirms seeds c)
    (hsep : Separates s.fingerprint seeds) (hseed : seed ∈ seeds) (t : ChainTable) (chain : Value)
    (path : Option String) (choice : CurveChoice) :
    (s.publicKey t cache seed chain path choice).1.result =
        s.derivedPublicKey t seed chain path choice ∧
      ∀ c ∈ (s.publicKey t cache seed chain path choice).2, s.Confirms seeds c := by
  unfold publicKey
  split
  · rename_i f hkey
    exact ⟨(derivedPublicKey_of_error hkey).symm, hcache⟩
  · rename_i key hkey
    obtain ⟨hfingerprint, hderived⟩ := derivedPublicKey_of_cacheKey hkey
    rw [hderived]
    exact lookupOrDerive_spec hcache hsep hseed hfingerprint

/-! ## Sequences of actions -/

/-- What may happen while a key service is in use. Entries are forgotten between questions only: a
question that finds its key in the cache stores nothing, and to one that does not it is all the same
whether they are forgotten before it or while the key is derived (`lookupOrDerive_forget`). -/
inductive Action where
  | publicKey (seed : Bytes) (chain : Value) (path : Option String) (choice : CurveChoice)
  | clear
  | forget (kept : CacheKey → Bool)
  | register (info : ChainInfo)

/-- The table after an action. A chain that is refused changes nothing. -/
def tableAfter (t : ChainTable) : Action → ChainTable
  | .register info =>
    match t.register info with
    | .ok t' => t'
    | .error _ => t
  | .publicKey .. | .clear | .forget _ => t

/-- The cache after an action. -/
def cacheAfter (s : KeyService) (t : ChainTable) (cache : Option Cache) : Action → Option Cache
  | .publicKey seed chain path choice => (s.publicKey t cache seed chain path choice).2
  | .clear => cache.map Cache.clear
  | .forget kept => cache.map fun c => c.forget kept
  | .register _ => cache

/-- The answers to the questions among some actions, from a cache if there is one. -/
def answers (s : KeyService) : ChainTable → Option Cache → List Action → List (Except Failure Bytes)
  | _, _, [] => []
  | t, cache, a :: as =>
    let later := answers s (tableAfter t a) (s.cacheAfter t cache a) as
    match a with
    | .publicKey seed chain path choice =>
      (s.publicKey t cache seed chain path choice).1.result :: later
    | .clear | .forget _ | .register _ => later

/-- The public keys that are derived for the questions among some actions. -/
def derivedAnswers (s : KeyService) : ChainTable → List Action → List (Except Failure Bytes)
  | _, [] => []
  | t, a :: as =>
    let later := derivedAnswers s (tableAfter t a) as
    match a with
    | .publicKey seed chain path choice => s.derivedPublicKey t seed chain path choice :: later
    | .clear | .forget _ | .register _ => later

/-- The seeds that are asked about. -/
def seedsOf (as : List Action) : List Bytes :=
  as.filterMap fun
    | .publicKey seed _ _ _ => some seed
    | .clear | .forget _ | .register _ => none

/-- An action keeps a cache right. -/
theorem Confirms.cacheAfter (hcache : ∀ c ∈ cache, s.Confirms seeds c)
    (hsep : Separates s.fingerprint seeds) (t : ChainTable) {a : Action}
    (ha : ∀ seed ∈ seedsOf [a], seed ∈ seeds) :
    ∀ c ∈ s.cacheAfter t cache a, s.Confirms seeds c := by
  cases a with
  | publicKey seed chain path choice =>
    exact (publicKey_spec hcache hsep (ha seed List.mem_cons_self) t chain path choice).2
  | clear =>
    intro c hc
    obtain ⟨c₀, hc₀, rfl⟩ := Option.map_eq_some_iff.1 hc
    exact confirms_empty (hcache c₀ hc₀).room
  | forget kept =>
    intro c hc
    obtain ⟨c₀, hc₀, rfl⟩ := Option.map_eq_some_iff.1 hc
    exact (hcache c₀ hc₀).of_subset rfl fun _ => Cache.mem_of_forget
  | register info => exact hcache

/-- Whatever the actions, a cache that is right leads to the answers that are derived. -/
theorem answers_of_confirms (hsep : Separates s.fingerprint seeds) (as : List Action) :
    ∀ {t : ChainTable} {cache : Option Cache}, (∀ c ∈ cache, s.Confirms seeds c) →
      (∀ seed ∈ seedsOf as, seed ∈ seeds) → s.answers t cache as = s.derivedAnswers t as := by
  induction as with
  | nil => exact fun _ _ => rfl
  | cons a as ih =>
    intro t cache hcache hseeds
    have hsplit : seedsOf (a :: as) = seedsOf [a] ++ seedsOf as := by
      unfold seedsOf
      rw [← List.filterMap_append, List.singleton_append]
    rw [hsplit, List.forall_mem_append] at hseeds
    have hlater := ih (t := tableAfter t a) (Confirms.cacheAfter hcache hsep t hseeds.1) hseeds.2
    cases a with
    | publicKey seed chain path choice =>
      have hseed := hseeds.1 seed List.mem_cons_self
      exact List.cons_eq_cons.2
        ⟨(publicKey_spec hcache hsep hseed t chain path choice).1, hlater⟩
    | clear | forget | register => exact hlater

theorem confirms_of_cacheOf {settings : Settings} (h : 1 ≤ settings.cacheSize) :
    ∀ c ∈ cacheOf settings, s.Confirms seeds c := by
  intro c hc
  unfold cacheOf at hc
  split at hc
  · cases hc
    exact confirms_empty h
  · cases hc

/-- A key service answers with its cache as it does without: by the public keys that are derived. -/
theorem answers_eq (s : KeyService) (t : ChainTable) {settings : Settings}
    (hsize : 1 ≤ settings.cacheSize) (as : List Action)
    (hsep : Separates s.fingerprint (seedsOf as)) :
    s.answers t (cacheOf settings) as = s.answers t none as ∧
      s.answers t none as = s.derivedAnswers t as := by
  have hnone : s.answers t none as = s.derivedAnswers t as :=
    answers_of_confirms hsep as (fun _ hc => by cases hc) fun _ => id
  refine ⟨?_, hnone⟩
  rw [hnone]
  exact answers_of_confirms hsep as (confirms_of_cacheOf hsize) fun _ => id

/-- Settings for a cache of one entry. -/
def smallCache : Settings := { cacheSize := 1 }

/-- Another chain of this tag, on one curve. -/
def movedSui : ChainInfo :=
  { ChainInfo.sui with curves := [.p256], paths := [(.p256, "m/74'/784'/1'/0/0")] }

/-- Questions for two seeds, with a chain registered again and a cleared cache in between. -/
def someActions : List Action :=
  [.publicKey (List.replicate 16 1) (.text "SUI") none .unspecified,
    .publicKey (List.replicate 16 2) (.text " sui") (some "m/44'/784'/0'/0'/1'") (.named "ed25519"),
    .register movedSui, .publicKey (List.replicate 16 2) (.text "SUI") none .unspecified, .clear,
    .publicKey (List.replicate 16 1) (.text "SUI") none (.named "stark")]

/-- Where the keys for these questions are derived. The last one is for a curve that the chain does
not have. -/
def someKeys : List (Except Failure Bytes) :=
  [standard.publicKeyAt (List.replicate 16 1) .ed25519 "m/44'/784'/0'/0'/0'",
    standard.publicKeyAt (List.replicate 16 2) .ed25519 "m/44'/784'/0'/0'/1'",
    standard.publicKeyAt (List.replicate 16 2) .p256 "m/74'/784'/1'/0/0",
    .error (.curveNotAccepted "SUI" .stark)]

theorem derivedAnswers_someActions :
    standard.derivedAnswers .standard someActions = someKeys := by
  -- The table from the third question on.
  let t : ChainTable := ⟨[("SUI", movedSui), ("STARKNET", .starknet)]⟩
  have hfirst : standard.derivedPublicKey .standard (List.replicate 16 1) (.text "SUI") none
      .unspecified = standard.publicKeyAt (List.replicate 16 1) .ed25519 "m/44'/784'/0'/0'/0'" :=
    derivedPublicKey_eq rfl rfl
  have hsecond : standard.derivedPublicKey .standard (List.replicate 16 2) (.text " sui")
      (some "m/44'/784'/0'/0'/1'") (.named "ed25519") =
        standard.publicKeyAt (List.replicate 16 2) .ed25519 "m/44'/784'/0'/0'/1'" :=
    derivedPublicKey_eq rfl rfl
  have hthird : standard.derivedPublicKey t (List.replicate 16 2) (.text "SUI") none
      .unspecified = standard.publicKeyAt (List.replicate 16 2) .p256 "m/74'/784'/1'/0/0" :=
    derivedPublicKey_eq rfl rfl
  have hlast : standard.derivedPublicKey t (List.replicate 16 1) (.text "SUI") none
      (.named "stark") = .error (.curveNotAccepted "SUI" .stark) := rfl
  have htable : tableAfter .standard (.register movedSui) = t := rfl
  unfold someKeys
  rw [← hfirst, ← hsecond, ← hthird, ← hlast, ← htable]
  rfl

theorem answers_eq_someActions : 1 ≤ smallCache.cacheSize ∧
    Separates standard.fingerprint (seedsOf someActions) ∧
    standard.answers .standard (cacheOf smallCache) someActions = someKeys ∧
    standard.answers .standard none someActions = someKeys := by
  have hsize : 1 ≤ smallCache.cacheSize := by decide
  have hsep : Separates standard.fingerprint (seedsOf someActions) := by
    unfold Separates
    decide +kernel
  obtain ⟨hcached, hderived⟩ := answers_eq standard .standard hsize someActions hsep
  exact ⟨hsize, hsep, hcached.trans (hderived.trans derivedAnswers_someActions),
    hderived.trans derivedAnswers_someActions⟩

end KeyService

end Signatory
