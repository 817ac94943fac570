import Signatory.Proofs.Keys.Failing

/-!
# The lifetime of key handles

The handles that an operation makes are followed through its journal: each is in the state that the
last event about it left it in (`Traced.handlesAfter`).

1. `LeavesHandles`: an operation that makes no handle and releases none.
2. `Opens`: one that makes the handle it gives, and none if it fails.
3. `ErasesKey`: one that makes at most one handle, which is erased in the end. This is what becomes
   of a handle that is made and then used through `Traced.withKey` (`Opens.erasesKey_withKey`).
4. `KeyHandle.afterUses_of_released`: a released handle stays as it is, whatever it is used for, and
   such a use is refused (`Traced.RefusesKey`).
-/

namespace Signatory

namespace KeyHandle

variable {k : KeyHandle}

/-- A released handle with nothing but zeros in its buffer. -/
def IsErased (k : KeyHandle) : Prop :=
  k.released = true ∧ ∀ b ∈ k.buffer, b = 0

theorem isErased_release (h : k.released = false) : k.release.IsErased := by
  refine ⟨released_release k, ?_⟩
  intro b hb
  simp only [release, h, Bool.false_eq_true, if_false, List.mem_replicate] at hb
  exact hb.2

end KeyHandle

/-! ## Handles in the journal -/

/-- Some handles, the first one that its release makes equal to `closed` having been released. -/
def closeHandle (closed : KeyHandle) : List KeyHandle → List KeyHandle
  | [] => []
  | k :: ks =>
    if k.released = false ∧ k.release = closed then closed :: ks else k :: closeHandle closed ks

/-- The handles after an event, the latest first. -/
def Event.handlesAfter (ks : List KeyHandle) : Event → List KeyHandle
  | .opened k => k :: ks
  | .closed k => closeHandle k ks
  | .logged _ | .derivation | .primitive _ _ => ks

theorem closeHandle_release {k : KeyHandle} (h : k.released = false) (ks : List KeyHandle) :
    closeHandle k.release (k :: ks) = k.release :: ks :=
  if_pos ⟨h, rfl⟩

namespace Traced

variable {α β : Type} {t : Traced α}

/-- The handles after an operation, with those that there were before it. -/
def handlesAfter (t : Traced α) (ks : List KeyHandle) : List KeyHandle :=
  t.events.foldl Event.handlesAfter ks

/-- The handles that an operation made, in the states it left them in. -/
def handles (t : Traced α) : List KeyHandle :=
  t.handlesAfter []

theorem handlesAfter_bind_ok {a : α} (h : t.result = .ok a) (next : α → Traced β)
    (ks : List KeyHandle) :
    (t >>= next).handlesAfter ks = (next a).handlesAfter (t.handlesAfter ks) := by
  unfold handlesAfter
  rw [events_bind, h, List.foldl_append]

theorem handlesAfter_bind_error {f : Failure} (h : t.result = .error f) (next : α → Traced β)
    (ks : List KeyHandle) : (t >>= next).handlesAfter ks = t.handlesAfter ks := by
  unfold handlesAfter
  rw [events_bind, h, List.append_nil]

/-! ## Operations without handles -/

/-- The operation makes no handle, and releases none. -/
def LeavesHandles (t : Traced α) : Prop :=
  ∀ ks, t.handlesAfter ks = ks

theorem leavesHandles_fail (f : Failure) : LeavesHandles (fail f : Traced α) :=
  fun _ => rfl

theorem leavesHandles_pure (a : α) : LeavesHandles (Pure.pure a : Traced α) :=
  fun _ => rfl

theorem leavesHandles_liftM (r : Except Failure α) : LeavesHandles (liftM r : Traced α) :=
  fun _ => rfl

theorem leavesHandles_debug (source : LogSource) (text : String) :
    LeavesHandles (debug source text) :=
  fun _ => rfl

theorem IsQuiet.leavesHandles (h : t.IsQuiet) : t.LeavesHandles := by
  obtain ⟨r, es⟩ := t
  intro ks
  unfold handlesAfter
  induction es with
  | nil => rfl
  | cons e es ih =>
    obtain ⟨⟨record, rfl⟩, hes⟩ := List.forall_mem_cons.1 h
    exact ih hes

theorem LeavesHandles.bind {next : α → Traced β} (ht : t.LeavesHandles)
    (hnext : ∀ a, (next a).LeavesHandles) : (t >>= next).LeavesHandles := by
  intro ks
  cases hr : t.result with
  | error f => rw [handlesAfter_bind_error hr, ht]
  | ok a => rw [handlesAfter_bind_ok hr, ht, hnext]

/-! ## Operations that make a handle -/

/-- The operation makes the handle that it gives, and no other. -/
structure Opens (t : Traced KeyHandle) : Prop where
  opened : ∀ key, t.result = .ok key →
    key.released = false ∧ ∀ ks, t.handlesAfter ks = key :: ks
  failed : ∀ f, t.result = .error f → t.LeavesHandles

theorem opens_fail (f : Failure) : Opens (fail f) := by
  refine ⟨?_, fun _ _ => leavesHandles_fail f⟩
  intro key h
  cases h

theorem LeavesHandles.bind_opens {next : α → Traced KeyHandle} (ht : t.LeavesHandles)
    (hnext : ∀ a, (next a).Opens) : (t >>= next).Opens := by
  cases hr : t.result with
  | error f =>
    have hfail : (t >>= next).result = .error f := by rw [result_bind, hr]; rfl
    refine ⟨fun key hkey => ?_, fun _ _ ks => ?_⟩
    · rw [hfail] at hkey
      cases hkey
    · rw [handlesAfter_bind_error hr, ht]
  | ok a =>
    have hok : (t >>= next).result = (next a).result := by rw [result_bind, hr]; rfl
    have hafter : ∀ ks, (t >>= next).handlesAfter ks = (next a).handlesAfter ks := by
      intro ks
      rw [handlesAfter_bind_ok hr, ht]
    refine ⟨fun key hkey => ?_, fun f hf ks => ?_⟩
    · obtain ⟨hfresh, hopened⟩ := (hnext a).opened key (hok.symm.trans hkey)
      exact ⟨hfresh, fun ks => (hafter ks).trans (hopened ks)⟩
    · exact (hafter ks).trans ((hnext a).failed f (hok.symm.trans hf) ks)

/-! ## Operations that erase their handle -/

/-- The operation makes at most one handle, and has erased it in the end. -/
def ErasesKey (t : Traced α) : Prop :=
  ∀ ks, t.handlesAfter ks = ks ∨ ∃ key, key.IsErased ∧ t.handlesAfter ks = key :: ks

theorem ErasesKey.isErased (h : t.ErasesKey) : ∀ key ∈ t.handles, key.IsErased := by
  rcases h [] with hnone | ⟨key, hkey, hone⟩
  · simp [handles, hnone]
  · simpa [handles, hone] using hkey

theorem ErasesKey.length_le (h : t.ErasesKey) : t.handles.length ≤ 1 := by
  rcases h [] with hnone | ⟨key, -, hone⟩
  · simp [handles, hnone]
  · simp [handles, hone]

theorem LeavesHandles.erasesKey (h : t.LeavesHandles) : t.ErasesKey :=
  fun ks => .inl (h ks)

theorem LeavesHandles.bind_erasesKey {next : α → Traced β} (ht : t.LeavesHandles)
    (hnext : ∀ a, (next a).ErasesKey) : (t >>= next).ErasesKey := by
  cases hr : t.result with
  | error f =>
    intro ks
    rw [handlesAfter_bind_error hr, ht]
    exact .inl rfl
  | ok a =>
    intro ks
    rw [handlesAfter_bind_ok hr, ht]
    exact hnext a ks

theorem ErasesKey.bind {next : α → Traced β} (ht : t.ErasesKey)
    (hnext : ∀ a, (next a).LeavesHandles) : (t >>= next).ErasesKey := by
  intro ks
  cases hr : t.result with
  | error f =>
    rw [handlesAfter_bind_error hr]
    exact ht ks
  | ok a =>
    rw [handlesAfter_bind_ok hr, hnext]
    exact ht ks

theorem handlesAfter_withKey (key : KeyHandle) (use : KeyHandle → Traced α)
    (hkey : key.released = false) (huse : (use key).LeavesHandles) (ks : List KeyHandle) :
    (withKey key use).handlesAfter (key :: ks) = key.release :: ks := by
  have hused : (use key).events.foldl Event.handlesAfter (key :: ks) = key :: ks := huse (key :: ks)
  unfold handlesAfter withKey releaseEvents
  rw [List.foldl_append, hused, hkey, if_neg Bool.false_ne_true]
  exact closeHandle_release hkey ks

/-- A handle that is made and then used with `withKey` is erased, whatever comes of its use. -/
theorem Opens.erasesKey_withKey {t : Traced KeyHandle} {use : KeyHandle → Traced α}
    (ht : t.Opens) (huse : ∀ key, (use key).LeavesHandles) :
    (t >>= fun key => withKey key use).ErasesKey := by
  intro ks
  cases hr : t.result with
  | error f =>
    rw [handlesAfter_bind_error hr, ht.failed f hr]
    exact .inl rfl
  | ok key =>
    obtain ⟨hfresh, hopened⟩ := ht.opened key hr
    rw [handlesAfter_bind_ok hr, hopened, handlesAfter_withKey key use hfresh (huse key)]
    exact .inr ⟨key.release, KeyHandle.isErased_release hfresh, rfl⟩

end Traced

/-! ## Backends -/

namespace Backend

open Traced

variable {b : Backend}

theorem leavesHandles_run {α : Type} (b : Backend) (use : PrimitiveUse) (wrapped : Failure)
    (r : Except Failure α) : (b.run use wrapped r).LeavesHandles :=
  fun _ => rfl

theorem leavesHandles_publicKey (b : Backend) (key : KeyHandle) :
    (b.publicKey key).LeavesHandles := by
  refine (leavesHandles_liftM _).bind fun key => (leavesHandles_liftM _).bind fun secret => ?_
  exact leavesHandles_run b _ _ _

theorem leavesHandles_sign (b : Backend) (payload : Payload) (key : Option KeyHandle) :
    (b.sign payload key).1.LeavesHandles := by
  unfold sign
  split
  · exact leavesHandles_fail _
  · split
    · exact leavesHandles_fail _
    · refine (leavesHandles_liftM _).bind fun secret => (leavesHandles_run b _ _ _).bind fun _ => ?_
      exact (leavesHandles_debug _ _).bind fun _ => leavesHandles_pure _

/-- Whatever the primitive does, the handle that comes out is the one that was made. -/
theorem opens_deriveKey (b : Backend) (seed : Bytes) (path : String) :
    (b.deriveKey seed path).Opens := by
  unfold deriveKey
  split
  · exact opens_fail _
  · split
    · exact opens_fail _
    · refine (leavesHandles_run b _ _ _).bind_opens fun secret => ?_
      constructor
      · rintro key ⟨⟩
        exact ⟨rfl, fun _ => rfl⟩
      · intro f h
        cases h

/-- A secret that fails the check of its public key is erased. -/
theorem keyFromSecret_of_error {secret : Bytes} {f : Failure}
    (hf : (b.publicKey (.make b.curve "" secret)).result = .error f)
    (hcode : f.code? = some .signingFailure) :
    (b.keyFromSecret secret).result = .error (.invalidPrivateKey b.curve f) ∧
      (b.keyFromSecret secret).handles = [(KeyHandle.make b.curve "" secret).release] := by
  unfold keyFromSecret
  dsimp only
  split
  · rename_i hok
    cases hok.symm.trans hf
  · rename_i f' hf'
    obtain rfl : f' = f := Except.error.inj (hf'.symm.trans hf)
    rw [if_pos hcode]
    refine ⟨rfl, ?_⟩
    exact handlesAfter_withKey (.make b.curve "" secret) b.publicKey rfl
      (leavesHandles_publicKey b _) []

end Backend

/-! ## The key service -/

namespace KeyService

open Traced

theorem opens_derive (s : KeyService) (t : ChainTable) (seed : Bytes) (chain : Value)
    (path : Option String) (choice : CurveChoice) : (s.derive t seed chain path choice).Opens := by
  have hnote : (note .derivation).LeavesHandles := fun _ => rfl
  refine hnote.bind_opens fun _ => (leavesHandles_liftM _).bind_opens fun x => ?_
  refine (leavesHandles_liftM _).bind_opens fun tag => ?_
  exact (leavesHandles_debug _ _).bind_opens fun _ => (s.backend x.1).opens_deriveKey seed x.2

theorem erasesKey_freshPublicKey (s : KeyService) (seed : Bytes) (curve : Curve) (path : String) :
    (s.freshPublicKey seed curve path).ErasesKey :=
  ((s.backend curve).opens_deriveKey seed path).erasesKey_withKey
    (s.backend curve).leavesHandles_publicKey

theorem erasesKey_publicKey (s : KeyService) (t : ChainTable) (cache : Option Cache) (seed : Bytes)
    (chain : Value) (path : Option String) (choice : CurveChoice) :
    (s.publicKey t cache seed chain path choice).1.ErasesKey := by
  unfold publicKey
  split
  · exact (leavesHandles_fail _).erasesKey
  · rename_i key _
    have hfresh := s.erasesKey_freshPublicKey seed key.curve key.path
    unfold lookupOrDerive
    split
    · exact (leavesHandles_pure _).erasesKey
    · dsimp only
      split
      · split
        · exact hfresh
        · exact hfresh
      · exact hfresh

end KeyService

/-! ## Released handles -/

namespace KeyHandle

variable {k : KeyHandle}

/-- What may be done with a handle. -/
inductive Use where
  | release
  | publicKey (b : Backend)
  | sign (b : Backend) (payload : Payload)

/-- The handle after a use. -/
def afterUse (k : KeyHandle) : Use → KeyHandle
  | .release => k.release
  | .publicKey _ | .sign _ _ => k

def afterUses (k : KeyHandle) (uses : List Use) : KeyHandle :=
  uses.foldl afterUse k

theorem release_of_released (h : k.released = true) : k.release = k :=
  if_pos h

theorem afterUse_of_released (h : k.released = true) (u : Use) : k.afterUse u = k := by
  cases u with
  | release => exact release_of_released h
  | publicKey | sign => rfl

theorem afterUses_of_released (h : k.released = true) (uses : List Use) : k.afterUses uses = k := by
  unfold afterUses
  induction uses with
  | nil => rfl
  | cons u uses ih => rw [List.foldl_cons, afterUse_of_released h, ih]

end KeyHandle

/-- The operation is refused as a failure of signing, and hands no secret to a primitive. -/
def Traced.RefusesKey {α : Type} (t : Traced α) : Prop :=
  (∃ f, t.result = .error f ∧ f.code? = some .signingFailure) ∧
    ∀ curve use, Event.primitive curve use ∉ t.events

theorem Traced.refusesKey_fail {α : Type} {f : Failure} (h : f.code? = some .signingFailure) :
    (fail f : Traced α).RefusesKey :=
  ⟨⟨f, rfl, h⟩, fun _ _ => List.not_mem_nil⟩

namespace Backend

open Traced

variable {k : KeyHandle}

theorem eq_of_checkHandle {b : Backend} {k' : KeyHandle} (h : b.checkHandle (some k) = .ok k') :
    k' = k := by
  unfold checkHandle at h
  dsimp only at h
  split at h
  · exact (Except.ok.inj h).symm
  · cases h

theorem material_of_released (h : k.released = true) : k.material = .error .keyReleased :=
  if_pos h

theorem refusesKey_publicKey (b : Backend) (h : k.released = true) :
    (b.publicKey k).RefusesKey := by
  unfold publicKey
  cases hcheck : b.checkHandle (some k) with
  | error f => exact refusesKey_fail (code_of_checkHandle hcheck)
  | ok k' =>
    obtain rfl := eq_of_checkHandle hcheck
    rw [liftM_ok_bind, material_of_released h]
    exact refusesKey_fail rfl

theorem refusesKey_sign (b : Backend) (payload : Payload) (h : k.released = true) :
    (b.sign payload (some k)).1.RefusesKey := by
  unfold sign
  split
  · rename_i f hcheck
    exact refusesKey_fail (code_of_checkHandle hcheck)
  · rename_i k' hcheck
    obtain rfl := eq_of_checkHandle hcheck
    split
    · rename_i f _ hconsume
      exact refusesKey_fail (code_of_consume hconsume)
    · unfold signMessage
      rw [material_of_released h]
      exact refusesKey_fail rfl

end Backend

end Signatory
